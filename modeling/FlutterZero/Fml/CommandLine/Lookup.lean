import FlutterZero.Fml.CommandLine
import FlutterZero.Lib.LastOfKey

/-! # Looking up options

`HasOption` looks for the name in an index of strings, and makes the string it looks for from
`name.data()` alone: what is found are the options called as the C string there, whatever the length
of the view is.  `GetOptionValues` compares every name with the view.  The main result says for which
views the two agree (`lookupsAgree_iff`).
-/

namespace FlutterZero.Fml

open Lib

/-- `'\0'`. -/
def nul : UInt8 := 0

/-- A `std::string_view`: the bytes that may be read from `data()` on, the first `size` of which are
    the text. -/
structure StringView where
  memory : Bytes
  size : Nat
  inside : size ≤ memory.length

namespace StringView

def text (view : StringView) : Bytes := view.memory.take view.size

/-- `std::string(view.data())`: all bytes before the first NUL.  `none` where there is none in the
    memory that may be read, so that the constructor runs over its end. -/
def cString (view : StringView) : Option Bytes :=
  (view.memory.findIdx? (· == nul)).map view.memory.take

end StringView

inductive CommandLine.Constructed : CommandLine → Prop
  | empty : Constructed .empty
  | create (argv0 : Bytes) (options : List CommandLine.Option) (positionalArgs : List Bytes) :
      Constructed (.create argv0 options positionalArgs)

/-- `HasOption`, with the index it stores.  The outer `none` stands for a read outside of the memory
    that may be read. -/
def hasOption (commandLine : CommandLine) (name : StringView) : Option (Option Nat) :=
  name.cString.map fun key => commandLine.optionIndex[key]?

/-- `GetOptionValue`: the value that is stored, if any is. -/
def getOptionValue (commandLine : CommandLine) (name : StringView) : Option (Option Bytes) := do
  match ← hasOption commandLine name with
  | none => return none
  | some index =>
    let option ← commandLine.options[index]?
    return some option.value

def getOptionValues (commandLine : CommandLine) (name : StringView) : List Bytes :=
  (commandLine.options.filter fun option : CommandLine.Option => decide (option.name = name.text)).map (·.value)

def getOptionValueWithDefault (commandLine : CommandLine) (name defaultValue : StringView) :
    Option Bytes := do
  match ← hasOption commandLine name with
  | none => return defaultValue.text
  | some index =>
    let option ← commandLine.options[index]?
    return option.value

/-- The look-ups of `name` agree with each other. -/
structure LookupsAgree (commandLine : CommandLine) (name : StringView) : Prop where
  found_iff : ∃ found, hasOption commandLine name = some found ∧
    (found.isSome ↔ getOptionValues commandLine name ≠ [])
  last : ∀ index, hasOption commandLine name = some (some index) →
    LastOfKey CommandLine.Option.name name.text index commandLine.options ∧
    getOptionValue commandLine name = some (getOptionValues commandLine name).getLast? ∧
    ∀ defaultValue, getOptionValueWithDefault commandLine name defaultValue =
      (getOptionValues commandLine name).getLast?

section Lookups

variable {commandLine : CommandLine} {name : StringView} {key : Bytes}

theorem CommandLine.Constructed.optionIndex_eq (constructed : commandLine.Constructed) :
    commandLine.optionIndex = indexByKey CommandLine.Option.name commandLine.options := by
  cases constructed with
  | empty => rfl
  | create argv0 options positionalArgs => rfl

theorem hasOption_eq_some (constructed : commandLine.Constructed) (read : name.cString = some key)
    (index : Nat) :
    hasOption commandLine name = some (some index) ↔
      LastOfKey CommandLine.Option.name key index commandLine.options := by
  rw [hasOption, read, Option.map_some, Option.some.injEq, constructed.optionIndex_eq]
  exact getElem?_indexByKey commandLine.options

theorem hasOption_eq_none (constructed : commandLine.Constructed) (read : name.cString = some key) :
    hasOption commandLine name = some none ↔ key ∉ commandLine.options.map CommandLine.Option.name := by
  rw [hasOption, read, Option.map_some, Option.some.injEq, constructed.optionIndex_eq]
  exact getElem?_indexByKey_eq_none commandLine.options

theorem getOptionValues_ne_nil :
    getOptionValues commandLine name ≠ [] ↔ name.text ∈ commandLine.options.map CommandLine.Option.name := by
  rw [getOptionValues, ne_eq, List.map_eq_nil_iff, List.filter_eq_nil_iff, List.mem_map]
  simp

theorem getOptionValue_of_found {index : Nat} {option : CommandLine.Option}
    (found : hasOption commandLine name = some (some index))
    (at_index : commandLine.options[index]? = some option) :
    getOptionValue commandLine name = some (some option.value) := by
  simp [getOptionValue, found, at_index]

theorem getOptionValueWithDefault_of_found {index : Nat} {option : CommandLine.Option}
    (found : hasOption commandLine name = some (some index))
    (at_index : commandLine.options[index]? = some option) (defaultValue : StringView) :
    getOptionValueWithDefault commandLine name defaultValue = some option.value := by
  simp [getOptionValueWithDefault, found, at_index]

theorem lookupsAgree_of_cString (constructed : commandLine.Constructed)
    (read : name.cString = some name.text) : LookupsAgree commandLine name := by
  refine ⟨?_, fun index found => ?_⟩
  · cases looked : commandLine.optionIndex[name.text]? with
    | none =>
      have notFound : hasOption commandLine name = some none := by simp [hasOption, read, looked]
      have fresh := (hasOption_eq_none constructed read).mp notFound
      refine ⟨none, notFound, ?_⟩
      rw [getOptionValues_ne_nil]
      simpa using fresh
    | some index =>
      have found : hasOption commandLine name = some (some index) := by simp [hasOption, read, looked]
      have last := (hasOption_eq_some constructed read index).mp found
      refine ⟨some index, found, ?_⟩
      rw [getOptionValues_ne_nil]
      simpa using last.mem
  · have last := (hasOption_eq_some constructed read index).mp found
    have at_index := List.getElem?_eq_getElem last.lt_length
    have lastValue : (getOptionValues commandLine name).getLast? =
        (commandLine.options[index]?).map (·.value) := getLast?_filter_key last
    rw [at_index, Option.map_some] at lastValue
    refine ⟨last, ?_, fun defaultValue => ?_⟩
    · rw [getOptionValue_of_found found at_index, lastValue]
    · rw [getOptionValueWithDefault_of_found found at_index, lastValue]

/-- The look-ups agree exactly where a NUL stands behind the name, in memory that may be read, and
    either none stands before it or neither the name nor what stands before the first NUL is the name
    of an option. -/
theorem lookupsAgree_iff (constructed : commandLine.Constructed)
    (name : StringView) :
    LookupsAgree commandLine name ↔
      ∃ key, name.cString = some key ∧
        (key = name.text ∨
          (key ∉ commandLine.options.map CommandLine.Option.name ∧
            name.text ∉ commandLine.options.map CommandLine.Option.name)) := by
  constructor
  · intro agree
    obtain ⟨found, looked, found_iff⟩ := agree.found_iff
    cases read : name.cString with
    | none => simp [hasOption, read] at looked
    | some key =>
      refine ⟨key, rfl, ?_⟩
      cases found with
      | none =>
        right
        refine ⟨(hasOption_eq_none constructed read).mp looked, fun member => ?_⟩
        have values := getOptionValues_ne_nil.mpr member
        simpa using found_iff.mpr values
      | some index =>
        -- one option has both names
        left
        have ofKey := (hasOption_eq_some constructed read index).mp looked
        have ofText := (agree.last index looked).1
        have same := ofKey.keyed.symm.trans ofText.keyed
        simpa using same
  · rintro ⟨key, read, rfl | ⟨keyFresh, textFresh⟩⟩
    · exact lookupsAgree_of_cString constructed read
    · have notFound := (hasOption_eq_none constructed read).mpr keyFresh
      have noValues : ¬ getOptionValues commandLine name ≠ [] :=
        fun values => textFresh (getOptionValues_ne_nil.mp values)
      refine ⟨⟨none, notFound, by simpa using noValues⟩, fun index found => ?_⟩
      rw [notFound] at found
      simp at found

end Lookups

/-- The command line with the one option `--trace`. -/
def traced : CommandLine := .create [] [⟨[116, 114, 97, 99, 101], []⟩] []

/-- The first five characters of `trace-startup`. -/
def partOfLonger : StringView where
  memory := [116, 114, 97, 99, 101, 45, 115, 116, 97, 114, 116, 117, 112, nul]
  size := 5
  inside := by decide

def terminated : StringView where
  memory := [116, 114, 97, 99, 101, nul]
  size := 5
  inside := by decide

theorem lookupsAgree_iff_terminated :
    LookupsAgree traced terminated ↔
      ∃ key, terminated.cString = some key ∧
        (key = terminated.text ∨ (key ∉ traced.options.map CommandLine.Option.name ∧
          terminated.text ∉ traced.options.map CommandLine.Option.name)) :=
  lookupsAgree_iff (.create [] _ []) terminated

/-- The option is there, but not found. -/
theorem not_lookupsAgree_partOfLonger : ¬ LookupsAgree traced partOfLonger := by
  intro agree
  obtain ⟨found, looked, found_iff⟩ := agree.found_iff
  have values : getOptionValues traced partOfLonger ≠ [] := by decide
  have read : partOfLonger.cString = some (partOfLonger.memory.take 13) := by decide
  have notFound : hasOption traced partOfLonger = some none :=
    (hasOption_eq_none (.create [] _ []) read).mpr (by decide)
  rw [looked, Option.some.injEq] at notFound
  rw [notFound] at found_iff
  simpa using found_iff.mpr values

end FlutterZero.Fml
