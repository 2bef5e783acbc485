import Mathlib

/-! # Command lines

`CommandLine` (`command_line.cc`): raw arguments are processed one after another
into options and positional arguments, and a command line is turned back into
arguments by `commandLineToArgv`.  The main result is that the arguments a
processed command line is turned into are processed to the same command line
(`commandLineFromIterators_commandLineToArgv`).

A `std::string` is the list of its bytes.
-/

namespace FlutterZero.Fml

abbrev Bytes := List UInt8

/-- `'-'`. -/
def dash : UInt8 := 45

/-- `'='`. -/
def equals : UInt8 := 61

/-- `std::string::find(c, pos)`, with `none` for `npos`. -/
def findFrom (s : Bytes) (c : UInt8) (pos : Nat) : Option Nat :=
  ((s.drop pos).findIdx? (· == c)).map (pos + ·)

structure CommandLine.Option where
  name : Bytes
  value : Bytes
deriving DecidableEq, Repr

/-- The parts should all be empty if `hasArgv0` is false. -/
structure CommandLine where
  hasArgv0 : Bool
  argv0 : Bytes
  options : List CommandLine.Option
  positionalArgs : List Bytes
  /-- Where the last option of each name is. -/
  optionIndex : Std.HashMap Bytes Nat

namespace CommandLine

def empty : CommandLine where
  hasArgv0 := false
  argv0 := []
  options := []
  positionalArgs := []
  optionIndex := ∅

def create (argv0 : Bytes) (options : List Option) (positionalArgs : List Bytes) : CommandLine where
  hasArgv0 := true
  argv0 := argv0
  options := options
  positionalArgs := positionalArgs
  optionIndex := options.zipIdx.foldl (fun index (option, i) => index.insert option.name i) ∅

end CommandLine

structure CommandLineBuilder where
  hasArgv0 : Bool
  argv0 : Bytes
  options : List CommandLine.Option
  positionalArgs : List Bytes
  startedPositionalArgs : Bool
deriving DecidableEq, Repr

namespace CommandLineBuilder

def create : CommandLineBuilder where
  hasArgv0 := false
  argv0 := []
  options := []
  positionalArgs := []
  startedPositionalArgs := false

/-- `positional_args_.push_back(arg)`, with whether it was the first. -/
def pushPositional (b : CommandLineBuilder) (arg : Bytes) : Bool × CommandLineBuilder :=
  (b.positionalArgs.isEmpty,
    { b with startedPositionalArgs := true, positionalArgs := b.positionalArgs ++ [arg] })

def pushOption (b : CommandLineBuilder) (option : CommandLine.Option) : Bool × CommandLineBuilder :=
  (false, { b with options := b.options ++ [option] })

/-- Returns whether `arg` is the first positional argument. -/
def processArg (b : CommandLineBuilder) (arg : Bytes) : Bool × CommandLineBuilder :=
  if !b.hasArgv0 then
    (false, { b with hasArgv0 := true, argv0 := arg })
  else if b.startedPositionalArgs then
    b.pushPositional arg
  else if arg.length < 2 ∨ arg[0]? ≠ some dash ∨ arg[1]? ≠ some dash then
    b.pushPositional arg
  else if arg.length = 2 then
    (false, { b with startedPositionalArgs := true })
  else
    -- the name has at least one character, so the search starts behind it
    match findFrom arg equals 3 with
    | none => b.pushOption ⟨arg.drop 2, []⟩
    | some equalsPos => b.pushOption ⟨(arg.drop 2).take (equalsPos - 2), arg.drop (equalsPos + 1)⟩

def build (b : CommandLineBuilder) : CommandLine :=
  if !b.hasArgv0 then .empty else .create b.argv0 b.options b.positionalArgs

end CommandLineBuilder

/-- Also returns where the first positional argument is, `none` for `last`. -/
def commandLineFromIteratorsFindFirstPositionalArg (args : List Bytes) : CommandLine × Option Nat :=
  let (builder, first) := args.zipIdx.foldl
    (fun (builder, first) (arg, i) =>
      let (isFirst, builder) := builder.processArg arg
      (builder, if isFirst then some i else first))
    (CommandLineBuilder.create, none)
  (builder.build, first)

def commandLineFromIterators (args : List Bytes) : CommandLine :=
  (commandLineFromIteratorsFindFirstPositionalArg args).1

def commandLineFromIteratorsWithArgv0 (argv0 : Bytes) (args : List Bytes) : CommandLine :=
  (args.foldl (fun builder arg => (builder.processArg arg).2)
    (CommandLineBuilder.create.processArg argv0).2).build

def optionToArg (option : CommandLine.Option) : Bytes :=
  if option.value.isEmpty then dash :: dash :: option.name
  else dash :: dash :: (option.name ++ equals :: option.value)

/-- The arguments that the positional ones are turned into: a `--` is inserted where the first one
    would be taken for an option. -/
def positionalToArgv (positionalArgs : List Bytes) : List Bytes :=
  match positionalArgs with
  | [] => []
  | first :: rest =>
    if first.length ≥ 2 ∧ first[0]? = some dash ∧ first[1]? = some dash then
      [dash, dash] :: first :: rest
    else first :: rest

def commandLineToArgv (commandLine : CommandLine) : List Bytes :=
  if !commandLine.hasArgv0 then []
  else
    commandLine.argv0 ::
      (commandLine.options.map optionToArg ++ positionalToArgv commandLine.positionalArgs)

/-! ## Processing a list of arguments -/

namespace CommandLineBuilder

variable {b : CommandLineBuilder}

def processArgs (b : CommandLineBuilder) (args : List Bytes) : CommandLineBuilder :=
  args.foldl (fun builder arg => (builder.processArg arg).2) b

@[simp] theorem processArgs_nil (b : CommandLineBuilder) : b.processArgs [] = b := rfl

@[simp] theorem processArgs_cons (b : CommandLineBuilder) (arg : Bytes) (args : List Bytes) :
    b.processArgs (arg :: args) = (b.processArg arg).2.processArgs args := rfl

theorem processArgs_append (b : CommandLineBuilder) (first second : List Bytes) :
    b.processArgs (first ++ second) = (b.processArgs first).processArgs second :=
  List.foldl_append

end CommandLineBuilder

theorem foldl_processArg (args : List Bytes) (b : CommandLineBuilder) (first : Option Nat) (start : Nat) :
    ((args.zipIdx start).foldl
      (fun (builder, first) (arg, i) =>
        let (isFirst, builder) := builder.processArg arg
        (builder, if isFirst then some i else first)) (b, first)).1 = b.processArgs args := by
  induction args generalizing b first start with
  | nil => rfl
  | cons arg args ih =>
    rw [List.zipIdx_cons, List.foldl_cons, CommandLineBuilder.processArgs_cons]
    exact ih _ _ _

theorem commandLineFromIterators_eq (args : List Bytes) :
    commandLineFromIterators args = (CommandLineBuilder.create.processArgs args).build := by
  rw [commandLineFromIterators, commandLineFromIteratorsFindFirstPositionalArg]
  rw [← foldl_processArg args CommandLineBuilder.create none 0]

/-! ## Options -/

/-- What a processed option looks like: its name is not empty, and has no `=` behind its first
    character. -/
def CommandLine.Option.Processed (option : CommandLine.Option) : Prop :=
  ∃ c rest, option.name = c :: rest ∧ equals ∉ rest

theorem findFrom_cons_three (a b c : UInt8) (rest : Bytes) (x : UInt8) :
    findFrom (a :: b :: c :: rest) x 3 = (rest.findIdx? (· == x)).map (3 + ·) := rfl

theorem findIdx?_equals_eq_none {s : Bytes} (absent : equals ∉ s) : s.findIdx? (· == equals) = none := by
  rw [List.findIdx?_eq_none_iff]
  intro x member
  exact beq_eq_false_iff_ne.mpr fun eq => absent (eq ▸ member)

theorem findIdx?_append_equals {s : Bytes} (absent : equals ∉ s) (value : Bytes) :
    (s ++ equals :: value).findIdx? (· == equals) = some s.length := by
  rw [List.findIdx?_append, findIdx?_equals_eq_none absent]
  simp [List.findIdx?_cons]

theorem equals_not_mem_take {s : Bytes} {i : Nat} (found : s.findIdx? (· == equals) = some i) :
    equals ∉ s.take i := by
  rw [List.findIdx?_eq_some_iff_getElem] at found
  obtain ⟨inside, -, before⟩ := found
  intro member
  obtain ⟨j, jInside, eq⟩ := List.getElem_of_mem member
  rw [List.length_take] at jInside
  rw [List.getElem_take] at eq
  have lt : j < i := by omega
  simpa [eq] using before j lt

namespace CommandLineBuilder

variable {b : CommandLineBuilder}

theorem eq_dash_dash_of_long {arg : Bytes}
    (dashes : ¬ (arg.length < 2 ∨ arg[0]? ≠ some dash ∨ arg[1]? ≠ some dash)) (long : arg.length ≠ 2) :
    ∃ c rest, arg = dash :: dash :: c :: rest := by
  match arg with
  | [] => simp at dashes
  | [_] => simp at dashes
  | [_, _] => simp at long
  | x :: y :: c :: rest =>
    simp only [not_or, not_lt, ne_eq, not_not, List.getElem?_cons_zero, List.getElem?_cons_succ,
      Option.some.injEq] at dashes
    exact ⟨c, rest, by rw [dashes.2.1, dashes.2.2]⟩

theorem processArg_processed (arg : Bytes) (processed : ∀ option ∈ b.options, option.Processed) :
    ∀ option ∈ (b.processArg arg).2.options, option.Processed := by
  unfold processArg
  split
  · exact processed
  · split
    · exact processed
    · split
      · exact processed
      · rename_i dashes
        split
        · exact processed
        · rename_i long
          obtain ⟨c, rest, rfl⟩ := eq_dash_dash_of_long dashes long
          rw [findFrom_cons_three]
          cases found : rest.findIdx? (· == equals) with
          | none =>
            have absent : equals ∉ rest := by
              rw [List.findIdx?_eq_none_iff] at found
              intro member
              simpa using found equals member
            intro option member
            rcases List.mem_append.mp member with old | new
            · exact processed option old
            · rw [List.mem_singleton.mp new]
              exact ⟨c, rest, rfl, absent⟩
          | some i =>
            intro option member
            rcases List.mem_append.mp member with old | new
            · exact processed option old
            · rw [List.mem_singleton.mp new]
              have length : 3 + i - 2 = i + 1 := by omega
              exact ⟨c, rest.take i, by simp [length], equals_not_mem_take found⟩

theorem processArgs_processed (args : List Bytes) (processed : ∀ option ∈ b.options, option.Processed) :
    ∀ option ∈ (b.processArgs args).options, option.Processed := by
  induction args generalizing b with
  | nil => exact processed
  | cons arg args ih => exact ih (processArg_processed arg processed)

theorem processArg_optionToArg {option : CommandLine.Option} (processed : option.Processed)
    (hasArgv0 : b.hasArgv0 = true) (notStarted : b.startedPositionalArgs = false) :
    (b.processArg (optionToArg option)).2 = { b with options := b.options ++ [option] } := by
  obtain ⟨name, value⟩ := option
  obtain ⟨c, rest, rfl, absent⟩ := processed
  cases value with
  | nil =>
    have arg : optionToArg ⟨c :: rest, []⟩ = dash :: dash :: c :: rest := rfl
    simp [processArg, hasArgv0, notStarted, arg, findFrom_cons_three, findIdx?_equals_eq_none absent,
      pushOption]
  | cons v value =>
    have arg : optionToArg ⟨c :: rest, v :: value⟩ =
        dash :: dash :: c :: (rest ++ equals :: v :: value) := rfl
    have nameLength : 3 + rest.length - 2 = rest.length + 1 := by omega
    have behind : 3 + rest.length + 1 = rest.length + 1 + 1 + 1 + 1 := by omega
    simp [processArg, hasArgv0, notStarted, arg, findFrom_cons_three, findIdx?_append_equals absent,
      pushOption, nameLength, behind]

theorem processArgs_options {options : List CommandLine.Option}
    (processed : ∀ option ∈ options, option.Processed) (hasArgv0 : b.hasArgv0 = true)
    (notStarted : b.startedPositionalArgs = false) :
    b.processArgs (options.map optionToArg) = { b with options := b.options ++ options } := by
  induction options generalizing b with
  | nil => simp
  | cons option options ih =>
    have rest := ih (b := { b with options := b.options ++ [option] })
      (fun o member => processed o (List.mem_cons_of_mem _ member)) hasArgv0 notStarted
    rw [List.map_cons, processArgs_cons,
      processArg_optionToArg (processed option List.mem_cons_self) hasArgv0 notStarted, rest]
    simp

/-! ## Positional arguments -/

theorem processArgs_positional (args : List Bytes) (hasArgv0 : b.hasArgv0 = true)
    (started : b.startedPositionalArgs = true) :
    b.processArgs args = { b with positionalArgs := b.positionalArgs ++ args } := by
  induction args generalizing b with
  | nil => simp
  | cons arg args ih =>
    have first : (b.processArg arg).2 = { b with positionalArgs := b.positionalArgs ++ [arg] } := by
      simp [processArg, hasArgv0, started, pushPositional]
    have rest := ih (b := { b with positionalArgs := b.positionalArgs ++ [arg] }) hasArgv0 started
    rw [processArgs_cons, first, rest]
    simp

end CommandLineBuilder

theorem processArgs_positionalToArgv {b : CommandLineBuilder} (positionalArgs : List Bytes)
    (hasArgv0 : b.hasArgv0 = true) (notStarted : b.startedPositionalArgs = false)
    (none : b.positionalArgs = []) :
    ∃ started, b.processArgs (positionalToArgv positionalArgs) =
      { b with positionalArgs := positionalArgs, startedPositionalArgs := started } := by
  cases positionalArgs with
  | nil =>
    refine ⟨false, ?_⟩
    obtain ⟨_, _, _, _, _⟩ := b
    simp_all [positionalToArgv]
  | cons first rest =>
    refine ⟨true, ?_⟩
    simp only [positionalToArgv]
    split
    · -- the `--` switches to positional arguments and is not stored
      have switched : (b.processArg [dash, dash]).2 = { b with startedPositionalArgs := true } := by
        simp [CommandLineBuilder.processArg, hasArgv0, notStarted]
      have others := CommandLineBuilder.processArgs_positional
        (b := { b with startedPositionalArgs := true }) (first :: rest) hasArgv0 rfl
      rw [CommandLineBuilder.processArgs_cons, switched, others]
      simp [none]
    · rename_i plain
      have switched : (b.processArg first).2 =
          { b with startedPositionalArgs := true, positionalArgs := [first] } := by
        have isPositional : first.length < 2 ∨ first[0]? ≠ some dash ∨ first[1]? ≠ some dash := by
          by_contra option
          simp only [not_or, not_lt, ne_eq, not_not] at option
          exact plain option
        rw [CommandLineBuilder.processArg, if_neg (by simp [hasArgv0]), if_neg (by simp [notStarted]),
          if_pos isPositional]
        simp [CommandLineBuilder.pushPositional, none]
      have others := CommandLineBuilder.processArgs_positional
        (b := { b with startedPositionalArgs := true, positionalArgs := [first] }) rest hasArgv0 rfl
      rw [CommandLineBuilder.processArgs_cons, switched, others]
      simp

/-! ## The round trip -/

/-- Whatever the arguments are, the ones that the processed command line is turned into are
    processed to the same command line. -/
theorem commandLineFromIterators_commandLineToArgv (args : List Bytes) :
    commandLineFromIterators (commandLineToArgv (commandLineFromIterators args)) =
      commandLineFromIterators args := by
  rw [commandLineFromIterators_eq args]
  have processed : ∀ option ∈ (CommandLineBuilder.create.processArgs args).options, option.Processed :=
    CommandLineBuilder.processArgs_processed args (by simp [CommandLineBuilder.create])
  generalize CommandLineBuilder.create.processArgs args = b at processed
  unfold CommandLineBuilder.build
  cases hasArgv0 : b.hasArgv0 with
  | false => rfl
  | true =>
    simp only [Bool.not_true, Bool.false_eq_true, if_false]
    have printed : commandLineToArgv (.create b.argv0 b.options b.positionalArgs) =
        b.argv0 :: (b.options.map optionToArg ++ positionalToArgv b.positionalArgs) := rfl
    rw [printed, commandLineFromIterators_eq, CommandLineBuilder.processArgs_cons,
      CommandLineBuilder.processArgs_append]
    have start : (CommandLineBuilder.create.processArg b.argv0).2 = ⟨true, b.argv0, [], [], false⟩ := rfl
    have options : (⟨true, b.argv0, [], [], false⟩ : CommandLineBuilder).processArgs
        (b.options.map optionToArg) = ⟨true, b.argv0, b.options, [], false⟩ := by
      rw [CommandLineBuilder.processArgs_options processed rfl rfl]
      rfl
    obtain ⟨started, positional⟩ := processArgs_positionalToArgv
      (b := ⟨true, b.argv0, b.options, [], false⟩) b.positionalArgs rfl rfl rfl
    rw [start, options, positional]
    rfl

end FlutterZero.Fml
