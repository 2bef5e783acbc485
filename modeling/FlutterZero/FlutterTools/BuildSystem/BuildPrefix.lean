import FlutterZero.Lib.Boundaries
import FlutterZero.Lib.Text

/-! # The name of the build directory

The `Environment` factory names the build directory by a hash of the engine version, the
defines and the output directory, which are written one after another without separators.

* `Configuration.output_of_same` — the order in which the defines were set does not matter;
* `Configuration.output_eq_iff` — only the boundaries between the texts are lost;
* `Configuration.not_toldApart` — so no configuration gets a text of its own;
* `Configuration.exists_collision` — nor one that no other defines get.
-/

namespace FlutterZero.FlutterTools.BuildSystem

open Lib

/-- A Dart map of strings, in the order of insertion. -/
structure Defines where
  entries : List (Utf16 × Utf16)
  distinct : (entries.map Prod.fst).Nodup

namespace Defines

def keys (defines : Defines) : List Utf16 := defines.entries.map Prod.fst

/-- `defines[key]`. -/
def lookup (defines : Defines) (key : Utf16) : Option Utf16 := defines.entries.lookup key

/-- What `write` makes of `defines[key]`, also if that is null. -/
def written (defines : Defines) (key : Utf16) : Utf16 := (defines.lookup key).getD (units ['n', 'u', 'l', 'l'])

def Same (defines defines' : Defines) : Prop := ∀ key, defines.lookup key = defines'.lookup key

end Defines

/-- `String.compareTo`, which goes by the code units. -/
def precedes (left right : Utf16) : Bool := decide (left.map UInt16.toNat ≤ right.map UInt16.toNat)

structure Configuration where
  engineVersion : Option Utf16
  defines : Defines
  outputDir : Utf16

namespace Configuration

def output (config : Configuration) : Utf16 := Id.run do
  let keys := config.defines.keys.mergeSort precedes
  let mut buffer : Utf16 := []
  if let some engineVersion := config.engineVersion then
    buffer := buffer ++ engineVersion
  for key in keys do
    buffer := buffer ++ key
    buffer := buffer ++ config.defines.written key
  buffer := buffer ++ config.outputDir
  return buffer

structure Same (config config' : Configuration) : Prop where
  engineVersion : config.engineVersion = config'.engineVersion
  defines : config.defines.Same config'.defines
  outputDir : config.outputDir = config'.outputDir

def texts (config : Configuration) : List Utf16 :=
  config.engineVersion.toList ++
    ((config.defines.keys.mergeSort precedes).flatMap fun key => [key, config.defines.written key]) ++
      [config.outputDir]

theorem output_eq (config : Configuration) : config.output = config.texts.flatten := by
  have pairs : ∀ keys : List Utf16, (keys.flatMap fun key => [key, config.defines.written key]).flatten =
      (keys.map fun key => key ++ config.defines.written key).flatten := by
    intro keys
    induction keys with
    | nil => rfl
    | cons key keys ih => simp [ih]
  unfold output texts
  cases config.engineVersion with
  | none => simp [pairs]
  | some engineVersion => simp [pairs]

/-! ## The order of the keys -/

theorem precedes_total (left right : Utf16) : precedes left right || precedes right left := by
  simpa [precedes] using le_total (left.map UInt16.toNat) (right.map UInt16.toNat)

theorem precedes_trans {left middle right : Utf16} (first : precedes left middle = true)
    (second : precedes middle right = true) : precedes left right = true := by
  simp only [precedes, decide_eq_true_eq] at first second ⊢
  exact le_trans first second

theorem precedes_antisymm {left right : Utf16} (first : precedes left right = true)
    (second : precedes right left = true) : left = right := by
  simp only [precedes, decide_eq_true_eq] at first second
  exact List.map_injective_iff.mpr (fun _ _ => UInt16.toNat_inj.mp) (le_antisymm first second)

theorem mergeSort_eq_of_perm {keys keys' : List Utf16} (same : keys.Perm keys') :
    keys.mergeSort precedes = keys'.mergeSort precedes := by
  have sorted : ∀ keys : List Utf16, (keys.mergeSort precedes).Pairwise fun left right => precedes left right = true :=
    fun keys => @List.pairwise_mergeSort _ precedes (fun _ _ _ => precedes_trans) precedes_total keys
  have perm : (keys.mergeSort precedes).Perm (keys'.mergeSort precedes) :=
    (List.mergeSort_perm keys _).trans (same.trans (List.mergeSort_perm keys' _).symm)
  exact perm.eq_of_pairwise (fun _ _ _ _ => precedes_antisymm) (sorted keys) (sorted keys')

end Configuration

namespace Defines

theorem mem_keys {defines : Defines} {key : Utf16} : key ∈ defines.keys ↔ (defines.lookup key).isSome = true := by
  unfold keys lookup
  induction defines.entries with
  | nil => simp
  | cons entry entries ih =>
    obtain ⟨first, value⟩ := entry
    by_cases same : key = first
    · simp [same]
    · have different : (key == first) = false := by simpa using same
      simp only [List.map_cons, List.mem_cons, same, false_or, List.lookup_cons, different, ih]

theorem Same.keys_perm {defines defines' : Defines} (same : defines.Same defines') :
    defines.keys.Perm defines'.keys := by
  refine (List.perm_ext_iff_of_nodup defines.distinct defines'.distinct).mpr fun key => ?_
  show key ∈ defines.keys ↔ key ∈ defines'.keys
  rw [mem_keys, mem_keys, same key]

end Defines

namespace Configuration

theorem output_of_same {config config' : Configuration} (same : config.Same config') :
    config.output = config'.output := by
  have keys := mergeSort_eq_of_perm same.defines.keys_perm
  have values : config.defines.written = config'.defines.written := by
    funext key
    rw [Defines.written, Defines.written, same.defines key]
  rw [output_eq, output_eq, texts, texts, same.engineVersion, same.outputDir, keys, values]

/-! ## What is told apart -/

theorem output_eq_iff (config config' : Configuration) :
    config.output = config'.output ↔ SameUpToBoundaries config.texts config'.texts := by
  rw [output_eq, output_eq, flatten_eq_iff]

/-- No other configuration gets the text of this one. -/
def ToldApart (config : Configuration) : Prop :=
  ∀ config' : Configuration, config.output = config'.output → config.Same config'

/-- A define that adds nothing. -/
def withEmptyDefine (config : Configuration) : Configuration :=
  { config with defines := ⟨[([], [])], List.nodup_singleton []⟩ }

/-- All defines become part of the directory. -/
def withDefinesInPath (config : Configuration) : Configuration :=
  { config with
    defines := ⟨[], List.nodup_nil⟩
    outputDir := ((config.defines.keys.mergeSort precedes).flatMap fun key =>
      [key, config.defines.written key]).flatten ++ config.outputDir }

theorem output_withEmptyDefine {config : Configuration} (none : config.defines.keys = []) :
    config.withEmptyDefine.output = config.output := by
  have before : config.texts = config.engineVersion.toList ++ [config.outputDir] := by simp [texts, none]
  rw [output_eq, output_eq, before]
  simp [texts, withEmptyDefine, Defines.written, Defines.keys, Defines.lookup]

theorem defines_withEmptyDefine {config : Configuration} (none : config.defines.keys = []) :
    ¬ config.withEmptyDefine.defines.Same config.defines := by
  intro same
  have isKey : ([] : Utf16) ∈ config.defines.keys := by
    rw [Defines.mem_keys, ← same []]
    rfl
  simp [none] at isKey

theorem output_withDefinesInPath (config : Configuration) : config.withDefinesInPath.output = config.output := by
  simp [output_eq, texts, withDefinesInPath, Defines.keys]

theorem defines_withDefinesInPath {config : Configuration} {key : Utf16} (isKey : key ∈ config.defines.keys) :
    ¬ config.withDefinesInPath.defines.Same config.defines := by
  intro same
  rw [Defines.mem_keys, ← same key] at isKey
  simp [withDefinesInPath, Defines.lookup] at isKey

/-- There is no configuration whose text no other one gets. -/
theorem not_toldApart (config : Configuration) : ¬ config.ToldApart := by
  intro alone
  cases found : config.defines.keys with
  | nil =>
    have same := alone config.withEmptyDefine (output_withEmptyDefine found).symm
    exact defines_withEmptyDefine found fun key => (same.defines key).symm
  | cons key keys =>
    have same := alone config.withDefinesInPath (output_withDefinesInPath config).symm
    have isKey : key ∈ config.defines.keys := by simp [found]
    exact defines_withDefinesInPath isKey fun key => (same.defines key).symm

theorem exists_collision (config : Configuration) :
    ∃ other : Configuration, other.engineVersion = config.engineVersion ∧ ¬ other.defines.Same config.defines ∧
      other.output = config.output := by
  cases found : config.defines.keys with
  | nil => exact ⟨config.withEmptyDefine, rfl, defines_withEmptyDefine found, output_withEmptyDefine found⟩
  | cons key keys =>
    have isKey : key ∈ config.defines.keys := by simp [found]
    exact ⟨config.withDefinesInPath, rfl, defines_withDefinesInPath isKey, output_withDefinesInPath config⟩

def define (key value : List Char) : Configuration where
  engineVersion := some (units ['3', '.', '1'])
  defines := ⟨[(units key, units value)], by simp⟩
  outputDir := units ['/', 'o', 'u', 't']

/-- A letter that goes from the end of a key to the start of its value. -/
theorem not_told_apart : ¬ ∀ config config' : Configuration, config.output = config'.output → config.Same config' := by
  intro always
  have same := always (define ['a', 'b'] ['c']) (define ['a'] ['b', 'c']) (by decide +kernel)
  have value := same.defines (units ['a'])
  revert value
  decide +kernel

end Configuration

end FlutterZero.FlutterTools.BuildSystem
