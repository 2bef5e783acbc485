import Mathlib

/-! # Encodable values

`EncodableValue` (`encodable_value.h`).  A floating point number is the bit
pattern that represents it, a string its bytes, and a map its entries in the
order of their keys.  Keys are compared as in a build for C++20, where the order
is a partial one: a NaN is not ordered with any number.
-/

namespace FlutterZero.ClientWrapper

inductive EncodableValue where
  | null
  | bool (value : Bool)
  | int32 (value : BitVec 32)
  | int64 (value : BitVec 64)
  | double (value : BitVec 64)
  | string (value : List UInt8)
  | uint8Vector (value : List (BitVec 8))
  | int32Vector (value : List (BitVec 32))
  | int64Vector (value : List (BitVec 64))
  | doubleVector (value : List (BitVec 64))
  | list (value : List EncodableValue)
  | map (value : List (EncodableValue × EncodableValue))
  /-- A `CustomEncodableValue`, which is told from others by where it is. -/
  | custom (address : Nat)
  | floatVector (value : List (BitVec 32))

abbrev EncodableList := List EncodableValue

abbrev EncodableMap := List (EncodableValue × EncodableValue)

/-! ## The order of the keys -/

/-- `std::partial_ordering`. -/
inductive PartialOrdering where
  | less
  | equivalent
  | greater
  | unordered
deriving DecidableEq, Repr

namespace PartialOrdering

def ofOrdering : Ordering → PartialOrdering
  | .lt => .less
  | .eq => .equivalent
  | .gt => .greater

/-- The first comparison decides unless it finds both equivalent. -/
def andThen : PartialOrdering → PartialOrdering → PartialOrdering
  | .equivalent, second => second
  | first, _ => first

end PartialOrdering

/-- `std::lexicographical_compare_three_way`. -/
def lexicographicalCompare {α : Type} (compare : α → α → PartialOrdering) :
    List α → List α → PartialOrdering
  | [], [] => .equivalent
  | [], _ :: _ => .less
  | _ :: _, [] => .greater
  | x :: xs, y :: ys => (compare x y).andThen (lexicographicalCompare compare xs ys)

/-- The value of a floating point number, up to the order, given the number of its bits and of the
    bits of its mantissa; none for a NaN. -/
def floatKey (w mantissa : Nat) (bits : BitVec w) : Option Int :=
  let magnitude := bits.toNat % 2 ^ (w - 1)
  let infinity := 2 ^ (w - 1) - 2 ^ mantissa
  if magnitude > infinity then none
  else some (if bits.msb then -(magnitude : Int) else magnitude)

def compareFloats (w mantissa : Nat) (x y : BitVec w) : PartialOrdering :=
  match floatKey w mantissa x, floatKey w mantissa y with
  | some a, some b => .ofOrdering (compare a b)
  | _, _ => .unordered

def compareDouble : BitVec 64 → BitVec 64 → PartialOrdering := compareFloats 64 52

def compareFloat : BitVec 32 → BitVec 32 → PartialOrdering := compareFloats 32 23

def compareSigned {w : Nat} (x y : BitVec w) : PartialOrdering := .ofOrdering (compare x.toInt y.toInt)

def compareUnsigned {w : Nat} (x y : BitVec w) : PartialOrdering := .ofOrdering (compare x.toNat y.toNat)

namespace EncodableValue

def index : EncodableValue → Nat
  | .null => 0
  | .bool _ => 1
  | .int32 _ => 2
  | .int64 _ => 3
  | .double _ => 4
  | .string _ => 5
  | .uint8Vector _ => 6
  | .int32Vector _ => 7
  | .int64Vector _ => 8
  | .doubleVector _ => 9
  | .list _ => 10
  | .map _ => 11
  | .custom _ => 12
  | .floatVector _ => 13

mutual

/-- `operator<=>`: alternatives are compared by their indexes, and values of one alternative as
    their type compares them. -/
def compareValues : EncodableValue → EncodableValue → PartialOrdering
  | .null, .null => .equivalent
  | .bool x, .bool y => .ofOrdering (compare x y)
  | .int32 x, .int32 y => compareSigned x y
  | .int64 x, .int64 y => compareSigned x y
  | .double x, .double y => compareDouble x y
  | .string x, .string y => lexicographicalCompare (fun a b => .ofOrdering (compare a.toNat b.toNat)) x y
  | .uint8Vector x, .uint8Vector y => lexicographicalCompare compareUnsigned x y
  | .int32Vector x, .int32Vector y => lexicographicalCompare compareSigned x y
  | .int64Vector x, .int64Vector y => lexicographicalCompare compareSigned x y
  | .doubleVector x, .doubleVector y => lexicographicalCompare compareDouble x y
  | .list x, .list y => compareLists x y
  | .map x, .map y => compareMaps x y
  | .custom x, .custom y => .ofOrdering (compare x y)
  | .floatVector x, .floatVector y => lexicographicalCompare compareFloat x y
  | x, y => .ofOrdering (compare x.index y.index)

def compareLists : EncodableList → EncodableList → PartialOrdering
  | [], [] => .equivalent
  | [], _ :: _ => .less
  | _ :: _, [] => .greater
  | x :: xs, y :: ys => (compareValues x y).andThen (compareLists xs ys)

def compareMaps : EncodableMap → EncodableMap → PartialOrdering
  | [], [] => .equivalent
  | [], _ :: _ => .less
  | _ :: _, [] => .greater
  | (k, x) :: xs, (l, y) :: ys =>
    ((compareValues k l).andThen (compareValues x y)).andThen (compareMaps xs ys)

end

/-- `operator<`. -/
def lt (x y : EncodableValue) : Bool := compareValues x y = .less

end EncodableValue

/-- `std::map::emplace`: an entry whose key is there already is not replaced. -/
def EncodableMap.emplace (map : EncodableMap) (key value : EncodableValue) : EncodableMap :=
  match map with
  | [] => [(key, value)]
  | (key', value') :: rest =>
    if key'.lt key then (key', value') :: EncodableMap.emplace rest key value
    else if key.lt key' then (key, value) :: (key', value') :: rest
    else (key', value') :: rest

/-- What holds of the entries of every `std::map`: the keys are in strictly ascending order. -/
def EncodableMap.Sorted (map : EncodableMap) : Prop :=
  map.Pairwise fun entry entry' => entry.1.lt entry'.1

instance (map : EncodableMap) : Decidable map.Sorted := inferInstanceAs (Decidable (List.Pairwise _ _))

theorem EncodableMap.emplace_of_last {map : EncodableMap} {key : EncodableValue}
    (last : ∀ entry ∈ map, entry.1.lt key) (value : EncodableValue) :
    map.emplace key value = map ++ [(key, value)] := by
  induction map with
  | nil => rfl
  | cons entry rest ih =>
    obtain ⟨smaller, last⟩ := List.forall_mem_cons.mp last
    rw [emplace, if_pos smaller, ih last, List.cons_append]

end FlutterZero.ClientWrapper
