import FlutterZero.ClientWrapper.StandardCodec

/-! # The layout of encoded values

Where in a stream the encoding of a value ends, and where those of the values
inside it are, as arithmetic on the value and the offset it is written at.
-/

namespace FlutterZero.ClientWrapper

def sizeLength (size : Nat) : Nat := if size < 254 then 1 else if size ≤ 0xffff then 3 else 5

def alignUp (alignment offset : Nat) : Nat :=
  if offset % alignment ≠ 0 then offset + (alignment - offset % alignment) else offset

def vectorEnd (typeSize count offset : Nat) : Nat :=
  if count = 0 then offset + sizeLength count
  else alignUp typeSize (offset + sizeLength count) + count * typeSize

/-- The keys and the values of a map, in the order in which they are written. -/
def EncodableMap.flatten : EncodableMap → EncodableList
  | [] => []
  | (key, value) :: rest => key :: value :: EncodableMap.flatten rest

namespace EncodableValue

/-- The values that a list or a map contains, in the order in which they are written. -/
def children : EncodableValue → EncodableList
  | .list items => items
  | .map entries => EncodableMap.flatten entries
  | _ => []

def childrenOffset (value : EncodableValue) (offset : Nat) : Nat :=
  match value with
  | .list items => offset + 1 + sizeLength items.length
  | .map entries => offset + 1 + sizeLength entries.length
  | _ => offset

mutual

def endOffset : EncodableValue → Nat → Nat
  | .null, offset | .bool _, offset | .custom _, offset => offset + 1
  | .int32 _, offset => offset + 5
  | .int64 _, offset => offset + 9
  | .double _, offset => alignUp 8 (offset + 1) + 8
  | .string value, offset => offset + 1 + sizeLength value.length + value.length
  | .uint8Vector value, offset => vectorEnd 1 value.length (offset + 1)
  | .int32Vector value, offset => vectorEnd 4 value.length (offset + 1)
  | .int64Vector value, offset => vectorEnd 8 value.length (offset + 1)
  | .doubleVector value, offset => vectorEnd 8 value.length (offset + 1)
  | .list items, offset => itemsEnd items (offset + 1 + sizeLength items.length)
  | .map entries, offset => pairsEnd entries (offset + 1 + sizeLength entries.length)
  | .floatVector value, offset => vectorEnd 4 value.length (offset + 1)

def itemsEnd : EncodableList → Nat → Nat
  | [], offset => offset
  | item :: rest, offset => itemsEnd rest (item.endOffset offset)

def pairsEnd : EncodableMap → Nat → Nat
  | [], offset => offset
  | (key, value) :: rest, offset => pairsEnd rest (value.endOffset (key.endOffset offset))

end

mutual

def parts : EncodableValue → Nat → List (EncodableValue × Nat)
  | .list items, offset => (.list items, offset) :: partsOfItems items (offset + 1 + sizeLength items.length)
  | .map entries, offset => (.map entries, offset) :: partsOfPairs entries (offset + 1 + sizeLength entries.length)
  | value, offset => [(value, offset)]

def partsOfItems : EncodableList → Nat → List (EncodableValue × Nat)
  | [], _ => []
  | item :: rest, offset => item.parts offset ++ partsOfItems rest (item.endOffset offset)

def partsOfPairs : EncodableMap → Nat → List (EncodableValue × Nat)
  | [], _ => []
  | (key, value) :: rest, offset =>
    key.parts offset ++ value.parts (key.endOffset offset) ++
      partsOfPairs rest (value.endOffset (key.endOffset offset))

end

mutual

/-- The codec has an encoding for the value: there are no custom values, all lengths fit into 32
    bits, and maps are as `std::map` keeps them. -/
def encodable : EncodableValue → Bool
  | .null | .bool _ | .int32 _ | .int64 _ | .double _ => true
  | .string value => value.length < 2 ^ 32
  | .uint8Vector value => value.length < 2 ^ 32
  | .int32Vector value => value.length < 2 ^ 32
  | .int64Vector value => value.length < 2 ^ 32
  | .doubleVector value => value.length < 2 ^ 32
  | .list items => items.length < 2 ^ 32 && itemsEncodable items
  | .map entries => entries.length < 2 ^ 32 && decide (EncodableMap.Sorted entries) && pairsEncodable entries
  | .custom _ => false
  | .floatVector value => value.length < 2 ^ 32

def itemsEncodable : EncodableList → Bool
  | [] => true
  | item :: rest => item.encodable && itemsEncodable rest

def pairsEncodable : EncodableMap → Bool
  | [] => true
  | (key, value) :: rest => key.encodable && value.encodable && pairsEncodable rest

end

/-- The size of the numbers of an empty vector, if they have more than one byte. -/
def emptyVectorTypeSize : EncodableValue → Option Nat
  | .int32Vector [] | .floatVector [] => some 4
  | .int64Vector [] | .doubleVector [] => some 8
  | _ => none

def InStep (value : EncodableValue) (offset : Nat) : Prop :=
  ∀ part ∈ value.parts offset, ∀ typeSize ∈ part.1.emptyVectorTypeSize, typeSize ∣ part.2 + 2

instance (value : EncodableValue) (offset : Nat) : Decidable (value.InStep offset) :=
  inferInstanceAs (Decidable (∀ part ∈ value.parts offset,
    ∀ typeSize ∈ part.1.emptyVectorTypeSize, typeSize ∣ part.2 + 2))

/-! ## Induction -/

mutual

theorem induct {P : EncodableValue → Prop} (step : ∀ value, (∀ child ∈ value.children, P child) → P value) :
    ∀ value, P value
  | .list items => step _ (induct_items step items)
  | .map entries => step _ (induct_pairs step entries)
  | .null | .bool _ | .int32 _ | .int64 _ | .double _ | .string _ | .uint8Vector _ | .int32Vector _
  | .int64Vector _ | .doubleVector _ | .custom _ | .floatVector _ => step _ nofun

theorem induct_items {P : EncodableValue → Prop}
    (step : ∀ value, (∀ child ∈ value.children, P child) → P value) :
    ∀ items : EncodableList, ∀ item ∈ items, P item
  | [] => nofun
  | item :: rest => List.forall_mem_cons.mpr ⟨induct step item, induct_items step rest⟩

theorem induct_pairs {P : EncodableValue → Prop}
    (step : ∀ value, (∀ child ∈ value.children, P child) → P value) :
    ∀ entries : EncodableMap, ∀ item ∈ entries.flatten, P item
  | [] => nofun
  | (key, value) :: rest =>
    List.forall_mem_cons.mpr ⟨induct step key,
      List.forall_mem_cons.mpr ⟨induct step value, induct_pairs step rest⟩⟩

end

/-! ## Maps as lists of their keys and values -/

theorem pairsEnd_eq (entries : EncodableMap) (offset : Nat) :
    pairsEnd entries offset = itemsEnd entries.flatten offset := by
  induction entries generalizing offset with
  | nil => rfl
  | cons entry rest ih => simp [pairsEnd, EncodableMap.flatten, itemsEnd, ih]

theorem partsOfPairs_eq (entries : EncodableMap) (offset : Nat) :
    partsOfPairs entries offset = partsOfItems entries.flatten offset := by
  induction entries generalizing offset with
  | nil => rfl
  | cons entry rest ih => simp [partsOfPairs, EncodableMap.flatten, partsOfItems, ih]

theorem pairsEncodable_eq (entries : EncodableMap) :
    pairsEncodable entries = itemsEncodable entries.flatten := by
  induction entries with
  | nil => rfl
  | cons entry rest ih => simp [pairsEncodable, EncodableMap.flatten, itemsEncodable, ih, Bool.and_assoc]

/-! ## The values inside a value -/

/-- Where values are that are written one after another. -/
def placed : EncodableList → Nat → List (EncodableValue × Nat)
  | [], _ => []
  | item :: rest, offset => (item, offset) :: placed rest (item.endOffset offset)

variable {items : EncodableList} {offset : Nat}

theorem mem_of_mem_placed {part : EncodableValue × Nat} (member : part ∈ placed items offset) : part.1 ∈ items := by
  induction items generalizing offset with
  | nil => cases member
  | cons item rest ih =>
    cases member with
    | head => exact List.mem_cons_self
    | tail _ member => exact List.mem_cons_of_mem _ (ih member)

theorem mem_partsOfItems {part : EncodableValue × Nat} :
    part ∈ partsOfItems items offset ↔ ∃ child ∈ placed items offset, part ∈ child.1.parts child.2 := by
  induction items generalizing offset with
  | nil => simp [partsOfItems, placed]
  | cons item rest ih => simp [partsOfItems, placed, ih]

variable {value : EncodableValue}

theorem mem_parts {part : EncodableValue × Nat} : part ∈ value.parts offset ↔ part = (value, offset) ∨
      ∃ child ∈ placed value.children (value.childrenOffset offset), part ∈ child.1.parts child.2 := by
  rw [← mem_partsOfItems]
  cases value with
  | list items => simp [parts, children, childrenOffset]
  | map entries => simp [parts, children, childrenOffset, partsOfPairs_eq]
  | _ => simp [parts, children, partsOfItems]

theorem itemsEncodable_iff : itemsEncodable items = true ↔ ∀ item ∈ items, item.encodable = true := by
  induction items with
  | nil => simp [itemsEncodable]
  | cons item rest ih => simp [itemsEncodable, ih]

theorem encodable_child {child : EncodableValue} (encodable : value.encodable = true)
    (member : child ∈ value.children) : child.encodable = true := by
  cases value with
  | list items =>
    rw [EncodableValue.encodable, Bool.and_eq_true] at encodable
    exact itemsEncodable_iff.mp encodable.2 child member
  | map entries =>
    rw [EncodableValue.encodable, Bool.and_eq_true, pairsEncodable_eq] at encodable
    exact itemsEncodable_iff.mp encodable.2 child member
  | _ => cases member

theorem parts_of_part (value : EncodableValue) :
    ∀ offset, ∀ part ∈ value.parts offset, part.1.parts part.2 ⊆ value.parts offset ∧
      (value.encodable = true → part.1.encodable = true) := by
  induction value using induct with
  | step value ih =>
    intro offset part member
    obtain rfl | ⟨child, placed, member⟩ := mem_parts.mp member
    · exact ⟨fun _ inside => inside, id⟩
    · have child_mem := mem_of_mem_placed placed
      obtain ⟨inside, encodable⟩ := ih child.1 child_mem child.2 part member
      exact ⟨fun _ deeper => mem_parts.mpr (.inr ⟨child, placed, inside deeper⟩),
        fun whole => encodable (encodable_child whole child_mem)⟩

theorem InStep.part (inStep : value.InStep offset)
    {part : EncodableValue × Nat} (member : part ∈ value.parts offset) : part.1.InStep part.2 :=
  fun _ inside => inStep _ ((parts_of_part value offset part member).1 inside)

theorem self_mem_parts (value : EncodableValue) (offset : Nat) : (value, offset) ∈ value.parts offset :=
  mem_parts.mpr (.inl rfl)

theorem InStep.child (inStep : value.InStep offset)
    {child : EncodableValue × Nat} (member : child ∈ placed value.children (value.childrenOffset offset)) :
    child.1.InStep child.2 :=
  inStep.part (mem_parts.mpr (.inr ⟨child, member, self_mem_parts _ _⟩))

end EncodableValue

end FlutterZero.ClientWrapper
