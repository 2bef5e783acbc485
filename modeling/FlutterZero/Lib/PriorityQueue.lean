import Mathlib

/-! # Priority queues

A priority queue over a total preorder `r`, kept as a list in which every
element is related to all those after it: `top` is an element that is least, and
`pop` removes exactly the element that `top` returns.  Which of several equally
placed elements comes out first is not part of the contract.
-/

namespace FlutterZero.Lib

variable {α : Type*}

/-- A list of items in which no item is placed after one it should precede. -/
structure PriorityQueue (r : α → α → Prop) where
  items : List α
  ordered : items.Pairwise r

namespace PriorityQueue

variable {r : α → α → Prop}

def empty : PriorityQueue r := ⟨[], .nil⟩

def size (q : PriorityQueue r) : Nat := q.items.length

def top? (q : PriorityQueue r) : Option α := q.items.head?

def pop (q : PriorityQueue r) : PriorityQueue r := ⟨q.items.tail, q.ordered.tail⟩

def push [DecidableRel r] [Std.Total r] [IsTrans α r] (q : PriorityQueue r) (a : α) :
    PriorityQueue r :=
  ⟨q.items.orderedInsert r a, q.ordered.orderedInsert a q.items⟩

@[simp] theorem items_empty : (empty : PriorityQueue r).items = [] := rfl

theorem perm_push [DecidableRel r] [Std.Total r] [IsTrans α r] (q : PriorityQueue r) (a : α) :
    (q.push a).items.Perm (a :: q.items) :=
  List.perm_orderedInsert r a q.items

variable {q : PriorityQueue r} {a : α}

theorem mem_push [DecidableRel r] [Std.Total r] [IsTrans α r] {b : α} :
    b ∈ (q.push a).items ↔ b = a ∨ b ∈ q.items := by
  simp [(q.perm_push a).mem_iff]

theorem items_eq_of_top? (h : q.top? = some a) : q.items = a :: q.pop.items := by
  obtain ⟨items, ordered⟩ := q
  cases items with
  | nil => simp [top?] at h
  | cons b rest =>
    simp only [top?, List.head?_cons, Option.some.injEq] at h
    simp [pop, h]

theorem mem_of_top? (h : q.top? = some a) : a ∈ q.items :=
  List.mem_of_mem_head? h

theorem top?_least [Std.Refl r] (h : q.top? = some a) {b : α} (member : b ∈ q.items) : r a b := by
  have shape := items_eq_of_top? h
  have ordered := q.ordered
  rw [shape] at member ordered
  rcases List.mem_cons.mp member with rfl | later
  · exact Std.Refl.refl b
  · exact (List.pairwise_cons.mp ordered).1 b later

theorem top?_eq_none : q.top? = none ↔ q.items = [] := by
  simp [top?]

theorem mem_takeWhile_of_pairwise {p : α → Bool} {items : List α}
    (closed : items.Pairwise fun a b => p b = true → p a = true) (member : a ∈ items) (holds : p a = true) :
    a ∈ items.takeWhile p := by
  induction items with
  | nil => cases member
  | cons first rest ih =>
    obtain ⟨before, closed⟩ := List.pairwise_cons.mp closed
    rcases List.mem_cons.mp member with rfl | later
    · rw [List.takeWhile_cons_of_pos holds]
      exact List.mem_cons_self
    · rw [List.takeWhile_cons_of_pos (before a later holds)]
      exact List.mem_cons_of_mem _ (ih closed later)

theorem pair_sublist {part : List α} (within : part.Sublist q.items) {b : α}
    (member_a : a ∈ part) (member_b : b ∈ part) (different : a ≠ b) (later : ¬ r b a) : [a, b].Sublist part := by
  have ordered := q.ordered.sublist within
  obtain ⟨before, after, rfl⟩ := List.append_of_mem member_a
  rcases List.mem_append.mp member_b with earlier | behind
  · have misplaced := (List.pairwise_append.mp ordered).2.2 b earlier a List.mem_cons_self
    exact absurd misplaced later
  · have after_a : b ∈ after := (List.mem_cons.mp behind).resolve_left (Ne.symm different)
    exact ((List.singleton_sublist.mpr after_a).cons_cons a).trans (List.sublist_append_right _ _)

end PriorityQueue

end FlutterZero.Lib
