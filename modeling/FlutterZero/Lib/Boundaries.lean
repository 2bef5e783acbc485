import Mathlib

/-! # Texts written without separators

What is written one after another can only be told apart up to the boundaries.

* `MovesBoundary` — a boundary between neighbours moves, or an empty text goes;
* `flatten_eq_iff` — two sequences of texts are written alike exactly when such moves
  lead from one to the other.
-/

namespace FlutterZero.Lib

variable {α : Type*} {texts others : List (List α)}

inductive MovesBoundary : List (List α) → List (List α) → Prop where
  | shift (before after : List (List α)) (text suffix next : List α) :
      MovesBoundary (before ++ (text ++ suffix) :: next :: after) (before ++ text :: (suffix ++ next) :: after)
  | dropEmpty (before after : List (List α)) : MovesBoundary (before ++ [] :: after) (before ++ after)

theorem MovesBoundary.flatten_eq (moved : MovesBoundary texts others) : texts.flatten = others.flatten := by
  cases moved with
  | shift before after text suffix next => simp
  | dropEmpty before after => simp

theorem MovesBoundary.cons (moved : MovesBoundary texts others) (first : List α) :
    MovesBoundary (first :: texts) (first :: others) := by
  cases moved with
  | shift before after text suffix next => exact .shift (first :: before) after text suffix next
  | dropEmpty before after => exact .dropEmpty (first :: before) after

def SameUpToBoundaries (texts others : List (List α)) : Prop := Relation.EqvGen MovesBoundary texts others

namespace SameUpToBoundaries

theorem flatten_eq (same : SameUpToBoundaries texts others) : texts.flatten = others.flatten := by
  induction same with
  | rel texts others moved => exact moved.flatten_eq
  | refl texts => rfl
  | symm texts others _ ih => exact ih.symm
  | trans texts middle others _ _ first second => exact first.trans second

theorem cons (same : SameUpToBoundaries texts others) (first : List α) :
    SameUpToBoundaries (first :: texts) (first :: others) := by
  induction same with
  | rel texts others moved => exact .rel _ _ (moved.cons first)
  | refl texts => exact .refl _
  | symm texts others _ ih => exact .symm _ _ ih
  | trans texts middle others _ _ before after => exact .trans _ _ _ before after

theorem joined (texts : List (List α)) : SameUpToBoundaries texts [texts.flatten] := by
  induction texts with
  | nil => exact .symm _ _ (.rel _ _ (.dropEmpty [] []))
  | cons first texts ih =>
    have rest : SameUpToBoundaries (first :: texts) [first, texts.flatten] := ih.cons first
    have moved : MovesBoundary [first ++ texts.flatten, []] [first, texts.flatten] := by
      simpa using MovesBoundary.shift [] [] first texts.flatten []
    have dropped : MovesBoundary [first ++ texts.flatten, []] [first ++ texts.flatten] :=
      .dropEmpty [first ++ texts.flatten] []
    exact .trans _ _ _ rest (.trans _ _ _ (.symm _ _ (.rel _ _ moved)) (.rel _ _ dropped))

end SameUpToBoundaries

theorem flatten_eq_iff : texts.flatten = others.flatten ↔ SameUpToBoundaries texts others := by
  constructor
  · intro same
    have joined := SameUpToBoundaries.joined texts
    rw [same] at joined
    exact .trans _ _ _ joined (.symm _ _ (SameUpToBoundaries.joined others))
  · exact SameUpToBoundaries.flatten_eq

end FlutterZero.Lib
