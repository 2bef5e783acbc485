import Mathlib

/-! # Trimming

* `trimBy` — what is at both ends of a text is removed;
* `isWhitespaceCode`, `trim` — the white space of Unicode, and the byte order mark.
-/

namespace FlutterZero.Lib

variable {α : Type*}

def trimBy (test : α → Bool) (text : List α) : List α := ((text.dropWhile test).reverse.dropWhile test).reverse

theorem trimBy_of_ends {test : α → Bool} {text : List α} (start : ∀ c ∈ text.head?, test c = false)
    (stop : ∀ c ∈ text.getLast?, test c = false) : trimBy test text = text := by
  have kept : ∀ text : List α, (∀ c ∈ text.head?, test c = false) → text.dropWhile test = text := by
    intro text start
    cases text with
    | nil => rfl
    | cons c text => simp [start c (by simp)]
  rw [trimBy, kept text start, kept text.reverse (by simpa using stop), List.reverse_reverse]

def isWhitespaceCode (code : Nat) : Bool :=
  (0x0009 ≤ code && code ≤ 0x000D) || code = 0x0020 || code = 0x0085 || code = 0x00A0 || code = 0x1680 ||
    (0x2000 ≤ code && code ≤ 0x200A) || code = 0x2028 || code = 0x2029 || code = 0x202F || code = 0x205F ||
    code = 0x3000 || code = 0xFEFF

def isWhitespace (c : Char) : Bool := isWhitespaceCode c.toNat

def trim (text : List Char) : List Char := trimBy isWhitespace text

end FlutterZero.Lib
