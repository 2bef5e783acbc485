import Mathlib.Data.List.Infix

/-! # Searching and cutting strings

* `contains`, `replaceFirst` — occurrences of a string in another one;
* `splitLines` — the lines of a text, whichever of the usual ends they have.
-/

namespace FlutterZero.Lib.Strings

def contains (text pattern : String) : Bool := decide (pattern.toList <:+: text.toList)

def replaceFirstIn (pattern replacement : List Char) : List Char → List Char
  | [] => if pattern = [] then replacement else []
  | c :: cs =>
    if pattern.isPrefixOf (c :: cs) then replacement ++ (c :: cs).drop pattern.length
    else c :: replaceFirstIn pattern replacement cs

def replaceFirst (text pattern replacement : String) : String :=
  String.ofList (replaceFirstIn pattern.toList replacement.toList text.toList)

/-- With what has been read of a line in reverse. -/
def splitLinesFrom (line : List Char) : List Char → List String
  | [] => if line = [] then [] else [String.ofList line.reverse]
  | '\r' :: '\n' :: rest => String.ofList line.reverse :: splitLinesFrom [] rest
  | '\r' :: rest => String.ofList line.reverse :: splitLinesFrom [] rest
  | '\n' :: rest => String.ofList line.reverse :: splitLinesFrom [] rest
  | c :: rest => splitLinesFrom (c :: line) rest

def splitLines (text : String) : List String := splitLinesFrom [] text.toList

end FlutterZero.Lib.Strings
