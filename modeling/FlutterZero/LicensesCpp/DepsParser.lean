import FlutterZero.Lib.Nesting

/-! # Dependencies of a DEPS file

`DepsParser::Parse` (`deps_parser.cc`).  A text is a list of characters, as every character that the
parser looks for is ASCII.

The end of the deps block is found before the comments are dropped, and the ends of its values afterwards.
-/

namespace FlutterZero.LicensesCpp.DepsParser

/-! ## The start of the deps block -/

/-- `\s` of RE2. -/
def isSpace (c : Char) : Bool := c = ' ' || c = '\t' || c = '\n' || c = '\x0c' || c = '\r'

/-- What is behind `deps\s*=\s*\{`. -/
def consumeDeps (text : List Char) : Option (List Char) := do
  let rest ← text.dropPrefix? "deps".toList
  let rest ← (rest.dropWhile isSpace).dropPrefix? ['=']
  (rest.dropWhile isSpace).dropPrefix? ['{']

def consumeBehindNewline : List Char → Option (List Char)
  | [] => none
  | c :: rest =>
    if c = '\n' then (consumeDeps rest).or (consumeBehindNewline rest) else consumeBehindNewline rest

/-- `(?:^|\n)deps\s*=\s*\{`, where `^` is only at the start of the text. -/
def findAndConsume (input : List Char) : Option (List Char) := (consumeDeps input).or (consumeBehindNewline input)

/-! ## Its end -/

/-- What is in front of the brace that closes the last open one. -/
def depsContent (braceCount : Nat) : List Char → Option (List Char)
  | [] => none
  | c :: rest =>
    if c = '{' then (depsContent (braceCount + 1) rest).map (c :: ·)
    else if c = '}' then
      if braceCount - 1 = 0 then some [] else (depsContent (braceCount - 1) rest).map (c :: ·)
    else (depsContent braceCount rest).map (c :: ·)

/-! ## Comments -/

/-- Nothing comes behind a newline at the end. -/
def lines : List Char → List (List Char)
  | [] => []
  | c :: rest =>
    if c = '\n' then [] :: lines rest
    else
      match lines rest with
      | [] => [[c]]
      | line :: more => (c :: line) :: more

def isBlank (c : Char) : Bool := c = ' ' || c = '\t'

def cleanLine (line : List Char) : List Char :=
  let line := line.dropWhile isBlank
  if line.head? = some '#' then [] else line ++ ['\n']

def clean (content : List Char) : List Char := (lines content).flatMap cleanLine

/-! ## Entries -/

def behind (c : Char) : List Char → Option (List Char)
  | [] => none
  | d :: rest => if d = c then some rest else behind c rest

/-- The blanks between a colon and a value: `" \t\n"`. -/
def isValueBlank (c : Char) : Bool := c = ' ' || c = '\t' || c = '\n'

/-- A value goes as far as the next comma that is in no brackets, and what is behind it is left. -/
def takeValue (braceLevel bracketLevel : Int) : List Char → List Char × List Char
  | [] => ([], [])
  | c :: rest =>
    if c = ',' ∧ braceLevel = 0 ∧ bracketLevel = 0 then ([], rest)
    else
      let (value, rest) :=
        if c = '{' then takeValue (braceLevel + 1) bracketLevel rest
        else if c = '}' then takeValue (braceLevel - 1) bracketLevel rest
        else if c = '[' then takeValue braceLevel (bracketLevel + 1) rest
        else if c = ']' then takeValue braceLevel (bracketLevel - 1) rest
        else takeValue braceLevel bracketLevel rest
      (c :: value, rest)

def parseEntry (text : List Char) : Option (List Char × List Char × List Char) := do
  let keyStart ← behind '\'' text
  let key := keyStart.takeWhile (· ≠ '\'')
  let keyEnd ← behind '\'' keyStart
  let colon ← behind ':' keyEnd
  let valueStart := colon.dropWhile isValueBlank
  if valueStart = [] then none
  else
    let (value, rest) := takeValue 0 0 valueStart
    return (key, value, rest)

def cipd : List Char := "'dep_type': 'cipd'".toList

def parseEntries : Nat → List Char → List (List Char)
  | 0, _ => []
  | fuel + 1, text =>
    match parseEntry text with
    | none => []
    | some (key, value, rest) =>
      if cipd <:+: value then key :: parseEntries fuel rest else parseEntries fuel rest

/-- There is no more entry than there are characters. -/
def keys (text : List Char) : List (List Char) := parseEntries text.length text

def parse (input : List Char) : List (List Char) :=
  match findAndConsume input with
  | none => []
  | some rest =>
    match depsContent 1 rest with
    | none => []
    | some content => keys (clean content)

end FlutterZero.LicensesCpp.DepsParser
