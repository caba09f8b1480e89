import EntityCatalog.Toml.Fault

namespace EntityCatalog.Toml

def isSpace (c : Char) : Bool := c == ' ' || c == '\t'

def isSpaceOrNewline (c : Char) : Bool := isSpace c || c == '\n'

def isControl (c : Char) : Bool := (c.toNat < 0x20 && c != '\t') || c.toNat == 0x7f

def isControlOfLines (c : Char) : Bool := isControl c && c != '\n'

def skipSpace (c : Cursor) : Cursor := c.skipWhile isSpace

def textBefore (delimiter : List Char) : List Char → Option (List Char)
  | [] => if delimiter.isEmpty then some [] else none
  | c :: cs =>
    if delimiter.isPrefixOf (c :: cs) then some []
    else (textBefore delimiter cs).map (c :: ·)

def skipUntil (delimiter : String) (bad : Char → Bool) (needed : Bool) (c : Cursor) :
    Except Fault (List Char × Cursor) :=
  let found := textBefore delimiter.toList c.rest
  let text := found.getD c.rest
  let stop := c.advance text.length
  if found.isNone && needed then failAt stop (.noDelimiter delimiter)
  else
    match text.find? bad with
    | some x => failAt (c.skipWhile (!bad ·)) (.badCharacter x)
    | none => .ok (text, stop)

def skipComment (c : Cursor) : Except Fault Cursor :=
  match c.rest with
  | '#' :: _ => (skipUntil "\n" isControl false (c.advance 1)).map (·.2)
  | _ => .ok c

def skipFiller : Nat → Cursor → Except Fault Cursor
  | 0, c => .ok c
  | fuel + 1, c => do
    let c' ← skipComment (c.skipWhile isSpaceOrNewline)
    if c'.position = c.position then .ok c else skipFiller fuel c'

def readHexChar (n : Nat) (c : Cursor) : Except Fault (Char × Cursor) :=
  let digits := c.rest.take n
  match digits.mapM hexValue? with
  | none => failAt c .badHexDigits
  | some ds =>
    if ds.length ≠ n then failAt c .badHexDigits
    else
      let value := ds.foldl (fun a d => 16 * a + d) 0
      let c := c.advance n
      if value < 0xd800 ∨ (0xe000 ≤ value ∧ value ≤ 0x10ffff) then .ok (Char.ofNat value, c)
      else failAt c .noScalarValue

def escapedChar? (c : Char) : Option Char :=
  [('b', '\x08'), ('t', '\t'), ('n', '\n'), ('f', '\x0c'), ('r', '\r'), ('"', '"'),
   ('\\', '\\')].lookup c

def readEscape (multiline : Bool) (c : Cursor) : Except Fault (List Char × Cursor) :=
  let after := c.advance 2
  match c.rest.drop 1 with
  | [] => failAt after .strayBackslash
  | x :: _ =>
    if multiline && x == '\n' then .ok ([], after.skipWhile isSpaceOrNewline)
    else if multiline && isSpace x then
      let c := skipSpace after
      match c.rest with
      | [] => .ok ([], c)
      | '\n' :: _ => .ok ([], (c.advance 1).skipWhile isSpaceOrNewline)
      | _ => failAt c .strayBackslash
    else if x = 'u' then (readHexChar 4 after).map fun (x, c) => ([x], c)
    else if x = 'U' then (readHexChar 8 after).map fun (x, c) => ([x], c)
    else
      match escapedChar? x with
      | some y => .ok ([y], after)
      | none => failAt after .strayBackslash

-- Reads up to the closing quotes; `fuel` exceeds the length of the rest.
def readBasic (multiline : Bool) : Nat → Cursor → List Char → Except Fault (List Char × Cursor)
  | 0, c, _ => failAt c .stringNotClosed
  | fuel + 1, c, read =>
    match c.rest with
    | [] => failAt c .stringNotClosed
    | x :: _ =>
      if x = '"' then
        if !multiline then .ok (read.reverse, c.advance 1)
        else if c.sees "\"\"\"" then .ok (read.reverse, c.advance 3)
        else readBasic multiline fuel (c.advance 1) (x :: read)
      else if x = '\\' then do
        let (text, c) ← readEscape multiline c
        readBasic multiline fuel c (text.reverse ++ read)
      else if (if multiline then isControlOfLines x else isControl x) then
        failAt c (.illegalCharacter x)
      else readBasic multiline fuel (c.advance 1) (x :: read)

def readBasicLine (c : Cursor) : Except Fault (List Char × Cursor) :=
  readBasic false (c.rest.length + 1) (c.advance 1) []

def readLiteralLine (c : Cursor) : Except Fault (List Char × Cursor) := do
  let (text, c) ← skipUntil "'" isControl true (c.advance 1)
  .ok (text, c.advance 1)

-- Up to two quotes more may end a text of several lines.
def withQuotes (quote : Char) (text : List Char) (c : Cursor) : List Char × Cursor :=
  let extra := (c.rest.take 2).takeWhile (· == quote)
  (text ++ extra, c.advance extra.length)

def readLines (literal : Bool) (c : Cursor) : Except Fault (List Char × Cursor) := do
  let c := c.advance 3
  let c := if c.sees "\n" then c.advance 1 else c
  if literal then
    let (text, c) ← skipUntil "'''" isControlOfLines true c
    .ok (withQuotes '\'' text (c.advance 3))
  else
    let (text, c) ← readBasic true (c.rest.length + 1) c []
    .ok (withQuotes '"' text c)

def isBareKeyChar (c : Char) : Bool := (c.isAlphanum && c.toNat < 0x80) || c == '-' || c == '_'

def startsKey (c : Char) : Bool := isBareKeyChar c || c == '"' || c == '\''

def readKeyPart (c : Cursor) : Except Fault (String × Cursor) :=
  match c.rest with
  | '\'' :: _ => (readLiteralLine c).map fun (cs, c) => (String.ofList cs, c)
  | '"' :: _ => (readBasicLine c).map fun (cs, c) => (String.ofList cs, c)
  | x :: _ =>
    if isBareKeyChar x then
      .ok (String.ofList (c.rest.takeWhile isBareKeyChar), c.skipWhile isBareKeyChar)
    else failAt c .badKeyStart
  | [] => failAt c .badKeyStart

def readKeyRest : Nat → Cursor → List String → Except Fault (Key × Cursor)
  | 0, c, parts => .ok (parts.reverse, c)
  | fuel + 1, c, parts =>
    match c.rest with
    | '.' :: _ => do
      let (part, c) ← readKeyPart (skipSpace (c.advance 1))
      readKeyRest fuel (skipSpace c) (part :: parts)
    | _ => .ok (parts.reverse, c)

def readKey (c : Cursor) : Except Fault (Key × Cursor) := do
  let (part, c') ← readKeyPart c
  readKeyRest (c.rest.length + 1) (skipSpace c') [part]

end EntityCatalog.Toml
