import EntityCatalog.Text.Cursor
import EntityCatalog.Text.Quoted

namespace EntityCatalog.Toml

abbrev Key := List String

def keyText (k : Key) : String :=
  match k with
  | [part] => "(" ++ part.inQuotes ++ ",)"
  | parts => "(" ++ ", ".intercalate (parts.map String.inQuotes) ++ ")"

inductive Complaint where
  | badStatement
  | noNewline
  | noDelimiter (delimiter : String)
  | badCharacter (c : Char)
  | illegalCharacter (c : Char)
  | declaredTwice (key : Key)
  | overwritten
  | tableNotClosed
  | tableArrayNotClosed
  | frozen (key : Key)
  | redefined (key : Key)
  | noEqualsSign
  | badKeyStart
  | arrayNotClosed
  | inlineTableNotClosed
  | inlineKeyTwice (part : String)
  | strayBackslash
  | badHexDigits
  | noScalarValue
  | stringNotClosed
  | badDate
  | badValue
  | tooManyDigits
deriving DecidableEq, Repr

def Complaint.text : Complaint → String
  | badStatement => "Invalid statement"
  | noNewline => "Expected newline or end of document after a statement"
  | noDelimiter delimiter => "Expected " ++ delimiter.inQuotes
  | badCharacter c => "Found invalid character " ++ c.toString.inQuotes
  | illegalCharacter c => "Illegal character " ++ c.toString.inQuotes
  | declaredTwice key => s!"Cannot declare {keyText key} twice"
  | overwritten => "Cannot overwrite a value"
  | tableNotClosed => "Expected ']' at the end of a table declaration"
  | tableArrayNotClosed => "Expected ']]' at the end of an array declaration"
  | frozen key => "Cannot mutate immutable namespace " ++ keyText key
  | redefined key => "Cannot redefine namespace " ++ keyText key
  | noEqualsSign => "Expected '=' after a key in a key/value pair"
  | badKeyStart => "Invalid initial character for a key part"
  | arrayNotClosed => "Unclosed array"
  | inlineTableNotClosed => "Unclosed inline table"
  | inlineKeyTwice part => "Duplicate inline table key " ++ part.inQuotes
  | strayBackslash => "Unescaped '\\' in a string"
  | badHexDigits => "Invalid hex value"
  | noScalarValue => "Escaped character is not a Unicode scalar value"
  | stringNotClosed => "Unterminated string"
  | badDate => "Invalid date or datetime"
  | badValue => "Invalid value"
  | tooManyDigits => "Exceeds the limit (4300 digits) for integer string conversion"

structure Fault where
  complaint : Complaint
  position : Nat
deriving DecidableEq, Repr

def place (cs : List Char) (position : Nat) : String :=
  if cs.length ≤ position then "end of document"
  else
    let before := cs.take position
    let line := before.count '\n' + 1
    let column := (before.reverse.takeWhile (· ≠ '\n')).length + 1
    s!"line {line}, column {column}"

def Fault.message (f : Fault) (document : List Char) : String :=
  s!"{f.complaint.text} (at {place document f.position})"

abbrev Reads (α : Type) := Except Fault (α × Cursor)

def failAt {α : Type} (c : Cursor) (e : Complaint) : Except Fault α := .error ⟨e, c.position⟩

end EntityCatalog.Toml
