import EntityCatalog.Numeric.Notation
import EntityCatalog.Text.Quoted
import EntityCatalog.Value

namespace EntityCatalog.Json

structure Style where
  itemGap : String
  nameGap : String
  indent? : Option Nat
  asciiOnly : Bool
  numbers : RealNotation

-- One line with blanks, ASCII only: the text of stored documents.
def Style.stored : Style := ⟨", ", ": ", none, true, .json⟩

def Style.dense : Style := ⟨",", ":", none, true, .json⟩

def Style.pretty : Style := ⟨",", ": ", some 2, false, .terse⟩

def hex4 (n : Nat) : List Char := '\\' :: 'u' :: Text.hexDigits 4 n

def escapeChar (asciiOnly : Bool) (c : Char) : List Char :=
  if c = '"' then ['\\', '"']
  else if c = '\\' then ['\\', '\\']
  else if c = '\n' then ['\\', 'n']
  else if c = '\r' then ['\\', 'r']
  else if c = '\t' then ['\\', 't']
  else if c = '\x08' then ['\\', 'b']
  else if c = '\x0c' then ['\\', 'f']
  else if c.toNat < 0x20 then hex4 c.toNat
  else if !asciiOnly || c.toNat < 0x7f then [c]
  else if c.toNat ≤ 0xffff then hex4 c.toNat
  else
    -- Code points past the first plane are written as two halves.
    let n := c.toNat - 0x10000
    hex4 (0xd800 + n / 0x400) ++ hex4 (0xdc00 + n % 0x400)

def escapeText (asciiOnly : Bool) (s : String) : String :=
  String.ofList (s.toList.flatMap (escapeChar asciiOnly))

def quoteText (asciiOnly : Bool) (s : String) : String :=
  "\"" ++ escapeText asciiOnly s ++ "\""

def Style.newline (st : Style) (level : Nat) : String :=
  match st.indent? with
  | some n => "\n" ++ String.ofList (List.replicate (n * level) ' ')
  | none => ""

def Style.between (st : Style) (level : Nat) : String := st.itemGap ++ st.newline level

mutual

def write (st : Style) (level : Nat) : Value → String
  | .null => "null"
  | .bool true => "true"
  | .bool false => "false"
  | .int n => toString n
  | .real x => x.text st.numbers
  | .text s => quoteText st.asciiOnly s
  | .date d => quoteText st.asciiOnly (String.ofList d.text)
  | .moment m => quoteText st.asciiOnly (String.ofList m.text)
  | .list [] => "[]"
  | .list (x :: xs) =>
    "[" ++ st.newline (level + 1) ++ write st (level + 1) x ++ writeItems st (level + 1) xs ++
      st.newline level ++ "]"
  | .object [] => "\x7b\x7d"
  | .object ((k, v) :: ms) =>
    "\x7b" ++ st.newline (level + 1) ++ quoteText st.asciiOnly k ++ st.nameGap ++
      write st (level + 1) v ++ writeMembers st (level + 1) ms ++ st.newline level ++ "\x7d"

def writeItems (st : Style) (level : Nat) : List Value → String
  | [] => ""
  | x :: xs => st.between level ++ write st level x ++ writeItems st level xs

def writeMembers (st : Style) (level : Nat) : List (String × Value) → String
  | [] => ""
  | (k, v) :: ms =>
    st.between level ++ quoteText st.asciiOnly k ++ st.nameGap ++ write st level v ++
      writeMembers st level ms

end

end EntityCatalog.Json

def EntityCatalog.Value.toJson (st : EntityCatalog.Json.Style) (v : EntityCatalog.Value) : String :=
  EntityCatalog.Json.write st 0 v
