import EntityCatalog.Text.Category
import EntityCatalog.Text.Name.Table
import EntityCatalog.Text.Quoted

namespace EntityCatalog.Text

-- A character's line of the table of names begins with its code point.
def charName? (c : Char) : Option String :=
  let key := String.ofList (Nat.toDigits 16 c.toNat ++ [' '])
  let found := (nameTable.splitOn "\n").find? fun line => line.startsWith key
  found.map fun line => String.ofList (line.toList.drop key.length)

def charOfName? (name : String) : Option Char :=
  let key := name.toList.map Char.toUpper
  let found := (nameTable.splitOn "\n").find? fun line =>
    (line.toList.dropWhile (· ≠ ' ')).drop 1 == key
  found.map fun line =>
    Char.ofNat (((Table.numbers (String.ofList (line.toList.takeWhile (· ≠ ' '))))[0]?).getD 0)

def codeName (c : Char) : String :=
  let width := if c.toNat < 0xffff then 4 else 8
  String.ofList ('U' :: '+' :: (hexDigits width c.toNat).map Char.toUpper)

def showChar (c : Char) : String :=
  let k := category c
  if c = '\\' then "\"\\\""
  else if k.isLetter || k.isNumber || k.isPunctuation || k.isSymbol then
    (String.ofList [c]).inQuotes
  else (charName? c).getD (codeName c)

end EntityCatalog.Text
