import EntityCatalog.Layout.Width.Table

namespace EntityCatalog.Layout

def zeroWidthSet : CodeSet := CodeSet.ofPacked zeroWidthTable

def doubleWidthSet : CodeSet := CodeSet.ofPacked doubleWidthTable

def pictureSet : CodeSet := CodeSet.ofPacked pictureTable

def total (widths : List Nat) : Nat := widths.foldl (· + ·) 0

def isPlainAscii (c : Char) : Bool := 0x20 ≤ c.toNat && c.toNat < 0x7f

def charWidth (c : Char) : Nat :=
  if isPlainAscii c then 1
  else if zeroWidthSet.contains c then 0
  else if doubleWidthSet.contains c then 2
  else 1

def joiner : Char := Char.ofNat 0x200d

def pictureSelector : Char := Char.ofNat 0xfe0f

-- The cells of a text, given the last character of some width before it.
def widthAfter (last : Option Char) : List Char → Nat
  | [] => 0
  | c :: cs =>
    if c = joiner then
      match cs with
      | [] => 0
      | _ :: rest => widthAfter last rest
    else if c = pictureSelector then
      match last with
      | some d => (if pictureSet.contains d then 1 else 0) + widthAfter none cs
      | none => widthAfter none cs
    else if charWidth c = 0 then widthAfter last cs
    else charWidth c + widthAfter (some c) cs

def width (cs : List Char) : Nat := widthAfter none cs

def blanks (n : Nat) : List Char := List.replicate n ' '

-- As much of a text as fits; a blank stands for half of a character.
def fitting : Nat → List Char → List Char
  | _, [] => []
  | room, c :: cs =>
    if charWidth c ≤ room then c :: fitting (room - charWidth c) cs else blanks room

def toWidth (n : Nat) (cs : List Char) : List Char :=
  if n = 0 then []
  else if width cs ≤ n then cs ++ blanks (n - width cs)
  else fitting n cs

end EntityCatalog.Layout
