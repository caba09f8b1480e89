import EntityCatalog.Calendar.Moment
import EntityCatalog.Text.Digit

namespace EntityCatalog.Iso

open Text

def readTwo : List Char → Option (Nat × List Char)
  | a :: b :: rest =>
    if isAsciiDigit a ∧ isAsciiDigit b then some (natOfDigits [a, b], rest) else none
  | _ => none

structure Reading where
  hour : Nat
  minute : Nat := 0
  second : Nat := 0
  micro : Nat := 0
  excess : Bool := false

-- One ASCII character left over; a null character counts as the end of the text.
def lastExcess? : List Char → Option Bool
  | [] => some false
  | [c] => if c.toNat < 128 then some (c != '\x00') else none
  | _ => none

def readFraction (r : Reading) (cs : List Char) : Option Reading :=
  let ds := cs.take 6
  if ds.all isAsciiDigit then
    let micro := natOfDigits ds * Nat.pow 10 (6 - ds.length)
    let rest := (cs.drop 6).dropWhile isAsciiDigit
    some { r with micro, excess := rest.head?.any (· != '\x00') }
  else none

def readSecond (r : Reading) (colons : Bool) (cs : List Char) : Option Reading := do
  let (second, rest) ← readTwo cs
  let r := { r with second }
  match lastExcess? rest with
  | some excess => some { r with excess }
  | none =>
    match rest with
    | '.' :: fraction | ',' :: fraction => readFraction r fraction
    | ':' :: fraction => if colons then readFraction r fraction else none
    | _ => if colons then none else readFraction r rest

def readMinute (r : Reading) (colons : Bool) (cs : List Char) : Option Reading := do
  let (minute, rest) ← readTwo cs
  let r := { r with minute }
  match lastExcess? rest with
  | some excess => some { r with excess }
  | none =>
    match rest with
    | '.' :: fraction | ',' :: fraction => readFraction r fraction
    | ':' :: seconds => if colons then readSecond r colons seconds else none
    | _ => if colons then none else readSecond r colons rest

def readTime (cs : List Char) : Option Reading := do
  let (hour, rest) ← readTwo cs
  let r : Reading := { hour }
  match lastExcess? rest with
  | some excess => some { r with excess }
  | none =>
    match rest with
    | ':' :: minutes => readMinute r true minutes
    | '.' :: fraction | ',' :: fraction => readFraction r fraction
    | _ => readMinute r false rest

def startsOffset (c : Char) : Bool := c == '+' || c == '-' || c == 'Z'

-- The distance from the universal clock in microseconds. Minutes and seconds may be any two digits,
-- and a distance of less than a second counts as none.
def readOffset : List Char → Option Int
  | ['Z'] => some 0
  | 'Z' :: c :: _ => if c = '\x00' then some 0 else none
  | sign :: cs => do
    let r ← readTime cs
    if r.excess then none
    else
      let seconds : Int := (r.hour * 3600 + r.minute * 60 + r.second : Nat)
      let micros := if seconds = 0 then 0 else seconds * 1000000 + r.micro
      some (if sign = '-' then -micros else micros)
  | [] => none

def readClock (cs : List Char) : Option (Reading × Option Int) := do
  let time := cs.takeWhile (!startsOffset ·)
  let zone := cs.dropWhile (!startsOffset ·)
  let r ← readTime time
  if zone.isEmpty then
    if r.excess then none else some (r, none)
  else
    let o ← readOffset zone
    some (r, some o)

def readDate : List Char → Option (Date × List Char)
  | y₁ :: y₂ :: y₃ :: y₄ :: '-' :: m₁ :: m₂ :: '-' :: d₁ :: d₂ :: rest =>
    if [y₁, y₂, y₃, y₄, m₁, m₂, d₁, d₂].all isAsciiDigit then
      (Date.ofFields? (natOfDigits [y₁, y₂, y₃, y₄]) (natOfDigits [m₁, m₂])
        (natOfDigits [d₁, d₂])).map (·, rest)
    else none
  | _ => none

def read? (cs : List Char) : Option Moment := do
  let (date, rest) ← readDate cs
  match rest with
  | [] => some (Moment.midnight date)
  | _ :: clock =>
    let (r, offset) ← readClock clock
    Moment.ofFields? date r.hour r.minute r.second r.micro offset

end EntityCatalog.Iso
