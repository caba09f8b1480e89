import EntityCatalog.Calendar.Date

namespace EntityCatalog

def microsPerDay : Nat := 86400000000

-- A date and time on a clock that is `offset` microseconds ahead of the universal one, if known.
structure Moment where
  date : Date
  micros : Nat
  offset : Option Int
  micros_lt : micros < microsPerDay
deriving DecidableEq, Repr

namespace Moment

def ofFields? (date : Date) (hour minute second micro : Nat) (offset : Option Int) :
    Option Moment :=
  let micros := ((hour * 60 + minute) * 60 + second) * 1000000 + micro
  if h : hour < 24 ∧ minute < 60 ∧ second < 60 ∧ micro < 1000000 then
    if offset.all fun o => o.natAbs < microsPerDay then
      some ⟨date, micros, offset, by simp only [micros, microsPerDay]; omega⟩
    else none
  else none

def midnight (date : Date) : Moment := ⟨date, 0, none, by decide⟩

def reading (m : Moment) : Nat := m.date.ordinal * microsPerDay + m.micros

def ofReading? (n : Int) : Option Moment :=
  if n < 0 then none
  else (Date.ofOrdinal? (n.toNat / microsPerDay)).map fun d =>
    ⟨d, n.toNat % microsPerDay, none, Nat.mod_lt _ (by decide)⟩

def clockText (micros : Nat) : List Char :=
  let seconds := micros / 1000000
  Date.padded 2 (seconds / 3600) ++ ':' :: Date.padded 2 (seconds / 60 % 60) ++
    ':' :: Date.padded 2 (seconds % 60)

def microText (micros : Nat) : List Char := '.' :: Date.padded 6 (micros % 1000000)

def localText (m : Moment) : List Char :=
  m.date.text ++ 'T' :: clockText m.micros ++
    if m.micros % 1000000 = 0 then [] else microText m.micros

def fullText (m : Moment) : List Char :=
  m.date.text ++ 'T' :: clockText m.micros ++ microText m.micros

def offsetText (o : Int) : List Char :=
  let n := o.natAbs
  let seconds := n / 1000000
  (if o < 0 then '-' else '+') :: Date.padded 2 (seconds / 3600) ++
    ':' :: Date.padded 2 (seconds / 60 % 60) ++
    (if seconds % 60 = 0 ∧ n % 1000000 = 0 then [] else ':' :: Date.padded 2 (seconds % 60)) ++
    if n % 1000000 = 0 then [] else microText n

def text (m : Moment) : List Char := m.localText ++ (m.offset.map offsetText).getD []

-- The same instant on the universal clock, if it lies in the supported years.
def universal? (m : Moment) : Option Moment :=
  match m.offset with
  | none => some m
  | some o => ofReading? (m.reading - o)

def canonical? (m : Moment) : Option (List Char) :=
  match m.offset with
  | none => some m.localText
  | some _ => m.universal?.map fun u => u.localText ++ ['Z']

end Moment

end EntityCatalog
