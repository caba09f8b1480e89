namespace EntityCatalog

def isLeapYear (year : Nat) : Bool := year % 4 == 0 && (year % 100 != 0 || year % 400 == 0)

def daysInMonth (year : Nat) : Nat → Nat
  | 2 => if isLeapYear year then 29 else 28
  | 4 | 6 | 9 | 11 => 30
  | _ => 31

def daysBeforeYear (year : Nat) : Nat :=
  let y := year - 1
  y * 365 + y / 4 - y / 100 + y / 400

def daysBeforeMonth (year : Nat) : Nat → Nat
  | 0 | 1 => 0
  | m + 1 => daysBeforeMonth year m + daysInMonth year m

structure Date where
  year : Nat
  month : Nat
  day : Nat
  year_pos : 1 ≤ year
  year_le : year ≤ 9999
  month_pos : 1 ≤ month
  month_le : month ≤ 12
  day_pos : 1 ≤ day
  day_le : day ≤ daysInMonth year month
deriving DecidableEq, Repr

namespace Date

def ofFields? (year month day : Nat) : Option Date :=
  if h : 1 ≤ year ∧ year ≤ 9999 ∧ 1 ≤ month ∧ month ≤ 12 ∧ 1 ≤ day ∧ day ≤ daysInMonth year month
  then some ⟨year, month, day, h.1, h.2.1, h.2.2.1, h.2.2.2.1, h.2.2.2.2.1, h.2.2.2.2.2⟩
  else none

-- The number of a day; the first of January of the year 1 has number 1.
def ordinal (d : Date) : Nat := daysBeforeYear d.year + daysBeforeMonth d.year d.month + d.day

def ofOrdinal? (n : Nat) : Option Date :=
  -- 400 years have 146097 days, so the guess is off by at most one.
  let guess := (n - 1) * 400 / 146097
  let year? := [guess, guess + 1, guess + 2].find? fun y =>
    1 ≤ y ∧ daysBeforeYear y < n ∧ n ≤ daysBeforeYear (y + 1)
  year?.bind fun y =>
    let k := n - daysBeforeYear y
    let month? := (List.range' 1 12).find? fun m =>
      daysBeforeMonth y m < k ∧ k ≤ daysBeforeMonth y (m + 1)
    month?.bind fun m => ofFields? y m (k - daysBeforeMonth y m)

def padded (width n : Nat) : List Char :=
  let ds := Nat.toDigits 10 n
  List.replicate (width - ds.length) '0' ++ ds

def text (d : Date) : List Char :=
  padded 4 d.year ++ '-' :: padded 2 d.month ++ '-' :: padded 2 d.day

end Date

end EntityCatalog
