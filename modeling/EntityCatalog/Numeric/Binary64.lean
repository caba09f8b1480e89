namespace EntityCatalog

inductive Binary64 where
  | finite (negative : Bool) (mantissa : Nat) (exponent : Int)
  | infinite (negative : Bool)
  | nan
deriving DecidableEq, Repr, Inhabited

-- Where a number lies on the line: `point u` is the number `u · 2⁻¹⁰⁷⁴`.
inductive Position where
  | below
  | point (units : Int)
  | above
  | nowhere
deriving DecidableEq, Repr

namespace Position

-- Nothing lies before or after a position that is nowhere, itself included.
def lt : Position → Position → Bool
  | below, point _ | below, above | point _, above => true
  | point a, point b => a < b
  | _, _ => false

def same : Position → Position → Bool
  | below, below | above, above => true
  | point a, point b => a == b
  | _, _ => false

def le (a b : Position) : Bool := a.lt b || a.same b

def ofInt (n : Int) : Position := point (n * Int.pow 2 1074)

end Position

def roundHalfEven (num den : Nat) : Nat :=
  let q := num / den
  let r := num % den
  if 2 * r < den then q
  else if den < 2 * r then q + 1
  else if q % 2 = 0 then q else q + 1

namespace Binary64

def zero : Binary64 := finite false 0 (-1074)

def minExponent : Int := -1074

def floorLog (num den : Nat) : Int :=
  let e : Int := (num.log2 : Int) - den.log2
  let fits : Bool :=
    if 0 ≤ e then den * Nat.pow 2 e.toNat ≤ num else den ≤ num * Nat.pow 2 (-e).toNat
  if fits then e else e - 1

def ofRatio (negative : Bool) (num den : Nat) : Binary64 :=
  if num = 0 then finite negative 0 minExponent
  else
    let q : Int := max (floorLog num den - 52) minExponent
    let m := if 0 ≤ q then roundHalfEven num (den * Nat.pow 2 q.toNat)
      else roundHalfEven (num * Nat.pow 2 (-q).toNat) den
    let (m, q) := if m = Nat.pow 2 53 then (Nat.pow 2 52, q + 1) else (m, q)
    if 971 < q then infinite negative else finite negative m q

def ofInt? (n : Int) : Option Binary64 :=
  match ofRatio (decide (n < 0)) n.natAbs 1 with
  | x@(finite ..) => some x
  | _ => none

-- The number nearest to `± digits · 10^exponent`. A magnitude outside of 10^-400 … 10^400 is
-- decided by its number of digits alone, which keeps the powers of ten small.
def ofDecimal (negative : Bool) (digits : Nat) (exponent : Int) : Binary64 :=
  if digits = 0 then finite negative 0 minExponent
  else
    let top : Int := (Nat.toDigits 10 digits).length + exponent
    if 400 < top then infinite negative
    else if top < -400 then finite negative 0 minExponent
    else if 0 ≤ exponent then ofRatio negative (digits * Nat.pow 10 exponent.toNat) 1
    else ofRatio negative digits (Nat.pow 10 (-exponent).toNat)

def position : Binary64 → Position
  | finite s m e =>
    let u : Int := m * Int.pow 2 (e + 1074).toNat
    .point (if s then -u else u)
  | infinite true => .below
  | infinite false => .above
  | nan => .nowhere

def isFinite : Binary64 → Bool
  | finite .. => true
  | _ => false

def neg : Binary64 → Binary64
  | finite s m e => finite (!s) m e
  | infinite s => infinite (!s)
  | nan => nan

def ratio (m : Nat) (e : Int) : Nat × Nat :=
  if 0 ≤ e then (m * Nat.pow 2 e.toNat, 1) else (m, Nat.pow 2 (-e).toNat)

def toInt? : Binary64 → Option Int
  | finite s m e =>
    let (num, den) := ratio m e
    if num % den = 0 then
      let n : Int := (num / den : Nat)
      some (if s then -n else n)
    else none
  | _ => none

def truncate? : Binary64 → Option Int
  | finite s m e =>
    let (num, den) := ratio m e
    let n : Int := (num / den : Nat)
    some (if s then -n else n)
  | _ => none

def ceil? : Binary64 → Option Int
  | finite s m e =>
    let (num, den) := ratio m e
    let n : Int := num
    some (if s then -(n / den) else (n + den - 1) / den)
  | _ => none

end Binary64

end EntityCatalog
