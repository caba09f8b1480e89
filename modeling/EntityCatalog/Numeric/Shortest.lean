import EntityCatalog.Numeric.Binary64

namespace EntityCatalog

structure Decimal where
  digits : Nat
  exponent : Int
deriving DecidableEq, Repr, Inhabited

namespace Decimal

def trimAux : Nat → Decimal → Decimal
  | 0, d => d
  | fuel + 1, d =>
    if d.digits ≠ 0 ∧ d.digits % 10 = 0 then trimAux fuel ⟨d.digits / 10, d.exponent + 1⟩ else d

def trim (d : Decimal) : Decimal := trimAux d.digits.log2 d

end Decimal

namespace Binary64

-- The reals that round to `m · 2^q`, in quarters of `2^q`, and whether the ends belong to them.
-- Below a power of two the numbers lie twice as close.
def roundingInterval (m : Nat) (q : Int) : Nat × Nat × Bool :=
  let low := if m = Nat.pow 2 52 ∧ minExponent < q then 4 * m - 1 else 4 * m - 2
  (low, 4 * m + 2, m % 2 = 0)

def pointPosition (num den : Nat) : Int :=
  if den ≤ num then (Nat.toDigits 10 (num / den)).length
  else
    match (List.range 400).find? fun j => den ≤ num * Nat.pow 10 (j + 1) with
    | some j => -(j : Int)
    | none => -400

def scaleTen (num den : Nat) (k : Int) : Nat × Nat :=
  if 0 ≤ k then (num * Nat.pow 10 k.toNat, den) else (num, den * Nat.pow 10 (-k).toNat)

-- The point nearest to `m · 2^q` of the grid with `n` digits, if some point of the grid reads back;
-- of two that are equally near the even one.
def onGrid? (m : Nat) (q : Int) (point : Int) (n : Nat) : Option Decimal :=
  let (low, high, closed) := roundingInterval m q
  -- The grid's unit is `10^(point - n)`; everything is scaled so that the unit is one.
  let k : Int := n - point
  let (num, den) := ratio (4 * m) q
  let (num, den) := scaleTen num (4 * den) k
  let (lowNum, lowDen) := ratio low q
  let (lowNum, lowDen) := scaleTen lowNum (4 * lowDen) k
  let (highNum, highDen) := ratio high q
  let (highNum, highDen) := scaleTen highNum (4 * highDen) k
  let inside (d : Nat) : Bool :=
    if closed then lowNum ≤ d * lowDen ∧ d * highDen ≤ highNum
    else lowNum < d * lowDen ∧ d * highDen < highNum
  let near := roundHalfEven num den
  let floor := num / den
  if inside near then some ⟨near, -k⟩
  else if inside floor then some ⟨floor, -k⟩
  else if inside (floor + 1) then some ⟨floor + 1, -k⟩
  else none

def shortest (m : Nat) (q : Int) : Decimal :=
  if m = 0 then ⟨0, 0⟩
  else
    let (num, den) := ratio m q
    let point := pointPosition num den
    match (List.range 17).findSome? fun n => onGrid? m q point (n + 1) with
    | some d => d.trim
    | none => ⟨m, 0⟩

end Binary64

end EntityCatalog
