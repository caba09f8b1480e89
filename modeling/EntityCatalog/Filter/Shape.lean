import EntityCatalog.Calendar.Iso
import EntityCatalog.Text.Blank
import EntityCatalog.Text.Case
import EntityCatalog.Text.Digit
import EntityCatalog.Value

namespace EntityCatalog.Shape

open Text

structure Numeral where
  digits : Nat
  exponent : Int

def digitRun (cs : List Char) : Nat × Nat :=
  let ds := (cs.takeWhile isDecimal).map fun c => (digitValue? c).getD 0
  (ds.foldl (fun n d => n * 10 + d) 0, ds.length)

def exponent? : List Char → Option Int
  | [] => some 0
  | e :: cs =>
    if e = 'e' ∨ e = 'E' then
      let (negative, ds) := match cs with
        | '-' :: ds => (true, ds)
        | '+' :: ds => (false, ds)
        | ds => (false, ds)
      if ds.isEmpty || !ds.all isDecimal then none
      else
        -- More than nine digits are far outside of the numbers' range either way.
        let ds := ds.dropWhile (digitValue? · == some 0)
        let n : Int := if 9 < ds.length then 999999999 else (digitRun ds).1
        some (if negative then -n else n)
    else none

def numeral? (cs : List Char) : Option Numeral :=
  let (whole, n) := digitRun cs
  let rest := cs.drop n
  let (fraction, k, rest) := match rest with
    | '.' :: r =>
      let (f, k) := digitRun r
      (f, k, r.drop k)
    | r => (0, 0, r)
  if n + k = 0 then none
  else (exponent? rest).map fun e => ⟨whole * Nat.pow 10 k + fraction, e - k⟩

def isNumberGap (c : Char) : Bool := isBlank c && !(0x1c ≤ c.toNat && c.toNat ≤ 0x1f)

def trimGaps (cs : List Char) : List Char :=
  ((cs.dropWhile isNumberGap).reverse.dropWhile isNumberGap).reverse

def number? (cs : List Char) : Option Binary64 :=
  let (negative, body) := match trimGaps cs with
    | '-' :: r => (true, r)
    | '+' :: r => (false, r)
    | r => (false, r)
  (numeral? body).bind fun n =>
    let x := Binary64.ofDecimal negative n.digits n.exponent
    if x.isFinite then some x else none

def exactBound : Nat := Nat.pow 2 53

-- A number as an integer where it is one that is told apart from its neighbours.
def numberValue (x : Binary64) : Value :=
  match x.toInt? with
  | some n => if n.natAbs < exactBound then .int n else .real x
  | none => .real x

def value (cs : List Char) : Value :=
  match number? cs with
  | some x => numberValue x
  | none =>
    let lowered := lower cs
    if lowered = "true".toList then .bool true
    else if lowered = "false".toList then .bool false
    else
      match Iso.read? cs with
      | some m => .moment m
      | none => .text (String.ofList cs)

end EntityCatalog.Shape
