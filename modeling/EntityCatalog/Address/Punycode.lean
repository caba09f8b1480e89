namespace EntityCatalog.Address.Punycode

def adapt (delta : Nat) (first : Bool) (length : Nat) : Nat :=
  let delta := if first then delta / 700 else delta / 2
  let rec shrink : Nat → Nat → Nat → Nat
    | 0, _, k => k
    | fuel + 1, delta, k => if 455 < delta then shrink fuel (delta / 35) (k + 36) else
        k + 36 * delta / (delta + 38)
  shrink (delta.log2 + 2) (delta + delta / length) 0

def threshold (place bias : Nat) : Nat := min 26 (max 1 (36 * (place + 1) - bias))

def digitValue? (c : Char) : Option Nat :=
  if 'a' ≤ c ∧ c ≤ 'z' then some (c.toNat - 'a'.toNat)
  else if 'A' ≤ c ∧ c ≤ 'Z' then some (c.toNat - 'A'.toNat)
  else if '0' ≤ c ∧ c ≤ '9' then some (c.toNat - '0'.toNat + 26)
  else none

def digit (n : Nat) : Char := if n < 26 then Char.ofNat (97 + n) else Char.ofNat (22 + n)

def readNumber? (bias : Nat) : (place weight value : Nat) → List Char → Option (Nat × List Char)
  | _, _, _, [] => none
  | place, weight, value, c :: cs =>
    match digitValue? c with
    | none => none
    | some d =>
      let t := threshold place bias
      let value := value + d * weight
      if d < t then some (value, cs) else readNumber? bias (place + 1) (weight * (36 - t)) value cs

-- Inserts the characters that numbers tell of; `fuel` exceeds the length of the rest.
def insertAll? : Nat → (base : List Char) → (code position bias : Nat) → (first : Bool) →
    List Char → Option (List Char)
  | _, base, _, _, _, _, [] => some base
  | 0, _, _, _, _, _, _ :: _ => none
  | fuel + 1, base, code, position, bias, first, rest =>
    match readNumber? bias 0 1 0 rest with
    | none => none
    | some (delta, rest) =>
      -- `position` is one past the last insertion.
      let position := position + delta
      let code := code + position / (base.length + 1)
      let position := position % (base.length + 1)
      if 0x10ffff < code ∨ (0xd800 ≤ code ∧ code < 0xe000) then none
      else
        let base := base.take position ++ Char.ofNat code :: base.drop position
        insertAll? fuel base code (position + 1) (adapt delta first base.length) false rest

def decode? (cs : List Char) : Option (List Char) :=
  if cs.contains '-' then
    let tail := (cs.reverse.takeWhile (· ≠ '-')).reverse
    let base := cs.take (cs.length - tail.length - 1)
    insertAll? (tail.length + 1) base 0x80 0 72 true tail
  else insertAll? (cs.length + 1) [] 0x80 0 72 true cs

def writeNumber (bias : Nat) : Nat → (place n : Nat) → List Char
  | 0, _, _ => []
  | fuel + 1, place, n =>
    let t := threshold place bias
    if n < t then [digit n]
    else digit (t + (n - t) % (36 - t)) :: writeNumber bias fuel (place + 1) ((n - t) / (36 - t))

structure Encoding where
  code : Nat
  delta : Nat
  bias : Nat
  handled : Nat
  first : Bool
  output : List Char

namespace Encoding

def step (e : Encoding) (c : Char) : Encoding :=
  if c.toNat < e.code then { e with delta := e.delta + 1 }
  else if c.toNat = e.code then
    { e with
      output := e.output ++ writeNumber e.bias (e.delta.log2 + 2) 0 e.delta
      bias := adapt e.delta e.first (e.handled + 1)
      delta := 0
      handled := e.handled + 1
      first := false }
  else e

def stepCode (cs : List Char) (e : Encoding) (code : Nat) : Encoding :=
  let e := { e with delta := e.delta + (code - e.code) * (e.handled + 1), code }
  let e := cs.foldl step e
  { e with delta := e.delta + 1, code := code + 1 }

end Encoding

def encode (cs : List Char) : List Char :=
  let basic := cs.filter (·.toNat < 0x80)
  let codes := (((cs.filter (0x80 ≤ ·.toNat)).map Char.toNat).eraseDups).mergeSort
  let start : Encoding := ⟨0x80, 0, 72, basic.length, true, []⟩
  basic ++ (if basic.isEmpty then [] else ['-']) ++ (codes.foldl (Encoding.stepCode cs) start).output

end EntityCatalog.Address.Punycode
