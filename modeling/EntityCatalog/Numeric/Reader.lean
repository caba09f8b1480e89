import EntityCatalog.Numeric.Binary64
import EntityCatalog.Text.Digit

namespace EntityCatalog.Numeric

open Text

def isTrimmed (c : Char) : Bool :=
  let n := c.toNat
  (9 ≤ n && n ≤ 13) || n == 0x20 || n == 0x85 || n == 0xa0 || n == 0x1680 ||
  (0x2000 ≤ n && n ≤ 0x200a) || n == 0x2028 || n == 0x2029 || n == 0x202f || n == 0x205f ||
  n == 0x3000

def trim (cs : List Char) : List Char :=
  ((cs.dropWhile isTrimmed).reverse.dropWhile isTrimmed).reverse

def isGrouped (cs : List Char) : Bool :=
  let rec go (afterDigit : Bool) : List Char → Bool
    | [] => afterDigit
    | '_' :: cs => afterDigit && go false cs
    | c :: cs => isAsciiDigit c && go true cs
  go false cs

def splitSign : List Char → Bool × List Char
  | '-' :: cs => (true, cs)
  | '+' :: cs => (false, cs)
  | cs => (false, cs)

def dropZeroFraction (cs : List Char) : List Char :=
  match cs.dropWhile (· ≠ '.') with
  | '.' :: zeros => if !zeros.isEmpty && zeros.all (· = '0') then cs.takeWhile (· ≠ '.') else cs
  | _ => cs

inductive IntegerText where
  | value (n : Int)
  | unreadable
  | tooLong
deriving Repr

def readInteger (cs : List Char) : IntegerText :=
  let cs := trim cs
  let (negative, body) := splitSign cs
  let digits := dropZeroFraction body
  if 4300 < cs.length then .tooLong
  else if isGrouped digits then
    let n : Int := natOfDigits (digits.filter (· ≠ '_'))
    .value (if negative then -n else n)
  else .unreadable

def asciiLower (cs : List Char) : List Char := cs.map Char.toLower

-- Digits with or without a point, of which at least one is a digit: all digits, and how many of
-- them stand after the point.
def readPoint? (cs : List Char) : Option (List Char × Nat × List Char) :=
  let whole := cs.takeWhile isAsciiDigit
  let rest := cs.drop whole.length
  let (fraction, rest) := match rest with
    | '.' :: r => (r.takeWhile isAsciiDigit, r.dropWhile isAsciiDigit)
    | r => ([], r)
  if whole.isEmpty && fraction.isEmpty then none
  else some (whole ++ fraction, fraction.length, rest)

def readExponent? : List Char → Option Int
  | [] => some 0
  | e :: cs =>
    if e = 'e' ∨ e = 'E' then
      let (negative, ds) := splitSign cs
      if ds.isEmpty || !ds.all isAsciiDigit then none
      else
        -- More than nine digits are far outside of the numbers' range either way.
        let ds := ds.dropWhile (· = '0')
        let n : Int := if 9 < ds.length then 999999999 else natOfDigits ds
        some (if negative then -n else n)
    else none

def underscoresFit (cs : List Char) : Bool :=
  let rec go (afterDigit : Bool) : List Char → Bool
    | [] => true
    | '_' :: c :: rest => afterDigit && isAsciiDigit c && go true rest
    | ['_'] => false
    | c :: rest => go (isAsciiDigit c) rest
  go false cs

def readReal? (cs : List Char) : Option Binary64 :=
  let cs := trim cs
  if !underscoresFit cs then none
  else
    let (negative, body) := splitSign (cs.filter (· ≠ '_'))
    let word := asciiLower body
    if word = "inf".toList ∨ word = "infinity".toList then some (.infinite negative)
    else if word = "nan".toList then some .nan
    else
      match readPoint? body with
      | none => none
      | some (digits, places, rest) =>
        (readExponent? rest).map fun e =>
          Binary64.ofDecimal negative (natOfDigits digits) (e - places)

end EntityCatalog.Numeric
