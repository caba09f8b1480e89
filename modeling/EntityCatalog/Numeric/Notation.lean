import EntityCatalog.Numeric.Shortest

namespace EntityCatalog

structure RealNotation where
  leftmost : Int
  rightmost : Int
  exponentDigits : Nat
  plusSign : Bool
  infinity : String
  minusInfinity : String
  nan : String

-- Positional from 10^-4 up to below 10^16; exponents have a sign and two digits.
def RealNotation.plain : RealNotation :=
  { leftmost := -4, rightmost := 16, exponentDigits := 2, plusSign := true,
    infinity := "inf", minusInfinity := "-inf", nan := "nan" }

def RealNotation.json : RealNotation :=
  { RealNotation.plain with infinity := "Infinity", minusInfinity := "-Infinity", nan := "NaN" }

def RealNotation.terse : RealNotation :=
  { leftmost := -5, rightmost := 16, exponentDigits := 1, plusSign := true,
    infinity := "null", minusInfinity := "null", nan := "null" }

namespace Decimal

def positional (ds : List Char) (point : Int) : List Char :=
  if point ≤ 0 then '0' :: '.' :: List.replicate (-point).toNat '0' ++ ds
  else
    let n := point.toNat
    if ds.length ≤ n then ds ++ List.replicate (n - ds.length) '0' ++ ['.', '0']
    else ds.take n ++ '.' :: ds.drop n

def scientific (fmt : RealNotation) (ds : List Char) (exponent : Int) : List Char :=
  let mantissa := match ds with
    | d :: rest@(_ :: _) => d :: '.' :: rest
    | _ => ds
  let sign := if exponent < 0 then ['-'] else if fmt.plusSign then ['+'] else []
  let e := Nat.toDigits 10 exponent.natAbs
  mantissa ++ 'e' :: sign ++ List.replicate (fmt.exponentDigits - e.length) '0' ++ e

def text (fmt : RealNotation) (d : Decimal) : List Char :=
  let ds := Nat.toDigits 10 d.digits
  let point : Int := ds.length + d.exponent
  if d.digits = 0 then ['0', '.', '0']
  else if fmt.leftmost < point ∧ point ≤ fmt.rightmost then positional ds point
  else scientific fmt ds (point - 1)

end Decimal

def Binary64.text (fmt : RealNotation) : Binary64 → String
  | .finite s m e => String.ofList ((if s then ['-'] else []) ++ (Binary64.shortest m e).text fmt)
  | .infinite true => fmt.minusInfinity
  | .infinite false => fmt.infinity
  | .nan => fmt.nan

end EntityCatalog
