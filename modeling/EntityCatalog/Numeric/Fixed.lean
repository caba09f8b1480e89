import EntityCatalog.Numeric.Binary64

namespace EntityCatalog.Binary64

def scaled (places mantissa : Nat) (exponent : Int) : Nat :=
  let (num, den) := ratio mantissa exponent
  roundHalfEven (num * Nat.pow 10 places) den

-- The number nearest to the decimal with so many places that is nearest to a number.
def roundedTo (places : Nat) : Binary64 → Binary64
  | finite s m e => ofRatio s (scaled places m e) (Nat.pow 10 places)
  | x => x

def fixedText (places : Nat) : Binary64 → List Char
  | finite s m e =>
    let ds := Nat.toDigits 10 (scaled places m e)
    let ds := List.replicate (places + 1 - ds.length) '0' ++ ds
    let whole := ds.length - places
    (if s then ['-'] else []) ++ ds.take whole ++ '.' :: ds.drop whole
  | infinite true => ['-', 'i', 'n', 'f']
  | infinite false => ['i', 'n', 'f']
  | nan => ['n', 'a', 'n']

end EntityCatalog.Binary64
