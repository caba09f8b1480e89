import EntityCatalog.Address.Label.Table
import EntityCatalog.Address.Punycode
import EntityCatalog.Text.Category
import EntityCatalog.Text.Normal
import EntityCatalog.Text.Quoted

namespace EntityCatalog.Address

inductive Direction where
  | l | r | al | an | en | es | cs | et | on | bn | nsm
  | other
  | unknown
deriving DecidableEq, Repr

def Direction.ofIndex (n : Nat) : Direction :=
  ([l, r, al, an, en, es, cs, et, on, bn, nsm][n]?).getD (if n = 23 then unknown else other)

def directions : CodeMap := CodeMap.ofPacked directionTable

def direction (c : Char) : Direction := Direction.ofIndex ((directions.get? c).getD 0)

def validSet : CodeSet := CodeSet.ofPacked validTable

def joinsLeftSet : CodeSet := CodeSet.ofPacked joinsLeftTable

def joinsBothSet : CodeSet := CodeSet.ofPacked joinsBothTable

def joinsRightSet : CodeSet := CodeSet.ofPacked joinsRightTable

def transparentSet : CodeSet := CodeSet.ofPacked transparentTable

def greekSet : CodeSet := CodeSet.ofPacked greekTable

def hebrewSet : CodeSet := CodeSet.ofPacked hebrewTable

def eastAsianSet : CodeSet := CodeSet.ofPacked eastAsianTable

inductive HostFault where
  | empty
  | labelTooLong
  | nameTooLong
  | notComposed
  | hyphensInside
  | hyphenAtEnd
  | markFirst
  | invalidChar (c : Char) (position : Nat) (label : List Char)
  | misplacedJoiner (c : Char) (position : Nat) (label : List Char)
  | misplacedChar (c : Char) (position : Nat) (label : List Char)
  | unknownDirection (position : Nat) (label : List Char)
  | firstDirection (label : List Char)
  | rightToLeft (position : Nat)
  | leftToRight (position : Nat)
  | mixedNumerals
  | lastDirection
  | nothingEncoded
  | encodedHyphen
  | notEncoded
  | unmappedChar (c : Char) (position : Nat) (name : List Char)
deriving Repr

namespace HostFault

def code (c : Char) : String :=
  String.ofList ('U' :: '+' :: (Text.hexDigits 4 c.toNat).map Char.toUpper)

def quoted (cs : List Char) : String := String.ofList (Text.quote cs)

def message : HostFault → String
  | empty => "Empty Label"
  | labelTooLong => "Label too long"
  | nameTooLong => "Domain too long"
  | notComposed => "Label must be in Normalization Form C"
  | hyphensInside => "Label has disallowed hyphens in 3rd and 4th position"
  | hyphenAtEnd => "Label must not start or end with a hyphen"
  | markFirst => "Label begins with an illegal combining character"
  | invalidChar c i l => s!"Codepoint {code c} at position {i} of {quoted l} not allowed"
  | misplacedJoiner c i l =>
    s!"Unknown codepoint adjacent to joiner {code c} at position {i} in {quoted l}"
  | misplacedChar c i l => s!"Codepoint {code c} not allowed at position {i} in {quoted l}"
  | unknownDirection i l => s!"Unknown directionality in label {quoted l} at position {i}"
  | firstDirection l => s!"First codepoint in label {quoted l} must be directionality L, R or AL"
  | rightToLeft i => s!"Invalid direction for codepoint at position {i} in a right-to-left label"
  | leftToRight i => s!"Invalid direction for codepoint at position {i} in a left-to-right label"
  | mixedNumerals => "Can not mix numeral types in a right-to-left label"
  | lastDirection => "Label ends with illegal codepoint directionality"
  | nothingEncoded => "Malformed A-label, no Punycode eligible content found"
  | encodedHyphen => "A-label must not end with a hyphen"
  | notEncoded => "Invalid A-label"
  | unmappedChar c i n => s!"Codepoint {code c} not allowed at position {i} in {quoted n}"

end HostFault

namespace Label

def viramaClass : Nat := 9

def joinsAcross (before after : List Char) : Bool :=
  let left := before.dropWhile transparentSet.contains
  let right := after.dropWhile transparentSet.contains
  left.head?.any (fun c => joinsLeftSet.contains c || joinsBothSet.contains c) &&
    right.head?.any fun c => joinsRightSet.contains c || joinsBothSet.contains c

-- A joiner after a mark that ends a syllable, or a non-joiner between joining letters.
def fitsJoiner (before : List Char) (c : Char) (after : List Char) : Bool :=
  before.head?.any (fun p => Text.combiningClass p == viramaClass) ||
    (c.toNat == 0x200c && joinsAcross before after)

def isArabicDigit (c : Char) : Bool := 0x660 ≤ c.toNat && c.toNat ≤ 0x669

def isExtendedArabicDigit (c : Char) : Bool := 0x6f0 ≤ c.toNat && c.toNat ≤ 0x6f9

def isContextual (c : Char) : Bool :=
  let n := c.toNat
  n == 0xb7 || n == 0x375 || n == 0x5f3 || n == 0x5f4 || n == 0x30fb || isArabicDigit c ||
    isExtendedArabicDigit c

def fitsContext (label before : List Char) (c : Char) (after : List Char) : Bool :=
  let n := c.toNat
  if n = 0xb7 then before.head? == some 'l' && after.head? == some 'l'
  else if n = 0x375 then after.head?.any greekSet.contains
  else if n = 0x5f3 ∨ n = 0x5f4 then before.head?.any hebrewSet.contains
  else if n = 0x30fb then label.any fun d => d.toNat != 0x30fb && eastAsianSet.contains d
  else if isArabicDigit c then !label.any isExtendedArabicDigit
  else !label.any isArabicDigit

def isJoiner (c : Char) : Bool := c.toNat == 0x200c || c.toNat == 0x200d

-- The first character that may not stand where it stands; `before` is in reverse.
def checkChars (label : List Char) : (position : Nat) → (before : List Char) → List Char →
    Except HostFault Unit
  | _, _, [] => .ok ()
  | i, before, c :: after =>
    if validSet.contains c then checkChars label (i + 1) (c :: before) after
    else if isJoiner c then
      if fitsJoiner before c after then checkChars label (i + 1) (c :: before) after
      else .error (.misplacedJoiner c i label)
    else if isContextual c then
      if fitsContext label before c after then checkChars label (i + 1) (c :: before) after
      else .error (.misplacedChar c i label)
    else .error (.invalidChar c i label)

def directionsOf (label : List Char) : List (Nat × Direction) :=
  (List.range' 1 label.length).zip (label.map direction)

-- A label ends well if the last of its characters that is not a mark does.
def endsWith (allowed : List Direction) (ds : List (Nat × Direction)) : Bool :=
  match (ds.map (·.2)).reverse.dropWhile (· == .nsm) with
  | d :: _ => allowed.contains d
  | [] => false

def checkRightToLeft (numeral : Option Direction) : List (Nat × Direction) →
    Except HostFault Unit
  | [] => .ok ()
  | (i, d) :: rest =>
    if !([.r, .al, .an, .en, .es, .cs, .et, .on, .bn, .nsm] : List Direction).contains d then
      .error (.rightToLeft i)
    else if d = .an ∨ d = .en then
      match numeral with
      | none => checkRightToLeft (some d) rest
      | some e => if e = d then checkRightToLeft numeral rest else .error .mixedNumerals
    else checkRightToLeft numeral rest

def checkOrder (label : List Char) (ds : List (Nat × Direction)) : Except HostFault Unit := do
  let first := (ds.head?.map (·.2)).getD .unknown
  if first = .r ∨ first = .al then
    checkRightToLeft none ds
    if endsWith [.r, .al, .en, .an] ds then .ok () else .error .lastDirection
  else if first = .l then
    match ds.find? fun d =>
      !([.l, .en, .es, .cs, .et, .on, .bn, .nsm] : List Direction).contains d.2 with
    | some (i, _) => .error (.leftToRight i)
    | none => if endsWith [.l, .en] ds then .ok () else .error .lastDirection
  else .error (.firstDirection label)

-- Some of the characters are written from right to left.
def turns (ds : List (Nat × Direction)) : Bool :=
  ds.any fun d => d.2 == .r || d.2 == .al || d.2 == .an

def checkDirections (label : List Char) : Except HostFault Unit :=
  let ds := directionsOf label
  match ds.find? (·.2 == .unknown) with
  | some (i, _) => .error (.unknownDirection i label)
  | none => if turns ds then checkOrder label ds else .ok ()

def check (label : List Char) : Except HostFault Unit := do
  if label.length > 1024 then .error .labelTooLong
  else if label.isEmpty then .error .empty
  else if label.length > 254 then .error .labelTooLong
  else if Text.composed label != label then .error .notComposed
  else if (label.drop 2).take 2 == ['-', '-'] then .error .hyphensInside
  else if label.head? == some '-' || label.getLast? == some '-' then .error .hyphenAtEnd
  else if label.head?.any fun c => (Text.category c).isMark then .error .markFirst
  else
    checkChars label 1 [] label
    checkDirections label

def isAscii (cs : List Char) : Bool := cs.all (·.toNat < 0x80)

def encodedMark : List Char := ['x', 'n', '-', '-']

def decode (label : List Char) : Except HostFault (List Char) := do
  if label.length > 1024 then .error .labelTooLong
  else if !isAscii label then
    check label
    .ok label
  else
    let label := label.map Char.toLower
    if encodedMark.isPrefixOf label then
      let rest := label.drop 4
      if rest.isEmpty then .error .nothingEncoded
      else if rest.getLast? == some '-' then .error .encodedHyphen
      else
        match Punycode.decode? rest with
        | none => .error .notEncoded
        | some cs =>
          check cs
          .ok cs
    else
      check label
      .ok label

def encode (label : List Char) : Except HostFault (List Char) := do
  if label.length > 1024 then .error .labelTooLong
  else if isAscii label then
    let _ ← decode label
    if 63 < label.length then .error .labelTooLong else .ok label
  else
    check label
    let encoded := encodedMark ++ Punycode.encode label
    if 63 < encoded.length then .error .labelTooLong else .ok encoded

end Label

end EntityCatalog.Address
