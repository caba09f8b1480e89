import EntityCatalog.Address.Literal
import EntityCatalog.Address.Mapping

namespace EntityCatalog.Address

namespace Url

inductive SchemeKind where
  | web
  | file
  | other
deriving DecidableEq, Repr

def SchemeKind.ofScheme (scheme : String) : SchemeKind :=
  if ["http", "https", "ws", "wss", "ftp"].contains scheme then web
  else if scheme = "file" then file
  else other

def isControlOrBlank (c : Char) : Bool := c.toNat ≤ 0x20

def trim (cs : List Char) : List Char :=
  let cs := (cs.dropWhile isControlOrBlank).reverse.dropWhile isControlOrBlank |>.reverse
  cs.filter fun c => !(c == '\t' || c == '\n' || c == '\r')

def scheme? (cs : List Char) : Option (String × List Char) :=
  match Text.cutAt ':' cs with
  | some (c :: scheme, rest) =>
    if c.isAlpha && scheme.all fun d => d.isAlphanum || d == '+' || d == '-' || d == '.' then
      some (String.ofList ((c :: scheme).map Char.toLower), rest)
    else none
  | _ => none

-- A number as hosts are written in: decimal, or octal after `0`, or hexadecimal after `0x`.
def number? (cs : List Char) : Option Nat :=
  let value (base : Nat) (ds : List Char) : Nat :=
    ds.foldl (fun n d => n * base + ((Table.hexValue? d.toLower).getD 0)) 0
  match cs with
  | [] => none
  | '0' :: x :: ds =>
    if x = 'x' ∨ x = 'X' then
      if ds.all isHexDigit then some (value 16 ds) else none
    else if (x :: ds).all fun d => '0' ≤ d && d ≤ '7' then some (value 8 (x :: ds))
    else none
  | ds => if ds.all isDigit then some (value 10 ds) else none

def hostParts (host : List Char) : List (List Char) :=
  let parts := Text.splitOn '.' host
  if 1 < parts.length && (parts.getLast?).any List.isEmpty then parts.dropLast else parts

def endsInNumber (host : List Char) : Bool :=
  (hostParts host).getLast?.any fun p => (!p.isEmpty && p.all isDigit) || (number? p).isSome

-- Up to four numbers, of which the last one takes the bytes that are left.
def isNumericHost (host : List Char) : Bool :=
  match (hostParts host).mapM number? with
  | none => false
  | some ns =>
    ns.length ≤ 4 && ns.dropLast.all (· < 256) &&
      ns.getLast?.any fun n => n < Nat.pow 256 (5 - ns.length)

def isOctet (cs : List Char) : Bool := (Literal.checkOctet cs).isOk

def groupCount? (last : Bool) (part : List Char) : Option Nat :=
  if !part.isEmpty && part.length ≤ 4 && part.all isHexDigit then some 1
  else if last then
    let octets := Text.splitOn '.' part
    if octets.length = 4 && octets.all isOctet then some 2 else none
  else none

def groupsIn? (last : Bool) (cs : List Char) : Option Nat :=
  if cs.isEmpty then some 0
  else
    let parts := Text.splitOn ':' cs
    let counts := parts.mapIdx fun i p => groupCount? (last && i + 1 = parts.length) p
    (counts.mapM id).map fun ns => ns.foldl (· + ·) 0

def cutAtGap (cs : List Char) : Option (List Char × List Char) :=
  match cs with
  | ':' :: ':' :: rest => some ([], rest)
  | c :: rest => (cutAtGap rest).map fun (a, b) => (c :: a, b)
  | [] => none

def isGroups (cs : List Char) : Bool :=
  match cutAtGap cs with
  | none => groupsIn? true cs == some 8
  | some (before, after) =>
    match groupsIn? false before, groupsIn? true after with
    | some m, some n => m + n ≤ 7
    | _, _ => false

def percentDecode : List UInt8 → List UInt8
  | b :: h :: l :: rest =>
    match Table.hexValue? (Char.ofNat h.toNat).toLower, Table.hexValue? (Char.ofNat l.toNat).toLower with
    | some m, some n =>
      if b = 0x25 then UInt8.ofNat (m * 16 + n) :: percentDecode rest
      else b :: percentDecode (h :: l :: rest)
    | _, _ => b :: percentDecode (h :: l :: rest)
  | bs => bs

def decodeHost? (host : List Char) : Option (List Char) :=
  let bytes := percentDecode (host.flatMap String.utf8EncodeChar)
  (String.fromUTF8? ⟨bytes.toArray⟩).map String.toList

def isForbidden (c : Char) : Bool :=
  c.toNat ≤ 0x20 || c.toNat == 0x7f || "%#/:<>?@[\\]^|".toList.contains c

-- A label in its own script: no mark first, and joiners in their places.
def isLabel (label : List Char) : Bool :=
  let rec joiners (before : List Char) : List Char → Bool
    | [] => true
    | c :: after =>
      (!Label.isJoiner c || Label.fitsJoiner before c after) && joiners (c :: before) after
  !label.head?.any (fun c => (Text.category c).isMark) && joiners [] label

def label? (label : List Char) : Option (List Char) :=
  if Label.encodedMark.isPrefixOf label then
    match if Label.isAscii label then Punycode.decode? (label.drop 4) else none with
    | none => none
    | some cs =>
      let stays := cs.all fun c => mapChar? c == some [c]
      if stays && !Label.isAscii cs && Text.composed cs == cs && !cs.contains '.' && isLabel cs then
        some cs
      else none
  else if isLabel label then some label
  else none

def agree (labels : List (List Char)) : Bool :=
  let ordered (l : List Char) : Bool := (Label.checkOrder l (Label.directionsOf l)).isOk
  !labels.any (fun l => Label.turns (Label.directionsOf l)) ||
    labels.all fun l => l.isEmpty || ordered l

def isHostName (host : List Char) : Bool :=
  match decodeHost? host with
  | none => false
  | some cs =>
    match mapFrom cs 1 cs with
    | .error _ => false
    | .ok mapped =>
      let name := Text.composed mapped
      match (Text.splitOn '.' name).mapM label? with
      | none => false
      | some labels =>
        !name.isEmpty && !name.any isForbidden && agree labels &&
          (!endsInNumber name || isNumericHost name)

def inSquare? : List Char → Option (List Char)
  | '[' :: rest => if rest.getLast? == some ']' then some rest.dropLast else none
  | _ => none

def isHost (kind : SchemeKind) (host : List Char) : Bool :=
  if host.head? == some '[' then (inSquare? host).any isGroups
  else if kind = .other then
    !host.any fun c => "\x00\t\n\r #/:<>?@[\\]^|".toList.contains c
  else isHostName host

def endsAuthority (kind : SchemeKind) (c : Char) : Bool :=
  c == '/' || c == '?' || c == '#' || (c == '\\' && kind != .other)

def cutHost (kind : SchemeKind) (inSquare : Bool) : List Char → List Char × List Char
  | [] => ([], [])
  | c :: cs =>
    if endsAuthority kind c || (c == ':' && !inSquare) then ([], c :: cs)
    else
      let inSquare := if c = '[' then true else if c = ']' then false else inSquare
      let (host, rest) := cutHost kind inSquare cs
      (c :: host, rest)

def isPort (cs : List Char) : Bool :=
  let digits := cs.takeWhile isDigit
  let next := (cs.drop digits.length).head?
  decimalValue digits < 65536 &&
    next.all fun c => c == '/' || c == '\\' || c == '?' || c == '#'

def cutUser (kind : SchemeKind) (cs : List Char) : Option (List Char) × List Char :=
  let authority := cs.takeWhile (!endsAuthority kind ·)
  let host := (authority.reverse.takeWhile (· ≠ '@')).reverse
  if host.length = authority.length then (none, cs)
  else
    let n := authority.length - host.length
    (some (authority.take (n - 1)), cs.drop n)

-- An empty host, which only a user that is nothing or a lone colon may stand before.
def mayLackHost (user : Option (List Char)) (rest : List Char) : Bool :=
  (match user with
    | some [] => rest.isEmpty
    | some u => u == [':']
    | none => true) && rest.head? != some ':'

def isAuthority (kind : SchemeKind) (cs : List Char) : Bool :=
  let (user, cs) := cutUser kind cs
  let (host, rest) := cutHost kind false cs
  if host.isEmpty then kind == .other && mayLackHost user rest
  else
    isHost kind host && match rest with
      | ':' :: port => isPort port
      | _ => true

def isSlash (c : Char) : Bool := c == '/' || c == '\\'

def isDriveLetter (host : List Char) : Bool :=
  match host with
  | [c, d] => c.isAlpha && (d == ':' || d == '|')
  | _ => false

def isFilePath (cs : List Char) : Bool :=
  match cs with
  | a :: b :: rest =>
    if isSlash a && isSlash b then
      let host := rest.takeWhile fun c => !(isSlash c || c == '?' || c == '#')
      host.isEmpty || isDriveLetter host || isHost .file host
    else true
  | _ => true

def isValid (cs : List Char) : Bool :=
  match scheme? (trim cs) with
  | none => false
  | some (scheme, rest) =>
    match SchemeKind.ofScheme scheme with
    | .web => isAuthority .web (rest.dropWhile isSlash)
    | .file => isFilePath rest
    | .other =>
      match rest with
      | '/' :: '/' :: authority => isAuthority .other authority
      | _ => true

end Url

end EntityCatalog.Address
