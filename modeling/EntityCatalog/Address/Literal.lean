import EntityCatalog.Text.Quoted
import EntityCatalog.Text.Split

namespace EntityCatalog.Address

def isDigit (c : Char) : Bool := '0' ≤ c && c ≤ '9'

def isHexDigit (c : Char) : Bool := isDigit c || ('a' ≤ c && c ≤ 'f') || ('A' ≤ c && c ≤ 'F')

def decimalValue (cs : List Char) : Nat := cs.foldl (fun n c => n * 10 + (c.toNat - '0'.toNat)) 0

inductive OctetFault where
  | empty
  | notDecimal (octet : List Char)
  | tooManyDigits (octet : List Char)
  | leadingZero (octet : List Char)
  | tooLarge (value : Nat)
deriving DecidableEq, Repr

inductive GroupFault where
  | notHex (group : List Char)
  | tooManyDigits (group : List Char)
deriving DecidableEq, Repr

inductive LiteralFault where
  | empty
  | slash (text : List Char)
  | notFour (text : List Char)
  | octet (fault : OctetFault) (text : List Char)
  | zone (text : List Char)
  | tooFewGroups (text : List Char)
  | tooManyColons (text : List Char)
  | secondGap (text : List Char)
  | leadingColon (text : List Char)
  | trailingColon (text : List Char)
  | uselessGap (text : List Char)
  | notEight (text : List Char)
  | group (fault : GroupFault) (text : List Char)
  | embedded (fault : LiteralFault) (text : List Char)
deriving Repr

def inQuotes (cs : List Char) : String := String.ofList (Text.quote cs)

def OctetFault.message : OctetFault → String
  | empty => "Empty octet not permitted"
  | notDecimal o => "Only decimal digits permitted in " ++ inQuotes o
  | tooManyDigits o => "At most 3 characters permitted in " ++ inQuotes o
  | leadingZero o => "Leading zeros are not permitted in " ++ inQuotes o
  | tooLarge n => s!"Octet {n} (> 255) not permitted"

def GroupFault.message : GroupFault → String
  | notHex g => "Only hex digits permitted in " ++ inQuotes g
  | tooManyDigits g => "At most 4 characters permitted in " ++ inQuotes g

def LiteralFault.message : LiteralFault → String
  | empty => "Address cannot be empty"
  | slash t => "Unexpected '/' in " ++ inQuotes t
  | notFour t => "Expected 4 octets in " ++ inQuotes t
  | octet f t => f.message ++ " in " ++ inQuotes t
  | zone t => s!"Invalid IPv6 address: \"{inQuotes t}\""
  | tooFewGroups t => "At least 3 parts expected in " ++ inQuotes t
  | tooManyColons t => "At most 8 colons permitted in " ++ inQuotes t
  | secondGap t => "At most one '::' permitted in " ++ inQuotes t
  | leadingColon t => "Leading ':' only permitted as part of '::' in " ++ inQuotes t
  | trailingColon t => "Trailing ':' only permitted as part of '::' in " ++ inQuotes t
  | uselessGap t => "Expected at most 7 other parts with '::' in " ++ inQuotes t
  | notEight t => "Exactly 8 parts expected without '::' in " ++ inQuotes t
  | group f t => f.message ++ " in " ++ inQuotes t
  | embedded f t => f.message ++ " in " ++ inQuotes t

namespace Literal

def checkOctet (o : List Char) : Except OctetFault Unit :=
  if o.isEmpty then .error .empty
  else if !o.all isDigit then .error (.notDecimal o)
  else if 3 < o.length then .error (.tooManyDigits o)
  else if o.head? == some '0' && o.length ≠ 1 then .error (.leadingZero o)
  else if 255 < decimalValue o then .error (.tooLarge (decimalValue o))
  else .ok ()

def checkNumbers (text : List Char) : Except LiteralFault Unit :=
  if text.contains '/' then .error (.slash text)
  else if text.isEmpty then .error .empty
  else
    let octets := Text.splitOn '.' text
    if octets.length ≠ 4 then .error (.notFour text)
    else octets.forM fun o => (checkOctet o).mapError (.octet · text)

def checkGroup (g : List Char) : Except GroupFault Unit :=
  if !g.all isHexDigit then .error (.notHex g)
  else if 4 < g.length then .error (.tooManyDigits g)
  else .ok ()

-- The places of empty parts between the first and the last part.
def gaps (parts : List (List Char)) : List Nat :=
  (List.range parts.length).filter fun i =>
    0 < i && i + 1 < parts.length && (parts[i]?).any List.isEmpty

def checkParts (text : List Char) (parts : List (List Char)) : Except LiteralFault Unit :=
  let first := (parts.head?).getD []
  let last := (parts.getLast?).getD []
  let groups (ps : List (List Char)) : Except LiteralFault Unit :=
    ps.forM fun p => (checkGroup p).mapError (.group · text)
  if 9 < parts.length then .error (.tooManyColons text)
  else
    match gaps parts with
    | [] =>
      if parts.length ≠ 8 then .error (.notEight text)
      else if first.isEmpty then .error (.leadingColon text)
      else if last.isEmpty then .error (.trailingColon text)
      else groups parts
    | [gap] =>
      let before := if first.isEmpty then gap - 1 else gap
      let after := parts.length - gap - 1 - (if last.isEmpty then 1 else 0)
      if first.isEmpty && 0 < before then .error (.leadingColon text)
      else if last.isEmpty && 0 < after then .error (.trailingColon text)
      else if 7 < before + after then .error (.uselessGap text)
      else do
        groups (parts.take before)
        groups (parts.drop (parts.length - after))
    | _ => .error (.secondGap text)

-- Groups of hexadecimal digits; the last two of them may be four numbers.
def checkGroups (text : List Char) : Except LiteralFault Unit :=
  if text.contains '/' then .error (.slash text)
  else
    let address := text.takeWhile (· ≠ '%')
    let zone := text.drop (address.length + 1)
    if text.contains '%' && (zone.isEmpty || zone.contains '%') then .error (.zone text)
    else if address.isEmpty then .error .empty
    else
      let parts := Text.splitOn ':' address
      let last := (parts.getLast?).getD []
      if parts.length < 3 then .error (.tooFewGroups address)
      else if last.contains '.' then do
        (checkNumbers last).mapError (.embedded · address)
        checkParts address (parts.dropLast ++ [['0'], ['0']])
      else checkParts address parts

end Literal

end EntityCatalog.Address
