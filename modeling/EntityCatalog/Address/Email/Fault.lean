import EntityCatalog.Address.Label
import EntityCatalog.Address.Literal
import EntityCatalog.Text.Name

namespace EntityCatalog.Address

inductive Excess where
  | characters (n : Nat)
  | between (least most : Nat)
  | bytesNormalized (n : Nat)
  | bytesEncoded (n : Nat)
deriving DecidableEq, Repr

inductive Joint where
  | period
  | hyphen
deriving DecidableEq, Repr

inductive EmailFault where
  | textTooLong
  | lineBreak
  | noAt
  | wideAt
  | afterQuote (rest : List Char)
  | nameChars (cs : List Char)
  | unsafeChars (cs : List Char)
  | unclosedBracket
  | afterBracket
  | noMailbox
  | noHost
  | mailboxChars (cs : List Char)
  | quotedChars (cs : List Char)
  | mailboxStart
  | mailboxEnd
  | twoPeriods
  | hostStart (joint : Joint)
  | hostEnd (joint : Joint)
  | joints
  | quotedMailbox
  | normalized (fault : EmailFault)
  | notNumbers (fault : LiteralFault)
  | notGroups (fault : LiteralFault)
  | noLiteralTag
  | literalChars (cs : List Char)
  | unknownLiteralTag
  | literal
  | hostChars (cs : List Char)
  | unmappedHost (fault : HostFault)
  | mappedHostChars (cs : List Char)
  | reservedLabel
  | invalidHost (fault : HostFault)
  | encodedHostChars
  | hostTooLong (excess : Nat)
  | encodedHostTooLong (excess : Nat)
  | labelTooLong (excess : Nat)
  | noPeriod
  | noTopLevel
  | specialHost
  | undecodableHost (fault : HostFault)
  | unencodableHost (fault : HostFault)
  | tooLong (excess : Excess)
  | displayName
deriving Repr

def plural (n : Nat) : String := if 1 < n then "s" else ""

def Excess.text : Excess → String
  | characters n => s!"({n} character{plural n} too many)"
  | between a b => s!"({a}-{b} character{plural b} too many)"
  | bytesNormalized n => s!"after normalization ({n} byte{plural n} too many)"
  | bytesEncoded n =>
    s!"when the part after the @-sign is converted to IDNA ASCII ({n} byte{plural n} too many)"

def Joint.name : Joint → String
  | period => "period"
  | hyphen => "hyphen"

-- Characters as a message shows them, each once and in the order of what is shown.
def showChars (cs : List Char) : String :=
  ", ".intercalate (((cs.eraseDups.map Text.showChar).eraseDups).mergeSort fun a b => a ≤ b)

def showSorted (cs : List Char) : String :=
  ", ".intercalate ((cs.eraseDups.mergeSort fun a b => a ≤ b).map Text.showChar)

namespace EmailFault

def message : EmailFault → String
  | textTooLong => "Length must not exceed 2048 characters"
  | lineBreak => "Carriage return and line feed characters are not allowed"
  | noAt => "An email address must have an @-sign."
  | wideAt =>
    "The email address has the \"full-width\" at-sign (@) character instead of a regular at-sign."
  | afterQuote rest =>
    "Extra character(s) found after close quote: " ++
      ", ".intercalate (rest.map Text.showChar) ++ "."
  | nameChars cs =>
    s!"The display name contains invalid characters when not quoted: {showChars cs}."
  | unsafeChars cs => s!"The email address contains unsafe characters: {showSorted cs}."
  | unclosedBracket =>
    "An open angle bracket at the start of the email address has to be followed by a close " ++
      "angle bracket at the end."
  | afterBracket => "There can't be anything after the email address."
  | noMailbox => "There must be something before the @-sign."
  | noHost => "There must be something after the @-sign."
  | mailboxChars cs =>
    s!"The email address contains invalid characters before the @-sign: {showChars cs}."
  | quotedChars cs =>
    s!"The email address contains invalid characters in quotes before the @-sign: {showChars cs}."
  | mailboxStart => "An email address cannot start with a period."
  | mailboxEnd => "An email address cannot have a period immediately before the @-sign."
  | twoPeriods => "An email address cannot have two periods in a row."
  | hostStart j => s!"An email address cannot have a {j.name} immediately after the @-sign."
  | hostEnd j => s!"An email address cannot end with a {j.name}."
  | joints => "An email address cannot have a period and a hyphen next to each other."
  | quotedMailbox => "Quoting the part before the @-sign is not allowed here."
  | normalized f => "After Unicode normalization: " ++ f.message
  | notNumbers f =>
    s!"The address in brackets after the @-sign is not valid: It is not an IPv4 address ({f.message}) or is missing an address literal tag."
  | notGroups f => s!"The IPv6 address in brackets after the @-sign is not valid ({f.message})."
  | noLiteralTag =>
    "The part after the @-sign in brackets is not an IPv4 address and has no address literal tag."
  | literalChars cs =>
    s!"The part after the @-sign contains invalid characters in brackets: {showChars cs}."
  | unknownLiteralTag =>
    "The part after the @-sign contains an invalid address literal tag in brackets."
  | literal => "A bracketed IP address after the @-sign is not allowed here."
  | hostChars cs => s!"The part after the @-sign contains invalid characters: {showChars cs}."
  | unmappedHost f => s!"The part after the @-sign contains invalid characters ({f.message})."
  | mappedHostChars cs =>
    s!"The part after the @-sign contains invalid characters after Unicode normalization: {showChars cs}."
  | reservedLabel =>
    "An email address cannot have two letters followed by two dashes immediately after the " ++
      "@-sign or after a period, except Punycode."
  | invalidHost f => s!"The part after the @-sign is invalid ({f.message})."
  | encodedHostChars =>
    "The email address contains invalid characters after the @-sign after IDNA encoding."
  | hostTooLong n =>
    s!"The email address is too long after the @-sign {(Excess.characters n).text}."
  | encodedHostTooLong n =>
    s!"The email address is too long after the @-sign ({n} byte{plural n} too many after IDNA encoding)."
  | labelTooLong n =>
    s!"After the @-sign, periods cannot be separated by so many characters {(Excess.characters n).text}."
  | noPeriod => "The part after the @-sign is not valid. It should have a period."
  | noTopLevel =>
    "The part after the @-sign is not valid. It is not within a valid top-level domain."
  | specialHost =>
    "The part after the @-sign is a special-use or reserved name that cannot be used with email."
  | undecodableHost f => s!"The part after the @-sign is not valid IDNA ({f.message})."
  | unencodableHost f =>
    s!"The part after the @-sign became invalid after normalizing to international characters ({f.message})."
  | tooLong e => s!"The email address is too long {e.text}."
  | displayName =>
    "A display name and angle brackets around the email address are not permitted here."

end EmailFault

end EntityCatalog.Address
