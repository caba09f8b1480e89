import EntityCatalog.Address.Email.Host
import EntityCatalog.Text.Blank

namespace EntityCatalog.Address

namespace Email

def isNameChar (c : Char) : Bool :=
  Text.isWord c || "!#$%&'*+-/=?^_\x60\x7b|\x7d~".toList.contains c

def betweenBrackets? (cs : List Char) : Option (List Char) :=
  match Text.stripLeft cs with
  | '<' :: rest =>
    match Text.stripRight rest |>.reverse with
    | '>' :: inner => if inner.isEmpty then none else some inner.reverse
    | _ => none
  | _ => none

-- The address in brackets after some quotation mark, preferably a late one.
def afterQuotes? : List Char → Option (List Char)
  | [] => none
  | c :: cs => (afterQuotes? cs).or (if c = '"' then betweenBrackets? cs else none)

def inBrackets? (cs : List Char) : Option (List Char) :=
  let cs := Text.stripLeft cs
  let named := cs.dropWhile fun c => isNameChar c || Text.isBlank c
  (betweenBrackets? named).or <|
    match cs with
    | '"' :: _ :: rest => afterQuotes? rest
    | _ => none

-- A mark after a character makes another character of it.
def isComposed (c : Char) (after : List Char) : Bool :=
  (Text.composed (c :: after.takeWhile (0x300 ≤ ·.toNat))).head? != some c

def splitAt? (special : List Char) (inQuotes escaped : Bool) :
    List Char → Option (List Char × List Char)
  | [] => none
  | c :: cs =>
    let keep (inQuotes escaped : Bool) :=
      (splitAt? special inQuotes escaped cs).map fun (before, rest) => (c :: before, rest)
    if isComposed c cs then keep inQuotes escaped
    else if inQuotes then
      if c = '\\' && !escaped then keep true true
      else if c = '"' && !escaped then keep false false
      else keep true false
    else if c = '"' then keep true false
    else if special.contains c then some ([], c :: cs)
    else keep false false

def split (special cs : List Char) : Except EmailFault (List Char × List Char) :=
  match splitAt? special false false cs with
  | some parts => .ok parts
  | none => .error (if cs.contains '\uff20' then .wideAt else .noAt)

def unquoteRest (escaped : Bool) : List Char → Except EmailFault (List Char)
  | [] => .ok []
  | c :: cs =>
    if escaped then (c :: ·) <$> unquoteRest false cs
    else if c = '\\' then unquoteRest true cs
    else if c = '"' then if cs.isEmpty then .ok [] else .error (.afterQuote cs)
    else (c :: ·) <$> unquoteRest false cs

def unquote : List Char → Except EmailFault (List Char × Bool)
  | '"' :: cs => (·, true) <$> unquoteRest false cs
  | cs => .ok (cs, false)

structure Parts where
  mailbox : List Char
  quoted : Bool
  host : List Char
  named : Bool

def unbracket (name rest : List Char) : Except EmailFault (List Char) := do
  let (name, quoted) ← unquote (Text.stripRight name)
  let bad := name.filter fun c => !(isWordChar c || c == ' ')
  if !quoted && !bad.isEmpty then .error (.nameChars bad)
  else
    checkSafe true name
    if !rest.contains '>' then .error .unclosedBracket
    else
      let backwards := rest.reverse.dropWhile (· == ' ')
      if backwards.head? != some '>' then .error .afterBracket
      else .ok ((backwards.dropWhile (· == '>')).reverse.drop 1)

def split? (cs : List Char) : Except EmailFault Parts := do
  let (before, rest) ← split ['@', '<'] cs
  let named := rest.head? == some '<'
  let (mailbox, host) ← if named then do
      let address ← unbracket before rest
      split ['@'] address
    else .ok (before, rest)
  let (mailbox, quoted) ← unquote mailbox
  .ok ⟨mailbox, quoted, if host.head? == some '@' then host.drop 1 else host, named⟩

def byteLength (cs : List Char) : Nat := (cs.map Char.utf8Size).foldl (· + ·) 0

def longest : Nat := 254

def typedExcess (cs : List Char) : Excess :=
  let bytes := byteLength cs - longest
  if byteLength cs = cs.length then .characters bytes
  else
    let widest := (cs.map Char.utf8Size).foldl max 1
    let least := max 1 (bytes / widest)
    if least = bytes then .characters bytes else .between least bytes

def checkLength (typed mailbox : List Char) (host : HostName) : Except EmailFault Unit :=
  let shown := byteLength (mailbox ++ '@' :: host.shown)
  let ascii := byteLength (mailbox ++ '@' :: host.ascii)
  if longest < byteLength typed then .error (.tooLong (typedExcess typed))
  else if longest < shown then .error (.tooLong (.bytesNormalized (shown - longest)))
  else if longest < ascii then .error (.tooLong (.bytesEncoded (ascii - longest)))
  else .ok ()

def normalizeAddress (cs : List Char) : Except EmailFault (List Char) := do
  let parts ← split? cs
  let mailbox ← Mailbox.normalize parts.quoted parts.mailbox
  if parts.host.isEmpty then .error .noHost
  else if parts.host.head? == some '[' && parts.host.getLast? == some ']' then
    .error (literalFault ((parts.host.drop 1).dropLast))
  else
    let host ← HostName.ofText parts.host
    checkLength (parts.mailbox ++ '@' :: parts.host) mailbox host
    if parts.named then .error .displayName
    else .ok (mailbox ++ '@' :: host.shown)

def longestText : Nat := 2048

def normalize (cs : List Char) : Except EmailFault (List Char) :=
  if longestText < cs.length then .error .textTooLong
  else if cs.any fun c => c == '\n' || c == '\r' then .error .lineBreak
  else normalizeAddress (Text.strip ((inBrackets? cs).getD cs))

end Email

end EntityCatalog.Address
