import EntityCatalog.Address.Email.Fault
import EntityCatalog.Text.Case

namespace EntityCatalog.Address

def isWordChar (c : Char) : Bool := c.isAlphanum || "_!#$%&'*+-/=?^\x60\x7b|\x7d~".toList.contains c

def isWideWordChar (c : Char) : Bool := isWordChar c || 0x80 ≤ c.toNat

def isQuotedChar (c : Char) : Bool := (0x20 ≤ c.toNat && c.toNat ≤ 0x7e) || 0x80 ≤ c.toNat

def isDotted (isPart : Char → Bool) (cs : List Char) : Bool :=
  (Text.splitOn '.' cs).all fun word => !word.isEmpty && word.all isPart

-- A character that changes what stands beside it, cannot be seen, or has no meaning.
def isUnsafe (allowBlanks first : Bool) (c : Char) : Bool :=
  let k := Text.category c
  if k.isMark then first
  else if k = .zs then !allowBlanks
  else k.isSeparator || k.isOther

def checkSafe (allowBlanks : Bool) (cs : List Char) : Except EmailFault Unit :=
  let first := cs.take 1
  let found := first.filter (isUnsafe allowBlanks true) ++
    (cs.drop 1).filter (isUnsafe allowBlanks false)
  if found.isEmpty then .ok () else .error (.unsafeChars found)

def containsPair (a b : Char) (cs : List Char) : Bool := (cs.zip (cs.drop 1)).contains (a, b)

namespace Mailbox

def escaped (cs : List Char) : List Char :=
  '"' :: cs.flatMap (fun c => if c = '"' ∨ c = '\\' then ['\\', c] else [c]) ++ ['"']

def check (quoted : Bool) (cs : List Char) : Except EmailFault (List Char) :=
  if cs.isEmpty then .error .noMailbox
  else if isDotted isWordChar cs then .ok cs
  else if isDotted isWideWordChar cs then do
    checkSafe false cs
    .ok cs
  else if quoted then
    let bad := cs.filter (!isQuotedChar ·)
    if !bad.isEmpty then .error (.quotedChars bad)
    else do
      checkSafe true cs
      .ok (escaped cs)
  else
    let bad := cs.filter fun c => !(isWideWordChar c || c == '.')
    if !bad.isEmpty then .error (.mailboxChars bad)
    else if cs.getLast? == some '.' then .error .mailboxEnd
    else if cs.head? == some '.' then .error .mailboxStart
    else .error .twoPeriods

def caseless : List String :=
  ["info", "marketing", "sales", "support", "abuse", "noc", "security", "postmaster", "hostmaster",
   "usenet", "news", "webmaster", "www", "uucp", "ftp"]

def normalize (quoted : Bool) (cs : List Char) : Except EmailFault (List Char) := do
  let kept ← check quoted cs
  let composed := Text.composed kept
  if composed != kept then
    let _ ← (check quoted composed).mapError .normalized
  if quoted then .error .quotedMailbox
  else
    let lower := composed.map Char.toLower
    .ok (if caseless.contains (String.ofList lower) then lower else composed)

end Mailbox

end EntityCatalog.Address
