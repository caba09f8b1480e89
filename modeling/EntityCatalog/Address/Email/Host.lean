import EntityCatalog.Address.Email.Mailbox
import EntityCatalog.Address.Mapping

namespace EntityCatalog.Address

structure HostName where
  shown : List Char
  ascii : List Char
deriving DecidableEq, Repr

namespace HostName

def isHostChar (c : Char) : Bool := c.isAlphanum || c == '-' || c == '.' || 0x80 ≤ c.toNat

def special : List (List Char) :=
  ["arpa", "invalid", "local", "localhost", "onion", "test"].map String.toList

def checkJoints (cs : List Char) : Except EmailFault Unit :=
  if cs.getLast? == some '.' then .error (.hostEnd .period)
  else if cs.head? == some '.' then .error (.hostStart .period)
  else if containsPair '.' '.' cs then .error .twoPeriods
  else if cs.getLast? == some '-' then .error (.hostEnd .hyphen)
  else if cs.head? == some '-' then .error (.hostStart .hyphen)
  else if containsPair '.' '-' cs || containsPair '-' '.' cs then .error .joints
  else .ok ()

-- Two hyphens after two characters belong to encoded labels alone.
def isReserved (label : List Char) : Bool :=
  2 ≤ label.length && (label.drop 2).take 2 == ['-', '-'] &&
    (label.take 2).map Char.toLower != ['x', 'n']

def isPlain (cs : List Char) : Bool :=
  (Text.splitOn '.' cs).all fun label =>
    !label.isEmpty && label.all (fun c => c.isAlphanum || c == '-') &&
      label.head? != some '-' && label.getLast? != some '-'

def isBelow (cs name : List Char) : Bool := cs == name || ('.' :: name).isSuffixOf cs

def encode (cs : List Char) : Except HostFault (List Char) := do
  let labels ← (Text.splitOn '.' cs).mapM Label.encode
  .ok (Text.joinWith '.' labels)

def checkLengths (typed ascii : List Char) : Except EmailFault Unit :=
  if 253 < ascii.length then
    .error (if ascii == typed then .hostTooLong (ascii.length - 253)
      else .encodedHostTooLong (ascii.length - 253))
  else
    match (Text.splitOn '.' ascii).find? (63 < ·.length) with
    | some label => .error (.labelTooLong (label.length - 63))
    | none => .ok ()

def checkPublic (ascii : List Char) : Except EmailFault Unit :=
  if !ascii.contains '.' then .error .noPeriod
  else if !(ascii.getLast?).any Char.isAlpha then .error .noTopLevel
  else if special.any (isBelow ascii) then .error .specialHost
  else .ok ()

-- The form in its own script, from which the form in ASCII can be made again.
def decode (ascii : List Char) : Except EmailFault (List Char) := do
  let labels ← ((Text.splitOn '.' ascii).mapM Label.decode).mapError .undecodableHost
  let shown := Text.joinWith '.' labels
  let again ← (encode shown).mapError .unencodableHost
  if 253 < again.length then .error (.unencodableHost .nameTooLong) else .ok shown

def ofText (typed : List Char) : Except EmailFault HostName := do
  let bad := typed.filter (!isHostChar ·)
  if !bad.isEmpty then .error (.hostChars bad)
  else
    checkSafe false typed
    let name ← (mapName typed).mapError .unmappedHost
    let bad := name.filter (!isHostChar ·)
    if !bad.isEmpty then .error (.mappedHostChars bad)
    else
      checkJoints name
      if (Text.splitOn '.' name).any isReserved then .error .reservedLabel
      else
        let ascii ← if isPlain name then .ok name else (encode name).mapError .invalidHost
        if !isPlain ascii then .error .encodedHostChars
        else
          checkLengths typed ascii
          checkPublic ascii
          let shown ← decode ascii
          .ok ⟨shown, ascii⟩

end HostName

def literalFault (cs : List Char) : EmailFault :=
  if !cs.isEmpty && cs.all (fun c => isDigit c || c == '.') then
    match Literal.checkNumbers cs with
    | .ok () => .literal
    | .error f => .notNumbers f
  else
    match Text.after? "IPv6:".toList cs with
    | some rest =>
      match Literal.checkGroups rest with
      | .ok () => .literal
      | .error f => .notGroups f
    | none =>
      let bad := cs.filter fun c => !(0x21 ≤ c.toNat && c.toNat ≤ 0xfa)
      if !cs.contains ':' then .noLiteralTag
      else if !bad.isEmpty then .literalChars bad
      else .unknownLiteralTag

end EntityCatalog.Address
