import EntityCatalog.Pattern.Basic
import EntityCatalog.Pattern.Fault
import EntityCatalog.Text.Identifier
import EntityCatalog.Text.Name

namespace EntityCatalog.Pattern

inductive Token where
  | plain (c : Char)
  | escaped (c : Char)
deriving DecidableEq

namespace Token

def chars : Token → List Char
  | plain c => [c]
  | escaped c => ['\\', c]

def text (t : Token) : String := String.ofList t.chars

def size (t : Token) : Nat := t.chars.length

def plain? : Option Token → Option Char
  | some (plain c) => some c
  | _ => none

end Token

structure Progress where
  rest : List Char
  position : Nat
  flags : Flags := []
  names : List (String × Nat) := []
  -- The width of each group; a group still open has none, and so has group 0.
  widths : Array (Option Width) := #[none]
  lookbehind : Option Nat := none
  conditions : List (Nat × Nat) := []

abbrev Read := StateT Progress (Except Fault)

namespace Read

def failAt {α : Type} (position : Nat) (what : Complaint) : Read α :=
  throw (.complaint what (some position))

def fail {α : Type} (what : Complaint) (back : Nat) : Read α := do
  failAt ((← get).position - back) what

def next : Read (Option Token) := do
  match (← get).rest with
  | [] => return none
  | '\\' :: c :: _ => return some (.escaped c)
  | c :: _ => return some (.plain c)

def checkEnd : Read Unit := do
  let p ← get
  if p.rest = ['\\'] then failAt p.position .loneBackslash

def take : Read (Option Token) := do
  let t ← next
  let n := (t.map Token.size).getD 0
  modify fun p => { p with rest := p.rest.drop n, position := p.position + n }
  checkEnd
  return t

def accept (c : Char) : Read Bool := do
  if (← next) = some (.plain c) then
    let _ ← take
    return true
  else return false

def takeWhile (isIn : Char → Bool) : Nat → Read (List Char)
  | 0 => return []
  | n + 1 => do
    match ← next with
    | some (.plain c) =>
      if isIn c then
        let _ ← take
        return c :: (← takeWhile isIn n)
      else return []
    | _ => return []

def takeUntil (terminator : Char) (what : String) : Nat → List Char → Read (List Char)
  | 0, _ => fail (.missing what) 0
  | fuel + 1, acc => do
    match ← take with
    | none =>
      if acc.isEmpty then fail (.missing what) 0
      else fail (.unterminatedName terminator) acc.length
    | some t =>
      if t = .plain terminator then
        if acc.isEmpty then fail (.missing what) 1 else return acc
      else takeUntil terminator what fuel (acc ++ t.chars)

def nameUntil (terminator : Char) (what : String) : Read (List Char) := do
  takeUntil terminator what ((← get).rest.length + 1) []

end Read

open Read

def isHexDigit (c : Char) : Bool :=
  Text.isAsciiDigit c || ('a' ≤ c && c ≤ 'f') || ('A' ≤ c && c ≤ 'F')

def isOctalDigit (c : Char) : Bool := '0' ≤ c && c ≤ '7'

def isAsciiLetter (c : Char) : Bool := ('a' ≤ c && c ≤ 'z') || ('A' ≤ c && c ≤ 'Z')

def numberIn (base : Nat) (cs : List Char) : Nat :=
  cs.foldl (fun n c => n * base + ((Table.hexValue? c.toLower).getD 0)) 0

def simpleEscape? : Char → Option Nat
  | 'a' => some 7
  | 'b' => some 8
  | 'f' => some 12
  | 'n' => some 10
  | 'r' => some 13
  | 't' => some 9
  | 'v' => some 11
  | '\\' => some 92
  | _ => none

def classEscape? : Char → Option SetItem
  | 'd' => some (.«class» .digit false)
  | 'D' => some (.«class» .digit true)
  | 's' => some (.«class» .space false)
  | 'S' => some (.«class» .space true)
  | 'w' => some (.«class» .word false)
  | 'W' => some (.«class» .word true)
  | _ => none

def anchorEscape? : Char → Option Anchor
  | 'A' => some .textStart
  | 'b' => some .boundary
  | 'B' => some .noBoundary
  | 'Z' => some .textEnd
  | _ => none

def readHexEscape (letter : Char) (n : Nat) : Read Nat := do
  let ds ← takeWhile isHexDigit n
  let escape := '\\' :: letter :: ds
  if ds.length ≠ n then fail (.incompleteEscape (String.ofList escape)) escape.length
  else
    let code := numberIn 16 ds
    if 0x10ffff < code then fail (.badEscape (String.ofList escape)) escape.length
    else return code

def readNameEscape : Read Nat := do
  if ← accept '\x7b' then
    let name ← nameUntil '\x7d' "character name"
    match Text.charOfName? (String.ofList name) with
    | some c => return c.toNat
    | none => fail (.unknownCharacterName (String.ofList name)) (name.length + 4)
  else fail (.missing "\x7b") 0

def readCodeEscape? (c : Char) : Read (Option Nat) := do
  if c = 'x' then some <$> readHexEscape c 2
  else if c = 'u' then some <$> readHexEscape c 4
  else if c = 'U' then some <$> readHexEscape c 8
  else if c = 'N' then some <$> readNameEscape
  else return none

def readOtherEscape (c : Char) : Read Nat :=
  if isAsciiLetter c || Text.isAsciiDigit c then
    fail (.badEscape (String.ofList ['\\', c])) 2
  else return c.toNat

def octalCode (ds : List Char) : Read Nat :=
  let code := numberIn 8 ds
  let escape := '\\' :: ds
  if 0o377 < code then fail (.octalTooLarge (String.ofList escape)) escape.length
  else return code

def readSetEscape (c : Char) : Read SetItem := do
  match simpleEscape? c, classEscape? c with
  | some code, _ => return .literal code
  | none, some item => return item
  | none, none =>
    match ← readCodeEscape? c with
    | some code => return .literal code
    | none =>
      if isOctalDigit c then
        let ds ← takeWhile isOctalDigit 2
        return .literal (← octalCode (c :: ds))
      else return .literal (← readOtherEscape c)

def closedWidth? (p : Progress) (index : Nat) : Option Width := (p.widths[index]?).join

-- Inside of a look behind only groups closed before it can be referred to.
def checkLookbehind (index : Nat) : Read Unit := do
  let p ← get
  match p.lookbehind with
  | none => return ()
  | some n =>
    if (closedWidth? p index).isNone then fail .openGroup 0
    else if n ≤ index then fail .sameLookbehind 0

def readReference (ds : List Char) : Read Node := do
  let p ← get
  let index := Text.natOfDigits ds
  if index < p.widths.size then
    match closedWidth? p index with
    | none => fail .openGroup (ds.length + 1)
    | some w =>
      checkLookbehind index
      return .backref index w
  else fail (.noSuchGroup index) ds.length

-- An escape of one to three digits: three octal ones are a character, others are a reference.
def readDigitEscape (c : Char) : Read Node := do
  match Token.plain? (← next) with
  | some d =>
    if Text.isAsciiDigit d then
      let _ ← take
      match Token.plain? (← next) with
      | some e =>
        if isOctalDigit c && isOctalDigit d && isOctalDigit e then
          let _ ← take
          return .literal (← octalCode [c, d, e])
        else readReference [c, d]
      | none => readReference [c, d]
    else readReference [c]
  | none => readReference [c]

def readEscape (c : Char) : Read Node := do
  match anchorEscape? c, classEscape? c, simpleEscape? c with
  | some a, _, _ => return .anchor a
  | none, some item, _ => return .set false [item]
  | none, none, some code => return .literal code
  | none, none, none =>
    match ← readCodeEscape? c with
    | some code => return .literal code
    | none =>
      if c = '0' then
        let ds ← takeWhile isOctalDigit 2
        return .literal (numberIn 8 (c :: ds))
      else if Text.isAsciiDigit c then readDigitEscape c
      else return .literal (← readOtherEscape c)

def readSetToken : Token → Read SetItem
  | .plain c => return .literal c.toNat
  | .escaped c => readSetEscape c

def readSetItems (here : Nat) : Nat → List SetItem → Read (List SetItem)
  | 0, _ => failAt here .unterminatedSet
  | fuel + 1, acc => do
    match ← take with
    | none => failAt here .unterminatedSet
    | some this =>
      if this = .plain ']' ∧ ¬ acc.isEmpty then return acc.reverse
      else
        let first ← readSetToken this
        if ← accept '-' then
          match ← take with
          | none => failAt here .unterminatedSet
          | some (.plain ']') => return (.literal '-'.toNat :: first :: acc).reverse
          | some that =>
            let last ← readSetToken that
            match first, last with
            | .literal low, .literal high =>
              if high < low then
                fail (.badRange this.text that.text) (this.size + 1 + that.size)
              else readSetItems here fuel (.range low high :: acc)
            | _, _ => fail (.badRange this.text that.text) (this.size + 1 + that.size)
        else readSetItems here fuel (first :: acc)

def readSet : Read Node := do
  let p ← get
  let negated ← accept '^'
  let items ← readSetItems (p.position - 1) (p.rest.length + 1) []
  match items.eraseDups with
  | [.literal code] => return if negated then .notLiteral code else .literal code
  | items => return .set negated items

inductive FlagLetter where
  | flag (f : Flag)
  | locale

def flagLetter? : Option Token → Option FlagLetter
  | some (.plain 'i') => some (.flag .ignoreCase)
  | some (.plain 'm') => some (.flag .multiline)
  | some (.plain 's') => some (.flag .dotAll)
  | some (.plain 'x') => some (.flag .verbose)
  | some (.plain 'a') => some (.flag .ascii)
  | some (.plain 'u') => some (.flag .unicode)
  | some (.plain 't') => some (.flag .template)
  | some (.plain 'L') => some .locale
  | _ => none

def badFlag {α : Type} (t : Token) (what : String) : Read α :=
  match t with
  | .plain c => if (Text.category c).isLetter then fail .unknownFlag 1 else fail (.missing what) 1
  | .escaped _ => fail (.missing what) 2

def readFlagsOn : Nat → FlagLetter → Flags → Read (Flags × Char)
  | 0, _, _ => fail (.missing "-, : or )") 0
  | _ + 1, .locale, _ => fail .localeFlag 0
  | fuel + 1, .flag f, on => do
    let on := on ++ [f]
    if f.isAlphabet && on.any fun g => g.isAlphabet && g != f then fail .clashingFlags 0
    let t ← take
    match t with
    | none => fail (.missing "-, : or )") 0
    | some u =>
      if u = .plain ')' ∨ u = .plain '-' ∨ u = .plain ':' then
        return (on, ((Token.plain? t).getD ':'))
      else
        match flagLetter? t with
        | some l => readFlagsOn fuel l on
        | none => badFlag u "-, : or )"

def readFlagsOff : Nat → FlagLetter → Flags → Read Flags
  | 0, _, _ => fail (.missing ":") 0
  | _ + 1, .locale, _ => fail .alphabetOff 0
  | fuel + 1, .flag f, off => do
    if f.isAlphabet then fail .alphabetOff 0
    let off := off ++ [f]
    let t ← take
    match t with
    | none => fail (.missing ":") 0
    | some u =>
      if u = .plain ':' then return off
      else
        match flagLetter? t with
        | some l => readFlagsOff fuel l off
        | none => badFlag u ":"

def readFlags (first : Token) : Read (Option (Flags × Flags)) := do
  let fuel := (← get).rest.length + 2
  let (on, last) ← match flagLetter? (some first) with
    | some l => readFlagsOn fuel l []
    | none => pure ([], '-')
  if last = ')' then
    modify fun p => { p with flags := p.flags ++ on }
    return none
  if on.contains .template then fail .globalFlagOn 1
  let off ← if last = '-' then do
      match ← take with
      | none => fail (.missing "flag") 0
      | some t =>
        match flagLetter? (some t) with
        | some l => readFlagsOff fuel l []
        | none => badFlag t "flag"
    else pure []
  if off.contains .template then fail .globalFlagOff 1
  if on.any off.contains then fail .flagOnAndOff 1
  return some (on, off)

def maxRounds : Nat := 4294967295

-- The numbers of rounds in braces, after the opening one; none if the braces mean themselves.
def readRounds? (here : Nat) : Read (Option (Nat × Option Nat)) := do
  let start ← get
  if (← next) = some (.plain '\x7d') then return none
  let size := start.rest.length
  let low ← takeWhile Text.isAsciiDigit size
  let high ← if ← accept ',' then takeWhile Text.isAsciiDigit size else pure low
  if !(← accept '\x7d') then
    modify fun p => { p with rest := start.rest, position := start.position }
    return none
  let least := Text.natOfDigits low
  if maxRounds ≤ least then throw .tooManyRounds
  if high.isEmpty then return some (least, none)
  let most := Text.natOfDigits high
  if maxRounds ≤ most then throw .tooManyRounds
  if most < least then failAt here .reversedRepeat
  return some (least, some most)

def repeatLast (here : Nat) (least : Nat) (most : Option Nat) : List Node → Read (List Node)
  | [] | .anchor _ :: _ => failAt here .nothingToRepeat
  | .loop .. :: _ => failAt here .repeatedRepeat
  | item :: before => do
    let body := match item with
      | .group none [] [] body => body
      | n => [n]
    if ← accept '?' then return .loop .lazy least most body :: before
    else if ← accept '+' then return .loop .possessive least most body :: before
    else return .loop .greedy least most body :: before

def Node.sameLeaf : Node → Node → Bool
  | .literal a, .literal b | .notLiteral a, .notLiteral b => a == b
  | .any, .any => true
  | .set n xs, .set m ys => n == m && xs == ys
  | .anchor a, .anchor b => a == b
  | .backref i _, .backref j _ => i == j
  | _, _ => false

def sharedHead? : List (List Node) → Option Node
  | [] => none
  | [] :: _ => none
  | (n :: _) :: rest =>
    if rest.all fun c => c.head?.any (Node.sameLeaf n) then some n else none

def choiceItems? : List Node → Option (List SetItem)
  | [.literal code] => some [.literal code]
  | [.set false items] => some items
  | _ => none

-- A branch, its common beginning in front; choices of single characters make a set.
def branchOf : Nat → List (List Node) → List Node
  | 0, choices => [.branch choices]
  | fuel + 1, choices =>
    match sharedHead? choices with
    | some n => n :: branchOf fuel (choices.map List.tail)
    | none =>
      match choices.mapM choiceItems? with
      | some items => [.set false items.flatten.eraseDups]
      | none => [.branch choices]

def openGroup (name : Option (List Char)) : Read Nat := do
  let p ← get
  let index := p.widths.size
  match name with
  | none => set { p with widths := p.widths.push none }
  | some cs =>
    let n := String.ofList cs
    match p.names.lookup n with
    | some earlier => fail (.renamedGroup n index earlier) (cs.length + 1)
    | none => set { p with widths := p.widths.push none, names := (n, index) :: p.names }
  return index

def checkName (cs : List Char) : Read Unit := do
  if !Text.isIdentifier cs then fail (.badGroupName (String.ofList cs)) (cs.length + 1)

def readNamedReference : Read Node := do
  let cs ← nameUntil ')' "group name"
  checkName cs
  let p ← get
  match p.names.lookup (String.ofList cs) with
  | none => fail (.unknownGroupName (String.ofList cs)) (cs.length + 1)
  | some index =>
    match closedWidth? p index with
    | none => fail .openGroup (cs.length + 1)
    | some w =>
      checkLookbehind index
      return .backref index w

def maxGroups : Int := 1073741823

def readConditionGroup : Read Nat := do
  let cs ← nameUntil ')' "group name"
  let back := cs.length + 1
  let name := String.ofList cs
  let p ← get
  if Text.isIdentifier cs then
    match p.names.lookup name with
    | none => fail (.unknownGroupName name) back
    | some index => return index
  else
    match Text.readInteger? cs with
    | none => fail (.badGroupName name) back
    | some n =>
      if n < 0 then fail (.badGroupName name) back
      else if n = 0 then fail .badGroupNumber back
      else if maxGroups ≤ n then fail (.noSuchGroup n.toNat) back
      else
        let index := n.toNat
        if (p.conditions.lookup index).isNone then
          set { p with conditions := p.conditions ++ [(index, p.position - back)] }
        return index

def skipComment (start : Nat) : Nat → Read Unit
  | 0 => return ()
  | fuel + 1 => do
    match ← next with
    | none => failAt start .unterminatedComment
    | some t =>
      let _ ← take
      if t = .plain ')' then return () else skipComment start fuel

def skipLine : Nat → Read Unit
  | 0 => return ()
  | fuel + 1 => do
    match ← take with
    | none | some (.plain '\n') => return ()
    | some _ => skipLine fuel

def isVerboseGap (c : Char) : Bool :=
  c == ' ' || c == '\t' || c == '\n' || c == '\r' || c == '\x0b' || c == '\x0c'

inductive Opening where
  | capture (name : Option (List Char))
  | plain (on off : Flags)
  | atomic
  | look (behind negated : Bool)
  | given
  | reference (node : Node)
  | comment
  | globalFlags

def readOpening (start : Nat) : Read Opening := do
  if !(← accept '?') then return .capture none
  let some t ← take | fail .endOfPattern 0
  match t with
  | .plain 'P' =>
    if ← accept '<' then
      let name ← nameUntil '>' "group name"
      checkName name
      return .capture (some name)
    else if ← accept '=' then return .reference (← readNamedReference)
    else
      let some u ← take | fail .endOfPattern 0
      fail (.unknownExtension ("P" ++ u.text)) (u.size + 2)
  | .plain ':' => return .plain [] []
  | .plain '#' =>
    skipComment start ((← get).rest.length + 1)
    return .comment
  | .plain '=' => return .look false false
  | .plain '!' => return .look false true
  | .plain '<' =>
    let some u ← take | fail .endOfPattern 0
    match u with
    | .plain '=' => return .look true false
    | .plain '!' => return .look true true
    | _ => fail (.unknownExtension ("<" ++ u.text)) (u.size + 2)
  | .plain '(' => return .given
  | .plain '>' => return .atomic
  | _ =>
    if (flagLetter? (some t)).isSome ∨ t = .plain '-' then
      match ← readFlags t with
      | none => return .globalFlags
      | some (on, off) => return .plain on off
    else fail (.unknownExtension t.text) (t.size + 1)

-- Groups that neither capture nor set a flag give way to their contents.
def spliced (nodes : List Node) : List Node :=
  nodes.flatMap fun n => match n with
    | .group none [] [] body => body
    | n => [n]

mutual

def readChoices : Nat → (verbose nested : Bool) → List (List Node) → Read (List Node)
  | 0, _, _, _ => fail .endOfPattern 0
  | fuel + 1, verbose, nested, acc => do
    let choice ← readSequence fuel verbose (!nested && acc.isEmpty) []
    let acc := acc ++ [choice]
    if ← accept '|' then
      let flags := (← get).flags
      let verbose := if nested then verbose else flags.contains .verbose
      readChoices fuel verbose nested acc
    else
      match acc with
      | [only] => return only
      | _ => return branchOf ((acc.map List.length).foldl max 0 + 1) acc

-- A sequence of nodes; `acc` holds those before, the last one first.
def readSequence : Nat → (verbose first : Bool) → List Node → Read (List Node)
  | 0, _, _, _ => fail .endOfPattern 0
  | fuel + 1, verbose, first, acc => do
    let start := (← get).position
    match ← next with
    | none | some (.plain '|') | some (.plain ')') => return spliced acc.reverse
    | some t =>
      let _ ← take
      match t with
      | .escaped c =>
        let n ← readEscape c
        readSequence fuel verbose first (n :: acc)
      | .plain c =>
        if verbose && isVerboseGap c then readSequence fuel verbose first acc
        else if verbose && c == '#' then
          let p ← get
          skipLine (p.rest.length + 1)
          readSequence fuel verbose first acc
        else if c = '[' then
          let n ← readSet
          readSequence fuel verbose first (n :: acc)
        else if c = '*' then
          let acc ← repeatLast start 0 none acc
          readSequence fuel verbose first acc
        else if c = '+' then
          let acc ← repeatLast start 1 none acc
          readSequence fuel verbose first acc
        else if c = '?' then
          let acc ← repeatLast start 0 (some 1) acc
          readSequence fuel verbose first acc
        else if c = '\x7b' then
          match ← readRounds? (start + 1) with
          | none => readSequence fuel verbose first (.literal c.toNat :: acc)
          | some (least, most) =>
            let acc ← repeatLast start least most acc
            readSequence fuel verbose first acc
        else if c = '.' then readSequence fuel verbose first (.any :: acc)
        else if c = '^' then readSequence fuel verbose first (.anchor .lineStart :: acc)
        else if c = '$' then readSequence fuel verbose first (.anchor .lineEnd :: acc)
        else if c = '(' then
          match ← readOpening start with
          | .comment => readSequence fuel verbose first acc
          | .reference n => readSequence fuel verbose first (n :: acc)
          | .globalFlags =>
            if !first || !acc.isEmpty then failAt start .lateFlags
            let flags := (← get).flags
            readSequence fuel (flags.contains .verbose) first acc
          | opening =>
            let n ← readGroup fuel verbose start opening
            readSequence fuel verbose first (n :: acc)
        else readSequence fuel verbose first (.literal c.toNat :: acc)

def readGroup : Nat → (verbose : Bool) → (start : Nat) → Opening → Read Node
  | 0, _, _, _ => fail .endOfPattern 0
  | fuel + 1, verbose, start, opening => do
    let close : Read Unit := do
      if !(← accept ')') then failAt start .unterminatedGroup
    match opening with
    | .look behind negated =>
      let outer := (← get).lookbehind
      if behind && outer.isNone then
        modify fun p => { p with lookbehind := some p.widths.size }
      let body ← readChoices fuel verbose true []
      if behind then modify fun p => { p with lookbehind := outer }
      close
      return .look behind negated body
    | .given =>
      let index ← readConditionGroup
      checkLookbehind index
      let yes ← readSequence fuel verbose false []
      let no ← if ← accept '|' then do
          let no ← readSequence fuel verbose false []
          if (← next) = some (.plain '|') then fail .tooManyBranches 0
          pure no
        else pure []
      close
      return .given index yes no
    | .atomic =>
      let body ← readChoices fuel verbose true []
      close
      return .atomic body
    | .plain on off =>
      let inner := (verbose || on.contains .verbose) && !off.contains .verbose
      let body ← readChoices fuel inner true []
      close
      return .group none on off body
    | .capture name =>
      let index ← openGroup name
      let body ← readChoices fuel verbose true []
      close
      modify fun p => { p with widths := p.widths.setIfInBounds index (some (widthOf body)) }
      return .group (some index) [] [] body
    | .reference n => return n
    | .comment | .globalFlags => return .group none [] [] []

end

mutual

-- What cannot be run, though it can be read: loops of a template, and looking behind too far or for
-- a length that is not fixed.
def Node.trouble? (template : Bool) : Node → Option Complaint
  | .literal _ | .notLiteral _ | .any | .set .. | .anchor _ | .backref .. => none
  | .group _ _ _ body | .atomic body => troubleIn? template body
  | .branch choices => troubleInChoices? template choices
  | .loop greed _ _ body =>
    if template then
      some (.templateRepeat (match greed with
        | .greedy => "MAX_REPEAT"
        | .lazy => "MIN_REPEAT"
        | .possessive => "POSSESSIVE_REPEAT"))
    else troubleIn? template body
  | .given _ yes no => (troubleIn? template yes).or (troubleIn? template no)
  | .look behind _ body =>
    let w := widthOf body
    if behind && maxRounds < w.least then some .farBehind
    else if behind && w.least != w.most then some .variableBehind
    else troubleIn? template body

def troubleIn? (template : Bool) : List Node → Option Complaint
  | [] => none
  | n :: ns => (n.trouble? template).or (troubleIn? template ns)

def troubleInChoices? (template : Bool) : List (List Node) → Option Complaint
  | [] => none
  | c :: cs => (troubleIn? template c).or (troubleInChoices? template cs)

end

def readProgram : Read Program := do
  checkEnd
  let body ← readChoices (3 * (← get).rest.length + 8) false false []
  let p ← get
  -- Flags clash before anything else is looked at.
  if p.flags.contains .ascii && p.flags.contains .unicode then
    throw (.complaint .bothAlphabets none)
  if !p.rest.isEmpty then fail .unbalanced 0
  match p.conditions.find? fun c => p.widths.size ≤ c.1 with
  | some (index, position) => failAt position (.noSuchGroup index)
  | none =>
    match troubleIn? (p.flags.contains .template) body with
    | some c => throw (.complaint c none)
    | none => return ⟨p.flags, body⟩

def compile (pattern : String) : Except Fault Program :=
  match readProgram.run { rest := pattern.toList, position := 0 } with
  | .ok (p, _) => .ok p
  | .error f => .error f

end EntityCatalog.Pattern
