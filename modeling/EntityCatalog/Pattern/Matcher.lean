import EntityCatalog.Pattern.Basic
import EntityCatalog.Text.Blank
import EntityCatalog.Text.Case
import EntityCatalog.Text.Category
import EntityCatalog.Text.Digit

namespace EntityCatalog.Pattern

def siblingPairs : List (Nat × Nat) :=
  let rec pairs : List Nat → List (Nat × Nat)
    | a :: b :: rest => (a, b) :: pairs rest
    | _ => []
  pairs (Table.numbers "69 131 73 17f b5 3bc 131 69 17f 73 345 3b9 345 1fbe 390 1fd3 3b0 1fe3 3b2
    3d0 3b5 3f5 3b8 3d1 3b9 345 3b9 1fbe 3ba 3f0 3bc b5 3c0 3d6 3c1 3f1 3c2 3c3 3c3 3c2 3c6 3d5
    3d0 3b2 3d1 3b8 3d5 3c6 3d6 3c0 3f0 3ba 3f1 3c1 3f5 3b5 432 1c80 434 1c81 43e 1c82 441 1c83
    442 1c84 442 1c85 44a 1c86 463 1c87 1c80 432 1c81 434 1c82 43e 1c83 441 1c84 442 1c84 1c85
    1c85 442 1c85 1c84 1c86 44a 1c87 463 1c88 a64b 1e61 1e9b 1e9b 1e61 1fbe 345 1fbe 3b9
    1fd3 390 1fe3 3b0 a64b 1c88 fb05 fb06 fb06 fb05").toList

def siblings (code : Nat) : List Nat :=
  (siblingPairs.filter (·.1 == code)).map (·.2)

def uppersOf (code : Nat) : List Nat :=
  let runs := Text.lowerRuns.1.toList.zip Text.lowerRuns.2.toList
  let found := runs.filterMap fun (first, run) =>
    if run.lower ≤ code ∧ code ≤ run.lower + (run.last - first) ∧
        (code - run.lower) % run.step = 0 then
      some (first + (code - run.lower))
    else none
  if code = 'i'.toNat then 'İ'.toNat :: found else found

inductive Casing where
  | exact
  | ascii
  | full
deriving DecidableEq

def Flags.casing (flags : Flags) : Casing :=
  if !flags.contains .ignoreCase then .exact
  else if flags.contains .ascii then .ascii
  else .full

namespace Casing

def fold (casing : Casing) (code : Nat) : Nat :=
  match casing with
  | exact => code
  | ascii => if 65 ≤ code ∧ code ≤ 90 then code + 32 else code
  | full =>
    let c := Char.ofNat code
    if c.toNat = code then (Text.lowerChar c).toNat else code

-- The folded codes that a folded code is taken for.
def alike (casing : Casing) (folded : Nat) : List Nat :=
  match casing with
  | full => folded :: siblings folded
  | _ => [folded]

def sources (casing : Casing) (folded : Nat) : List Nat :=
  match casing with
  | exact => [folded]
  | ascii => if 97 ≤ folded ∧ folded ≤ 122 then [folded, folded - 32] else [folded]
  | full => folded :: uppersOf folded

def sameLetter (casing : Casing) (a b : Nat) : Bool :=
  (casing.alike (casing.fold a)).contains (casing.fold b)

end Casing

def isBasic (code : Nat) : Bool := code ≤ 0xffff

def Class.contains (kind : Class) (ascii : Bool) (code : Nat) : Bool :=
  let c := Char.ofNat code
  match kind with
  | .digit => if ascii then Text.isAsciiDigit c else Text.isDecimal c
  | .space => if ascii then c == ' ' || (9 ≤ code && code ≤ 13) else Text.isBlank c
  | .word => if ascii then code < 128 && Text.isWord c else Text.isWord c

def SetItem.contains (casing : Casing) (ascii : Bool) (folded : Nat) : SetItem → Bool
  | .literal code => if isBasic code then casing.sameLetter code folded else code == folded
  | .range low high =>
    let within (c : Nat) : Bool := low ≤ c && c ≤ high
    match casing with
    | .exact => within folded
    | _ =>
      ((casing.alike folded).flatMap casing.sources).any (fun c => within c && isBasic c) ||
        (!isBasic high && (within folded || (Casing.full.sources folded).any within))
  | .«class» kind negated => (kind.contains ascii folded) != negated

def inSet (flags : Flags) (negated : Bool) (items : List SetItem) (code : Nat) : Bool :=
  let casing := flags.casing
  let folded := casing.fold code
  (items.any (SetItem.contains casing (flags.contains .ascii) folded)) != negated

structure Spot where
  position : Nat
  marks : List (Nat × Nat) := []
deriving Inhabited

namespace Spot

-- Group `i` begins at mark `2i` and ends at mark `2i + 1`.
def mark (s : Spot) (n : Nat) : Spot := { s with marks := (n, s.position) :: s.marks }

def captured? (s : Spot) (index : Nat) : Option (Nat × Nat) :=
  match s.marks.lookup (2 * index), s.marks.lookup (2 * index + 1) with
  | some a, some b => if a ≤ b then some (a, b) else none
  | _, _ => none

end Spot

def Anchor.holds (flags : Flags) (cs : Array Char) (i : Nat) : Anchor → Bool
  | .textStart => i == 0
  | .textEnd => i == cs.size
  | .lineStart => i == 0 || (flags.contains .multiline && cs[i - 1]? == some '\n')
  | .lineEnd =>
    i == cs.size || (cs[i]? == some '\n' && (flags.contains .multiline || i + 1 == cs.size))
  | .boundary => cs.size != 0 && wordAt (i != 0) (i - 1) != wordAt true i
  | .noBoundary => cs.size != 0 && wordAt (i != 0) (i - 1) == wordAt true i
where
  wordAt (inside : Bool) (j : Nat) : Bool :=
    inside && cs[j]?.any fun c => Class.word.contains (flags.contains .ascii) c.toNat

abbrev Follow := Spot → Option Spot

def one (cs : Array Char) (test : Nat → Bool) (k : Follow) (s : Spot) : Option Spot :=
  match cs[s.position]? with
  | some c => if test c.toNat then k { s with position := s.position + 1 } else none
  | none => none

def repeats (casing : Casing) (cs : Array Char) (a b i : Nat) : Bool :=
  (List.range (b - a)).all fun j =>
    match cs[a + j]?, cs[i + j]? with
    | some c, some d => casing.fold c.toNat == casing.fold d.toNat
    | _, _ => false

-- Rounds of a body. After the least number of rounds a round that consumes nothing is the last; so
-- `fuel` need only exceed that number by the length of the text.
def rounds (greed : Greed) (least : Nat) (most : Option Nat) (body : Follow → Follow)
    (k : Follow) : Nat → Nat → Option Nat → Follow
  | 0, _, _, s => k s
  | fuel + 1, count, last, s =>
    if count < least then body (rounds greed least most body k fuel (count + 1) last) s
    else
      let mayGoOn := most.all (count < ·) && last != some s.position
      let goOn (_ : Unit) := body (rounds greed least most body k fuel (count + 1) (some s.position)) s
      match greed with
      | .lazy => (k s) <|> (if mayGoOn then goOn () else none)
      | _ => if mayGoOn then goOn () <|> k s else k s

def allRounds (least : Nat) (most : Option Nat) (body : Follow → Follow) :
    Nat → Nat → Option Nat → Follow
  | 0, _, _, s => some s
  | fuel + 1, count, last, s =>
    if count < least then
      (body some s).bind (allRounds least most body fuel (count + 1) last)
    else if most.all (count < ·) && last != some s.position then
      match body some s with
      | some t => allRounds least most body fuel (count + 1) (some s.position) t
      | none => some s
    else some s

mutual

def Node.run (cs : Array Char) (flags : Flags) : Node → Follow → Follow
  | .literal code, k, s => one cs (flags.casing.sameLetter code) k s
  | .notLiteral code, k, s => one cs (!flags.casing.sameLetter code ·) k s
  | .any, k, s => one cs (fun c => flags.contains .dotAll || c != 10) k s
  | .set negated items, k, s => one cs (inSet flags negated items) k s
  | .anchor a, k, s => if a.holds flags cs s.position then k s else none
  | .group index on off body, k, s =>
    match index with
    | none => runAll cs (flags.inside on off) body k s
    | some i =>
      runAll cs (flags.inside on off) body (fun t => k (t.mark (2 * i + 1))) (s.mark (2 * i))
  | .branch choices, k, s => runAny cs flags choices k s
  | .loop greed least most body, k, s =>
    let fuel := least + cs.size + 2
    match greed with
    | .possessive =>
      (allRounds least most (fun k s => runAll cs flags body k s) fuel 0 none s).bind k
    | _ => rounds greed least most (fun k s => runAll cs flags body k s) k fuel 0 none s
  | .backref index _, k, s =>
    match s.captured? index with
    | some (a, b) =>
      if repeats flags.casing cs a b s.position then k { s with position := s.position + (b - a) }
      else none
    | none => none
  | .given index yes no, k, s =>
    if (s.captured? index).isSome then runAll cs flags yes k s else runAll cs flags no k s
  | .look behind negated body, k, s =>
    let width := (widthOf body).least
    let start? : Option Spot :=
      if !behind then some s
      else if s.position < width then none
      else some { s with position := s.position - width }
    match start?.bind (runAll cs flags body some), negated with
    | some t, false => k { t with position := s.position }
    | none, true => k s
    | _, _ => none
  | .atomic body, k, s => (runAll cs flags body some s).bind k

def runAll (cs : Array Char) (flags : Flags) : List Node → Follow → Follow
  | [], k, s => k s
  | n :: ns, k, s => n.run cs flags (fun t => runAll cs flags ns k t) s

def runAny (cs : Array Char) (flags : Flags) : List (List Node) → Follow → Follow
  | [], _, _ => none
  | c :: rest, k, s => runAll cs flags c k s <|> runAny cs flags rest k s

end

def Casing.hasCase (casing : Casing) (code : Nat) : Bool :=
  casing.fold code != code || (casing.sources code).length != 1 || !(siblings code).isEmpty

def SetItem.isCaseless (casing : Casing) : SetItem → Bool
  | .literal code => !casing.hasCase code
  | .range low high => isBasic high && (List.range' low (high + 1 - low)).all (!casing.hasCase ·)
  | .«class» .. => true

def leadingSet? (flags : Flags) : List Node → Option (Bool × List SetItem)
  | .group _ on off body :: _ => leadingSet? (flags.inside on off) body
  | .set negated items :: _ =>
    let casing := flags.casing
    if casing == .exact || items.all (·.isCaseless casing) then some (negated, items) else none
  | _ => none

-- Whether a match may begin with a character. A set that comes first is also taken under the
-- alphabet of the whole pattern; a group with an alphabet of its own cannot widen it.
def Program.mayBeginWith (p : Program) (c : Char) : Bool :=
  if (widthOf p.body).least = 0 then true
  else
    match leadingSet? p.flags p.body with
    | some (negated, items) =>
      items.any (SetItem.contains .exact (p.flags.contains .ascii) c.toNat) != negated
    | none => true

def Program.foundIn (p : Program) (text : String) : Bool :=
  let cs := text.toList.toArray
  (List.range (cs.size + 1)).any fun i =>
    cs[i]?.all p.mayBeginWith && (runAll cs p.flags p.body some ⟨i, []⟩).isSome

end EntityCatalog.Pattern
