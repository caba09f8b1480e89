import EntityCatalog.Layout.Wrap
import EntityCatalog.Numeric.Binary64

namespace EntityCatalog.Layout

inductive Alignment where
  | left
  | right
deriving DecidableEq, Repr

structure Column where
  title : List Char
  alignment : Alignment := .left
  -- Lines of a rigid column are not broken, and it is made narrower last.
  rigid : Bool := false

structure Table where
  columns : List Column
  rows : List (List (List Char))

def endsLine (c : Char) : Bool :=
  let n := c.toNat
  (0x0a ≤ n && n ≤ 0x0d) || (0x1c ≤ n && n ≤ 0x1e) || n == 0x85 || n == 0x2028 || n == 0x2029

def widestLine (cs : List Char) : Nat :=
  let rec go (line : List Char) : List Char → List Nat
    | [] => [width line.reverse]
    | c :: rest => if endsLine c then width line.reverse :: go [] rest else go (c :: line) rest
  (go [] cs).foldl max 0

def cellDemand (padding room : Nat) (cs : List Char) : Nat :=
  if room ≤ padding then room else min (min (widestLine cs) room + padding) room

-- The shares of an excess that are taken off; each share is at most its `most`.
def reduce : (excess shares : Nat) → List (Nat × Nat × Nat) → List Nat
  | _, _, [] => []
  | excess, shares, (share, most, value) :: rest =>
    if share = 0 ∨ shares = 0 then value :: reduce excess shares rest
    else
      let taken := min most (roundHalfEven (share * excess) shares)
      (value - taken) :: reduce (excess - taken) (shares - share) rest

def reduceAll (excess : Nat) (parts : List (Nat × Nat × Nat)) : List Nat :=
  let parts := parts.map fun (share, most, value) => (if most = 0 then 0 else share, most, value)
  let shares := total (parts.map (·.1))
  if shares = 0 then parts.map (·.2.2) else reduce excess shares parts

-- Makes the widest of the columns that may shrink narrower until all fit; `fuel` exceeds the sum of
-- the widths.
def collapse (room : Nat) : Nat → List (Nat × Bool) → List Nat
  | 0, cols => cols.map (·.1)
  | fuel + 1, cols =>
    let whole := total (cols.map (·.1))
    let excess := whole - room
    let free := (cols.filter (·.2)).map (·.1)
    let widest := free.foldl max 0
    let second := (free.filter (· ≠ widest)).foldl max 0
    if excess = 0 ∨ widest = second then cols.map (·.1)
    else
      let most := min excess (widest - second)
      let widths := reduceAll excess (cols.map fun (w, shrinks) =>
        (if shrinks && w = widest then 1 else 0, most, w))
      collapse room fuel (widths.zip (cols.map (·.2)))

namespace Table

def lastIndex (t : Table) : Nat := t.columns.length - 1

def padding (t : Table) (i : Nat) : Nat × Nat :=
  (if i = 0 then 0 else 1, if i = t.lastIndex then 0 else 1)

def cells (t : Table) (i : Nat) : List (List Char) :=
  ((t.columns[i]?).map (·.title)).toList ++ t.rows.map fun r => (r[i]?).getD []

def demand (t : Table) (room i : Nat) : Nat :=
  if room = 0 then 0
  else
    let (left, right) := t.padding i
    ((t.cells i).map (cellDemand (left + right) room)).foldl max 0

def borders (t : Table) : Nat := 2 + t.lastIndex

def widths (t : Table) (room : Nat) : List Nat :=
  let room := room - t.borders
  let indices := List.range t.columns.length
  let asked := indices.map fun i => let w := t.demand room i; if w = 0 then 1 else w
  if total asked ≤ room then asked
  else
    let free := t.columns.map (!·.rigid)
    let smaller := if free.any id then collapse room (total asked + 1) (asked.zip free) else asked
    let smaller := if total smaller ≤ room then smaller
      else reduceAll (total smaller - room) (smaller.map fun w => (1, w, w))
    (smaller.zip indices).map fun (w, i) => t.demand w i

def width (t : Table) (room : Nat) : Nat :=
  let whole := total (t.widths room)
  total ((List.range t.columns.length).map (t.demand whole)) + t.borders

def align (a : Alignment) (n : Nat) (cs : List Char) : List Char :=
  match a with
  | .left => toWidth n (truncate .ellipsis n cs)
  | .right =>
    let cs := truncate .ellipsis n (Text.stripRight cs)
    blanks (n - Layout.width cs) ++ cs

def cellLines (c : Column) (padding : Nat × Nat) (n : Nat) (cs : List Char) : List (List Char) :=
  let inner := n - padding.1 - padding.2
  if inner = 0 then []
  else
    (breakText .ellipsis c.rigid inner cs).map fun line =>
      blanks padding.1 ++ toWidth inner (align c.alignment inner line) ++ blanks padding.2

def fill (atTop : Bool) (height n : Nat) (lines : List (List Char)) : List (List Char) :=
  let extra := List.replicate (height - lines.length) (blanks n)
  if atTop then extra ++ lines else lines ++ extra

def rowLines (t : Table) (widths : List Nat) (isTitle : Bool) (bar : Char)
    (row : List (List Char)) : List (List Char) :=
  let cells := (t.columns.zip (widths.zip (row.zip (List.range t.columns.length)))).map
    fun (c, n, cs, i) => (n, cellLines c (t.padding i) n cs)
  let height := max 1 ((cells.map (·.2.length)).foldl max 0)
  let filled := cells.map fun (n, lines) => fill isTitle height n lines
  (List.range height).map fun k =>
    bar :: Text.joinWith bar (filled.map fun lines => (lines[k]?).getD []) ++ [bar]

def ruleLine (left line cross right : Char) (widths : List Nat) : List Char :=
  left :: Text.joinWith cross (widths.map fun n => List.replicate n line) ++ [right]

def completeRow (t : Table) (row : List (List Char)) : List (List Char) :=
  row.take t.columns.length ++ List.replicate (t.columns.length - row.length) []

def lines (t : Table) (room : Nat) : List (List Char) :=
  let ws := t.widths room
  ruleLine '┏' '━' '┳' '┓' ws ::
    t.rowLines ws true '┃' (t.columns.map (·.title)) ++
    ruleLine '┡' '━' '╇' '┩' ws ::
    t.rows.flatMap (fun r => t.rowLines ws false '│' (t.completeRow r)) ++
    [ruleLine '└' '─' '┴' '┘' ws]

end Table

structure Panel where
  title : List Char
  table : Table

namespace Panel

def lines (p : Panel) (room : Nat) : List (List Char) :=
  let title := ' ' :: p.title ++ [' ']
  let most := room - 2
  let asked := min (min (p.table.width most) most + 2) most
  let inner := min most (max asked (Layout.width title + 2))
  let excess := inner - 2 - Layout.width title
  let line (n : Nat) : List Char := List.replicate n '─'
  ('╭' :: '─' :: line (excess / 2) ++ title ++ line (excess - excess / 2) ++ ['─', '╮']) ::
    ((p.table.lines (inner - 2)).map fun l => '│' :: ' ' :: toWidth (inner - 2) l ++ [' ', '│']) ++
    ['╰' :: line inner ++ ['╯']]

end Panel

end EntityCatalog.Layout
