import EntityCatalog.Toml.Scalar
import EntityCatalog.Toml.Sections
import EntityCatalog.Toml.Text

namespace EntityCatalog.Toml

def orFault {α : Type} (c : Cursor) : Except Complaint α → Except Fault α
  | .ok a => .ok a
  | .error e => failAt c e

def skipEquals (c : Cursor) : Except Fault Cursor :=
  match c.rest with
  | '=' :: _ => .ok (skipSpace (c.advance 1))
  | _ => failAt c .noEqualsSign

def readText (c : Cursor) : Except Fault (Value × Cursor) :=
  let value (r : Except Fault (List Char × Cursor)) : Except Fault (Value × Cursor) :=
    r.map fun (cs, c) => (.text (String.ofList cs), c)
  if c.sees "\"\"\"" then value (readLines false c)
  else if c.sees "'''" then value (readLines true c)
  else if c.sees "'" then value (readLiteralLine c)
  else value (readBasicLine c)

def skipGap (c : Cursor) : Except Fault Cursor := skipFiller (c.rest.length + 1) c

-- Keys of a table in braces that are closed to its later keys.
def closes (closed : List Key) (key : Key) : Bool := closed.any (·.isPrefixOf key)

mutual

-- Reads a value; `fuel` exceeds twice the length of the rest.
def readValue : Nat → Cursor → Except Fault (Value × Cursor)
  | 0, c => failAt c .badValue
  | fuel + 1, c =>
    match c.rest with
    | '"' :: _ | '\'' :: _ => readText c
    | '[' :: _ => do
      let c ← skipGap (c.advance 1)
      if c.sees "]" then .ok (.list [], c.advance 1) else readItems fuel c []
    | '\x7b' :: _ =>
      let c := skipSpace (c.advance 1)
      if c.sees "\x7d" then .ok (.object [], c.advance 1) else readMembers fuel c [] []
    | _ =>
      if c.sees "true" then .ok (.bool true, c.advance 4)
      else if c.sees "false" then .ok (.bool false, c.advance 5)
      else readScalar c

def readItems : Nat → Cursor → List Value → Except Fault (Value × Cursor)
  | 0, c, _ => failAt c .badValue
  | fuel + 1, c, read => do
    let (v, c) ← readValue fuel c
    let read := v :: read
    let c ← skipGap c
    if c.sees "]" then .ok (.list read.reverse, c.advance 1)
    else if c.sees "," then
      let c ← skipGap (c.advance 1)
      if c.sees "]" then .ok (.list read.reverse, c.advance 1) else readItems fuel c read
    else failAt c .arrayNotClosed

def readMembers : Nat → Cursor → Document → List Key → Except Fault (Value × Cursor)
  | 0, c, _, _ => failAt c .badValue
  | fuel + 1, c, read, closed => do
    let (key, c) ← readKey c
    let c ← skipEquals c
    let (v, c) ← readValue fuel c
    if closes closed key then failAt c (.frozen key)
    else
      let name := key.getLastD ""
      let read ← orFault c
        (alter false (addMember name v (.inlineKeyTwice name)) key.dropLast read)
      let c := skipSpace c
      if c.sees "\x7d" then .ok (.object read, c.advance 1)
      else if c.sees "," then
        readMembers fuel (skipSpace (c.advance 1)) read
          (if Sections.isComposite v then key :: closed else closed)
      else failAt c .inlineTableNotClosed

end

def skipClosing (closing : String) (e : Complaint) (c : Cursor) : Except Fault Cursor :=
  if c.sees closing then .ok (c.advance closing.length) else failAt c e

def readTitle (c : Cursor) (s : Sections) : Except Fault (Sections × Cursor) := do
  let s := s.endSection
  if c.sees "[[" then
    let (key, c) ← readKey (skipSpace (c.advance 2))
    let s ← orFault c (s.beginItem key)
    .ok (s, ← skipClosing "]]" .tableArrayNotClosed c)
  else
    let (key, c) ← readKey (skipSpace (c.advance 1))
    let s ← orFault c (s.beginTable key)
    .ok (s, ← skipClosing "]" .tableNotClosed c)

def readPair (c : Cursor) (s : Sections) : Except Fault (Sections × Cursor) := do
  let (key, c) ← readKey c
  let c ← skipEquals c
  let (v, c) ← readValue (2 * c.rest.length + 2) c
  .ok (← orFault c (s.add key v), c)

def readStatement (c : Cursor) (s : Sections) : Except Fault (Sections × Cursor) :=
  match c.rest with
  | '#' :: _ => .ok (s, c)
  | '[' :: _ => (readTitle c s).map fun (s, c) => (s, skipSpace c)
  | x :: _ =>
    if startsKey x then (readPair c s).map fun (s, c) => (s, skipSpace c)
    else failAt c .badStatement
  | [] => .ok (s, c)

def readLinesOf : Nat → Cursor → Sections → Except Fault Sections
  | 0, _, s => .ok s
  | fuel + 1, c, s => do
    let c := skipSpace c
    match c.rest with
    | [] => .ok s
    | '\n' :: _ => readLinesOf fuel (c.advance 1) s
    | _ =>
      let (s, c) ← readStatement c s
      let c ← skipComment c
      match c.rest with
      | [] => .ok s
      | '\n' :: _ => readLinesOf fuel (c.advance 1) s
      | _ => failAt c .noNewline

def read (text : String) : Except Fault Document :=
  (readLinesOf (text.length + 1) (.ofText text) {}).map (·.content)

end EntityCatalog.Toml
