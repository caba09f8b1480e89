import EntityCatalog.Text.Split

namespace EntityCatalog.Like

def escapeChar (c : Char) : List Char :=
  if c = '\\' ∨ c = '%' ∨ c = '_' then ['\\', c] else [c]

def escape (cs : List Char) : List Char := cs.flatMap escapeChar

def foldChar (c : Char) : Char := c.toLower

def fold (cs : List Char) : List Char := cs.map foldChar

def anyRest (test : List Char → Bool) : List Char → Bool
  | [] => test []
  | c :: cs => test (c :: cs) || anyRest test cs

-- Whether a text matches a pattern. A backslash at the end of a pattern matches nothing.
def accepts : List Char → List Char → Bool
  | [], s => s.isEmpty
  | '%' :: ps, s => anyRest (accepts ps) s
  | '_' :: ps, s =>
    match s with
    | [] => false
    | _ :: cs => accepts ps cs
  | '\\' :: p :: ps, s =>
    match s with
    | [] => false
    | c :: cs => foldChar p == foldChar c && accepts ps cs
  | ['\\'], _ => false
  | p :: ps, s =>
    match s with
    | [] => false
    | c :: cs => foldChar p == foldChar c && accepts ps cs

end EntityCatalog.Like
