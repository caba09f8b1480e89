import EntityCatalog.Layout.Table

namespace EntityCatalog.Layout

def screenWidth : Nat := 120

inductive Block where
  | text (cs : List Char)
  | table (t : Table)
  | panel (p : Panel)

def Block.ofText (s : String) : Block := .text s.toList

def Block.blank : Block := .text []

-- The lines of a block; no line is longer than the screen is wide.
def Block.lines (b : Block) : List (List Char) :=
  let lines := match b with
    | .text cs => wrap .fold false screenWidth (printable cs)
    | .table t => t.lines screenWidth
    | .panel p => p.lines screenWidth
  lines.map (truncate .fold screenWidth)

def screenText (blocks : List Block) : String :=
  let text := Text.joinWith '\n' (blocks.flatMap Block.lines)
  String.ofList ((text.reverse.dropWhile (· == '\n')).reverse)

end EntityCatalog.Layout
