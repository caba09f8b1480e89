import EntityCatalog.Text.Blank
import EntityCatalog.Text.Case
import EntityCatalog.Text.Lines
import EntityCatalog.Text.Split

namespace EntityCatalog.Command.Question

def answer? (line : String) : Option Bool :=
  let word := line.lowered.stripped
  if ["y", "yes"].contains word then some true
  else if ["n", "no", ""].contains word then some false
  else none

def invalid : String := "Error: invalid input\n"

def linesOf (text : String) : List String :=
  let lines := (Text.splitOn '\n' (Text.withLineFeeds text.toList)).map String.ofList
  if lines.getLast? = some "" then lines.dropLast else lines

-- Asks until there is an answer: what is said on the way, and the answer. No answer comes when the
-- lines are used up.
def ask (question : String) : List String → String × Option Bool
  | [] => (question, none)
  | line :: lines =>
    let said := question ++ line ++ "\n"
    match answer? line with
    | some b => (said, some b)
    | none =>
      let (rest, b) := ask question lines
      (said ++ invalid ++ rest, b)

end EntityCatalog.Command.Question
