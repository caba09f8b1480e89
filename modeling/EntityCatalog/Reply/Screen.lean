import EntityCatalog.Layout.Screen
import EntityCatalog.Numeric.Fixed
import EntityCatalog.Reply

namespace EntityCatalog.Reply

open Layout

def cell : Value → String
  | .null => ""
  | .bool true => "true"
  | .bool false => "false"
  | v@(.list _) | v@(.object _) => v.toJson .dense
  | v => v.display

def shown (d : Document) (key : String) : String :=
  match d.get? key with
  | some v => v.display
  | none => ""

def listOf : Option Value → List Value
  | some (.list vs) => vs
  | _ => []

def documentOf : Option Value → Document
  | some (.object d) => d
  | _ => []

-- Nothing, nought and what is empty do not count as true.
def isTruthy : Value → Bool
  | .null | .bool false | .text "" | .list [] | .object [] => false
  | .int n => n ≠ 0
  | .real x => !(x.position.same (.ofInt 0))
  | _ => true

def holdsTrue (d : Document) (key : String) : Bool := (d.get? key).any isTruthy

def line (parts : List String) : Block := .ofText (" ".intercalate parts)

def status (r : Reply) : Block := line ["OK", "  " ++ r.action]

def entry (key text : String) : Block := line ["  " ++ key ++ ": ", text]

def entries (d : Document) (keys : List String) : List Block :=
  keys.filterMap fun k => (d.get? k).map fun v => entry k (cell v)

def indented (d : Document) : List Block :=
  d.map fun (k, v) => .ofText ("    " ++ k ++ ": " ++ cell v)

def opensTag (c : Char) : Bool :=
  ('a' ≤ c && c ≤ 'z') || c == '#' || c == '/' || c == '@'

-- Whether what follows a bracket makes it a tag: a bracket closes before another opens.
def isTag : List Char → Bool
  | [] => false
  | c :: cs => opensTag c && ((cs.find? fun d => d == ']' || d == '[') == some ']')

-- A text as it appears between styled parts: a backslash before a bracket that is no tag is
-- dropped.
def unescaped : List Char → List Char
  | [] => []
  | '\\' :: '[' :: cs => if isTag cs then '\\' :: '[' :: unescaped cs else '[' :: unescaped cs
  | c :: cs => c :: unescaped cs

-- A single backslash at the end of a text is doubled.
def closed (cs : List Char) : List Char :=
  match cs.reverse with
  | '\\' :: '\\' :: _ => cs
  | '\\' :: _ => cs ++ ['\\']
  | _ => cs

def styledPart (s : String) : String := String.ofList (unescaped (closed s.toList))

def durationText (v : Option Value) : String :=
  let x := match v with
    | some (.real x) => x
    | some (.int n) => (Binary64.ofInt? n).getD .nan
    | _ => .zero
  let cs := x.fixedText 2
  String.ofList (blanks (8 - cs.length) ++ cs)

def spanLine (indent : Nat) (span : Document) : Block :=
  let name := match span.get? "name" with
    | some v => v.display
    | none => "?"
  let notes := (documentOf (span.get? "annotations")).map fun (k, v) => k ++ "=" ++ cell v
  let tail := if notes.isEmpty then "" else "  (" ++ styledPart (", ".intercalate notes) ++ ")"
  .ofText (String.ofList (blanks indent) ++ durationText (span.get? "duration_ms") ++ "ms  " ++
    styledPart name ++ tail)

mutual

def spanLines (indent : Nat) : Value → List Block
  | .object span => spanLine indent span :: childLines (indent + 4) span
  | _ => []

def childLines (indent : Nat) : List (String × Value) → List Block
  | [] => []
  | ("children", .list vs) :: _ => spansLines indent vs
  | _ :: ms => childLines indent ms

def spansLines (indent : Nat) : List Value → List Block
  | [] => []
  | v :: vs => spanLines indent v ++ spansLines indent vs

end

def extrasBlocks (r : Reply) : List Block :=
  match r.extras with
  | none | some [] => []
  | some m =>
    .blank :: .ofText "  meta:" :: m.flatMap fun (k, v) =>
      if k = "telemetry" then spanLines 4 v else indented [(k, v)]

def constraintKeys : List String :=
  ["minLength", "maxLength", "pattern", "min", "max", "defaultValue", "unique"]

def constraints (field : Document) : String :=
  ", ".intercalate (constraintKeys.filterMap fun k =>
    (field.get? k).map fun v => k ++ "=" ++ cell v)

def tableOf (columns : List Column) (rows : List (List String)) : Table :=
  ⟨columns, rows.map fun r => r.map fun s => printable s.toList⟩

def titled (title : String) : Column := { title := printable title.toList }

def rigidly (title : String) : Column := { titled title with rigid := true }

def fieldsTable (fields : List Value) : Table :=
  tableOf [rigidly "Field", titled "Type", titled "Required", titled "Constraints"]
    (fields.map fun f =>
      let f := documentOf (some f)
      [shown f "name", shown f "type", if holdsTrue f "required" then "yes" else "",
       constraints f])

def times (d : Document) : List Block :=
  ["created_at", "updated_at"].map fun k => entry k (cell ((d.get? k).getD .null))

def entityBlocks (detailed : Bool) (r : Reply) : List Block :=
  let fields := listOf (r.data.get? "fields")
  [r.status] ++ entries r.data ["id", "name", "table_name", "scope_id"] ++
    (if detailed then times r.data else []) ++
    (if fields.isEmpty then [] else [.panel ⟨"fields".toList, fieldsTable fields⟩]) ++
    (if detailed then r.extrasBlocks else [])

def sizeOf : Option Value → Nat
  | some (.list vs) => vs.length
  | some (.object ms) => ms.length
  | some (.text s) => s.length
  | _ => 0

def entityListBlocks (detailed : Bool) (r : Reply) : List Block :=
  let items := (listOf (r.data.get? "items")).map fun v => documentOf (some v)
  let columns := [rigidly "Name", titled "Table", { titled "Fields" with alignment := .right }] ++
    (if detailed then [titled "Updated"] else [])
  let rows := items.map fun d =>
    [shown d "name", shown d "table_name", toString (sizeOf (d.get? "fields"))] ++
      (if detailed then [shown d "updated_at"] else [])
  let count := match r.data.get? "count" with
    | some v => v.display
    | none => toString items.length
  [.table (tableOf columns rows), .ofText ("\n" ++ count ++ " entities")]

def changedText (v : Value) : String :=
  let names := (listOf (some v)).map Value.display
  if names.isEmpty then "(none)" else ", ".intercalate names

def recordBlocks (detailed : Bool) (r : Reply) : List Block :=
  let data := documentOf (r.data.get? "data")
  [r.status] ++ entries r.data ["id", "entity_type"] ++
    (((r.data.get? "fields_changed").map fun v => entry "fields_changed" (changedText v)).toList) ++
    (if detailed then times r.data else []) ++
    (if data.isEmpty then [] else .blank :: data.map fun (k, v) => entry k (cell v)) ++
    (if detailed then r.extrasBlocks else [])

def pageSummary (extras : Document) (count : Nat) : String :=
  let told (key : String) (usual : Nat) := match extras.get? key with
    | some v => v.display
    | none => toString usual
  let total := told "total" count
  if extras.has "page" then
    let page := told "page" 0
    let pages := told "totalPages" 0
    s!"\n{count} of {total} records (page {page} of {pages})"
  else s!"\n{total} records"

def recordListBlocks (detailed : Bool) (r : Reply) : List Block :=
  let items := (listOf (r.data.get? "items")).map fun v => documentOf (some v)
  let dataOf (d : Document) := documentOf (d.get? "data")
  let keys := (items.flatMap fun d => (dataOf d).keys).eraseDups
  let columns := [rigidly "ID"] ++ keys.map titled ++
    (if detailed then [titled "Created"] else [])
  let rows := items.map fun d =>
    [shown d "id"] ++ (keys.map fun k => cell (((dataOf d).get? k).getD .null)) ++
      (if detailed then [shown d "created_at"] else [])
  [.table (tableOf columns rows), .ofText (pageSummary (r.extras.getD []) items.length)] ++
    (if detailed then r.extrasBlocks else [])

def deletedBlocks (detailed : Bool) (r : Reply) : List Block :=
  [r.status] ++ entries r.data ["id", "name", "entity_type", "records_deleted"] ++
    (if detailed then r.extrasBlocks else [])

def otherBlocks (detailed : Bool) (r : Reply) : List Block :=
  [r.status] ++ (r.data.map fun (k, v) => entry k (cell v)) ++
    (if detailed then r.extrasBlocks else [])

def problemLine (v : Value) : Block :=
  let d := documentOf (some v)
  line ["  ", shown d "field", ": " ++ shown d "message"]

def rejectionBlocks (detailed : Bool) (r : Reply) : List Block :=
  let message := (r.rejection.map (·.message)).getD "Unknown error"
  line ["ERROR", "  " ++ r.action, " — ", message] ::
    match r.rejection with
    | none => []
    | some e =>
      (listOf (e.detail.get? "errors")).map problemLine ++
        (if detailed && !e.detail.isEmpty then .ofText "  detail:" :: indented e.detail else [])

def blocks (detailed : Bool) (r : Reply) : List Block :=
  if r.ok then
    match r.action with
    | "define_entity" | "get_entity" | "update_entity" => r.entityBlocks detailed
    | "list_entities" => r.entityListBlocks detailed
    | "create_record" | "get_record" | "update_record" => r.recordBlocks detailed
    | "list_records" => r.recordListBlocks detailed
    | "delete_entity" | "delete_record" => r.deletedBlocks detailed
    | _ => r.otherBlocks detailed
  else r.rejectionBlocks detailed

-- How replies are shown. JSON wins over brief replies, and those win over the screen.
structure Display where
  json : Bool := false
  brief : Bool := false
  detailed : Bool := false
deriving DecidableEq, Repr

def text (d : Display) (r : Reply) : String :=
  if d.json then r.toJson
  else if d.brief then r.brief
  else screenText (r.blocks d.detailed)

end EntityCatalog.Reply
