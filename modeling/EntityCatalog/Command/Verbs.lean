import EntityCatalog.Command.Arguments
import EntityCatalog.Query

namespace EntityCatalog.Command

inductive Task where
  | defineEntity (name : String) (typed : List String) (file : Option String)
  | listEntities
  | showEntity (name : String)
  | updateEntity (name : String) (typed : List String) (file : Option String)
  -- Unless it is sure, a person is asked first.
  | deleteEntity (name : String) (sure : Bool)
  | createRecord (entity : String) (data file : Option String)
  | getRecord (entity id : String)
  | listRecords (entity : String) (asked : QueryText)
  | updateRecord (entity id : String) (data file : Option String)
  | deleteRecord (entity id : String)
deriving Repr

structure Verb where
  name : String
  usage : Usage
  task : Words → Task

def programName : String := "entityctl"

def programVersion : String := "0.1.0"

def argument (w : Words) (i : Nat) : String := w.arguments.getD i ""

def fieldOptions : List OptionUse :=
  [{ names := ["--field"], kind? := some .text
     help := "Field as name:type[!] or JSON. Types: " ++
       ", ".intercalate (FieldType.all.map FieldType.token) ++ "." },
   { names := ["--fields-file"], kind? := some .file
     help := "JSON file holding an array of field definitions." }]

def dataOptions : List OptionUse :=
  [{ names := ["--data"], kind? := some .text, help := "Record payload as a JSON object." },
   { names := ["--data-file"], kind? := some .file
     help := "JSON file holding the record payload." }]

def entityVerbs : List Verb :=
  [{ name := "define"
     usage :=
       { path := "entityctl entity define"
         summary := "Define a new entity NAME in the current scope."
         arguments := ["NAME"], ownOptions := fieldOptions
         examples :=
           ["entityctl entity define Product --field title:string! --field price:number",
            "entityctl --scope acme entity define \"Blog Post\" --fields-file post.json"] }
     task := fun w =>
       .defineEntity (argument w 0) (w.values "--field") (w.value? "--fields-file") },
   { name := "delete"
     usage :=
       { path := "entityctl entity delete"
         summary := "Delete entity NAME and every one of its records."
         arguments := ["NAME"]
         ownOptions := [{ names := ["--yes"], help := "Skip the confirmation prompt." }]
         examples := ["entityctl entity delete Product --yes"] }
     task := fun w => .deleteEntity (argument w 0) (w.has "--yes") },
   { name := "list"
     usage :=
       { path := "entityctl entity list"
         summary := "List entity definitions in the current scope."
         examples := ["entityctl entity list", "entityctl --json --scope acme entity list"] }
     task := fun _ => .listEntities },
   { name := "show"
     usage :=
       { path := "entityctl entity show"
         summary := "Show one entity definition and its fields."
         arguments := ["NAME"]
         examples := ["entityctl entity show Product"] }
     task := fun w => .showEntity (argument w 0) },
   { name := "update"
     usage :=
       { path := "entityctl entity update"
         summary := "Replace the field list of entity NAME."
         details := [["Existing records are kept as stored and are not re-validated."]]
         arguments := ["NAME"], ownOptions := fieldOptions
         examples :=
           ["entityctl entity update Product --fields-file product-v2.json",
            "entityctl entity update Product --field title:string! --field stock:number"] }
     task := fun w =>
       .updateEntity (argument w 0) (w.values "--field") (w.value? "--fields-file") }]

def listOptions : List OptionUse :=
  [{ names := ["--search"], kind? := some .text
     help := "Filter as field:operatorValue, ';'-separated (all must match)." },
   { names := ["--sort"], kind? := some .text, help := "Sort as field:asc or field:desc." },
   { names := ["--page"], kind? := some .integer, help := "Page number (starts at 1)." },
   { names := ["--limit"], kind? := some .integer
     help := "Page size (capped by [query] max_limit)." },
   { names := ["--select"], kind? := some .text
     help := "Comma-separated data fields to return." }]

def queryOf (w : Words) : QueryText :=
  { search := w.value? "--search", sort := w.value? "--sort"
    page := (w.value? "--page").bind Words.integer?
    limit := (w.value? "--limit").bind Words.integer?
    select := w.value? "--select" }

def recordVerbs : List Verb :=
  [{ name := "create"
     usage :=
       { path := "entityctl record create"
         summary := "Create a record of ENTITY (every required field must be present)."
         arguments := ["ENTITY"], ownOptions := dataOptions
         examples :=
           ["entityctl record create Product --data '\x7b\"title\": \"Desk\", \"price\": 120\x7d'",
            "entityctl --json record create Product --data-file desk.json"] }
     task := fun w => .createRecord (argument w 0) (w.value? "--data") (w.value? "--data-file") },
   { name := "delete"
     usage :=
       { path := "entityctl record delete"
         summary := "Delete a single record."
         arguments := ["ENTITY", "RECORD_ID"]
         examples := ["entityctl record delete Product rec_0123456789abcdef"] }
     task := fun w => .deleteRecord (argument w 0) (argument w 1) },
   { name := "get"
     usage :=
       { path := "entityctl record get"
         summary := "Retrieve a single record by ID."
         arguments := ["ENTITY", "RECORD_ID"]
         examples := ["entityctl record get Product rec_0123456789abcdef"] }
     task := fun w => .getRecord (argument w 0) (argument w 1) },
   { name := "list"
     usage :=
       { path := "entityctl record list"
         summary := "Query records of ENTITY."
         details :=
           [["Operators: eq ne lk sw ew lt lte gt gte in[..] nin[..]",
             "Literals:  true false null notnull"]]
         arguments := ["ENTITY"], ownOptions := listOptions
         examples :=
           ["entityctl record list Product",
            "entityctl record list Product --search \"price:gte100;price:lt500\"",
            "entityctl record list Product --search \"title:swdesk;active:true\"",
            "entityctl record list Product --search \"status:nin[archived,draft]\"",
            "entityctl record list Product --search \"discount:null\"",
            "entityctl record list Product --sort price:asc --page 1 --limit 10",
            "entityctl record list Product --select title,price"] }
     task := fun w => .listRecords (argument w 0) (queryOf w) },
   { name := "update"
     usage :=
       { path := "entityctl record update"
         summary := "Merge the given fields into an existing record."
         arguments := ["ENTITY", "RECORD_ID"], ownOptions := dataOptions
         examples :=
           ["entityctl record update Product rec_0123456789abcdef --data '\x7b\"price\": 99\x7d'"] }
     task := fun w =>
       .updateRecord (argument w 0) (argument w 1) (w.value? "--data") (w.value? "--data-file") }]

structure Group where
  name : String
  usage : Usage
  verbs : List Verb

def summaries (verbs : List Verb) : List (String × String) :=
  verbs.map fun v => (v.name, v.usage.summary)

def groups : List Group :=
  [{ name := "entity"
     usage :=
       { path := "entityctl entity"
         summary := "Define, inspect, update, and delete entity schemas."
         commands := summaries entityVerbs
         examples :=
           ["entityctl entity define Product --field title:string! --field price:number",
            "entityctl entity define Product --field '\x7b\"name\": \"sku\", \"type\": \"string\", \"pattern\": \"^[A-Z]\x7b3\x7d-\\\\d+$\"\x7d'",
            "entityctl entity define Product --fields-file product.json",
            "entityctl entity list",
            "entityctl entity show Product",
            "entityctl entity update Product --fields-file product-v2.json",
            "entityctl entity delete Product --yes"] }
     verbs := entityVerbs },
   { name := "record"
     usage :=
       { path := "entityctl record"
         summary := "Create, query, update, and delete records of a defined entity."
         commands := summaries recordVerbs
         examples :=
           ["entityctl record create Product --data '\x7b\"title\": \"Desk\", \"price\": 120\x7d'",
            "entityctl record get Product rec_0123456789abcdef",
            "entityctl record list Product --search \"price:gte100;title:lkdesk\" --sort price:desc",
            "entityctl record list Product --search \"status:in[active,pending]\" --page 2 --limit 20",
            "entityctl record list Product --select title,price",
            "entityctl record update Product rec_0123456789abcdef --data '\x7b\"price\": 99\x7d'",
            "entityctl record delete Product rec_0123456789abcdef"] }
     verbs := recordVerbs }]

def program : Usage :=
  { path := programName
    summary := "entityctl — define entities at runtime and query their records."
    standsAlone := true
    commands := groups.map fun g => (g.name, g.usage.summary)
    ownOptions :=
      [{ names := ["--version"], help := "Show the version and exit.", shows? := some .version },
       { names := ["--json"], help := "Structured JSON output." },
       { names := ["-q", "--quiet"], help := "Minimal output." },
       { names := ["-v", "--verbose"], help := "Detailed output with debug info." },
       { names := ["--log-json"], help := "Structured JSON log output to stderr." },
       { names := ["-c", "--config"], kind? := some .text
         help := "Override config file path." },
       { names := ["--scope"], kind? := some .text
         help := "Tenant scope (default: config default_scope)." }] }

-- The settings that the words of the program give. A switch that is not given counts as one that is
-- given as off.
def givenSettings (w : Words) : Document :=
  [("json_output", .bool (w.has "--json")), ("quiet", .bool (w.has "--quiet")),
   ("verbose", .bool (w.has "--verbose")), ("log_json", .bool (w.has "--log-json"))] ++
  match w.value? "--scope" with
  | some s => [("default_scope", .text s)]
  | none => []

end EntityCatalog.Command
