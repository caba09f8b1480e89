namespace EntityCatalog.Command

inductive Kind where
  | text
  | integer
  | file
deriving DecidableEq, Repr

def Kind.name : Kind → String
  | text => "TEXT"
  | integer => "INTEGER"
  | file => "FILE"

inductive Page where
  | help
  | examples
  | version
deriving DecidableEq, Repr

structure OptionUse where
  -- All of its names; the last one is the long one that it is known by.
  names : List String
  kind? : Option Kind := none
  help : String
  shows? : Option Page := none
deriving Repr

def OptionUse.key (o : OptionUse) : String := o.names.getLastD ""

structure Usage where
  path : String
  summary : String
  details : List (List String) := []
  arguments : List String := []
  ownOptions : List OptionUse := []
  commands : List (String × String) := []
  examples : List String := []
  -- Whether a group does something without a command.
  standsAlone : Bool := false
deriving Repr

namespace Usage

def isGroup (u : Usage) : Bool := !u.commands.isEmpty

def examplesOption : OptionUse :=
  { names := ["--examples"], help := "Show usage examples.", shows? := some .examples }

def helpOption : OptionUse :=
  { names := ["--help"], help := "Show this message and exit.", shows? := some .help }

def options (u : Usage) : List OptionUse :=
  u.ownOptions ++ (if u.examples.isEmpty then [] else [examplesOption]) ++ [helpOption]

def option? (u : Usage) (name : String) : Option OptionUse :=
  u.options.find? (·.names.contains name)

def line (u : Usage) : String :=
  let words := if u.standsAlone then ["[COMMAND]", "[ARGS]..."]
    else if u.isGroup then ["COMMAND", "[ARGS]..."] else u.arguments
  "Usage: " ++ " ".intercalate (u.path :: "[OPTIONS]" :: words)

def pageWidth : Nat := 78

def fillLines (width : Nat) (words : List String) : List String :=
  words.foldl (fun lines w =>
    match lines.getLast? with
    | none => [w]
    | some l =>
      if l.length + 1 + w.length ≤ width then lines.dropLast ++ [l ++ " " ++ w]
      else lines ++ [w]) []

def blanks (n : Nat) : String := String.ofList (List.replicate n ' ')

def columns (rows : List (String × String)) : List String :=
  let first := (rows.map (·.1.length)).foldl max 0 + 2
  rows.flatMap fun (name, text) =>
    match fillLines (pageWidth - 2 - first) (text.splitOn " ") with
    | [] => ["  " ++ name]
    | l :: ls => ("  " ++ name ++ blanks (first - name.length) ++ l) ::
        ls.map (blanks (2 + first) ++ ·)

def OptionUse.title (o : OptionUse) : String :=
  ", ".intercalate o.names ++ match o.kind? with
    | some k => " " ++ k.name
    | none => ""

def page (u : Usage) : String :=
  let paragraphs := ([u.summary] :: u.details).flatMap fun ls => "" :: ls.map ("  " ++ ·)
  let options := columns (u.options.map fun o => (OptionUse.title o, o.help))
  let commands := if u.isGroup then "" :: "Commands:" :: columns u.commands else []
  "\n".intercalate (u.line :: paragraphs ++ "" :: "Options:" :: options ++ commands)

def examplesPage (u : Usage) : String :=
  s!"Examples for '{u.path}':\n\n" ++ "\n".intercalate (u.examples.map ("  " ++ ·))

end Usage

end EntityCatalog.Command
