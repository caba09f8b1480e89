import EntityCatalog.Error
import EntityCatalog.Field.Basic
import EntityCatalog.Pattern.Parser
import EntityCatalog.Text.Blank
import EntityCatalog.Value.Display
import EntityCatalog.Value.Reads

namespace EntityCatalog.Field

def readType : Reads FieldType := fun v =>
  let wrong := Misread.notListed "'string', 'number', 'boolean', 'email', 'date' or 'url'"
  match v with
  | .text s =>
    match FieldType.ofToken? s with
    | some t => .ok t
    | none => .error wrong
  | _ => .error wrong

abbrev Attribute (α : Type) := Except Problem (Option α)

-- Reads an attribute by its name, or else by its name with underscores.
def optional {α : Type} (d : Document) (name spaced : String) (read : Reads α) : Attribute α :=
  match (d.get? name).or (d.get? spaced) with
  | none => .ok none
  | some v =>
    match read v with
    | .ok a => .ok (some a)
    | .error m => .error ⟨name, m.message⟩

def mandatory {α : Type} (d : Document) (name : String) (read : Reads α) : Attribute α :=
  match optional d name name read with
  | .ok none => .error ⟨name, Misread.missing.message⟩
  | r => r

def setting {α : Type} (usual : α) (a : Attribute α) : Setting α :=
  match a with
  | .ok (some v) => .of v
  | _ => .usual usual

def problem {α : Type} : Attribute α → List Problem
  | .error p => [p]
  | .ok _ => []

def isReserved (c : Char) : Bool := c == ':' || c == ';' || c == ',' || c == '"'

-- Names are told apart from the text around them in queries.
def nameFlaw? (name : String) : Option String :=
  if name = "" ∨ name ≠ name.stripped then
    some s!"Field name must be non-empty without surrounding spaces: {name.inQuotes}"
  else if name.toList.any isReserved then
    some s!"Field name may not contain any of :;,\" characters: {name.inQuotes}"
  else none

def exceeds {α : Type} (lt : α → α → Bool) : Option α → Option α → Bool
  | some a, some b => lt b a
  | _, _ => false

def shapeFlaw? (f : Field) : Option String :=
  let lengths := [("minLength", f.minLength.value), ("maxLength", f.maxLength.value)]
  let lengthed := lengths.any (·.2.isSome) || f.pattern.value.isSome
  let bounded := f.minimum.value.isSome || f.maximum.value.isSome
  (nameFlaw? f.name).or <|
    if !f.type.isTextual && lengthed then
      some s!"minLength/maxLength/pattern only apply to string fields: {f.name}"
    else if f.type != .known .number && bounded then
      some s!"min/max only apply to number fields: {f.name}"
    else
      match lengths.find? (·.2.any (· < 0)) with
      | some (name, _) => some s!"{name} must be >= 0: {f.name}"
      | none =>
        if exceeds (fun a b => decide (a < b)) f.minLength.value f.maxLength.value then
          some s!"minLength exceeds maxLength: {f.name}"
        else if exceeds (fun a b => a.position.lt b.position) f.minimum.value f.maximum.value then
          some s!"min exceeds max: {f.name}"
        else none

def checked (f : Field) : Except (Option String) Field :=
  match shapeFlaw? f with
  | some flaw => .error (some flaw)
  | none =>
    match f.pattern.value with
    | none => .ok f
    | some p =>
      match Pattern.compile p with
      | .ok _ => .ok f
      | .error .tooManyRounds => .error none
      | .error (.complaint .bothAlphabets _) => .error (some Pattern.Complaint.bothAlphabets.text)
      | .error (.complaint c place) =>
        .error (some s!"Invalid pattern for {f.name}: {c.message place p}")

def ofDocument (position : Nat) (d : Document) : Except Failure Field :=
  let name := mandatory d "name" Reads.text
  let type := mandatory d "type" readType
  let required := optional d "required" "required" Reads.bool
  let unique := optional d "unique" "unique" (Reads.orNull Reads.bool)
  let minLength := optional d "minLength" "min_length" (Reads.orNull Reads.integer)
  let maxLength := optional d "maxLength" "max_length" (Reads.orNull Reads.integer)
  let pattern := optional d "pattern" "pattern" (Reads.orNull Reads.text)
  let minimum := optional d "min" "min" (Reads.orNull Reads.real)
  let maximum := optional d "max" "max" (Reads.orNull Reads.real)
  let inTable := optional d "displayInDataTable" "display_in_data_table" Reads.bool
  let searchable := optional d "enableSearch" "enable_search" Reads.bool
  let problems := problem name ++ problem type ++ problem required ++ problem unique ++
    problem minLength ++ problem maxLength ++ problem pattern ++ problem minimum ++
    problem maximum ++ problem inTable ++ problem searchable
  if !problems.isEmpty then .error (.rejected (.invalidField position problems))
  else
    let field : Field :=
      { name := (setting "" name).value
        type := .known (setting .string type).value
        required := setting false required
        unique := setting none unique
        minLength := setting none minLength
        maxLength := setting none maxLength
        pattern := setting none pattern
        minimum := setting none minimum
        maximum := setting none maximum
        defaultValue := setting .null (optional d "defaultValue" "default_value" .ok)
        inTable := setting true inTable
        searchable := setting true searchable }
    match checked field with
    | .ok f => .ok f
    | .error none => .error .overflow
    | .error (some flaw) =>
      .error (.rejected (.invalidField position [⟨"", (Misread.senseless flaw).message⟩]))

def ofValue (position : Nat) : Value → Except Failure Field
  | .object d => ofDocument position d
  | _ => .error (.rejected (.invalidField position
      [⟨"", (Misread.notObject "FieldDefinition").message⟩]))

inductive Source where
  | document (v : Value)
  | field (f : Field)
deriving Repr, Inhabited

def ofSource (position : Nat) : Source → Except Failure Field
  | .field f => .ok f
  | .document v => ofValue position v

def readFrom (position : Nat) (seen : List String) : List Source → Except Failure (List Field)
  | [] => .ok []
  | s :: rest => do
    let f ← ofSource position s
    if seen.contains f.name then .error (.rejected (.duplicateField f.name))
    else
      let fs ← readFrom (position + 1) (f.name :: seen) rest
      .ok (f :: fs)

def readSources (sources : List Source) : Except Failure (List Field) := readFrom 0 [] sources

def readAll (values : List Value) : Except Failure (List Field) :=
  readSources (values.map .document)

def unchecked (d : Document) : Field :=
  let get {α : Type} (usual : α) (name spaced : String) (read : Reads α) : Setting α :=
    match (d.get? name).or (d.get? spaced) with
    | none => .usual usual
    | some v =>
      match read v with
      | .ok a => .of a
      | .error _ => .of usual
  { name := (get "" "name" "name" Reads.text).value
    type := match d.get? "type" with
      | some (.text s) => .ofText s
      | some v => .unknown v.display
      | none => .unknown "None"
    required := get false "required" "required" Reads.bool
    unique := get none "unique" "unique" (Reads.orNull Reads.bool)
    minLength := get none "minLength" "min_length" (Reads.orNull Reads.integer)
    maxLength := get none "maxLength" "max_length" (Reads.orNull Reads.integer)
    pattern := get none "pattern" "pattern" (Reads.orNull Reads.text)
    minimum := get none "min" "min" (Reads.orNull Reads.real)
    maximum := get none "max" "max" (Reads.orNull Reads.real)
    defaultValue := get .null "defaultValue" "default_value" .ok
    inTable := get true "displayInDataTable" "display_in_data_table" Reads.bool
    searchable := get true "enableSearch" "enable_search" Reads.bool }

end EntityCatalog.Field
