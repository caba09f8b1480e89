import EntityCatalog.Error
import EntityCatalog.Validation.Rule

namespace EntityCatalog

inductive Extent where
  | whole
  | changes
deriving DecidableEq, Repr

namespace Extent

def ofName? (s : String) : Option Extent :=
  if s = "full" then some whole else if s = "partial" then some changes else none

end Extent

structure FieldRule where
  name : String
  required : Bool
  rule : ValueRule

namespace FieldRule

-- Null is a value of every field that is not required.
def check (r : FieldRule) (v : Value) : Verdict :=
  if v.isNull && !r.required then .taken .null else r.rule.check v

def verdict? (r : FieldRule) (extent : Extent) (payload : Document) : Option Verdict :=
  match payload.get? r.name with
  | some v => some (r.check v)
  | none => if r.required && extent = .whole then some (.refused .missing) else none

end FieldRule

structure Validator where
  fields : List Field
  rules : List FieldRule

namespace Validator

-- Adds the rule of a field; of two fields of one name the later takes the earlier one's place.
def addRule (rules : List FieldRule) (r : FieldRule) : List FieldRule :=
  if rules.any (·.name == r.name) then rules.map fun q => if q.name == r.name then r else q
  else rules ++ [r]

def generate (fields : List Field) : Except Failure Validator := do
  let rules ← fields.mapM fun f => do
    let rule ← f.valueRule
    .ok ({ name := f.name, required := f.required.value, rule } : FieldRule)
  let rules := rules.foldl addRule []
  if rules.all (·.rule.fitsLengths) then .ok ⟨fields, rules⟩
  else .error .limitOutOfRange

def withDefaults (fields : List Field) (data : Document) : Document :=
  fields.foldl (fun d f =>
    if f.hasDefault && !d.has f.name then d.set f.name f.defaultValue.value else d) data

def payload (v : Validator) (extent : Extent) (data : Document) : Document :=
  match extent with
  | .whole => withDefaults v.fields data
  | .changes => data

def verdicts (v : Validator) (extent : Extent) (data : Document) : List (String × Verdict) :=
  let payload := v.payload extent data
  v.rules.filterMap fun r => (r.verdict? extent payload).map (r.name, ·)

def problemsOf (vs : List (String × Verdict)) : List Problem :=
  vs.filterMap fun (name, verdict) =>
    match verdict with
    | .refused f => some ⟨name, f.message⟩
    | _ => none

def takenOf (vs : List (String × Verdict)) : Document :=
  vs.filterMap fun (name, verdict) =>
    match verdict with
    | .taken w => some (name, w)
    | _ => none

def overflows (vs : List (String × Verdict)) : Bool :=
  vs.any fun (_, verdict) =>
    match verdict with
    | .overflow => true
    | _ => false

def applyObject (v : Validator) (extent : Extent) (data : Document) : Except Failure Document :=
  let vs := v.verdicts extent data
  if overflows vs then .error .overflow
  else
    match problemsOf vs with
    | [] => .ok (takenOf vs)
    | problems => .error (.rejected (.invalidRecord problems))

def apply (v : Validator) (extent : Extent) (data : Value) : Except Failure Document :=
  match data with
  | .object d => v.applyObject extent d
  | _ => .error (.rejected (.invalidRecord [⟨Problem.root, "Input should be an object"⟩]))

end Validator

end EntityCatalog
