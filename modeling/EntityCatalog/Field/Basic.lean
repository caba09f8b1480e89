import EntityCatalog.Field.Type
import EntityCatalog.Value.Plain

namespace EntityCatalog

-- The value of an option, and whether it was given or is the usual one.
structure Setting (α : Type) where
  value : α
  given : Bool
deriving DecidableEq, Repr, Inhabited

namespace Setting

variable {α : Type}

def usual (a : α) : Setting α := ⟨a, false⟩

def of (a : α) : Setting α := ⟨a, true⟩

end Setting

structure Field where
  name : String
  type : DeclaredType
  required : Setting Bool := .usual false
  unique : Setting (Option Bool) := .usual none
  minLength : Setting (Option Int) := .usual none
  maxLength : Setting (Option Int) := .usual none
  pattern : Setting (Option String) := .usual none
  minimum : Setting (Option Binary64) := .usual none
  maximum : Setting (Option Binary64) := .usual none
  defaultValue : Setting Value := .usual .null
  inTable : Setting Bool := .usual true
  searchable : Setting Bool := .usual true
deriving Repr, Inhabited

namespace Field

def hasDefault (f : Field) : Bool := f.defaultValue.given

def attributes (f : Field) : List (String × Value × Bool) :=
  let option {α : Type} (wrap : α → Value) (s : Setting (Option α)) : Value × Bool :=
    (match s.value with
      | some a => wrap a
      | none => .null, s.given)
  [("name", .text f.name, true),
   ("type", .text f.type.text, true),
   ("required", .bool f.required.value, f.required.given),
   ("unique", option .bool f.unique),
   ("minLength", option .int f.minLength),
   ("maxLength", option .int f.maxLength),
   ("pattern", option .text f.pattern),
   ("min", option .real f.minimum),
   ("max", option .real f.maximum),
   ("defaultValue", f.defaultValue.value, f.defaultValue.given),
   ("displayInDataTable", .bool f.inTable.value, f.inTable.given),
   ("enableSearch", .bool f.searchable.value, f.searchable.given)]

def toDocument (f : Field) : Document :=
  f.attributes.filterMap fun (name, value, given) =>
    if given then some (name, value.plain) else none

def same (f g : Field) : Bool :=
  f.attributes.length == g.attributes.length &&
    (f.attributes.zip g.attributes).all fun (a, b) => a.2.1.same b.2.1

def sameAll (fs gs : List Field) : Bool :=
  fs.length == gs.length && (fs.zip gs).all fun (f, g) => f.same g

end Field

end EntityCatalog
