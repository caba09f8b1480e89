import EntityCatalog.Entity
import EntityCatalog.Validation.Validator

namespace EntityCatalog

structure EntityKey where
  scope : String
  name : String
deriving DecidableEq, Repr

structure ValidatorCache where
  entries : List (EntityKey × Validator) := []

namespace ValidatorCache

def size (c : ValidatorCache) : Nat := c.entries.length

def get? (c : ValidatorCache) (key : EntityKey) : Option Validator := c.entries.lookup key

def contains (c : ValidatorCache) (key : EntityKey) : Bool := c.entries.any (·.1 == key)

def insert (c : ValidatorCache) (key : EntityKey) (v : Validator) : ValidatorCache :=
  if c.contains key then ⟨c.entries.map fun e => if e.1 == key then (key, v) else e⟩
  else ⟨c.entries ++ [(key, v)]⟩

def put (c : ValidatorCache) (key : EntityKey) (fields : List Field) :
    Except Failure (Validator × ValidatorCache) := do
  let v ← Validator.generate fields
  .ok (v, c.insert key v)

-- The kept validator if it was made from equal fields, or else a new one.
def getOrCreate (c : ValidatorCache) (key : EntityKey) (fields : List Field) :
    Except Failure (Validator × ValidatorCache) :=
  match c.get? key with
  | some v => if Field.sameAll v.fields fields then .ok (v, c) else c.put key fields
  | none => c.put key fields

def erase (c : ValidatorCache) (key : EntityKey) : ValidatorCache :=
  ⟨c.entries.filter (·.1 != key)⟩

def empty : ValidatorCache := {}

def warm (c : ValidatorCache) : List Entity → ValidatorCache × Except Failure Nat
  | [] => (c, .ok 0)
  | e :: es =>
    match c.put ⟨e.scope, e.name⟩ e.fields with
    | .error f => (c, .error f)
    | .ok (_, c) =>
      match c.warm es with
      | (c, .ok n) => (c, .ok (n + 1))
      | (c, .error f) => (c, .error f)

end ValidatorCache

end EntityCatalog
