import EntityCatalog.Store.Tables

namespace EntityCatalog

abbrev Work (α : Type) := StateT Tables (Except Failure) α

namespace Work

variable {α : Type}

def reading (f : Tables → Except Failure α) : Work α := fun t => (f t).map (·, t)

def writing (f : Tables → Except Failure Tables) : Work Unit := fun t => (f t).map ((), ·)

end Work

inductive Undoing where
  | failed (f : Failure)
  | givenUp
deriving Repr

structure Done (α : Type) where
  answers : List α
  undone : Option Undoing := none

namespace Tables

variable {α : Type}

def runSteps (t : Tables) : List (Work α) → List α × Except Failure Tables
  | [] => ([], .ok t)
  | w :: ws =>
    match w t with
    | .error f => ([], .error f)
    | .ok (a, t) =>
      let (as, r) := t.runSteps ws
      (a :: as, r)

-- Does steps in one transaction; a transaction that is given up is undone at its end.
def transact (t : Tables) (steps : List (Work α)) (giveUp : Bool) : Done α × Tables :=
  match t.runSteps steps with
  | (as, .error f) => (⟨as, some (.failed f)⟩, t)
  | (as, .ok t') => if giveUp then (⟨as, some .givenUp⟩, t) else (⟨as, none⟩, t')

end Tables

end EntityCatalog
