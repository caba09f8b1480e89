import EntityCatalog.Numeric.Fixed
import EntityCatalog.Value

namespace EntityCatalog

-- A timer: what its readings show, in units of 1/1024 of a second.
abbrev Timer := Nat → Int

structure Span where
  name : String
  start : Nat
  stop : Option Nat := none
  notes : Document := []
  children : List Span := []
deriving Repr, Inhabited

namespace Span

def duration {τ : Type} [Sub τ] (timer : Nat → τ) (s : Span) : τ :=
  timer (s.stop.getD s.start) - timer s.start

def milliseconds (d : Int) : Binary64 :=
  (Binary64.ofRatio (d < 0) (d.natAbs * 1000) 1024).roundedTo 2

mutual

def toValue (timer : Timer) : Span → Value
  | s@⟨name, _, _, notes, children⟩ =>
    .object ([("name", .text name), ("duration_ms", .real (milliseconds (s.duration timer)))] ++
      (if notes.isEmpty then [] else [("annotations", .object notes)]) ++
      (if children.isEmpty then [] else [("children", .list (toValues timer children))]))

def toValues (timer : Timer) : List Span → List Value
  | [] => []
  | s :: ss => toValue timer s :: toValues timer ss

end

end Span

end EntityCatalog
