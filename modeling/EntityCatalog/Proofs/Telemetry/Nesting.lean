import EntityCatalog.Proofs.Value.Document
import EntityCatalog.Telemetry.Tracer
import Mathlib

namespace EntityCatalog

-- A block of work that was entered, with what was noted in it and the blocks inside of it.
inductive Act.Block where
  | mk (name : String) (notes : Document) (inside : List Act.Block)

namespace Act

mutual

def fails : Act → Bool
  | .note .. | .attempt _ => false
  | .fail => true
  | .span _ work => failsAll work

def failsAll : List Act → Bool
  | [] => false
  | a :: as => a.fails || failsAll as

end

mutual

def noted (notes : Document) : Act → Document
  | .note key value => Document.set notes key value
  | .attempt work => notedAll notes work
  | .span .. | .fail => notes

def notedAll (notes : Document) : List Act → Document
  | [] => notes
  | a :: as => if a.fails then a.noted notes else notedAll (a.noted notes) as

end

mutual

def blocks : Act → List Block
  | .note .. | .fail => []
  | .attempt work => blocksAll work
  | .span name work => [⟨name, notedAll [] work, blocksAll work⟩]

def blocksAll : List Act → List Block
  | [] => []
  | a :: as => a.blocks ++ if a.fails then [] else blocksAll as

end

end Act

namespace Span

-- Spans that came one after the other, each around its children, while all readings after `n` up
-- to `m` were taken for their beginnings and ends.
inductive InTurn : Nat → List Span → Nat → Prop
  | nil {n : Nat} : InTurn n [] n
  | cons {n m k : Nat} {name : String} {notes : Document} {children later : List Span} :
    InTurn (n + 1) children m → InTurn (m + 1) later k →
    InTurn n (⟨name, n + 1, some (m + 1), notes, children⟩ :: later) k

mutual

def within : Span → List Span
  | ⟨name, start, stop, notes, children⟩ =>
    ⟨name, start, stop, notes, children⟩ :: withinAll children

def withinAll : List Span → List Span
  | [] => []
  | s :: ss => within s ++ withinAll ss

end

mutual

def times : Span → List Nat
  | ⟨_, start, stop, _, children⟩ => start :: (timesAll children ++ stop.toList)

def timesAll : List Span → List Nat
  | [] => []
  | s :: ss => times s ++ timesAll ss

end

mutual

def block : Span → Act.Block
  | ⟨name, _, _, notes, children⟩ => ⟨name, notes, blocks children⟩

def blocks : List Span → List Act.Block
  | [] => []
  | s :: ss => block s :: blocks ss

end

theorem blocks_append {ss rest : List Span} : blocks (ss ++ rest) = blocks ss ++ blocks rest := by
  induction ss
  case nil => rfl
  case cons s ss hi => simp [blocks, hi]

-- A span that has ended, after all of its children had, and these one after the other.
structure IsNested {τ : Type} [AddCommGroup τ] [LinearOrder τ] (clock : Nat → τ) (s : Span) :
    Prop where
  around : ∃ e, s.stop = some e ∧ clock s.start < clock e ∧ ∀ c ∈ s.children, ∃ d,
    c.stop = some d ∧ clock s.start < clock c.start ∧ clock c.start < clock d ∧ clock d < clock e
  apart  : s.children.Pairwise fun a b => ∃ d, a.stop = some d ∧ clock d < clock b.start
  total  : (s.children.map (duration clock)).sum ≤ s.duration clock

namespace InTurn

variable {n m k : Nat} {ss rest : List Span}

theorem le (h : InTurn n ss m) : n ≤ m := by
  induction h
  case nil => exact le_rfl
  case cons hc hl => omega

theorem append (h : InTurn n ss m) (hr : InTurn m rest k) : InTurn n (ss ++ rest) k := by
  induction h
  case nil => exact hr
  case cons hc _ _ hl => exact .cons hc (hl hr)

theorem timesAll_eq (h : InTurn n ss m) : timesAll ss = List.range' (n + 1) (m - n) := by
  induction h
  case nil => simp [timesAll]
  case cons n m k name notes children later hc hl hic hil =>
    have hcm := hc.le
    have hlk := hl.le
    have hn : k - n = 1 + ((m - (n + 1)) + (1 + (k - (m + 1)))) := by omega
    have hm : n + 1 + 1 + (m - (n + 1)) = m + 1 := by omega
    rw [timesAll, times, hic, hil, hn, ← List.range'_append_1, ← List.range'_append_1, hm,
      ← List.range'_append_1]
    simp

theorem exists_of_mem (h : InTurn n ss m) {s : Span} (hs : s ∈ ss) :
    ∃ d, s.stop = some d ∧ n < s.start ∧ s.start < d ∧ d ≤ m := by
  induction h
  case nil => cases hs
  case cons hc hl _ hil =>
    have hcm := hc.le
    have hlk := hl.le
    rcases List.mem_cons.mp hs with rfl | hs
    case inl => exact ⟨_, rfl, by dsimp only; omega, by dsimp only; omega, by omega⟩
    case inr =>
      obtain ⟨d, hd, hn, hsd, hdm⟩ := hil hs
      exact ⟨d, hd, by omega, hsd, hdm⟩

theorem pairwise (h : InTurn n ss m) :
    ss.Pairwise fun a b => ∃ d, a.stop = some d ∧ d < b.start := by
  induction h
  case nil => exact .nil
  case cons hl _ hil =>
    refine .cons (fun b hb => ?_) hil
    obtain ⟨_, _, hm, _⟩ := hl.exists_of_mem hb
    exact ⟨_, rfl, hm⟩

theorem of_mem_withinAll (h : InTurn n ss m) {s : Span} (hs : s ∈ withinAll ss) :
    ∃ k, s.stop = some (k + 1) ∧ InTurn s.start s.children k := by
  induction h
  case nil => cases hs
  case cons hc _ hic hil =>
    rcases List.mem_append.mp hs with hs | hs
    case inr => exact hil hs
    case inl =>
      rcases List.mem_cons.mp hs with rfl | hs
      case inl => exact ⟨_, rfl, hc⟩
      case inr => exact hic hs

section Clock

variable {τ : Type} [AddCommGroup τ] [LinearOrder τ] [IsOrderedAddMonoid τ] {clock : Nat → τ}

theorem sum_duration_le (h : InTurn n ss m) (hc : StrictMono clock) :
    (ss.map (duration clock)).sum ≤ clock m - clock n := by
  induction h
  case nil => simp
  case cons n m k name notes children later _ _ _ hil =>
    have hn : clock n ≤ clock (n + 1) := hc.monotone n.le_succ
    calc ((⟨name, n + 1, some (m + 1), notes, children⟩ :: later : List Span).map
            (duration clock)).sum
        = (clock (m + 1) - clock (n + 1)) + (later.map (duration clock)).sum := rfl
      _ ≤ (clock (m + 1) - clock (n + 1)) + (clock k - clock (m + 1)) := by gcongr
      _ = clock k - clock (n + 1) := by abel
      _ ≤ clock k - clock n := by gcongr

theorem isNested (h : InTurn n ss m) (hc : StrictMono clock) {s : Span} (hs : s ∈ withinAll ss) :
    s.IsNested clock := by
  obtain ⟨k, hk, ht⟩ := h.of_mem_withinAll hs
  have hle := ht.le
  refine ⟨⟨k + 1, hk, hc (by omega), fun c hm => ?_⟩, ?_, ?_⟩
  case refine_1 =>
    obtain ⟨d, hd, hsc, hcd, hdk⟩ := ht.exists_of_mem hm
    exact ⟨d, hd, hc hsc, hc hcd, hc (by omega)⟩
  case refine_2 => exact ht.pairwise.imp fun ⟨d, hd, hdb⟩ => ⟨d, hd, hc hdb⟩
  case refine_3 =>
    have hk' : clock k ≤ clock (k + 1) := hc.monotone k.le_succ
    calc (s.children.map (duration clock)).sum
        ≤ clock k - clock s.start := ht.sum_duration_le hc
      _ ≤ clock (k + 1) - clock s.start := by gcongr
      _ = s.duration clock := by simp [duration, hk]

end Clock

end InTurn

end Span

mutual

def Value.block? : Value → Option Act.Block
  | .object ms =>
    match Document.get? ms "name", Value.inside? ms with
    | some (.text name), some inside =>
      match Document.get? ms "annotations" with
      | some (.object notes) => some ⟨name, notes, inside⟩
      | _ => some ⟨name, [], inside⟩
    | _, _ => none
  | _ => none

def Value.inside? : List (String × Value) → Option (List Act.Block)
  | [] => some []
  | (key, v) :: ms =>
    if key = "children" then
      match v with
      | .list items => Value.blocks? items
      | _ => none
    else Value.inside? ms

def Value.blocks? : List Value → Option (List Act.Block)
  | [] => some []
  | v :: vs =>
    match Value.block? v, Value.blocks? vs with
    | some b, some bs => some (b :: bs)
    | _, _ => none

end

namespace Span

mutual

theorem block?_toValue (timer : Timer) : (s : Span) →
    Value.block? (toValue timer s) = some (block s)
  | ⟨name, start, stop, notes, children⟩ => by
    have hc := blocks?_toValues timer children
    cases notes <;> cases children <;>
      simp_all [toValue, toValues, Value.block?, Value.inside?, Value.blocks?, block, blocks,
        Document.get?, List.lookup_cons]

theorem blocks?_toValues (timer : Timer) : (ss : List Span) →
    Value.blocks? (toValues timer ss) = some (blocks ss)
  | [] => rfl
  | s :: ss => by
    simp [toValues, Value.blocks?, blocks, block?_toValue timer s, blocks?_toValues timer ss]

end

end Span

namespace Span

def extended (s : Span) (notes : Document) (more : List Span) : Span :=
  { s with notes, children := s.children ++ more }

@[simp]
theorem extended_notes {s : Span} {notes : Document} {more : List Span} :
    (s.extended notes more).notes = notes :=
  rfl

@[simp]
theorem extended_nil {s : Span} : s.extended s.notes [] = s := by
  cases s
  simp [extended]

@[simp]
theorem extended_extended {s : Span} {notes notes' : Document} {more rest : List Span} :
    (s.extended notes more).extended notes' rest = s.extended notes' (more ++ rest) := by
  simp [extended]

end Span

-- The same spans are open. Only the innermost one may have got notes and children.
def Tracer.StaysIn (t u : Tracer) : Prop :=
  t.running = [] ∧ u.running = [] ∨
    ∃ s around notes more, t.running = s :: around ∧ u.running = s.extended notes more :: around

-- What work leaves behind in an open span: notes, and the blocks that it entered as spans in turn.
structure Traced.Extends (r : Traced) (t : Tracer) (s : Span) (around : List Span)
    (notes : Document) (blocks : List Act.Block) (fails : Bool) (more : List Span) : Prop where
  running  : r.tracer.running = s.extended notes more :: around
  finished : r.tracer.finished = t.finished
  inTurn   : Span.InTurn t.readings more r.tracer.readings
  blocks   : Span.blocks more = blocks
  failed   : r.failed = fails
  seen     : ∀ x ∈ r.seen, x.opened ∧ x.current

theorem Tracer.leave_of_running {t : Tracer} {s p : Span} {around : List Span}
    (h : t.running = s :: p :: around) :
    t.leave = { t with
      readings := t.readings + 1
      running := p.extended p.notes [{ s with stop := some (t.readings + 1) }] :: around } := by
  simp [leave, h, Span.extended]

namespace Act

theorem run_span_of_running {t : Tracer} {name : String} {work : List Act} {s : Span}
    {around : List Span} (h : t.running = s :: around) :
    (span name work).run t =
      let r := runAll (t.enter name) work
      { tracer := r.tracer.leave, failed := r.failed, seen := ⟨name, true, true⟩ :: r.seen } := by
  simp [Act.run, Tracer.current?, Tracer.isCurrent, h]

theorem runAll_cons_of_failed {t : Tracer} {a : Act} {as : List Act}
    (h : (a.run t).failed = true) : runAll t (a :: as) = a.run t := by
  simp [runAll, h]

theorem runAll_cons_of_not_failed {t : Tracer} {a : Act} {as : List Act}
    (h : (a.run t).failed = false) :
    runAll t (a :: as) =
      let r := a.run t
      { runAll r.tracer as with seen := r.seen ++ (runAll r.tracer as).seen } := by
  simp [runAll, h]

mutual

theorem run_extends (t : Tracer) (s : Span) (around : List Span) (h : t.running = s :: around) :
    (a : Act) → ∃ more, (a.run t).Extends t s around (a.noted s.notes) a.blocks a.fails more
  | .note key value => by
    have hr : t.note key value =
        { t with running := s.extended (s.notes.set key value) [] :: around } := by
      simp [Tracer.note, h, Span.extended]
    refine ⟨[], ?_, ?_, ?_, rfl, rfl, nofun⟩ <;> simp only [Act.run, hr]
    case refine_1 => rfl
    case refine_3 => exact .nil
  | .fail => ⟨[], by simp [Act.run, h, noted], rfl, .nil, rfl, rfl, nofun⟩
  | .attempt work => by
    have ⟨more, he⟩ := runAll_extends t s around h work
    exact ⟨more, he.running, he.finished, he.inTurn, he.blocks, rfl, he.seen⟩
  | .span name work => by
    -- The work is done with one more reading taken, in a span that has nothing in it yet.
    have ⟨more, he⟩ := runAll_extends (t.enter name) { name, start := t.readings + 1 } (s :: around)
      (by simp [Tracer.enter, h]) work
    rw [run_span_of_running h]
    dsimp only
    rw [Tracer.leave_of_running he.running]
    refine ⟨_, rfl, ?_, ?_, ?_, he.failed, ?_⟩
    case refine_1 => exact he.finished
    case refine_2 => exact .cons he.inTurn .nil
    case refine_3 => simp [Span.blocks, Span.block, Span.extended, he.blocks, Act.blocks]
    case refine_4 =>
      intro x hx
      rcases List.mem_cons.mp hx with rfl | hx
      case inl => exact ⟨rfl, rfl⟩
      case inr => exact he.seen x hx

theorem runAll_extends (t : Tracer) (s : Span) (around : List Span) (h : t.running = s :: around) :
    (acts : List Act) → ∃ more, (runAll t acts).Extends t s around (notedAll s.notes acts)
      (blocksAll acts) (failsAll acts) more
  | [] => ⟨[], by simp [runAll, h, notedAll], rfl, .nil, rfl, rfl, nofun⟩
  | a :: as => by
    have ⟨more, he⟩ := run_extends t s around h a
    cases hf : a.fails
    case true =>
      rw [runAll_cons_of_failed (he.failed.trans hf)]
      simp only [notedAll, blocksAll, failsAll, hf, Bool.true_or, if_true, List.append_nil]
      exact ⟨more, { he with failed := he.failed.trans hf }⟩
    case false =>
      have ⟨rest, hr⟩ := runAll_extends _ _ around he.running as
      rw [runAll_cons_of_not_failed (he.failed.trans hf)]
      simp only [notedAll, blocksAll, failsAll, hf, Bool.false_or]
      refine ⟨more ++ rest, ?_, ?_, he.inTurn.append hr.inTurn, ?_, hr.failed, ?_⟩
      case refine_1 => simp [hr.running]
      case refine_2 => exact hr.finished.trans he.finished
      case refine_3 => simp [Span.blocks_append, he.blocks, hr.blocks]
      case refine_4 =>
        intro x hx
        exact (List.mem_append.mp hx).elim (he.seen x) (hr.seen x)

end

mutual

theorem run_of_not_running (t : Tracer) (h : t.running = []) :
    (a : Act) → (a.run t).tracer = t ∧ (a.run t).failed = a.fails
  | .note .. => by simp [Act.run, Tracer.note, h, fails]
  | .fail => ⟨rfl, rfl⟩
  | .attempt work => ⟨(runAll_of_not_running t h work).1, rfl⟩
  | .span name work => by
    have hw := runAll_of_not_running t h work
    simpa [Act.run, Tracer.current?, h, fails] using hw

theorem runAll_of_not_running (t : Tracer) (h : t.running = []) :
    (acts : List Act) → (runAll t acts).tracer = t ∧ (runAll t acts).failed = failsAll acts
  | [] => ⟨rfl, rfl⟩
  | a :: as => by
    have ⟨ht, hf⟩ := run_of_not_running t h a
    cases hc : a.fails
    case true =>
      rw [runAll_cons_of_failed (hf.trans hc)]
      simp [failsAll, hc, ht, hf]
    case false =>
      have ⟨hts, hfs⟩ := runAll_of_not_running t h as
      rw [runAll_cons_of_not_failed (hf.trans hc)]
      simp [failsAll, hc, ht, hts, hfs]

end

theorem run_staysIn (t : Tracer) (a : Act) : t.StaysIn (a.run t).tracer := by
  cases h : t.running
  case nil => exact .inl ⟨h, by rw [(run_of_not_running t h a).1, h]⟩
  case cons s around =>
    have ⟨more, he⟩ := run_extends t s around h a
    exact .inr ⟨s, around, _, more, h, he.running⟩

end Act

structure Span.TellsOf {τ : Type} [AddCommGroup τ] [LinearOrder τ] (clock : Nat → τ) (s : Span)
    (name : String) (acts : List Act) (n m : Nat) : Prop where
  times  : s.times = List.range' (n + 1) (m - n)
  told   : ∀ timer, (s.toValue timer).block? = some ⟨name, Act.notedAll [] acts, Act.blocksAll acts⟩
  nested : ∀ p ∈ s.within, p.IsNested clock

theorem Span.InTurn.tellsOf {τ : Type} [AddCommGroup τ] [LinearOrder τ] [IsOrderedAddMonoid τ]
    {clock : Nat → τ} {n m : Nat} {s : Span} {name : String} {acts : List Act}
    (h : InTurn n [s] m) (hc : StrictMono clock)
    (hb : s.block = ⟨name, Act.notedAll [] acts, Act.blocksAll acts⟩) :
    s.TellsOf clock name acts n m where
  times := by simpa [timesAll] using h.timesAll_eq
  told timer := by rw [block?_toValue, hb]
  nested p hp := h.isNested hc (by simpa [withinAll] using hp)

structure Traced.Nests {τ : Type} [AddCommGroup τ] [LinearOrder τ] (clock : Nat → τ) (r : Traced)
    (t : Tracer) (name : String) (acts : List Act) : Prop where
  running  : r.tracer.running = t.running
  failed   : r.failed = Act.failsAll acts
  seen     : ∀ x ∈ r.seen, x.opened ∧ x.current
  finished : ∃ s, r.tracer.finished = t.finished ++ [s] ∧
    s.TellsOf clock name acts t.readings r.tracer.readings

namespace Tracer

theorem leave_of_running_root {t : Tracer} {s : Span} (h : t.running = [s]) :
    t.leave = { readings := t.readings + 1, running := [],
                finished := t.finished ++ [{ s with stop := some (t.readings + 1) }] } := by
  simp [leave, h]

variable {τ : Type} [AddCommGroup τ] [LinearOrder τ] [IsOrderedAddMonoid τ] {clock : Nat → τ}

-- Every act gives the current span back, and so does the call around all of them, which leaves one
-- span more. This has one span inside of it for each block that was entered, and each of them
-- ended once, strictly within the one around it, and before the next one began.
theorem runRoot_nested (hc : StrictMono clock) (t : Tracer) (name : String) (acts : List Act) :
    (∀ (u : Tracer) (a : Act), u.StaysIn (a.run u).tracer) ∧
      (t.runRoot name acts).Nests clock t name acts := by
  refine ⟨Act.run_staysIn, ?_⟩
  have ⟨more, he⟩ := Act.runAll_extends ({ t with running := [] }.enter name)
    { name, start := t.readings + 1 } [] rfl acts
  rw [runRoot, leave_of_running_root he.running]
  refine ⟨rfl, he.failed, he.seen, _, congrArg (· ++ _) he.finished, ?_⟩
  -- The root itself came in turn, as the only one.
  refine Span.InTurn.tellsOf (.cons he.inTurn .nil) hc ?_
  simp [Span.block, Span.extended, he.blocks]

theorem runRoot_nested_attempt :
    let clock : Nat → Int := fun n => n
    let acts : List Act :=
      [.attempt [.span "a" [.note "k" (.int 1), .fail, .span "b" []]], .span "c" [.span "d" []],
        .fail]
    StrictMono clock ∧ (runRoot {} "root" acts).failed = true ∧
      ∃ s, (runRoot {} "root" acts).tracer.finished = [s] ∧ s.times = [1, 2, 3, 4, 5, 6, 7, 8] ∧
        (s.toValue clock).block? = some
          ⟨"root", [], [⟨"a", [("k", .int 1)], []⟩, ⟨"c", [], [⟨"d", [], []⟩]⟩]⟩ ∧
        ∀ p ∈ s.within, p.IsNested clock := by
  intro clock acts
  have hc : StrictMono clock := fun _ _ => Int.ofNat_lt.2
  have ⟨_, hr⟩ := runRoot_nested hc {} "root" acts
  have ⟨s, hs, ht⟩ := hr.finished
  exact ⟨hc, rfl, s, hs, ht.times, ht.told clock, ht.nested⟩

end Tracer

end EntityCatalog
