import EntityCatalog.Proofs.Telemetry.Nesting
import EntityCatalog.Telemetry.Trace

namespace EntityCatalog

namespace Tracer

variable {t u v : Tracer} {name key : String} {value : Value}

theorem StaysIn.of_running_eq (hu : u.running = t.running) : t.StaysIn u := by
  cases h : t.running
  case nil => exact .inl ⟨h, hu.trans h⟩
  case cons s around =>
    exact .inr ⟨s, around, s.notes, [], h, by rw [hu, h, Span.extended_nil]⟩

theorem StaysIn.refl : t.StaysIn t := .of_running_eq rfl

theorem StaysIn.trans (h : t.StaysIn u) (h' : u.StaysIn v) : t.StaysIn v := by
  rcases h with ⟨ht, hu⟩ | ⟨s, around, notes, more, ht, hu⟩
  case inl =>
    rcases h' with ⟨_, hv⟩ | ⟨_, _, _, _, hu', _⟩
    case inl => exact .inl ⟨ht, hv⟩
    case inr => simp [hu] at hu'
  case inr =>
    rcases h' with ⟨hu', _⟩ | ⟨s', around', notes', more', hu', hv⟩
    case inl => simp [hu] at hu'
    case inr =>
      obtain ⟨rfl, rfl⟩ := List.cons.inj (hu.symm.trans hu')
      exact .inr ⟨s, _, notes', more ++ more', ht, by rw [hv, Span.extended_extended]⟩

theorem staysIn_note : t.StaysIn (t.note key value) := by
  cases h : t.running
  case nil => exact .inl ⟨h, by simp [note, h]⟩
  case cons s around =>
    exact .inr ⟨s, around, s.notes.set key value, [], h, by simp [note, h, Span.extended]⟩

-- Leaving a span that was entered inside of another one leads back to that.
theorem StaysIn.leave (h : (t.enter name).StaysIn u) (ht : t.running ≠ []) :
    t.StaysIn u.leave := by
  obtain ⟨s, around, hs⟩ := List.exists_cons_of_ne_nil ht
  rcases h with ⟨he, _⟩ | ⟨s', around', notes, more, he, hu⟩
  case inl => simp [enter] at he
  case inr =>
    obtain ⟨rfl, rfl⟩ := List.cons.inj he
    rw [hs] at hu
    exact .inr ⟨s, around, s.notes, _, hs, by rw [leave_of_running hu]⟩

end Tracer

def Telemetry.StaysIn (t u : Telemetry) : Prop := u.timer? = t.timer? ∧ t.tracer.StaysIn u.tracer

namespace Trace

variable {α β : Type} {x : Trace α} {f : α → Trace β} {name key : String} {value : Value}
  {work : Bool → Trace α} {t : Telemetry}

theorem run_bind : (x >>= f).run t =
    match x.run t with
    | (.ok a, u) => (f a).run u
    | (.error e, u) => (.error e, u) := by
  show (x >>= f) t = _
  simp only [bind, ExceptT.bind, ExceptT.mk, StateT.bind, ExceptT.run]
  rcases x t with ⟨_ | _, u⟩ <;> rfl

theorem lift_ok_bind {a : α} : (liftM (Except.ok a : Except Failure α) : Trace α) >>= f = f a := rfl

theorem run_finally {g : Telemetry → Telemetry} :
    (try x finally modify g : Trace α).run t = ((x.run t).1, g (x.run t).2) := by
  show tryFinally x (modify g) t = _
  simp only [tryFinally, tryFinally', ExceptT.mk, bind, StateT.bind, Functor.map, ExceptT.map,
    ExceptT.run]
  rcases x t with ⟨_ | _, u⟩ <;> rfl

theorem run_span : (span name work).run t =
    match t.current? with
    | none => (work false).run t
    | some _ => (((work true).run (t.enter name)).1, ((work true).run (t.enter name)).2.leave) := by
  have hc : current?.run t = (.ok t.current?, t) := rfl
  rw [span, run_bind, hc]
  cases t.current?
  case none => rfl
  case some =>
    dsimp only
    rw [run_bind]
    exact run_finally

-- Work comes to one result, whether or not it is traced, and closes the spans that it opens.
structure Erases (x : Trace α) (r : Except Failure α) : Prop where
  result  : ∀ t, (x.run t).1 = r
  staysIn : ∀ t : Telemetry, t.StaysIn (x.run t).2

namespace Erases

variable {r : Except Failure α} {s : α → Except Failure β}

theorem pure {a : α} : Erases (Pure.pure a) (.ok a) :=
  ⟨fun _ => rfl, fun _ => ⟨rfl, .refl⟩⟩

theorem lift : Erases (liftM r) r :=
  ⟨fun _ => rfl, fun _ => ⟨rfl, .refl⟩⟩

theorem note : Erases (Trace.note key value) (.ok ()) :=
  ⟨fun _ => rfl, fun _ => ⟨rfl, Tracer.staysIn_note⟩⟩

theorem bind (hx : x.Erases r) (hf : ∀ a, (f a).Erases (s a)) : (x >>= f).Erases (r >>= s) := by
  constructor
  case result =>
    intro t
    have ht := hx.result t
    rw [run_bind]
    rcases hr : x.run t with ⟨e | a, u⟩ <;> rw [hr] at ht <;> subst ht
    case error => rfl
    case ok => exact (hf a).result u
  case staysIn =>
    intro t
    have ht := hx.staysIn t
    rw [run_bind]
    rcases hr : x.run t with ⟨e | a, u⟩ <;> rw [hr] at ht
    case error => exact ht
    case ok =>
      have hu := (hf a).staysIn u
      exact ⟨hu.1.trans ht.1, ht.2.trans hu.2⟩

theorem andThen {f : α → Trace α} (hx : x.Erases r) (hf : ∀ a, (f a).Erases (.ok a)) :
    (x >>= f).Erases r := by
  have h : (x >>= f).Erases (r >>= Pure.pure) := hx.bind hf
  rwa [bind_pure] at h

-- What is done may depend on the current span, but what comes of it may not.
theorem current {f : Option Span → Trace β} {r : Except Failure β} (h : ∀ s, (f s).Erases r) :
    (current? >>= f).Erases r := by
  have hr (t : Telemetry) : (current? >>= f).run t = (f t.current?).run t := by rw [run_bind]; rfl
  exact ⟨fun t => hr t ▸ (h _).result t, fun t => hr t ▸ (h _).staysIn t⟩

theorem span (h : ∀ opened, (work opened).Erases r) : (Trace.span name work).Erases r := by
  constructor
  case result =>
    intro t
    rw [run_span]
    split
    case h_1 => exact (h false).result t
    case h_2 => exact (h true).result _
  case staysIn =>
    intro t
    rw [run_span]
    split
    case h_1 => exact (h false).staysIn t
    case h_2 s hs =>
      have ⟨hn, ht⟩ := (h true).staysIn (t.enter name)
      refine ⟨hn, ht.leave fun hr => ?_⟩
      simp [Telemetry.current?, Tracer.current?, hr] at hs

end Erases

end Trace

end EntityCatalog
