import EntityCatalog.Store.Transaction

namespace EntityCatalog

variable {α : Type}

def Work.inTurn (steps : List (Work α)) : Work (List α) := steps.mapM fun w => w

namespace Tables

theorem runSteps_eq (t : Tables) (steps : List (Work α)) :
    (t.runSteps steps).2 = (Work.inTurn steps t).map Prod.snd := by
  unfold Work.inTurn
  induction steps generalizing t
  case nil => rfl
  case cons w ws hi =>
    rw [List.mapM_cons]
    cases hw : w t
    case error f => simp [runSteps, hw, bind, StateT.bind, Except.bind, Except.map]
    case ok r =>
      obtain ⟨a, t'⟩ := r
      have hi := hi t'
      have hp (as : List α) (t : Tables) : (pure as : Work (List α)) t = .ok (as, t) := rfl
      cases hm : (ws.mapM fun w => w : Work (List α)) t' <;>
        simp_all [runSteps, bind, StateT.bind, Except.bind, Except.map]

theorem transact_of_undone {t : Tables} {steps : List (Work α)} {giveUp : Bool}
    (h : giveUp ∨ ∃ f, Work.inTurn steps t = .error f) :
    (t.transact steps giveUp).2 = t := by
  have hr := runSteps_eq t steps
  unfold transact
  split
  case h_1 => rfl
  case h_2 as t' hs =>
    rw [hs] at hr
    rcases h with h | ⟨f, hf⟩
    case inl => simp [h]
    case inr => rw [hf] at hr; cases hr

end Tables

end EntityCatalog
