import PrizeDraw.Fault

namespace PrizeDraw

namespace Action

variable {σ α β : Type} {x : Action σ α} {f : α → Action σ β} {s t : σ}

@[simp] theorem run_pure (a : α) (s : σ) : Action.run (pure a : Action σ α) s = (.ok a, s) := rfl

theorem run_bind (x : Action σ α) (f : α → Action σ β) (s : σ) :
    Action.run (x >>= f) s =
      match Action.run x s with
      | (.ok a, t) => Action.run (f a) t
      | (.error halt, t) => (.error halt, t) := by
  simp only [Action.run, ExceptT.run, bind, ExceptT.bind, ExceptT.mk, StateT.bind]
  generalize x s = outcome
  obtain ⟨outcome, t⟩ := outcome
  cases outcome <;> rfl

theorem run_bind_of_ok {a : α} (h : Action.run x s = (.ok a, t)) :
    Action.run (x >>= f) s = Action.run (f a) t := by
  rw [run_bind, h]

theorem run_bind_of_error {halt : Halt} (h : Action.run x s = (.error halt, t)) :
    Action.run (x >>= f) s = (.error halt, t) := by
  rw [run_bind, h]

theorem exists_of_bind_ok {b : β} (h : Action.run (x >>= f) s = (.ok b, t)) :
    ∃ a u, Action.run x s = (.ok a, u) ∧ Action.run (f a) u = (.ok b, t) := by
  rw [run_bind] at h
  split at h
  · rename_i a u hx
    exact ⟨a, u, hx, h⟩
  · cases h

theorem ext_run {x y : Action σ α} (h : ∀ s, Action.run x s = Action.run y s) : x = y :=
  funext h

theorem of_pure_ok {a b : α} (h : Action.run (pure a : Action σ α) s = (.ok b, t)) :
    a = b ∧ t = s := by
  cases h
  exact ⟨rfl, rfl⟩

theorem of_ofExcept_ok {outcome : Except Fault α} {a : α}
    (h : Action.run (ofExcept outcome : Action σ α) s = (.ok a, t)) : outcome = .ok a ∧ t = s := by
  cases outcome with
  | ok b => cases h; exact ⟨rfl, rfl⟩
  | error fault => cases h

end Action

end PrizeDraw
