import Mathlib.Tactic.Choose
import PrizeDraw.Machine
import PrizeDraw.Proofs.Action
import PrizeDraw.Proofs.Draws

namespace PrizeDraw

inductive Query : Type → Type 1 where
  | command {α : Type} (command : Command α) : Query α
  | weighted (pool : List Entry) (rolls : UInt8) : Query (List Entry)
  | uniform (pool : List Entry) (rolls : UInt8) : Query (List Entry)
  | clock : Query UInt32

namespace Query

variable {σ : Type} [Store σ] {α : Type}

def put : Query α → Action (Machine σ) α
  | .command asked => Machine.onStore (perform asked)
  | .weighted pool rolls => Machine.drawWeighted pool rolls
  | .uniform pool rolls => Machine.drawUniform pool rolls
  | .clock => Machine.serverTime

end Query

inductive Dialogue (α : Type) : Type 1 where
  | done (answer : α)
  | stop (halt : Halt)
  | ask {β : Type} (query : Query β) (next : β → Dialogue α)

namespace Dialogue

variable {α β : Type}

def bind : Dialogue α → (α → Dialogue β) → Dialogue β
  | .done answer, f => f answer
  | .stop halt, _ => .stop halt
  | .ask query next, f => .ask query fun b => (next b).bind f

def carry {σ : Type} [Store σ] : Dialogue α → Action (Machine σ) α
  | .done answer => pure answer
  | .stop halt => throw halt
  | .ask query next => query.put >>= fun b => (next b).carry

theorem carry_bind {σ : Type} [Store σ] (d : Dialogue α) (f : α → Dialogue β) :
    (d.bind f).carry (σ := σ) = d.carry >>= fun a => (f a).carry := by
  induction d with
  | done answer => simp [bind, carry]
  | stop halt => rfl
  | ask query next ih => simp [bind, carry, ih]

def Within (allowed : ∀ β : Type, Query β → Prop) : Dialogue α → Prop
  | .done _ => True
  | .stop _ => True
  | .ask query next => allowed _ query ∧ ∀ b, (next b).Within allowed

theorem within_bind {allowed : ∀ β : Type, Query β → Prop} {d : Dialogue α}
    {f : α → Dialogue β} (hd : d.Within allowed) (hf : ∀ a, (f a).Within allowed) :
    (d.bind f).Within allowed := by
  induction d with
  | done answer => exact hf answer
  | stop halt => trivial
  | ask query next ih => exact ⟨hd.1, fun b => ih b (hd.2 b)⟩

theorem carry_keeps {σ : Type} [Store σ] {allowed : ∀ β : Type, Query β → Prop}
    {P : Machine σ → Prop}
    (hput : ∀ β (query : Query β), allowed β query → ∀ machine, P machine →
      P (Action.run query.put machine).2)
    {d : Dialogue α} (hd : d.Within allowed) {machine : Machine σ} (hmachine : P machine) :
    P (Action.run d.carry machine).2 := by
  induction d generalizing machine with
  | done answer => exact hmachine
  | stop halt => exact hmachine
  | ask query next ih =>
      have hasked := hput _ query hd.1 machine hmachine
      simp only [carry, Action.run_bind]
      split
      · rename_i b asked heq
        rw [heq] at hasked
        exact ih b (hd.2 b) hasked
      · rename_i halt asked heq
        rw [heq] at hasked
        exact hasked

end Dialogue

def Spoken {α : Type} (allowed : ∀ β : Type, Query β → Prop)
    (body : ∀ (σ : Type) [Store σ], Action (Machine σ) α) : Prop :=
  ∃ d : Dialogue α, d.Within allowed ∧ ∀ (σ : Type) [Store σ], body σ = d.carry

namespace Machine

variable {σ α β : Type}

theorem run_onStore (x : Action σ α) (machine : Machine σ) :
    Action.run (onStore x) machine =
      ((Action.run x machine.store).1,
        { machine with store := (Action.run x machine.store).2 }) := rfl

theorem of_onStore_ok {x : Action σ α} {machine next : Machine σ} {a : α}
    (h : Action.run (onStore x) machine = (.ok a, next)) :
    Action.run x machine.store = (.ok a, next.store) ∧
      next = { machine with store := next.store } := by
  rw [run_onStore, Prod.mk.injEq] at h
  obtain ⟨houtcome, rfl⟩ := h
  exact ⟨Prod.ext houtcome rfl, rfl⟩

theorem run_draw (sample : Generator → Except Fault α × Generator) (machine : Machine σ) :
    Action.run (draw sample) machine =
      ((sample machine.generator).1.mapError Halt.refused,
        { machine with generator := (sample machine.generator).2 }) := rfl

theorem run_serverTime (machine : Machine σ) :
    Action.run serverTime machine = (.ok machine.clock.reading, machine) := rfl

theorem onStore_bind (x : Action σ α) (f : α → Action σ β) :
    onStore (x >>= f) = onStore x >>= fun a => onStore (f a) := by
  apply Action.ext_run
  intro machine
  rw [run_onStore, Action.run_bind, Action.run_bind, run_onStore]
  cases Action.run x machine.store with
  | mk outcome store =>
    cases outcome with
    | ok a => rfl
    | error halt => rfl

def Follows (before after : Machine σ) : Prop :=
  after.clock = before.clock ∧ before.generator.Leads after.generator

theorem Follows.refl (machine : Machine σ) : machine.Follows machine :=
  ⟨rfl, Generator.Leads.refl _⟩

theorem Follows.trans {first second third : Machine σ} (hf : first.Follows second)
    (hs : second.Follows third) : first.Follows third :=
  ⟨hs.1.trans hf.1, hf.2.trans hs.2⟩

theorem follows_onStore (x : Action σ α) (machine : Machine σ) :
    machine.Follows (Action.run (onStore x) machine).2 :=
  ⟨rfl, Generator.Leads.refl _⟩

theorem follows_drawWeighted (pool : List Entry) (rolls : UInt8) (machine : Machine σ) :
    machine.Follows (Action.run (drawWeighted pool rolls) machine).2 := by
  unfold drawWeighted
  split
  · exact Follows.refl machine
  · exact ⟨rfl, Sampling.leads_weighted _ pool rolls.toNat machine.generator⟩

theorem follows_drawUniform (pool : List Entry) (rolls : UInt8) (machine : Machine σ) :
    machine.Follows (Action.run (drawUniform pool rolls) machine).2 :=
  ⟨rfl, Sampling.leads_uniform pool rolls.toNat machine.generator⟩

theorem store_drawWeighted (pool : List Entry) (rolls : UInt8) (machine : Machine σ) :
    (Action.run (drawWeighted pool rolls) machine).2.store = machine.store := by
  unfold drawWeighted
  split <;> rfl

theorem store_drawUniform (pool : List Entry) (rolls : UInt8) (machine : Machine σ) :
    (Action.run (drawUniform pool rolls) machine).2.store = machine.store := rfl

end Machine

theorem Query.follows_put {σ α : Type} [Store σ] (query : Query α) (machine : Machine σ) :
    machine.Follows (Action.run query.put machine).2 := by
  cases query with
  | command asked => exact Machine.follows_onStore (perform asked) machine
  | weighted pool rolls => exact Machine.follows_drawWeighted pool rolls machine
  | uniform pool rolls => exact Machine.follows_drawUniform pool rolls machine
  | clock => exact Machine.Follows.refl machine

namespace Spoken

variable {α β : Type} {allowed : ∀ β : Type, Query β → Prop}

theorem done (a : α) : Spoken allowed fun _ _ => pure a :=
  ⟨.done a, trivial, fun _ _ => rfl⟩

theorem stop (halt : Halt) : Spoken (α := α) allowed fun _ _ => throw halt :=
  ⟨.stop halt, trivial, fun _ _ => rfl⟩

theorem ask (query : Query α) (h : allowed α query) : Spoken allowed fun _ _ => query.put :=
  ⟨.ask query .done, ⟨h, fun _ => trivial⟩, fun _ _ => by simp [Dialogue.carry]⟩

theorem bind {x : ∀ (σ : Type) [Store σ], Action (Machine σ) α}
    {f : ∀ (σ : Type) [Store σ], α → Action (Machine σ) β}
    (hx : Spoken allowed x) (hf : ∀ a, Spoken allowed fun σ _ => f σ a) :
    Spoken allowed fun σ _ => x σ >>= f σ := by
  obtain ⟨d, hd, hcarry⟩ := hx
  choose next hnext hnextCarry using hf
  refine ⟨d.bind next, Dialogue.within_bind hd hnext, fun σ _ => ?_⟩
  have hf : f σ = fun a => (next a).carry := funext fun a => hnextCarry a σ
  rw [Dialogue.carry_bind, ← hcarry σ, ← hf]

theorem keeps {σ : Type} [Store σ] {body : ∀ (σ : Type) [Store σ], Action (Machine σ) α}
    (h : Spoken allowed body) {P : Machine σ → Prop}
    (hput : ∀ β (query : Query β), allowed β query → ∀ machine, P machine →
      P (Action.run query.put machine).2)
    {machine : Machine σ} (hmachine : P machine) : P (Action.run (body σ) machine).2 := by
  obtain ⟨d, hd, hcarry⟩ := h
  rw [hcarry σ]
  exact Dialogue.carry_keeps hput hd hmachine

theorem follows {σ : Type} [Store σ] {body : ∀ (σ : Type) [Store σ], Action (Machine σ) α}
    (h : Spoken allowed body) (machine : Machine σ) :
    machine.Follows (Action.run (body σ) machine).2 := by
  apply keeps h
  · intro β query _ reached hreached
    exact hreached.trans (query.follows_put reached)
  · exact Machine.Follows.refl machine

theorem keeps_store {σ : Type} [Store σ]
    {body : ∀ (σ : Type) [Store σ], Action (Machine σ) α} (h : Spoken allowed body)
    {P : σ → Prop}
    (hperform : ∀ β (asked : Command β), allowed β (.command asked) → ∀ store, P store →
      P (Action.run (Store.perform asked) store).2)
    {machine : Machine σ} (hmachine : P machine.store) :
    P (Action.run (body σ) machine).2.store := by
  refine keeps h (P := fun reached => P reached.store) ?_ hmachine
  intro β query hquery reached hreached
  -- Draws leave the store alone, so only the commands matter.
  cases query with
  | command asked => exact hperform β asked hquery reached.store hreached
  | weighted pool rolls =>
      rw [Query.put, Machine.store_drawWeighted]
      exact hreached
  | uniform pool rolls => exact hreached
  | clock => exact hreached

theorem perform (command : Command α) (h : allowed α (.command command)) :
    Spoken allowed fun σ _ => Machine.onStore (Store.perform (σ := σ) command) :=
  ask (.command command) h

theorem refuse (fault : Fault) :
    Spoken (α := α) allowed fun σ _ => Machine.onStore (Action.refuse (σ := σ) fault) :=
  stop (.refused fault)

theorem onStore_bind {x : ∀ (σ : Type) [Store σ], Action σ α}
    {f : ∀ (σ : Type) [Store σ], α → Action σ β}
    (hx : Spoken allowed fun σ _ => Machine.onStore (x σ))
    (hf : ∀ a, Spoken allowed fun σ _ => Machine.onStore (f σ a)) :
    Spoken allowed fun σ _ => Machine.onStore (x σ >>= f σ) := by
  simp only [Machine.onStore_bind]
  exact bind hx hf

end Spoken

end PrizeDraw
