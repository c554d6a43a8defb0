import PrizeDraw.Proofs.Units

namespace PrizeDraw

namespace Action

variable {σ α β : Type} {x : Action σ α} {f : α → Action σ β} {s : σ}

def Clean (x : Action σ α) : Prop :=
  ∀ s fault, (Action.run x s).1 = .error (.refused fault) → (Action.run x s).2 = s

def Idle (x : Action σ α) : Prop := ∀ s, (Action.run x s).2 = s

def Taken (x : Action σ α) (s : σ) : Prop :=
  ∀ fault, (Action.run x s).1 ≠ .error (.refused fault)

theorem idle_pure (a : α) : Idle (pure a : Action σ α) := fun _ => rfl

theorem idle_refuse (fault : Fault) : Idle (refuse fault : Action σ α) := fun _ => rfl

theorem idle_ofExcept (outcome : Except Fault α) : Idle (ofExcept outcome : Action σ α) := by
  cases outcome with
  | ok a => exact idle_pure a
  | error fault => exact idle_refuse fault

theorem Idle.clean (h : Idle x) : Clean x := fun s _ _ => h s

theorem Idle.bind (hx : Idle x) (hf : ∀ a, Idle (f a)) : Idle (x >>= f) := by
  intro s
  have hsame := hx s
  rw [run_bind]
  split
  · rename_i a t hrun
    rw [hrun] at hsame
    rw [hf a t]
    exact hsame
  · rename_i halt t hrun
    rw [hrun] at hsame
    exact hsame

theorem Idle.bind_clean (hx : Idle x) (hf : ∀ a, Clean (f a)) : Clean (x >>= f) := by
  intro s fault hrefused
  have hsame := hx s
  rw [run_bind] at hrefused ⊢
  split at hrefused
  · rename_i a t hrun
    rw [hrun] at hsame
    obtain rfl : t = s := hsame
    exact hf a t fault hrefused
  · rename_i halt t hrun
    rw [hrun] at hsame
    exact hsame

theorem Clean.bind_taken (hx : Clean x)
    (hf : ∀ s a t, Action.run x s = (.ok a, t) → Taken (f a) t) : Clean (x >>= f) := by
  intro s fault hrefused
  rw [run_bind] at hrefused ⊢
  split at hrefused
  · rename_i a t hrun
    exact absurd hrefused (hf s a t hrun fault)
  · rename_i halt t hrun
    cases hrefused
    have hsame := hx s fault (by rw [hrun])
    rw [hrun] at hsame
    exact hsame

theorem taken_pure (a : α) (s : σ) : Taken (pure a : Action σ α) s := fun _ h => by cases h

theorem Taken.bind (hx : Taken x s)
    (hf : ∀ a t, Action.run x s = (.ok a, t) → Taken (f a) t) : Taken (x >>= f) s := by
  intro fault hrefused
  rw [run_bind] at hrefused
  split at hrefused
  · rename_i a t hrun
    exact hf a t hrun fault hrefused
  · rename_i halt t hrun
    cases hrefused
    exact hx fault (by rw [hrun])

end Action

inductive Command.Guarded : WriteTable → Command Unit → Prop where
  | deleteStep (gacha : GachaId) (character : CharacterId) :
      Guarded .stepup (.deleteStep gacha character)
  | insertStep (gacha : GachaId) (character : CharacterId) (step : UInt8) :
      Guarded .stepup (.insertStep gacha character step)
  | addPurchase (character : CharacterId) (item : ShopItemId) (count : UInt32) :
      Guarded .shopPurchases (.addPurchase character item count)

namespace Records

variable {table : WriteTable} {asked : Command Unit}

theorem checkWrite_of_answered (h : asked.Guarded table) {records : Records}
    (hanswer : records.answered [] asked = .ok ()) : records.checkWrite table = .ok () := by
  cases hcheck : records.checkWrite table with
  | ok _ => rfl
  | error fault => cases h <;> simp only [answered, hcheck] at hanswer <;> cases hanswer

theorem not_refused (h : asked.Guarded table) {records : Records}
    (hcheck : records.checkWrite table = .ok ()) (fault : Fault) :
    records.answered [] asked ≠ .error (.refused fault) := by
  intro hrefused
  cases h with
  | deleteStep gacha character => rw [answered, hcheck] at hrefused; cases hrefused
  | insertStep gacha character step => rw [answered, hcheck] at hrefused; cases hrefused
  | addPurchase character item count =>
      rw [answered, hcheck, answered.counted] at hrefused
      change (if _ then _ else _) = _ at hrefused
      split at hrefused <;> cases hrefused

end Records

namespace Memory

variable {α : Type} {table : WriteTable} {asked : Command Unit} {memory after : Memory}

theorem clean_perform (asked : Command α) :
    Action.Clean (Store.perform asked : Action Memory α) := by
  intro memory fault hrefused
  obtain ⟨records, _ | staged⟩ := memory
  · rfl
  · cases hends : asked.endsUnit with
    | true => cases asked <;> cases hends <;> cases hrefused
    | false =>
        rw [run_perform_staged hends, Records.run_perform] at hrefused ⊢
        cases hstep : staged.step asked with
        | ok answered => rw [hstep] at hrefused; cases hrefused
        | error halt => rfl

theorem idle_perform {asked : Command α} (hends : asked.endsUnit = false)
    (hwrite : asked.write? = none) : Action.Idle (Store.perform asked : Action Memory α) := by
  rintro ⟨records, _ | staged⟩
  · rfl
  · rw [run_perform_staged hends, Records.run_perform, Records.step_eq, hwrite]
    cases staged.answered [] asked <;> rfl

def Takes (memory : Memory) (table : WriteTable) : Prop :=
  ∃ staged, memory.staged = some staged ∧ staged.checkWrite table = .ok ()

theorem takes_of_ok (h : asked.Guarded table) {answer : Unit}
    (hrun : Action.run (Store.perform asked) memory = (.ok answer, after)) :
    after.Takes table := by
  obtain ⟨records, _ | staged⟩ := memory
  · cases hrun
  · have hends : asked.endsUnit = false := by cases h <;> rfl
    rw [run_perform_staged hends, Records.run_perform, Records.step_eq] at hrun
    cases hanswer : staged.answered [] asked with
    | error halt => rw [hanswer] at hrun; cases hrun
    | ok _ =>
        rw [hanswer] at hrun
        cases hrun
        exact ⟨_, rfl, (Records.checkWrite_puts _ _ _).trans
          (Records.checkWrite_of_answered h hanswer)⟩

theorem taken_perform (h : asked.Guarded table) (htakes : memory.Takes table) :
    Action.Taken (Store.perform asked) memory := by
  intro fault hrefused
  obtain ⟨records, staged⟩ := memory
  obtain ⟨staged, rfl, hcheck⟩ := htakes
  have hends : asked.endsUnit = false := by cases h <;> rfl
  rw [run_perform_staged hends, Records.run_perform, Records.step_eq] at hrefused
  cases hanswer : staged.answered [] asked with
  | ok _ => rw [hanswer] at hrefused; cases hrefused
  | error halt =>
      rw [hanswer] at hrefused
      cases hrefused
      exact Records.not_refused h hcheck fault hanswer

end Memory

namespace Ledger

theorem idle_payer (player : Player) (currency : Currency) (amount : Int64) :
    Action.Idle (payer player currency amount : Action Memory Balance) := by
  unfold payer
  split
  · exact Action.idle_pure _
  · exact (Memory.idle_perform rfl rfl).bind fun trial => Action.idle_pure _

theorem clean_debitBalance (player : Player) (balance : Balance) (amount : Int64) :
    Action.Clean (debitBalance player balance amount : Action Memory Debit) := by
  unfold debitBalance
  split
  · exact fun s fault hrefused => rfl
  · exact (Memory.clean_perform _).bind_taken fun _ _ _ _ => Action.taken_pure _ _

theorem clean_debit (player : Player) (currency : Currency) (amount : Int64) :
    Action.Clean (debit player currency amount : Action Memory Debit) :=
  (idle_payer player currency amount).bind_clean fun balance =>
    clean_debitBalance player balance amount

theorem clean_payEntryCost (player : Player) (entry : Entry) :
    Action.Clean (payEntryCost player entry : Action Memory (Option Debit)) := by
  unfold payEntryCost
  split
  · exact (Action.idle_pure none).clean
  · exact (clean_debit _ _ _).bind_taken fun _ _ _ _ => Action.taken_pure _ _

end Ledger

namespace Catalog

theorem idle_trade (id : TradeId) : Action.Idle (trade id : Action Memory Trade) := by
  refine (Memory.idle_perform rfl rfl).bind fun found => ?_
  cases found with
  | some row => exact Action.idle_pure row
  | none => exact Action.idle_refuse _

end Catalog

namespace Exchange

theorem clean_buy (player : Player) (id : TradeId) (lots : UInt16) :
    Action.Clean (buy player id lots : Action Memory Int64) := by
  refine (Catalog.idle_trade id).bind_clean fun trade => ?_
  split
  · split
    · exact (Action.idle_refuse _).clean
    · exact (Ledger.clean_debit _ _ _).bind_taken fun _ _ _ _ => Action.taken_pure _ _
  · exact (Action.idle_refuse _).clean

theorem clean_sell (player : Player) (id : TradeId) (units : UInt16) :
    Action.Clean (sell player id units : Action Memory Int64) := by
  refine (Catalog.idle_trade id).bind_clean fun trade => ?_
  split
  · exact (Action.idle_refuse _).clean
  · exact Memory.clean_perform _

theorem taken_record (character : CharacterId) (purchases : List Purchase) {memory : Memory}
    (htakes : memory.Takes .shopPurchases) :
    Action.Taken (record character purchases) memory := by
  induction purchases generalizing memory with
  | nil => exact Action.taken_pure 0 memory
  | cons purchase rest ih =>
      rw [record]
      split
      · exact ih htakes
      · refine (Memory.taken_perform (.addPurchase ..) htakes).bind fun _ after hadded => ?_
        have hrest := ih (Memory.takes_of_ok (.addPurchase ..) hadded)
        exact hrest.bind fun _ _ _ => Action.taken_pure _ _

theorem clean_record (character : CharacterId) (purchases : List Purchase) :
    Action.Clean (record character purchases : Action Memory Nat) := by
  induction purchases with
  | nil => exact (Action.idle_pure 0).clean
  | cons purchase rest ih =>
      rw [record]
      split
      · exact ih
      · refine (Memory.clean_perform _).bind_taken fun memory _ after hadded => ?_
        have hrest := taken_record character rest (Memory.takes_of_ok (.addPurchase ..) hadded)
        exact hrest.bind fun _ _ _ => Action.taken_pure _ _

end Exchange

namespace Inventory

theorem idle_load (character : CharacterId) :
    Action.Idle (load character : Action Memory Pending) :=
  (Memory.idle_perform rfl rfl).bind fun _ => Action.idle_ofExcept _

theorem clean_append (character : CharacterId) (items : List RewardItem) :
    Action.Clean (append character items : Action Memory Pending) := by
  refine (idle_load character).bind_clean fun pending => ?_
  refine (Action.idle_ofExcept _).bind_clean fun merged => ?_
  exact (Memory.clean_perform _).bind_taken fun _ _ _ _ => Action.taken_pure _ _

theorem clean_drain (character : CharacterId) (freeze : Bool) :
    Action.Clean (drain character freeze : Action Memory Drained) := by
  refine (idle_load character).bind_clean fun pending => ?_
  dsimp only
  split
  · exact (Memory.clean_perform _).bind_taken fun _ _ _ _ => Action.taken_pure _ _
  · exact (Action.idle_pure _).clean

end Inventory

namespace Steps

theorem clean_current (gacha : GachaId) (character : CharacterId) :
    Action.Clean (current gacha character : Action Memory UInt8) := by
  refine (Memory.idle_perform rfl rfl).bind_clean fun step => ?_
  refine (Memory.idle_perform rfl rfl).bind_clean fun entry => ?_
  split
  · exact (Action.idle_pure _).clean
  · exact (Memory.clean_perform _).bind_taken fun _ _ _ _ => Action.taken_pure _ _

theorem clean_advance (gacha : GachaId) (character : CharacterId) (played : UInt8) :
    Action.Clean (advance gacha character played : Action Memory UInt8) := by
  refine (Memory.clean_perform _).bind_taken fun memory _ after hcleared => ?_
  have htakes : after.Takes .stepup := Memory.takes_of_ok (.deleteStep ..) hcleared
  refine (Memory.taken_perform (.insertStep ..) htakes).bind fun _ _ _ => ?_
  exact Action.taken_pure _ _

end Steps

inductive Component : Type → Type where
  | debit (player : Player) (currency : Currency) (amount : Int64) : Component Debit
  | debitBalance (player : Player) (balance : Balance) (amount : Int64) : Component Debit
  | credit (player : Player) (currency : Currency) (amount : Int64) : Component Int64
  | payEntryCost (player : Player) (entry : Entry) : Component (Option Debit)
  | buy (player : Player) (trade : TradeId) (lots : UInt16) : Component Int64
  | sell (player : Player) (trade : TradeId) (units : UInt16) : Component Int64
  | record (character : CharacterId) (purchases : List Purchase) : Component Nat
  | append (character : CharacterId) (items : List RewardItem) : Component Pending
  | drain (character : CharacterId) (freeze : Bool) : Component Drained
  | currentStep (gacha : GachaId) (character : CharacterId) : Component UInt8
  | advance (gacha : GachaId) (character : CharacterId) (played : UInt8) : Component UInt8
  | markDealt (gacha : GachaId) (character : CharacterId) (entry : EntryId) : Component Unit
  | resetBox (gacha : GachaId) (character : CharacterId) : Component Unit

namespace Component

variable {α : Type}

def call {σ : Type} [Store σ] : Component α → Action σ α
  | .debit player currency amount => Ledger.debit player currency amount
  | .debitBalance player balance amount => Ledger.debitBalance player balance amount
  | .credit player currency amount => Ledger.credit player currency amount
  | .payEntryCost player entry => Ledger.payEntryCost player entry
  | .buy player trade lots => Exchange.buy player trade lots
  | .sell player trade units => Exchange.sell player trade units
  | .record character purchases => Exchange.record character purchases
  | .append character items => Inventory.append character items
  | .drain character freeze => Inventory.drain character freeze
  | .currentStep gacha character => Steps.current gacha character
  | .advance gacha character played => Steps.advance gacha character played
  | .markDealt gacha character entry => Store.perform (.insertDealt gacha character entry)
  | .resetBox gacha character => BoxDeal.reset gacha character

theorem clean_call (component : Component α) :
    Action.Clean (component.call : Action Memory α) := by
  cases component with
  | debit player currency amount => exact Ledger.clean_debit player currency amount
  | debitBalance player balance amount => exact Ledger.clean_debitBalance player balance amount
  | credit player currency amount => exact Memory.clean_perform _
  | payEntryCost player entry => exact Ledger.clean_payEntryCost player entry
  | buy player trade lots => exact Exchange.clean_buy player trade lots
  | sell player trade units => exact Exchange.clean_sell player trade units
  | record character purchases => exact Exchange.clean_record character purchases
  | append character items => exact Inventory.clean_append character items
  | drain character freeze => exact Inventory.clean_drain character freeze
  | currentStep gacha character => exact Steps.clean_current gacha character
  | advance gacha character played => exact Steps.clean_advance gacha character played
  | markDealt gacha character entry => exact Memory.clean_perform _
  | resetBox gacha character => exact Memory.clean_perform _

theorem refusal_unnoticed (component : Component α) (records staged : Records) (fault : Fault)
    (h : (Action.run component.call ({ records, staged := some staged } : Memory)).1 =
      .error (.refused fault)) :
    let after := (Action.run component.call ({ records, staged := some staged } : Memory)).2
    after = { records, staged := some staged } ∧
      Action.run (Store.perform .commit) after = (.ok (), { records := staged }) := by
  intro after
  have hsame : after = { records, staged := some staged } := component.clean_call _ fault h
  refine ⟨hsame, ?_⟩
  rw [hsame]
  rfl

theorem refusal_unnoticed_steps :
    let records := Sample.records.setFailing .stepup true
    let staged := { records with dealt := [{ gacha := 1, character := 1, entry := 2 }] }
    let component : Component UInt8 := .advance 1 1 0
    let fault : Fault := .store (.injected "gacha_stepup")
    let after := (Action.run component.call ({ records, staged := some staged } : Memory)).2
    (Action.run component.call ({ records, staged := some staged } : Memory)).1 =
        .error (.refused fault) ∧
      after = { records, staged := some staged } ∧
      Action.run (Store.perform .commit) after = (.ok (), { records := staged }) := by
  intro records staged component fault after
  have hrefused : (Action.run component.call ({ records, staged := some staged } : Memory)).1 =
      .error (.refused fault) := rfl
  exact ⟨hrefused, refusal_unnoticed component records staged fault hrefused⟩

end Component

end PrizeDraw
