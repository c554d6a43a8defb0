import PrizeDraw.Proofs.Dialogue

namespace PrizeDraw

def Command.endsUnit {α : Type} : Command α → Bool
  | .commit | .rollback => true
  | _ => false

structure Reach where
  player : Player := default
  gacha : GachaId := 0
  tables : List WriteTable := []
  draws : Bool := false
  clock : Bool := false

namespace Reach

def AllowsCommand (reach : Reach) {α : Type} : Command α → Prop
  | .commit | .rollback => False
  | .lockCharacter character | .pendingBuffer character => character = reach.player.character
  | .adjustBalance player _ _ => .balances ∈ reach.tables ∧ player = reach.player
  | .setPendingBuffer character _ =>
      .inventory ∈ reach.tables ∧ character = reach.player.character
  | .deleteStep gacha character =>
      .stepup ∈ reach.tables ∧ gacha = reach.gacha ∧ character = reach.player.character
  | .insertStep gacha character _ =>
      .stepup ∈ reach.tables ∧ gacha = reach.gacha ∧ character = reach.player.character
  | .insertDealt gacha character _ =>
      .box ∈ reach.tables ∧ gacha = reach.gacha ∧ character = reach.player.character
  | .deleteDealt gacha character =>
      .box ∈ reach.tables ∧ gacha = reach.gacha ∧ character = reach.player.character
  | .addPurchase character _ _ =>
      .shopPurchases ∈ reach.tables ∧ character = reach.player.character
  | .balance player _ => player = reach.player
  | .step _ character | .dealtEntries _ character | .purchaseCount character _ =>
      character = reach.player.character
  | _ => True

def Allows (reach : Reach) : (β : Type) → Query β → Prop
  | _, .command command => reach.AllowsCommand command
  | _, .weighted _ _ => reach.draws = true
  | _, .uniform _ _ => reach.draws = true
  | _, .clock => reach.clock = true

theorem endsUnit_of_allows {reach : Reach} {α : Type} {asked : Command α}
    (h : reach.AllowsCommand asked) : asked.endsUnit = false := by
  cases asked with
  | commit => exact h.elim
  | rollback => exact h.elim
  | _ => rfl

end Reach

namespace Spoken

variable {reach : Reach} {allowed : ∀ β : Type, Query β → Prop}

theorem lock (gacha : GachaId) :
    Spoken reach.Allows fun σ _ => Machine.onStore (Play.lock (σ := σ) reach.player gacha) :=
  onStore_bind (perform _ trivial) fun _ => perform _ rfl

theorem gacha (id : GachaId) :
    Spoken reach.Allows fun σ _ => Machine.onStore (Catalog.gacha (σ := σ) id) := by
  refine onStore_bind (perform _ trivial) fun found => ?_
  cases found with
  | none => exact refuse _
  | some found => exact done found

theorem costEntry (id : GachaId) (entryType : UInt8) :
    Spoken reach.Allows fun σ _ => Machine.onStore (Catalog.costEntry (σ := σ) id entryType) := by
  refine onStore_bind (perform _ trivial) fun found => ?_
  cases found with
  | none => exact refuse _
  | some found => exact done found

theorem debitBalance {player : Player} (balance : Balance) (amount : Int64)
    (h : ∀ delta, allowed _ (.command (.adjustBalance player balance delta))) :
    Spoken allowed fun σ _ =>
      Machine.onStore (Ledger.debitBalance (σ := σ) player balance amount) := by
  unfold Ledger.debitBalance
  cases Amount.neg? amount with
  | none => exact stop _
  | some delta => exact onStore_bind (perform _ (h delta)) fun _ => done _

theorem payer (currency : Currency) (amount : Int64) :
    Spoken reach.Allows fun σ _ =>
      Machine.onStore (Ledger.payer (σ := σ) reach.player currency amount) := by
  unfold Ledger.payer
  cases currency.debitRule with
  | direct balance => exact done balance
  | coins => exact onStore_bind (perform _ rfl) fun _ => done _

theorem debit (currency : Currency) (amount : Int64) (h : .balances ∈ reach.tables) :
    Spoken reach.Allows fun σ _ =>
      Machine.onStore (Ledger.debit (σ := σ) reach.player currency amount) :=
  onStore_bind (payer currency amount) fun balance =>
    debitBalance balance amount fun _ => ⟨h, rfl⟩

theorem credit (currency : Currency) (amount : Int64) (h : .balances ∈ reach.tables) :
    Spoken reach.Allows fun σ _ =>
      Machine.onStore (Ledger.credit (σ := σ) reach.player currency amount) :=
  perform _ ⟨h, rfl⟩

theorem payEntryCost (entry : Entry) (h : .balances ∈ reach.tables) :
    Spoken reach.Allows fun σ _ =>
      Machine.onStore (Ledger.payEntryCost (σ := σ) reach.player entry) := by
  unfold Ledger.payEntryCost
  cases Currency.ofItemType entry.itemType with
  | none => exact done none
  | some currency => exact onStore_bind (debit currency _ h) fun _ => done _

theorem points {player : Player}
    (h : ∀ balance, allowed _ (.command (.balance player balance))) :
    Spoken allowed fun σ _ => Machine.onStore (Ledger.points (σ := σ) player) :=
  onStore_bind (perform _ (h _)) fun _ =>
    onStore_bind (perform _ (h _)) fun _ => onStore_bind (perform _ (h _)) fun _ => done _

theorem charge (gacha : GachaId) (selector : UInt8) (h : .balances ∈ reach.tables) :
    Spoken reach.Allows fun σ _ =>
      Machine.onStore (Play.charge (σ := σ) reach.player gacha selector) :=
  onStore_bind (Spoken.gacha gacha) fun _ =>
    onStore_bind (costEntry gacha selector) fun cost =>
      onStore_bind (payEntryCost cost h) fun _ => done _

theorem guaranteedItems (id : GachaId) (entryType : UInt8) :
    Spoken reach.Allows fun σ _ =>
      Machine.onStore (Catalog.guaranteedItems (σ := σ) id entryType) := by
  refine onStore_bind (perform _ trivial) fun found => ?_
  cases found with
  | none => exact done []
  | some found => exact perform _ trivial

theorem listEntries (entries : List Entry) :
    Spoken reach.Allows fun σ _ => Machine.onStore (Catalog.listEntries (σ := σ) entries) := by
  induction entries with
  | nil => exact done []
  | cons entry rest ih =>
      simp only [Catalog.listEntries]
      split
      · exact ih
      · exact onStore_bind (perform _ trivial) fun _ => onStore_bind ih fun _ => done _

theorem listGachas (hr gr : UInt32) (gachas : List Gacha) :
    Spoken reach.Allows fun σ _ =>
      Machine.onStore (Catalog.listGachas (σ := σ) hr gr gachas) := by
  induction gachas with
  | nil => exact done []
  | cons found rest ih =>
      simp only [Catalog.listGachas]
      split
      · exact onStore_bind (perform _ trivial) fun entries =>
          onStore_bind (listEntries entries) fun _ => onStore_bind ih fun _ => done _
      · exact ih

theorem listing (hr gr : UInt32) :
    Spoken reach.Allows fun σ _ => Machine.onStore (Catalog.listing (σ := σ) hr gr) :=
  onStore_bind (perform _ trivial) fun gachas => listGachas hr gr gachas

theorem current (h : .stepup ∈ reach.tables) :
    Spoken reach.Allows fun σ _ =>
      Machine.onStore (Steps.current (σ := σ) reach.gacha reach.player.character) := by
  refine onStore_bind (perform _ rfl) fun stored => ?_
  refine onStore_bind (perform _ trivial) fun entry => ?_
  split
  · exact done _
  · exact onStore_bind (perform _ ⟨h, rfl, rfl⟩) fun _ => done _

theorem advance (played : UInt8) (h : .stepup ∈ reach.tables) :
    Spoken reach.Allows fun σ _ =>
      Machine.onStore (Steps.advance (σ := σ) reach.gacha reach.player.character played) :=
  onStore_bind (perform _ ⟨h, rfl, rfl⟩) fun _ =>
    onStore_bind (perform _ ⟨h, rfl, rfl⟩) fun _ => done _

theorem boxStatus (gacha : GachaId) :
    Spoken reach.Allows fun σ _ =>
      Machine.onStore (BoxDeal.status (σ := σ) gacha reach.player.character) :=
  onStore_bind (perform _ rfl) fun _ => done _

theorem boxReset (h : .box ∈ reach.tables) :
    Spoken reach.Allows fun σ _ =>
      Machine.onStore (BoxDeal.reset (σ := σ) reach.gacha reach.player.character) :=
  perform _ ⟨h, rfl, rfl⟩

theorem load :
    Spoken reach.Allows fun σ _ =>
      Machine.onStore (Inventory.load (σ := σ) reach.player.character) := by
  refine onStore_bind (perform _ rfl) fun buffer => ?_
  cases Pending.ofStored buffer with
  | ok pending => exact done pending
  | error fault => exact refuse fault

theorem append (items : List RewardItem) (h : .inventory ∈ reach.tables) :
    Spoken reach.Allows fun σ _ =>
      Machine.onStore (Inventory.append (σ := σ) reach.player.character items) := by
  refine onStore_bind load fun pending => ?_
  cases pending.prepend items with
  | error fault => exact refuse fault
  | ok merged => exact onStore_bind (done merged) fun merged =>
      onStore_bind (perform _ ⟨h, rfl⟩) fun _ => done _

theorem drain (freeze : Bool) (h : freeze = false → .inventory ∈ reach.tables) :
    Spoken reach.Allows fun σ _ =>
      Machine.onStore (Inventory.drain (σ := σ) reach.player.character freeze) := by
  refine onStore_bind load fun pending => ?_
  cases freeze with
  | true => exact done _
  | false => exact onStore_bind (perform _ ⟨h rfl, rfl⟩) fun _ => done _

theorem rewards (fetched : Play.Fetched) (entry : EntryId) :
    Spoken reach.Allows fun σ _ => Machine.onStore (Play.rewards (σ := σ) fetched entry) := by
  unfold Play.rewards
  cases fetched.find? entry with
  | some items => exact done _
  | none => exact onStore_bind (perform _ trivial) fun _ => done _

theorem collect (mark : ∀ (σ : Type) [Store σ], Entry → Action σ Unit)
    (hmark : ∀ entry, Spoken reach.Allows fun σ _ => Machine.onStore (mark σ entry))
    (rarity : Entry → UInt8) (fetched : Play.Fetched) (drawn : List Entry) :
    Spoken reach.Allows fun σ _ =>
      Machine.onStore (Play.collect (mark σ) rarity fetched drawn) := by
  induction drawn generalizing fetched with
  | nil => exact done []
  | cons entry rest ih =>
      exact onStore_bind (hmark entry) fun _ =>
        onStore_bind (rewards fetched entry.id) fun answer =>
          onStore_bind (ih answer.2) fun _ => done _

theorem collectDrawn (drawn : List Entry) :
    Spoken reach.Allows fun σ _ => Machine.onStore (Play.collectDrawn (σ := σ) drawn) :=
  collect (fun _ _ _ => pure ()) (fun _ => done ()) _ _ drawn

theorem collectDealt (drawn : List Entry) (h : .box ∈ reach.tables) :
    Spoken reach.Allows fun σ _ =>
      Machine.onStore (Play.collectDealt (σ := σ) reach.player reach.gacha drawn) :=
  collect (fun σ _ entry =>
      Store.perform (σ := σ) (.insertDealt reach.gacha reach.player.character entry.id))
    (fun _ => perform _ ⟨h, rfl, rfl⟩) _ _ drawn

theorem award (won : List DrawnItem) (h : .inventory ∈ reach.tables) :
    Spoken reach.Allows fun σ _ => Machine.onStore (Play.award (σ := σ) reach.player won) :=
  onStore_bind (append _ h) fun _ => done ()

theorem trade (id : TradeId) (h : allowed _ (.command (.trade id))) :
    Spoken allowed fun σ _ => Machine.onStore (Catalog.trade (σ := σ) id) := by
  refine onStore_bind (perform _ h) fun found => ?_
  cases found with
  | none => exact refuse _
  | some found => exact done found

theorem buy {player : Player} (id : TradeId) (lots : UInt16)
    (htrade : allowed _ (.command (.trade id)))
    (h : ∀ delta, allowed _ (.command (.adjustBalance player .frontierPoints delta))) :
    Spoken allowed fun σ _ => Machine.onStore (Exchange.buy (σ := σ) player id lots) := by
  refine onStore_bind (trade id htrade) fun found => ?_
  split
  · cases Exchange.cost? found lots with
    | none => exact refuse _
    | some cost => exact onStore_bind (debitBalance .frontierPoints cost h) fun _ => done _
  · exact refuse _

theorem sell {player : Player} (id : TradeId) (units : UInt16)
    (htrade : allowed _ (.command (.trade id)))
    (h : ∀ delta, allowed _ (.command (.adjustBalance player .frontierPoints delta))) :
    Spoken allowed fun σ _ => Machine.onStore (Exchange.sell (σ := σ) player id units) := by
  refine onStore_bind (trade id htrade) fun found => ?_
  split
  · exact refuse _
  · exact perform _ (h _)

theorem record (purchases : List Purchase) (h : .shopPurchases ∈ reach.tables) :
    Spoken reach.Allows fun σ _ =>
      Machine.onStore (Exchange.record (σ := σ) reach.player.character purchases) := by
  induction purchases with
  | nil => exact done 0
  | cons purchase rest ih =>
      simp only [Exchange.record]
      split
      · exact ih
      · exact onStore_bind (perform _ ⟨h, rfl⟩) fun _ => onStore_bind ih fun _ => done _

end Spoken

def Holds {α : Type} (reach : Reach) (gacha : GachaId)
    (body : ∀ (σ : Type) [Store σ], Action (Machine σ) α) : Prop :=
  ∃ rest : ∀ (σ : Type) [Store σ], Action (Machine σ) α, Spoken reach.Allows rest ∧
    ∀ (σ : Type) [Store σ],
      body σ = Machine.onStore (Play.lock reach.player gacha) >>= fun _ => rest σ

namespace Holds

variable {α β : Type} {reach : Reach} {gacha : GachaId}

theorem spoken {body : ∀ (σ : Type) [Store σ], Action (Machine σ) α}
    (h : Holds reach gacha body) : Spoken reach.Allows body := by
  obtain ⟨rest, hrest, hbody⟩ := h
  obtain ⟨d, hd, hcarry⟩ := Spoken.bind (Spoken.lock gacha) fun _ => hrest
  exact ⟨d, hd, fun σ _ => (hbody σ).trans (hcarry σ)⟩

theorem onStore {part : ∀ (σ : Type) [Store σ], Action σ α}
    (h : Spoken reach.Allows fun σ _ => Machine.onStore (part σ)) :
    Holds reach gacha fun σ _ =>
      Machine.onStore (Play.lock reach.player gacha >>= fun _ => part σ) :=
  ⟨_, h, fun _ _ => Machine.onStore_bind _ _⟩

theorem bind {body : ∀ (σ : Type) [Store σ], Action (Machine σ) α}
    {f : ∀ (σ : Type) [Store σ], α → Action (Machine σ) β} (h : Holds reach gacha body)
    (hf : ∀ a, Spoken reach.Allows fun σ _ => f σ a) :
    Holds reach gacha fun σ _ => body σ >>= f σ := by
  obtain ⟨rest, hrest, hbody⟩ := h
  refine ⟨fun σ _ => rest σ >>= f σ, Spoken.bind hrest hf, fun σ _ => ?_⟩
  dsimp only
  rw [hbody σ, bind_assoc]

theorem openNormal (gacha : GachaId) (selector : UInt8) (h : .balances ∈ reach.tables) :
    Holds reach gacha fun σ _ =>
      Machine.onStore (Play.openNormal (σ := σ) reach.player gacha selector) :=
  onStore (Spoken.onStore_bind (Spoken.charge gacha selector h) fun _ =>
    Spoken.onStore_bind (Spoken.perform _ trivial) fun _ => Spoken.done _)

theorem openStepup (step : UInt8) (hb : .balances ∈ reach.tables)
    (hs : .stepup ∈ reach.tables) :
    Holds reach reach.gacha fun σ _ =>
      Machine.onStore (Play.openStepup (σ := σ) reach.player reach.gacha step) := by
  refine onStore (Spoken.onStore_bind (Spoken.charge _ step hb) fun charged => ?_)
  have advanced : Spoken reach.Allows fun σ _ => Machine.onStore do
      let nextStep ← Steps.advance (σ := σ) reach.gacha reach.player.character step
      let pool ← Store.perform (.randomPool reach.gacha)
      return (charged.1, nextStep, pool) :=
    Spoken.onStore_bind (Spoken.advance step hs) fun _ =>
      Spoken.onStore_bind (Spoken.perform _ trivial) fun _ => Spoken.done _
  by_cases bonus : charged.1.frontierPoints = 0
  · simpa [bonus] using advanced
  · simpa [bonus] using Spoken.onStore_bind (Spoken.credit _ _ hb) fun _ => advanced

theorem openBox (gacha : GachaId) (selector : UInt8) (h : .balances ∈ reach.tables) :
    Holds reach gacha fun σ _ =>
      Machine.onStore (Play.openBox (σ := σ) reach.player gacha selector) :=
  onStore (Spoken.onStore_bind (Spoken.charge gacha selector h) fun _ =>
    Spoken.onStore_bind (Spoken.perform _ rfl) fun _ =>
      Spoken.onStore_bind (Spoken.perform _ trivial) fun _ => Spoken.done _)

end Holds

namespace Spoken

variable {reach : Reach}

theorem openNormal (gacha : GachaId) (selector : UInt8) (h : .balances ∈ reach.tables) :
    Spoken reach.Allows fun σ _ =>
      Machine.onStore (Play.openNormal (σ := σ) reach.player gacha selector) :=
  (Holds.openNormal gacha selector h).spoken

theorem closeNormal (debit : Option Debit) (drawn : List Entry)
    (h : .inventory ∈ reach.tables) :
    Spoken reach.Allows fun σ _ =>
      Machine.onStore (Play.closeNormal (σ := σ) reach.player debit drawn) :=
  onStore_bind (collectDrawn drawn) fun items => onStore_bind (award items h) fun _ => done _

theorem openStepup (step : UInt8) (hb : .balances ∈ reach.tables)
    (hs : .stepup ∈ reach.tables) :
    Spoken reach.Allows fun σ _ =>
      Machine.onStore (Play.openStepup (σ := σ) reach.player reach.gacha step) :=
  (Holds.openStepup step hb hs).spoken

theorem closeStepup (step nextStep : UInt8) (drawn : List Entry)
    (h : .inventory ∈ reach.tables) :
    Spoken reach.Allows fun σ _ => Machine.onStore
      (Play.closeStepup (σ := σ) reach.player reach.gacha step nextStep drawn) :=
  onStore_bind (collectDrawn drawn) fun _ => onStore_bind (guaranteedItems _ step) fun _ =>
    onStore_bind (award _ h) fun _ => done _

theorem openBox (gacha : GachaId) (selector : UInt8) (h : .balances ∈ reach.tables) :
    Spoken reach.Allows fun σ _ =>
      Machine.onStore (Play.openBox (σ := σ) reach.player gacha selector) :=
  (Holds.openBox gacha selector h).spoken

theorem closeBox (drawn : List Entry) (hb : .box ∈ reach.tables)
    (hi : .inventory ∈ reach.tables) :
    Spoken reach.Allows fun σ _ =>
      Machine.onStore (Play.closeBox (σ := σ) reach.player reach.gacha drawn) :=
  onStore_bind (collectDealt drawn hb) fun items => onStore_bind (award items hi) fun _ => done _

theorem drawWeighted (pool : List Entry) (rolls : UInt8) (h : reach.draws = true) :
    Spoken reach.Allows fun σ _ => Machine.drawWeighted (σ := σ) pool rolls :=
  ask (.weighted pool rolls) h

theorem drawUniform (pool : List Entry) (rolls : UInt8) (h : reach.draws = true) :
    Spoken reach.Allows fun σ _ => Machine.drawUniform (σ := σ) pool rolls :=
  ask (.uniform pool rolls) h

end Spoken

end PrizeDraw
