import PrizeDraw.Proofs.Reads
import PrizeDraw.Proofs.Units

namespace PrizeDraw

def Player.Apart (player other : Player) : Prop :=
  player.account ≠ other.account ∧ player.character ≠ other.character

theorem Player.Apart.symm {player other : Player} (h : player.Apart other) :
    other.Apart player :=
  ⟨h.1.symm, h.2.symm⟩

structure View where
  shared : Records
  purse : Option Purse
  row : Option CharacterRow
  steps : GachaId → List UInt8
  dealt : GachaId → List EntryId
  purchases : ShopItemId → UInt64

namespace Records

def shared (records : Records) : Records :=
  { records with accounts := [], characters := [], steps := [], dealt := [], purchases := [] }

def view (records : Records) (player : Player) : View where
  shared := records.shared
  purse := records.accounts.find? player.account
  row := records.characters.find? player.character
  steps gacha := records.steps? gacha player.character
  dealt gacha := records.dealtTo gacha player.character
  purchases item := records.purchaseCount player.character item

structure Elsewhere (player : Player) (before after : Records) : Prop where
  shared : after.shared = before.shared
  account : ∀ id, id ≠ player.account →
    after.accounts.find? id = before.accounts.find? id
  character : ∀ id, id ≠ player.character →
    after.characters.find? id = before.characters.find? id
  steps : ∀ gacha id, id ≠ player.character → after.steps? gacha id = before.steps? gacha id
  dealt : ∀ gacha id, id ≠ player.character → after.dealtTo gacha id = before.dealtTo gacha id
  purchases : ∀ id item, id ≠ player.character →
    after.purchaseCount id item = before.purchaseCount id item

variable {player other : Player} {reach : Reach} {before after left right : Records}

theorem find?_eq_of_parts {id : CharacterId} (hpurse : after.ownPurse? id = before.ownPurse? id)
    (hheld : after.held id = before.held id) :
    after.characters.find? id = before.characters.find? id := by
  unfold ownPurse? at hpurse
  unfold held at hheld
  cases hafter : after.characters.find? id with
  | none =>
      rw [hafter, Option.map_none] at hpurse
      exact (Option.map_eq_none_iff.1 hpurse.symm).symm
  | some row =>
      rw [hafter, Option.map_some] at hpurse
      obtain ⟨old, hold, hsame⟩ := Option.map_eq_some_iff.1 hpurse.symm
      rw [hafter, hold, Option.bind_some, Option.bind_some] at hheld
      obtain ⟨purse, pending⟩ := row
      rw [hold]
      simp only at hsame hheld
      rw [← hsame, hheld]

theorem Frame.elsewhere (h : Frame reach before after) : Elsewhere reach.player before after where
  shared := by simp only [shared, h.gachas, h.entries, h.rewards, h.trades, h.failing]
  account id hid := h.account id fun _ => hid
  character id hid :=
    find?_eq_of_parts (h.ownPurse id fun _ => hid) (h.held id fun _ => hid)
  steps gacha id hid := h.steps gacha id fun _ hown => hid hown.2
  dealt gacha id hid := h.dealt gacha id fun _ hown => hid hown.2
  purchases id item hid := h.purchases id item fun _ => hid

theorem Elsewhere.view_eq (h : Elsewhere player before after) (hapart : player.Apart other) :
    after.view other = before.view other := by
  simp only [view, h.shared, h.account _ hapart.1.symm, h.character _ hapart.2.symm,
    h.steps _ _ hapart.2.symm, h.dealt _ _ hapart.2.symm, h.purchases _ _ hapart.2.symm]

theorem shared_put (records : Records) (write : Write) :
    (records.put write).shared = records.shared := by
  cases write with
  | book player balance delta =>
      simp only [put]
      split <;> rfl
  | _ => rfl

theorem view_put (h : left.view player = right.view player) (write : Write) :
    (left.put write).view player = (right.put write).view player := by
  simp only [view, View.mk.injEq, funext_iff] at h ⊢
  obtain ⟨hshared, hpurse, hrow, hsteps, hdealt, hpurchases⟩ := h
  refine ⟨?_, ?_, ?_, ?_, ?_, ?_⟩
  · rw [shared_put, shared_put, hshared]
  · cases write with
    | book owner balance delta =>
        simp only [put]
        split
        · simp only [Table.find?_update, hpurse]
        · exact hpurse
    | _ => exact hpurse
  · cases write with
    | book owner balance delta =>
        simp only [put]
        split
        · exact hrow
        · simp only [Table.find?_update, hrow]
    | hold owner buffer => simp only [put, Table.find?_update, hrow]
    | _ => exact hrow
  · intro gacha
    rw [steps?_put, steps?_put, hsteps]
  · intro gacha
    rw [dealtTo_put, dealtTo_put, hdealt]
  · intro item
    rw [purchaseCount_put, purchaseCount_put, hpurchases]

theorem view_addCatalog (h : left.view player = right.view player) (catalog : Catalog) :
    (left.addCatalog catalog).view player = (right.addCatalog catalog).view player := by
  simp only [view, View.mk.injEq] at h ⊢
  exact ⟨congrArg (Records.addCatalog · catalog) h.1, h.2⟩

theorem balance_of_view_eq (h : left.view player = right.view player) (balance : Balance) :
    left.balance player balance = right.balance player balance := by
  have hpurse : left.accounts.find? player.account = right.accounts.find? player.account :=
    congrArg View.purse h
  have hrow : left.characters.find? player.character =
      right.characters.find? player.character := congrArg View.row h
  have hamount : left.amount? player balance = right.amount? player balance := by
    simp only [amount?, ownPurse?, hpurse, hrow]
  rw [balance_eq, balance_eq, hamount]

theorem pendingBuffer_of_view_eq (h : left.view player = right.view player) :
    left.pendingBuffer player.character = right.pendingBuffer player.character := by
  have hrow : left.characters.find? player.character =
      right.characters.find? player.character := congrArg View.row h
  simp only [pendingBuffer, Records.character, hrow]

theorem answered_of_view_eq {α : Type} {asked : Command α} (hallowed : reach.AllowsCommand asked)
    (h : left.view reach.player = right.view reach.player) :
    left.answered [] asked = right.answered [] asked := by
  have hshared : left.shared = right.shared := congrArg View.shared h
  have hwrite (table : WriteTable) : left.checkWrite table = right.checkWrite table :=
    congrArg (fun records => records.checkWrite table) hshared
  have hcatalog : left.shared.answered [] asked = right.shared.answered [] asked := by
    rw [hshared]
  cases asked with
  | commit => exact hallowed.elim
  | rollback => exact hallowed.elim
  | balance player balance =>
      obtain rfl : player = reach.player := hallowed
      simp only [answered, balanceAfter_nil, balance_of_view_eq h]
  | adjustBalance player balance delta =>
      obtain ⟨-, rfl⟩ := hallowed
      simp only [answered, balanceAfter_nil, balance_of_view_eq h, hwrite, answered.summed]
  | pendingBuffer character =>
      obtain rfl : character = reach.player.character := hallowed
      simp only [answered, bufferAfter_nil, pendingBuffer_of_view_eq h]
  | setPendingBuffer character buffer =>
      obtain ⟨-, rfl⟩ := hallowed
      simp only [answered, bufferAfter_nil, pendingBuffer_of_view_eq h, hwrite]
  | step gacha character =>
      obtain rfl : character = reach.player.character := hallowed
      have hsteps : left.steps? gacha reach.player.character =
          right.steps? gacha reach.player.character := congrArg (fun view => view.steps gacha) h
      simp only [answered, hsteps]
  | dealtEntries gacha character =>
      obtain rfl : character = reach.player.character := hallowed
      have hdealt : left.dealtTo gacha reach.player.character =
          right.dealtTo gacha reach.player.character := congrArg (fun view => view.dealt gacha) h
      simp only [answered, hdealt]
  | addPurchase character item count =>
      obtain ⟨-, rfl⟩ := hallowed
      have hbought : left.purchaseCount reach.player.character item =
          right.purchaseCount reach.player.character item :=
        congrArg (fun view => view.purchases item) h
      simp only [answered, answered.boughtAfter, hbought, hwrite]
  | purchaseCount character item =>
      obtain rfl : character = reach.player.character := hallowed
      have hbought : left.purchaseCount reach.player.character item =
          right.purchaseCount reach.player.character item :=
        congrArg (fun view => view.purchases item) h
      simp only [answered, answered.boughtAfter, hbought]
  | _ => exact hcatalog

theorem perform_of_view_eq {α : Type} {asked : Command α}
    (hallowed : reach.AllowsCommand asked)
    (h : left.view reach.player = right.view reach.player) :
    (Action.run (Store.perform asked) left).1 = (Action.run (Store.perform asked) right).1 ∧
      (Action.run (Store.perform asked) left).2.view reach.player =
        (Action.run (Store.perform asked) right).2.view reach.player := by
  rw [run_perform, run_perform, step_eq, step_eq, answered_of_view_eq hallowed h]
  cases right.answered [] asked with
  | error halt => exact ⟨rfl, h⟩
  | ok answer =>
      refine ⟨rfl, ?_⟩
      cases asked.write? with
      | none => exact h
      | some write => exact view_put h write

end Records

section

variable {α : Type} {reach : Reach} {left right : Machine Records}

theorem Dialogue.run_of_view_eq {d : Dialogue α} (hd : d.Within reach.Allows)
    (hdraws : reach.draws = false) (hclock : reach.clock = false)
    (h : left.store.view reach.player = right.store.view reach.player) :
    (Action.run d.carry left).1 = (Action.run d.carry right).1 ∧
      (Action.run d.carry left).2.store.view reach.player =
        (Action.run d.carry right).2.store.view reach.player := by
  induction d generalizing left right with
  | done answer => exact ⟨rfl, h⟩
  | stop halt => exact ⟨rfl, h⟩
  | ask query next ih =>
      cases query with
      | command asked =>
          obtain ⟨hanswer, hview⟩ := Records.perform_of_view_eq hd.1 h
          simp only [carry, Query.put, Action.run_bind, Machine.run_onStore, hanswer]
          cases (Action.run (Store.perform asked) right.store).1 with
          | ok answer => exact ih answer (hd.2 answer) hview
          | error halt => exact ⟨rfl, hview⟩
      | weighted pool rolls => simp [Within, Reach.Allows, hdraws] at hd
      | uniform pool rolls => simp [Within, Reach.Allows, hdraws] at hd
      | clock => simp [Within, Reach.Allows, hclock] at hd

theorem Spoken.transaction_of_view_eq {body : ∀ (σ : Type) [Store σ], Action (Machine σ) α}
    (hbody : Spoken reach.Allows body) (hdraws : reach.draws = false)
    (hclock : reach.clock = false) {left right : Machine Memory}
    (h : left.store.records.view reach.player = right.store.records.view reach.player) :
    (Action.run (Machine.transaction (body Memory)) left).1 =
        (Action.run (Machine.transaction (body Memory)) right).1 ∧
      (Action.run (Machine.transaction (body Memory)) left).2.store.records.view reach.player =
        (Action.run (Machine.transaction (body Memory)) right).2.store.records.view
          reach.player := by
  rw [hbody.run_transaction, hbody.run_transaction]
  obtain ⟨d, hd, hcarry⟩ := hbody
  have hplain : left.plain.store.view reach.player = right.plain.store.view reach.player := h
  have hrun := d.run_of_view_eq hd hdraws hclock hplain
  rw [← hcarry Records] at hrun
  obtain ⟨hanswer, hview⟩ := hrun
  cases hleft : Action.run (body Records) left.plain with
  | mk outcome worked =>
      cases hright : Action.run (body Records) right.plain with
      | mk outcome' worked' =>
          rw [hleft, hright] at hanswer hview
          obtain rfl : outcome = outcome' := hanswer
          cases outcome with
          | ok answer => exact ⟨rfl, hview⟩
          | error halt => exact ⟨rfl, h⟩

end

namespace Operation

variable {α β : Type} {player other : Player}

def player? : Operation α → Option Player
  | .playNormal player _ _ | .playStepup player _ _ | .playBox player _ _ => some player
  | .boxStatus player _ | .resetBox player _ | .stepStatus player _ => some player
  | .receive player _ | .points player | .usePoints player _ _ => some player
  | .buy player _ _ | .sell player _ _ | .acquire player _ => some player
  | .purchaseCount player _ => some player
  | .listing _ _ => none

def isBy (player : Player) (operation : Operation α) : Bool :=
  operation.player?.all (· = player)

def draws : Operation α → Bool
  | .playNormal _ _ _ | .playStepup _ _ _ | .playBox _ _ _ => true
  | _ => false

def timeless : Operation α → Except Halt α → Except Halt α
  | .stepStatus _ _, outcome => outcome.map fun status => { status with serverTime := 0 }
  | _, outcome => outcome

theorem reach_player {operation : Operation α} (h : operation.player? = some player) :
    operation.reach.player = player := by
  cases operation with
  | listing hr gr => cases h
  | _ => cases h; rfl

theorem reach_draws (operation : Operation α) : operation.reach.draws = operation.draws := by
  cases operation <;> rfl

theorem spoken_body_by {operation : Operation α} (h : operation.isBy player) :
    Spoken ({ operation.reach with player } : Reach).Allows fun σ _ =>
      operation.body (σ := σ) := by
  cases howner : operation.player? with
  | none =>
      cases operation with
      | listing hr gr => exact Spoken.listing hr gr
      | _ => cases howner
  | some owner =>
      obtain rfl : owner = player := by simpa [isBy, howner] using h
      have hbody := operation.spoken_body
      rwa [← reach_player howner]

theorem elsewhere_perform {operation : Operation α} (h : operation.isBy player)
    (machine : Machine Memory) :
    Records.Elsewhere player machine.store.records
      (Action.run operation.perform machine).2.store.records := by
  rw [perform_eq]
  exact ((spoken_body_by h).frame_transaction machine).elsewhere

def currentStep {σ : Type} [Store σ] (player : Player) (gacha : GachaId) :
    Action (Machine σ) UInt8 := do
  Machine.onStore (Play.lock player gacha)
  Machine.onStore (Steps.current gacha player.character)

theorem run_stepStatus {σ : Type} [Store σ] (player : Player) (gacha : GachaId)
    (machine : Machine σ) :
    (stepStatus player gacha).timeless
        (Action.run (stepStatus player gacha).perform machine).1 =
      (Action.run (Machine.transaction (currentStep player gacha)) machine).1.map
        (fun step => { step, serverTime := 0 }) ∧
    (Action.run (stepStatus player gacha).perform machine).2 =
      (Action.run (Machine.transaction (currentStep player gacha)) machine).2 := by
  have hperform : (stepStatus player gacha).perform (σ := σ) =
      Machine.transaction (currentStep player gacha) >>= fun step =>
        Machine.serverTime >>= fun serverTime => pure { step, serverTime } := rfl
  rw [hperform, Action.run_bind]
  cases Action.run (Machine.transaction (currentStep player gacha)) machine with
  | mk outcome worked => cases outcome <;> exact ⟨rfl, rfl⟩

theorem stepStatus_of_view_eq (gacha : GachaId) {left right : Machine Memory}
    (h : left.store.records.view player = right.store.records.view player) :
    (stepStatus player gacha).timeless
          (Action.run (stepStatus player gacha).perform left).1 =
        (stepStatus player gacha).timeless
          (Action.run (stepStatus player gacha).perform right).1 ∧
      (Action.run (stepStatus player gacha).perform left).2.store.records.view player =
        (Action.run (stepStatus player gacha).perform right).2.store.records.view player := by
  let reach : Reach := { player, gacha, tables := [.stepup] }
  -- The time is read after the unit of work, so up to then nothing depends on the clock.
  have hfound : Spoken reach.Allows fun σ _ => currentStep (σ := σ) player gacha :=
    Spoken.bind (Spoken.lock gacha) fun _ => Spoken.current (by simp [reach])
  obtain ⟨hanswer, hview⟩ := hfound.transaction_of_view_eq rfl rfl h
  obtain ⟨hleft, hleft'⟩ := run_stepStatus player gacha left
  obtain ⟨hright, hright'⟩ := run_stepStatus player gacha right
  rw [hleft, hright, hleft', hright', hanswer]
  exact ⟨rfl, hview⟩

theorem perform_of_view_eq {operation : Operation α} (hby : operation.isBy player)
    (hdraws : operation.draws = false) {left right : Machine Memory}
    (h : left.store.records.view player = right.store.records.view player) :
    operation.timeless (Action.run operation.perform left).1 =
        operation.timeless (Action.run operation.perform right).1 ∧
      (Action.run operation.perform left).2.store.records.view player =
        (Action.run operation.perform right).2.store.records.view player := by
  have hrun (hclock : operation.reach.clock = false) :=
    (spoken_body_by hby).transaction_of_view_eq
      ((reach_draws operation).trans hdraws) hclock h
  rw [← perform_eq] at hrun
  cases operation with
  | stepStatus owner gacha =>
      obtain rfl : owner = player := by simpa [isBy, player?] using hby
      exact stepStatus_of_view_eq gacha h
  | _ => exact hrun rfl

theorem draws_of_isBy {operation : Operation α} (h : operation.isBy player)
    (hother : operation.isBy other) (hne : player ≠ other) : operation.draws = false := by
  cases howner : operation.player? with
  | none =>
      cases operation with
      | listing hr gr => rfl
      | _ => cases howner
  | some owner =>
      have hplayer : owner = player := by simpa [isBy, howner] using h
      have hother : owner = other := by simpa [isBy, howner] using hother
      exact absurd (hplayer.symm.trans hother) hne

end Operation

namespace Event

def timeless : Event → Event
  | .answered operation outcome => .answered operation (operation.timeless outcome)
  | .stocked catalog => .stocked catalog

def toldTo? (player : Player) : Event → Option Event
  | .answered operation outcome =>
      if operation.isBy player then some (Event.answered operation outcome).timeless else none
  | .stocked _ => none

def toldTo (player : Player) (events : List Event) : List Event :=
  events.filterMap (toldTo? player)

theorem toldTo_eq_of_forall₂ {player : Player} {left right : List Event}
    (h : List.Forall₂ (fun event event' => event.toldTo? player = event'.toldTo? player) left
      right) : toldTo player left = toldTo player right := by
  induction h with
  | nil => rfl
  | cons hhead _ ih =>
      simp only [toldTo, List.filterMap_cons, hhead] at ih ⊢
      rw [ih]

end Event

/-- A call of a player who draws nothing by it, of somebody apart from the player, or of the one
who brings the catalogs. -/
def Call.Spares (player : Player) : Call → Prop
  | .ask operation =>
      (operation.isBy player ∧ operation.draws = false) ∨
        ∃ owner : Player, owner.Apart player ∧ operation.isBy owner
  | .stock _ => True

namespace Machine

variable {player : Player} {left right : Machine Memory}

theorem call_of_view_eq {call : Call} (hspares : call.Spares player)
    (h : left.store.records.view player = right.store.records.view player) :
    (left.call call).1.toldTo? player = (right.call call).1.toldTo? player ∧
      (left.call call).2.store.records.view player =
        (right.call call).2.store.records.view player := by
  cases call with
  | stock catalog => exact ⟨rfl, Records.view_addCatalog h catalog⟩
  | ask operation =>
      by_cases hby : operation.isBy player
      · have hdraws : operation.draws = false := by
          rcases hspares with ⟨-, hdraws⟩ | ⟨owner, hapart, howner⟩
          · exact hdraws
          · exact Operation.draws_of_isBy howner hby fun heq => hapart.1 (congrArg _ heq)
        obtain ⟨hanswer, hview⟩ := Operation.perform_of_view_eq hby hdraws h
        refine ⟨?_, hview⟩
        simp only [Machine.call, Event.toldTo?, hby, if_true, Event.timeless, hanswer]
      · obtain ⟨owner, hapart, howner⟩ := hspares.resolve_left fun hown => hby hown.1
        refine ⟨by simp only [Machine.call, Event.toldTo?, hby, Bool.false_eq_true, if_false], ?_⟩
        have hleft := (Operation.elsewhere_perform howner left).view_eq hapart
        have hright := (Operation.elsewhere_perform howner right).view_eq hapart
        exact hleft.trans (h.trans hright.symm)

theorem serve_of_view_eq {calls : List Call} (hspares : ∀ call ∈ calls, call.Spares player)
    (h : left.store.records.view player = right.store.records.view player) :
    Event.toldTo player (left.serve calls).1 = Event.toldTo player (right.serve calls).1 ∧
      (left.serve calls).2.store.records.view player =
        (right.serve calls).2.store.records.view player := by
  have hboth := serve_others
    (R := fun left right : Machine Memory =>
      left.store.records.view player = right.store.records.view player)
    (S := fun event event' => event.toldTo? player = event'.toldTo? player)
    [] calls (by simp [Marks.chosen])
    (fun call hcall left right => call_of_view_eq (hspares call hcall)) h
  simp only [Marks.others_no_marks] at hboth
  exact ⟨Event.toldTo_eq_of_forall₂ hboth.1, hboth.2⟩

end Machine

namespace Sample

def neighbour : Player := { account := 2, character := 2 }

def street : Machine Memory := machine (records.addPlayer neighbour)

end Sample

namespace Operation

variable {α : Type}

theorem players_apart (operation : Operation α) {player : Player} (hby : operation.isBy player)
    (machine : Machine Memory) :
    let next := (Action.run operation.perform machine).2
    Records.Elsewhere player machine.store.records next.store.records ∧
      ∀ (other : Player), player.Apart other → ∀ clock : Clock,
        let without : Machine Memory := { machine with clock }
        (∀ calls : List Call, (∀ call ∈ calls, call.Spares other) →
          Event.toldTo other (next.serve calls).1 = Event.toldTo other (without.serve calls).1 ∧
            (next.serve calls).2.store.records.view other =
              (without.serve calls).2.store.records.view other) ∧
        (operation.draws = false → ∀ {β : Type} (second : Operation β),
          second.isBy other → second.draws = false →
            (machine.serve [.ask operation, .ask second]).1.map Event.timeless =
              ((without.serve [.ask second, .ask operation]).1.map Event.timeless).reverse) := by
  intro next
  have helsewhere := elsewhere_perform hby machine
  refine ⟨helsewhere, fun other hapart clock => ⟨fun calls hspares => ?_, ?_⟩⟩
  · exact Machine.serve_of_view_eq hspares (helsewhere.view_eq hapart)
  · intro hdraws β second hsecond hdraws'
    let without : Machine Memory := { machine with clock }
    let after := (Action.run second.perform without).2
    have hnext : next.store.records.view other = without.store.records.view other :=
      helsewhere.view_eq hapart
    have hafter : machine.store.records.view player = after.store.records.view player :=
      ((elsewhere_perform hsecond without).view_eq hapart.symm).symm
    have hother := perform_of_view_eq hsecond hdraws' hnext
    have hown := perform_of_view_eq hby hdraws hafter
    simp only [Machine.serve, Machine.call, List.map_cons, List.map_nil, List.reverse_cons,
      List.reverse_nil, List.nil_append, List.cons_append, Event.timeless]
    rw [hother.1, hown.1]

theorem players_apart_street :
    let player := Sample.player
    let other := Sample.neighbour
    let spent := usePoints player 5 0
    let calls : List Call :=
      [.ask (playBox player 1 0), .ask (receive other false), .ask (stepStatus other 1)]
    let next := (Action.run spent.perform Sample.street).2
    let without : Machine Memory := { Sample.street with clock := { now := 9 } }
    (spent.isBy player ∧ player.Apart other ∧ ∀ call ∈ calls, call.Spares other) ∧
      Event.toldTo other (next.serve calls).1 = Event.toldTo other (without.serve calls).1 ∧
      (Sample.street.serve [.ask spent, .ask (stepStatus other 1)]).1.map Event.timeless =
        ((without.serve [.ask (stepStatus other 1), .ask spent]).1.map
          Event.timeless).reverse := by
  intro player other spent calls next without
  have hapart : player.Apart other := ⟨by decide, by decide⟩
  have hspares : ∀ call ∈ calls, call.Spares other := by
    intro call hcall
    simp only [calls, List.mem_cons, List.not_mem_nil, or_false] at hcall
    rcases hcall with rfl | rfl | rfl
    · exact .inr ⟨player, hapart, by decide⟩
    · exact .inl ⟨by decide, rfl⟩
    · exact .inl ⟨by decide, rfl⟩
  have hspent : spent.isBy player := by decide
  obtain ⟨-, hothers⟩ := players_apart spent hspent Sample.street
  obtain ⟨hlater, horder⟩ := hothers other hapart { now := 9 }
  exact ⟨⟨hspent, hapart, hspares⟩, (hlater calls hspares).1,
    horder rfl (stepStatus other 1) (by decide) rfl⟩

end Operation

end PrizeDraw
