import PrizeDraw.Proofs.Staging

namespace PrizeDraw

namespace Records

inductive Edit (reach : Reach) (records : Records) : Records → Prop where
  | none : Edit reach records records
  | account (h : .balances ∈ reach.tables) (balance : Balance) (hscope : balance.scope = .account)
      (purse : Purse) (hpurse : records.accounts.find? reach.player.account = some purse)
      (value : Int64) :
      Edit reach records { records with
        accounts := records.accounts.insert reach.player.account (purse.set balance value) }
  | character (h : .balances ∈ reach.tables) (balance : Balance)
      (hscope : balance.scope = .character) (row : CharacterRow)
      (hrow : records.characters.find? reach.player.character = some row) (value : Int64) :
      Edit reach records { records with
        characters := records.characters.insert reach.player.character
          { row with purse := row.purse.set balance value } }
  | buffer (h : .inventory ∈ reach.tables) (row : CharacterRow)
      (hrow : records.characters.find? reach.player.character = some row)
      (buffer : Option Bytes) :
      Edit reach records { records with
        characters := records.characters.insert reach.player.character
          { row with pending := buffer } }
  | deleteStep (h : .stepup ∈ reach.tables) :
      Edit reach records { records with
        steps := records.steps.filter fun row =>
          !(row.gacha == reach.gacha && row.character == reach.player.character) }
  | insertStep (h : .stepup ∈ reach.tables) (step : UInt8) :
      Edit reach records { records with
        steps := records.steps ++
          [{ gacha := reach.gacha, character := reach.player.character, step }] }
  | insertDealt (h : .box ∈ reach.tables) (entry : EntryId) :
      Edit reach records { records with
        dealt := records.dealt ++
          [{ gacha := reach.gacha, character := reach.player.character, entry }] }
  | deleteDealt (h : .box ∈ reach.tables) :
      Edit reach records { records with
        dealt := records.dealt.filter fun row =>
          !(row.gacha == reach.gacha && row.character == reach.player.character) }
  | purchase (h : .shopPurchases ∈ reach.tables) (item : ShopItemId) (count : UInt64) :
      Edit reach records { records with
        purchases := records.purchases.insert { character := reach.player.character, item }
          count }

variable {α : Type} {reach : Reach} {records changed : Records}

theorem character_ok {id : CharacterId} {row : CharacterRow}
    (h : records.character id = .ok row) : records.characters.find? id = some row := by
  unfold character at h
  split at h
  · rename_i found hfound
    cases h
    exact hfound
  · cases h

theorem account_ok {id : AccountId} {purse : Purse} (h : records.account id = .ok purse) :
    records.accounts.find? id = some purse := by
  unfold account at h
  split at h
  · rename_i found hfound
    cases h
    exact hfound
  · cases h

theorem edit_setBalance (h : .balances ∈ reach.tables) {balance : Balance} {value : Int64}
    (hset : records.setBalance reach.player balance value = .ok changed) :
    Edit reach records changed := by
  unfold setBalance at hset
  cases hscope : balance.scope with
  | account =>
      rw [hscope] at hset
      cases hpurse : records.account reach.player.account with
      | error fault => rw [hpurse] at hset; cases hset
      | ok purse =>
          rw [hpurse] at hset
          cases hset
          exact .account h balance hscope purse (account_ok hpurse) value
  | character =>
      rw [hscope] at hset
      cases hrow : records.character reach.player.character with
      | error fault => rw [hrow] at hset; cases hset
      | ok row =>
          rw [hrow] at hset
          cases hset
          exact .character h balance hscope row (character_ok hrow) value

theorem edit_setPendingBuffer (h : .inventory ∈ reach.tables) {buffer : Option Bytes}
    (hset : records.setPendingBuffer reach.player.character buffer = .ok changed) :
    Edit reach records changed := by
  unfold setPendingBuffer at hset
  cases hrow : records.character reach.player.character with
  | error fault => rw [hrow] at hset; cases hset
  | ok row =>
      rw [hrow] at hset
      cases hset
      exact .buffer h row (character_ok hrow) buffer

theorem of_read_ok {outcome : Except StoreFault α} {answer : α}
    (h : step.read records outcome = .ok (answer, changed)) : changed = records := by
  cases outcome with
  | ok found => cases h; rfl
  | error fault => cases h

theorem of_write_ok {table : WriteTable} {written : Records} {answer : Unit}
    (h : step.write records table written = .ok (answer, changed)) : changed = written := by
  unfold step.write at h
  split at h
  · cases h; rfl
  · cases h

theorem edit_of_step {asked : Command α} (hallowed : reach.AllowsCommand asked) {answer : α}
    (h : records.step asked = .ok (answer, changed)) : Edit reach records changed := by
  cases asked with
  | adjustBalance player balance delta =>
      obtain ⟨htable, rfl⟩ := hallowed
      simp only [step] at h
      split at h
      · cases h
      · cases h
      · split at h
        · cases h
        · split at h
          · cases h
          · rename_i hset
            cases h
            exact edit_setBalance htable hset
  | setPendingBuffer character buffer =>
      obtain ⟨htable, rfl⟩ := hallowed
      simp only [step] at h
      split at h
      · cases h
      · cases h
      · rename_i hset
        cases h
        exact edit_setPendingBuffer htable hset
  | deleteStep gacha character =>
      obtain ⟨htable, rfl, rfl⟩ := hallowed
      rw [of_write_ok h]
      exact .deleteStep htable
  | insertStep gacha character step =>
      obtain ⟨htable, rfl, rfl⟩ := hallowed
      rw [of_write_ok h]
      exact .insertStep htable step
  | insertDealt gacha character entry =>
      obtain ⟨htable, rfl, rfl⟩ := hallowed
      rw [of_write_ok h]
      exact .insertDealt htable entry
  | deleteDealt gacha character =>
      obtain ⟨htable, rfl, rfl⟩ := hallowed
      rw [of_write_ok h]
      exact .deleteDealt htable
  | addPurchase character item count =>
      obtain ⟨htable, rfl⟩ := hallowed
      simp only [step] at h
      split at h
      · cases h
      · split at h
        · cases h
          exact .purchase htable item _
        · cases h
  | commit => exact hallowed.elim
  | rollback => exact hallowed.elim
  | balance player balance => rw [of_read_ok h]; exact .none
  | pendingBuffer character => rw [of_read_ok h]; exact .none
  | _ => cases h; exact .none

theorem edit_perform {asked : Command α} (hallowed : reach.AllowsCommand asked)
    (records : Records) : Edit reach records (Action.run (Store.perform asked) records).2 := by
  rw [run_perform]
  split
  · rename_i hstep
    exact edit_of_step hallowed hstep
  · exact .none

def held (records : Records) (character : CharacterId) : Option Bytes :=
  (records.characters.find? character).bind CharacterRow.pending

def ownPurse? (records : Records) (character : CharacterId) : Option Purse :=
  (records.characters.find? character).map CharacterRow.purse

structure Frame (reach : Reach) (before after : Records) : Prop where
  gachas : after.gachas = before.gachas
  entries : after.entries = before.entries
  rewards : after.rewards = before.rewards
  trades : after.trades = before.trades
  failing : after.failing = before.failing
  account : ∀ id, (.balances ∈ reach.tables → id ≠ reach.player.account) →
    after.accounts.find? id = before.accounts.find? id
  ownPurse : ∀ character, (.balances ∈ reach.tables → character ≠ reach.player.character) →
    after.ownPurse? character = before.ownPurse? character
  held : ∀ character, (.inventory ∈ reach.tables → character ≠ reach.player.character) →
    after.held character = before.held character
  steps : ∀ gacha character,
    (.stepup ∈ reach.tables → ¬(gacha = reach.gacha ∧ character = reach.player.character)) →
    after.steps? gacha character = before.steps? gacha character
  dealt : ∀ gacha character,
    (.box ∈ reach.tables → ¬(gacha = reach.gacha ∧ character = reach.player.character)) →
    after.dealtTo gacha character = before.dealtTo gacha character
  purchases : ∀ character item,
    (.shopPurchases ∈ reach.tables → character ≠ reach.player.character) →
    after.purchaseCount character item = before.purchaseCount character item

theorem Frame.refl (reach : Reach) (records : Records) : Frame reach records records := by
  constructor <;> intros <;> rfl

theorem Frame.trans {first second third : Records} (h : Frame reach first second)
    (h' : Frame reach second third) : Frame reach first third where
  gachas := h'.gachas.trans h.gachas
  entries := h'.entries.trans h.entries
  rewards := h'.rewards.trans h.rewards
  trades := h'.trades.trans h.trades
  failing := h'.failing.trans h.failing
  account id hout := (h'.account id hout).trans (h.account id hout)
  ownPurse character hout := (h'.ownPurse character hout).trans (h.ownPurse character hout)
  held character hout := (h'.held character hout).trans (h.held character hout)
  steps gacha character hout :=
    (h'.steps gacha character hout).trans (h.steps gacha character hout)
  dealt gacha character hout :=
    (h'.dealt gacha character hout).trans (h.dealt gacha character hout)
  purchases character item hout :=
    (h'.purchases character item hout).trans (h.purchases character item hout)

theorem held_insert (records : Records) (character other : CharacterId) (row : CharacterRow) :
    ({ records with characters := records.characters.insert character row } : Records).held other
      = if other = character then row.pending else records.held other := by
  unfold held
  by_cases h : other = character
  · subst h
    rw [Table.find?_insert_self, if_pos rfl, Option.bind_some]
  · rw [Table.find?_insert_of_ne h, if_neg h]

theorem ownPurse?_insert (records : Records) (character other : CharacterId)
    (row : CharacterRow) :
    ({ records with characters := records.characters.insert character row } :
        Records).ownPurse? other =
      if other = character then some row.purse else records.ownPurse? other := by
  unfold ownPurse?
  by_cases h : other = character
  · subst h
    rw [Table.find?_insert_self, if_pos rfl, Option.map_some]
  · rw [Table.find?_insert_of_ne h, if_neg h]

theorem filter_pair_append {ρ : Type} (gachaOf : ρ → GachaId) (characterOf : ρ → CharacterId)
    (rows : List ρ) (row : ρ) (gacha : GachaId) (character : CharacterId) :
    (rows ++ [row]).filter
        (fun row => gachaOf row == gacha && characterOf row == character) =
      if gacha = gachaOf row ∧ character = characterOf row
      then (rows.filter fun row => gachaOf row == gacha && characterOf row == character) ++ [row]
      else rows.filter fun row => gachaOf row == gacha && characterOf row == character := by
  rw [List.filter_append]
  split
  · rename_i heq
    obtain ⟨rfl, rfl⟩ := heq
    simp
  · rename_i hne
    have hother : (gachaOf row == gacha && characterOf row == character) = false := by
      simpa using fun hg hc => hne ⟨hg.symm, hc.symm⟩
    simp [hother]

theorem filter_pair_filter {ρ : Type} (gachaOf : ρ → GachaId) (characterOf : ρ → CharacterId)
    (rows : List ρ) (gacha other : GachaId) (character another : CharacterId) :
    (rows.filter fun row => !(gachaOf row == gacha && characterOf row == character)).filter
        (fun row => gachaOf row == other && characterOf row == another) =
      if other = gacha ∧ another = character then []
      else rows.filter fun row => gachaOf row == other && characterOf row == another := by
  rw [List.filter_filter]
  split
  · rename_i heq
    obtain ⟨rfl, rfl⟩ := heq
    simp
  · rename_i hne
    apply List.filter_congr
    intro row _
    by_cases hrow : gachaOf row = other ∧ characterOf row = another
    · obtain ⟨rfl, rfl⟩ := hrow
      have hkept : (gachaOf row == gacha && characterOf row == character) = false := by
        simpa using hne
      rw [hkept, Bool.not_false, Bool.and_true]
    · have hfalse : (gachaOf row == other && characterOf row == another) = false := by
        simpa using hrow
      rw [hfalse, Bool.false_and]

theorem dealtTo_append (records : Records) (row : DealtRow) (gacha : GachaId)
    (character : CharacterId) :
    ({ records with dealt := records.dealt ++ [row] } : Records).dealtTo gacha character =
      if gacha = row.gacha ∧ character = row.character
      then records.dealtTo gacha character ++ [row.entry]
      else records.dealtTo gacha character := by
  simp only [dealtTo]
  rw [filter_pair_append DealtRow.gacha DealtRow.character]
  split
  · rw [List.map_append]
    rfl
  · rfl

theorem steps?_append (records : Records) (row : StepRow) (gacha : GachaId)
    (character : CharacterId) :
    ({ records with steps := records.steps ++ [row] } : Records).steps? gacha character =
      if gacha = row.gacha ∧ character = row.character
      then records.steps? gacha character ++ [row.step]
      else records.steps? gacha character := by
  simp only [steps?]
  rw [filter_pair_append StepRow.gacha StepRow.character]
  split
  · rw [List.map_append]
    rfl
  · rfl

theorem dealtTo_filter (records : Records) (gacha other : GachaId)
    (character another : CharacterId) :
    ({ records with
        dealt := records.dealt.filter fun row =>
          !(row.gacha == gacha && row.character == character) } : Records).dealtTo other another =
      if other = gacha ∧ another = character then [] else records.dealtTo other another := by
  simp only [dealtTo]
  rw [filter_pair_filter DealtRow.gacha DealtRow.character]
  split <;> rfl

theorem steps?_filter (records : Records) (gacha other : GachaId)
    (character another : CharacterId) :
    ({ records with
        steps := records.steps.filter fun row =>
          !(row.gacha == gacha && row.character == character) } : Records).steps? other another =
      if other = gacha ∧ another = character then [] else records.steps? other another := by
  simp only [steps?]
  rw [filter_pair_filter StepRow.gacha StepRow.character]
  split <;> rfl

theorem Edit.frame (h : Edit reach records changed) : Frame reach records changed := by
  cases h with
  | none => exact Frame.refl reach records
  | account htable balance hscope purse hpurse value =>
      refine { Frame.refl reach records with account := ?_ }
      intro id hout
      exact Table.find?_insert_of_ne (hout htable) _ _
  | character htable balance hscope row hrow value =>
      refine { Frame.refl reach records with ownPurse := ?_, held := ?_ }
      · intro character hout
        rw [ownPurse?_insert, if_neg (hout htable)]
      · intro character _
        rw [held_insert]
        split
        · rename_i heq
          rw [heq, Records.held, hrow, Option.bind_some]
        · rfl
  | buffer htable row hrow buffer =>
      refine { Frame.refl reach records with ownPurse := ?_, held := ?_ }
      · intro character _
        rw [ownPurse?_insert]
        split
        · rename_i heq
          rw [heq, ownPurse?, hrow, Option.map_some]
        · rfl
      · intro character hout
        rw [held_insert, if_neg (hout htable)]
  | deleteStep htable =>
      refine { Frame.refl reach records with steps := ?_ }
      intro gacha character hout
      rw [steps?_filter, if_neg (hout htable)]
  | insertStep htable step =>
      refine { Frame.refl reach records with steps := ?_ }
      intro gacha character hout
      rw [steps?_append, if_neg (hout htable)]
  | insertDealt htable entry =>
      refine { Frame.refl reach records with dealt := ?_ }
      intro gacha character hout
      rw [dealtTo_append, if_neg (hout htable)]
  | deleteDealt htable =>
      refine { Frame.refl reach records with dealt := ?_ }
      intro gacha character hout
      rw [dealtTo_filter, if_neg (hout htable)]
  | purchase htable item count =>
      refine { Frame.refl reach records with purchases := ?_ }
      intro character other hout
      have hne : ({ character, item := other } : PurchaseKey) ≠
          { character := reach.player.character, item } := by
        intro heq
        cases heq
        exact hout htable rfl
      rw [purchaseCount, Table.find?_insert_of_ne hne]
      rfl

end Records

namespace Spoken

variable {α : Type} {reach : Reach}

theorem frame {body : ∀ (σ : Type) [Store σ], Action (Machine σ) α}
    (h : Spoken reach.Allows body) (machine : Machine Records) :
    Records.Frame reach machine.store (Action.run (body Records) machine).2.store := by
  refine h.keeps_store (P := Records.Frame reach machine.store) ?_ (Records.Frame.refl _ _)
  intro β asked hallowed records hrecords
  exact hrecords.trans (Records.edit_perform hallowed records).frame

theorem frame_of_run {part : ∀ (σ : Type) [Store σ], Action σ α}
    (h : Spoken reach.Allows fun σ _ => Machine.onStore (part σ)) {records after : Records}
    {outcome : Except Halt α} (hrun : Action.run (part Records) records = (outcome, after)) :
    Records.Frame reach records after := by
  have hframe := h.frame { store := records, generator := { stream := fun _ => 0 } }
  rw [Machine.run_onStore, hrun] at hframe
  exact hframe

theorem frame_transaction {body : ∀ (σ : Type) [Store σ], Action (Machine σ) α}
    (h : Spoken reach.Allows body) (machine : Machine Memory) :
    Records.Frame reach machine.store.records
      (Action.run (Machine.transaction (body Memory)) machine).2.store.records := by
  have hframe := h.frame machine.plain
  rw [h.run_transaction]
  cases hrun : Action.run (body Records) machine.plain with
  | mk outcome worked =>
      rw [hrun] at hframe
      cases outcome with
      | ok answer => exact hframe
      | error halt => exact Records.Frame.refl reach _

end Spoken

theorem Operation.frame_perform {α : Type} (operation : Operation α) (machine : Machine Memory) :
    Records.Frame operation.reach machine.store.records
      (Action.run operation.perform machine).2.store.records := by
  rw [operation.perform_eq]
  exact operation.spoken_body.frame_transaction machine

end PrizeDraw
