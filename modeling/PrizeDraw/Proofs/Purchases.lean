import Mathlib.Data.List.Perm.Basic
import PrizeDraw.Proofs.Overflow

namespace PrizeDraw

open scoped List

namespace Purchase

def counted (item : ShopItemId) (purchases : List Purchase) : Nat :=
  if item = 0 then 0 else total item purchases

def proper (purchases : List Purchase) : Nat := purchases.countP fun purchase => purchase.item != 0

theorem total_append (item : ShopItemId) (first second : List Purchase) :
    total item (first ++ second) = total item first + total item second := by
  simp [total]

theorem total_perm (item : ShopItemId) {first second : List Purchase} (h : first ~ second) :
    total item first = total item second :=
  ((h.filter _).map _).sum_eq

theorem counted_nil (item : ShopItemId) : counted item [] = 0 := by
  unfold counted
  split <;> rfl

theorem counted_append (item : ShopItemId) (first second : List Purchase) :
    counted item (first ++ second) = counted item first + counted item second := by
  unfold counted
  split
  · rfl
  · exact total_append item first second

theorem counted_perm (item : ShopItemId) {first second : List Purchase} (h : first ~ second) :
    counted item first = counted item second := by
  unfold counted
  rw [total_perm item h]

theorem counted_cons_of_padding {purchase : Purchase} (h : purchase.item = 0) (item : ShopItemId)
    (rest : List Purchase) : counted item (purchase :: rest) = counted item rest := by
  unfold counted
  split
  · rfl
  · rename_i hitem
    rw [total_cons_of_ne (by rw [h]; exact hitem)]

theorem counted_cons_self {purchase : Purchase} (h : purchase.item ≠ 0) (rest : List Purchase) :
    counted purchase.item (purchase :: rest) =
      purchase.count.toNat + counted purchase.item rest := by
  rw [counted, counted, if_neg h, if_neg h, total_cons_self]

theorem counted_cons_of_ne {item : ShopItemId} {purchase : Purchase} (h : item ≠ purchase.item)
    (rest : List Purchase) : counted item (purchase :: rest) = counted item rest := by
  rw [counted, counted, total_cons_of_ne h]

end Purchase

namespace Exchange

variable {records after : Records} {character : CharacterId} {purchases : List Purchase}

theorem record_ok {recorded : Nat}
    (h : Action.run (record character purchases) records = (.ok recorded, after)) :
    recorded = Purchase.proper purchases ∧
      ∀ item, (after.purchaseCount character item).toNat =
        (records.purchaseCount character item).toNat + Purchase.counted item purchases := by
  induction purchases generalizing records recorded with
  | nil =>
      obtain ⟨rfl, rfl⟩ := Action.of_pure_ok h
      exact ⟨rfl, fun item => by rw [Purchase.counted_nil, Nat.add_zero]⟩
  | cons purchase rest ih =>
      unfold record at h
      by_cases hpadding : purchase.item = 0
      · rw [if_pos hpadding] at h
        obtain ⟨hproper, hcounters⟩ := ih h
        refine ⟨?_, fun item => ?_⟩
        · rw [hproper, Purchase.proper, Purchase.proper, List.countP_cons_of_neg]
          simpa using hpadding
        · rw [hcounters, Purchase.counted_cons_of_padding hpadding]
      · rw [if_neg hpadding] at h
        obtain ⟨_, added, hadd, hrest⟩ := Action.exists_of_bind_ok h
        obtain ⟨others, counted, hothers, hanswer⟩ := Action.exists_of_bind_ok hrest
        obtain ⟨rfl, rfl⟩ := Action.of_pure_ok hanswer
        obtain ⟨hproper, hcounters⟩ := ih hothers
        have hcounts := counts_addPurchase records character purchase.item purchase.count
        rw [hadd] at hcounts
        cases hcounts with
        | done _ hwrite hfailing hsum hkept =>
            refine ⟨?_, fun item => ?_⟩
            · rw [hproper, Purchase.proper, Purchase.proper, List.countP_cons_of_pos]
              simpa using hpadding
            · rw [hcounters]
              by_cases hsame : item = purchase.item
              · rw [hsame, hsum, Purchase.counted_cons_self hpadding, Nat.add_assoc]
              · rw [hkept item hsame, Purchase.counted_cons_of_ne hsame]

theorem refused_record_iff {fault : Fault} :
    (Action.run (record character purchases) records).1 = .error (.refused fault) ↔
      fault = .store (.injected WriteTable.shopPurchases.name) ∧
        .shopPurchases ∈ records.failing ∧ ∃ purchase ∈ purchases, purchase.item ≠ 0 := by
  induction purchases generalizing records with
  | nil =>
      refine iff_of_false nofun ?_
      rintro ⟨-, -, purchase, hmem, -⟩
      cases hmem
  | cons purchase rest ih =>
      unfold record
      by_cases hpadding : purchase.item = 0
      · rw [if_pos hpadding, ih]
        simp [hpadding]
      rw [if_neg hpadding]
      have hcounts := counts_addPurchase records character purchase.item purchase.count
      by_cases hwrite : .shopPurchases ∈ records.failing
      · have hrefused : Action.run (Store.perform (.addPurchase character purchase.item
            purchase.count)) records =
              (.error (.refused (.store (.injected WriteTable.shopPurchases.name))), records) := by
          rw [Records.run_perform, Records.step, Records.checkWrite_of_mem hwrite]
          rfl
        rw [Action.run_bind_of_error hrefused]
        simp [hwrite, hpadding, eq_comm]
      · have hnone : ¬(fault = .store (.injected WriteTable.shopPurchases.name) ∧
            .shopPurchases ∈ records.failing ∧ ∃ other ∈ purchase :: rest, other.item ≠ 0) :=
          fun h => hwrite h.2.1
        refine iff_of_false (fun hrun => ?_) hnone
        cases hadd : Action.run (Store.perform (.addPurchase character purchase.item
            purchase.count)) records with
        | mk outcome added =>
        rw [hadd] at hcounts
        cases hcounts with
        | refused other hfailing => exact hwrite hfailing
        | overflow _ hsum =>
            rw [Action.run_bind_of_error hadd] at hrun
            cases hrun
        | done _ _ hfailing hsum hkept =>
            rw [Action.run_bind_of_ok hadd, Action.run_bind] at hrun
            -- Adding one to the answer refuses nothing, so the rest was refused.
            cases hrest : Action.run (record character rest) added with
            | mk counted last =>
            rw [hrest] at hrun
            cases counted with
            | ok others => cases hrun
            | error halt =>
                have hfirst : (Action.run (record character rest) added).1 =
                    .error (.refused fault) := by
                  rw [hrest]
                  exact hrun
                exact hwrite (hfailing ▸ (ih.1 hfirst).2.1)

theorem halted_record_perm {others : List Purchase} (h : purchases ~ others) (halt : Halt) :
    (Action.run (record character purchases) records).1 = .error halt ↔
      (Action.run (record character others) records).1 = .error halt := by
  cases halt with
  | refused fault =>
      rw [refused_record_iff, refused_record_iff]
      simp only [h.mem_iff]
  | overflow =>
      have hover (purchases : List Purchase) :
          (Action.run (record character purchases) records).1 = .error .overflow ↔ _ :=
        overflows_record_iff
      rw [hover, hover]
      simp only [Purchase.total_perm _ h]

theorem record_perm {others : List Purchase} (h : purchases ~ others) :
    (Action.run (record character purchases) records).1 =
      (Action.run (record character others) records).1 := by
  have hhalted (halt : Halt) : (Action.run (record character purchases) records).1 = .error halt ↔
      (Action.run (record character others) records).1 = .error halt := halted_record_perm h halt
  cases hfirst : Action.run (record character purchases) records with
  | mk outcome after =>
  cases hsecond : Action.run (record character others) records with
  | mk other last =>
  rw [hfirst, hsecond] at hhalted
  cases outcome with
  | error halt => exact ((hhalted halt).1 rfl).symm
  | ok recorded =>
      cases other with
      | error halt => cases (hhalted halt).2 rfl
      | ok counted =>
          obtain ⟨rfl, -⟩ := record_ok hfirst
          obtain ⟨rfl, -⟩ := record_ok hsecond
          exact congrArg Except.ok (h.countP_eq _)

theorem exists_record_ok (hwrite : .shopPurchases ∉ records.failing)
    (hroom : ∀ item, item ≠ 0 →
      (records.purchaseCount character item).toNat + Purchase.total item purchases <
        UInt64.size) :
    ∃ recorded after, Action.run (record character purchases) records = (.ok recorded, after) := by
  cases hrun : Action.run (record character purchases) records with
  | mk outcome after =>
  cases outcome with
  | ok recorded => exact ⟨recorded, after, rfl⟩
  | error halt =>
      have hhalt : (Action.run (record character purchases) records).1 = .error halt := by
        rw [hrun]
      cases halt with
      | refused fault => exact absurd (refused_record_iff.1 hhalt).2.1 hwrite
      | overflow =>
          obtain ⟨-, item, hitem, hsize⟩ := overflows_record_iff.1 hhalt
          exact absurd (hroom item hitem) (Nat.not_lt_of_le hsize)

end Exchange

namespace Operation

def purchased {α : Type} (character : CharacterId) : Operation α → List Purchase
  | .acquire player purchases => if player.character = character then purchases else []
  | _ => []

variable {α : Type} {machine worked : Machine Records} {answer : α}

theorem counted_body (operation : Operation α)
    (h : Action.run operation.body machine = (.ok answer, worked)) (character : CharacterId)
    (item : ShopItemId) :
    (worked.store.purchaseCount character item).toNat =
      (machine.store.purchaseCount character item).toNat +
        Purchase.counted item (operation.purchased character) := by
  have hframe := operation.spoken_body.frame machine
  rw [h] at hframe
  have hkept (hout : .shopPurchases ∈ operation.reach.tables →
      character ≠ operation.reach.player.character)
      (hnone : operation.purchased character = []) :
      (worked.store.purchaseCount character item).toNat =
        (machine.store.purchaseCount character item).toNat +
          Purchase.counted item (operation.purchased character) := by
    rw [hframe.purchases character item hout, hnone, Purchase.counted_nil, Nat.add_zero]
  cases operation with
  | acquire player purchases =>
      by_cases hself : player.character = character
      · have hrun : Action.run (Machine.onStore (Exchange.record player.character purchases))
            machine = (.ok answer, worked) := h
        rw [purchased, if_pos hself, ← hself]
        exact (Exchange.record_ok (Machine.of_onStore_ok hrun).1).2 item
      · exact hkept (fun _ => Ne.symm hself) (if_neg hself)
  | receive player freeze =>
      refine hkept (fun hshop => ?_) rfl
      cases freeze <;> simp [reach] at hshop
  | _ => exact hkept (fun hshop => by simp [reach] at hshop) rfl

theorem run_acquire (player : Player) (purchases : List Purchase) (machine : Machine Memory) :
    (Action.run (acquire player purchases).perform machine).1 =
      (Action.run (Exchange.record player.character purchases) machine.store.records).1 := by
  rw [run_memory, body, Machine.run_onStore]
  cases hrun : Action.run (Exchange.record player.character purchases) machine.store.records with
  | mk outcome after =>
      rw [show machine.plain.store = machine.store.records from rfl, hrun]
      cases outcome <;> rfl

end Operation

def Event.purchased (character : CharacterId) : Event → List Purchase
  | .answered operation (.ok _) => operation.purchased character
  | .answered _ (.error _) => []
  | .stocked _ => []

namespace Machine

variable {machine next : Machine Memory} {event : Event}

theorem Turn.counted (h : Turn machine event next) (character : CharacterId) (item : ShopItemId) :
    (next.store.records.purchaseCount character item).toNat =
      (machine.store.records.purchaseCount character item).toNat +
        Purchase.counted item (event.purchased character) := by
  cases h with
  | done operation answer worked hbody => exact operation.counted_body hbody character item
  | stopped operation halt worked hbody =>
      rw [Event.purchased, Purchase.counted_nil]
      rfl
  | stocked catalog =>
      rw [Event.purchased, Purchase.counted_nil]
      rfl

theorem counted_serve (machine : Machine Memory) (calls : List Call) (character : CharacterId)
    (item : ShopItemId) :
    ((machine.serve calls).2.store.records.purchaseCount character item).toNat =
      (machine.store.records.purchaseCount character item).toNat +
        Purchase.counted item ((machine.serve calls).1.flatMap (Event.purchased character)) := by
  refine serve_keeps (P := fun past reached =>
    (reached.store.records.purchaseCount character item).toNat =
      (machine.store.records.purchaseCount character item).toNat +
        Purchase.counted item (past.flatMap (Event.purchased character))) ?_ calls ?_
  · intro past reached event next hturn hpast
    rw [hturn.counted, hpast, List.flatMap_append, Purchase.counted_append, List.flatMap_singleton,
      Nat.add_assoc]
  · rw [List.flatMap_nil, Purchase.counted_nil, Nat.add_zero]

theorem Turn.recorded {player : Player} {purchases : List Purchase} {recorded : Nat}
    (h : Turn machine (.answered (.acquire player purchases) (.ok recorded)) next) :
    recorded = Purchase.proper purchases := by
  cases h with
  | done operation answer worked hbody =>
      have hrun : Action.run (onStore (Exchange.record player.character purchases))
          machine.plain = (.ok recorded, worked) := hbody
      exact (Exchange.record_ok (of_onStore_ok hrun).1).1

theorem recorded_of_mem_serve {calls : List Call} {player : Player} {purchases : List Purchase}
    {recorded : Nat}
    (h : .answered (.acquire player purchases) (.ok recorded) ∈ (machine.serve calls).1) :
    recorded = Purchase.proper purchases := by
  obtain ⟨before, rest, heq⟩ := List.append_of_mem h
  obtain ⟨earlier, last, -, hturn⟩ := exists_of_serve_eq heq
  exact hturn.recorded

theorem purchaseCount_serve_perm {calls others : List Call} {character : CharacterId}
    (h : (machine.serve calls).1.flatMap (Event.purchased character) ~
      (machine.serve others).1.flatMap (Event.purchased character)) (item : ShopItemId) :
    (machine.serve calls).2.store.records.purchaseCount character item =
      (machine.serve others).2.store.records.purchaseCount character item := by
  apply UInt64.toNat_inj.1
  rw [counted_serve, counted_serve, Purchase.counted_perm item h]

theorem purchased_acquire_perm {first second : List Purchase} (h : first ~ second) (player : Player)
    (outcome : Except Halt Nat) (character : CharacterId) :
    Event.purchased character (.answered (.acquire player first) outcome) ~
      Event.purchased character (.answered (.acquire player second) outcome) := by
  cases outcome with
  | error halt => exact .refl []
  | ok recorded =>
      simp only [Event.purchased, Operation.purchased]
      split
      · exact h
      · exact .refl []

theorem acquire_perm {first second : List Purchase} (h : first ~ second) (player : Player)
    (machine : Machine Memory) :
    (Action.run (Operation.acquire player first).perform machine).1 =
        (Action.run (Operation.acquire player second).perform machine).1 ∧
      ∀ character item,
        (Action.run (Operation.acquire player first).perform
            machine).2.store.records.purchaseCount character item =
          (Action.run (Operation.acquire player second).perform
            machine).2.store.records.purchaseCount character item := by
  have houtcome : (Action.run (Operation.acquire player first).perform machine).1 =
      (Action.run (Operation.acquire player second).perform machine).1 := by
    rw [Operation.run_acquire, Operation.run_acquire, Exchange.record_perm h]
  refine ⟨houtcome, fun character item => ?_⟩
  have hlists : (machine.serve [.ask (.acquire player first)]).1.flatMap
        (Event.purchased character) ~
      (machine.serve [.ask (.acquire player second)]).1.flatMap (Event.purchased character) := by
    simp only [serve, call, List.flatMap_singleton]
    rw [houtcome]
    exact purchased_acquire_perm h player _ character
  exact purchaseCount_serve_perm hlists item

theorem acquire_of_room (machine : Machine Memory) (calls : List Call) (player : Player)
    (purchases : List Purchase)
    (hnone : ∀ item, machine.store.records.purchaseCount player.character item = 0)
    (hwrite : .shopPurchases ∉ (machine.serve calls).2.store.records.failing)
    (hroom : ∀ item, Purchase.counted item
      ((machine.serve calls).1.flatMap (Event.purchased player.character) ++ purchases) <
        UInt64.size) :
    (Action.run (Operation.acquire player purchases).perform (machine.serve calls).2).1 =
      .ok (Purchase.proper purchases) := by
  have hsums (item : ShopItemId) (hitem : item ≠ 0) :
      ((machine.serve calls).2.store.records.purchaseCount player.character item).toNat +
        Purchase.total item purchases < UInt64.size := by
    have hfits := hroom item
    rw [Purchase.counted_append, Purchase.counted, if_neg hitem, Purchase.counted,
      if_neg hitem] at hfits
    rw [counted_serve, hnone, Purchase.counted, if_neg hitem]
    simpa using hfits
  obtain ⟨recorded, after, hrun⟩ := Exchange.exists_record_ok hwrite hsums
  rw [Operation.run_acquire, hrun, (Exchange.record_ok hrun).1]

theorem purchases_serve (machine : Machine Memory)
    (hnone : ∀ character item, machine.store.records.purchaseCount character item = 0)
    (calls : List Call) :
    let events := (machine.serve calls).1
    let reached := (machine.serve calls).2
    (∀ player item, ∃ count,
      (Action.run (Operation.purchaseCount player item).perform reached).1 = .ok count ∧
        count.toNat = Purchase.counted item (events.flatMap (Event.purchased player.character))) ∧
    (∀ player purchases recorded,
      .answered (.acquire player purchases) (.ok recorded) ∈ events →
        recorded = Purchase.proper purchases) ∧
    (∀ player purchases, .shopPurchases ∉ reached.store.records.failing →
      (∀ item, Purchase.counted item
        (events.flatMap (Event.purchased player.character) ++ purchases) < UInt64.size) →
      (Action.run (Operation.acquire player purchases).perform reached).1 =
        .ok (Purchase.proper purchases)) ∧
    (∀ player first second, first ~ second →
      (Action.run (Operation.acquire player first).perform reached).1 =
          (Action.run (Operation.acquire player second).perform reached).1 ∧
        ∀ character item,
          (Action.run (Operation.acquire player first).perform
              reached).2.store.records.purchaseCount character item =
            (Action.run (Operation.acquire player second).perform
              reached).2.store.records.purchaseCount character item) ∧
    (∀ others character, events.flatMap (Event.purchased character) ~
        (machine.serve others).1.flatMap (Event.purchased character) →
      ∀ item, reached.store.records.purchaseCount character item =
        (machine.serve others).2.store.records.purchaseCount character item) ∧
    ∀ player purchases halt,
      (Action.run (Operation.acquire player purchases).perform reached).1 = .error halt →
        ∀ character item,
          (Action.run (Operation.acquire player purchases).perform
              reached).2.store.records.purchaseCount character item =
            reached.store.records.purchaseCount character item := by
  intro events reached
  refine ⟨fun player item => ⟨_, by rw [Operation.run_memory]; rfl, ?_⟩,
    fun player purchases recorded => recorded_of_mem_serve,
    fun player purchases => acquire_of_room machine calls player purchases (hnone player.character),
    fun player first second h => acquire_perm h player reached,
    fun others character h => purchaseCount_serve_perm h,
    fun player purchases halt h character item => ?_⟩
  · rw [show reached.plain.store = (machine.serve calls).2.store.records from rfl, counted_serve,
      hnone, UInt64.toNat_zero, Nat.zero_add]
  · rw [Operation.store_of_error h]

theorem purchases_serve_padded :
    let machine := Sample.machine Sample.records
    let calls : List Call := [
      .ask (.acquire Sample.player [⟨5, 2⟩, ⟨0, 9⟩, ⟨5, 3⟩]),
      .ask (.playBox Sample.player 1 0),
      .ask (.acquire Sample.player [⟨5, 1⟩])]
    let reached := (machine.serve calls).2
    (∀ character item, machine.store.records.purchaseCount character item = 0) ∧
      (∃ count, (Action.run (Operation.purchaseCount Sample.player 5).perform reached).1 =
        .ok count ∧ count.toNat = 6) ∧
      ∃ count, (Action.run (Operation.purchaseCount Sample.player 0).perform reached).1 =
        .ok count ∧ count.toNat = 0 := by
  intro machine calls reached
  have hnone (character : CharacterId) (item : ShopItemId) :
      machine.store.records.purchaseCount character item = 0 := rfl
  have hevents : (machine.serve calls).1.flatMap (Event.purchased Sample.player.character) =
      [⟨5, 2⟩, ⟨0, 9⟩, ⟨5, 3⟩, ⟨5, 1⟩] := by decide +kernel
  obtain ⟨hsum, -⟩ := purchases_serve machine hnone calls
  have hfive := hsum Sample.player 5
  have hpadding := hsum Sample.player 0
  rw [hevents] at hfive hpadding
  exact ⟨hnone, hfive, hpadding⟩

end Machine

end PrizeDraw
