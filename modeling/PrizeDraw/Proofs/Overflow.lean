import PrizeDraw.Proofs.Books
import PrizeDraw.Proofs.Calm

namespace PrizeDraw

namespace Amount

def OutOfRange (n : Int) : Prop := n < lowest ∨ highest < n

end Amount

namespace Records

/-- Postings, made one after the other on top of those already made, take a balance out of its
range. -/
def Strains (records : Records) (made : List Posting) : List Posting → Prop
  | [] => False
  | posting :: rest =>
      ∃ value, records.amount? posting.player posting.balance = some value ∧
        (Amount.OutOfRange (value.toInt +
            Posting.total posting.player posting.balance made + posting.amount) ∨
          records.Strains (made ++ [posting]) rest)

theorem Booked.strains_iff {before after : Records} {made : List Posting}
    (h : Booked before made after) (more rest : List Posting) :
    before.Strains (made ++ more) rest ↔ after.Strains more rest := by
  induction rest generalizing more with
  | nil => exact Iff.rfl
  | cons posting rest ih =>
      have hrest := ih (more ++ [posting])
      rw [← List.append_assoc] at hrest
      simp only [Strains, hrest]
      constructor
      · rintro ⟨value, hvalue, hsum⟩
        obtain ⟨now, hnow, hmoved⟩ := h.amount?_of_some hvalue
        refine ⟨now, hnow, ?_⟩
        rwa [hmoved, Int.add_assoc value.toInt, ← Posting.total_append]
      · rintro ⟨now, hnow, hsum⟩
        cases hvalue : before.amount? posting.player posting.balance with
        | none =>
            rw [h.amount?_of_none hvalue] at hnow
            cases hnow
        | some value =>
            obtain ⟨same, hsame, hmoved⟩ := h.amount?_of_some hvalue
            obtain rfl := Option.some.inj (hsame.symm.trans hnow)
            refine ⟨value, rfl, ?_⟩
            rwa [hmoved, Int.add_assoc value.toInt, ← Posting.total_append] at hsum

variable {β : Type} {records : Records} {player : Player} {balance : Balance}

theorem checkWrite_of_mem {table : WriteTable} (h : table ∈ records.failing) :
    records.checkWrite table = .error (.injected table.name) := by
  simp [checkWrite, h]

theorem checkWrite_of_not_mem {table : WriteTable} (h : table ∉ records.failing) :
    records.checkWrite table = .ok () := by
  simp [checkWrite, h]

theorem exists_setBalance (h : records.amount? player balance ≠ none) (value : Int64) :
    ∃ changed, records.setBalance player balance value = .ok changed := by
  unfold amount? at h
  unfold setBalance
  cases hscope : balance.scope with
  | account =>
      rw [hscope] at h
      cases hpurse : records.accounts.find? player.account with
      | none => simp [hpurse] at h
      | some purse => exact ⟨_, by simp [account, hpurse]; rfl⟩
  | character =>
      rw [hscope] at h
      cases hrow : records.characters.find? player.character with
      | none => simp [ownPurse?, hrow] at h
      | some row => exact ⟨_, by simp [character, hrow]; rfl⟩

inductive Adjusts (records : Records) (player : Player) (balance : Balance) (delta : Int64) :
    Except Halt Int64 × Records → Prop where
  | refused (fault : StoreFault)
      (h : .balances ∈ records.failing ∨ records.amount? player balance = none) :
      Adjusts records player balance delta (.error (.refused (.store fault)), records)
  | overflow (value : Int64) (hwrite : .balances ∉ records.failing)
      (hvalue : records.amount? player balance = some value)
      (hsum : Amount.OutOfRange (value.toInt + delta.toInt)) :
      Adjusts records player balance delta (.error .overflow, records)
  | done (value sum : Int64) (after : Records) (hwrite : .balances ∉ records.failing)
      (hvalue : records.amount? player balance = some value)
      (hsum : sum.toInt = value.toInt + delta.toInt) :
      Adjusts records player balance delta (.ok sum, after)

theorem adjusts_perform (records : Records) (player : Player) (balance : Balance)
    (delta : Int64) :
    Adjusts records player balance delta
      (Action.run (Store.perform (.adjustBalance player balance delta)) records) := by
  rw [run_perform]
  simp only [step]
  rw [balance_eq]
  by_cases hwrite : .balances ∈ records.failing
  · rw [checkWrite_of_mem hwrite]
    exact .refused _ (.inl hwrite)
  rw [checkWrite_of_not_mem hwrite]
  cases hvalue : records.amount? player balance with
  | none => exact .refused _ (.inr hvalue)
  | some value =>
      dsimp only
      cases hadd : Amount.add? value delta with
      | none => exact .overflow value hwrite hvalue (Amount.ofInt?_eq_none_iff.1 hadd)
      | some sum =>
          have hknown : records.amount? player balance ≠ none := by simp [hvalue]
          obtain ⟨changed, hset⟩ := exists_setBalance hknown sum
          dsimp only
          rw [hset]
          exact .done value sum changed hwrite hvalue (Amount.ofInt?_eq_some_iff.1 hadd)

theorem failing_of_adjustBalance {delta : Int64} {outcome : Except Halt Int64} {after : Records}
    (h : Action.run (Store.perform (.adjustBalance player balance delta)) records =
      (outcome, after)) : after.failing = records.failing := by
  have hallowed : ({ player, tables := [.balances] } : Reach).AllowsCommand
      (.adjustBalance player balance delta) := ⟨List.mem_cons_self, rfl⟩
  have hframe := (edit_perform hallowed records).frame
  rw [h] at hframe
  exact hframe.failing

def Overdraws (records : Records) (postings : List Posting) : Prop :=
  .balances ∉ records.failing ∧ records.Strains [] postings

theorem not_overdraws_nil : ¬records.Overdraws [] := fun h => h.2

theorem not_overdraws_zero : ¬records.Overdraws [{ player, balance, amount := 0 }] := by
  rintro ⟨-, value, -, hout | h⟩
  · have hlow := Amount.lowest_le_toInt value
    have hhigh := Amount.toInt_le_highest value
    simp only [Posting.total_nil, Amount.OutOfRange] at hout
    omega
  · exact h

theorem overflows_adjustBalance_bind_iff {delta : Int64} {f : Int64 → Action Records β}
    {rest : List Posting}
    (hf : ∀ sum after, Action.run (Store.perform (.adjustBalance player balance delta)) records =
      (.ok sum, after) → (Action.Overflows (f sum) after ↔ after.Overdraws rest)) :
    Action.Overflows (Store.perform (.adjustBalance player balance delta) >>= f) records ↔
      records.Overdraws ({ player, balance, amount := delta.toInt } :: rest) := by
  have hcases := adjusts_perform records player balance delta
  cases hrun : Action.run (Store.perform (.adjustBalance player balance delta)) records with
  | mk outcome after =>
  rw [hrun] at hcases
  have hnow : Posting.total player balance [] = 0 := Posting.total_nil
  cases hcases with
  | refused fault hrefused =>
      refine iff_of_false (Action.not_overflows_bind_of_refused hrun) ?_
      rintro ⟨hwrite, value, hvalue, -⟩
      obtain hwrite' | hnone := hrefused
      · exact hwrite hwrite'
      · rw [hnone] at hvalue
        cases hvalue
  | overflow value hwrite hvalue hsum =>
      refine iff_of_true (Action.overflows_bind_of_overflow hrun) ⟨hwrite, value, hvalue, .inl ?_⟩
      rw [hnow, Int.add_zero]
      exact hsum
  | done value sum after hwrite hvalue hsum =>
      obtain ⟨hbooked, -⟩ := adjustBalance_ok hrun
      have hrebased := hbooked.strains_iff [] rest
      rw [Action.overflows_bind_of_ok hrun, hf sum after hrun, Overdraws, Overdraws,
        failing_of_adjustBalance hrun, ← hrebased]
      refine and_congr_right fun _ => ⟨fun h => ⟨value, hvalue, .inr h⟩, ?_⟩
      rintro ⟨same, hsame, hout | h⟩
      · obtain rfl := Option.some.inj (hsame.symm.trans hvalue)
        rw [hnow, Int.add_zero, ← hsum] at hout
        have hlow := Amount.lowest_le_toInt sum
        have hhigh := Amount.toInt_le_highest sum
        unfold Amount.OutOfRange at hout
        omega
      · exact h

theorem overflows_adjustBalance_iff {delta : Int64} :
    Action.Overflows (Store.perform (.adjustBalance player balance delta)) records ↔
      records.Overdraws [{ player, balance, amount := delta.toInt }] := by
  rw [← bind_pure (Store.perform (.adjustBalance player balance delta))]
  exact overflows_adjustBalance_bind_iff fun sum after _ =>
    iff_of_false (Action.calm_pure sum after) not_overdraws_nil

end Records

namespace Ledger

variable {β : Type} {records : Records} {player : Player} {rest : List Posting}

theorem overflows_debitBalance_bind_iff {balance : Balance} {amount : Int64}
    (hamount : 0 ≤ amount.toInt) {f : Debit → Action Records β}
    (hf : ∀ debit after, Action.run (debitBalance player balance amount) records =
      (.ok debit, after) → (Action.Overflows (f debit) after ↔ after.Overdraws rest)) :
    Action.Overflows (debitBalance player balance amount >>= f) records ↔
      records.Overdraws ({ player, balance, amount := -amount.toInt } :: rest) := by
  unfold debitBalance at hf ⊢
  cases hdelta : Amount.neg? amount with
  | none =>
      have hout := Amount.ofInt?_eq_none_iff.1 hdelta
      have hhigh := Amount.toInt_le_highest amount
      unfold Amount.lowest Amount.highest at hout
      unfold Amount.highest at hhigh
      omega
  | some delta =>
      rw [hdelta] at hf
      have hnegated : delta.toInt = -amount.toInt := Amount.ofInt?_eq_some_iff.1 hdelta
      rw [← hnegated]
      dsimp only
      rw [bind_assoc]
      refine Records.overflows_adjustBalance_bind_iff fun sum after hadd => ?_
      rw [pure_bind]
      exact hf _ after (Action.run_bind_of_ok hadd)

theorem run_payer (records : Records) (player : Player) (currency : Currency) (amount : Int64) :
    Action.run (payer player currency amount) records =
      (Action.looked (.store (.unknownOwner BalanceScope.account.table player.account))
        (records.payer? player currency amount.toInt), records) := by
  unfold payer Records.payer?
  cases currency.debitRule with
  | direct balance => rfl
  | coins =>
      dsimp only
      rw [Action.run_bind, Records.run_perform]
      simp only [Records.step, Records.balance_eq]
      cases records.amount? player .gachaTrial with
      | none => rfl
      | some trial =>
          simp only [Records.step.read, Action.run_pure, Int64.le_iff_toInt_le, Option.map_some,
            Action.looked]

theorem not_overdraws_of_payer?_eq_none {currency : Currency} {amount : Int}
    (h : records.payer? player currency amount = none)
    (hrest : ∀ posting ∈ rest, posting.player = player ∧ posting.balance.scope = .account) :
    ¬records.Overdraws rest := by
  have htrial : records.amount? player .gachaTrial = none := by
    unfold Records.payer? at h
    cases hrule : currency.debitRule with
    | direct balance => rw [hrule] at h; cases h
    | coins => rw [hrule] at h; exact Option.map_eq_none_iff.1 h
  have haccount : records.accounts.find? player.account = none := Option.map_eq_none_iff.1 htrial
  rintro ⟨-, hstrains⟩
  cases rest with
  | nil => exact hstrains
  | cons posting others =>
      obtain ⟨hplayer, hscope⟩ := hrest posting List.mem_cons_self
      obtain ⟨value, hvalue, -⟩ := hstrains
      rw [Records.amount?, hscope, hplayer, haccount] at hvalue
      cases hvalue

theorem overflows_debit_bind_iff {currency : Currency} {amount : Int64}
    (hamount : 0 ≤ amount.toInt) {f : Debit → Action Records β} (rest : List Posting)
    (hrest : ∀ posting ∈ rest, posting.player = player ∧ posting.balance.scope = .account)
    (hf : ∀ debit after, Action.run (Ledger.debit player currency amount) records =
      (.ok debit, after) → (Action.Overflows (f debit) after ↔ after.Overdraws rest)) :
    Action.Overflows (Ledger.debit player currency amount >>= f) records ↔
      records.Overdraws ((records.payer? player currency amount.toInt).toList.map (fun balance =>
        ({ player, balance, amount := -amount.toInt } : Posting)) ++ rest) := by
  have hpayer := run_payer records player currency amount
  unfold Ledger.debit at hf ⊢
  rw [bind_assoc]
  cases hbalance : records.payer? player currency amount.toInt with
  | none =>
      rw [hbalance] at hpayer
      exact iff_of_false (Action.not_overflows_bind_of_refused hpayer)
        (not_overdraws_of_payer?_eq_none hbalance hrest)
  | some balance =>
      rw [hbalance] at hpayer
      rw [Action.overflows_bind_of_ok hpayer]
      refine overflows_debitBalance_bind_iff hamount fun debit after hdebit => ?_
      exact hf debit after ((Action.run_bind_of_ok hpayer).trans hdebit)

theorem overflows_payEntryCost_bind_iff {cost : Entry} {f : Option Debit → Action Records β}
    (hrest : ∀ posting ∈ rest, posting.player = player ∧ posting.balance.scope = .account)
    (hf : ∀ debit after, Action.run (payEntryCost player cost) records = (.ok debit, after) →
      (Action.Overflows (f debit) after ↔ after.Overdraws rest)) :
    Action.Overflows (payEntryCost player cost >>= f) records ↔
      records.Overdraws (records.price player cost ++ rest) := by
  unfold payEntryCost at hf ⊢
  rw [Records.price, Records.payingBalance?_eq]
  cases hcurrency : Currency.ofItemType cost.itemType with
  | none =>
      rw [hcurrency] at hf
      exact hf none records rfl
  | some currency =>
      rw [hcurrency] at hf
      have hamount := toInt_price cost.itemNumber
      dsimp only
      rw [bind_assoc, Option.bind_some, ← hamount]
      refine overflows_debit_bind_iff (by rw [hamount]; exact Int.natCast_nonneg _) rest hrest ?_
      intro debit after hdebit
      rw [pure_bind]
      exact hf _ after (Action.run_bind_of_ok hdebit)

end Ledger

namespace Catalog

theorem run_gacha (records : Records) (id : GachaId) :
    Action.run (Catalog.gacha id) records =
      (Action.looked (.catalogMissing (.gacha id)) (records.gachas.find? id), records) := by
  unfold Catalog.gacha
  rw [Action.run_bind, Records.run_perform]
  simp only [Records.step]
  cases records.gachas.find? id <;> rfl

theorem run_costEntry (records : Records) (id : GachaId) (entryType : UInt8) :
    Action.run (costEntry id entryType) records =
      (Action.looked (.catalogMissing (.costEntry id entryType))
        (records.costRow? id entryType), records) := by
  unfold costEntry Records.costRow?
  rw [Action.run_bind, Records.run_perform]
  simp only [Records.step]
  cases (records.entriesOf id).find? fun entry => entry.entryType == entryType <;> rfl

theorem run_trade (records : Records) (id : TradeId) :
    Action.run (Catalog.trade id) records =
      (Action.looked (.catalogMissing (.trade id)) (records.trades.find? id), records) := by
  unfold Catalog.trade
  rw [Action.run_bind, Records.run_perform]
  simp only [Records.step]
  cases records.trades.find? id <;> rfl

end Catalog

namespace Play

variable {β : Type} {records : Records} {player : Player} {gacha : GachaId} {selector : UInt8}

theorem overflows_charge_bind_iff (rest : Entry → List Posting)
    {f : Entry × Option Debit → Action Records β}
    (hrest : ∀ cost, ∀ posting ∈ rest cost,
      posting.player = player ∧ posting.balance.scope = .account)
    (hf : ∀ cost debit after, Action.run (charge player gacha selector) records =
      (.ok (cost, debit), after) →
      (Action.Overflows (f (cost, debit)) after ↔ after.Overdraws (rest cost))) :
    Action.Overflows (charge player gacha selector >>= f) records ↔
      (records.gachas.find? gacha).isSome ∧
        records.Overdraws ((records.costRow? gacha selector).toList.flatMap fun cost =>
          records.price player cost ++ rest cost) := by
  unfold charge at hf ⊢
  simp only [bind_assoc, pure_bind]
  rw [Action.overflows_lookup_bind_iff (Catalog.run_gacha records gacha)]
  cases hgacha : records.gachas.find? gacha with
  | none => simp
  | some row =>
      have hrow := Catalog.run_gacha records gacha
      rw [hgacha] at hrow
      rw [Action.overflows_lookup_bind_iff (Catalog.run_costEntry records gacha selector)]
      cases hcost : records.costRow? gacha selector with
      | none => simp [Records.not_overdraws_nil]
      | some cost =>
          have hpriced := Catalog.run_costEntry records gacha selector
          rw [hcost] at hpriced
          have hpaid : Action.Overflows (Ledger.payEntryCost player cost >>= fun debit =>
              f (cost, debit)) records ↔
                records.Overdraws (records.price player cost ++ rest cost) := by
            refine Ledger.overflows_payEntryCost_bind_iff (hrest cost) fun debit after hpay => ?_
            refine hf cost debit after ?_
            rw [Action.run_bind_of_ok hrow, Action.run_bind_of_ok hpriced,
              Action.run_bind_of_ok hpay]
            rfl
          simpa using hpaid

theorem run_lock (records : Records) (player : Player) (gacha : GachaId) :
    Action.run (lock player gacha) records = (.ok (), records) := rfl

theorem overflows_charge_bind_iff_of_calm {f : Entry × Option Debit → Action Records β}
    (hf : ∀ charged, Action.Calm (f charged)) :
    Action.Overflows (charge player gacha selector >>= f) records ↔
      (records.gachas.find? gacha).isSome ∧
        records.Overdraws ((records.costRow? gacha selector).toList.flatMap
          (records.price player)) := by
  rw [overflows_charge_bind_iff (fun _ => []) (by simp)]
  · simp only [List.append_nil]
  · exact fun cost debit after _ => iff_of_false (hf _ after) Records.not_overdraws_nil

theorem overflows_openNormal_iff :
    Action.Overflows (openNormal player gacha selector) records ↔
      (records.gachas.find? gacha).isSome ∧
        records.Overdraws ((records.costRow? gacha selector).toList.flatMap
          (records.price player)) := by
  unfold openNormal
  rw [Action.overflows_bind_of_ok (run_lock records player gacha)]
  exact overflows_charge_bind_iff_of_calm fun _ =>
    Action.calm_bind (Store.Calm.perform _ trivial) fun _ => Action.calm_pure _

theorem overflows_openBox_iff :
    Action.Overflows (openBox player gacha selector) records ↔
      (records.gachas.find? gacha).isSome ∧
        records.Overdraws ((records.costRow? gacha selector).toList.flatMap
          (records.price player)) := by
  unfold openBox
  rw [Action.overflows_bind_of_ok (run_lock records player gacha)]
  exact overflows_charge_bind_iff_of_calm fun _ =>
    Action.calm_bind (Store.Calm.perform _ trivial) fun _ =>
      Action.calm_bind (Store.Calm.perform _ trivial) fun _ => Action.calm_pure _

theorem overflows_openStepup_iff :
    Action.Overflows (openStepup player gacha selector) records ↔
      (records.gachas.find? gacha).isSome ∧
        records.Overdraws ((records.costRow? gacha selector).toList.flatMap fun cost =>
          records.price player cost ++
            [{ player, balance := .frontierPoints, amount := cost.frontierPoints.toInt }]) := by
  unfold openStepup
  rw [Action.overflows_bind_of_ok (run_lock records player gacha)]
  refine overflows_charge_bind_iff _ (by simp [Balance.scope]) fun cost debit after hcharge => ?_
  have hcalm : Action.Calm (do
      let nextStep ← Steps.advance gacha player.character selector
      let pool ← Store.perform (σ := Records) (.randomPool gacha)
      return (cost, nextStep, pool)) :=
    Action.calm_bind (Steps.calm_advance _ _ _) fun _ =>
      Action.calm_bind (Store.Calm.perform _ trivial) fun _ => Action.calm_pure _
  dsimp only
  by_cases hbonus : cost.frontierPoints = 0
  · rw [if_neg (not_not.2 hbonus), hbonus]
    exact iff_of_false (hcalm after) Records.not_overdraws_zero
  · rw [if_pos hbonus]
    exact Records.overflows_adjustBalance_bind_iff fun sum credited _ =>
      iff_of_false (hcalm credited) Records.not_overdraws_nil

end Play

namespace Purchase

def total (item : ShopItemId) (purchases : List Purchase) : Nat :=
  ((purchases.filter fun purchase => purchase.item == item).map fun purchase =>
    purchase.count.toNat).sum

theorem total_cons_self (purchase : Purchase) (rest : List Purchase) :
    total purchase.item (purchase :: rest) = purchase.count.toNat + total purchase.item rest := by
  simp [total]

theorem total_cons_of_ne {item : ShopItemId} {purchase : Purchase} (h : item ≠ purchase.item)
    (rest : List Purchase) : total item (purchase :: rest) = total item rest := by
  have hother : (purchase.item == item) = false := by simpa using h.symm
  simp [total, hother]

end Purchase

namespace Exchange

variable {records : Records} {player : Player} {id : TradeId}

theorem overflows_buy_iff {lots : UInt16} :
    Action.Overflows (buy player id lots) records ↔
      ∃ trade, records.trades.find? id = some trade ∧ trade.buyable = true ∧
        (lots.toNat * trade.quantity.toNat * trade.fpoints.toNat : Int) ≤ Amount.highest ∧
        records.Overdraws
          [{ player, balance := .frontierPoints,
             amount := -(lots.toNat * trade.quantity.toNat * trade.fpoints.toNat) }] := by
  unfold buy
  rw [Action.overflows_lookup_bind_iff (Catalog.run_trade records id)]
  refine exists_congr fun trade => and_congr_right fun _ => ?_
  have hnonneg : (0 : Int) ≤ lots.toNat * trade.quantity.toNat * trade.fpoints.toNat := by
    exact_mod_cast Nat.zero_le (lots.toNat * trade.quantity.toNat * trade.fpoints.toNat)
  by_cases hbuyable : trade.buyable = true
  · rw [if_pos hbuyable]
    cases hcost : cost? trade lots with
    | none =>
        have hout := Amount.ofInt?_eq_none_iff.1 hcost
        refine iff_of_false (Action.calm_refuse _ records) ?_
        rintro ⟨-, hfits, -⟩
        unfold Amount.lowest at hout
        omega
    | some cost =>
        have hamount : cost.toInt = lots.toNat * trade.quantity.toNat * trade.fpoints.toNat :=
          Amount.ofInt?_eq_some_iff.1 hcost
        have hfits : (lots.toNat * trade.quantity.toNat * trade.fpoints.toNat : Int) ≤
            Amount.highest := hamount ▸ Amount.toInt_le_highest cost
        rw [← hamount] at hnonneg
        simp only [hbuyable, hfits, true_and]
        rw [← hamount]
        refine Ledger.overflows_debit_bind_iff hnonneg [] (by simp) ?_
        exact fun debit after _ =>
          iff_of_false (Action.calm_pure _ after) Records.not_overdraws_nil
  · rw [if_neg hbuyable]
    exact iff_of_false (Action.calm_refuse _ records) fun h => hbuyable h.1

theorem overflows_sell_iff {units : UInt16} :
    Action.Overflows (sell player id units) records ↔
      ∃ trade, records.trades.find? id = some trade ∧ trade.quantity ≠ 0 ∧
        records.Overdraws
          [{ player, balance := .frontierPoints,
             amount := (units.toNat / trade.quantity.toNat * trade.fpoints.toNat : Nat) }] := by
  unfold sell
  rw [Action.overflows_lookup_bind_iff (Catalog.run_trade records id)]
  refine exists_congr fun trade => and_congr_right fun _ => ?_
  by_cases hquantity : trade.quantity = 0
  · rw [if_pos hquantity]
    exact iff_of_false (Action.calm_refuse _ records) fun h => h.1 hquantity
  · rw [if_neg hquantity, ← toInt_payout]
    simp only [ne_eq, hquantity, not_false_eq_true, true_and]
    exact Records.overflows_adjustBalance_iff

inductive Counts (records : Records) (character : CharacterId) (item : ShopItemId)
    (count : UInt32) : Except Halt Unit × Records → Prop where
  | refused (fault : Fault) (h : .shopPurchases ∈ records.failing) :
      Counts records character item count (.error (.refused fault), records)
  | overflow (hwrite : .shopPurchases ∉ records.failing)
      (hsum : UInt64.size ≤ (records.purchaseCount character item).toNat + count.toNat) :
      Counts records character item count (.error .overflow, records)
  | done (after : Records) (hwrite : .shopPurchases ∉ records.failing)
      (hfailing : after.failing = records.failing)
      (hsum : (after.purchaseCount character item).toNat =
        (records.purchaseCount character item).toNat + count.toNat)
      (hothers : ∀ other, other ≠ item →
        after.purchaseCount character other = records.purchaseCount character other) :
      Counts records character item count (.ok (), after)

theorem counts_addPurchase (records : Records) (character : CharacterId) (item : ShopItemId)
    (count : UInt32) :
    Counts records character item count
      (Action.run (Store.perform (.addPurchase character item count)) records) := by
  rw [Records.run_perform]
  simp only [Records.step]
  by_cases hwrite : .shopPurchases ∈ records.failing
  · rw [Records.checkWrite_of_mem hwrite]
    exact .refused _ hwrite
  rw [Records.checkWrite_of_not_mem hwrite]
  by_cases hfits : (records.purchaseCount character item).toNat + count.toNat < UInt64.size
  · dsimp only
    rw [if_pos hfits]
    refine .done _ hwrite rfl ?_ ?_
    · rw [Records.purchaseCount, Table.find?_insert_self, Option.getD_some]
      exact UInt64.toNat_ofNat_of_lt' hfits
    · intro other hother
      have hkey : ({ character, item := other } : PurchaseKey) ≠ { character, item } :=
        fun heq => hother (PurchaseKey.mk.inj heq).2
      rw [Records.purchaseCount, Table.find?_insert_of_ne hkey]
      rfl
  · dsimp only
    rw [if_neg hfits]
    exact .overflow hwrite (Nat.le_of_not_lt hfits)

theorem overflows_record_iff {character : CharacterId} {purchases : List Purchase} :
    Action.Overflows (record character purchases) records ↔
      .shopPurchases ∉ records.failing ∧ ∃ item, item ≠ 0 ∧
        UInt64.size ≤
          (records.purchaseCount character item).toNat + Purchase.total item purchases := by
  induction purchases generalizing records with
  | nil =>
      refine iff_of_false (Action.calm_pure 0 records) ?_
      rintro ⟨-, item, -, hsize⟩
      have hcount := (records.purchaseCount character item).toNat_lt
      simp only [Purchase.total, List.filter_nil, List.map_nil, List.sum_nil, UInt64.size] at hsize
      omega
  | cons purchase rest ih =>
      unfold record
      by_cases hpadding : purchase.item = 0
      · rw [if_pos hpadding, ih]
        refine and_congr_right fun _ => exists_congr fun item => and_congr_right fun hitem => ?_
        rw [Purchase.total_cons_of_ne (by rw [hpadding]; exact hitem)]
      rw [if_neg hpadding]
      have hcounts := counts_addPurchase records character purchase.item purchase.count
      cases hrun : Action.run
          (Store.perform (.addPurchase character purchase.item purchase.count)) records with
      | mk outcome after =>
      rw [hrun] at hcounts
      cases hcounts with
      | refused fault hfailing =>
          exact iff_of_false (Action.not_overflows_bind_of_refused hrun) fun h => h.1 hfailing
      | overflow hwrite hsum =>
          refine iff_of_true (Action.overflows_bind_of_overflow hrun)
            ⟨hwrite, purchase.item, hpadding, ?_⟩
          rw [Purchase.total_cons_self]
          omega
      | done after hwrite hfailing hsum hothers =>
          rw [Action.overflows_bind_of_ok hrun,
            Action.overflows_bind_iff_of_calm fun _ => Action.calm_pure _, ih, hfailing]
          refine and_congr_right fun _ => exists_congr fun item => and_congr_right fun hitem => ?_
          by_cases hsame : item = purchase.item
          · rw [hsame, Purchase.total_cons_self, hsum, Nat.add_assoc]
          · rw [Purchase.total_cons_of_ne hsame, hothers item hsame]

end Exchange

namespace Operation

variable {α : Type}

def Admitted (records : Records) : Operation α → Prop
  | .playNormal _ gacha _ | .playStepup _ gacha _ | .playBox _ gacha _ =>
      (records.gachas.find? gacha).isSome
  | .buy _ trade lots =>
      ∃ row, records.trades.find? trade = some row ∧ row.buyable = true ∧
        (lots.toNat * row.quantity.toNat * row.fpoints.toNat : Int) ≤ Amount.highest
  | .sell _ trade _ => ∃ row, records.trades.find? trade = some row ∧ row.quantity ≠ 0
  | _ => True

def Overflows (records : Records) : Operation α → Prop
  | .acquire player purchases =>
      .shopPurchases ∉ records.failing ∧ ∃ item, item ≠ 0 ∧
        UInt64.size ≤
          (records.purchaseCount player.character item).toNat + Purchase.total item purchases
  | operation => operation.Admitted records ∧ records.Overdraws (operation.postings records)

theorem not_overflows_of_postings_nil {operation : Operation α} {records : Records}
    (h : operation.postings records = []) :
    ¬(operation.Admitted records ∧ records.Overdraws (operation.postings records)) := by
  rintro ⟨-, hdraws⟩
  rw [h] at hdraws
  exact Records.not_overdraws_nil hdraws

theorem overflows_usePoints_iff {player : Player} {trial premium : UInt32}
    {machine : Machine Records} :
    Action.Overflows (usePoints player trial premium).body machine ↔
      machine.store.Overdraws
        [{ player, balance := .gachaTrial, amount := -trial.toNat },
          { player, balance := .gachaPremium, amount := -premium.toNat }] := by
  have htrial := Ledger.toInt_coins trial
  have hpremium := Ledger.toInt_coins premium
  have hbody : (usePoints player trial premium).body = Machine.onStore (do
      let _ ← Ledger.debitBalance player .gachaTrial (Int64.ofNat trial.toNat)
      let _ ← Ledger.debitBalance player .gachaPremium (Int64.ofNat premium.toNat)
      Ledger.points (σ := Records) player) := by
    rw [Machine.onStore_bind]
    simp only [Machine.onStore_bind]
    rfl
  rw [hbody, Machine.overflows_onStore_iff, ← htrial, ← hpremium]
  refine Ledger.overflows_debitBalance_bind_iff (by rw [htrial]; exact Int.natCast_nonneg _) ?_
  intro first paid _
  refine Ledger.overflows_debitBalance_bind_iff (by rw [hpremium]; exact Int.natCast_nonneg _) ?_
  intro second paidBoth _
  exact iff_of_false (Ledger.calm_points player paidBoth) Records.not_overdraws_nil

theorem overflows_body_iff (operation : Operation α) (machine : Machine Records) :
    Action.Overflows operation.body machine ↔ operation.Overflows machine.store := by
  cases operation with
  | playNormal player gacha selector =>
      refine (Machine.overflows_onStore_bind_iff fun opened => ?_).trans
        Play.overflows_openNormal_iff
      exact Action.calm_bind (Machine.calm_drawWeighted _ _) fun _ =>
        Machine.calm_onStore (Play.calm_closeNormal _ _ _)
  | playStepup player gacha step =>
      refine (Machine.overflows_onStore_bind_iff fun opened => ?_).trans
        Play.overflows_openStepup_iff
      exact Action.calm_bind (Machine.calm_drawWeighted _ _) fun _ =>
        Machine.calm_onStore (Play.calm_closeStepup _ _ _ _ _)
  | playBox player gacha selector =>
      refine (Machine.overflows_onStore_bind_iff fun opened => ?_).trans
        Play.overflows_openBox_iff
      exact Action.calm_bind (Machine.calm_draw _) fun _ =>
        Machine.calm_onStore (Play.calm_closeBox _ _ _)
  | usePoints player trial premium =>
      exact overflows_usePoints_iff.trans (iff_of_eq (true_and _).symm)
  | buy player trade lots =>
      refine Machine.overflows_onStore_iff.trans (Exchange.overflows_buy_iff.trans ?_)
      constructor
      · rintro ⟨row, hfound, hbuyable, hfits, hdraws⟩
        refine ⟨⟨row, hfound, hbuyable, hfits⟩, ?_⟩
        simpa [postings, hfound] using hdraws
      · rintro ⟨⟨row, hfound, hbuyable, hfits⟩, hdraws⟩
        refine ⟨row, hfound, hbuyable, hfits, ?_⟩
        simpa [postings, hfound] using hdraws
  | sell player trade units =>
      refine Machine.overflows_onStore_iff.trans (Exchange.overflows_sell_iff.trans ?_)
      constructor
      · rintro ⟨row, hfound, hquantity, hdraws⟩
        refine ⟨⟨row, hfound, hquantity⟩, ?_⟩
        simpa [postings, hfound] using hdraws
      · rintro ⟨⟨row, hfound, hquantity⟩, hdraws⟩
        refine ⟨row, hfound, hquantity, ?_⟩
        simpa [postings, hfound] using hdraws
  | acquire player purchases => exact Exchange.overflows_record_iff
  | _ =>
      refine iff_of_false (calm_body ?_ machine) (not_overflows_of_postings_nil rfl)
      trivial

theorem overflow_iff (operation : Operation α) (machine : Machine Memory) :
    (Action.run operation.perform machine).1 = .error .overflow ↔
      operation.Overflows machine.store.records := by
  rw [run_memory]
  have hbody := operation.overflows_body_iff machine.plain
  unfold Action.Overflows at hbody
  rw [show machine.store.records = machine.plain.store from rfl, ← hbody]
  cases Action.run operation.body machine.plain with
  | mk outcome worked =>
      cases outcome with
      | ok answer => simp
      | error halt => simp

end Operation

end PrizeDraw
