import Mathlib.Algebra.Order.BigOperators.Group.Finset
import Mathlib.Algebra.Order.Ring.Int
import PrizeDraw.Proofs.Keys
import PrizeDraw.Proofs.Overflow

namespace PrizeDraw

namespace Exchange

structure Ends (records : Records) (player : Player) (rejected : Prop) (points : Int)
    (outcome : Except Halt Int64) (after : Records) : Prop where
  rejected_iff : (∃ reason, outcome = .error (.refused (.invalidExchange reason))) ↔ rejected
  booked : ∀ sum, outcome = .ok sum → ∃ value,
    records.balance player .frontierPoints = .ok value ∧ sum.toInt = value.toInt + points ∧
      after.balance player .frontierPoints = .ok sum
  accepted : ¬rejected → .balances ∉ records.failing →
    ∀ value, records.balance player .frontierPoints = .ok value →
      ¬Amount.OutOfRange (value.toInt + points) → ∃ sum, outcome = .ok sum

variable {records : Records} {player : Player} {id : TradeId} {row : Trade} {rejected : Prop}
  {points : Int}

theorem Ends.of_rejected (h : rejected) (reason : ExchangeFault) (after : Records) :
    Ends records player rejected points (.error (.refused (.invalidExchange reason))) after where
  rejected_iff := iff_of_true ⟨reason, rfl⟩ h
  booked sum hsum := by cases hsum
  accepted hnot := absurd h hnot

theorem ends_adjustBalance (h : ¬rejected) {delta : Int64} (hdelta : delta.toInt = points) :
    Ends records player rejected points
      (Action.run (Store.perform (.adjustBalance player .frontierPoints delta)) records).1
      (Action.run (Store.perform (.adjustBalance player .frontierPoints delta)) records).2 := by
  have hcases := Records.adjusts_perform records player .frontierPoints delta
  cases hrun : Action.run (Store.perform (.adjustBalance player .frontierPoints delta)) records with
  | mk outcome after =>
  rw [hrun] at hcases
  cases hcases with
  | refused fault hrefused =>
      refine ⟨iff_of_false (by simp) h, by simp, fun _ hwrite value hvalue _ => ?_⟩
      rcases hrefused with hfailing | hnone
      · exact absurd hfailing hwrite
      · rw [Records.balance_ok_iff, hnone] at hvalue
        cases hvalue
  | overflow value hwrite hvalue hsum =>
      refine ⟨iff_of_false (by simp) h, by simp, fun _ _ same hsame hrange => ?_⟩
      rw [Records.balance_ok_iff, hvalue] at hsame
      obtain rfl := Option.some.inj hsame
      exact absurd (hdelta ▸ hsum) hrange
  | done value sum after hwrite hvalue hsum =>
      obtain ⟨-, hstored⟩ := Records.adjustBalance_ok hrun
      refine ⟨iff_of_false (by simp) h, ?_, fun _ _ _ _ _ => ⟨sum, rfl⟩⟩
      intro same hsame
      obtain rfl : sum = same := Except.ok.inj hsame
      exact ⟨value, Records.balance_ok_iff.2 hvalue, hdelta ▸ hsum,
        Records.balance_ok_iff.2 hstored⟩

theorem Ends.perform {operation : Operation Int64} {machine : Machine Memory}
    (h : Ends machine.store.records player rejected points
      (Action.run operation.body machine.plain).1
      (Action.run operation.body machine.plain).2.store) :
    Ends machine.store.records player rejected points (Action.run operation.perform machine).1
      (Action.run operation.perform machine).2.store.records := by
  rw [Operation.run_memory]
  cases hrun : Action.run operation.body machine.plain with
  | mk outcome worked =>
      rw [hrun] at h
      cases outcome with
      | ok sum => exact h
      | error halt => exact { h with booked := by simp }

theorem run_trade_of_found (hfound : records.trades.find? id = some row) :
    Action.run (Catalog.trade id) records = (.ok row, records) := by
  rw [Catalog.run_trade, hfound]
  rfl

theorem run_debit_frontierPoints {cost delta : Int64} (h : Amount.neg? cost = some delta) :
    Action.run (do
      let paid ← Ledger.debit player .frontierPoints cost
      return paid.newBalance) records =
      Action.run (Store.perform (.adjustBalance player .frontierPoints delta)) records := by
  have hdebit : Ledger.debit (σ := Records) player .frontierPoints cost =
      Ledger.debitBalance player .frontierPoints cost := pure_bind _ _
  rw [hdebit]
  simp only [Ledger.debitBalance, h, bind_assoc, pure_bind, bind_pure]

def lotsCost (row : Trade) (lots : UInt16) : Nat :=
  lots.toNat * row.quantity.toNat * row.fpoints.toNat

def unitsWorth (row : Trade) (units : UInt16) : Nat :=
  units.toNat / row.quantity.toNat * row.fpoints.toNat

theorem ends_buy (hfound : records.trades.find? id = some row) (lots : UInt16) :
    Ends records player (row.buyable = false ∨ Amount.highest < lotsCost row lots)
      (-lotsCost row lots) (Action.run (buy player id lots) records).1
      (Action.run (buy player id lots) records).2 := by
  unfold buy
  rw [Action.run_bind_of_ok (run_trade_of_found hfound)]
  by_cases hbuyable : row.buyable = true
  · rw [if_pos hbuyable]
    cases hcost : cost? row lots with
    | none =>
        have hout := Amount.ofInt?_eq_none_iff.1 hcost
        have hover : Amount.highest < lotsCost row lots := by
          unfold lotsCost
          unfold Amount.lowest at hout
          push_cast
          rcases hout with hlow | hhigh
          · have hnonneg := Int.natCast_nonneg (lotsCost row lots)
            unfold lotsCost at hnonneg
            push_cast at hnonneg
            omega
          · exact hhigh
        exact .of_rejected (.inr hover) _ _
    | some cost =>
        have hexact : cost.toInt = lotsCost row lots := by
          rw [Amount.ofInt?_eq_some_iff.1 hcost, lotsCost]
          push_cast
          rfl
        have hfits := Amount.toInt_le_highest cost
        cases hdelta : Amount.neg? cost with
        | none =>
            have hout := Amount.ofInt?_eq_none_iff.1 hdelta
            unfold Amount.lowest Amount.highest at hout
            unfold Amount.highest at hfits
            omega
        | some delta =>
            have hnegated : delta.toInt = -cost.toInt := Amount.ofInt?_eq_some_iff.1 hdelta
            dsimp only
            rw [run_debit_frontierPoints hdelta]
            refine ends_adjustBalance ?_ (by rw [hnegated, hexact])
            rintro (hnot | hover)
            · rw [hbuyable] at hnot
              cases hnot
            · omega
  · rw [if_neg hbuyable]
    exact .of_rejected (.inl (by simpa using hbuyable)) _ _

theorem ends_sell (hfound : records.trades.find? id = some row) (units : UInt16) :
    Ends records player (row.quantity = 0) (unitsWorth row units)
      (Action.run (sell player id units) records).1
      (Action.run (sell player id units) records).2 := by
  unfold sell
  rw [Action.run_bind_of_ok (run_trade_of_found hfound)]
  by_cases hquantity : row.quantity = 0
  · rw [if_pos hquantity]
    exact .of_rejected hquantity _ _
  · rw [if_neg hquantity]
    exact ends_adjustBalance hquantity (toInt_payout row units)

theorem unitsWorth_le (row : Trade) (units : UInt16) : unitsWorth row units ≤ Amount.highest := by
  rw [unitsWorth, ← toInt_payout]
  exact Amount.toInt_le_highest _

end Exchange

namespace Exchange

def lotSize (trades : Table TradeId Trade) (id : TradeId) : Nat :=
  (trades.find? id).elim 0 fun row => row.quantity.toNat

def lotPoints (trades : Table TradeId Trade) (id : TradeId) : Nat :=
  (trades.find? id).elim 0 fun row => row.fpoints.toNat

theorem lotPoints_of_not_mem {trades : Table TradeId Trade} {id : TradeId}
    (h : id ∉ trades.map Prod.fst) : lotPoints trades id = 0 := by
  rw [lotPoints, Table.find?_eq_none_of_not_mem h]
  rfl

end Exchange

namespace Operation

variable {α : Type}

def isTrade : Operation α → Bool
  | .buy _ _ _ | .sell _ _ _ => true
  | _ => false

def bought (trades : Table TradeId Trade) (account : AccountId) (id : TradeId) :
    Operation α → Nat
  | .buy player trade lots =>
      if player.account = account ∧ trade = id then lots.toNat * Exchange.lotSize trades id else 0
  | _ => 0

def sold (account : AccountId) (id : TradeId) : Operation α → Nat
  | .sell player trade units =>
      if player.account = account ∧ trade = id then units.toNat else 0
  | _ => 0

end Operation

namespace Event

def bought (trades : Table TradeId Trade) (account : AccountId) (id : TradeId) : Event → Nat
  | .answered operation (.ok _) => operation.bought trades account id
  | _ => 0

def sold (account : AccountId) (id : TradeId) : Event → Nat
  | .answered operation (.ok _) => operation.sold account id
  | _ => 0

def unitsBought (trades : Table TradeId Trade) (account : AccountId) (id : TradeId)
    (events : List Event) : Nat :=
  (events.map (bought trades account id)).sum

def unitsSold (account : AccountId) (id : TradeId) (events : List Event) : Nat :=
  (events.map (sold account id)).sum

variable {trades : Table TradeId Trade} {account : AccountId}

/-- Points for the units sold of a trade, unit by unit, less those for the units bought. -/
def margin (trades : Table TradeId Trade) (account : AccountId) (events : List Event)
    (id : TradeId) : Int :=
  Exchange.lotPoints trades id *
    ((unitsSold account id events : Int) - unitsBought trades account id events)

theorem margin_nil (id : TradeId) : margin trades account [] id = 0 := by
  simp [margin, unitsSold, unitsBought]

theorem margin_cons (event : Event) (rest : List Event) (id : TradeId) :
    margin trades account (event :: rest) id =
      margin trades account [event] id + margin trades account rest id := by
  unfold margin
  rw [← mul_add]
  simp only [unitsSold, unitsBought, List.map_cons, List.map_nil, List.sum_cons, List.sum_nil]
  congr 1
  omega

theorem margin_of_still {event : Event} {id : TradeId} (hsold : event.sold account id = 0)
    (hbought : event.bought trades account id = 0) : margin trades account [event] id = 0 := by
  simp [margin, unitsSold, unitsBought, hsold, hbought]

theorem margin_nonpos {events : List Event} {id : TradeId}
    (h : unitsSold account id events ≤ unitsBought trades account id events) :
    margin trades account events id ≤ 0 := by
  have hunits : (unitsSold account id events : Int) ≤ unitsBought trades account id events :=
    Int.ofNat_le.2 h
  exact mul_nonpos_of_nonneg_of_nonpos (Int.natCast_nonneg _) (by omega)

def margins (trades : Table TradeId Trade) (account : AccountId) (events : List Event) : Int :=
  ∑ id ∈ (trades.map Prod.fst).toFinset, margin trades account events id

theorem margins_cons (event : Event) (rest : List Event) :
    margins trades account (event :: rest) =
      margins trades account [event] + margins trades account rest := by
  unfold margins
  rw [← Finset.sum_add_distrib]
  exact Finset.sum_congr rfl fun id _ => margin_cons event rest id

theorem margins_of_single {event : Event} (id : TradeId)
    (h : ∀ other, other ≠ id →
      event.sold account other = 0 ∧ event.bought trades account other = 0) :
    margins trades account [event] = margin trades account [event] id := by
  apply Finset.sum_eq_single id
  · intro other _ hne
    exact margin_of_still (h other hne).1 (h other hne).2
  · intro hmissing
    rw [margin, Exchange.lotPoints_of_not_mem (by simpa using hmissing)]
    exact zero_mul _

end Event

namespace Machine

variable {player : Player} {trades : Table TradeId Trade}

def TradesAlone (player : Player) (machine : Machine Memory) : List Call → Prop
  | [] => True
  | .stock _ :: _ => False
  | .ask operation :: rest =>
      let (event, next) := machine.call (.ask operation)
      (operation.isTrade = true ∨
          Posting.total player .frontierPoints (machine.booked event) = 0) ∧
        TradesAlone player next rest

theorem trades_call {α : Type} (machine : Machine Memory) (operation : Operation α) :
    (machine.call (.ask operation)).2.store.records.trades = machine.store.records.trades :=
  (operation.frame_perform machine).trades

theorem on_frontierPoints (owner player : Player) (amount : Int) :
    ({ player := owner, balance := .frontierPoints, amount } : Posting).on player
        .frontierPoints = if owner.account = player.account then amount else 0 := by
  simp only [Posting.on, Posting.Concerns, Balance.scope, BalanceScope.owner, true_and,
    eq_comm]

theorem margins_of_still {event : Event}
    (h : ∀ id, event.sold player.account id = 0 ∧ event.bought trades player.account id = 0) :
    Event.margins trades player.account [event] = 0 :=
  Finset.sum_eq_zero fun id _ => Event.margin_of_still (h id).1 (h id).2

theorem total_trade_le (trades : Table TradeId Trade) (owner player : Player) (id : TradeId)
    (amount : Trade → Int) {event : Event}
    (hothers : ∀ other, other ≠ id ∨ owner.account ≠ player.account →
      event.sold player.account other = 0 ∧ event.bought trades player.account other = 0)
    (howner : ∀ row, trades.find? id = some row → owner.account = player.account →
      amount row ≤ row.fpoints.toNat *
        ((event.sold player.account id : Int) - event.bought trades player.account id)) :
    Posting.total player .frontierPoints ((trades.find? id).toList.map fun row =>
        { player := owner, balance := .frontierPoints, amount := amount row }) ≤
      Event.margins trades player.account [event] := by
  rw [Event.margins_of_single id fun other hne => hothers other (.inl hne)]
  cases hfound : trades.find? id with
  | none => simp [Event.margin, Exchange.lotPoints, hfound]
  | some row =>
      simp only [Option.toList_some, List.map_cons, List.map_nil, Posting.total_singleton,
        on_frontierPoints]
      by_cases hown : owner.account = player.account
      · have hamount := howner row hfound hown
        simpa [hown, Event.margin, Event.unitsSold, Event.unitsBought, Exchange.lotPoints, hfound]
          using hamount
      · obtain ⟨hsold, hbought⟩ := hothers id (.inr hown)
        rw [if_neg hown, Event.margin_of_still hsold hbought]

theorem not_own_trade {owner player : Player} {trade other : TradeId}
    (h : other ≠ trade ∨ owner.account ≠ player.account) :
    ¬(owner.account = player.account ∧ trade = other) := by
  rintro ⟨hown, hsame⟩
  rcases h with hne | hforeign
  · exact hne hsame.symm
  · exact hforeign hown

theorem total_buy_le (records : Records) (owner player : Player) (trade : TradeId)
    (lots : UInt16) (answer : Int64) :
    Posting.total player .frontierPoints ((Operation.buy owner trade lots).postings records) ≤
      Event.margins records.trades player.account
        [.answered (.buy owner trade lots) (.ok answer)] := by
  refine total_trade_le records.trades owner player trade _
    (fun other hother => ⟨rfl, if_neg (not_own_trade hother)⟩) ?_
  intro row hfound hown
  have hunits : Event.bought records.trades player.account trade
      (.answered (.buy owner trade lots) (.ok answer)) = lots.toNat * row.quantity.toNat := by
    simp [Event.bought, Operation.bought, Exchange.lotSize, hown, hfound]
  have hsold : Event.sold player.account trade
      (.answered (.buy owner trade lots) (.ok answer)) = 0 := rfl
  rw [hunits, hsold, Nat.cast_zero, zero_sub, mul_neg, mul_comm, Nat.cast_mul]

theorem total_sell_le (records : Records) (owner player : Player) (trade : TradeId)
    (units : UInt16) (answer : Int64) :
    Posting.total player .frontierPoints ((Operation.sell owner trade units).postings records) ≤
      Event.margins records.trades player.account
        [.answered (.sell owner trade units) (.ok answer)] := by
  refine total_trade_le records.trades owner player trade _
    (fun other hother => ⟨if_neg (not_own_trade hother), rfl⟩) ?_
  intro row hfound hown
  have hunits : Event.sold player.account trade
      (.answered (.sell owner trade units) (.ok answer)) = units.toNat := by
    simp [Event.sold, Operation.sold, hown]
  -- Whole lots hold no more units than were sold.
  have hlots : units.toNat / row.quantity.toNat * row.fpoints.toNat ≤
      row.fpoints.toNat * units.toNat := by
    rw [Nat.mul_comm]
    exact Nat.mul_le_mul_left _ (Nat.div_le_self _ _)
  have hbought : Event.bought records.trades player.account trade
      (.answered (.sell owner trade units) (.ok answer)) = 0 := rfl
  rw [hunits, hbought, Nat.cast_zero, sub_zero, ← Nat.cast_mul]
  exact Int.ofNat_le.2 hlots

theorem total_answered_le {α : Type} (records : Records) (operation : Operation α) (answer : α)
    (h : operation.isTrade = true ∨
      Posting.total player .frontierPoints (operation.postings records) = 0) :
    Posting.total player .frontierPoints (operation.postings records) ≤
      Event.margins records.trades player.account [.answered operation (.ok answer)] := by
  cases operation with
  | buy owner trade lots => exact total_buy_le records owner player trade lots answer
  | sell owner trade units => exact total_sell_le records owner player trade units answer
  | _ =>
      rw [h.resolve_left (by simp [Operation.isTrade])]
      exact (margins_of_still fun id => ⟨rfl, rfl⟩).ge

theorem total_call_le {α : Type} (machine : Machine Memory) (operation : Operation α)
    (h : operation.isTrade = true ∨ Posting.total player .frontierPoints
      (machine.booked (machine.call (.ask operation)).1) = 0) :
    Posting.total player .frontierPoints (machine.booked (machine.call (.ask operation)).1) ≤
      Event.margins machine.store.records.trades player.account
        [(machine.call (.ask operation)).1] := by
  simp only [Machine.call] at h ⊢
  cases hanswer : (Action.run operation.perform machine).1 with
  | error halt =>
      rw [booked_error, margins_of_still fun id => ⟨rfl, rfl⟩, Posting.total_nil]
  | ok answer =>
      rw [hanswer, booked_ok] at h
      exact total_answered_le machine.store.records operation answer h

theorem total_books_le {machine : Machine Memory} {calls : List Call}
    (htrades : machine.store.records.trades = trades) (h : machine.TradesAlone player calls) :
    Posting.total player .frontierPoints (machine.books calls) ≤
      Event.margins trades player.account (machine.serve calls).1 := by
  induction calls generalizing machine with
  | nil => exact (Finset.sum_eq_zero fun id _ => Event.margin_nil id).ge
  | cons call rest ih =>
      cases call with
      | stock catalog => exact h.elim
      | ask operation =>
          obtain ⟨hcall, hrest⟩ := h
          have hnow := machine.total_call_le operation hcall
          have hlater := ih ((machine.trades_call operation).trans htrades) hrest
          rw [htrades] at hnow
          rw [books, Posting.total_append, serve_cons, Event.margins_cons]
          exact Int.add_le_add hnow hlater

end Machine

namespace Sample

def trade : Trade where
  id := 1
  itemType := 7
  itemId := 500
  quantity := 5
  fpoints := 3
  buyable := true

def market : Records := records.addCatalog { trades := [trade] }

end Sample

namespace Machine

theorem trading_makes_no_profit (machine : Machine Memory) (player : Player) :
    (∀ calls : List Call, machine.TradesAlone player calls →
      (∀ id, Event.unitsSold player.account id (machine.serve calls).1 ≤
        Event.unitsBought machine.store.records.trades player.account id
          (machine.serve calls).1) →
      ∀ value, machine.store.records.balance player .frontierPoints = .ok value →
        ∃ now, (machine.serve calls).2.store.records.balance player .frontierPoints = .ok now ∧
          now.toInt ≤ value.toInt) ∧
    ∀ id row, machine.store.records.trades.find? id = some row →
      (∀ lots, Exchange.Ends machine.store.records player
        (row.buyable = false ∨ Amount.highest < Exchange.lotsCost row lots)
        (-Exchange.lotsCost row lots)
        (Action.run (Operation.buy player id lots).perform machine).1
        (Action.run (Operation.buy player id lots).perform machine).2.store.records) ∧
      (∀ units, Exchange.unitsWorth row units ≤ Amount.highest ∧
        Exchange.Ends machine.store.records player (row.quantity = 0)
          (Exchange.unitsWorth row units)
          (Action.run (Operation.sell player id units).perform machine).1
          (Action.run (Operation.sell player id units).perform machine).2.store.records) := by
  refine ⟨fun calls halone hunits value hvalue => ?_, fun id row hfound => ⟨fun lots => ?_,
    fun units => ⟨Exchange.unitsWorth_le row units, ?_⟩⟩⟩
  · have hamount := Records.balance_ok_iff.1 hvalue
    obtain ⟨now, hnow, hmoved⟩ := (machine.booked_serve calls).amount?_of_some hamount
    have hbooked := total_books_le rfl halone
    have hmargins : Event.margins machine.store.records.trades player.account
        (machine.serve calls).1 ≤ 0 :=
      Finset.sum_nonpos fun id _ => Event.margin_nonpos (hunits id)
    exact ⟨now, Records.balance_ok_iff.2 hnow, by omega⟩
  · exact Exchange.Ends.perform (Exchange.ends_buy hfound lots)
  · exact Exchange.Ends.perform (Exchange.ends_sell hfound units)

theorem trading_makes_no_profit_market :
    let player := Sample.player
    let machine := Sample.machine Sample.market
    let calls : List Call :=
      [.ask (.buy player 1 2), .ask (.sell player 1 7), .ask (.sell player 1 3)]
    (machine.TradesAlone player calls ∧
      (∀ id, Event.unitsSold player.account id (machine.serve calls).1 ≤
        Event.unitsBought machine.store.records.trades player.account id
          (machine.serve calls).1)) ∧
      (∃ now, (machine.serve calls).2.store.records.balance player .frontierPoints = .ok now ∧
        now.toInt ≤ 0) ∧
      Exchange.Ends machine.store.records player
        (Sample.trade.buyable = false ∨ Amount.highest < Exchange.lotsCost Sample.trade 2)
        (-Exchange.lotsCost Sample.trade 2)
        (Action.run (Operation.buy player 1 2).perform machine).1
        (Action.run (Operation.buy player 1 2).perform machine).2.store.records := by
  intro player machine calls
  have halone : machine.TradesAlone player calls := ⟨.inl rfl, .inl rfl, .inl rfl, trivial⟩
  have hserved : (machine.serve calls).1 =
      [.answered (.buy player 1 2) (.ok (-30)), .answered (.sell player 1 7) (.ok (-27)),
        .answered (.sell player 1 3) (.ok (-27))] := rfl
  have hunits : ∀ id, Event.unitsSold player.account id (machine.serve calls).1 ≤
      Event.unitsBought machine.store.records.trades player.account id
        (machine.serve calls).1 := by
    intro id
    rw [hserved]
    by_cases hid : (1 : TradeId) = id
    · subst hid
      decide
    · simp [Event.unitsSold, Event.sold, Operation.sold, hid]
  obtain ⟨hprofit, hexact⟩ := trading_makes_no_profit machine player
  exact ⟨⟨halone, hunits⟩, hprofit calls halone hunits 0 rfl, (hexact 1 Sample.trade rfl).1 2⟩

end Machine

end PrizeDraw
