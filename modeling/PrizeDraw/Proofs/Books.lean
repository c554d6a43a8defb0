import PrizeDraw.Proofs.Balances
import PrizeDraw.Proofs.History
import PrizeDraw.Proofs.Selectors

namespace PrizeDraw

namespace Records

def costRow? (records : Records) (gacha : GachaId) (selector : UInt8) : Option Entry :=
  (records.entriesOf gacha).find? fun entry => entry.entryType == selector

def payingBalance? (records : Records) (player : Player) (cost : Entry) : Option Balance :=
  if cost.itemType = 17 then some .netcafePoints
  else if cost.itemType = 18 then some .guildPoints
  else if cost.itemType = 21 then some .frontierPoints
  else if cost.itemType = 22 then some .bondPoints
  else if cost.itemType = 23 then some .imageChangePoints
  else if cost.itemType = 19 ∨ cost.itemType = 20 then
    (records.amount? player .gachaTrial).map fun trial =>
      if (cost.itemNumber.toNat : Int) ≤ trial.toInt then .gachaTrial else .gachaPremium
  else none

def price (records : Records) (player : Player) (cost : Entry) : List Posting :=
  (records.payingBalance? player cost).toList.map fun balance =>
    { player, balance, amount := -cost.itemNumber.toNat }

end Records

namespace Operation

variable {α : Type}

def postings (records : Records) : Operation α → List Posting
  | .playNormal player gacha selector | .playBox player gacha selector =>
      (records.costRow? gacha selector).toList.flatMap (records.price player)
  | .playStepup player gacha step =>
      (records.costRow? gacha step).toList.flatMap fun cost =>
        records.price player cost ++
          [{ player, balance := .frontierPoints, amount := cost.frontierPoints.toInt }]
  | .usePoints player trial premium =>
      [{ player, balance := .gachaTrial, amount := -trial.toNat },
        { player, balance := .gachaPremium, amount := -premium.toNat }]
  | .buy player trade lots =>
      (records.trades.find? trade).toList.map fun row =>
        { player, balance := .frontierPoints,
          amount := -(lots.toNat * row.quantity.toNat * row.fpoints.toNat) }
  | .sell player trade units =>
      (records.trades.find? trade).toList.map fun row =>
        { player, balance := .frontierPoints,
          amount := (units.toNat / row.quantity.toNat * row.fpoints.toNat : Nat) }
  | _ => []

end Operation

structure Report where
  player : Player
  balance : Balance
  value : Int64
  deriving DecidableEq, Repr

namespace Report

def ofPoints (player : Player) (points : Points) : List Report :=
  [{ player, balance := .frontierPoints, value := points.frontierPoints },
    { player, balance := .gachaPremium, value := points.premium },
    { player, balance := .gachaTrial, value := points.trial }]

end Report

namespace Operation

variable {α : Type}

def reports : Operation α → α → List Report
  | .playNormal player _ _, play =>
      play.debit.toList.map fun debit =>
        { player, balance := debit.balance, value := debit.newBalance }
  | .points player, found | .usePoints player _ _, found => Report.ofPoints player found
  | .buy player _ _, value | .sell player _ _, value =>
      [{ player, balance := .frontierPoints, value }]
  | _, _ => []

end Operation

namespace Records

theorem payingBalance?_eq (records : Records) (player : Player) (cost : Entry) :
    records.payingBalance? player cost =
      (Currency.ofItemType cost.itemType).bind fun currency =>
        records.payer? player currency cost.itemNumber.toNat := by
  unfold payingBalance? Currency.ofItemType
  generalize cost.itemType = code
  by_cases hnetcafe : code = 17
  · subst hnetcafe; rfl
  by_cases hguild : code = 18
  · subst hguild; rfl
  by_cases htrial : code = 19
  · subst htrial; rfl
  by_cases hpremium : code = 20
  · subst hpremium; rfl
  by_cases hfrontier : code = 21
  · subst hfrontier; rfl
  by_cases hbond : code = 22
  · subst hbond; rfl
  by_cases himage : code = 23
  · subst himage; rfl
  simp [hnetcafe, hguild, htrial, hpremium, hfrontier, hbond, himage]

end Records

namespace Ledger

variable {records after : Records} {player : Player}

theorem toInt_price (number : UInt16) :
    (Int64.ofNat number.toNat).toInt = (number.toNat : Int) :=
  Int64.toInt_ofNat_of_lt (Nat.lt_trans number.toNat_lt (by decide))

theorem toInt_coins (coins : UInt32) :
    (Int64.ofNat coins.toNat).toInt = (coins.toNat : Int) :=
  Int64.toInt_ofNat_of_lt (Nat.lt_trans coins.toNat_lt (by decide))

theorem payEntryCost_ok {cost : Entry} {debit : Option Debit}
    (h : Action.run (payEntryCost player cost) records = (.ok debit, after)) :
    Records.Booked records (records.price player cost) after ∧
      ∀ paid, debit = some paid → after.amount? player paid.balance = some paid.newBalance := by
  unfold payEntryCost at h
  rw [Records.price, Records.payingBalance?_eq]
  cases hcurrency : Currency.ofItemType cost.itemType with
  | none =>
      rw [hcurrency] at h
      obtain ⟨rfl, rfl⟩ := Action.of_pure_ok h
      exact ⟨Records.Booked.refl _, fun _ hnone => absurd hnone (by simp)⟩
  | some currency =>
      rw [hcurrency] at h
      obtain ⟨paid, charged, hdebit, hanswer⟩ := Action.exists_of_bind_ok h
      obtain ⟨rfl, rfl⟩ := Action.of_pure_ok hanswer
      obtain ⟨hrule, hbooked, hstored⟩ := debit_ok hdebit
      rw [toInt_price] at hbooked hrule
      rw [Option.bind_some, hrule]
      refine ⟨hbooked, ?_⟩
      rintro _ ⟨⟩
      exact hstored

end Ledger

namespace Play

variable {player : Player} {gacha : GachaId} {selector : UInt8} {records after : Records}

theorem charge_booked {cost : Entry} {debit : Option Debit}
    (h : Action.run (charge player gacha selector) records = (.ok (cost, debit), after)) :
    records.costRow? gacha selector = some cost ∧
      Records.Booked records (records.price player cost) after ∧
      ∀ paid, debit = some paid → after.amount? player paid.balance = some paid.newBalance := by
  obtain ⟨hcost, hpay⟩ := charge_ok h
  exact ⟨hcost, Ledger.payEntryCost_ok hpay⟩

theorem openNormal_booked {cost : Entry} {debit : Option Debit} {pool : List Entry}
    (h : Action.run (openNormal player gacha selector) records = (.ok (cost, debit, pool), after)) :
    records.costRow? gacha selector = some cost ∧
      Records.Booked records (records.price player cost) after ∧
      ∀ paid, debit = some paid → after.amount? player paid.balance = some paid.newBalance := by
  obtain ⟨_, locked, hlock, hcharged⟩ := Action.exists_of_bind_ok h
  cases hlock
  obtain ⟨⟨row, paid⟩, charged, hcharge, hpool⟩ := Action.exists_of_bind_ok hcharged
  cases hpool
  exact charge_booked hcharge

theorem openBox_booked {cost : Entry} {pool : List Entry}
    (h : Action.run (openBox player gacha selector) records = (.ok (cost, pool), after)) :
    records.costRow? gacha selector = some cost ∧
      Records.Booked records (records.price player cost) after := by
  obtain ⟨_, locked, hlock, hcharged⟩ := Action.exists_of_bind_ok h
  cases hlock
  obtain ⟨⟨row, paid⟩, charged, hcharge, hpool⟩ := Action.exists_of_bind_ok hcharged
  cases hpool
  obtain ⟨hcost, hbooked, -⟩ := charge_booked hcharge
  exact ⟨hcost, hbooked⟩

theorem frame_advance {outcome : Except Halt UInt8}
    (h : Action.run (Steps.advance gacha player.character selector) records = (outcome, after)) :
    Records.Frame { player, gacha, tables := [.stepup] } records after := by
  let reach : Reach := { player, gacha, tables := [.stepup] }
  have hspoken : Spoken reach.Allows fun σ _ =>
      Machine.onStore (Steps.advance (σ := σ) gacha player.character selector) :=
    Spoken.advance selector List.mem_cons_self
  exact hspoken.frame_of_run h

theorem openStepup_booked {cost : Entry} {nextStep : UInt8} {pool : List Entry}
    (h : Action.run (openStepup player gacha selector) records =
      (.ok (cost, nextStep, pool), after)) :
    records.costRow? gacha selector = some cost ∧
      Records.Booked records (records.price player cost ++
        [{ player, balance := .frontierPoints, amount := cost.frontierPoints.toInt }]) after := by
  obtain ⟨debit, charged, credited, hcharge, hbonus, hadvance, -⟩ := openStepup_ok h
  obtain ⟨hcost, hprice, -⟩ := charge_booked hcharge
  have hkept : Records.Booked credited [] after := (frame_advance hadvance).booked (by simp)
  refine ⟨hcost, hprice.trans ?_⟩
  obtain ⟨hzero, rfl⟩ | ⟨sum, hcredit⟩ := hbonus
  · rw [hzero]
    exact (Records.booked_zero _ player .frontierPoints).trans hkept
  · obtain ⟨hcredited, -⟩ := Ledger.credit_ok hcredit
    exact hcredited.trans hkept

theorem closeNormal_amounts {debit : Option Debit} {drawn : List Entry} {play : NormalPlay}
    (h : Action.run (closeNormal player debit drawn) records = (.ok play, after)) :
    Records.Frame { player, tables := [.inventory] } records after ∧ play.debit = debit := by
  let reach : Reach := { player, tables := [.inventory] }
  have hspoken : Spoken reach.Allows fun σ _ =>
      Machine.onStore (closeNormal (σ := σ) player debit drawn) :=
    Spoken.closeNormal debit drawn List.mem_cons_self
  refine ⟨hspoken.frame_of_run h, ?_⟩
  obtain ⟨items, collected, hcollect, hawarded⟩ := Action.exists_of_bind_ok h
  obtain ⟨_, awarded, haward, hanswer⟩ := Action.exists_of_bind_ok hawarded
  obtain ⟨rfl, -⟩ := Action.of_pure_ok hanswer
  rfl

theorem frame_closeStepup {nextStep : UInt8} {drawn : List Entry}
    {outcome : Except Halt StepupPlay}
    (h : Action.run (closeStepup player gacha selector nextStep drawn) records =
      (outcome, after)) :
    Records.Frame { player, gacha, tables := [.inventory] } records after := by
  let reach : Reach := { player, gacha, tables := [.inventory] }
  have hspoken : Spoken reach.Allows fun σ _ =>
      Machine.onStore (closeStepup (σ := σ) player gacha selector nextStep drawn) :=
    Spoken.closeStepup selector nextStep drawn List.mem_cons_self
  exact hspoken.frame_of_run h

theorem frame_closeBox {drawn : List Entry} {outcome : Except Halt BoxPlay}
    (h : Action.run (closeBox player gacha drawn) records = (outcome, after)) :
    Records.Frame { player, gacha, tables := [.box, .inventory] } records after := by
  let reach : Reach := { player, gacha, tables := [.box, .inventory] }
  have hspoken : Spoken reach.Allows fun σ _ =>
      Machine.onStore (closeBox (σ := σ) player gacha drawn) :=
    Spoken.closeBox drawn (by simp [reach]) (by simp [reach])
  exact hspoken.frame_of_run h

end Play

namespace Catalog

theorem trade_ok {records after : Records} {id : TradeId} {found : Trade}
    (h : Action.run (Catalog.trade id) records = (.ok found, after)) :
    records.trades.find? id = some found ∧ after = records := by
  obtain ⟨answer, looked, hlook, hrest⟩ := Action.exists_of_bind_ok h
  cases hlook
  cases hfound : records.trades.find? id with
  | none => rw [hfound] at hrest; cases hrest
  | some row =>
      rw [hfound] at hrest
      cases hrest
      exact ⟨rfl, rfl⟩

end Catalog

namespace Exchange

variable {records after : Records} {player : Player} {id : TradeId} {sum : Int64}

theorem toInt_payout (trade : Trade) (units : UInt16) :
    (payout trade units).toInt =
      (units.toNat / trade.quantity.toNat * trade.fpoints.toNat : Nat) := by
  have hlots : units.toNat / trade.quantity.toNat ≤ 65535 :=
    Nat.le_trans (Nat.div_le_self _ _) (Nat.le_of_lt_succ units.toNat_lt)
  have hpoints : trade.fpoints.toNat ≤ 4294967295 := Nat.le_of_lt_succ trade.fpoints.toNat_lt
  have hproduct := Nat.mul_le_mul hlots hpoints
  exact Int64.toInt_ofNat_of_lt (Nat.lt_of_le_of_lt hproduct (by decide))

theorem buy_ok {lots : UInt16}
    (h : Action.run (buy player id lots) records = (.ok sum, after)) :
    ∃ trade, records.trades.find? id = some trade ∧
      Records.Booked records
        [{ player, balance := .frontierPoints,
           amount := -(lots.toNat * trade.quantity.toNat * trade.fpoints.toNat) }] after ∧
      after.amount? player .frontierPoints = some sum := by
  obtain ⟨trade, looked, hlook, hpaid⟩ := Action.exists_of_bind_ok h
  obtain ⟨hfound, rfl⟩ := Catalog.trade_ok hlook
  split at hpaid
  · cases hcost : cost? trade lots with
    | none => rw [hcost] at hpaid; cases hpaid
    | some cost =>
        rw [hcost] at hpaid
        obtain ⟨paid, charged, hdebit, hanswer⟩ := Action.exists_of_bind_ok hpaid
        obtain ⟨rfl, rfl⟩ := Action.of_pure_ok hanswer
        obtain ⟨hpayer, hbooked, hstored⟩ := Ledger.debit_ok hdebit
        have hbalance : Balance.frontierPoints = paid.balance := Option.some.inj hpayer
        have hamount : cost.toInt = _ := Amount.ofInt?_eq_some_iff.1 hcost
        rw [← hbalance, hamount] at hbooked
        rw [← hbalance] at hstored
        exact ⟨trade, hfound, hbooked, hstored⟩
  · cases hpaid

theorem sell_ok {units : UInt16}
    (h : Action.run (sell player id units) records = (.ok sum, after)) :
    ∃ trade, records.trades.find? id = some trade ∧
      Records.Booked records
        [{ player, balance := .frontierPoints,
           amount := (units.toNat / trade.quantity.toNat * trade.fpoints.toNat : Nat) }] after ∧
      after.amount? player .frontierPoints = some sum := by
  obtain ⟨trade, looked, hlook, hpaid⟩ := Action.exists_of_bind_ok h
  obtain ⟨hfound, rfl⟩ := Catalog.trade_ok hlook
  split at hpaid
  · cases hpaid
  · obtain ⟨hbooked, hstored⟩ := Ledger.credit_ok hpaid
    rw [toInt_payout] at hbooked
    exact ⟨trade, hfound, hbooked, hstored⟩

end Exchange

namespace Operation

variable {machine worked : Machine Records} {answer : α}

theorem booked_body (operation : Operation α)
    (h : Action.run operation.body machine = (.ok answer, worked)) :
    Records.Booked machine.store (operation.postings machine.store) worked.store := by
  have hframe := operation.spoken_body.frame machine
  rw [h] at hframe
  cases operation with
  | playNormal player gacha selector =>
      obtain ⟨cost, debit, pool, drawn, opened, hopen, hclose⟩ := playNormal_ok h
      obtain ⟨hcost, hprice, -⟩ := Play.openNormal_booked hopen
      have hkept := (Play.closeNormal_amounts hclose).1.booked (by simp)
      simp only [postings, hcost, Option.toList_some, List.flatMap_cons, List.flatMap_nil]
      exact hprice.trans hkept
  | playStepup player gacha step =>
      obtain ⟨cost, nextStep, pool, drawn, opened, hopen, hclose⟩ := playStepup_ok h
      obtain ⟨hcost, hprice⟩ := Play.openStepup_booked hopen
      have hkept := (Play.frame_closeStepup hclose).booked (by simp)
      simp only [postings, hcost, Option.toList_some, List.flatMap_cons, List.flatMap_nil]
      exact hprice.trans hkept
  | playBox player gacha selector =>
      obtain ⟨cost, pool, drawn, opened, hopen, -, hclose⟩ := playBox_ok h
      obtain ⟨hcost, hprice⟩ := Play.openBox_booked hopen
      have hkept := (Play.frame_closeBox hclose).booked (by simp)
      simp only [postings, hcost, Option.toList_some, List.flatMap_cons, List.flatMap_nil]
      exact hprice.trans hkept
  | usePoints player trial premium =>
      obtain ⟨first, paid, hfirst, hrest⟩ := Action.exists_of_bind_ok h
      obtain ⟨second, paidBoth, hsecond, hread⟩ := Action.exists_of_bind_ok hrest
      obtain ⟨htrial, -⟩ := Ledger.debitBalance_ok (Machine.of_onStore_ok hfirst).1
      obtain ⟨hpremium, -⟩ := Ledger.debitBalance_ok (Machine.of_onStore_ok hsecond).1
      obtain ⟨hsame, -⟩ := Ledger.points_ok (Machine.of_onStore_ok hread).1
      rw [Ledger.toInt_coins] at htrial hpremium
      rw [hsame]
      exact htrial.trans hpremium
  | buy player trade lots =>
      have htraded : Action.run (Machine.onStore (Exchange.buy player trade lots)) machine =
          (.ok answer, worked) := h
      obtain ⟨row, hfound, hbooked, -⟩ := Exchange.buy_ok (Machine.of_onStore_ok htraded).1
      simp only [postings, hfound, Option.toList_some, List.map_cons, List.map_nil]
      exact hbooked
  | sell player trade units =>
      have htraded : Action.run (Machine.onStore (Exchange.sell player trade units)) machine =
          (.ok answer, worked) := h
      obtain ⟨row, hfound, hbooked, -⟩ := Exchange.sell_ok (Machine.of_onStore_ok htraded).1
      simp only [postings, hfound, Option.toList_some, List.map_cons, List.map_nil]
      exact hbooked
  | receive player freeze => exact hframe.booked (by cases freeze <;> simp [reach])
  | _ => exact hframe.booked (by simp [reach])

theorem reports_body (operation : Operation α)
    (h : Action.run operation.body machine = (.ok answer, worked)) :
    ∀ report ∈ operation.reports answer,
      worked.store.amount? report.player report.balance = some report.value := by
  have hpoints {player : Player} {points : Points} {read : Machine Records}
      (hread : Action.run (Machine.onStore (Ledger.points player)) read = (.ok points, worked)) :
      ∀ report ∈ Report.ofPoints player points,
        worked.store.amount? report.player report.balance = some report.value := by
    obtain ⟨hsame, hfrontier, hpremium, htrial⟩ :=
      Ledger.points_ok (Machine.of_onStore_ok hread).1
    rw [hsame]
    simp [Report.ofPoints, hfrontier, hpremium, htrial]
  cases operation with
  | playNormal player gacha selector =>
      obtain ⟨cost, debit, pool, drawn, opened, hopen, hclose⟩ := playNormal_ok h
      obtain ⟨-, -, hstored⟩ := Play.openNormal_booked hopen
      obtain ⟨hframe, hdebit⟩ := Play.closeNormal_amounts hclose
      simp only [reports, List.mem_map, Option.mem_toList]
      rintro report ⟨paid, hpaid, rfl⟩
      rw [hframe.amount?_eq (by simp)]
      exact hstored paid (hdebit ▸ hpaid)
  | points player => exact hpoints h
  | usePoints player trial premium =>
      obtain ⟨first, paid, hfirst, hrest⟩ := Action.exists_of_bind_ok h
      obtain ⟨second, paidBoth, hsecond, hread⟩ := Action.exists_of_bind_ok hrest
      exact hpoints hread
  | buy player trade lots =>
      have htraded : Action.run (Machine.onStore (Exchange.buy player trade lots)) machine =
          (.ok answer, worked) := h
      obtain ⟨row, -, -, hstored⟩ := Exchange.buy_ok (Machine.of_onStore_ok htraded).1
      simpa [reports] using hstored
  | sell player trade units =>
      have htraded : Action.run (Machine.onStore (Exchange.sell player trade units)) machine =
          (.ok answer, worked) := h
      obtain ⟨row, -, -, hstored⟩ := Exchange.sell_ok (Machine.of_onStore_ok htraded).1
      simpa [reports] using hstored
  | _ => simp [reports]

end Operation

namespace Machine

def booked (machine : Machine Memory) : Event → List Posting
  | .answered operation (.ok _) => operation.postings machine.store.records
  | _ => []

theorem booked_ok {α : Type} (machine : Machine Memory) (operation : Operation α) (answer : α) :
    machine.booked (.answered operation (.ok answer)) =
      operation.postings machine.store.records := rfl

theorem booked_error {α : Type} (machine : Machine Memory) (operation : Operation α)
    (halt : Halt) : machine.booked (.answered operation (.error halt)) = [] := rfl

def books (machine : Machine Memory) : List Call → List Posting
  | [] => []
  | call :: rest => machine.booked (machine.call call).1 ++ (machine.call call).2.books rest

theorem booked_turn {machine next : Machine Memory} {event : Event}
    (h : Turn machine event next) :
    Records.Booked machine.store.records (machine.booked event) next.store.records := by
  cases h with
  | done operation answer worked hworked =>
      have hbooked := operation.booked_body hworked
      rw [booked_ok]
      exact hbooked
  | stopped operation halt worked hworked =>
      rw [booked_error]
      exact Records.Booked.refl machine.store.records
  | stocked catalog => exact machine.store.records.booked_addCatalog catalog

theorem booked_serve (machine : Machine Memory) (calls : List Call) :
    Records.Booked machine.store.records (machine.books calls)
      (machine.serve calls).2.store.records := by
  induction calls generalizing machine with
  | nil => exact Records.Booked.refl machine.store.records
  | cons call rest ih => exact (booked_turn (machine.turn_call call)).trans (ih _)

theorem reports_call {α : Type} {machine next : Machine Memory} {operation : Operation α}
    {answer : α} (h : Action.run operation.perform machine = (.ok answer, next)) :
    ∀ report ∈ operation.reports answer,
      next.store.records.balance report.player report.balance = .ok report.value := by
  obtain ⟨worked, hworked, rfl⟩ := Operation.run_memory_of_ok h
  intro report hreport
  exact Records.balance_ok_iff.2 (operation.reports_body hworked report hreport)

theorem books_serve (machine : Machine Memory) (calls : List Call) :
    (∀ player balance,
      match machine.store.records.balance player balance with
      | .ok value => ∃ now,
          (machine.serve calls).2.store.records.balance player balance = .ok now ∧
            now.toInt = value.toInt + Posting.total player balance (machine.books calls)
      | .error fault =>
          (machine.serve calls).2.store.records.balance player balance = .error fault) ∧
    ∀ (α : Type) (operation : Operation α) (answer : α) (next : Machine Memory),
      Action.run operation.perform (machine.serve calls).2 = (.ok answer, next) →
      ∀ report ∈ operation.reports answer,
        next.store.records.balance report.player report.balance = .ok report.value := by
  refine ⟨?_, fun α operation answer next => reports_call⟩
  intro player balance
  have hbooked := machine.booked_serve calls
  rw [Records.balance_eq, Records.balance_eq]
  cases hbefore : machine.store.records.amount? player balance with
  | some value =>
      obtain ⟨now, hnow, hvalue⟩ := hbooked.amount?_of_some hbefore
      exact ⟨now, by rw [hnow], hvalue⟩
  | none => rw [hbooked.amount?_of_none hbefore]

theorem books_serve_refused :
    (∃ now, ((Sample.machine Sample.records).serve [.ask (.playBox Sample.player 1 0),
        .ask (.playBox Sample.player 1 0), .ask (.usePoints Sample.player 5 3),
        .ask (.playBox Sample.player 1 0)]).2.store.records.balance Sample.player
          .frontierPoints = .ok now ∧ now.toInt = -20) ∧
      ∃ next, Action.run (Operation.points Sample.player).perform
          ((Sample.machine Sample.records).serve [.ask (.playBox Sample.player 1 0)]).2 =
            (.ok { frontierPoints := -10, premium := 0, trial := 0 }, next) ∧
        next.store.records.balance Sample.player .frontierPoints = .ok (-10) := by
  have hinitial : (Sample.machine Sample.records).store.records.balance Sample.player
      .frontierPoints = .ok 0 := rfl
  have htotal : Posting.total Sample.player .frontierPoints
      ((Sample.machine Sample.records).books [.ask (.playBox Sample.player 1 0),
        .ask (.playBox Sample.player 1 0), .ask (.usePoints Sample.player 5 3),
        .ask (.playBox Sample.player 1 0)]) = -20 := by
    decide +kernel
  obtain ⟨hmoved, -⟩ := books_serve (Sample.machine Sample.records)
    [.ask (.playBox Sample.player 1 0), .ask (.playBox Sample.player 1 0),
      .ask (.usePoints Sample.player 5 3), .ask (.playBox Sample.player 1 0)]
  have hfrontier := hmoved Sample.player .frontierPoints
  rw [hinitial] at hfrontier
  obtain ⟨now, hnow, hvalue⟩ := hfrontier
  rw [htotal] at hvalue
  obtain ⟨-, hreports⟩ := books_serve (Sample.machine Sample.records)
    [.ask (.playBox Sample.player 1 0)]
  refine ⟨⟨now, hnow, hvalue⟩, _, rfl, ?_⟩
  exact hreports Points (.points Sample.player) _ _ rfl ⟨Sample.player, .frontierPoints, -10⟩
    List.mem_cons_self

end Machine

end PrizeDraw
