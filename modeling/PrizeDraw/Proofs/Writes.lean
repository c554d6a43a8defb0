import PrizeDraw.Proofs.Codec
import PrizeDraw.Proofs.Commits
import PrizeDraw.Proofs.Keys
import PrizeDraw.Proofs.Prizes
import PrizeDraw.Proofs.Selectors
import PrizeDraw.Proofs.Telling

namespace PrizeDraw

open scoped List

namespace Statement

def writes : Statement → Bool
  | .start | .commit | .rollback | .lockScope _ _ | .lockCharacter _ => false
  | .selectGacha _ | .selectGachas | .selectEntries _ | .selectEntry _ _ | .selectPool _ => false
  | .selectRewards _ | .selectTrade _ | .selectBalance _ _ | .selectPending _ => false
  | .selectStep _ _ | .selectDealt _ _ | .selectPurchase _ _ => false
  | _ => true

def charges : Statement → Bool
  | .lockScope _ _ | .lockCharacter _ | .selectGacha _ | .selectEntry _ _ => true
  | .selectBalance _ _ | .addBalance _ _ _ => true
  | _ => false

end Statement

def written (rounds : List Round) : List Statement :=
  (rounds.map Round.statement).filter Statement.writes

theorem written_append (first second : List Round) :
    written (first ++ second) = written first ++ written second := by
  simp [written]

theorem written_of_statements {rounds : List Round} {statements : List Statement}
    (h : rounds.map Round.statement = statements) :
    written rounds = statements.filter Statement.writes := by
  rw [written, h]

namespace DebitRule

def payer (rule : DebitRule) (price trial : Int) : Balance :=
  match rule with
  | .direct balance => balance
  | .coins => if price ≤ trial then .gachaTrial else .gachaPremium

end DebitRule

namespace Entry

def rule? (cost : Entry) : Option DebitRule :=
  (Currency.ofItemType cost.itemType).map Currency.debitRule

def charge (cost : Entry) (player : Player) (trial : Int64) : List Statement :=
  cost.rule?.toList.map fun rule =>
    .addBalance player (rule.payer cost.itemNumber.toNat trial.toInt)
      (Int64.ofInt (-cost.itemNumber.toNat))

end Entry

structure Priced (rounds : List Round) (player : Player) (gacha : GachaId) (selector : UInt8)
    (cost : Entry) (trial : Int64) : Prop where
  row : Told rounds (.entryByType gacha selector) (some cost)
  coins : cost.rule? = some .coins → Told rounds (.balance player .gachaTrial) trial

theorem Priced.append {rounds : List Round} {player : Player} {gacha : GachaId}
    {selector : UInt8} {cost : Entry} {trial : Int64}
    (h : Priced rounds player gacha selector cost trial) (more : List Round) :
    Priced (rounds ++ more) player gacha selector cost trial :=
  ⟨h.row.append more, fun hrule => (h.coins hrule).append more⟩

def Stores (rounds : List Round) (character : CharacterId) (won : List RewardItem)
    (buffer : Option Bytes) : Prop :=
  ∃ front stored result back kept pending merged,
    rounds = front ++ .answered (.selectPending character) stored ::
      .answered (.updatePending character buffer) result :: back ∧
    (Command.pendingBuffer character).decode stored = .ok kept ∧
    Pending.ofStored kept = .ok pending ∧
    Pending.ofStored buffer = .ok merged ∧
    merged.items = won ++ pending.items ∧
    (buffer = none ↔ merged.items = [])

section Stores

variable {rounds : List Round} {character : CharacterId} {won : List RewardItem}
  {buffer : Option Bytes}

theorem Stores.append (h : Stores rounds character won buffer) (more : List Round) :
    Stores (rounds ++ more) character won buffer := by
  obtain ⟨front, stored, result, back, kept, pending, merged, rfl, hread⟩ := h
  exact ⟨front, stored, result, back ++ more, kept, pending, merged, by simp, hread⟩

theorem Stores.after (h : Stores rounds character won buffer) (first : List Round) :
    Stores (first ++ rounds) character won buffer := by
  obtain ⟨front, stored, result, back, kept, pending, merged, rfl, hread⟩ := h
  exact ⟨first ++ front, stored, result, back, kept, pending, merged, by simp, hread⟩

end Stores

theorem Steps.after_eq (played : UInt8) :
    Steps.after played = UInt8.ofNat (min (played.toNat + 1) 255) := by
  have hlt := played.toNat_lt
  apply UInt8.toNat_inj.1
  unfold Steps.after
  split
  · rename_i hlast
    subst hlast
    rfl
  · rename_i hlast
    have hne : played.toNat ≠ 255 := fun h => hlast (UInt8.toNat_inj.1 h)
    rw [UInt8.toNat_add, UInt8.toNat_ofNat_of_lt' (by change _ < 256; omega)]
    change (played.toNat + 1) % 256 = _
    omega

def Play.advances (player : Player) (gacha : GachaId) (step : UInt8) (cost : Entry) :
    List Statement :=
  (if cost.frontierPoints = 0 then []
    else [.addBalance player .frontierPoints cost.frontierPoints]) ++
    [.deleteStep gacha player.character,
      .insertStep gacha player.character (UInt8.ofNat (min (step.toNat + 1) 255))]

namespace Client

variable {δ : Type} [Database δ] {before after : Client δ} {player : Player} {gacha : GachaId}

theorem heard_gacha (hactive : before.link = .active) {found : Gacha}
    (h : Action.run (Catalog.gacha gacha) before = (.ok found, after)) :
    ∃ rounds, before.Heard rounds after ∧
      rounds.map Round.statement = [.selectGacha gacha] := by
  obtain ⟨answer, looked, hlook, hfound⟩ := Action.exists_of_bind_ok h
  obtain ⟨_, hheard, -⟩ := heard_perform _ rfl hactive hlook
  cases answer with
  | none => cases hfound
  | some row =>
      cases hfound
      exact ⟨_, hheard, rfl⟩

theorem heard_costEntry {selector : UInt8} (hactive : before.link = .active) {cost : Entry}
    (h : Action.run (Catalog.costEntry gacha selector) before = (.ok cost, after)) :
    ∃ rounds, before.Heard rounds after ∧
      rounds.map Round.statement = [.selectEntry gacha selector] ∧
      Told rounds (.entryByType gacha selector) (some cost) := by
  obtain ⟨answer, looked, hlook, hfound⟩ := Action.exists_of_bind_ok h
  obtain ⟨_, hheard, hdecode⟩ := heard_perform _ rfl hactive hlook
  cases answer with
  | none => cases hfound
  | some row =>
      cases hfound
      exact ⟨_, hheard, rfl, Told.now hdecode []⟩

theorem heard_debitBalance {balance : Balance} {amount : Int64} (hactive : before.link = .active)
    {debit : Debit}
    (h : Action.run (Ledger.debitBalance player balance amount) before = (.ok debit, after)) :
    ∃ rounds, before.Heard rounds after ∧
      rounds.map Round.statement = [.addBalance player balance (Int64.ofInt (-amount.toInt))] := by
  unfold Ledger.debitBalance at h
  cases hdelta : Amount.neg? amount with
  | none => rw [hdelta] at h; cases h
  | some delta =>
      rw [hdelta] at h
      obtain ⟨sum, adjusted, hadjust, hanswer⟩ := Action.exists_of_bind_ok h
      obtain ⟨-, rfl⟩ := Action.of_pure_ok hanswer
      obtain ⟨_, hheard, -⟩ := heard_perform _ rfl hactive hadjust
      refine ⟨_, hheard, ?_⟩
      rw [← Amount.ofInt?_eq_some_iff.1 hdelta, Int64.ofInt_toInt]
      rfl

theorem heard_payer {currency : Currency} {amount : Int64} (hactive : before.link = .active)
    {balance : Balance}
    (h : Action.run (Ledger.payer player currency amount) before = (.ok balance, after)) :
    ∃ rounds trial, before.Heard rounds after ∧ written rounds = [] ∧
      (∀ statement ∈ rounds.map Round.statement, statement.charges = true) ∧
      (currency.debitRule = .coins → Told rounds (.balance player .gachaTrial) trial) ∧
      balance = currency.debitRule.payer amount.toInt trial.toInt := by
  unfold Ledger.payer at h
  cases hrule : currency.debitRule with
  | direct found =>
      rw [hrule] at h
      obtain ⟨rfl, rfl⟩ := Action.of_pure_ok h
      exact ⟨[], 0, .refl hactive, rfl, by simp, by simp, rfl⟩
  | coins =>
      rw [hrule] at h
      obtain ⟨trial, asked, hask, hanswer⟩ := Action.exists_of_bind_ok h
      obtain ⟨rfl, rfl⟩ := Action.of_pure_ok hanswer
      obtain ⟨answer, hheard, hdecode⟩ := heard_perform _ rfl hactive hask
      refine ⟨_, trial, hheard, rfl, ?_, fun _ => Told.now hdecode [], ?_⟩
      · simp [Round.answered, Command.statement, Statement.charges]
      · simp only [DebitRule.payer, Int64.le_iff_toInt_le]

theorem heard_payEntryCost {cost : Entry} (hactive : before.link = .active)
    {debit : Option Debit}
    (h : Action.run (Ledger.payEntryCost player cost) before = (.ok debit, after)) :
    ∃ rounds trial, before.Heard rounds after ∧
      (∀ statement ∈ rounds.map Round.statement, statement.charges = true) ∧
      (cost.rule? = some .coins → Told rounds (.balance player .gachaTrial) trial) ∧
      written rounds = cost.charge player trial := by
  unfold Ledger.payEntryCost at h
  cases hcurrency : Currency.ofItemType cost.itemType with
  | none =>
      rw [hcurrency] at h
      obtain ⟨-, rfl⟩ := Action.of_pure_ok h
      refine ⟨[], 0, .refl hactive, by simp, ?_, ?_⟩
      · simp [Entry.rule?, hcurrency]
      · simp [Entry.charge, Entry.rule?, hcurrency, written]
  | some currency =>
      rw [hcurrency] at h
      obtain ⟨paid, debited, hdebit, hanswer⟩ := Action.exists_of_bind_ok h
      obtain ⟨-, rfl⟩ := Action.of_pure_ok hanswer
      obtain ⟨balance, chosen, hpayer, hpaid⟩ := Action.exists_of_bind_ok hdebit
      obtain ⟨asked, trial, hasked, hread, hcharges, htold, rfl⟩ := heard_payer hactive hpayer
      obtain ⟨rounds, hheard, hrounds⟩ := heard_debitBalance hasked.active hpaid
      have hamount : (Int64.ofNat cost.itemNumber.toNat).toInt = cost.itemNumber.toNat := by
        have hlt := cost.itemNumber.toNat_lt
        exact Int64.toInt_ofNat_of_lt (by omega)
      refine ⟨asked ++ rounds, trial, hasked.trans hheard, ?_, fun hrule => ?_, ?_⟩
      · rw [List.map_append, hrounds]
        intro statement hmem
        rw [List.mem_append, List.mem_singleton] at hmem
        obtain hasked | rfl := hmem
        · exact hcharges statement hasked
        · rfl
      · simp only [Entry.rule?, hcurrency, Option.map_some, Option.some.injEq] at hrule
        exact (htold hrule).append rounds
      · rw [written_append, hread, written_of_statements hrounds, hamount]
        simp only [Entry.charge, Entry.rule?, hcurrency]
        rfl

theorem heard_charge {selector : UInt8} {cost : Entry} {debit : Option Debit} {locked : Client δ}
    (hactive : before.link = .active)
    (hlock : Action.run (Play.lock player gacha) before = (.ok (), locked))
    (hcharge : Action.run (Play.charge player gacha selector) locked =
      (.ok (cost, debit), after)) :
    ∃ rounds trial, before.Heard rounds after ∧
      (∀ statement ∈ rounds.map Round.statement, statement.charges = true) ∧
      Priced rounds player gacha selector cost trial ∧
      written rounds = cost.charge player trial := by
  obtain ⟨scope, character, hlocks⟩ := heard_lock hactive hlock
  obtain ⟨found, looked, hgacha, hrest⟩ := Action.exists_of_bind_ok hcharge
  obtain ⟨first, hfirst, hsaid⟩ := heard_gacha hlocks.active hgacha
  obtain ⟨row, priced, hcost, hrest⟩ := Action.exists_of_bind_ok hrest
  obtain ⟨second, hsecond, hasked, htold⟩ := heard_costEntry hfirst.active hcost
  obtain ⟨paid, charged, hpay, hanswer⟩ := Action.exists_of_bind_ok hrest
  obtain ⟨hpair, rfl⟩ := Action.of_pure_ok hanswer
  cases hpair
  obtain ⟨payment, trial, hpayment, hcharges, hcoins, hwritten⟩ :=
    heard_payEntryCost hsecond.active hpay
  refine ⟨_, trial, hlocks.trans (hfirst.trans (hsecond.trans hpayment)), ?_,
    ⟨?_, fun hrule => ?_⟩, ?_⟩
  · simp only [List.map_append, hsaid, hasked]
    intro statement hmem
    simp only [List.map_cons, List.map_nil, List.mem_append, List.mem_cons, List.not_mem_nil,
      or_false] at hmem
    obtain (rfl | rfl) | rfl | rfl | hmem := hmem
    · rfl
    · rfl
    · rfl
    · rfl
    · exact hcharges statement hmem
  · refine Told.after ?_ (Told.after ?_ (htold.append payment))
    · simp [Round.answered, Command.statement]
    · simp [hsaid, Command.statement]
  · refine Told.after ?_ (Told.after ?_ (Told.after ?_ (hcoins hrule)))
    · simp [Round.answered, Command.statement]
    · simp [hsaid, Command.statement]
    · simp [hasked, Command.statement]
  · rw [written_append, written_append, written_append, written_of_statements hsaid,
      written_of_statements hasked, hwritten]
    rfl

theorem heard_openNormal {selector : UInt8} {cost : Entry} {debit : Option Debit}
    {pool : List Entry} (hactive : before.link = .active)
    (h : Action.run (Play.openNormal player gacha selector) before =
      (.ok (cost, debit, pool), after)) :
    ∃ rounds trial, before.Heard rounds after ∧ Priced rounds player gacha selector cost trial ∧
      written rounds = cost.charge player trial := by
  obtain ⟨_, locked, hlock, hrest⟩ := Action.exists_of_bind_ok h
  obtain ⟨⟨row, paid⟩, charged, hcharge, hrest⟩ := Action.exists_of_bind_ok hrest
  obtain ⟨found, looked, hpool, hanswer⟩ := Action.exists_of_bind_ok hrest
  obtain ⟨hopened, rfl⟩ := Action.of_pure_ok hanswer
  cases hopened
  obtain ⟨rounds, trial, hrounds, -, hpriced, hwritten⟩ := heard_charge hactive hlock hcharge
  obtain ⟨_, hasked, -⟩ := heard_perform _ rfl hrounds.active hpool
  refine ⟨_, trial, hrounds.trans hasked, hpriced.append _, ?_⟩
  rw [written_append, hwritten]
  exact List.append_nil _

theorem heard_advance {step nextStep : UInt8} (hactive : before.link = .active)
    (h : Action.run (Steps.advance gacha player.character step) before = (.ok nextStep, after)) :
    ∃ rounds, before.Heard rounds after ∧
      written rounds = [.deleteStep gacha player.character,
        .insertStep gacha player.character (UInt8.ofNat (min (step.toNat + 1) 255))] := by
  obtain ⟨_, deleted, hdelete, hrest⟩ := Action.exists_of_bind_ok h
  obtain ⟨_, inserted, hinsert, hanswer⟩ := Action.exists_of_bind_ok hrest
  obtain ⟨-, rfl⟩ := Action.of_pure_ok hanswer
  obtain ⟨_, hdeleted, -⟩ := heard_perform _ rfl hactive hdelete
  obtain ⟨_, hinserted, -⟩ := heard_perform _ rfl hdeleted.active hinsert
  refine ⟨_, hdeleted.trans hinserted, ?_⟩
  rw [← Steps.after_eq]
  rfl

theorem heard_openStepup {step nextStep : UInt8} {cost : Entry} {pool : List Entry}
    (hactive : before.link = .active)
    (h : Action.run (Play.openStepup player gacha step) before =
      (.ok (cost, nextStep, pool), after)) :
    ∃ rounds trial, before.Heard rounds after ∧ Priced rounds player gacha step cost trial ∧
      written rounds = cost.charge player trial ++ Play.advances player gacha step cost := by
  obtain ⟨_, locked, hlock, hrest⟩ := Action.exists_of_bind_ok h
  obtain ⟨⟨row, paid⟩, charged, hcharge, hrest⟩ := Action.exists_of_bind_ok hrest
  obtain ⟨rounds, trial, hrounds, -, hpriced, hwritten⟩ := heard_charge hactive hlock hcharge
  have hmoved {middle : Client δ} (hmiddle : middle.link = .active) (hadvance : Action.run (do
      let next ← Steps.advance gacha player.character step
      let found ← Store.perform (.randomPool gacha)
      return (row, next, found)) middle = (.ok (cost, nextStep, pool), after)) :
      row = cost ∧ ∃ more, middle.Heard more after ∧
        written more = [.deleteStep gacha player.character,
          .insertStep gacha player.character (UInt8.ofNat (min (step.toNat + 1) 255))] := by
    obtain ⟨next, advanced, hnext, hrest⟩ := Action.exists_of_bind_ok hadvance
    obtain ⟨found, looked, hpool, hanswer⟩ := Action.exists_of_bind_ok hrest
    obtain ⟨hopened, rfl⟩ := Action.of_pure_ok hanswer
    cases hopened
    obtain ⟨moves, hmoves, hmoved⟩ := heard_advance hmiddle hnext
    obtain ⟨_, hasked, -⟩ := heard_perform _ rfl hmoves.active hpool
    refine ⟨rfl, _, hmoves.trans hasked, ?_⟩
    rw [written_append, hmoved]
    rfl
  dsimp only at hrest
  split at hrest
  · rename_i hbonus
    obtain ⟨sum, credited, hcredit, hadvance⟩ := Action.exists_of_bind_ok hrest
    obtain ⟨_, hcredited, -⟩ := heard_perform
      (.adjustBalance player .frontierPoints row.frontierPoints) rfl hrounds.active hcredit
    obtain ⟨rfl, more, hmore, hmoves⟩ := hmoved hcredited.active hadvance
    refine ⟨_, trial, hrounds.trans (hcredited.trans hmore), hpriced.append _, ?_⟩
    rw [written_append, written_append, hwritten, hmoves, Play.advances, if_neg hbonus]
    rfl
  · rename_i hbonus
    obtain ⟨rfl, more, hmore, hmoves⟩ := hmoved hrounds.active hrest
    refine ⟨_, trial, hrounds.trans hmore, hpriced.append _, ?_⟩
    rw [written_append, hwritten, hmoves, Play.advances, if_pos (not_not.1 hbonus)]
    rfl

theorem heard_openBox {selector : UInt8} {cost : Entry} {pool : List Entry}
    (hactive : before.link = .active)
    (h : Action.run (Play.openBox player gacha selector) before = (.ok (cost, pool), after)) :
    ∃ rounds trial dealt entries, before.Heard rounds after ∧
      Priced rounds player gacha selector cost trial ∧
      Told rounds (.dealtEntries gacha player.character) dealt ∧
      Told rounds (.randomPool gacha) entries ∧
      pool = (entries.filter fun entry => !dealt.contains entry.id) ∧
      written rounds = cost.charge player trial := by
  obtain ⟨_, locked, hlock, hrest⟩ := Action.exists_of_bind_ok h
  obtain ⟨⟨row, paid⟩, charged, hcharge, hrest⟩ := Action.exists_of_bind_ok hrest
  obtain ⟨dealt, looked, hdealt, hrest⟩ := Action.exists_of_bind_ok hrest
  obtain ⟨entries, asked, hpool, hanswer⟩ := Action.exists_of_bind_ok hrest
  obtain ⟨hopened, rfl⟩ := Action.of_pure_ok hanswer
  cases hopened
  obtain ⟨rounds, trial, hrounds, hcharges, hpriced, hwritten⟩ :=
    heard_charge hactive hlock hcharge
  obtain ⟨_, hheld, hdealtRows⟩ := heard_perform _ rfl hrounds.active hdealt
  obtain ⟨_, hasked, hpoolRows⟩ := heard_perform _ rfl hheld.active hpool
  refine ⟨_, trial, dealt, entries, hrounds.trans (hheld.trans hasked), hpriced.append _, ?_, ?_,
    rfl, ?_⟩
  · refine Told.after (fun hmem => ?_) ((Told.now hdealtRows []).append _)
    cases hcharges _ hmem
  · refine Told.after (fun hmem => ?_) (Told.after ?_ (Told.now hpoolRows []))
    · cases hcharges _ hmem
    · simp [Round.answered, Command.statement]
  · rw [written_append, hwritten]
    exact List.append_nil _

theorem heard_rewards {fetched : Play.Fetched} {entry : EntryId}
    {found : List RewardItem × Play.Fetched} (hactive : before.link = .active)
    (h : Action.run (Play.rewards fetched entry) before = (.ok found, after)) :
    ∃ rounds, before.Heard rounds after ∧ written rounds = [] := by
  unfold Play.rewards at h
  split at h
  · obtain ⟨-, rfl⟩ := Action.of_pure_ok h
    exact ⟨[], .refl hactive, rfl⟩
  · obtain ⟨items, asked, hask, hanswer⟩ := Action.exists_of_bind_ok h
    obtain ⟨-, rfl⟩ := Action.of_pure_ok hanswer
    obtain ⟨_, hheard, -⟩ := heard_perform _ rfl hactive hask
    exact ⟨_, hheard, rfl⟩

theorem heard_collect {mark : Entry → Action (Client δ) Unit} (marks : Entry → List Statement)
    (hmark : ∀ entry (before after : Client δ), before.link = .active →
      Action.run (mark entry) before = (.ok (), after) →
        ∃ rounds, before.Heard rounds after ∧ written rounds = marks entry)
    {rarity : Entry → UInt8} {fetched : Play.Fetched} {drawn : List Entry}
    {items : List DrawnItem} (hactive : before.link = .active)
    (h : Action.run (Play.collect mark rarity fetched drawn) before = (.ok items, after)) :
    ∃ rounds, before.Heard rounds after ∧ written rounds = drawn.flatMap marks := by
  induction drawn generalizing fetched items before with
  | nil =>
      obtain ⟨-, rfl⟩ := Action.of_pure_ok h
      exact ⟨[], .refl hactive, rfl⟩
  | cons entry rest ih =>
      obtain ⟨_, marked, hmarked, hrest⟩ := Action.exists_of_bind_ok h
      obtain ⟨⟨found, kept⟩, looked, hlook, hrest⟩ := Action.exists_of_bind_ok hrest
      obtain ⟨others, collected, hcollect, hanswer⟩ := Action.exists_of_bind_ok hrest
      obtain ⟨-, rfl⟩ := Action.of_pure_ok hanswer
      obtain ⟨first, hfirst, hwritten⟩ := hmark entry before marked hactive hmarked
      obtain ⟨second, hsecond, hsilent⟩ := heard_rewards hfirst.active hlook
      obtain ⟨third, hthird, hothers⟩ := ih hsecond.active hcollect
      refine ⟨_, hfirst.trans (hsecond.trans hthird), ?_⟩
      rw [written_append, written_append, hwritten, hsilent, hothers, List.nil_append,
        List.flatMap_cons]

theorem heard_collectDrawn {drawn : List Entry} {items : List DrawnItem}
    (hactive : before.link = .active)
    (h : Action.run (Play.collectDrawn drawn) before = (.ok items, after)) :
    ∃ rounds, before.Heard rounds after ∧ written rounds = [] := by
  have hmark (entry : Entry) (before after : Client δ) (hactive : before.link = .active)
      (h : Action.run (pure () : Action (Client δ) Unit) before = (.ok (), after)) :
      ∃ rounds, before.Heard rounds after ∧ written rounds = [] := by
    obtain ⟨-, rfl⟩ := Action.of_pure_ok h
    exact ⟨[], .refl hactive, rfl⟩
  obtain ⟨rounds, hrounds, hwritten⟩ := heard_collect (fun _ => []) hmark hactive h
  exact ⟨rounds, hrounds, hwritten.trans (List.flatMap_eq_nil_iff.2 fun _ _ => rfl)⟩

theorem heard_collectDealt {drawn : List Entry} {items : List DrawnItem}
    (hactive : before.link = .active)
    (h : Action.run (Play.collectDealt player gacha drawn) before = (.ok items, after)) :
    ∃ rounds, before.Heard rounds after ∧
      written rounds = (drawn.map Entry.id).map (.insertDealt gacha player.character) := by
  have hmark (entry : Entry) (before after : Client δ) (hactive : before.link = .active)
      (h : Action.run (Store.perform (.insertDealt gacha player.character entry.id)) before =
        (.ok (), after)) :
      ∃ rounds, before.Heard rounds after ∧
        written rounds = [.insertDealt gacha player.character entry.id] := by
    obtain ⟨_, hheard, -⟩ := heard_perform _ rfl hactive h
    exact ⟨_, hheard, rfl⟩
  obtain ⟨rounds, hrounds, hwritten⟩ := heard_collect _ hmark hactive h
  refine ⟨rounds, hrounds, ?_⟩
  rw [hwritten, List.map_map]
  exact List.map_eq_flatMap.symm

theorem heard_guaranteedItems {step : UInt8} {items : List RewardItem}
    (hactive : before.link = .active)
    (h : Action.run (Catalog.guaranteedItems gacha step) before = (.ok items, after)) :
    ∃ rounds, before.Heard rounds after ∧ written rounds = [] := by
  obtain ⟨found, looked, hlook, hrest⟩ := Action.exists_of_bind_ok h
  obtain ⟨_, hheard, -⟩ := heard_perform _ rfl hactive hlook
  cases found with
  | none =>
      obtain ⟨-, rfl⟩ := Action.of_pure_ok hrest
      exact ⟨_, hheard, rfl⟩
  | some entry =>
      obtain ⟨_, hitems, -⟩ := heard_perform _ rfl hheard.active hrest
      exact ⟨_, hheard.trans hitems, rfl⟩

theorem heard_award {won : List DrawnItem} (hactive : before.link = .active)
    (h : Action.run (Play.award player won) before = (.ok (), after)) :
    ∃ rounds buffer, before.Heard rounds after ∧
      Stores rounds player.character (won.map DrawnItem.item) buffer ∧
      written rounds = [.updatePending player.character buffer] := by
  obtain ⟨_, appended, happend, hanswer⟩ := Action.exists_of_bind_ok h
  obtain ⟨-, rfl⟩ := Action.of_pure_ok hanswer
  obtain ⟨pending, loaded, hload, hjoined⟩ := Action.exists_of_bind_ok happend
  obtain ⟨merged, joined, hjoin, hsaved⟩ := Action.exists_of_bind_ok hjoined
  obtain ⟨hmerged, rfl⟩ := Action.of_ofExcept_ok hjoin
  obtain ⟨_, saved, hsave, hmerging⟩ := Action.exists_of_bind_ok hsaved
  obtain ⟨-, rfl⟩ := Action.of_pure_ok hmerging
  obtain ⟨kept, asked, hask, hdecode⟩ := Action.exists_of_bind_ok hload
  obtain ⟨hpending, rfl⟩ := Action.of_ofExcept_ok hdecode
  obtain ⟨stored, hasked, hkept⟩ := heard_perform _ rfl hactive hask
  obtain ⟨result, hwritten, -⟩ := heard_perform (.setPendingBuffer player.character merged.stored)
    rfl hasked.active hsave
  refine ⟨_, merged.stored, hasked.trans hwritten, ?_, rfl⟩
  refine ⟨[], stored, result, [], kept, pending, merged, rfl, hkept, hpending,
    Pending.ofStored_stored merged, Pending.items_of_prepend_ok hmerged, ?_⟩
  exact Pending.stored_eq_none_iff

theorem heard_closeNormal {debit : Option Debit} {drawn : List Entry} {play : NormalPlay}
    (hactive : before.link = .active)
    (h : Action.run (Play.closeNormal player debit drawn) before = (.ok play, after)) :
    ∃ rounds buffer, before.Heard rounds after ∧
      Stores rounds player.character (play.items.map DrawnItem.item) buffer ∧
      written rounds = [.updatePending player.character buffer] := by
  obtain ⟨items, collected, hcollect, hrest⟩ := Action.exists_of_bind_ok h
  obtain ⟨_, awarded, haward, hanswer⟩ := Action.exists_of_bind_ok hrest
  obtain ⟨rfl, rfl⟩ := Action.of_pure_ok hanswer
  obtain ⟨first, hfirst, hsilent⟩ := heard_collectDrawn hactive hcollect
  obtain ⟨second, buffer, hsecond, hstores, hwritten⟩ := heard_award hfirst.active haward
  refine ⟨_, buffer, hfirst.trans hsecond, hstores.after first, ?_⟩
  rw [written_append, hsilent, hwritten, List.nil_append]

theorem heard_closeStepup {step nextStep : UInt8} {drawn : List Entry} {play : StepupPlay}
    (hactive : before.link = .active)
    (h : Action.run (Play.closeStepup player gacha step nextStep drawn) before =
      (.ok play, after)) :
    ∃ rounds buffer, before.Heard rounds after ∧
      Stores rounds player.character (play.items.map DrawnItem.item) buffer ∧
      written rounds = [.updatePending player.character buffer] := by
  obtain ⟨random, collected, hcollect, hrest⟩ := Action.exists_of_bind_ok h
  obtain ⟨fixed, looked, hfixed, hrest⟩ := Action.exists_of_bind_ok hrest
  obtain ⟨_, awarded, haward, hanswer⟩ := Action.exists_of_bind_ok hrest
  obtain ⟨rfl, rfl⟩ := Action.of_pure_ok hanswer
  obtain ⟨first, hfirst, hsilent⟩ := heard_collectDrawn hactive hcollect
  obtain ⟨second, hsecond, hlooked⟩ := heard_guaranteedItems hfirst.active hfixed
  obtain ⟨third, buffer, hthird, hstores, hwritten⟩ := heard_award hsecond.active haward
  refine ⟨_, buffer, hfirst.trans (hsecond.trans hthird), (hstores.after second).after first, ?_⟩
  rw [written_append, written_append, hsilent, hlooked, hwritten, List.nil_append,
    List.nil_append]

theorem heard_closeBox {drawn : List Entry} {play : BoxPlay} (hactive : before.link = .active)
    (h : Action.run (Play.closeBox player gacha drawn) before = (.ok play, after)) :
    ∃ rounds buffer, before.Heard rounds after ∧
      Stores rounds player.character (play.items.map DrawnItem.item) buffer ∧
      play.dealt = drawn.map Entry.id ∧
      written rounds = play.dealt.map (.insertDealt gacha player.character) ++
        [.updatePending player.character buffer] := by
  obtain ⟨items, collected, hcollect, hrest⟩ := Action.exists_of_bind_ok h
  obtain ⟨_, awarded, haward, hanswer⟩ := Action.exists_of_bind_ok hrest
  obtain ⟨rfl, rfl⟩ := Action.of_pure_ok hanswer
  obtain ⟨first, hfirst, hmarks⟩ := heard_collectDealt hactive hcollect
  obtain ⟨second, buffer, hsecond, hstores, hwritten⟩ := heard_award hfirst.active haward
  refine ⟨_, buffer, hfirst.trans hsecond, hstores.after first, rfl, ?_⟩
  rw [written_append, hmarks, hwritten]

theorem heard_start (hidle : before.link = .idle)
    (h : Action.run Store.start before = (.ok (), after)) :
    ∃ answer, before.Heard [.answered .start answer] after := by
  have hopening := opened_openTransaction hidle
  have hstart : Action.run (Store.start : Action (Client δ) Unit) before = _ :=
    run_lift openTransaction before
  rw [h] at hstart
  generalize openTransaction before = opening at hopening hstart
  cases hopening with
  | opened answer opened talks link =>
      cases hstart
      exact ⟨answer, talks, link⟩
  | unopened fault response opened talks link => cases hstart

theorem talks_commit_ok (hactive : before.link = .active)
    (h : Action.run (Store.perform .commit) before = (.ok (), after)) :
    ∃ answer, before.Talks [.answered .commit answer] after.abandon := by
  obtain ⟨hok, hended⟩ := isOk_finish .commit before
  have hcommit : Action.run (finish .commit) before = (.ok (), after) := h
  obtain ⟨reply, back, hclosing, htalks, hsuccess⟩ := talks_commit hactive
  change (Action.run (finish .commit) before).1.isOk = _ at hok
  change (Action.run (finish .commit) before).2.abandon = _ at hended
  rw [hcommit] at hok hended
  obtain ⟨answer, rfl⟩ := hsuccess.1 hok.symm
  rw [← hended] at htalks
  cases hclosing
  exact ⟨answer, htalks⟩

theorem started_transaction {α : Type} {body : Action (Machine (Client δ)) α} {answer : α}
    {machine next : Machine (Client δ)} (hidle : machine.store.link = .idle)
    (h : Action.run (Machine.transaction body) machine = (.ok answer, next)) :
    ∃ opened worked first, Action.run (Machine.onStore Store.start) machine = (.ok (), opened) ∧
      machine.store.Heard [.answered .start first] opened.store ∧
      Action.run body opened = (.ok answer, worked) ∧
      (worked.store.link = .active →
        ∃ last, worked.store.Talks [.answered .commit last] next.store) := by
  rw [Machine.run_transaction] at h
  dsimp only at h
  generalize hended : Action.run _ machine = ended at h
  obtain ⟨outcome, committed⟩ := ended
  cases h
  obtain ⟨_, opened, hstart, hrest⟩ := Action.exists_of_bind_ok hended
  obtain ⟨_, worked, hbody, hcommitted⟩ := Action.exists_of_bind_ok hrest
  obtain ⟨_, closed, hcommit, hanswer⟩ := Action.exists_of_bind_ok hcommitted
  obtain ⟨rfl, rfl⟩ := Action.of_pure_ok hanswer
  obtain ⟨first, hopened⟩ := heard_start hidle (Machine.of_onStore_ok hstart).1
  exact ⟨opened, worked, first, hstart, hopened, hbody, fun hactive =>
    talks_commit_ok hactive (Machine.of_onStore_ok hcommit).1⟩

theorem heard_transaction {α : Type} {body : Action (Machine (Client δ)) α} {answer : α}
    {machine next : Machine (Client δ)} (hidle : machine.store.link = .idle)
    (h : Action.run (Machine.transaction body) machine = (.ok answer, next)) :
    ∃ opened worked first, machine.store.Heard [.answered .start first] opened.store ∧
      Action.run body opened = (.ok answer, worked) ∧
      (worked.store.link = .active →
        ∃ last, worked.store.Talks [.answered .commit last] next.store) := by
  obtain ⟨opened, worked, first, -, hopened, hbody, hcommitted⟩ := started_transaction hidle h
  exact ⟨opened, worked, first, hopened, hbody, hcommitted⟩

end Client

namespace Play

theorem nodup_drawn {entries drawn : List Entry} {dealt : List EntryId} {rolls : Nat}
    {g : Generator} (hentries : (entries.map Entry.id).Nodup)
    (h : (Sampling.uniform (entries.filter fun entry => !dealt.contains entry.id) rolls g).1 =
      .ok drawn) :
    (drawn.map Entry.id).length = rolls ∧ (drawn.map Entry.id).Nodup ∧
      ∀ id ∈ drawn.map Entry.id, id ∈ entries.map Entry.id ∧ id ∉ dealt := by
  have hpool : ((entries.filter fun entry => !dealt.contains entry.id).map Entry.id).Nodup :=
    hentries.sublist (List.filter_sublist.map Entry.id)
  have hlength := UInt32.length_le_of_nodup hpool
  rw [List.length_map] at hlength
  obtain ⟨hrolls, rest, hperm⟩ := Sampling.uniform_ok h hlength
  have hids := (hperm.map Entry.id).nodup_iff.2 hpool
  rw [List.map_append] at hids
  refine ⟨by rw [List.length_map, hrolls], hids.of_append_left, fun id hid => ?_⟩
  obtain ⟨entry, hentry, rfl⟩ := List.mem_map.1 hid
  obtain ⟨hmem, hnew⟩ := List.mem_filter.1 (hperm.subset (List.mem_append_left _ hentry))
  exact ⟨List.mem_map_of_mem hmem, by simpa using hnew⟩

end Play

namespace Operation

variable {α : Type}

def advances : Operation α → Entry → List Statement
  | .playStepup player gacha step, cost => Play.advances player gacha step cost
  | _, _ => []

def marks : Operation α → α → List Statement
  | .playBox player gacha _, play => play.dealt.map (.insertDealt gacha player.character)
  | _, _ => []

def DealsOnce (rounds : List Round) (cost : Entry) : Operation α → α → Prop
  | .playBox player gacha _, play => ∃ dealt entries,
      Told rounds (.dealtEntries gacha player.character) dealt ∧
      Told rounds (.randomPool gacha) entries ∧
      ((entries.map Entry.id).Nodup → play.dealt.length = cost.rolls.toNat ∧ play.dealt.Nodup ∧
        ∀ id ∈ play.dealt, id ∈ entries.map Entry.id ∧ id ∉ dealt)
  | _, _ => True

structure Wrote (operation : Operation α) (player : Player) (gacha : GachaId) (selector : UInt8)
    (answer : α) (rounds : List Round) (cost : Entry) (trial : Int64) (buffer : Option Bytes) :
    Prop where
  priced : Priced rounds player gacha selector cost trial
  stores : Stores rounds player.character (operation.won player.character answer) buffer
  once : operation.DealsOnce rounds cost answer
  written : written rounds = cost.charge player trial ++ operation.advances cost ++
    operation.marks answer ++ [.updatePending player.character buffer]

variable {operation : Operation α} {player : Player} {gacha : GachaId} {selector : UInt8}
  {answer : α} {rounds : List Round} {cost : Entry} {trial : Int64} {buffer : Option Bytes}

theorem Wrote.enclosed (h : operation.Wrote player gacha selector answer rounds cost trial buffer)
    (first last : Answer) :
    operation.Wrote player gacha selector answer
      ([.answered .start first] ++ (rounds ++ [.answered .commit last])) cost trial buffer := by
  have told {β : Type} {asked : Command β} {b : β} (hasked : asked.statement ≠ .start)
      (htold : Told rounds asked b) :
      Told ([.answered .start first] ++ (rounds ++ [.answered .commit last])) asked b :=
    Told.after (by simpa [Round.answered] using hasked) (htold.append _)
  constructor
  case priced =>
    exact ⟨told (by simp [Command.statement]) h.priced.row,
      fun hrule => told (by simp [Command.statement]) (h.priced.coins hrule)⟩
  case stores => exact (h.stores.append _).after _
  case once =>
    cases operation with
    | playBox player gacha selector =>
        obtain ⟨dealt, entries, hdealt, hentries, honce⟩ := h.once
        exact ⟨dealt, entries, told (by simp [Command.statement]) hdealt,
          told (by simp [Command.statement]) hentries, honce⟩
    | _ => trivial
  case written =>
    rw [written_append, written_append, h.written]
    exact List.append_nil _

variable {δ : Type} [Database δ]

theorem wrote_body (hplay : operation.play? = some (player, gacha, selector))
    {machine worked : Machine (Client δ)} (hactive : machine.store.link = .active)
    (h : Action.run operation.body machine = (.ok answer, worked)) :
    ∃ rounds cost trial buffer, machine.store.Heard rounds worked.store ∧
      operation.Wrote player gacha selector answer rounds cost trial buffer := by
  cases operation with
  | playNormal player gacha selector =>
      cases hplay
      obtain ⟨cost, debit, pool, drawn, opened, hopen, hclose⟩ := playNormal_ok h
      obtain ⟨first, trial, hfirst, hpriced, hcharge⟩ := Client.heard_openNormal hactive hopen
      obtain ⟨second, buffer, hsecond, hstores, hwritten⟩ :=
        Client.heard_closeNormal hfirst.active hclose
      refine ⟨_, cost, trial, buffer, hfirst.trans hsecond, hpriced.append _, ?_, trivial, ?_⟩
      · rw [won, if_pos rfl]
        exact hstores.after first
      · rw [written_append, hcharge, hwritten]
        simp [advances, marks]
  | playStepup player gacha step =>
      cases hplay
      obtain ⟨cost, nextStep, pool, drawn, opened, hopen, hclose⟩ := playStepup_ok h
      obtain ⟨first, trial, hfirst, hpriced, hcharge⟩ := Client.heard_openStepup hactive hopen
      obtain ⟨second, buffer, hsecond, hstores, hwritten⟩ :=
        Client.heard_closeStepup hfirst.active hclose
      refine ⟨_, cost, trial, buffer, hfirst.trans hsecond, hpriced.append _, ?_, trivial, ?_⟩
      · rw [won, if_pos rfl]
        exact hstores.after first
      · rw [written_append, hcharge, hwritten]
        simp [advances, marks]
  | playBox player gacha selector =>
      cases hplay
      obtain ⟨cost, pool, drawn, opened, hopen, hdraw, hclose⟩ := playBox_ok h
      obtain ⟨first, trial, dealt, entries, hfirst, hpriced, hdealt, hentries, rfl, hcharge⟩ :=
        Client.heard_openBox hactive hopen
      obtain ⟨second, buffer, hsecond, hstores, hids, hwritten⟩ :=
        Client.heard_closeBox hfirst.active hclose
      refine ⟨_, cost, trial, buffer, hfirst.trans hsecond, hpriced.append _, ?_, ?_, ?_⟩
      · rw [won, if_pos rfl]
        exact hstores.after first
      · refine ⟨dealt, entries, hdealt.append _, hentries.append _, fun hnodup => ?_⟩
        rw [hids]
        exact Play.nodup_drawn hnodup hdraw
      · rw [written_append, hcharge, hwritten]
        simp [advances, marks]
  | _ => cases hplay

theorem play_writes (operation : Operation α) (player : Player) (gacha : GachaId)
    (selector : UInt8) (hplay : operation.play? = some (player, gacha, selector))
    (machine next : Machine (Client δ)) (hidle : machine.store.link = .idle) (answer : α)
    (h : Action.run operation.perform machine = (.ok answer, next)) :
    ∃ rounds cost trial buffer, machine.store.Talks rounds next.store ∧
      operation.Wrote player gacha selector answer rounds cost trial buffer := by
  rw [operation.perform_eq] at h
  obtain ⟨opened, worked, first, hopened, hbody, hcommitted⟩ := Client.heard_transaction hidle h
  obtain ⟨rounds, cost, trial, buffer, hheard, hwrote⟩ := wrote_body hplay hopened.active hbody
  obtain ⟨last, hlast⟩ := hcommitted hheard.active
  exact ⟨_, cost, trial, buffer, hopened.talks.trans (hheard.talks.trans hlast),
    hwrote.enclosed first last⟩

theorem play_writes_box :
    (playBox Sample.player 1 0).play? = some (Sample.player, 1, 0) ∧
      (Sample.served Sample.boxReplies).store.link = .idle ∧
      ∃ next, Action.run (playBox Sample.player 1 0).perform (Sample.served Sample.boxReplies) =
          (.ok { items := [{ item := ⟨7, 1, 1⟩, rarity := 0 }], dealt := [3] }, next) ∧
        next.store.trace.filter Statement.writes =
          [.addBalance Sample.player .gachaPremium (-10), .insertDealt 1 1 3,
            .updatePending 1 (some [2, 7, 0, 1, 0, 1, 7, 0, 5, 0, 5])] ∧
        ∃ rounds cost trial buffer,
          (Sample.served Sample.boxReplies).store.Talks rounds next.store ∧
          (playBox Sample.player 1 0).Wrote Sample.player 1 0
            { items := [{ item := ⟨7, 1, 1⟩, rarity := 0 }], dealt := [3] } rounds cost trial
            buffer := by
  have hplayed : (Action.run (playBox Sample.player 1 0).perform
      (Sample.served Sample.boxReplies)).1 =
        .ok { items := [{ item := ⟨7, 1, 1⟩, rarity := 0 }], dealt := [3] } := by
    decide +kernel
  have hwrites : (Action.run (playBox Sample.player 1 0).perform
      (Sample.served Sample.boxReplies)).2.store.trace.filter Statement.writes =
        [.addBalance Sample.player .gachaPremium (-10), .insertDealt 1 1 3,
          .updatePending 1 (some [2, 7, 0, 1, 0, 1, 7, 0, 5, 0, 5])] := by
    decide +kernel
  have hrun := Prod.ext hplayed rfl
  exact ⟨rfl, rfl, _, hrun, hwrites, play_writes (playBox Sample.player 1 0) Sample.player 1 0 rfl
    (Sample.served Sample.boxReplies) _ rfl _ hrun⟩

end Operation

end PrizeDraw
