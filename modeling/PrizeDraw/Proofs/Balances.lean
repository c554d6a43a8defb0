import Mathlib.Algebra.BigOperators.Group.List.Basic
import Mathlib.Algebra.Ring.Int.Defs
import Mathlib.Algebra.Ring.Nat
import PrizeDraw.Proofs.Plays

namespace PrizeDraw

structure Posting where
  player : Player
  balance : Balance
  amount : Int
  deriving DecidableEq, Repr

namespace Posting

def Concerns (posting : Posting) (player : Player) (balance : Balance) : Prop :=
  balance = posting.balance ∧
    balance.scope.owner player = balance.scope.owner posting.player

instance (posting : Posting) (player : Player) (balance : Balance) :
    Decidable (posting.Concerns player balance) :=
  inferInstanceAs (Decidable (_ ∧ _))

def on (posting : Posting) (player : Player) (balance : Balance) : Int :=
  if posting.Concerns player balance then posting.amount else 0

def total (player : Player) (balance : Balance) (postings : List Posting) : Int :=
  (postings.map fun posting => posting.on player balance).sum

variable {player : Player} {balance : Balance}

@[simp] theorem total_nil : total player balance [] = 0 := rfl

theorem total_singleton (posting : Posting) :
    total player balance [posting] = posting.on player balance := by
  simp [total]

theorem total_append (first second : List Posting) :
    total player balance (first ++ second) =
      total player balance first + total player balance second := by
  simp [total]

end Posting

namespace Records

def amount? (records : Records) (player : Player) (balance : Balance) : Option Int64 :=
  match balance.scope with
  | .account => (records.accounts.find? player.account).map fun purse => purse.get balance
  | .character => (records.ownPurse? player.character).map fun purse => purse.get balance

theorem amount?_congr (records : Records) {player other : Player} {balance : Balance}
    (h : balance.scope.owner other = balance.scope.owner player) :
    records.amount? other balance = records.amount? player balance := by
  unfold amount?
  cases hscope : balance.scope with
  | account =>
      rw [hscope] at h
      rw [show other.account = player.account from h]
  | character =>
      rw [hscope] at h
      rw [show other.character = player.character from h]

theorem balance_eq (records : Records) (player : Player) (balance : Balance) :
    records.balance player balance =
      match records.amount? player balance with
      | some value => .ok value
      | none =>
          .error (.unknownOwner balance.scope.table (balance.scope.owner player)) := by
  unfold Records.balance amount?
  cases balance.scope with
  | account =>
      simp only [purse, account]
      cases records.accounts.find? player.account <;> rfl
  | character =>
      simp only [purse, character, ownPurse?]
      cases records.characters.find? player.character <;> rfl

theorem balance_ok_iff {records : Records} {player : Player} {balance : Balance}
    {value : Int64} :
    records.balance player balance = .ok value ↔ records.amount? player balance = some value := by
  rw [balance_eq]
  cases records.amount? player balance with
  | none => simp
  | some found => simp

theorem amount?_insert_account (records : Records) (player other : Player) (purse : Purse)
    (column : Balance) :
    ({ records with accounts := records.accounts.insert player.account purse } :
        Records).amount? other column =
      if column.scope = .account ∧ other.account = player.account
      then some (purse.get column) else records.amount? other column := by
  unfold amount?
  cases hscope : column.scope with
  | account =>
      dsimp only
      by_cases h : other.account = player.account
      · rw [h, Table.find?_insert_self, if_pos ⟨rfl, rfl⟩]
        rfl
      · rw [Table.find?_insert_of_ne h, if_neg fun hboth => h hboth.2]
  | character => rfl

theorem amount?_insert_character (records : Records) (player other : Player)
    (row : CharacterRow) (column : Balance) :
    ({ records with characters := records.characters.insert player.character row } :
        Records).amount? other column =
      if column.scope = .character ∧ other.character = player.character
      then some (row.purse.get column) else records.amount? other column := by
  unfold amount?
  cases hscope : column.scope with
  | account => rfl
  | character =>
      dsimp only
      rw [ownPurse?_insert]
      by_cases h : other.character = player.character
      · rw [if_pos h, if_pos ⟨rfl, h⟩]
        rfl
      · rw [if_neg h, if_neg fun hboth => h hboth.2]

theorem amount?_of_purse {records changed : Records} {player other : Player}
    {balance column : Balance} {purse : Purse} {value : Int64} {shared : Prop}
    [Decidable shared]
    (hshared : shared ↔ column.scope = balance.scope ∧
      column.scope.owner other = column.scope.owner player)
    (hheld : shared → records.amount? other column = some (purse.get column))
    (hput : changed.amount? other column =
      if shared then some ((purse.set balance value).get column)
      else records.amount? other column) :
    changed.amount? other column =
      if column = balance ∧ column.scope.owner other = column.scope.owner player
      then some value else records.amount? other column := by
  rw [hput, Purse.get_set]
  by_cases hcolumn : column = balance
  · subst hcolumn
    simp only [hshared, true_and, if_true]
  · have hother : ¬(column = balance ∧
        column.scope.owner other = column.scope.owner player) := fun hboth => hcolumn hboth.1
    rw [if_neg hcolumn, if_neg hother]
    split
    · rename_i h
      exact (hheld h).symm
    · rfl

theorem amount?_of_setBalance_ok {records changed : Records} {player : Player}
    {balance : Balance} {value : Int64}
    (h : records.setBalance player balance value = .ok changed) (other : Player)
    (column : Balance) :
    changed.amount? other column =
      if column = balance ∧ column.scope.owner other = column.scope.owner player
      then some value else records.amount? other column := by
  unfold setBalance at h
  cases hscope : balance.scope with
  | account =>
      rw [hscope] at h
      cases hpurse : records.account player.account with
      | error fault => rw [hpurse] at h; cases h
      | ok purse =>
          rw [hpurse] at h
          cases h
          refine amount?_of_purse ?_ ?_ (amount?_insert_account ..)
          · rw [hscope]
            exact and_congr_right fun hcolumn => by simp only [hcolumn, BalanceScope.owner]
          · rintro ⟨hcolumn, hplayer⟩
            simp only [amount?, hcolumn, hplayer, account_ok hpurse, Option.map_some]
  | character =>
      rw [hscope] at h
      cases hrow : records.character player.character with
      | error fault => rw [hrow] at h; cases h
      | ok row =>
          rw [hrow] at h
          cases h
          refine amount?_of_purse ?_ ?_ (amount?_insert_character ..)
          · rw [hscope]
            exact and_congr_right fun hcolumn => by simp only [hcolumn, BalanceScope.owner]
          · rintro ⟨hcolumn, hplayer⟩
            simp only [amount?, hcolumn, hplayer, ownPurse?, character_ok hrow, Option.map_some]

def Booked (before : Records) (postings : List Posting) (after : Records) : Prop :=
  ∀ player balance, (after.amount? player balance).map Int64.toInt =
    (before.amount? player balance).map fun value =>
      value.toInt + Posting.total player balance postings

theorem Booked.refl (records : Records) : Booked records [] records := by
  intro player balance
  simp

theorem Booked.trans {first second third : Records} {postings others : List Posting}
    (h : Booked first postings second) (h' : Booked second others third) :
    Booked first (postings ++ others) third := by
  intro player balance
  have hfirst := h player balance
  have hsecond := h' player balance
  cases hstart : first.amount? player balance with
  | none =>
      rw [hstart, Option.map_none, Option.map_eq_none_iff] at hfirst
      rw [hsecond, hfirst]
      rfl
  | some value =>
      rw [hstart, Option.map_some] at hfirst
      obtain ⟨middle, hmiddle, hvalue⟩ := Option.map_eq_some_iff.1 hfirst
      rw [hsecond, hmiddle, Option.map_some, Option.map_some, hvalue, Posting.total_append,
        Int.add_assoc]

theorem booked_zero (records : Records) (player : Player) (balance : Balance) :
    Booked records [{ player, balance, amount := 0 }] records := by
  intro other column
  have hnothing : ({ player, balance, amount := 0 } : Posting).on other column = 0 := by
    unfold Posting.on
    split <;> rfl
  simp [Posting.total_singleton, hnothing]

theorem booked_addCatalog (records : Records) (catalog : Catalog) :
    Booked records [] (records.addCatalog catalog) := by
  intro player balance
  rw [show (records.addCatalog catalog).amount? player balance = records.amount? player balance
    from rfl]
  simp

theorem Booked.amount?_of_some {before after : Records} {postings : List Posting}
    (h : Booked before postings after) {player : Player} {balance : Balance} {value : Int64}
    (hvalue : before.amount? player balance = some value) :
    ∃ now, after.amount? player balance = some now ∧
      now.toInt = value.toInt + Posting.total player balance postings := by
  have hbooked := h player balance
  rw [hvalue, Option.map_some] at hbooked
  exact Option.map_eq_some_iff.1 hbooked

theorem Booked.amount?_of_none {before after : Records} {postings : List Posting}
    (h : Booked before postings after) {player : Player} {balance : Balance}
    (hnone : before.amount? player balance = none) : after.amount? player balance = none := by
  have hbooked := h player balance
  rw [hnone, Option.map_none] at hbooked
  exact Option.map_eq_none_iff.1 hbooked

theorem Frame.amount?_eq {reach : Reach} {before after : Records} (h : Frame reach before after)
    (hout : .balances ∉ reach.tables) (player : Player) (balance : Balance) :
    after.amount? player balance = before.amount? player balance := by
  have haccount := h.account player.account fun hin => absurd hin hout
  have hcharacter := h.ownPurse player.character fun hin => absurd hin hout
  simp only [amount?, haccount, hcharacter]

theorem Frame.booked {reach : Reach} {before after : Records} (h : Frame reach before after)
    (hout : .balances ∉ reach.tables) : Booked before [] after := by
  intro player balance
  rw [h.amount?_eq hout]
  simp

variable {records after : Records} {player : Player} {balance : Balance}

theorem booked_setBalance {old value : Int64}
    (hold : records.amount? player balance = some old)
    (h : records.setBalance player balance value = .ok after) {amount : Int}
    (hvalue : value.toInt = old.toInt + amount) :
    Booked records [{ player, balance, amount }] after := by
  intro other column
  rw [amount?_of_setBalance_ok h, Posting.total_singleton, Posting.on]
  split
  · rename_i hconcerned
    obtain ⟨rfl, howner⟩ := hconcerned
    have hshared : records.amount? other column = some old := by
      rw [← hold, records.amount?_congr howner]
    have hconcerns : ({ player, balance := column, amount } : Posting).Concerns other column :=
      ⟨rfl, howner⟩
    rw [hshared, if_pos hconcerns, Option.map_some, Option.map_some, hvalue]
  · rename_i hother
    have hnot : ¬({ player, balance, amount } : Posting).Concerns other column := hother
    simp [hnot]

theorem perform_balance_ok {value : Int64}
    (h : Action.run (Store.perform (.balance player balance)) records = (.ok value, after)) :
    records.amount? player balance = some value ∧ after = records := by
  rw [run_perform] at h
  simp only [step] at h
  rw [balance_eq] at h
  cases hamount : records.amount? player balance with
  | none => rw [hamount] at h; cases h
  | some found => rw [hamount] at h; cases h; exact ⟨rfl, rfl⟩

theorem adjustBalance_ok {delta sum : Int64}
    (h : Action.run (Store.perform (.adjustBalance player balance delta)) records =
      (.ok sum, after)) :
    Booked records [{ player, balance, amount := delta.toInt }] after ∧
      after.amount? player balance = some sum := by
  rw [run_perform] at h
  simp only [step] at h
  rw [balance_eq] at h
  cases hwrite : records.checkWrite .balances with
  | error fault => rw [hwrite] at h; cases h
  | ok _ =>
      cases hamount : records.amount? player balance with
      | none => rw [hwrite, hamount] at h; cases h
      | some old =>
          rw [hwrite, hamount] at h
          dsimp only at h
          cases hsum : Amount.add? old delta with
          | none => rw [hsum] at h; cases h
          | some found =>
              rw [hsum] at h
              dsimp only at h
              cases hset : records.setBalance player balance found with
              | error fault => rw [hset] at h; cases h
              | ok changed =>
                  rw [hset] at h
                  cases h
                  have hvalue := Amount.ofInt?_eq_some_iff.1 hsum
                  refine ⟨booked_setBalance hamount hset hvalue, ?_⟩
                  rw [amount?_of_setBalance_ok hset, if_pos ⟨rfl, rfl⟩]

def payer? (records : Records) (player : Player) (currency : Currency) (amount : Int) :
    Option Balance :=
  match currency.debitRule with
  | .direct balance => some balance
  | .coins =>
      (records.amount? player .gachaTrial).map fun trial =>
        if amount ≤ trial.toInt then .gachaTrial else .gachaPremium

end Records

namespace Ledger

variable {records after : Records} {player : Player} {balance : Balance}

theorem debitBalance_ok {amount : Int64} {debit : Debit}
    (h : Action.run (debitBalance player balance amount) records = (.ok debit, after)) :
    Records.Booked records [{ player, balance, amount := -amount.toInt }] after ∧
      debit.balance = balance ∧ debit.amount = amount ∧
      after.amount? player balance = some debit.newBalance := by
  unfold debitBalance at h
  cases hdelta : Amount.neg? amount with
  | none => rw [hdelta] at h; cases h
  | some delta =>
      rw [hdelta] at h
      obtain ⟨sum, added, hadd, hanswer⟩ := Action.exists_of_bind_ok h
      obtain ⟨rfl, rfl⟩ := Action.of_pure_ok hanswer
      obtain ⟨hbooked, hsum⟩ := Records.adjustBalance_ok hadd
      have hnegated : delta.toInt = -amount.toInt := Amount.ofInt?_eq_some_iff.1 hdelta
      rw [hnegated] at hbooked
      exact ⟨hbooked, rfl, rfl, hsum⟩

theorem payer_ok {currency : Currency} {amount : Int64}
    (h : Action.run (payer player currency amount) records = (.ok balance, after)) :
    records.payer? player currency amount.toInt = some balance ∧ after = records := by
  unfold payer at h
  unfold Records.payer?
  cases hrule : currency.debitRule with
  | direct direct =>
      rw [hrule] at h
      obtain ⟨rfl, rfl⟩ := Action.of_pure_ok h
      exact ⟨rfl, rfl⟩
  | coins =>
      rw [hrule] at h
      obtain ⟨trial, read, hread, hanswer⟩ := Action.exists_of_bind_ok h
      obtain ⟨htrial, rfl⟩ := Records.perform_balance_ok hread
      obtain ⟨rfl, rfl⟩ := Action.of_pure_ok hanswer
      simp only [htrial, Option.map_some, Int64.le_iff_toInt_le, and_true]

theorem debit_ok {currency : Currency} {amount : Int64} {debit : Debit}
    (h : Action.run (Ledger.debit player currency amount) records = (.ok debit, after)) :
    records.payer? player currency amount.toInt = some debit.balance ∧
      Records.Booked records [{ player, balance := debit.balance, amount := -amount.toInt }]
        after ∧
      after.amount? player debit.balance = some debit.newBalance := by
  obtain ⟨balance, chosen, hpayer, hdebit⟩ := Action.exists_of_bind_ok h
  obtain ⟨hrule, rfl⟩ := payer_ok hpayer
  obtain ⟨hbooked, rfl, -, hstored⟩ := debitBalance_ok hdebit
  exact ⟨hrule, hbooked, hstored⟩

theorem credit_ok {currency : Currency} {amount sum : Int64}
    (h : Action.run (credit player currency amount) records = (.ok sum, after)) :
    Records.Booked records
        [{ player, balance := currency.creditTarget, amount := amount.toInt }] after ∧
      after.amount? player currency.creditTarget = some sum :=
  Records.adjustBalance_ok h

theorem points_ok {points : Points}
    (h : Action.run (Ledger.points player) records = (.ok points, after)) :
    after = records ∧
      records.amount? player .frontierPoints = some points.frontierPoints ∧
      records.amount? player .gachaPremium = some points.premium ∧
      records.amount? player .gachaTrial = some points.trial := by
  obtain ⟨frontier, first, hfrontier, hcoins⟩ := Action.exists_of_bind_ok h
  obtain ⟨hfrontierAmount, rfl⟩ := Records.perform_balance_ok hfrontier
  obtain ⟨premium, second, hpremium, hlast⟩ := Action.exists_of_bind_ok hcoins
  obtain ⟨hpremiumAmount, rfl⟩ := Records.perform_balance_ok hpremium
  obtain ⟨trial, third, htrial, hanswer⟩ := Action.exists_of_bind_ok hlast
  obtain ⟨htrialAmount, rfl⟩ := Records.perform_balance_ok htrial
  obtain ⟨rfl, rfl⟩ := Action.of_pure_ok hanswer
  exact ⟨rfl, hfrontierAmount, hpremiumAmount, htrialAmount⟩

end Ledger

end PrizeDraw
