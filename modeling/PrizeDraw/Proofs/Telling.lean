import PrizeDraw.Proofs.Conversation

namespace PrizeDraw

namespace Answer

variable {α : Type}

def first? (answer : Answer) (decode : Row → Except StoreFault α) :
    Except StoreFault (Option α) :=
  answer.rows.head?.mapM decode

def owned (answer : Answer) (scope : BalanceScope) (owner : UInt32)
    (decode : Row → Except StoreFault α) : Except StoreFault α := do
  match ← answer.first? decode with
  | some value => return value
  | none => throw (.unknownOwner scope.table owner)

end Answer

namespace Command

variable {α : Type}

def statement : Command α → Statement
  | .lockScope character id => .lockScope character id
  | .lockCharacter character => .lockCharacter character
  | .commit => .commit
  | .rollback => .rollback
  | .gacha id => .selectGacha id
  | .gachas => .selectGachas
  | .entries id => .selectEntries id
  | .entryByType id entryType => .selectEntry id entryType
  | .randomPool id => .selectPool id
  | .rewardItems entry => .selectRewards entry
  | .trade id => .selectTrade id
  | .balance player purse => .selectBalance player purse
  | .adjustBalance player purse delta => .addBalance player purse delta
  | .pendingBuffer character => .selectPending character
  | .setPendingBuffer character buffer => .updatePending character buffer
  | .step id character => .selectStep id character
  | .deleteStep id character => .deleteStep id character
  | .insertStep id character next => .insertStep id character next
  | .dealtEntries id character => .selectDealt id character
  | .insertDealt id character entry => .insertDealt id character entry
  | .deleteDealt id character => .deleteDealt id character
  | .addPurchase character item count => .addPurchase character item count
  | .purchaseCount character item => .selectPurchase character item

def decode : Command α → Answer → Except StoreFault α
  | .gacha _, answer => answer.first? Gacha.ofRow
  | .gachas, answer => answer.rows.mapM Gacha.ofRow
  | .entries _, answer => answer.rows.mapM Entry.ofRow
  | .entryByType _ _, answer => answer.first? Entry.ofRow
  | .randomPool _, answer => answer.rows.mapM Entry.ofRow
  | .rewardItems _, answer => answer.rows.mapM RewardItem.ofRow
  | .trade _, answer => answer.first? Trade.ofRow
  | .balance player purse, answer =>
      answer.owned purse.scope (purse.scope.owner player) Row.first
  | .adjustBalance player purse _, answer =>
      answer.owned purse.scope (purse.scope.owner player) Row.first
  | .pendingBuffer character, answer => answer.owned .character character Row.first
  | .setPendingBuffer character _, answer =>
      if answer.affected = 0 then
        .error (.unknownOwner BalanceScope.character.table character)
      else .ok ()
  | .step _ _, answer => do
      let stored : Option Int32 ← answer.first? Row.first
      stored.mapM fun step => Narrow.narrow "step" step.toInt64
  | .dealtEntries _ _, answer => do
      let ids : List Int64 ← answer.rows.mapM Row.first
      ids.mapM (Narrow.narrow "entry_id")
  | .purchaseCount _ _, answer => do
      let stored : Option Int64 ← answer.first? Row.first
      Narrow.narrow "bought" (stored.getD 0)
  | .lockScope _ _, _ | .lockCharacter _, _ | .commit, _ | .rollback, _ => .ok ()
  | .deleteStep _ _, _ | .insertStep _ _ _, _ => .ok ()
  | .insertDealt _ _ _, _ | .deleteDealt _ _, _ | .addPurchase _ _ _, _ => .ok ()

theorem decode_setPendingBuffer (character : CharacterId) (buffer : Option Bytes)
    (answer : Answer) :
    (setPendingBuffer character buffer).decode answer =
      if answer.affected = 0 then .error (.unknownOwner BalanceScope.character.table character)
      else .ok () := rfl

end Command

def Round.answered (statement : Statement) (answer : Answer) : Round where
  statement
  response := .answered answer

namespace Client

variable {δ : Type} [Database δ] {α β : Type}

omit [Database δ] in
theorem decoded_bind (outcome : Except StoreFault α) (f : α → Except StoreFault β) :
    (decoded outcome >>= fun a => decoded (f a) : Action (Client δ) β) =
      decoded (outcome >>= f) := by
  cases outcome <;> rfl

theorem firstRow?_eq (decode : Row → Except StoreFault α) (statement : Statement) :
    (firstRow? decode statement : Action (Client δ) (Option α)) =
      query statement >>= fun answer => decoded (answer.first? decode) := by
  refine bind_congr fun answer => ?_
  unfold Answer.first?
  cases answer.rows with
  | nil => rfl
  | cons row rest => cases hrow : decode row <;> simp [hrow] <;> rfl

theorem firstRow?_bind (decode : Row → Except StoreFault α) (statement : Statement)
    {f : Option α → Action (Client δ) β} {g : Option α → Except StoreFault β}
    (h : ∀ found, f found = decoded (g found)) :
    firstRow? decode statement >>= f =
      query statement >>= fun answer => decoded (answer.first? decode >>= g) := by
  rw [firstRow?_eq, bind_assoc]
  refine bind_congr fun answer => ?_
  rw [← decoded_bind]
  exact bind_congr h

theorem ownedRow_eq (scope : BalanceScope) (owner : UInt32) (decode : Row → Except StoreFault α)
    (statement : Statement) :
    (ownedRow scope owner decode statement : Action (Client δ) α) =
      query statement >>= fun answer => decoded (answer.owned scope owner decode) :=
  firstRow?_bind decode statement fun found => by cases found <;> rfl

theorem perform_eq_query {asked : Command α} (h : asked.endsUnit = false) :
    (perform asked : Action (Client δ) α) =
      query asked.statement >>= fun answer => decoded (asked.decode answer) := by
  cases asked with
  | commit => cases h
  | rollback => cases h
  | gacha id => exact firstRow?_eq _ _
  | entryByType gacha entryType => exact firstRow?_eq _ _
  | trade id => exact firstRow?_eq _ _
  | balance player balance => exact ownedRow_eq _ _ _ _
  | adjustBalance player balance delta => exact ownedRow_eq _ _ _ _
  | pendingBuffer character => exact ownedRow_eq _ _ _ _
  | setPendingBuffer character buffer =>
      refine bind_congr fun answer => ?_
      by_cases hnone : answer.affected = 0
      · rw [if_pos hnone, Command.decode_setPendingBuffer, if_pos hnone]
        rfl
      · rw [if_neg hnone, Command.decode_setPendingBuffer, if_neg hnone]
        rfl
  | step gacha character =>
      refine firstRow?_bind _ _ fun found => ?_
      cases found with
      | none => rfl
      | some step => cases hnarrow : (Narrow.narrow "step" step.toInt64 : Except _ UInt8) <;>
          simp [hnarrow] <;> rfl
  | dealtEntries gacha character =>
      refine (bind_assoc _ _ _).trans (bind_congr fun answer => ?_)
      exact decoded_bind _ _
  | purchaseCount character item => exact firstRow?_bind _ _ fun found => rfl
  | _ => rfl

structure Heard (before : Client δ) (rounds : List Round) (after : Client δ) : Prop where
  talks : before.Talks rounds after
  active : after.link = .active

variable {before middle after : Client δ}

theorem Heard.refl (h : before.link = .active) : before.Heard [] before := ⟨.refl before, h⟩

theorem Heard.trans {first second : List Round} (h : before.Heard first middle)
    (h' : middle.Heard second after) : before.Heard (first ++ second) after :=
  ⟨h.talks.trans h'.talks, h'.active⟩

theorem heard_perform (asked : Command α) (hends : asked.endsUnit = false)
    (hactive : before.link = .active) {a : α}
    (h : Action.run (perform asked) before = (.ok a, after)) :
    ∃ answer, before.Heard [.answered asked.statement answer] after ∧
      asked.decode answer = .ok a := by
  rw [perform_eq_query hends] at h
  obtain ⟨answer, told, hquery, hdecoded⟩ := Action.exists_of_bind_ok h
  rw [run_decoded, Prod.mk.injEq] at hdecoded
  obtain ⟨hdecode, rfl⟩ := hdecoded
  rw [run_query hactive, Prod.mk.injEq] at hquery
  obtain ⟨hreply, rfl⟩ := hquery
  refine ⟨answer, ?_, ?_⟩
  · have hexchanged := exchanged_exchange asked.statement before
    generalize exchange asked.statement before = exchanged at hexchanged hreply
    cases hexchanged with
    | answered answer told talks link =>
        cases hreply
        exact ⟨talks, link.trans hactive⟩
    | failed message told talks link => cases hreply
    | cut told talks link => cases hreply
  · cases hread : asked.decode answer with
    | ok value => rw [hread] at hdecode; cases hdecode; rfl
    | error fault => rw [hread] at hdecode; cases hdecode

theorem heard_lock {player : Player} {gacha : GachaId} (hactive : before.link = .active)
    (h : Action.run (Play.lock player gacha) before = (.ok (), after)) :
    ∃ first second, before.Heard [.answered (.lockScope player.character gacha) first,
      .answered (.lockCharacter player.character) second] after := by
  obtain ⟨_, held, hscope, hcharacter⟩ := Action.exists_of_bind_ok h
  obtain ⟨first, hheld, -⟩ := heard_perform _ rfl hactive hscope
  obtain ⟨second, hlocked, -⟩ := heard_perform _ rfl hheld.active hcharacter
  exact ⟨first, second, hheld.trans hlocked⟩

end Client

def Told {α : Type} (rounds : List Round) (asked : Command α) (a : α) : Prop :=
  ∃ front answer back, rounds = front ++ .answered asked.statement answer :: back ∧
    asked.statement ∉ front.map Round.statement ∧ asked.decode answer = .ok a

namespace Told

variable {α : Type} {rounds : List Round} {asked : Command α} {a : α}

theorem now {answer : Answer} (h : asked.decode answer = .ok a) (back : List Round) :
    Told (.answered asked.statement answer :: back) asked a :=
  ⟨[], answer, back, rfl, List.not_mem_nil, h⟩

theorem append (h : Told rounds asked a) (more : List Round) : Told (rounds ++ more) asked a := by
  obtain ⟨front, answer, back, rfl, hfront, hdecode⟩ := h
  exact ⟨front, answer, back ++ more, by simp, hfront, hdecode⟩

theorem after {first : List Round} (hfirst : asked.statement ∉ first.map Round.statement)
    (h : Told rounds asked a) : Told (first ++ rounds) asked a := by
  obtain ⟨front, answer, back, rfl, hfront, hdecode⟩ := h
  refine ⟨first ++ front, answer, back, by simp, ?_, hdecode⟩
  rw [List.map_append, List.mem_append]
  exact fun hmem => hmem.elim hfirst hfront

end Told

structure Canned where
  replies : List Response

instance : Database Canned where
  accepts _ := true
  answer _ canned :=
    match canned.replies with
    | [] => (.cut, canned)
    | reply :: rest => (reply, { replies := rest })

namespace Sample

def gachaRow (gacha : Gacha) : Row :=
  Statement.gachaColumns.zip (Statement.upsertGacha gacha 0 0).arguments

def entryRow (entry : Entry) : Row :=
  Statement.entryColumns.zip (Statement.upsertEntry entry).arguments

def rewardRow (item : RewardItem) : Row :=
  Statement.rewardColumns.zip ((Statement.insertReward 0 item).arguments.drop 1)

def boxReplies : List Response :=
  [[], [], [],
    [gachaRow { id := 1, name := "chest" }],
    [entryRow
      { id := 1, gacha := 1, entryType := 0, itemType := 19, itemNumber := 10, rolls := 1 }],
    [[("gacha_trial", .int8 3)]],
    [[("gacha_premium", .int8 90)]],
    [[("entry_id", .int8 2)]],
    [entryRow { id := 2, gacha := 1, entryType := 100 },
      entryRow { id := 3, gacha := 1, entryType := 100 }],
    [],
    [rewardRow ⟨7, 1, 1⟩],
    [[("gacha_items", .bytea [1, 7, 0, 5, 0, 5])]],
    [], []].map fun rows => .answered { rows, affected := 1 }

def served (replies : List Response) : Machine (Client Canned) where
  store := { database := { replies } }
  generator := { stream := fun _ => 0 }

end Sample

end PrizeDraw
