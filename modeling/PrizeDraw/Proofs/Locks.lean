import PrizeDraw.Proofs.Commits
import PrizeDraw.Proofs.Telling

namespace PrizeDraw

open scoped List

namespace Statement

def updatesAccount : Statement → Bool
  | .addBalance _ balance _ | .setBalance _ balance _ => balance.scope == .account
  | _ => false

def lockedCharacter? : Statement → Option CharacterId
  | .lockCharacter character | .selectPending character => some character
  | _ => none

def touchedCharacter? : Statement → Option CharacterId
  | .lockCharacter character | .selectPending character => some character
  | .updatePending character _ => some character
  | .addBalance player balance _ | .setBalance player balance _ =>
      if balance.scope = .character then some player.character else none
  | _ => none

theorem touchedCharacter?_of_isControl {statement : Statement} (h : statement.isControl = true) :
    statement.touchedCharacter? = none := by
  cases statement with
  | start => rfl
  | commit => rfl
  | rollback => rfl
  | _ => cases h

theorem updatesAccount_of_isControl {statement : Statement} (h : statement.isControl = true) :
    statement.updatesAccount = false := by
  cases statement with
  | start => rfl
  | commit => rfl
  | rollback => rfl
  | _ => cases h

theorem toNat_scopeKey (character : CharacterId) (gacha : GachaId) :
    (scopeKey character gacha).toUInt64.toNat = character.toNat * 4294967296 + gacha.toNat := by
  have hlow : gacha.toNat < 2 ^ 32 := gacha.toNat_lt
  have hhigh := character.toNat_lt
  have hshift : character.toNat <<< 32 % 2 ^ 64 = character.toNat <<< 32 := by
    rw [Nat.shiftLeft_eq]
    exact Nat.mod_eq_of_lt (by omega)
  rw [scopeKey, UInt64.toUInt64_toInt64, UInt64.toNat_or, UInt64.toNat_shiftLeft,
    UInt32.toNat_toUInt64, UInt32.toNat_toUInt64]
  change character.toNat <<< 32 % 2 ^ 64 ||| gacha.toNat = _
  rw [hshift, ← Nat.shiftLeft_add_eq_or_of_lt hlow, Nat.shiftLeft_eq]

theorem scopeKey_inj {character other : CharacterId} {gacha another : GachaId}
    (h : scopeKey character gacha = scopeKey other another) :
    character = other ∧ gacha = another := by
  have hkey := toNat_scopeKey character gacha
  rw [h, toNat_scopeKey] at hkey
  have hgacha := gacha.toNat_lt
  have hanother := another.toNat_lt
  exact ⟨UInt32.toNat_inj.1 (by omega), UInt32.toNat_inj.1 (by omega)⟩

end Statement

/-- A character's row that is locked or updated after an account's was updated had been locked
before that. -/
def RowsInOrder (rounds : List Round) : Prop :=
  ∀ front update middle touch back character,
    rounds = front ++ update :: (middle ++ touch :: back) →
    update.statement.updatesAccount = true →
    touch.statement.touchedCharacter? = some character →
    ∃ statement answer, Round.answered statement answer ∈ front ∧
      statement.lockedCharacter? = some character

def LocksFirst (character : CharacterId) (gacha : GachaId) (rounds : List Round) : Prop :=
  ∃ response locks rest, rounds = { statement := .start, response } :: (locks ++ rest) ∧
    locks.map Round.statement <+: [.lockScope character gacha, .lockCharacter character] ∧
    (Client.GivenUp rest ∨ ∃ first second,
      locks = [.answered (.lockScope character gacha) first,
        .answered (.lockCharacter character) second])

section RowsInOrder

variable {rounds : List Round} {character : CharacterId} {gacha : GachaId}

theorem RowsInOrder.of_no_update
    (h : ∀ round ∈ rounds, round.statement.updatesAccount = false) : RowsInOrder rounds := by
  rintro front update middle touch back character rfl hupdate
  rw [h update (by simp)] at hupdate
  cases hupdate

theorem RowsInOrder.of_no_touch
    (h : ∀ round ∈ rounds, round.statement.touchedCharacter? = none) : RowsInOrder rounds := by
  rintro front update middle touch back character rfl - htouch
  rw [h touch (by simp)] at htouch
  cases htouch

theorem LocksFirst.rowsInOrder (h : LocksFirst character gacha rounds)
    (hown : ∀ round ∈ rounds, ∀ touched,
      round.statement.touchedCharacter? = some touched → touched = character) :
    RowsInOrder rounds := by
  obtain ⟨response, locks, rest, rfl, hlocks, hback | ⟨first, second, rfl⟩⟩ := h
  · refine RowsInOrder.of_no_update fun round hround => ?_
    obtain rfl | hmem := List.mem_cons.1 hround
    · rfl
    obtain hlock | hrest := List.mem_append.1 hmem
    · have hstatement := hlocks.subset (List.mem_map_of_mem hlock)
      simp only [List.mem_cons, List.not_mem_nil, or_false] at hstatement
      obtain heq | heq := hstatement <;> rw [heq] <;> rfl
    · cases hback with
      | silent => cases hrest
      | rollback response => rw [List.mem_singleton.1 hrest]; rfl
  · intro front update middle touch back touched hsplit hupdate htouch
    obtain rfl := hown touch (by rw [hsplit]; simp) touched htouch
    -- None of the first three rounds is the update, so the lock on the character is in front of it.
    match front, hsplit with
    | [], hsplit => cases (List.cons.inj hsplit).1; cases hupdate
    | [_], hsplit => cases (List.cons.inj (List.cons.inj hsplit).2).1; cases hupdate
    | [_, _], hsplit =>
        cases (List.cons.inj (List.cons.inj (List.cons.inj hsplit).2).2).1
        cases hupdate
    | _ :: _ :: held :: front, hsplit =>
        have hheld := (List.cons.inj (List.cons.inj (List.cons.inj hsplit).2).2).1
        exact ⟨.lockCharacter touched, second, by rw [← hheld]; simp, rfl⟩

end RowsInOrder

namespace Client

variable {δ : Type} [Database δ] {α β : Type} {before middle after : Client δ}

theorem Talks.statements_eq {rounds : List Round} (h : before.Talks rounds after)
    {sent : List Statement} (hsent : after.trace = before.trace ++ sent) :
    rounds.map Round.statement = sent :=
  List.append_cancel_left (h.1.symm.trans hsent)

theorem Talks.of_prefix {first rounds : List Round} (h : before.Talks first middle)
    (hall : before.Talks rounds after) {sent : List Statement}
    (hsent : after.trace = middle.trace ++ sent) : ∃ more, rounds = first ++ more := by
  have hstatements := hall.statements_eq (hsent.trans
    ((congrArg (· ++ sent) h.1).trans (List.append_assoc _ _ _)))
  have hconverse := hall.2
  rw [hstatements, Database.converse_append, h.2, Prod.mk.injEq] at hconverse
  exact ⟨_, hconverse.1.symm⟩

def Sends (x : Action (Client δ) α) (script : List Statement) : Prop :=
  ∀ client, ∃ sent, (Action.run x client).2.trace = client.trace ++ sent ∧ sent <+: script ∧
    ((Action.run x client).1.isOk = true → sent = script)

omit [Database δ] in
theorem sends_bind {x : Action (Client δ) α} {f : α → Action (Client δ) β}
    {script rest : List Statement} (hx : Sends x script) (hf : ∀ a, Sends (f a) rest) :
    Sends (x >>= f) (script ++ rest) := by
  intro client
  obtain ⟨first, htrace, hpart, hdone⟩ := hx client
  cases hrun : Action.run x client with
  | mk outcome next =>
      rw [hrun] at htrace hdone
      cases outcome with
      | error halt =>
          rw [Action.run_bind_of_error hrun]
          exact ⟨first, htrace, hpart.trans (List.prefix_append _ _), fun h => by cases h⟩
      | ok a =>
          obtain rfl := hdone rfl
          obtain ⟨second, hmore, hsecond, hall⟩ := hf a next
          rw [Action.run_bind_of_ok hrun, hmore, htrace, List.append_assoc]
          exact ⟨first ++ second, rfl, (List.prefix_append_right_inj first).2 hsecond,
            fun h => by rw [hall h]⟩

theorem sends_perform {asked : Command α} (h : asked.endsUnit = false) :
    Sends (perform (δ := δ) asked) [asked.statement] := by
  rw [perform_eq_query h, ← List.append_nil [asked.statement]]
  refine sends_bind (fun client => ?_) fun answer client => ⟨[], ?_, List.nil_prefix, fun _ => rfl⟩
  · rw [query, run_lift]
    have hexchanged := exchanged_exchange asked.statement client
    unfold within
    cases client.link with
    | idle => exact ⟨[], by simp, List.nil_prefix, fun h => by cases h⟩
    | lost => exact ⟨[], by simp, List.nil_prefix, fun h => by cases h⟩
    | active =>
        dsimp only
        generalize exchange asked.statement client = exchanged at hexchanged ⊢
        cases hexchanged with
        | answered answer after talks link => exact ⟨_, talks.1, List.prefix_rfl, fun _ => rfl⟩
        | failed message after talks link => exact ⟨_, talks.1, List.prefix_rfl, fun _ => rfl⟩
        | cut after talks link => exact ⟨_, talks.1, List.prefix_rfl, fun _ => rfl⟩
  · rw [run_decoded, List.append_nil]

theorem sends_lock (player : Player) (gacha : GachaId) :
    Sends (Play.lock (σ := Client δ) player gacha)
      [.lockScope player.character gacha, .lockCharacter player.character] :=
  sends_bind (sends_perform rfl) fun _ => sends_perform rfl

inductive Transcript (body : Action (Machine (Client δ)) α) : List Round → Prop where
  | unopened (response : Response) : Transcript body [{ statement := .start, response }]
  | opened {answer : Answer} {said ending : List Round} (opened : Machine (Client δ))
      (active : opened.store.link = .active)
      (said_talks : opened.store.Talks said (Action.run body opened).2.store)
      (ending_control : ∀ round ∈ ending, round.statement.isControl = true)
      (failed : (Action.run body opened).1.isOk = false → GivenUp ending) :
      Transcript body (.answered .start answer :: (said ++ ending))

theorem talks_opened {body : Action (Machine (Client δ)) α} (hbody : Steady Machine.store body)
    {opened : Machine (Client δ)} (hactive : opened.store.link = .active) :
    ∃ said ending, opened.store.Talks said (Action.run body opened).2.store ∧
      opened.store.Talks (said ++ ending) (Action.run (body >>= fun a =>
        Machine.onStore (Store.perform .commit) >>= fun _ => pure a) opened).2.store.abandon ∧
      (∀ round ∈ ending, round.statement.isControl = true) ∧
      ((Action.run body opened).1.isOk = false → GivenUp ending) := by
  obtain ⟨work, last, hworks⟩ := hbody opened hactive
  have htalks : opened.store.Talks (work ++ last) (Action.run body opened).2.store := hworks.talks
  have hdone : (Action.run body opened).1.isOk = true →
      last = [] ∧ (Action.run body opened).2.store.link = .active := hworks.done
  cases hrun : Action.run body opened with
  | mk outcome worked =>
      rw [hrun] at htalks hdone
      cases outcome with
      | error halt =>
          rw [Action.run_bind_of_error hrun]
          obtain ⟨back, hback, hgiven⟩ := talks_abandon worked.store
          exact ⟨_, back, htalks, htalks.trans hgiven, hback.isControl, fun _ => hback⟩
      | ok a =>
          rw [Action.run_bind_of_ok hrun]
          obtain ⟨-, hstill⟩ := hdone rfl
          obtain ⟨reply, back, hclosing, hcommit, -⟩ := talks_commit hstill
          rw [(isOk_commit a worked).2]
          refine ⟨_, _, htalks, htalks.trans hcommit, fun round hround => ?_, fun h => by cases h⟩
          obtain rfl | hmem := List.mem_cons.1 hround
          · rfl
          · exact hclosing.givenUp.isControl round hmem

theorem talks_transaction {body : Action (Machine (Client δ)) α}
    (hbody : Steady Machine.store body) {machine : Machine (Client δ)}
    (hidle : machine.store.link = .idle) :
    ∃ rounds, machine.store.Talks rounds
        (Action.run (Machine.transaction body) machine).2.store ∧ Transcript body rounds := by
  rw [Machine.run_transaction]
  have hopening := opened_openTransaction hidle
  have hstart : Action.run (Machine.onStore Store.start) machine =
      ((openTransaction machine.store).1.mapError fun fault => .refused (.store fault),
        { machine with store := (openTransaction machine.store).2 }) := rfl
  generalize openTransaction machine.store = opening at hopening hstart
  cases hopening with
  | unopened fault response after talks link =>
      rw [Action.run_bind_of_error hstart]
      refine ⟨_, ?_, .unopened response⟩
      change machine.store.Talks _ after.abandon
      rwa [abandon_of_idle link]
  | opened answer after talks link =>
      rw [Action.run_bind_of_ok hstart]
      have hactive : ({ machine with store := after } : Machine (Client δ)).store.link = .active :=
        link
      obtain ⟨said, ending, hsaid, hall, hcontrol, hfailed⟩ := talks_opened hbody hactive
      exact ⟨.answered .start answer :: (said ++ ending), talks.trans hall,
        .opened _ hactive hsaid hcontrol hfailed⟩

theorem sent_of_spoken {allowed : ∀ β : Type, Query β → Prop} {P : Statement → Prop}
    (hallowed : ∀ β (asked : Command β), allowed β (.command asked) →
      asked.endsUnit = false ∧ P asked.statement)
    {body : ∀ (σ : Type) [Store σ], Action (Machine σ) α} (h : Spoken allowed body)
    (machine : Machine (Client δ)) :
    ∃ sent, (Action.run (body (Client δ)) machine).2.store.trace = machine.store.trace ++ sent ∧
      ∀ statement ∈ sent, P statement := by
  let Sent (client : Client δ) : Prop := ∃ sent, client.trace = machine.store.trace ++ sent ∧
    ∀ statement ∈ sent, P statement
  refine h.keeps_store (P := Sent) ?_ ⟨[], (List.append_nil _).symm, by simp⟩
  rintro β asked hasked client ⟨sent, htrace, hsent⟩
  obtain ⟨hends, hstatement⟩ := hallowed β asked hasked
  obtain ⟨more, hmore, hpart, -⟩ := sends_perform hends client
  refine ⟨sent ++ more, hmore.trans (by rw [htrace, List.append_assoc]), fun statement hmem => ?_⟩
  obtain hmem | hmem := List.mem_append.1 hmem
  · exact hsent statement hmem
  · rw [List.mem_singleton.1 (hpart.subset hmem)]
    exact hstatement

theorem Transcript.all {body : Action (Machine (Client δ)) α} {rounds : List Round}
    {P : Statement → Prop} (h : Transcript body rounds)
    (hcontrol : ∀ statement : Statement, statement.isControl = true → P statement)
    (hbody : ∀ machine, ∃ sent,
      (Action.run body machine).2.store.trace = machine.store.trace ++ sent ∧
        ∀ statement ∈ sent, P statement) :
    ∀ round ∈ rounds, P round.statement := by
  intro round hround
  cases h with
  | unopened response =>
      rw [List.mem_singleton.1 hround]
      exact hcontrol _ rfl
  | opened opened active said_talks ending_control failed =>
      obtain rfl | hmem := List.mem_cons.1 hround
      · exact hcontrol _ rfl
      obtain hsaid | hending := List.mem_append.1 hmem
      · obtain ⟨sent, htrace, hsent⟩ := hbody opened
        rw [← said_talks.statements_eq htrace] at hsent
        exact hsent _ (List.mem_map_of_mem hsaid)
      · exact hcontrol _ (ending_control round hending)

theorem Transcript.locksFirst {rest : Action (Machine (Client δ)) α} {rounds : List Round}
    {player : Player} {gacha : GachaId}
    (h : Transcript (Machine.onStore (Play.lock player gacha) >>= fun _ => rest) rounds)
    (hrest : ∀ machine, ∃ sent,
      (Action.run rest machine).2.store.trace = machine.store.trace ++ sent) :
    LocksFirst player.character gacha rounds := by
  cases h with
  | unopened response => exact ⟨_, [], [], rfl, List.nil_prefix, .inl .silent⟩
  | @opened answer said ending opened active said_talks ending_control failed =>
      refine ⟨.answered answer, ?_⟩
      obtain ⟨sent, htrace, hpart, -⟩ := sends_lock player gacha opened.store
      cases hlock : Action.run (Play.lock player gacha) opened.store with
      | mk outcome locked =>
          rw [hlock] at htrace
          have hrun : Action.run (Machine.onStore (Play.lock player gacha)) opened =
              (outcome, { opened with store := locked }) := by
            rw [Machine.run_onStore, hlock]
          cases outcome with
          | error halt =>
              rw [Action.run_bind_of_error hrun] at said_talks failed
              refine ⟨said, ending, rfl, ?_, .inl (failed rfl)⟩
              rwa [said_talks.statements_eq htrace]
          | ok _ =>
              rw [Action.run_bind_of_ok hrun] at said_talks
              obtain ⟨first, second, hheld⟩ := heard_lock active hlock
              obtain ⟨others, hothers⟩ := hrest { opened with store := locked }
              obtain ⟨more, rfl⟩ := hheld.talks.of_prefix said_talks hothers
              exact ⟨_, more ++ ending, by rw [List.append_assoc]; rfl, List.prefix_rfl,
                .inr ⟨first, second, rfl⟩⟩

end Client

namespace Reach

variable {reach : Reach} {β : Type} {asked : Command β}

theorem touches_own (h : reach.AllowsCommand asked) {character : CharacterId}
    (htouch : asked.statement.touchedCharacter? = some character) :
    character = reach.player.character := by
  cases asked with
  | lockCharacter locked => cases htouch; exact h
  | pendingBuffer locked => cases htouch; exact h
  | setPendingBuffer updated buffer => cases htouch; exact h.2
  | adjustBalance player balance delta =>
      simp only [Command.statement, Statement.touchedCharacter?] at htouch
      split at htouch
      · cases htouch
        rw [h.2]
      · cases htouch
  | _ => cases htouch

theorem updatesAccount_of_allows (hbalances : .balances ∉ reach.tables)
    (h : reach.AllowsCommand asked) : asked.statement.updatesAccount = false := by
  cases asked with
  | adjustBalance player balance delta => exact (hbalances h.1).elim
  | _ => rfl

end Reach

def Untouching : (β : Type) → Query β → Prop
  | _, .command asked => asked.endsUnit = false ∧ asked.statement.touchedCharacter? = none
  | _, _ => True

namespace Operation

variable {α : Type} {operation : Operation α} {player : Player} {gacha : GachaId}

theorem untouching_body (hscope : operation.scope? = none)
    (hbalances : .balances ∈ operation.reach.tables) :
    Spoken Untouching fun σ _ => operation.body (σ := σ) := by
  cases operation with
  | usePoints player trial premium =>
      refine Spoken.bind (Spoken.debitBalance _ _ fun _ => ⟨rfl, rfl⟩) fun _ => ?_
      refine Spoken.bind (Spoken.debitBalance _ _ fun _ => ⟨rfl, rfl⟩) fun _ => ?_
      exact Spoken.points fun _ => ⟨rfl, rfl⟩
  | buy player trade lots => exact Spoken.buy trade lots ⟨rfl, rfl⟩ fun _ => ⟨rfl, rfl⟩
  | sell player trade units => exact Spoken.sell trade units ⟨rfl, rfl⟩ fun _ => ⟨rfl, rfl⟩
  | playNormal player gacha selector => cases hscope
  | playStepup player gacha step => cases hscope
  | playBox player gacha selector => cases hscope
  | receive player freeze => cases freeze <;> simp [reach] at hbalances
  | _ => simp [reach] at hbalances

variable {δ : Type} [Database δ] {rounds : List Round}

theorem locksFirst (h : operation.scope? = some (player, gacha))
    (hrounds : Client.Transcript (operation.body (σ := Client δ)) rounds) :
    LocksFirst player.character gacha rounds := by
  obtain ⟨rfl, rest, hrest, hbody⟩ := holds h
  have hlocked : operation.body (σ := Client δ) = _ := hbody (Client δ)
  rw [hlocked] at hrounds
  refine hrounds.locksFirst fun machine => ?_
  obtain ⟨sent, hsent, -⟩ := Client.sent_of_spoken (P := fun _ => True)
    (fun β asked hasked => ⟨Reach.endsUnit_of_allows hasked, trivial⟩) hrest machine
  exact ⟨sent, hsent⟩

theorem rowsInOrder (operation : Operation α)
    (hrounds : Client.Transcript (operation.body (σ := Client δ)) rounds) :
    RowsInOrder rounds := by
  cases hscope : operation.scope? with
  | some pair =>
      obtain ⟨player, gacha⟩ := pair
      -- The one character whose row is touched is held from the beginning.
      let Own (statement : Statement) : Prop :=
        ∀ touched, statement.touchedCharacter? = some touched → touched = player.character
      have hcontrol (statement : Statement) (h : statement.isControl = true) : Own statement := by
        intro touched htouch
        rw [Statement.touchedCharacter?_of_isControl h] at htouch
        cases htouch
      have hown := hrounds.all hcontrol (Client.sent_of_spoken (fun β asked hasked =>
        ⟨Reach.endsUnit_of_allows hasked, fun touched htouch =>
          (holds hscope).1 ▸ Reach.touches_own hasked htouch⟩) operation.spoken_body)
      exact (locksFirst hscope hrounds).rowsInOrder hown
  | none =>
      by_cases hbalances : .balances ∈ operation.reach.tables
      · refine RowsInOrder.of_no_touch (hrounds.all
          (fun _ => Statement.touchedCharacter?_of_isControl)
          (Client.sent_of_spoken (fun β asked hasked => hasked)
            (untouching_body hscope hbalances)))
      · refine RowsInOrder.of_no_update (hrounds.all
          (fun _ => Statement.updatesAccount_of_isControl)
          (Client.sent_of_spoken (fun β asked hasked => ⟨Reach.endsUnit_of_allows hasked,
            Reach.updatesAccount_of_allows hbalances hasked⟩) operation.spoken_body))

theorem locks_in_order (operation : Operation α) (machine : Machine (Client δ))
    (hidle : machine.store.link = .idle) :
    ∃ rounds, machine.store.Talks rounds (Action.run operation.perform machine).2.store ∧
      RowsInOrder rounds ∧
      (∀ player gacha, operation.scope? = some (player, gacha) →
        LocksFirst player.character gacha rounds) ∧
      ∀ character other gacha another,
        Statement.scopeKey character gacha = Statement.scopeKey other another →
          character = other ∧ gacha = another := by
  rw [operation.perform_eq]
  obtain ⟨rounds, htalks, hrounds⟩ :=
    Client.talks_transaction (Client.steady_body operation) hidle
  exact ⟨rounds, htalks, operation.rowsInOrder hrounds,
    fun player gacha hscope => locksFirst hscope hrounds,
    fun _ _ _ _ hkey => Statement.scopeKey_inj hkey⟩

theorem locks_in_order_box :
    (Sample.served Sample.boxReplies).store.link = .idle ∧
      ∃ rounds next, Action.run (playBox Sample.player 1 0).perform
          (Sample.served Sample.boxReplies) = next ∧
        (next.2.store.trace.filter fun statement =>
            statement.updatesAccount || statement.touchedCharacter?.isSome) =
          [.lockCharacter 1, .addBalance Sample.player .gachaPremium (-10), .selectPending 1,
            .updatePending 1 (some [2, 7, 0, 1, 0, 1, 7, 0, 5, 0, 5])] ∧
        (Sample.served Sample.boxReplies).store.Talks rounds next.2.store ∧
        RowsInOrder rounds ∧ LocksFirst 1 1 rounds := by
  have htrace : ((Action.run (playBox Sample.player 1 0).perform
      (Sample.served Sample.boxReplies)).2.store.trace.filter fun statement =>
        statement.updatesAccount || statement.touchedCharacter?.isSome) =
      [.lockCharacter 1, .addBalance Sample.player .gachaPremium (-10), .selectPending 1,
        .updatePending 1 (some [2, 7, 0, 1, 0, 1, 7, 0, 5, 0, 5])] := by
    decide +kernel
  obtain ⟨rounds, htalks, horder, hlocks, -⟩ := locks_in_order (playBox Sample.player 1 0)
    (Sample.served Sample.boxReplies) rfl
  exact ⟨rfl, rounds, _, rfl, htrace, htalks, horder, hlocks Sample.player 1 rfl⟩

end Operation

end PrizeDraw
