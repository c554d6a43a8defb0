import Mathlib.Data.List.Basic
import PrizeDraw.Database.Script
import PrizeDraw.Proofs.Conversation
import PrizeDraw.Proofs.Staging

namespace PrizeDraw

namespace Client

variable {δ : Type} [Database δ] {before opened worked after : Client δ}
  {rounds work last back : List Round}

inductive GivenUp : List Round → Prop where
  | silent : GivenUp []
  | rollback (response : Response) : GivenUp [{ statement := .rollback, response }]

inductive Closing : Response → List Round → Prop where
  | answered (answer : Answer) : Closing (.answered answer) []
  | failed (message : String) (response : Response) :
      Closing (.failed message) [{ statement := .rollback, response }]
  | cut : Closing .cut []

theorem Closing.givenUp {reply : Response} (h : Closing reply back) : GivenUp back := by
  cases h with
  | answered answer => exact .silent
  | failed message response => exact .rollback response
  | cut => exact .silent

theorem GivenUp.isControl (h : GivenUp back) :
    ∀ round ∈ back, round.statement.isControl = true := by
  cases h <;> simp [Statement.isControl]

theorem GivenUp.ne_commit (h : GivenUp back) : ∀ round ∈ back, round.statement ≠ .commit := by
  cases h <;> simp

/-- Nothing but a rollback is said after a reply that is no answer or cannot be read. -/
def Silent (rounds : List Round) : Prop :=
  ∀ front round back, rounds = front ++ round :: back → round.settled = false → GivenUp back

theorem silent_cons {round : Round} (hrounds : Silent rounds)
    (h : round.settled = true ∨ GivenUp rounds) : Silent (round :: rounds) := by
  intro front unsettled back hsplit hunsettled
  cases front with
  | nil =>
      obtain ⟨rfl, rfl⟩ := List.cons.inj hsplit
      obtain hsettled | hback := h
      · rw [hsettled] at hunsettled
        cases hunsettled
      · exact hback
  | cons first front => exact hrounds front unsettled back (List.cons.inj hsplit).2 hunsettled

theorem silent_nil : Silent [] := by
  intro front round back hsplit
  simp at hsplit

theorem GivenUp.silent_rounds (h : GivenUp back) : Silent back := by
  cases h with
  | silent => exact silent_nil
  | rollback response => exact silent_cons silent_nil (.inr .silent)

theorem silent_append (hwork : ∀ round ∈ work, round.settled = true) (hback : Silent back) :
    Silent (work ++ back) := by
  induction work with
  | nil => exact hback
  | cons round rest ih =>
      exact silent_cons (ih fun other h => hwork other (List.mem_cons_of_mem _ h))
        (.inl (hwork round List.mem_cons_self))

theorem silent_last (hlast : last.length ≤ 1) (hback : GivenUp back) : Silent (last ++ back) := by
  cases last with
  | nil => exact hback.silent_rounds
  | cons round rest =>
      obtain rfl : rest = [] := by simpa using hlast
      exact silent_cons hback.silent_rounds (.inr hback)

def Begun (rounds : List Round) : Prop :=
  ∃ answer work, rounds = { statement := .start, response := .answered answer } :: work ∧
    ∀ round ∈ work, round.statement.isControl = false

theorem Begun.ne_commit (h : Begun rounds) : ∀ round ∈ rounds, round.statement ≠ .commit := by
  obtain ⟨answer, work, rfl, hplain⟩ := h
  intro round hround hcommit
  obtain rfl | hwork := List.mem_cons.1 hround
  · cases hcommit
  · have hcontrol := hplain round hwork
    rw [hcommit] at hcontrol
    cases hcontrol

theorem count_commit (h : ∀ round ∈ rounds, round.statement ≠ .commit) :
    (rounds.map Round.statement).count .commit = 0 := by
  refine List.count_eq_zero_of_not_mem fun hmem => ?_
  obtain ⟨round, hround, hcommit⟩ := List.mem_map.1 hmem
  exact h round hround hcommit

structure Disciplined (before : Client δ) (done : Bool) (worked : Client δ) (success : Bool)
    (after : Client δ) (rounds : List Round) : Prop where
  talks : before.Talks rounds after
  idle : after.link = .idle
  commit_once : (rounds.map Round.statement).count .commit ≤ 1
  commit_iff : (∃ round ∈ rounds, round.statement = .commit) ↔ done = true
  commit_split : ∀ front reply back,
    rounds = front ++ { statement := .commit, response := reply } :: back →
      Begun front ∧ (∀ round ∈ front, round.settled = true) ∧ Closing reply back
  success_iff : success = true ↔
    ∃ answer, { statement := .commit, response := .answered answer } ∈ rounds
  silent : Silent rounds
  stopped : done = false →
    ∃ front back, rounds = front ++ back ∧ before.Talks front worked ∧ GivenUp back

theorem Disciplined.of_uncommitted (talks : before.Talks rounds after) (idle : after.link = .idle)
    (hplain : ∀ round ∈ rounds, round.statement ≠ .commit) (silent : Silent rounds)
    (stopped : ∃ front back, rounds = front ++ back ∧ before.Talks front worked ∧ GivenUp back) :
    Disciplined before false worked false after rounds where
  talks := talks
  idle := idle
  commit_once := by
    rw [count_commit hplain]
    exact Nat.zero_le 1
  commit_iff := by
    refine iff_of_false ?_ Bool.false_ne_true
    rintro ⟨round, hround, hcommit⟩
    exact hplain round hround hcommit
  commit_split := by
    rintro front reply back rfl
    exact absurd rfl (hplain { statement := .commit, response := reply } (by simp))
  success_iff := by
    refine iff_of_false Bool.false_ne_true ?_
    rintro ⟨answer, hcommit⟩
    exact hplain _ hcommit rfl
  silent := silent
  stopped _ := stopped

theorem Disciplined.unopened {response : Response}
    (talks : before.Talks [{ statement := .start, response }] after) (idle : after.link = .idle) :
    Disciplined before false after false after [{ statement := .start, response }] :=
  .of_uncommitted talks idle (by simp) (silent_cons silent_nil (.inr .silent))
    ⟨_, [], (List.append_nil _).symm, talks, .silent⟩

theorem Disciplined.failed {answer : Answer}
    (hopened : before.Talks [{ statement := .start, response := .answered answer }] opened)
    (hworks : Works opened false worked work last) (hback : GivenUp back)
    (htalks : worked.Talks back after) (idle : after.link = .idle) :
    ∃ rounds, Disciplined before false worked false after rounds := by
  have hworked := hopened.trans hworks.talks
  refine ⟨_, .of_uncommitted (hworked.trans htalks) idle ?_ ?_ ⟨_, _, rfl, hworked, hback⟩⟩
  · intro round hround
    simp only [List.mem_append, List.mem_singleton] at hround
    obtain (rfl | hwork) | hgiven := hround
    · simp
    · intro hcommit
      have hcontrol := hworks.plain round (List.mem_append.2 hwork)
      rw [hcommit] at hcontrol
      cases hcontrol
    · exact hback.ne_commit round hgiven
  · rw [List.append_assoc, List.append_assoc]
    exact silent_append (by simp [Round.settled_start])
      (silent_append hworks.settled (silent_last hworks.length_last hback))

theorem Disciplined.of_committed {begun : List Round} {reply : Response} {success : Bool}
    (hbegun : Begun begun) (hsettled : ∀ round ∈ begun, round.settled = true)
    (hworked : before.Talks begun worked) (hclosing : Closing reply back)
    (htalks : worked.Talks ({ statement := .commit, response := reply } :: back) after)
    (idle : after.link = .idle)
    (hsuccess : success = true ↔ ∃ answer, reply = .answered answer) :
    Disciplined before true worked success after
      (begun ++ { statement := .commit, response := reply } :: back) := by
  have hback := hclosing.givenUp
  -- The commit is the only one, so it can be told from the other rounds.
  have hsplit {front tail : List Round} {other : Response}
      (h : begun ++ { statement := .commit, response := reply } :: back =
        front ++ { statement := .commit, response := other } :: tail) :
      begun = front ∧ reply = other ∧ back = tail := by
    obtain ⟨hfront, hcommit, htail⟩ := (List.append_cons_inj_of_notMem
      (fun hmem => hbegun.ne_commit _ hmem rfl) fun hmem => hback.ne_commit _ hmem rfl).1 h
    exact ⟨hfront, congrArg Round.response hcommit, htail⟩
  constructor
  case talks => exact hworked.trans htalks
  case idle => exact idle
  case commit_once =>
    refine Nat.le_of_eq ?_
    rw [List.map_append, List.count_append, count_commit hbegun.ne_commit, List.map_cons,
      List.count_cons_self, count_commit hback.ne_commit]
  case commit_iff =>
    refine iff_of_true ⟨{ statement := .commit, response := reply }, ?_, rfl⟩ rfl
    exact List.mem_append_right _ List.mem_cons_self
  case commit_split =>
    intro front other tail h
    obtain ⟨rfl, rfl, rfl⟩ := hsplit h
    exact ⟨hbegun, hsettled, hclosing⟩
  case success_iff =>
    rw [hsuccess]
    constructor
    · rintro ⟨answered, rfl⟩
      exact ⟨answered, List.mem_append_right _ List.mem_cons_self⟩
    · rintro ⟨answered, hmem⟩
      obtain ⟨front, tail, h⟩ := List.append_of_mem hmem
      obtain ⟨-, rfl, -⟩ := hsplit h
      exact ⟨answered, rfl⟩
  case silent => exact silent_append hsettled (silent_cons hback.silent_rounds (.inr hback))
  case stopped =>
    intro h
    cases h

theorem Disciplined.closed {answer : Answer} {reply : Response} {success : Bool}
    (hopened : before.Talks [{ statement := .start, response := .answered answer }] opened)
    (hworks : Works opened true worked work []) (hclosing : Closing reply back)
    (htalks : worked.Talks ({ statement := .commit, response := reply } :: back) after)
    (idle : after.link = .idle)
    (hsuccess : success = true ↔ ∃ answer, reply = .answered answer) :
    ∃ rounds, Disciplined before true worked success after rounds := by
  have hworked := hopened.trans hworks.talks
  rw [List.append_nil] at hworked
  refine ⟨_, .of_committed ⟨answer, work, rfl, ?_⟩ ?_ hworked hclosing htalks idle hsuccess⟩
  · intro round hround
    exact hworks.plain round (List.mem_append_left _ hround)
  · intro round hround
    obtain rfl | hwork := List.mem_cons.1 hround
    · rfl
    · exact hworks.settled round hwork

theorem talks_exchange (statement : Statement) (client : Client δ) :
    ∃ response, client.Talks [{ statement, response }] (exchange statement client).2 := by
  have hexchanged := exchanged_exchange statement client
  generalize exchange statement client = exchanged at hexchanged ⊢
  cases hexchanged with
  | answered answer after talks link => exact ⟨_, talks⟩
  | failed message after talks link => exact ⟨_, talks⟩
  | cut after talks link => exact ⟨_, talks⟩

theorem link_abandon (client : Client δ) : client.abandon.link = .idle := by
  unfold abandon
  split
  · assumption
  · rfl
  · rfl

theorem abandon_of_idle {client : Client δ} (h : client.link = .idle) :
    client.abandon = client := by
  rw [abandon, h]

theorem talks_abandon (client : Client δ) :
    ∃ back, GivenUp back ∧ client.Talks back client.abandon := by
  unfold abandon
  split
  · exact ⟨[], .silent, .refl client⟩
  · exact ⟨[], .silent, .refl client⟩
  · obtain ⟨response, talks⟩ := talks_exchange .rollback client
    exact ⟨_, .rollback response, talks⟩

inductive Opened (client : Client δ) : Except StoreFault Unit × Client δ → Prop where
  | opened (answer : Answer) (after : Client δ)
      (talks : client.Talks [{ statement := .start, response := .answered answer }] after)
      (link : after.link = .active) : Opened client (.ok (), after)
  | unopened (fault : StoreFault) (response : Response) (after : Client δ)
      (talks : client.Talks [{ statement := .start, response }] after)
      (link : after.link = .idle) : Opened client (.error fault, after)

theorem opened_openTransaction {client : Client δ} (h : client.link = .idle) :
    client.Opened (openTransaction client) := by
  have hexchanged := exchanged_exchange .start client
  unfold openTransaction
  generalize exchange .start client = exchanged at hexchanged ⊢
  cases hexchanged with
  | answered answer after talks link => exact .opened answer _ talks rfl
  | failed message after talks link => exact .unopened _ _ after talks (link.trans h)
  | cut after talks link =>
      rw [h] at link
      exact .unopened _ _ after talks link

theorem talks_commit {client : Client δ} (h : client.link = .active) :
    ∃ reply back, Closing reply back ∧
      client.Talks ({ statement := .commit, response := reply } :: back)
        (endWith .commit client).2.abandon ∧
      ((endWith .commit client).1.isOk = true ↔ ∃ answer, reply = .answered answer) := by
  have hexchanged := exchanged_exchange .commit client
  unfold endWith
  rw [within_of_active h]
  generalize exchange .commit client = exchanged at hexchanged ⊢
  cases hexchanged with
  | answered answer after talks link =>
      exact ⟨_, [], .answered answer, talks, iff_of_true rfl ⟨answer, rfl⟩⟩
  | failed message after talks link =>
      obtain ⟨response, hrollback⟩ := talks_exchange .rollback after
      refine ⟨_, _, .failed message response, ?_, iff_of_false Bool.false_ne_true (by simp)⟩
      have habandon : after.abandon = { (exchange .rollback after).2 with link := .idle } := by
        rw [abandon, link, h]
      dsimp only
      rw [habandon]
      exact talks.trans hrollback
  | cut after talks link =>
      refine ⟨_, [], .cut, ?_, iff_of_false Bool.false_ne_true (by simp)⟩
      have habandon : after.abandon = { after with link := .idle } := by
        rw [abandon, link, h, if_pos rfl]
      dsimp only
      rw [habandon]
      exact talks

section Units

variable {τ ε α β : Type} {clientOf : τ → Client δ}

def Disciplines (clientOf : τ → Client δ) (state : τ) (work : ExceptT ε (StateM τ) α)
    (whole : ExceptT ε (StateM τ) β) : Prop :=
  ∃ rounds, Disciplined (clientOf state) (work.run state).1.isOk (clientOf (work.run state).2)
    (whole.run state).1.isOk (clientOf (whole.run state).2) rounds

structure UnitOfWork (clientOf : τ → Client δ) (start : ExceptT ε (StateM τ) Unit)
    (body : ExceptT ε (StateM τ) α) (commit : α → ExceptT ε (StateM τ) β) : Prop where
  start : ∀ state, (start.run state).1.isOk = (openTransaction (clientOf state)).1.isOk ∧
    clientOf (start.run state).2 = (openTransaction (clientOf state)).2
  body : Steady clientOf body
  commit : ∀ a state,
    ((commit a).run state).1.isOk = (endWith .commit (clientOf state)).1.isOk ∧
      (clientOf ((commit a).run state).2).abandon =
        (endWith .commit (clientOf state)).2.abandon

variable {start : ExceptT ε (StateM τ) Unit} {body : ExceptT ε (StateM τ) α}
  {commit : α → ExceptT ε (StateM τ) β}

theorem UnitOfWork.disciplined_opened (h : UnitOfWork clientOf start body commit)
    {answer : Answer} {opened : τ}
    (talks : before.Talks [{ statement := .start, response := .answered answer }]
      (clientOf opened))
    (link : (clientOf opened).link = .active) :
    ∃ rounds, Disciplined before (body.run opened).1.isOk (clientOf (body.run opened).2)
      ((body >>= commit).run opened).1.isOk (clientOf ((body >>= commit).run opened).2).abandon
      rounds := by
  obtain ⟨work, last, hworks⟩ := h.body opened link
  cases hbody : body.run opened with
  | mk outcome reached =>
      rw [hbody] at hworks
      cases outcome with
      | error error =>
          rw [run_bind_of_error hbody]
          obtain ⟨back, hback, hgiven⟩ := talks_abandon (clientOf reached)
          exact Disciplined.failed talks hworks hback hgiven (link_abandon _)
      | ok a =>
          rw [run_bind_of_ok hbody]
          obtain ⟨rfl, hactive⟩ := hworks.done rfl
          obtain ⟨reply, back, hclosing, hcommit, hsuccess⟩ := talks_commit hactive
          obtain ⟨hok, hafter⟩ := h.commit a reached
          rw [hok, hafter]
          exact Disciplined.closed talks hworks hclosing hcommit (link_abandon _) hsuccess

theorem UnitOfWork.disciplined (h : UnitOfWork clientOf start body commit) {state : τ}
    (hidle : (clientOf state).link = .idle) :
    ∃ rounds, Disciplined (clientOf state) ((start >>= fun _ => body).run state).1.isOk
      (clientOf ((start >>= fun _ => body).run state).2)
      ((start >>= fun _ => body >>= commit).run state).1.isOk
      (clientOf ((start >>= fun _ => body >>= commit).run state).2).abandon rounds := by
  obtain ⟨hok, hclient⟩ := h.start state
  have hopening := opened_openTransaction hidle
  generalize openTransaction (clientOf state) = opening at hopening hok hclient
  cases hstart : start.run state with
  | mk outcome opened =>
      rw [hstart] at hok hclient
      cases hopening with
      | unopened fault response after talks link =>
          obtain rfl : clientOf opened = after := hclient
          cases outcome with
          | ok _ => cases hok
          | error error =>
              rw [run_bind_of_error hstart, run_bind_of_error hstart]
              dsimp only
              rw [abandon_of_idle link]
              exact ⟨_, .unopened talks link⟩
      | opened answer after talks link =>
          obtain rfl : clientOf opened = after := hclient
          cases outcome with
          | error error => cases hok
          | ok _ =>
              rw [run_bind_of_ok hstart, run_bind_of_ok hstart]
              exact h.disciplined_opened talks link

end Units

omit [Database δ] in
theorem run_lift {α : Type} (run : Client δ → Except StoreFault α × Client δ)
    (client : Client δ) :
    (lift run).run client =
      ((run client).1.mapError fun fault => .refused (.store fault), (run client).2) := rfl

theorem isOk_start (client : Client δ) :
    ((start : Action (Client δ) Unit).run client).1.isOk = (openTransaction client).1.isOk ∧
      ((start : Action (Client δ) Unit).run client).2 = (openTransaction client).2 := by
  rw [start, run_lift]
  exact ⟨isOk_mapError _ _, rfl⟩

theorem isOk_finish (statement : Statement) (client : Client δ) :
    ((finish statement).run client).1.isOk = (endWith statement client).1.isOk ∧
      ((finish statement).run client).2.abandon = (endWith statement client).2.abandon := by
  rw [finish, run_lift]
  exact ⟨isOk_mapError _ _, abandon_of_idle (link_abandon _)⟩

theorem disciplines_inTransaction {body : Action (Client δ) Unit} (h : Steady id body)
    {client : Client δ} (hidle : client.link = .idle) :
    Disciplines id client (start >>= fun _ => body) (inTransaction body) := by
  have hunit : UnitOfWork id start body fun _ => finish .commit :=
    { start := isOk_start, body := h, commit := fun _ => isOk_finish .commit }
  exact hunit.disciplined hidle

theorem isOk_commit {α : Type} (answer : α) (machine : Machine (Client δ)) :
    (Action.run (Machine.onStore (Store.perform .commit) >>= fun _ => pure answer)
        machine).1.isOk = (endWith .commit machine.store).1.isOk ∧
      (Action.run (Machine.onStore (Store.perform .commit) >>= fun _ => pure answer)
        machine).2.store.abandon = (endWith .commit machine.store).2.abandon := by
  have hfinish := isOk_finish .commit machine.store
  have hcommit : Action.run (Machine.onStore (Store.perform .commit)) machine = _ :=
    Machine.run_onStore (finish .commit) machine
  cases hrun : Action.run (finish .commit) machine.store with
  | mk outcome client =>
      rw [hrun] at hfinish hcommit
      cases outcome with
      | ok _ =>
          rw [Action.run_bind_of_ok hcommit]
          exact hfinish
      | error halt =>
          rw [Action.run_bind_of_error hcommit]
          exact hfinish

theorem disciplines_operation {α : Type} (operation : Operation α)
    {machine : Machine (Client δ)} (hidle : machine.store.link = .idle) :
    Disciplines Machine.store machine
      (Machine.onStore Store.start >>= fun _ => operation.body) operation.perform := by
  have hunit : UnitOfWork (δ := δ) Machine.store (Machine.onStore Store.start) operation.body
      fun answer => Machine.onStore (Store.perform .commit) >>= fun _ => pure answer :=
    { start := fun machine => isOk_start machine.store
      body := steady_body operation
      commit := isOk_commit }
  rw [operation.perform_eq]
  exact hunit.disciplined hidle

end Client

namespace Setup

variable {δ : Type} [Database δ]

omit [Database δ] in
theorem isOk_ofClient {α : Type} (blame : StoreFault → SetupFault)
    (run : Client δ → Except StoreFault α × Client δ) (client : Client δ) :
    ((ofClient blame run).run client).1.isOk = (run client).1.isOk ∧
      ((ofClient blame run).run client).2 = (run client).2 :=
  ⟨Client.isOk_mapError _ _, rfl⟩

def beginTables : Setup δ Unit := do
  ofClient .store Client.openTransaction
  createAll Schema.relations Schema.indexes

theorem disciplines_createTables {client : Client δ} (hidle : client.link = .idle) :
    Client.Disciplines id client beginTables createTables := by
  have hunit : Client.UnitOfWork (δ := δ) id (ofClient .store Client.openTransaction)
      (createAll Schema.relations Schema.indexes)
      fun _ => ofClient .store (Client.endWith .commit) :=
    { start := isOk_ofClient _ _
      body := steady_createAll _ _
      commit := fun _ state => by
        obtain ⟨hok, hafter⟩ := isOk_ofClient (δ := δ) .store (Client.endWith .commit) state
        exact ⟨hok, congrArg Client.abandon hafter⟩ }
  exact hunit.disciplined hidle

end Setup

namespace Client

variable {δ : Type} [Database δ]

theorem units_disciplined {α : Type} (machine : Machine (Client δ))
    (hidle : machine.store.link = .idle) (operation : Operation α) (catalog : Catalog)
    (player : Player) :
    Disciplines Machine.store machine
        (Machine.onStore Store.start >>= fun _ => operation.body) operation.perform ∧
      Disciplines id machine.store (start >>= fun _ => writeCatalog catalog)
        (importCatalog catalog) ∧
      Disciplines id machine.store (start >>= fun _ => writePlayer player) (addPlayer player) ∧
      Disciplines id machine.store Setup.beginTables Setup.createTables :=
  ⟨disciplines_operation operation hidle,
    disciplines_inTransaction (steady_writeCatalog catalog) hidle,
    disciplines_inTransaction (steady_writePlayer player) hidle,
    Setup.disciplines_createTables hidle⟩

end Client

namespace Sample

def refused : Client Script where
  database := { rules := [{ pattern := "COMMIT", reply := .error "boom" }] }

end Sample

namespace Client

theorem units_disciplined_refused :
    Sample.refused.link = .idle ∧
      Disciplines Machine.store { store := Sample.refused, generator := { stream := fun _ => 0 } }
        (Machine.onStore Store.start >>= fun _ => (Operation.listing 1 1).body)
        (Operation.listing 1 1).perform ∧
      Disciplines id Sample.refused (start >>= fun _ => writePlayer Sample.player)
        (addPlayer Sample.player) := by
  have h := units_disciplined { store := Sample.refused, generator := { stream := fun _ => 0 } } rfl
    (.listing 1 1) Sample.catalog Sample.player
  exact ⟨rfl, h.1, h.2.2.1⟩

theorem not_always_commit_last :
    ¬∀ (client : Client Script) (player : Player), client.link = .idle → ∀ front back,
      (Action.run (addPlayer player) client).2.trace = front ++ .commit :: back → back = [] := by
  intro h
  have htrace : (Action.run (addPlayer Sample.player) Sample.refused).2.trace =
      [.start, .insertUser 1, .insertCharacter Sample.player] ++ .commit :: [.rollback] := by
    decide +kernel
  cases h Sample.refused Sample.player rfl _ _ htrace

end Client

end PrizeDraw
