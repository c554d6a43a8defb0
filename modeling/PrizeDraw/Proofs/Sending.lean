import PrizeDraw.Proofs.Commits
import PrizeDraw.Proofs.Telling

namespace PrizeDraw

abbrev Plan := List (Except StoreFault Statement)

namespace Plan

def fault? (plan : Plan) : Option StoreFault :=
  plan.findSome? fun
    | .ok _ => none
    | .error fault => some fault

theorem fault?_append (first second : Plan) :
    fault? (first ++ second) = (fault? first).or (fault? second) := List.findSome?_append

theorem fault?_ok (statements : List Statement) : fault? (statements.map .ok) = none := by
  rw [fault?, List.findSome?_map, List.findSome?_eq_none_iff]
  intro statement _
  rfl

end Plan

def Round.Answered (round : Round) : Prop := ∃ answer, round.response = .answered answer

namespace Client

variable {δ : Type} [Database δ] {α : Type} {before : Client δ} {rounds : List Round}

def send (plan : Plan) : Action (Client δ) Unit :=
  plan.forM fun write => do execute (← decoded write)

theorem send_append (first second : Plan) :
    (send (first ++ second) : Action (Client δ) Unit) = send first >>= fun _ => send second :=
  List.forM_append

theorem send_ok (statement : Statement) :
    (send [.ok statement] : Action (Client δ) Unit) = execute statement :=
  bind_pure_unit

theorem forM_eq_send {x : α → Action (Client δ) Unit} {plan : α → Plan}
    (h : ∀ a, x a = send (plan a)) (items : List α) :
    items.forM x = send (items.flatMap plan) := by
  induction items with
  | nil => rfl
  | cons item rest ih => rw [List.flatMap_cons, send_append, ← h, ← ih]; rfl

inductive Sending : Client δ → Plan → List Round → Except Halt Unit × Client δ → Prop where
  | done {client : Client δ} (link : client.link = .active) : Sending client [] [] (.ok (), client)
  | refused {client : Client δ} (link : client.link = .active) (fault : StoreFault)
      (rest : Plan) :
      Sending client (.error fault :: rest) [] (.error (.refused (.store fault)), client)
  | answered {client told : Client δ} (statement : Statement) (answer : Answer) {rest : Plan}
      {rounds : List Round} {result : Except Halt Unit × Client δ}
      (talks : client.Talks [.answered statement answer] told)
      (sending : Sending told rest rounds result) :
      Sending client (.ok statement :: rest) (.answered statement answer :: rounds) result
  | stopped {client after : Client δ} (round : Round) (rest : Plan) (fault : StoreFault)
      (talks : client.Talks [round] after)
      (unanswered : ∀ answer, round.response ≠ .answered answer) :
      Sending client (.ok round.statement :: rest) [round]
        (.error (.refused (.store fault)), after)

theorem run_execute {client : Client δ} (h : client.link = .active) (statement : Statement) :
    Action.run (execute statement) client =
      (((exchange statement client).1.map fun _ => ()).mapError fun fault =>
        .refused (.store fault), (exchange statement client).2) := by
  have hquery := run_query h statement
  rw [execute, Action.run_bind, hquery]
  cases (exchange statement client).1 <;> rfl

theorem sending_send (plan : Plan) {client : Client δ} (h : client.link = .active) :
    ∃ rounds, Sending client plan rounds (Action.run (send plan) client) := by
  induction plan generalizing client with
  | nil => exact ⟨[], .done h⟩
  | cons write rest ih =>
      cases write with
      | error fault => exact ⟨[], .refused h fault rest⟩
      | ok statement =>
          have hsend : (send (.ok statement :: rest) : Action (Client δ) Unit) =
              execute statement >>= fun _ => send rest := rfl
          have hrun := run_execute h statement
          have hexchanged := exchanged_exchange statement client
          generalize exchange statement client = exchanged at hrun hexchanged
          rw [hsend]
          cases hexchanged with
          | answered answer told talks link =>
              rw [Action.run_bind_of_ok hrun]
              obtain ⟨rounds, hrest⟩ := ih (link.trans h)
              exact ⟨_, .answered statement answer talks hrest⟩
          | failed message after talks link =>
              rw [Action.run_bind_of_error hrun]
              exact ⟨_, .stopped ⟨statement, .failed message⟩ rest _ talks nofun⟩
          | cut after talks link =>
              rw [Action.run_bind_of_error hrun]
              exact ⟨_, .stopped ⟨statement, .cut⟩ rest _ talks nofun⟩

namespace Sending

variable {plan : Plan} {result : Except Halt Unit × Client δ}

theorem talks (h : Sending before plan rounds result) : before.Talks rounds result.2 := by
  induction h with
  | done link => exact .refl _
  | refused link fault rest => exact .refl _
  | answered statement answer talks _ ih => exact talks.trans ih
  | stopped round rest fault talks unanswered => exact talks

theorem sent (h : Sending before plan rounds result) :
    ∀ round ∈ rounds, .ok round.statement ∈ plan := by
  induction h with
  | done link => exact nofun
  | refused link fault rest => exact nofun
  | answered statement answer talks _ ih =>
      exact List.forall_mem_cons.2
        ⟨List.mem_cons_self, fun round hround => List.mem_cons_of_mem _ (ih round hround)⟩
  | stopped round rest fault talks unanswered =>
      exact List.forall_mem_singleton.2 List.mem_cons_self

theorem of_ok (h : Sending before plan rounds result) (hok : result.1 = .ok ()) :
    result.2.link = .active ∧ plan = (rounds.map Round.statement).map .ok := by
  induction h with
  | done link => exact ⟨link, rfl⟩
  | refused link fault rest => cases hok
  | answered statement answer talks _ ih =>
      obtain ⟨hlink, rfl⟩ := ih hok
      exact ⟨hlink, rfl⟩
  | stopped round rest fault talks unanswered => cases hok

theorem of_answered (h : Sending before plan rounds result)
    (hanswered : ∀ round ∈ rounds, round.Answered) :
    result.1 = match plan.fault? with
      | none => .ok ()
      | some fault => .error (.refused (.store fault)) := by
  induction h with
  | done link => rfl
  | refused link fault rest => rfl
  | answered statement answer talks _ ih => exact ih (List.forall_mem_cons.1 hanswered).2
  | stopped round rest fault talks unanswered =>
      obtain ⟨answer, hanswer⟩ := hanswered round List.mem_cons_self
      exact absurd hanswer (unanswered answer)

end Sending

inductive Ran (client : Client δ) (body : Action (Client δ) Unit) :
    Except Halt Unit × Client δ → Prop where
  | unopened {response : Response} {after : Client δ} (halt : Halt)
      (talks : client.Talks [{ statement := .start, response }] after)
      (unanswered : ∀ answer, response ≠ .answered answer) : Ran client body (.error halt, after)
  | abandoned {answer : Answer} {opened worked after : Client δ} {halt : Halt}
      {back : List Round} (begun : client.Talks [.answered .start answer] opened)
      (link : opened.link = .active) (failed : Action.run body opened = (.error halt, worked))
      (given : GivenUp back) (talks : worked.Talks back after) :
      Ran client body (.error halt, after)
  | ended {answer : Answer} {opened worked after : Client δ} {outcome : Except Halt Unit}
      (begun : client.Talks [.answered .start answer] opened) (link : opened.link = .active)
      (done : Action.run body opened = (.ok (), worked))
      (closes : worked.link = .active → ∃ reply back, Closing reply back ∧
        worked.Talks ({ statement := .commit, response := reply } :: back) after ∧
        (outcome.isOk = true ↔ ∃ answer, reply = .answered answer)) :
      Ran client body (outcome, after)

theorem run_inTransaction (body : Action (Client δ) Unit) (client : Client δ) :
    Action.run (inTransaction body) client =
      ((Action.run (start >>= fun _ => body >>= fun _ => finish .commit) client).1,
        (Action.run (start >>= fun _ => body >>= fun _ => finish .commit) client).2.abandon) := rfl

theorem ran_opened {body : Action (Client δ) Unit} {client opened : Client δ} {answer : Answer}
    (hstart : Action.run (start : Action (Client δ) Unit) client = (.ok (), opened))
    (htalks : client.Talks [.answered .start answer] opened) (hlink : opened.link = .active) :
    Ran client body (Action.run (inTransaction body) client) := by
  rw [run_inTransaction, Action.run_bind_of_ok hstart]
  cases hbody : Action.run body opened with
  | mk outcome worked =>
      cases outcome with
      | error halt =>
          rw [Action.run_bind_of_error hbody]
          obtain ⟨back, hgiven, habandon⟩ := talks_abandon worked
          exact .abandoned htalks hlink hbody hgiven habandon
      | ok _ =>
          rw [Action.run_bind_of_ok hbody]
          refine .ended htalks hlink hbody fun hactive => ?_
          obtain ⟨reply, back, hclosing, hcommit, hsuccess⟩ := talks_commit hactive
          obtain ⟨hok, hafter⟩ := isOk_finish .commit worked
          exact ⟨reply, back, hclosing, hafter ▸ hcommit, hok ▸ hsuccess⟩

theorem ran_inTransaction (body : Action (Client δ) Unit) {client : Client δ}
    (hidle : client.link = .idle) :
    Ran client body (Action.run (inTransaction body) client) := by
  have hunopened {response : Response} {fault : StoreFault} {opened : Client δ}
      (hstart : Action.run (start : Action (Client δ) Unit) client =
        (.error (.refused (.store fault)), opened))
      (htalks : client.Talks [{ statement := .start, response }] opened)
      (hunanswered : ∀ answer, response ≠ .answered answer) (hlink : opened.link = .idle) :
      Ran client body (Action.run (inTransaction body) client) := by
    rw [run_inTransaction, Action.run_bind_of_error hstart, abandon_of_idle hlink]
    exact .unopened _ htalks hunanswered
  have hexchanged := exchanged_exchange .start client
  have hstart : Action.run (start : Action (Client δ) Unit) client =
      ((openTransaction client).1.mapError fun fault => .refused (.store fault),
        (openTransaction client).2) := rfl
  unfold openTransaction at hstart
  generalize exchange .start client = exchanged at hexchanged hstart
  cases hexchanged with
  | answered answer told talks link => exact ran_opened hstart talks rfl
  | failed message told talks link => exact hunopened hstart talks nofun (link.trans hidle)
  | cut told talks link =>
      rw [hidle] at link
      exact hunopened hstart talks nofun link

structure Transacted (before : Client δ) (plan : Plan) (rounds : List Round)
    (result : Except Halt Unit × Client δ) : Prop where
  talks : before.Talks rounds result.2
  sent : ∀ round ∈ rounds, round.statement.isControl = true ∨ .ok round.statement ∈ plan
  kept : ∀ statements, plan = statements.map .ok → (∀ round ∈ rounds, round.Answered) →
    result.1 = .ok () ∧ rounds.map Round.statement = .start :: statements ++ [.commit]
  refused : ∀ fault, plan.fault? = some fault →
    (∀ round ∈ rounds, round.statement ≠ .commit) ∧
      ((∀ round ∈ rounds, round.Answered) → result.1 = .error (.refused (.store fault)))

theorem Closing.nil_of_answered {reply : Response} {back : List Round} {answer : Answer}
    (h : Closing reply back) (hanswer : reply = .answered answer) : back = [] := by
  cases h with
  | answered told => rfl
  | failed message response => cases hanswer
  | cut => cases hanswer

section Transaction

variable {plan : Plan} {client opened worked after : Client δ} {answer : Answer}
  {work back : List Round}

theorem transacted_abandoned {halt : Halt}
    (hplain : ∀ statement, .ok statement ∈ plan → statement.isControl = false)
    (hbegun : client.Talks [.answered .start answer] opened)
    (hsending : Sending opened plan work (.error halt, worked)) (hgiven : GivenUp back)
    (htalks : worked.Talks back after) :
    client.Transacted plan (.answered .start answer :: (work ++ back)) (.error halt, after) := by
  have hverdict (hanswered : ∀ round ∈ .answered .start answer :: (work ++ back),
      round.Answered) := hsending.of_answered fun round hround =>
    hanswered round (List.mem_cons_of_mem _ (List.mem_append_left _ hround))
  constructor
  · exact hbegun.trans (hsending.talks.trans htalks)
  · intro round hround
    obtain rfl | hround := List.mem_cons.1 hround
    · exact .inl rfl
    · obtain hwork | hback := List.mem_append.1 hround
      · exact .inr (hsending.sent round hwork)
      · exact .inl (hgiven.isControl round hback)
  · intro statements hplan hanswered
    -- With no fault and nothing but answers, the plan would have been sent to its end.
    have hfault := hverdict hanswered
    rw [hplan, Plan.fault?_ok] at hfault
    cases hfault
  · intro fault hfault
    refine ⟨fun round hround => ?_, fun hanswered => ?_⟩
    · obtain rfl | hround := List.mem_cons.1 hround
      · exact nofun
      · obtain hwork | hback := List.mem_append.1 hround
        · intro hcommit
          have hcontrol := hplain _ (hsending.sent round hwork)
          rw [hcommit] at hcontrol
          cases hcontrol
        · exact hgiven.ne_commit round hback
    · have houtcome := hverdict hanswered
      rwa [hfault] at houtcome

theorem transacted_ended {outcome : Except Halt Unit} {reply : Response}
    (hbegun : client.Talks [.answered .start answer] opened)
    (hsending : Sending opened plan work (.ok (), worked)) (hclosing : Closing reply back)
    (htalks : worked.Talks ({ statement := .commit, response := reply } :: back) after)
    (hsuccess : outcome.isOk = true ↔ ∃ answer, reply = .answered answer) :
    client.Transacted plan (.answered .start answer ::
      (work ++ { statement := .commit, response := reply } :: back)) (outcome, after) := by
  obtain ⟨-, hplan⟩ := hsending.of_ok rfl
  constructor
  · exact hbegun.trans (hsending.talks.trans htalks)
  · intro round hround
    obtain rfl | hround := List.mem_cons.1 hround
    · exact .inl rfl
    · obtain hwork | hround := List.mem_append.1 hround
      · exact .inr (hsending.sent round hwork)
      · obtain rfl | hback := List.mem_cons.1 hround
        · exact .inl rfl
        · exact .inl (hclosing.givenUp.isControl round hback)
  · intro statements hstatements hanswered
    obtain ⟨told, htold⟩ := hanswered { statement := .commit, response := reply } (by simp)
    obtain rfl := hclosing.nil_of_answered htold
    have hsent : work.map Round.statement = statements :=
      List.map_injective_iff.2 (fun _ _ => Except.ok.inj) (hplan.symm.trans hstatements)
    constructor
    · cases outcome with
      | ok done => rfl
      | error halt => cases hsuccess.2 ⟨told, htold⟩
    · simp only [List.map_cons, List.map_append, List.map_nil, hsent]
      rfl
  · intro fault hfault
    rw [hplan, Plan.fault?_ok] at hfault
    cases hfault

end Transaction

theorem transacted_send (plan : Plan)
    (hplain : ∀ statement, .ok statement ∈ plan → statement.isControl = false)
    {client : Client δ} (hidle : client.link = .idle) :
    ∃ rounds, client.Transacted plan rounds (Action.run (inTransaction (send plan)) client) := by
  have hran := ran_inTransaction (send plan) hidle
  generalize Action.run (inTransaction (send plan)) client = result at hran
  cases hran with
  | @unopened response after halt talks unanswered =>
      have hclaimed (hanswered : ∀ round ∈ [Round.mk .start response], round.Answered) :
          False := (hanswered _ List.mem_cons_self).elim unanswered
      exact ⟨_, talks, by simp [Statement.isControl],
        fun _ _ hanswered => (hclaimed hanswered).elim,
        fun fault _ => ⟨by simp, fun hanswered => (hclaimed hanswered).elim⟩⟩
  | abandoned begun link failed given talks =>
      obtain ⟨work, hsending⟩ := sending_send plan link
      rw [failed] at hsending
      exact ⟨_, transacted_abandoned hplain begun hsending given talks⟩
  | ended begun link done closes =>
      obtain ⟨work, hsending⟩ := sending_send plan link
      rw [done] at hsending
      obtain ⟨reply, back, hclosing, hcommit, hsuccess⟩ := closes (hsending.of_ok rfl).1
      exact ⟨_, transacted_ended begun hsending hclosing hcommit hsuccess⟩

end Client

end PrizeDraw
