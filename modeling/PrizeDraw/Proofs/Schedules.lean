import PrizeDraw.Proofs.Sending
import PrizeDraw.Sandbox.Program

namespace PrizeDraw

abbrev Schedule := List (Except ProgramFault Statement)

namespace Schedule

def Writes (write : Except ProgramFault Statement) (statement : Statement) : Prop :=
  ∀ sent, write = .ok sent → sent = statement

theorem forall₂_ok (statements : List Statement) :
    List.Forall₂ Writes (statements.map .ok) statements := by
  rw [List.forall₂_map_left_iff]
  exact List.forall₂_same.2 fun _ _ _ hsent => (Except.ok.inj hsent).symm

theorem eq_of_forall₂_ok {sent statements : List Statement}
    (h : List.Forall₂ Writes (sent.map .ok) statements) : sent = statements := by
  rw [List.forall₂_map_left_iff] at h
  rw [← List.forall₂_eq_eq_eq]
  exact h.imp fun _ _ hsame => hsame _ rfl

end Schedule

def Statement.contented (answer : Answer) : Statement → Bool
  | .setBalance _ _ _ => answer.affected != 0
  | _ => true

def Round.passes (round : Round) : Bool :=
  match round.response with
  | .answered answer => round.statement.contented answer
  | .failed _ | .cut => false

theorem Round.passes_of_unanswered {round : Round}
    (h : ∀ answer, round.response ≠ .answered answer) : round.passes = false := by
  unfold passes
  split
  · rename_i answer hanswer
    exact absurd hanswer (h answer)
  · rfl
  · rfl

/-- How a schedule goes, and the fault that cuts it short, if any. -/
inductive Course : Schedule → List Round → Option ProgramFault → Prop where
  | done : Course [] [] none
  | refused (fault : ProgramFault) (rest : Schedule) : Course (.error fault :: rest) [] (some fault)
  | stopped (round : Round) (rest : Schedule) (fault : ProgramFault)
      (h : round.passes = false) : Course (.ok round.statement :: rest) [round] (some fault)
  | passed (round : Round) {rest : Schedule} {rounds : List Round}
      {outcome : Option ProgramFault} (h : round.passes = true)
      (course : Course rest rounds outcome) :
      Course (.ok round.statement :: rest) (round :: rounds) outcome

namespace Course

variable {first second : Schedule} {rounds others : List Round} {outcome : Option ProgramFault}
  {fault : ProgramFault}

theorem append (h : Course first rounds none) (h' : Course second others outcome) :
    Course (first ++ second) (rounds ++ others) outcome := by
  generalize hnone : none = finish at h
  induction h with
  | done => exact h'
  | refused => cases hnone
  | stopped => cases hnone
  | passed round hround _ ih => exact .passed round hround (ih hnone)

theorem append_fault (h : Course first rounds (some fault)) (second : Schedule) :
    Course (first ++ second) rounds (some fault) := by
  generalize hfault : some fault = finish at h
  induction h with
  | done => cases hfault
  | refused fault rest => exact .refused fault (rest ++ second)
  | stopped round rest fault hround => exact .stopped round (rest ++ second) fault hround
  | passed round hround _ ih => exact .passed round hround (ih hfault)

theorem eq_none_iff (h : Course first rounds outcome) :
    outcome = none ↔
      first = (rounds.map Round.statement).map .ok ∧ ∀ round ∈ rounds, round.passes = true := by
  induction h with
  | done => exact iff_of_true rfl ⟨rfl, nofun⟩
  | refused fault rest => exact iff_of_false nofun nofun
  | stopped round rest fault hround =>
      refine iff_of_false nofun ?_
      rintro ⟨-, hpasses⟩
      rw [hpasses round List.mem_cons_self] at hround
      cases hround
  | passed round hround _ ih =>
      rw [ih]
      simp [hround]

theorem eq_none_of_length (h : Course first rounds outcome) (hlength : rounds.length = first.length)
    (hpasses : ∀ round ∈ rounds, round.passes = true) : outcome = none := by
  induction h with
  | done => rfl
  | refused fault rest => cases hlength
  | stopped round rest fault hround =>
      rw [hpasses round List.mem_cons_self] at hround
      cases hround
  | passed round _ _ ih =>
      exact ih (Nat.succ.inj hlength) (List.forall_mem_cons.1 hpasses).2

theorem prefix_of_forall₂ (h : Course first rounds outcome) {statements : List Statement}
    (hfrom : List.Forall₂ Schedule.Writes first statements) :
    rounds.map Round.statement <+: statements := by
  induction h generalizing statements with
  | done => exact List.nil_prefix
  | refused => exact List.nil_prefix
  | stopped round rest fault hround =>
      cases hfrom with
      | cons hsame hrest =>
          obtain rfl := hsame _ rfl
          exact List.cons_prefix_cons.2 ⟨rfl, List.nil_prefix⟩
  | passed round hround _ ih =>
      cases hfrom with
      | cons hsame hrest =>
          obtain rfl := hsame _ rfl
          exact List.cons_prefix_cons.2 ⟨rfl, ih hrest⟩

theorem prefix_of_error {statements : List Statement}
    (h : Course (statements.map .ok ++ .error fault :: second) rounds outcome) :
    rounds.map Round.statement <+: statements ∧ outcome ≠ none := by
  induction statements generalizing rounds with
  | nil =>
      cases h with
      | refused => exact ⟨List.nil_prefix, nofun⟩
  | cons statement rest ih =>
      cases h with
      | stopped => exact ⟨List.cons_prefix_cons.2 ⟨rfl, List.nil_prefix⟩, nofun⟩
      | passed round _ course =>
          obtain ⟨hbefore, houtcome⟩ := ih course
          exact ⟨List.cons_prefix_cons.2 ⟨rfl, hbefore⟩, houtcome⟩

end Course

def Unfinished (rounds : List Round) : Prop :=
  ∃ front answer work, rounds = front ++ .answered .start answer :: work ∧
    ∀ round ∈ work, round.statement = .commit → ¬round.Answered

theorem Unfinished.append {rounds : List Round} (h : Unfinished rounds) (earlier : List Round) :
    Unfinished (earlier ++ rounds) := by
  obtain ⟨front, answer, work, rfl, hwork⟩ := h
  exact ⟨earlier ++ front, answer, work, (List.append_assoc _ _ _).symm, hwork⟩

def Plan.Plain (plan : Plan) : Prop :=
  ∀ statement, .ok statement ∈ plan →
    statement.isControl = false ∧ ∀ answer, statement.contented answer = true

def Plan.schedule (plan : Plan) : Schedule :=
  plan.map (Except.mapError fun fault => .halted (.refused (.store fault)))

theorem Plan.schedule_append (first second : Plan) :
    Plan.schedule (first ++ second) = first.schedule ++ second.schedule := List.map_append

theorem Plan.schedule_ok (statements : List Statement) :
    Plan.schedule (statements.map .ok) = statements.map .ok := List.map_map

namespace Client

variable {δ : Type} [Database δ] {α β ε : Type} {begins middle ends : Link}
  {first second : Schedule} {blame : ε → ProgramFault}

def fault? (blame : ε → ProgramFault) : Except ε α → Option ProgramFault
  | .ok _ => none
  | .error fault => some (blame fault)

structure Stage (before : Client δ) (schedule : Schedule) (ends : Link) (sent back : List Round)
    (outcome : Option ProgramFault) (after : Client δ) : Prop where
  talks : before.Talks (sent ++ back) after
  course : Course schedule sent outcome
  givenUp : back = [] ∨
    Unfinished sent ∧ ∃ response, back = [{ statement := .rollback, response }]
  done : outcome = none → back = [] ∧ after.link = ends

def Staged (blame : ε → ProgramFault) (begins ends : Link) (x : ExceptT ε (StateM (Client δ)) α)
    (schedule : Schedule) : Prop :=
  ∀ client : Client δ, client.link = begins → ∃ sent back,
    client.Stage schedule ends sent back (fault? blame (x.run client).1) (x.run client).2

theorem staged_pure (a : α) : Staged blame begins begins (pure a : ExceptT ε (StateM (Client δ)) α)
    [] := fun client hlink =>
  ⟨[], [], .refl client, .done, .inl rfl, fun _ => ⟨rfl, hlink⟩⟩

theorem Staged.bind {x : ExceptT ε (StateM (Client δ)) α}
    {f : α → ExceptT ε (StateM (Client δ)) β} (hx : Staged blame begins middle x first)
    (hf : ∀ a, Staged blame middle ends (f a) second) :
    Staged blame begins ends (x >>= f) (first ++ second) := by
  intro client hlink
  obtain ⟨sent, back, hstage⟩ := hx client hlink
  cases hrun : x.run client with
  | mk outcome told =>
  rw [hrun] at hstage
  obtain ⟨htalks, hcourse, hback, hdone⟩ := hstage
  cases outcome with
  | error fault =>
      rw [run_bind_of_error hrun]
      exact ⟨sent, back, htalks, hcourse.append_fault second, hback, nofun⟩
  | ok a =>
      -- A stage that is done gave nothing up, and its link stands where the next one begins.
      obtain ⟨rfl, hmiddle⟩ := hdone rfl
      obtain ⟨others, ending, hnext⟩ := hf a told hmiddle
      rw [run_bind_of_ok hrun]
      refine ⟨sent ++ others, ending, ?_, hcourse.append hnext.course, ?_, hnext.done⟩
      · rw [List.append_assoc]
        rw [List.append_nil] at htalks
        exact htalks.trans hnext.talks
      · exact hnext.givenUp.imp_right fun h => ⟨h.1.append sent, h.2⟩

theorem staged_error {x : ExceptT ε (StateM (Client δ)) α} {fault : ε}
    (h : ∀ client, x.run client = (.error fault, client)) (rest : Schedule) :
    Staged blame begins ends x (.error (blame fault) :: rest) := fun client _ => by
  rw [h client]
  exact ⟨[], [], .refl client, .refused _ rest, .inl rfl, nofun⟩

theorem staged_of_talks {x : ExceptT ε (StateM (Client δ)) α} {statement : Statement}
    (h : ∀ client, client.link = begins → ∃ response,
      client.Talks [{ statement, response }] (x.run client).2 ∧
        match (x.run client).1 with
        | .ok _ => Round.passes { statement, response } = true ∧ (x.run client).2.link = ends
        | .error _ => Round.passes { statement, response } = false) :
    Staged blame begins ends x [.ok statement] := by
  intro client hlink
  obtain ⟨response, htalks, hpasses⟩ := h client hlink
  cases hrun : (x.run client).1 with
  | ok a =>
      rw [hrun] at hpasses
      exact ⟨[{ statement, response }], [], htalks, .passed _ hpasses.1 .done, .inl rfl,
        fun _ => ⟨rfl, hpasses.2⟩⟩
  | error fault =>
      rw [hrun] at hpasses
      exact ⟨[{ statement, response }], [], htalks, .stopped _ [] _ hpasses, .inl rfl, nofun⟩

theorem staged_ofClient {blame : SetupFault → ProgramFault} {statement : Statement}
    {run : Client δ → Except StoreFault α × Client δ}
    (hplain : ∀ answer, statement.contented answer = true) (named : StoreFault → SetupFault)
    (h : ∀ client, client.link = begins → match exchange statement client with
      | (.ok _, after) => ∃ a, run client = (.ok a, { after with link := ends })
      | (.error fault, after) => run client = (.error fault, after)) :
    Staged blame begins ends (Setup.ofClient named run) [.ok statement] := by
  refine staged_of_talks fun client hlink => ?_
  have hrun : (Setup.ofClient named run).run client =
      ((run client).1.mapError named, (run client).2) := rfl
  have hsettled := h client hlink
  have hexchanged := exchanged_exchange statement client
  rw [hrun]
  generalize exchange statement client = exchanged at hexchanged hsettled
  cases hexchanged with
  | answered answer after talks link =>
      obtain ⟨a, ha⟩ := hsettled
      rw [ha]
      exact ⟨_, talks, hplain answer, rfl⟩
  | failed message after talks link =>
      rw [show run client = _ from hsettled]
      exact ⟨_, talks, rfl⟩
  | cut after talks link =>
      rw [show run client = _ from hsettled]
      exact ⟨_, talks, rfl⟩

theorem staged_openTransaction {blame : SetupFault → ProgramFault} :
    Staged blame .idle .active (Setup.ofClient .store (openTransaction (δ := δ)))
      [.ok .start] := by
  refine staged_ofClient (fun _ => rfl) .store fun client _ => ?_
  unfold openTransaction
  cases exchange .start client with
  | mk outcome after =>
      cases outcome with
      | ok answer => exact ⟨(), rfl⟩
      | error fault => rfl

theorem staged_within {blame : SetupFault → ProgramFault} {statement : Statement}
    (hplain : ∀ answer, statement.contented answer = true) (named : StoreFault → SetupFault) :
    Staged blame .active .active (Setup.ofClient named (within (δ := δ) statement))
      [.ok statement] := by
  refine staged_ofClient hplain named fun client hlink => ?_
  rw [within_of_active hlink]
  have hexchanged := exchanged_exchange statement client
  generalize exchange statement client = exchanged at hexchanged ⊢
  cases hexchanged with
  | answered answer after talks link =>
      rw [← link.trans hlink]
      exact ⟨answer, rfl⟩
  | failed message after talks link => rfl
  | cut after talks link => rfl

theorem staged_commit {blame : SetupFault → ProgramFault} :
    Staged blame .active .idle (Setup.ofClient .store (endWith (δ := δ) .commit))
      [.ok .commit] := by
  refine staged_ofClient (fun _ => rfl) .store fun client hlink => ?_
  unfold endWith
  rw [within_of_active hlink]
  cases exchange .commit client with
  | mk outcome after =>
      cases outcome with
      | ok answer => exact ⟨(), rfl⟩
      | error fault => rfl

section Transaction

variable {plan : Plan} {client opened worked after : Client δ} {answer : Answer}
  {work back : List Round}

theorem Sending.course {result : Except Halt Unit × Client δ} (h : Sending client plan work result)
    (hplain : plan.Plain) : Course plan.schedule work (fault? .halted result.1) := by
  induction h with
  | done link => exact .done
  | refused link fault rest => exact .refused _ _
  | answered statement answer talks _ ih =>
      exact .passed (.answered statement answer) ((hplain statement List.mem_cons_self).2 answer)
        (ih fun other hother => hplain other (List.mem_cons_of_mem _ hother))
  | stopped round rest fault talks unanswered =>
      exact .stopped round _ _ (Round.passes_of_unanswered unanswered)

theorem unfinished_of_sending {result : Except Halt Unit × Client δ}
    (hsending : Sending opened plan work result) (hplain : plan.Plain) {last : List Round}
    (hlast : ∀ round ∈ last, ¬round.Answered) :
    Unfinished (.answered .start answer :: (work ++ last)) := by
  refine ⟨[], answer, work ++ last, rfl, fun round hround hcommit => ?_⟩
  obtain hwork | hlost := List.mem_append.1 hround
  · have hcontrol := (hplain _ (hsending.sent round hwork)).1
    rw [hcommit] at hcontrol
    cases hcontrol
  · exact hlast round hlost

theorem stage_abandoned {halt : Halt} (hbegun : client.Talks [.answered .start answer] opened)
    (hsending : Sending opened plan work (.error halt, worked))
    (hplain : plan.Plain) (hgiven : GivenUp back) (htalks : worked.Talks back after) :
    client.Stage (.ok .start :: (plan.schedule ++ [.ok .commit])) .idle
      (.answered .start answer :: work) back (some (.halted halt)) after where
  talks := hbegun.trans (hsending.talks.trans htalks)
  course := .passed (.answered .start answer) rfl ((hsending.course hplain).append_fault _)
  givenUp := by
    have hopen : Unfinished (.answered .start answer :: (work ++ [])) :=
      unfinished_of_sending hsending hplain nofun
    rw [List.append_nil] at hopen
    cases hgiven with
    | silent => exact .inl rfl
    | rollback response => exact .inr ⟨hopen, response, rfl⟩
  done := nofun

theorem stage_ended {outcome : Except Halt Unit} {reply : Response}
    (hbegun : client.Talks [.answered .start answer] opened)
    (hsending : Sending opened plan work (.ok (), worked))
    (hplain : plan.Plain) (hclosing : Closing reply back)
    (htalks : worked.Talks ({ statement := .commit, response := reply } :: back) after)
    (hlink : after.link = .idle)
    (hsuccess : outcome.isOk = true ↔ ∃ answer, reply = .answered answer) :
    client.Stage (.ok .start :: (plan.schedule ++ [.ok .commit])) .idle
      (.answered .start answer :: (work ++ [{ statement := .commit, response := reply }])) back
      (fault? .halted outcome) after := by
  have hcourse : Course plan.schedule work none := hsending.course hplain
  have hall : client.Talks (.answered .start answer ::
      (work ++ [{ statement := .commit, response := reply }]) ++ back) after := by
    have hspoken := hbegun.trans (hsending.talks.trans htalks)
    simpa using hspoken
  have hcut (hreply : ∀ answer, reply ≠ .answered answer) :
      ∃ halt, outcome = .error halt := by
    cases outcome with
    | ok done =>
        obtain ⟨answer, hanswer⟩ := hsuccess.1 rfl
        exact absurd hanswer (hreply answer)
    | error halt => exact ⟨halt, rfl⟩
  cases hclosing with
  | answered told =>
      cases outcome with
      | error halt => cases hsuccess.2 ⟨told, rfl⟩
      | ok done =>
          exact ⟨hall, .passed (.answered .start answer) rfl
            (hcourse.append (.passed (.answered .commit told) rfl .done)), .inl rfl,
            fun _ => ⟨rfl, hlink⟩⟩
  | failed message response =>
      obtain ⟨halt, rfl⟩ := hcut nofun
      refine ⟨hall, .passed (.answered .start answer) rfl
        (hcourse.append (.stopped ⟨.commit, .failed message⟩ [] _ rfl)),
        .inr ⟨unfinished_of_sending hsending hplain ?_, response, rfl⟩, nofun⟩
      intro round hround hanswered
      obtain rfl := List.mem_singleton.1 hround
      obtain ⟨told, htold⟩ := hanswered
      cases htold
  | cut =>
      obtain ⟨halt, rfl⟩ := hcut nofun
      exact ⟨hall, .passed (.answered .start answer) rfl
        (hcourse.append (.stopped ⟨.commit, .cut⟩ [] _ rfl)), .inl rfl, nofun⟩

end Transaction

theorem staged_transaction (plan : Plan) (hplain : plan.Plain) :
    Staged .halted .idle .idle (inTransaction (δ := δ) (send plan))
      (.ok .start :: (plan.schedule ++ [.ok .commit])) := by
  intro client hidle
  have hlink : (Action.run (inTransaction (send plan)) client).2.link = .idle := link_abandon _
  have hran := ran_inTransaction (send plan) hidle
  change ∃ sent back, client.Stage _ _ sent back
    (fault? .halted (Action.run (inTransaction (send plan)) client).1)
    (Action.run (inTransaction (send plan)) client).2
  generalize Action.run (inTransaction (send plan)) client = result at hran hlink
  cases hran with
  | @unopened response after halt talks unanswered =>
      exact ⟨[{ statement := .start, response }], [], talks,
        .stopped { statement := .start, response } _ _ (Round.passes_of_unanswered unanswered),
        .inl rfl, nofun⟩
  | abandoned begun link failed given talks =>
      obtain ⟨work, hsending⟩ := sending_send plan link
      rw [failed] at hsending
      exact ⟨_, _, stage_abandoned begun hsending hplain given talks⟩
  | ended begun link done closes =>
      obtain ⟨work, hsending⟩ := sending_send plan link
      rw [done] at hsending
      obtain ⟨reply, back, hclosing, hcommit, hsuccess⟩ := closes (hsending.of_ok rfl).1
      exact ⟨_, _, stage_ended begun hsending hplain hclosing hcommit hlink hsuccess⟩

end Client

end PrizeDraw
