import PrizeDraw.Proofs.Listings
import PrizeDraw.Proofs.Replies

namespace PrizeDraw

namespace Machine

variable {σ α : Type} [Store σ]

theorem exists_of_transaction_ok {body : Action (Machine σ) α} {machine next : Machine σ}
    {answer : α} (h : Action.run (transaction body) machine = (.ok answer, next)) :
    ∃ opened worked, Action.run body opened = (.ok answer, worked) := by
  rw [run_transaction, Prod.mk.injEq] at h
  have hwhole : Action.run (onStore Store.start >>= fun _ => body >>= fun answer =>
      onStore (Store.perform .commit) >>= fun _ => pure answer) machine = (.ok answer, _) :=
    Prod.ext h.1 rfl
  obtain ⟨_, opened, -, hbody⟩ := Action.exists_of_bind_ok hwhole
  obtain ⟨same, worked, hworked, hcommit⟩ := Action.exists_of_bind_ok hbody
  obtain ⟨_, committed, -, hanswer⟩ := Action.exists_of_bind_ok hcommit
  obtain ⟨rfl, -⟩ := Action.of_pure_ok hanswer
  exact ⟨opened, worked, hworked⟩

end Machine

namespace Inventory

variable {σ : Type} [Store σ]

theorem emitted_of_drain {character : CharacterId} {freeze : Bool} {store after : σ}
    {drained : Drained}
    (h : Action.run (drain character freeze) store = (.ok drained, after)) :
    drained.emitted.size ≤ Pending.maxEmitted := by
  obtain ⟨pending, loaded, -, hrest⟩ := Action.exists_of_bind_ok h
  have hsplit : pending.split.1.size ≤ Pending.maxEmitted := List.length_take_le _ _
  cases freeze with
  | true =>
      obtain ⟨rfl, -⟩ := Action.of_pure_ok hrest
      exact hsplit
  | false =>
      obtain ⟨_, saved, -, hanswer⟩ := Action.exists_of_bind_ok hrest
      obtain ⟨rfl, -⟩ := Action.of_pure_ok hanswer
      exact hsplit

end Inventory

namespace Operation

variable {σ α : Type} [Store σ]

def Emits : Operation α → α → Prop
  | .receive _ _, drained => drained.emitted.size ≤ Pending.maxEmitted
  | _, _ => True

theorem emits_perform {operation : Operation α} {machine next : Machine σ} {answer : α}
    (h : Action.run operation.perform machine = (.ok answer, next)) : operation.Emits answer := by
  cases operation with
  | receive player freeze =>
      obtain ⟨opened, worked, hdrain⟩ := Machine.exists_of_transaction_ok h
      exact Inventory.emitted_of_drain (Machine.of_onStore_ok hdrain).1
  | _ => trivial

end Operation

namespace Reply

theorem boxStatus_of_le (status : List BoxStatus) (h : status.length ≤ 255) :
    ∃ payload, boxStatus status = .ok payload ∧ readBoxStatus payload = some status := by
  have hencoded : boxStatus status =
      .ok ([UInt8.ofNat status.length] ++ status.flatMap boxEntry) := by
    rw [boxStatus, count8_of_le h]
    rfl
  exact ⟨_, hencoded, readBoxStatus_boxStatus hencoded⟩

theorem boxStatus_of_gt {status : List BoxStatus} (h : 255 < status.length) :
    boxStatus status = .error (.inventoryOverflow status.length) := by
  have hcount : count8 status.length = .error (.inventoryOverflow status.length) :=
    if_neg (by omega)
  rw [boxStatus, hcount]
  rfl

theorem boxStatus_error {status : List BoxStatus} {fault : Fault}
    (h : boxStatus status = .error fault) : 255 < status.length := by
  by_contra hfew
  obtain ⟨payload, hpayload, -⟩ := boxStatus_of_le status (Nat.le_of_not_lt hfew)
  rw [hpayload] at h
  cases h

theorem listing_error {listings : List GachaListing} {fault : Fault}
    (h : listing listings = .error fault) : Oversized listings := by
  by_contra hfits
  have houtcome := listing_outcome listings
  rw [(tooMany?_eq_none_iff listings).mpr hfits] at houtcome
  obtain ⟨payload, hpayload⟩ := houtcome
  rw [hpayload] at h
  cases h

theorem exists_readListing {listings : List GachaListing} {payload : Bytes}
    (h : listing listings = .ok payload) :
    ∃ told, readListing payload = some told ∧ List.Forall₂ Tells listings told := by
  refine ⟨_, readListing_listing h, ?_⟩
  rw [List.forall₂_map_right_iff]
  exact List.forall₂_same.mpr fun listing _ => tells_ofListing listing

end Reply

namespace Request

def Reads : Request → Bytes → Prop
  | .boxInfo _, payload => (Reply.readBoxStatus payload).isSome
  | .stepStatus _, payload => (Reply.readStepStatus payload).isSome
  | .receive _, payload =>
      payload.length ≤ 181 ∧ ∃ pending, Pending.decode payload = .ok pending ∧
        pending.size ≤ 36 ∧ payload = pending.encode
  | .points, payload => (Reply.readPoints payload).isSome
  | .enumerate _ _, payload => (Reply.readListing payload).isSome
  | _, _ => False

def Tells (player : Player) (time : UInt32) :
    (request : Request) → Except Fault (request.errand player).Answer → Bytes → Prop
  | .boxInfo _, .ok status, payload =>
      Reply.readBoxStatus payload = some status ∨
        255 < List.length status ∧ Reply.readBoxStatus payload = some []
  | .boxInfo _, .error _, payload => Reply.readBoxStatus payload = some []
  | .stepStatus _, .ok status, payload => Reply.readStepStatus payload = some status
  | .stepStatus _, .error _, payload =>
      Reply.readStepStatus payload = some { step := 0, serverTime := time }
  | .receive _, .ok drained, payload => Pending.decode payload = .ok (Drained.emitted drained)
  | .receive _, .error _, payload => Pending.decode payload = .ok .empty
  | .points, .ok amounts, payload =>
      Reply.readPoints payload = some
        { frontierPoints := Reply.wireAmount (Points.frontierPoints amounts)
          premium := Reply.wireAmount (Points.premium amounts)
          trial := Reply.wireAmount (Points.trial amounts) }
  | .points, .error _, payload =>
      Reply.readPoints payload = some { frontierPoints := 0, premium := 0, trial := 0 }
  | .enumerate _ _, .ok listings, payload =>
      (∃ told, Reply.readListing payload = some told ∧ List.Forall₂ Reply.Tells listings told) ∨
        Reply.Oversized listings ∧ Reply.readListing payload = some []
  | .enumerate _ _, .error _, payload => Reply.readListing payload = some []
  | _, _, _ => False

theorem reads_receive {freeze : Bool} (pending : Pending)
    (h : pending.size ≤ Pending.maxEmitted) : (receive freeze).Reads pending.encode := by
  have hsize : pending.size ≤ 36 := h
  refine ⟨?_, pending, Pending.decode_encode pending, hsize, rfl⟩
  rw [Pending.length_encode]
  omega

variable {request : Request}

theorem calm_errand (player : Player) (h : request.changes = false) :
    (request.errand player).operation.Calm := by
  cases request with
  | boxInfo gacha => trivial
  | stepStatus gacha => trivial
  | receive freeze => trivial
  | points => trivial
  | enumerate hr gr => trivial
  | _ => cases h

theorem exists_acknowledge (player : Player) (h : request.changes = false) (time : UInt32)
    (outcome : Except Fault (request.errand player).Answer)
    (hemits : ∀ answer, outcome = .ok answer → (request.errand player).operation.Emits answer) :
    ∃ payload, (request.errand player).acknowledge time outcome = .succeed payload ∧
      request.Reads payload ∧ request.Tells player time outcome payload := by
  cases request with
  | boxInfo gacha =>
      cases outcome with
      | error fault => exact ⟨_, rfl, rfl, rfl⟩
      | ok status =>
          cases hencoded : Reply.boxStatus status with
          | error fault =>
              refine ⟨[0], congrArg (Ack.ofQuestion [0]) hencoded, rfl, .inr ⟨?_, rfl⟩⟩
              exact Reply.boxStatus_error hencoded
          | ok payload =>
              have hread := Reply.readBoxStatus_boxStatus hencoded
              exact ⟨payload, congrArg (Ack.ofQuestion [0]) hencoded,
                Option.isSome_of_eq_some hread, .inl hread⟩
  | stepStatus gacha =>
      cases outcome with
      | error fault =>
          have hread := Reply.readStepStatus_stepStatus { step := 0, serverTime := time }
          exact ⟨_, rfl, Option.isSome_of_eq_some hread, hread⟩
      | ok status =>
          have hread := Reply.readStepStatus_stepStatus status
          exact ⟨_, rfl, Option.isSome_of_eq_some hread, hread⟩
  | receive freeze =>
      cases outcome with
      | error fault => exact ⟨_, rfl, reads_receive .empty (by decide), rfl⟩
      | ok drained =>
          exact ⟨_, rfl, reads_receive drained.emitted (hemits drained rfl),
            Pending.decode_encode drained.emitted⟩
  | points =>
      cases outcome with
      | error fault => exact ⟨_, rfl, rfl, rfl⟩
      | ok amounts =>
          have hread := Reply.readPoints_points amounts
          exact ⟨_, rfl, Option.isSome_of_eq_some hread, hread⟩
  | enumerate hr gr =>
      cases outcome with
      | error fault => exact ⟨_, rfl, rfl, rfl⟩
      | ok listings =>
          cases hencoded : Reply.listing listings with
          | error fault =>
              refine ⟨[0, 0], congrArg (Ack.ofQuestion [0, 0]) hencoded, rfl, .inr ⟨?_, rfl⟩⟩
              exact Reply.listing_error hencoded
          | ok payload =>
              obtain ⟨told, hread, htells⟩ := Reply.exists_readListing hencoded
              exact ⟨payload, congrArg (Ack.ofQuestion [0, 0]) hencoded,
                Option.isSome_of_eq_some hread, .inl ⟨told, hread, htells⟩⟩
  | _ => cases h

end Request

namespace Desk

theorem question_succeeds {σ : Type} [Store σ] [Store.Calm σ] (player : Player) (handle : UInt32)
    {request : Request} (h : request.changes = false) (machine : Machine σ) :
    ∃ payload outcome next,
      Action.run (settle (request.errand player).operation.perform) machine =
        (.ok outcome, next) ∧
      Action.run (Desk.handle player handle request) machine =
        (.ok [{ handle, ack := .succeed payload }], next) ∧
      request.Reads payload ∧ request.Tells player machine.clock.reading outcome payload ∧
      (request.errand player).acknowledge machine.clock.reading outcome = .succeed payload := by
  have hcalm := Operation.calm_perform (σ := σ) (Request.calm_errand player h) machine
  have hhandled := run_handle player handle request machine
  dsimp only at hhandled
  unfold Action.Overflows at hcalm
  rw [run_settle]
  cases hrun : Action.run (request.errand player).operation.perform machine with
  | mk outcome next =>
  rw [hrun] at hcalm hhandled
  cases outcome with
  | ok answer =>
      have hemits := Operation.emits_perform hrun
      obtain ⟨payload, hsucceed, hreads, htells⟩ := Request.exists_acknowledge player h
        machine.clock.reading (.ok answer) fun same hsame => by cases hsame; exact hemits
      dsimp only at hhandled
      rw [hsucceed] at hhandled
      exact ⟨payload, .ok answer, next, rfl, hhandled, hreads, htells, hsucceed⟩
  | error halt =>
      cases halt with
      | overflow => exact absurd rfl hcalm
      | refused fault =>
          obtain ⟨payload, hsucceed, hreads, htells⟩ := Request.exists_acknowledge player h
            machine.clock.reading (.error fault) fun answer hsame => by cases hsame
          dsimp only at hhandled
          rw [hsucceed] at hhandled
          exact ⟨payload, .error fault, next, rfl, hhandled, hreads, htells, hsucceed⟩

end Desk

namespace Records

def HandsOver (payload : Bytes) (character : CharacterId) (before after : Records) : Prop :=
  ∃ pending emitted rest, Pending.ofStored (before.held character) = .ok pending ∧
    Pending.decode payload = .ok emitted ∧ Pending.ofStored (after.held character) = .ok rest ∧
    pending.items = emitted.items ++ rest.items

end Records

namespace Operation

theorem handsOver_receive {player : Player} {machine worked : Machine Records} {drained : Drained}
    (h : Action.run (receive player false).body machine = (.ok drained, worked)) :
    Records.HandsOver drained.emitted.encode player.character machine.store worked.store := by
  have hdrain : Action.run (Machine.onStore (Inventory.drain player.character false)) machine =
      (.ok drained, worked) := h
  obtain ⟨pending, hpending, hemitted, hremaining, hheld⟩ :=
    Inventory.drain_ok (Machine.of_onStore_ok hdrain).1
  refine ⟨pending, drained.emitted, drained.remaining, hpending, Pending.decode_encode _, ?_, ?_⟩
  · rw [hheld]
    exact Pending.ofStored_stored drained.remaining
  · rw [hemitted, hremaining, List.take_append_drop]

end Operation

namespace Request

variable {player : Player} {request : Request}

theorem held_errand (h : request.changes = false) {machine worked : Machine Records}
    {answer : (request.errand player).Answer}
    (hrun : Action.run (request.errand player).operation.body machine = (.ok answer, worked))
    {time : UInt32} {payload : Bytes}
    (hpayload : (request.errand player).acknowledge time (.ok answer) = .succeed payload)
    (character : CharacterId) :
    worked.store.held character = machine.store.held character ∨
      request = .receive false ∧ character = player.character ∧
        Records.HandsOver payload character machine.store worked.store := by
  have hframe := (request.errand player).operation.spoken_body.frame machine
  rw [hrun] at hframe
  have hheld := hframe.held character
  cases request with
  | receive freeze =>
      cases freeze with
      | true => exact .inl (hheld (by simp [errand, Errand.question, Operation.reach]))
      | false =>
          by_cases hown : character = player.character
          · cases hpayload
            subst hown
            exact .inr ⟨rfl, rfl, Operation.handsOver_receive hrun⟩
          · exact .inl (hheld fun _ => hown)
  | boxInfo gacha => exact .inl (hheld (by simp [errand, Errand.question, Operation.reach]))
  | stepStatus gacha => exact .inl (hheld (by simp [errand, Errand.question, Operation.reach]))
  | points => exact .inl (hheld (by simp [errand, Errand.question, Operation.reach]))
  | enumerate hr gr => exact .inl (hheld (by simp [errand, Errand.question, Operation.reach]))
  | _ => cases h

end Request

namespace Desk

theorem question_acknowledged (player : Player) (handle : UInt32) (request : Request)
    (hquestion : request.changes = false) :
    (∀ machine : Machine Memory, ∃ payload outcome next,
      Action.run (settle (request.errand player).operation.perform) machine =
        (.ok outcome, next) ∧
      Action.run (Desk.handle player handle request) machine =
        (.ok [{ handle, ack := .succeed payload }], next) ∧
      request.Reads payload ∧ request.Tells player machine.clock.reading outcome payload ∧
      (∀ halt, (Action.run (request.errand player).operation.perform machine).1 = .error halt →
        next.store.records = machine.store.records) ∧
      ∀ character,
        next.store.records.held character = machine.store.records.held character ∨
        request = .receive false ∧ character = player.character ∧
          Records.HandsOver payload character machine.store.records next.store.records) ∧
    ∀ (δ : Type) [Database δ] (machine : Machine (Client δ)), ∃ payload outcome next,
      Action.run (settle (request.errand player).operation.perform) machine =
        (.ok outcome, next) ∧
      Action.run (Desk.handle player handle request) machine =
        (.ok [{ handle, ack := .succeed payload }], next) ∧
      request.Reads payload ∧ request.Tells player machine.clock.reading outcome payload := by
  constructor
  · intro machine
    obtain ⟨payload, outcome, next, hsettled, hhandled, hreads, htells, hsucceed⟩ :=
      question_succeeds player handle hquestion machine
    refine ⟨payload, outcome, next, hsettled, hhandled, hreads, htells, ?_⟩
    rw [run_settle] at hsettled
    cases hrun : Action.run (request.errand player).operation.perform machine with
    | mk reached worked =>
    rw [hrun] at hsettled
    cases reached with
    | error halt =>
        have hkept := Operation.store_of_error (congrArg Prod.fst hrun)
        rw [hrun] at hkept
        have hsame : next = worked := by cases halt <;> cases hsettled; rfl
        rw [hsame, hkept]
        exact ⟨fun _ _ => rfl, fun _ => .inl rfl⟩
    | ok answer =>
        cases hsettled
        obtain ⟨worked, hworked, rfl⟩ := Operation.run_memory_of_ok hrun
        exact ⟨nofun, Request.held_errand hquestion hworked hsucceed⟩
  · intro δ _ machine
    obtain ⟨payload, outcome, next, hsettled, hhandled, hreads, htells, -⟩ :=
      question_succeeds player handle hquestion machine
    exact ⟨payload, outcome, next, hsettled, hhandled, hreads, htells⟩

theorem question_acknowledged_receive :
    let machine := ((Sample.machine Sample.records).serve [.ask (.playBox Sample.player 1 0)]).2
    (Request.receive false).changes = false ∧ ∃ next,
      Action.run (Desk.handle Sample.player 7 (.receive false)) machine =
        (.ok [{ handle := 7, ack := .succeed [1, 7, 0, 1, 0, 1] }], next) ∧
      Records.HandsOver [1, 7, 0, 1, 0, 1] 1 machine.store.records next.store.records := by
  intro machine
  obtain ⟨hmemory, -⟩ := question_acknowledged Sample.player 7 (.receive false) rfl
  obtain ⟨payload, outcome, next, -, hhandled, -, -, -, hkept⟩ := hmemory machine
  cases hhandled
  refine ⟨rfl, _, rfl, ?_⟩
  rcases hkept 1 with hsame | ⟨-, -, hover⟩
  · cases hsame
  · exact hover

end Desk

end PrizeDraw
