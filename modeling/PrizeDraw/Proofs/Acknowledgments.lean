import PrizeDraw.Desk
import PrizeDraw.Proofs.Overflow

namespace PrizeDraw

structure Errand where
  Answer : Type
  operation : Operation Answer
  acknowledge : UInt32 → Except Fault Answer → Ack

namespace Errand

def change {α : Type} (operation : Operation α) (encode : α → Except Fault Bytes) : Errand where
  Answer := α
  operation
  acknowledge _ outcome := .ofChange (outcome >>= encode)

def question {α : Type} (operation : Operation α) (encode : α → Except Fault Bytes)
    (fallback : UInt32 → Bytes) : Errand where
  Answer := α
  operation
  acknowledge time outcome := .ofQuestion (fallback time) (outcome >>= encode)

end Errand

namespace Request

def errand (player : Player) : Request → Errand
  | .playNormal gacha selector =>
      .change (.playNormal player gacha selector) fun play => Reply.normalPlay play.items
  | .playStepup gacha selector =>
      .change (.playStepup player gacha selector) fun play =>
        Reply.stepupPlay play.guaranteed play.random
  | .playBox gacha selector =>
      .change (.playBox player gacha selector) fun play => Reply.boxPlay play.items
  | .boxInfo gacha => .question (.boxStatus player gacha) Reply.boxStatus fun _ => [0]
  | .resetBox gacha => .change (.resetBox player gacha) Desk.done
  | .stepStatus gacha =>
      .question (.stepStatus player gacha) (fun status => .ok (Reply.stepStatus status))
        fun serverTime => Reply.stepStatus { step := 0, serverTime }
  | .receive freeze =>
      .question (.receive player freeze) (fun drained => .ok drained.emitted.encode) fun _ => [0]
  | .points =>
      .question (.points player) (fun points => .ok (Reply.points points)) fun _ =>
        List.replicate 12 0
  | .usePoints trial premium => .change (.usePoints player trial premium) Desk.done
  | .buy trade quantity =>
      .change (.buy player trade quantity) fun amount => .ok (Reply.balance amount)
  | .sell trade quantity =>
      .change (.sell player trade quantity) fun amount => .ok (Reply.balance amount)
  | .acquire purchases => .change (.acquire player purchases) Desk.done
  | .enumerate hr gr => .question (.listing hr gr) Reply.listing fun _ => [0, 0]

end Request

namespace Desk

variable {σ : Type} [Store σ]

theorem answer_eq (player : Player) (request : Request) :
    Desk.answer (σ := σ) player request = (do
      let time ← Machine.serverTime
      let outcome ← settle (request.errand player).operation.perform
      return (request.errand player).acknowledge time outcome) := by
  cases request with
  | _ => rfl

theorem run_settle {τ α : Type} (action : Action τ α) (state : τ) :
    Action.run (settle action) state =
      match Action.run action state with
      | (.ok answer, next) => (.ok (.ok answer), next)
      | (.error (.refused fault), next) => (.ok (.error fault), next)
      | (.error .overflow, next) => (.error .overflow, next) := rfl

theorem run_handle (player : Player) (handle : UInt32) (request : Request) (machine : Machine σ) :
    let errand := request.errand player
    let acknowledged := fun outcome : Except Fault errand.Answer =>
      [{ handle, ack := errand.acknowledge machine.clock.reading outcome : QueuedAck }]
    Action.run (Desk.handle player handle request) machine =
      match Action.run errand.operation.perform machine with
      | (.ok answer, next) => (.ok (acknowledged (.ok answer)), next)
      | (.error (.refused fault), next) => (.ok (acknowledged (.error fault)), next)
      | (.error .overflow, next) => (.error .overflow, next) := by
  intro errand acknowledged
  have htime : Action.run Machine.serverTime machine = (.ok machine.clock.reading, machine) := rfl
  unfold Desk.handle
  rw [answer_eq]
  simp only [Action.run_bind, htime, run_settle]
  cases Action.run errand.operation.perform machine with
  | mk outcome next =>
      cases outcome with
      | ok answer => rfl
      | error halt =>
          cases halt with
          | refused fault => rfl
          | overflow => rfl

theorem acknowledged_once_iff (player : Player) (handle : UInt32) (request : Request)
    (machine : Machine Memory) :
    let handled := Action.run (Desk.handle player handle request) machine
    let overflows := (request.errand player).operation.Overflows machine.store.records
    ((∃ ack, handled.1 = .ok [{ handle, ack }]) ↔ ¬overflows) ∧
      (overflows → handled.1 = .error .overflow ∧
        handled.2.store = { records := machine.store.records }) := by
  intro handled overflows
  have hoverflow := (request.errand player).operation.overflow_iff machine
  have hkept (h : (Action.run (request.errand player).operation.perform machine).1 =
      .error .overflow) := Operation.store_of_error h
  have hhandled := run_handle player handle request machine
  dsimp only at hhandled
  cases hrun : Action.run (request.errand player).operation.perform machine with
  | mk outcome next =>
  rw [hrun] at hoverflow hkept hhandled
  change handled = _ at hhandled
  cases outcome with
  | ok answer =>
      have hnot : ¬overflows := fun h => by cases hoverflow.2 h
      exact ⟨iff_of_true ⟨_, congrArg Prod.fst hhandled⟩ hnot, fun h => absurd h hnot⟩
  | error halt =>
      cases halt with
      | refused fault =>
          have hnot : ¬overflows := fun h => by cases hoverflow.2 h
          exact ⟨iff_of_true ⟨_, congrArg Prod.fst hhandled⟩ hnot, fun h => absurd h hnot⟩
      | overflow =>
          have hyes : overflows := hoverflow.1 rfl
          rw [hhandled]
          refine ⟨iff_of_false ?_ (not_not.2 hyes), fun _ => ⟨rfl, hkept rfl⟩⟩
          rintro ⟨ack, hack⟩
          cases hack

end Desk

namespace Sample

def richRecords : Records where
  trades := [(1, { id := 1, itemType := 7, itemId := 1, quantity := 1, fpoints := 1 })]
  accounts := [(1, { frontierPoints := 9223372036854775807 })]
  characters := [(1, {})]

end Sample

namespace Desk

theorem acknowledged_once_iff_sell :
    (Request.errand Sample.player (.sell 1 1)).operation.Overflows Sample.richRecords ∧
      (Action.run (Desk.handle Sample.player 7 (.sell 1 1))
        (Sample.machine Sample.richRecords)).1 = .error .overflow := by
  have hoverflows : (Request.errand Sample.player (.sell 1 1)).operation.Overflows
      Sample.richRecords :=
    ⟨⟨_, rfl, by decide⟩, by decide, _, rfl, .inl (.inr (by decide))⟩
  obtain ⟨-, hhandled⟩ :=
    acknowledged_once_iff Sample.player 7 (.sell 1 1) (Sample.machine Sample.richRecords)
  exact ⟨hoverflows, (hhandled hoverflows).1⟩

theorem not_always_acknowledged :
    ¬∀ (player : Player) (handle : UInt32) (request : Request) (machine : Machine Memory),
      ∃ ack, (Action.run (Desk.handle player handle request) machine).1 =
        .ok [{ handle, ack }] := by
  intro h
  obtain ⟨ack, hack⟩ := h Sample.player 7 (.sell 1 1) (Sample.machine Sample.richRecords)
  cases hack

end Desk

end PrizeDraw
