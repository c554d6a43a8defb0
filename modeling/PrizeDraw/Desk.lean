import PrizeDraw.Reply
import PrizeDraw.Request

namespace PrizeDraw

inductive Ack where
  | succeed (payload : Bytes)
  | fail (payload : Bytes)
  deriving DecidableEq, Repr

namespace Ack

def failed : Ack := .fail [0, 0, 0, 0]

def emptySuccess : Ack := .succeed [0, 0, 0, 0]

def isSuccess : Ack → Bool
  | .succeed _ => true
  | .fail _ => false

def payload : Ack → Bytes
  | .succeed payload => payload
  | .fail payload => payload

def name : Ack → String
  | .succeed _ => "Succeed"
  | .fail _ => "Fail"

def ofChange : Except Fault Bytes → Ack
  | .ok payload => .succeed payload
  | .error _ => failed

def ofQuestion (fallback : Bytes) : Except Fault Bytes → Ack
  | .ok payload => .succeed payload
  | .error _ => .succeed fallback

end Ack

namespace Desk

variable {σ : Type} [Store σ]

def settle {τ α : Type} (action : Action τ α) : Action τ (Except Fault α) := fun state =>
  match action.run state with
  | (.ok a, state) => (.ok (.ok a), state)
  | (.error (.refused fault), state) => (.ok (.error fault), state)
  | (.error .overflow, state) => (.error .overflow, state)

def change {τ α : Type} (action : Action τ α) (encode : α → Except Fault Bytes) :
    Action τ Ack := do
  let outcome ← settle action
  return Ack.ofChange (outcome >>= encode)

def question {τ α : Type} (action : Action τ α) (encode : α → Except Fault Bytes)
    (fallback : Bytes) : Action τ Ack := do
  let outcome ← settle action
  return Ack.ofQuestion fallback (outcome >>= encode)

def done {α : Type} (_ : α) : Except Fault Bytes := .ok [0, 0, 0, 0]

def answer (player : Player) : Request → Action (Machine σ) Ack
  | .playNormal gacha selector =>
      change (Machine.playNormal player gacha selector) fun play => Reply.normalPlay play.items
  | .playStepup gacha selector =>
      change (Machine.playStepup player gacha selector) fun play =>
        Reply.stepupPlay play.guaranteed play.random
  | .playBox gacha selector =>
      change (Machine.playBox player gacha selector) fun play => Reply.boxPlay play.items
  | .boxInfo gacha => question (Machine.boxStatus player gacha) Reply.boxStatus [0]
  | .resetBox gacha => change (Machine.resetBox player gacha) done
  | .stepStatus gacha => do
      let serverTime ← Machine.serverTime
      question (Machine.stepStatus player gacha) (fun status => .ok (Reply.stepStatus status))
        (Reply.stepStatus { step := 0, serverTime })
  | .receive freeze =>
      question (Machine.receive player freeze) (fun drained => .ok drained.emitted.encode) [0]
  | .points =>
      question (Machine.points player) (fun points => .ok (Reply.points points))
        (List.replicate 12 0)
  | .usePoints trial premium => change (Machine.usePoints player trial premium) done
  | .buy trade quantity =>
      change (Machine.buy player trade quantity) fun amount => .ok (Reply.balance amount)
  | .sell trade quantity =>
      change (Machine.sell player trade quantity) fun amount => .ok (Reply.balance amount)
  | .acquire purchases => change (Machine.acquire player purchases) done
  | .enumerate hr gr => question (Machine.listing hr gr) Reply.listing [0, 0]

structure QueuedAck where
  handle : UInt32
  ack : Ack
  deriving DecidableEq, Repr

def handle (player : Player) (handle : UInt32) (request : Request) :
    Action (Machine σ) (List QueuedAck) := do
  let ack ← answer player request
  return [{ handle, ack }]

end Desk

end PrizeDraw
