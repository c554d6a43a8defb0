import PrizeDraw.Proofs.Acknowledgments
import PrizeDraw.Proofs.Winnings

namespace PrizeDraw

namespace Wire

def bigEndian (bytes : Bytes) : Nat := bytes.foldl (fun n byte => 256 * n + byte.toNat) 0

theorem bigEndian_u32 (v : UInt32) : bigEndian (u32 v) = v.toNat := by
  have hv := v.toNat_lt
  simp only [bigEndian, u32, List.foldl_cons, List.foldl_nil, UInt32.toNat_toUInt8,
    UInt32.toNat_shiftRight, Nat.shiftRight_eq_div_pow]
  simp
  omega

end Wire

namespace DrawnItem

def read (bytes : Bytes) : Option (DrawnItem × Bytes) :=
  match RewardItem.read bytes with
  | (some item, rarity :: rest) => some ({ item, rarity }, rest)
  | _ => none

theorem read_encode (drawn : DrawnItem) (rest : Bytes) :
    read (drawn.encode ++ rest) = some (drawn, rest) := by
  rw [read, encode, List.append_assoc, RewardItem.read_encode]
  rfl

end DrawnItem

namespace Reply

def readDrawn : Nat → Bytes → Option (List DrawnItem × Bytes)
  | 0, bytes => some ([], bytes)
  | count + 1, bytes => do
      let (drawn, rest) ← DrawnItem.read bytes
      let (others, rest) ← readDrawn count rest
      return (drawn :: others, rest)

def readPlay : Bytes → Option (List DrawnItem)
  | [] => none
  | count :: body =>
      match readDrawn count.toNat body with
      | some (items, []) => some items
      | _ => none

def readStepup : Bytes → Option (List DrawnItem × List DrawnItem)
  | total :: random :: body =>
      match readDrawn total.toNat body with
      | some (items, []) =>
          if random ≤ total then some (items.splitAt (total.toNat - random.toNat)) else none
      | _ => none
  | _ => none

theorem readDrawn_drawnItems (items : List DrawnItem) (rest : Bytes) :
    readDrawn items.length (drawnItems items ++ rest) = some (items, rest) := by
  induction items with
  | nil => rfl
  | cons drawn others ih =>
      have hfront : drawnItems (drawn :: others) ++ rest =
          drawn.encode ++ (drawnItems others ++ rest) := by
        simp [drawnItems]
      rw [hfront, List.length_cons, readDrawn, DrawnItem.read_encode]
      simp [ih]

theorem count8_of_le {count : Nat} (h : count ≤ Pending.maxItems) :
    count8 count = .ok [UInt8.ofNat count] :=
  if_pos (Nat.lt_succ_of_le h)

theorem toNat_count8 {count : Nat} (h : count ≤ Pending.maxItems) :
    (UInt8.ofNat count).toNat = count :=
  UInt8.toNat_ofNat_of_lt' (Nat.lt_succ_of_le h)

theorem readPlay_normalPlay {items : List DrawnItem} (h : items.length ≤ Pending.maxItems) :
    ∃ payload, normalPlay items = .ok payload ∧ readPlay payload = some items := by
  have hread := readDrawn_drawnItems items []
  rw [List.append_nil] at hread
  refine ⟨UInt8.ofNat items.length :: drawnItems items, ?_, ?_⟩
  · unfold normalPlay
    rw [count8_of_le h]
    rfl
  · rw [readPlay, toNat_count8 h, hread]

theorem readStepup_stepupPlay {guaranteed random : List DrawnItem}
    (h : (guaranteed ++ random).length ≤ Pending.maxItems) :
    ∃ payload, stepupPlay guaranteed random = .ok payload ∧
      readStepup payload = some (guaranteed, random) := by
  have hlength : guaranteed.length + random.length ≤ Pending.maxItems := by
    rwa [List.length_append] at h
  have hrandom : random.length ≤ Pending.maxItems :=
    Nat.le_trans (Nat.le_add_left _ _) hlength
  have hread := readDrawn_drawnItems (guaranteed ++ random) []
  rw [List.append_nil, List.length_append] at hread
  refine ⟨UInt8.ofNat (guaranteed.length + random.length) :: UInt8.ofNat random.length ::
    drawnItems (guaranteed ++ random), ?_, ?_⟩
  · unfold stepupPlay
    rw [count8_of_le hlength, count8_of_le hrandom]
    simp [drawnItems, bind, Except.bind, pure, Except.pure]
  · have hfits : UInt8.ofNat random.length ≤ UInt8.ofNat (guaranteed.length + random.length) := by
      rw [UInt8.le_iff_toNat_le, toNat_count8 hlength, toNat_count8 hrandom]
      exact Nat.le_add_left _ _
    rw [readStepup, toNat_count8 hlength, toNat_count8 hrandom, hread]
    dsimp only
    rw [if_pos hfits, Nat.add_sub_cancel, List.splitAt_eq, List.take_left, List.drop_left]

end Reply

namespace Play

variable {player : Player} {records after : Records}

theorem rarity_of_closeStepup {gacha : GachaId} {step nextStep : UInt8} {drawn : List Entry}
    {play : StepupPlay}
    (h : Action.run (closeStepup player gacha step nextStep drawn) records = (.ok play, after)) :
    ∀ drawn ∈ play.guaranteed, drawn.rarity = 0 := by
  obtain ⟨random, collected, hcollect, hlooked⟩ := Action.exists_of_bind_ok h
  obtain ⟨fixed, looked, hfixed, hawarded⟩ := Action.exists_of_bind_ok hlooked
  obtain ⟨_, awarded, haward, hanswer⟩ := Action.exists_of_bind_ok hawarded
  obtain ⟨rfl, -⟩ := Action.of_pure_ok hanswer
  simp

end Play

namespace Records

theorem Gains.first {before after : Records} {character : CharacterId} {won : List RewardItem}
    (h : before.Gains after character won) :
    won.length ≤ Pending.maxItems ∧
      ∃ pending, Pending.ofStored (after.held character) = .ok pending ∧
        pending.items.take won.length = won := by
  obtain ⟨pending, merged, -, hmerged, hafter⟩ := h
  refine ⟨?_, merged, ?_, ?_⟩
  · have hfits := merged.fits
    rw [hmerged, List.length_append] at hfits
    omega
  · rw [hafter, Pending.ofStored_stored]
  · rw [hmerged, List.take_left]

end Records

namespace Request

def changes : Request → Bool
  | .playNormal _ _ | .playStepup _ _ | .playBox _ _ | .resetBox _ | .usePoints _ _ | .buy _ _
  | .sell _ _ | .acquire _ => true
  | .boxInfo _ | .stepStatus _ | .receive _ | .points | .enumerate _ _ => false

end Request

namespace Operation

variable {α : Type}

def Describes (records : Records) (payload : Bytes) : Operation α → α → Prop
  | .playNormal player _ _, play =>
      Reply.readPlay payload = some play.items ∧
        ∃ pending, Pending.ofStored (records.held player.character) = .ok pending ∧
          pending.items.take play.items.length = play.items.map DrawnItem.item
  | .playBox player _ _, play =>
      Reply.readPlay payload = some play.items ∧
        ∃ pending, Pending.ofStored (records.held player.character) = .ok pending ∧
          pending.items.take play.items.length = play.items.map DrawnItem.item
  | .playStepup player _ _, play =>
      Reply.readStepup payload = some (play.guaranteed, play.random) ∧
        (∀ drawn ∈ play.guaranteed, drawn.rarity = 0) ∧
        ∃ pending, Pending.ofStored (records.held player.character) = .ok pending ∧
          pending.items.take play.items.length = play.items.map DrawnItem.item
  | .buy player _ _, _ | .sell player _ _, _ =>
      payload.length = 4 ∧
        ∃ balance, records.balance player .frontierPoints = .ok balance ∧
          (Wire.bigEndian payload : Int) = Amount.clamp 0 4294967295 balance.toInt
  | _, _ => payload = [0, 0, 0, 0]

theorem balance_describes {records : Records} {player : Player} {amount : Int64}
    (h : records.balance player .frontierPoints = .ok amount) :
    (Reply.balance amount).length = 4 ∧
      ∃ balance, records.balance player .frontierPoints = .ok balance ∧
        (Wire.bigEndian (Reply.balance amount) : Int) =
          Amount.clamp 0 4294967295 balance.toInt := by
  refine ⟨rfl, amount, h, ?_⟩
  rw [Reply.balance, Wire.bigEndian_u32, Reply.wireAmount, Amount.clampU32]
  generalize hclamped : Amount.clamp 0 4294967295 amount.toInt = clamped
  unfold Amount.clamp at hclamped
  rw [UInt32.toNat_ofNat_of_lt' (by unfold UInt32.size; omega)]
  omega

theorem describes_playNormal {player : Player} {gacha : GachaId} {selector : UInt8}
    {machine worked : Machine Records} {play : NormalPlay}
    (h : Action.run (playNormal player gacha selector).body machine = (.ok play, worked)) :
    ∃ payload, Reply.normalPlay play.items = .ok payload ∧
      (playNormal player gacha selector).Describes worked.store payload play := by
  obtain ⟨hfits, hfirst⟩ := (gains_playNormal h).first
  rw [List.length_map] at hfits hfirst
  obtain ⟨payload, hencoded, hread⟩ := Reply.readPlay_normalPlay hfits
  exact ⟨payload, hencoded, hread, hfirst⟩

theorem describes_playBox {player : Player} {gacha : GachaId} {selector : UInt8}
    {machine worked : Machine Records} {play : BoxPlay}
    (h : Action.run (playBox player gacha selector).body machine = (.ok play, worked)) :
    ∃ payload, Reply.boxPlay play.items = .ok payload ∧
      (playBox player gacha selector).Describes worked.store payload play := by
  obtain ⟨hfits, hfirst⟩ := (gains_playBox h).first
  rw [List.length_map] at hfits hfirst
  obtain ⟨payload, hencoded, hread⟩ := Reply.readPlay_normalPlay hfits
  exact ⟨payload, hencoded, hread, hfirst⟩

theorem describes_playStepup {player : Player} {gacha : GachaId} {step : UInt8}
    {machine worked : Machine Records} {play : StepupPlay}
    (h : Action.run (playStepup player gacha step).body machine = (.ok play, worked)) :
    ∃ payload, Reply.stepupPlay play.guaranteed play.random = .ok payload ∧
      (playStepup player gacha step).Describes worked.store payload play := by
  obtain ⟨hfits, hfirst⟩ := (gains_playStepup h).first
  rw [List.length_map] at hfits hfirst
  obtain ⟨cost, nextStep, pool, drawn, opened, hopen, hclose⟩ := playStepup_ok h
  obtain ⟨payload, hencoded, hread⟩ := Reply.readStepup_stepupPlay hfits
  exact ⟨payload, hencoded, hread, Play.rarity_of_closeStepup hclose, hfirst⟩

end Operation

namespace Request

theorem acknowledge_ok {player : Player} {request : Request} (hchange : request.changes = true)
    {machine worked : Machine Records} {answer : (request.errand player).Answer}
    (h : Action.run (request.errand player).operation.body machine = (.ok answer, worked))
    (time : UInt32) :
    ∃ payload, (request.errand player).acknowledge time (.ok answer) = .succeed payload ∧
      (request.errand player).operation.Describes worked.store payload answer := by
  have hreports := (request.errand player).operation.reports_body h
  cases request with
  | playNormal gacha selector =>
      obtain ⟨payload, hencoded, hdescribes⟩ := Operation.describes_playNormal h
      exact ⟨payload, congrArg Ack.ofChange hencoded, hdescribes⟩
  | playStepup gacha step =>
      obtain ⟨payload, hencoded, hdescribes⟩ := Operation.describes_playStepup h
      exact ⟨payload, congrArg Ack.ofChange hencoded, hdescribes⟩
  | playBox gacha selector =>
      obtain ⟨payload, hencoded, hdescribes⟩ := Operation.describes_playBox h
      exact ⟨payload, congrArg Ack.ofChange hencoded, hdescribes⟩
  | buy trade lots =>
      have hstored := hreports ⟨player, .frontierPoints, answer⟩ List.mem_cons_self
      exact ⟨_, rfl, Operation.balance_describes (Records.balance_ok_iff.2 hstored)⟩
  | sell trade units =>
      have hstored := hreports ⟨player, .frontierPoints, answer⟩ List.mem_cons_self
      exact ⟨_, rfl, Operation.balance_describes (Records.balance_ok_iff.2 hstored)⟩
  | resetBox gacha => exact ⟨_, rfl, rfl⟩
  | usePoints trial premium => exact ⟨_, rfl, rfl⟩
  | acquire purchases => exact ⟨_, rfl, rfl⟩
  | _ => cases hchange

theorem acknowledge_error {player : Player} {request : Request} (hchange : request.changes = true)
    (time : UInt32) (fault : Fault) :
    (request.errand player).acknowledge time (.error fault) = .fail [0, 0, 0, 0] := by
  cases request with
  | boxInfo gacha => cases hchange
  | stepStatus gacha => cases hchange
  | receive freeze => cases hchange
  | points => cases hchange
  | enumerate hr gr => cases hchange
  | _ => rfl

end Request

namespace Desk

variable {player : Player} {handle : UInt32} {request : Request} {machine next : Machine Memory}
  {queued : List QueuedAck}

theorem change_cases (hchange : request.changes = true)
    (h : Action.run (Desk.handle player handle request) machine = (.ok queued, next)) :
    (∃ fault,
      Action.run (request.errand player).operation.perform machine =
        (.error (.refused fault), next) ∧
      queued = [{ handle, ack := .fail [0, 0, 0, 0] }]) ∨
    ∃ answer worked payload,
      Action.run (request.errand player).operation.perform machine = (.ok answer, next) ∧
      Action.run (request.errand player).operation.body machine.plain = (.ok answer, worked) ∧
      next = worked.stored ∧ queued = [{ handle, ack := .succeed payload }] ∧
      (request.errand player).operation.Describes next.store.records payload answer := by
  have hhandled := run_handle player handle request machine
  rw [h] at hhandled
  dsimp only at hhandled
  cases hrun : Action.run (request.errand player).operation.perform machine with
  | mk outcome reached =>
  rw [hrun] at hhandled
  cases outcome with
  | error halt =>
      cases halt with
      | overflow => cases hhandled
      | refused fault =>
          dsimp only at hhandled
          rw [Request.acknowledge_error hchange] at hhandled
          cases hhandled
          exact .inl ⟨fault, rfl, rfl⟩
  | ok answer =>
      obtain ⟨worked, hworked, rfl⟩ := Operation.run_memory_of_ok hrun
      obtain ⟨payload, hsucceed, hdescribes⟩ :=
        Request.acknowledge_ok hchange hworked machine.clock.reading
      dsimp only at hhandled
      rw [hsucceed] at hhandled
      cases hhandled
      exact .inr ⟨answer, worked, payload, rfl, hworked, rfl, rfl, hdescribes⟩

theorem change_acknowledged (player : Player) (handle : UInt32) (request : Request)
    (hchange : request.changes = true) (machine next : Machine Memory) (queued : List QueuedAck)
    (h : Action.run (Desk.handle player handle request) machine = (.ok queued, next)) :
    let operation := (request.errand player).operation
    let outcome := (Action.run operation.perform machine).1
    (queued = [{ handle, ack := .fail [0, 0, 0, 0] }] ↔
        ∃ fault, outcome = .error (.refused fault)) ∧
      ((∃ payload, queued = [{ handle, ack := .succeed payload }]) ↔
        ∃ answer, outcome = .ok answer) ∧
      (∀ fault, outcome = .error (.refused fault) →
        next.store = { records := machine.store.records }) ∧
      ∀ answer, outcome = .ok answer → ∃ worked payload,
        Action.run operation.body machine.plain = (.ok answer, worked) ∧ next = worked.stored ∧
          queued = [{ handle, ack := .succeed payload }] ∧
          operation.Describes next.store.records payload answer := by
  intro operation outcome
  obtain ⟨fault, hrun, rfl⟩ | ⟨answer, worked, payload, hrun, hworked, hnext, rfl, hdescribes⟩ :=
    change_cases hchange h
  · have houtcome : outcome = .error (.refused fault) := congrArg Prod.fst hrun
    have hkept := Operation.store_of_error houtcome
    rw [show Action.run operation.perform machine = _ from hrun] at hkept
    rw [houtcome]
    refine ⟨iff_of_true rfl ⟨fault, rfl⟩, iff_of_false ?_ ?_, fun _ _ => hkept, ?_⟩
    · rintro ⟨payload, hsame⟩
      cases hsame
    · rintro ⟨answer, hsame⟩
      cases hsame
    · intro answer hsame
      cases hsame
  · have houtcome : outcome = .ok answer := congrArg Prod.fst hrun
    rw [houtcome]
    refine ⟨iff_of_false ?_ ?_, iff_of_true ⟨payload, rfl⟩ ⟨answer, rfl⟩, ?_, ?_⟩
    · intro hsame
      cases hsame
    · rintro ⟨fault, hsame⟩
      cases hsame
    · intro fault hsame
      cases hsame
    · intro same hsame
      cases hsame
      exact ⟨worked, payload, hworked, hnext, rfl, hdescribes⟩

theorem change_acknowledged_box :
    (Request.playBox 1 0).changes = true ∧
      ∃ next, Action.run (Desk.handle Sample.player 7 (.playBox 1 0))
          (Sample.machine Sample.records) =
            (.ok [{ handle := 7, ack := .succeed [1, 7, 0, 1, 0, 1, 0] }], next) ∧
        ∃ pending, Pending.ofStored (next.store.records.held 1) = .ok pending ∧
          pending.items.take 1 = [⟨7, 1, 1⟩] := by
  obtain ⟨-, -, -, hdone⟩ := change_acknowledged Sample.player 7 (.playBox 1 0) rfl
    (Sample.machine Sample.records) _ _ rfl
  obtain ⟨worked, payload, -, -, -, -, pending, hpending, hfirst⟩ := hdone _ rfl
  exact ⟨rfl, _, rfl, pending, hpending, hfirst⟩

end Desk

end PrizeDraw
