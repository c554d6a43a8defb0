import PrizeDraw.Proofs.History
import PrizeDraw.Proofs.Winnings

namespace PrizeDraw

open scoped List

namespace Operation

variable {α : Type}

def won (character : CharacterId) : Operation α → α → List RewardItem
  | .playNormal player _ _, play =>
      if player.character = character then play.items.map DrawnItem.item else []
  | .playStepup player _ _, play =>
      if player.character = character then play.items.map DrawnItem.item else []
  | .playBox player _ _, play =>
      if player.character = character then play.items.map DrawnItem.item else []
  | _, _ => []

def takes (character : CharacterId) : Operation α → Bool
  | .receive player freeze => decide (player.character = character) && !freeze
  | _ => false

def plays (character : CharacterId) : Operation α → Bool
  | .playNormal player _ _ | .playStepup player _ _ | .playBox player _ _ =>
      decide (player.character = character)
  | _ => false

def writesBuffer (character : CharacterId) (operation : Operation α) : Bool :=
  operation.plays character || operation.takes character

def handed (character : CharacterId) (operation : Operation α) (answer : α) : List RewardItem :=
  match operation, answer with
  | .receive player freeze, drained =>
      if (receive player freeze).takes character then drained.emitted.items else []
  | _, _ => []

def pendingAfter (character : CharacterId) (operation : Operation α) (answer : α)
    (pending : List RewardItem) : List RewardItem :=
  operation.won character answer ++
    if operation.takes character then pending.drop Pending.maxEmitted else pending

theorem won_of_not_plays {character : CharacterId} {operation : Operation α}
    (h : operation.plays character = false) (answer : α) :
    operation.won character answer = [] := by
  cases operation with
  | playNormal player gacha selector => exact if_neg (of_decide_eq_false h)
  | playStepup player gacha step => exact if_neg (of_decide_eq_false h)
  | playBox player gacha selector => exact if_neg (of_decide_eq_false h)
  | _ => rfl

theorem handed_of_not_takes {character : CharacterId} {operation : Operation α}
    (h : operation.takes character = false) (answer : α) :
    operation.handed character answer = [] := by
  cases operation with
  | receive player freeze => simp only [handed, h, Bool.false_eq_true, if_false]
  | _ => rfl

theorem takes_of_plays {character : CharacterId} {operation : Operation α}
    (h : operation.plays character = true) : operation.takes character = false := by
  cases operation with
  | receive player freeze => cases h
  | _ => rfl

theorem inventory_of_not_writes {character : CharacterId} {operation : Operation α}
    (h : operation.writesBuffer character = false) :
    .inventory ∈ operation.reach.tables → character ≠ operation.reach.player.character := by
  intro htable heq
  subst heq
  cases operation with
  | playNormal player gacha selector => simp [writesBuffer, plays, reach] at h
  | playStepup player gacha step => simp [writesBuffer, plays, reach] at h
  | playBox player gacha selector => simp [writesBuffer, plays, reach] at h
  | receive player freeze =>
      cases freeze with
      | true => simp [reach] at htable
      | false => simp [writesBuffer, takes, reach] at h
  | _ => simp [reach] at htable

structure Settles (operation : Operation α) (answer : α) (character : CharacterId)
    (before after : Records) (initial pending : Pending) : Prop where
  loads : Pending.ofStored (after.held character) = .ok pending
  items : pending.items = operation.pendingAfter character answer initial.items
  balance : operation.won character answer ++ initial.items ~
    operation.handed character answer ++ pending.items
  wrote : operation.writesBuffer character = true → after.held character = pending.stored
  kept : operation.writesBuffer character = false →
    after.held character = before.held character

variable {machine worked : Machine Records} {character : CharacterId} {initial : Pending}
  {operation : Operation α} {answer : α}

theorem settles_of_not_writes (h : Action.run operation.body machine = (.ok answer, worked))
    (hinitial : Pending.ofStored (machine.store.held character) = .ok initial)
    (hwrites : operation.writesBuffer character = false) :
    operation.Settles answer character machine.store worked.store initial initial := by
  have hframe := operation.spoken_body.frame machine
  rw [h] at hframe
  have hheld := hframe.held character (inventory_of_not_writes hwrites)
  have hplays : operation.plays character = false := (Bool.or_eq_false_iff.1 hwrites).1
  have htakes : operation.takes character = false := (Bool.or_eq_false_iff.1 hwrites).2
  have hwon := won_of_not_plays hplays answer
  have hhanded := handed_of_not_takes htakes answer
  refine ⟨?_, ?_, ?_, fun hw => ?_, fun _ => hheld⟩
  · rw [hheld]
    exact hinitial
  · rw [pendingAfter, hwon, htakes]
    rfl
  · rw [hwon, hhanded]
  · rw [hwrites] at hw
    cases hw

theorem settles_of_gains {before after : Records}
    (hgains : before.Gains after character (operation.won character answer))
    (hinitial : Pending.ofStored (before.held character) = .ok initial)
    (hplays : operation.plays character = true) :
    ∃ pending, operation.Settles answer character before after initial pending := by
  obtain ⟨loaded, merged, hloaded, hmerged, hheld⟩ := hgains
  rw [hinitial] at hloaded
  cases hloaded
  have htakes := takes_of_plays hplays
  have hwrites : operation.writesBuffer character = true := by rw [writesBuffer, hplays]; rfl
  refine ⟨merged, ?_, ?_, ?_, fun _ => hheld, fun hnot => ?_⟩
  · rw [hheld]
    exact Pending.ofStored_stored merged
  · rw [hmerged, pendingAfter, htakes]
    rfl
  · rw [handed_of_not_takes htakes, hmerged, List.nil_append]
  · rw [hwrites] at hnot
    cases hnot

theorem settles_receive {player : Player} {drained : Drained}
    (h : Action.run (receive player false).body machine = (.ok drained, worked))
    (hinitial : Pending.ofStored (machine.store.held player.character) = .ok initial) :
    ∃ pending, (receive player false).Settles drained player.character machine.store worked.store
      initial pending := by
  have hdrain : Action.run (Machine.onStore (Inventory.drain player.character false)) machine =
      (.ok drained, worked) := h
  obtain ⟨loaded, hloaded, hemitted, hremaining, hheld⟩ :=
    Inventory.drain_ok (Machine.of_onStore_ok hdrain).1
  rw [hinitial] at hloaded
  cases hloaded
  have htakes : (receive player false).takes player.character = true := by simp [takes]
  have hwrites : (receive player false).writesBuffer player.character = true := by
    simp [writesBuffer, takes]
  refine ⟨drained.remaining, ?_, ?_, ?_, fun _ => hheld, fun hnot => ?_⟩
  · rw [hheld]
    exact Pending.ofStored_stored drained.remaining
  · rw [hremaining, pendingAfter, htakes]
    rfl
  · simp only [handed, htakes, if_true, hemitted, hremaining]
    rw [List.take_append_drop]
    exact List.Perm.refl _
  · rw [hwrites] at hnot
    cases hnot

theorem gains_of_plays (h : Action.run operation.body machine = (.ok answer, worked))
    (hplays : operation.plays character = true) :
    machine.store.Gains worked.store character (operation.won character answer) := by
  cases operation with
  | playNormal player gacha selector =>
      obtain rfl : player.character = character := of_decide_eq_true hplays
      rw [won, if_pos rfl]
      exact gains_playNormal h
  | playStepup player gacha step =>
      obtain rfl : player.character = character := of_decide_eq_true hplays
      rw [won, if_pos rfl]
      exact gains_playStepup h
  | playBox player gacha selector =>
      obtain rfl : player.character = character := of_decide_eq_true hplays
      rw [won, if_pos rfl]
      exact gains_playBox h
  | _ => cases hplays

theorem settles_of_takes (h : Action.run operation.body machine = (.ok answer, worked))
    (hinitial : Pending.ofStored (machine.store.held character) = .ok initial)
    (htakes : operation.takes character = true) :
    ∃ pending,
      operation.Settles answer character machine.store worked.store initial pending := by
  cases operation with
  | receive player freeze =>
      rw [takes, Bool.and_eq_true, decide_eq_true_eq, Bool.not_eq_true'] at htakes
      obtain ⟨rfl, rfl⟩ := htakes
      exact settles_receive h hinitial
  | _ => cases htakes

theorem settles_body (h : Action.run operation.body machine = (.ok answer, worked))
    (hinitial : Pending.ofStored (machine.store.held character) = .ok initial) :
    ∃ pending,
      operation.Settles answer character machine.store worked.store initial pending := by
  cases hplays : operation.plays character with
  | true => exact settles_of_gains (gains_of_plays h hplays) hinitial hplays
  | false =>
      cases htakes : operation.takes character with
      | true => exact settles_of_takes h hinitial htakes
      | false =>
          have hwrites : operation.writesBuffer character = false := by
            rw [writesBuffer, hplays, htakes]
            rfl
          exact ⟨initial, settles_of_not_writes h hinitial hwrites⟩

theorem emitted_receive {player : Player} {freeze : Bool} {drained : Drained}
    (h : Action.run (receive player freeze).body machine = (.ok drained, worked))
    (hinitial : Pending.ofStored (machine.store.held player.character) = .ok initial) :
    drained.emitted.items = initial.items.take Pending.maxEmitted := by
  have hdrain : Action.run (Machine.onStore (Inventory.drain player.character freeze)) machine =
      (.ok drained, worked) := h
  obtain ⟨loaded, hloaded, hemitted, -, -⟩ :=
    Inventory.drain_ok (Machine.of_onStore_ok hdrain).1
  rw [hinitial] at hloaded
  cases hloaded
  exact hemitted

end Operation

namespace Event

def won (character : CharacterId) : Event → List RewardItem
  | .answered operation (.ok answer) => operation.won character answer
  | _ => []

def handed (character : CharacterId) : Event → List RewardItem
  | .answered operation (.ok answer) => operation.handed character answer
  | _ => []

def pendingAfter (character : CharacterId) : Event → List RewardItem → List RewardItem
  | .answered operation (.ok answer), pending => operation.pendingAfter character answer pending
  | _, pending => pending

def writesBuffer (character : CharacterId) : Event → Bool
  | .answered operation (.ok _) => operation.writesBuffer character
  | _ => false

def prescribed (character : CharacterId) (pending : List RewardItem) (events : List Event) :
    List RewardItem :=
  events.foldl (fun pending event => event.pendingAfter character pending) pending

theorem prescribed_snoc (character : CharacterId) (pending : List RewardItem)
    (events : List Event) (event : Event) :
    prescribed character pending (events ++ [event]) =
      event.pendingAfter character (prescribed character pending events) := by
  rw [prescribed, List.foldl_append]
  rfl

structure Settled (character : CharacterId) (start : Records) (initial : Pending)
    (events : List Event) (now : Records) (pending : Pending) : Prop where
  loads : Pending.ofStored (now.held character) = .ok pending
  items : pending.items = prescribed character initial.items events
  balance : events.flatMap (won character) ++ initial.items ~
    events.flatMap (handed character) ++ pending.items
  wrote : events.any (writesBuffer character) = true → now.held character = pending.stored
  kept : events.any (writesBuffer character) = false →
    now.held character = start.held character

variable {character : CharacterId} {start now : Records} {initial pending : Pending}
  {events : List Event}

theorem Settled.idle (h : Settled character start initial events now pending) {event : Event}
    {next : Records} (hheld : next.held character = now.held character)
    (hwon : event.won character = []) (hhanded : event.handed character = [])
    (hafter : ∀ l, event.pendingAfter character l = l)
    (hwrites : event.writesBuffer character = false) :
    Settled character start initial (events ++ [event]) next pending := by
  have hany : (events ++ [event]).any (writesBuffer character) =
      events.any (writesBuffer character) := by
    simp [hwrites]
  refine ⟨?_, ?_, ?_, ?_, ?_⟩
  · rw [hheld]
    exact h.loads
  · rw [prescribed_snoc, hafter]
    exact h.items
  · simpa [List.flatMap_append, hwon, hhanded] using h.balance
  · rw [hany, hheld]
    exact h.wrote
  · rw [hany, hheld]
    exact h.kept

theorem Settled.settle (h : Settled character start initial events now pending) {α : Type}
    {operation : Operation α} {answer : α} {next : Records} {rest : Pending}
    (hop : operation.Settles answer character now next pending rest) :
    Settled character start initial (events ++ [answered operation (.ok answer)]) next rest := by
  have hany : (events ++ [answered operation (.ok answer)]).any (writesBuffer character) =
      (events.any (writesBuffer character) || operation.writesBuffer character) := by
    simp [writesBuffer]
  have hwon : (events ++ [answered operation (.ok answer)]).flatMap (won character) =
      events.flatMap (won character) ++ operation.won character answer := by
    simp [won]
  have hhanded : (events ++ [answered operation (.ok answer)]).flatMap (handed character) =
      events.flatMap (handed character) ++ operation.handed character answer := by
    simp [handed]
  refine ⟨hop.loads, ?_, ?_, ?_, ?_⟩
  · rw [prescribed_snoc, hop.items, h.items]
    rfl
  · rw [hwon, hhanded, List.append_assoc, List.append_assoc]
    calc events.flatMap (won character) ++ (operation.won character answer ++ initial.items)
        _ ~ operation.won character answer ++ (events.flatMap (won character) ++ initial.items) :=
          List.perm_append_comm_assoc _ _ _
        _ ~ operation.won character answer ++
            (events.flatMap (handed character) ++ pending.items) := h.balance.append_left _
        _ ~ events.flatMap (handed character) ++
            (operation.won character answer ++ pending.items) := List.perm_append_comm_assoc _ _ _
        _ ~ events.flatMap (handed character) ++
            (operation.handed character answer ++ rest.items) := hop.balance.append_left _
  · intro hwrote
    cases hwrites : operation.writesBuffer character with
    | true => exact hop.wrote hwrites
    | false =>
        rw [hany, hwrites, Bool.or_false] at hwrote
        have hheld := (hop.kept hwrites).trans (h.wrote hwrote)
        have hloads := hop.loads
        rw [hheld, Pending.ofStored_stored] at hloads
        cases hloads
        exact hheld
  · intro hkept
    rw [hany, Bool.or_eq_false_iff] at hkept
    exact (hop.kept hkept.2).trans (h.kept hkept.1)

end Event

namespace Machine

open Event

variable {character : CharacterId} {initial : Pending}

theorem settled_turn {start : Records} {past : List Event} {machine next : Machine Memory}
    {event : Event} (hturn : Turn machine event next)
    (h : ∃ pending, Settled character start initial past machine.store.records pending) :
    ∃ pending, Settled character start initial (past ++ [event]) next.store.records pending := by
  obtain ⟨pending, hsettled⟩ := h
  cases hturn with
  | done operation answer worked hworked =>
      obtain ⟨rest, hrest⟩ := Operation.settles_body hworked hsettled.loads
      exact ⟨rest, hsettled.settle hrest⟩
  | stopped operation halt worked hworked =>
      exact ⟨pending, hsettled.idle rfl rfl rfl (fun _ => rfl) rfl⟩
  | stocked catalog => exact ⟨pending, hsettled.idle rfl rfl rfl (fun _ => rfl) rfl⟩

theorem settled_serve (machine : Machine Memory)
    (hinitial : Pending.ofStored (machine.store.records.held character) = .ok initial)
    (calls : List Call) :
    ∃ pending, Settled character machine.store.records initial (machine.serve calls).1
      (machine.serve calls).2.store.records pending := by
  have hstart : ∃ pending,
      Settled character machine.store.records initial [] machine.store.records pending :=
    ⟨initial, hinitial, rfl, List.Perm.refl _, fun hwrote => absurd hwrote (by simp),
      fun _ => rfl⟩
  exact serve_keeps
    (P := fun events now =>
      ∃ pending, Settled character machine.store.records initial events now.store.records pending)
    (fun _ _ _ _ hturn h => settled_turn hturn h) calls hstart

theorem prizes_serve (machine : Machine Memory) (character : CharacterId) (initial : Pending)
    (hinitial : Pending.ofStored (machine.store.records.held character) = .ok initial)
    (calls : List Call) :
    let events := (machine.serve calls).1
    let held := (machine.serve calls).2.store.records.held character
    (∃ pending : Pending,
      Pending.ofStored held = .ok pending ∧
      pending.items = prescribed character initial.items events ∧
      (events.any (writesBuffer character) = true →
        (pending.items = [] ∧ held = none) ∨
          (1 ≤ pending.items.length ∧ pending.items.length ≤ 255 ∧
            held = some pending.encode)) ∧
      (events.any (writesBuffer character) = false →
        held = machine.store.records.held character) ∧
      initial.items ++ events.flatMap (won character) ~
        events.flatMap (handed character) ++ pending.items) ∧
    ∀ before player freeze drained rest,
      events = before ++ .answered (.receive player freeze) (.ok drained) :: rest →
      player.character = character →
      drained.emitted.items = (prescribed character initial.items before).take 36 := by
  intro events held
  constructor
  · obtain ⟨pending, hsettled⟩ := settled_serve machine hinitial calls
    refine ⟨pending, hsettled.loads, hsettled.items, ?_, hsettled.kept,
      List.perm_append_comm.trans hsettled.balance⟩
    intro hwrote
    have hheld := hsettled.wrote hwrote
    by_cases hempty : pending.items = []
    · left
      refine ⟨hempty, ?_⟩
      rw [Pending.stored, Pending.isEmpty, hempty] at hheld
      exact hheld
    · right
      refine ⟨List.length_pos_iff.2 hempty, pending.fits, ?_⟩
      rw [Pending.stored, Pending.isEmpty, if_neg (by simpa using hempty)] at hheld
      exact hheld
  · rintro before player freeze drained rest hevents rfl
    obtain ⟨earlier, next, hbefore, hturn⟩ := exists_of_serve_eq hevents
    obtain ⟨pending, hsettled⟩ := settled_serve machine hinitial earlier
    rw [hbefore] at hsettled
    rw [← hsettled.items]
    cases hturn with
    | done _ _ worked hworked => exact Operation.emitted_receive hworked hsettled.loads

theorem prizes_serve_box :
    Pending.ofStored ((Sample.machine Sample.records).store.records.held 1) = .ok .empty ∧
      ∃ pending, Pending.ofStored (((Sample.machine Sample.records).serve
          [.ask (.playBox Sample.player 1 0), .ask (.playBox Sample.player 1 0),
            .ask (.receive Sample.player true)]).2.store.records.held 1) = .ok pending ∧
        pending.items = [⟨7, 2, 1⟩, ⟨7, 1, 1⟩] := by
  have hprescribed : prescribed 1 [] ((Sample.machine Sample.records).serve
      [.ask (.playBox Sample.player 1 0), .ask (.playBox Sample.player 1 0),
        .ask (.receive Sample.player true)]).1 = [⟨7, 2, 1⟩, ⟨7, 1, 1⟩] := by
    decide +kernel
  obtain ⟨⟨pending, hloads, hitems, -⟩, -⟩ := prizes_serve (Sample.machine Sample.records) 1
    .empty rfl [.ask (.playBox Sample.player 1 0), .ask (.playBox Sample.player 1 0),
      .ask (.receive Sample.player true)]
  exact ⟨rfl, pending, hloads, hitems.trans hprescribed⟩

end Machine

end PrizeDraw
