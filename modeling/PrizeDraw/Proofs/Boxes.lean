import PrizeDraw.Proofs.Dealing

namespace PrizeDraw

namespace Operation

variable {α : Type}

def dealtAfter (gacha : GachaId) (character : CharacterId) :
    Operation α → α → List EntryId → List EntryId
  | .playBox player played _, play, dealt =>
      if gacha = played ∧ character = player.character then dealt ++ play.dealt else dealt
  | .resetBox player reset, _, dealt =>
      if gacha = reset ∧ character = player.character then [] else dealt
  | _, _, dealt => dealt

variable {gacha : GachaId} {character : CharacterId} {machine worked : Machine Records}
  {operation : Operation α} {answer : α}

theorem dealtTo_of_foreign (h : Action.run operation.body machine = (.ok answer, worked))
    (hout : .box ∈ operation.reach.tables →
      ¬(gacha = operation.reach.gacha ∧ character = operation.reach.player.character)) :
    worked.store.dealtTo gacha character = machine.store.dealtTo gacha character := by
  have hframe := operation.spoken_body.frame machine
  rw [h] at hframe
  exact hframe.dealt gacha character hout

theorem dealtTo_body (h : Action.run operation.body machine = (.ok answer, worked)) :
    worked.store.dealtTo gacha character =
      operation.dealtAfter gacha character answer (machine.store.dealtTo gacha character) := by
  cases operation with
  | playBox player played selector =>
      by_cases hself : gacha = played ∧ character = player.character
      · rw [dealtAfter, if_pos hself]
        obtain ⟨rfl, rfl⟩ := hself
        exact dealtTo_playBox h
      · rw [dealtAfter, if_neg hself]
        exact dealtTo_of_foreign h fun _ => hself
  | resetBox player reset =>
      by_cases hself : gacha = reset ∧ character = player.character
      · rw [dealtAfter, if_pos hself]
        obtain ⟨rfl, rfl⟩ := hself
        exact dealtTo_resetBox h
      · rw [dealtAfter, if_neg hself]
        exact dealtTo_of_foreign h fun _ => hself
  | receive player freeze =>
      refine dealtTo_of_foreign h fun hbox => ?_
      cases freeze <;> simp [reach] at hbox
  | _ => exact dealtTo_of_foreign h fun hbox => by simp [reach] at hbox

theorem nodup_dealtAfter (hkeyed : machine.store.Keyed)
    (h : Action.run operation.body machine = (.ok answer, worked))
    (hnodup : (machine.store.dealtTo gacha character).Nodup) :
    (operation.dealtAfter gacha character answer
      (machine.store.dealtTo gacha character)).Nodup := by
  cases operation with
  | playBox player played selector =>
      by_cases hself : gacha = played ∧ character = player.character
      · rw [dealtAfter, if_pos hself]
        obtain ⟨rfl, rfl⟩ := hself
        obtain ⟨cost, -, -, hdealt, hnew, -⟩ := deals_playBox hkeyed h
        refine List.Nodup.append hnodup hdealt ?_
        intro id hold hid
        obtain ⟨entry, hentry, rfl⟩ := hnew id hid
        exact (Records.mem_undealt hentry).2.2 hold
      · rw [dealtAfter, if_neg hself]
        exact hnodup
  | resetBox player reset =>
      by_cases hself : gacha = reset ∧ character = player.character
      · rw [dealtAfter, if_pos hself]
        exact List.nodup_nil
      · rw [dealtAfter, if_neg hself]
        exact hnodup
  | _ => exact hnodup

end Operation

namespace Event

def dealtAfter (gacha : GachaId) (character : CharacterId) :
    Event → List EntryId → List EntryId
  | .answered operation (.ok answer), dealt => operation.dealtAfter gacha character answer dealt
  | _, dealt => dealt

def dealtSince (gacha : GachaId) (character : CharacterId) (events : List Event) :
    List EntryId :=
  events.foldl (fun dealt event => event.dealtAfter gacha character dealt) []

theorem dealtSince_snoc (gacha : GachaId) (character : CharacterId) (events : List Event)
    (event : Event) :
    dealtSince gacha character (events ++ [event]) =
      event.dealtAfter gacha character (dealtSince gacha character events) := by
  rw [dealtSince, List.foldl_append]
  rfl

structure Dealt (gacha : GachaId) (character : CharacterId) (events : List Event)
    (now : Records) : Prop where
  keyed : now.Keyed
  rows : now.dealtTo gacha character = dealtSince gacha character events
  nodup : (now.dealtTo gacha character).Nodup

end Event

namespace Machine

open Event

variable {gacha : GachaId} {character : CharacterId}

theorem dealtTo_turn {past : List Event} {machine next : Machine Memory} {event : Event}
    (hturn : Turn machine event next)
    (h : machine.store.records.dealtTo gacha character = dealtSince gacha character past) :
    next.store.records.dealtTo gacha character =
      dealtSince gacha character (past ++ [event]) := by
  rw [dealtSince_snoc, ← h]
  cases hturn with
  | done operation answer worked hworked => exact Operation.dealtTo_body hworked
  | stopped operation halt worked hworked => rfl
  | stocked catalog => rfl

theorem dealtTo_serve {machine : Machine Memory}
    (hstart : machine.store.records.dealtTo gacha character = []) (calls : List Call) :
    (machine.serve calls).2.store.records.dealtTo gacha character =
      dealtSince gacha character (machine.serve calls).1 :=
  serve_keeps (P := fun events now => now.store.records.dealtTo gacha character =
    dealtSince gacha character events) (fun _ _ _ _ hturn h => dealtTo_turn hturn h) calls
    hstart

theorem dealt_turn {past : List Event} {machine next : Machine Memory} {event : Event}
    (hturn : Turn machine event next) (h : Dealt gacha character past machine.store.records) :
    Dealt gacha character (past ++ [event]) next.store.records := by
  refine ⟨keyed_turn hturn h.keyed, dealtTo_turn hturn h.rows, ?_⟩
  cases hturn with
  | done operation answer worked hworked =>
      have hrows : worked.store.dealtTo gacha character =
          operation.dealtAfter gacha character answer
            (machine.store.records.dealtTo gacha character) :=
        Operation.dealtTo_body hworked
      have hnodup : (operation.dealtAfter gacha character answer
          (machine.store.records.dealtTo gacha character)).Nodup :=
        Operation.nodup_dealtAfter h.keyed hworked h.nodup
      rw [← hrows] at hnodup
      exact hnodup
  | stopped operation halt worked hworked => exact h.nodup
  | stocked catalog => exact h.nodup

theorem dealt_serve {machine : Machine Memory} (hkeyed : machine.store.records.Keyed)
    (hstart : machine.store.records.dealtTo gacha character = []) (calls : List Call) :
    Dealt gacha character (machine.serve calls).1 (machine.serve calls).2.store.records := by
  have hbegin : Dealt gacha character [] machine.store.records :=
    ⟨hkeyed, hstart, hstart ▸ List.nodup_nil⟩
  exact serve_keeps (P := fun events now => Dealt gacha character events now.store.records)
    (fun _ _ _ _ hturn h => dealt_turn hturn h) calls hbegin

theorem boxes_serve (machine : Machine Memory) (gacha : GachaId) (character : CharacterId)
    (hkeyed : machine.store.records.Keyed)
    (hstart : machine.store.records.dealtTo gacha character = []) (calls : List Call) :
    let now := (machine.serve calls).2
    let rows := now.store.records.dealtTo gacha character
    let left := now.store.records.undealt gacha character
    rows = dealtSince gacha character (machine.serve calls).1 ∧
    rows.Nodup ∧
    (∀ player : Player, player.character = character →
      (Action.run (Operation.boxStatus player gacha).perform now).1 =
        .ok (rows.map fun entry => { entry, exhausted := true })) ∧
    (∀ (player : Player) (selector : UInt8) (play : BoxPlay) (next : Machine Memory),
      player.character = character →
      Action.run (Operation.playBox player gacha selector).perform now = (.ok play, next) →
      ∃ cost, (now.store.records.entriesOf gacha).find?
          (fun entry => entry.entryType == selector) = some cost ∧
        play.dealt.length = cost.rolls.toNat ∧
        ∀ id ∈ play.dealt, id ∉ rows ∧
          ∃ entry ∈ now.store.records.entriesOf gacha, entry.id = id ∧ entry.entryType = 100) ∧
    (∀ (player : Player) (selector : UInt8) (cost : Entry) (pool : List Entry)
      (opened : Records), player.character = character →
      Action.run (Play.openBox player gacha selector) now.store.records =
        (.ok (cost, pool), opened) →
      left.length < cost.rolls.toNat →
      Action.run (Operation.playBox player gacha selector).perform now =
        (.error (.refused (.insufficientPool cost.rolls.toNat left.length)),
          { now with store := { records := now.store.records } })) := by
  intro now rows left
  have hdealt := dealt_serve hkeyed hstart calls
  refine ⟨hdealt.rows, hdealt.nodup, ?_, ?_, ?_⟩
  · rintro player rfl
    rw [Operation.run_memory, Operation.run_boxStatus]
    rfl
  · rintro player selector play next rfl hplay
    obtain ⟨worked, hworked, -⟩ := Operation.run_memory_of_ok hplay
    obtain ⟨cost, hcost, hcount, -, hnew, -⟩ := Operation.deals_playBox hdealt.keyed hworked
    refine ⟨cost, hcost, hcount, ?_⟩
    intro id hid
    obtain ⟨entry, hentry, rfl⟩ := hnew id hid
    obtain ⟨hmem, hpool, hfresh⟩ := Records.mem_undealt hentry
    exact ⟨hfresh, entry, hmem, rfl, hpool⟩
  · rintro player selector cost pool opened rfl hopen hshort
    have hrefused : Action.run (Operation.playBox player gacha selector).body now.plain =
        (.error (.refused (.insufficientPool cost.rolls.toNat left.length)),
          { now.plain with store := opened }) :=
      Operation.run_playBox_of_short hopen hshort
    rw [Operation.run_memory, hrefused]
    rfl

theorem boxes_serve_two :
    (Sample.machine Sample.records).store.records.Keyed ∧
      (Sample.machine Sample.records).store.records.dealtTo 1 1 = [] ∧
      ((Sample.machine Sample.records).serve [.ask (.playBox Sample.player 1 0),
        .ask (.playBox Sample.player 1 0)]).2.store.records.dealtTo 1 1 = [2, 3] := by
  have hkeyed : (Sample.machine Sample.records).store.records.Keyed :=
    (Records.keyed_empty.addCatalog Sample.catalog).of_entries_eq rfl
  have hdealt : dealtSince 1 1 ((Sample.machine Sample.records).serve
      [.ask (.playBox Sample.player 1 0), .ask (.playBox Sample.player 1 0)]).1 = [2, 3] := by
    decide +kernel
  obtain ⟨hrows, -⟩ := boxes_serve (Sample.machine Sample.records) 1 1 hkeyed rfl
    [.ask (.playBox Sample.player 1 0), .ask (.playBox Sample.player 1 0)]
  exact ⟨hkeyed, rfl, hrows.trans hdealt⟩

end Machine

end PrizeDraw
