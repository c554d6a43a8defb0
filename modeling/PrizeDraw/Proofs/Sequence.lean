import PrizeDraw.Proofs.History
import PrizeDraw.Proofs.Stepping

namespace PrizeDraw

namespace Sample

def ladder : Records :=
  (({} : Records).addCatalog
    { gachas := [{ id := 1, name := "ladder", gachaType := 2 }]
      entries := [
        { entry := { id := 1, gacha := 1, entryType := 0 } },
        { entry := { id := 2, gacha := 1, entryType := 1 } }] }).addPlayer player

end Sample

namespace Operation

def stepPlayed? {α : Type} (gacha : GachaId) (character : CharacterId) :
    Operation α → Option UInt8
  | .playStepup player played step =>
      if gacha = played ∧ character = player.character then some step else none
  | _ => none

end Operation

namespace Event

variable {records : Records} {gacha : GachaId} {character : CharacterId}

def stepPlayed? (gacha : GachaId) (character : CharacterId) : Event → Option UInt8
  | .answered operation (.ok _) => operation.stepPlayed? gacha character
  | _ => none

def stepAfter (records : Records) (gacha : GachaId) (character : CharacterId) :
    Event → Option UInt8 → Option UInt8
  | .answered operation (.ok _), stored => operation.stepAfter records gacha character stored
  | _, stored => stored

theorem stepAfter_cases (event : Event) (records : Records) (gacha : GachaId)
    (character : CharacterId) (stored : Option UInt8) :
    (event.stepPlayed? gacha character = none ∧
        event.stepAfter records gacha character stored = stored) ∨
      (∃ player step play, event = .answered (.playStepup player gacha step) (.ok play) ∧
        player.character = character ∧
        event.stepAfter records gacha character stored = some (Steps.after step)) ∨
      (∃ player status, event = .answered (.stepStatus player gacha) (.ok status) ∧
        player.character = character ∧ event.stepAfter records gacha character stored = none ∧
        ¬records.hasStep gacha (stored.getD 0) = true) := by
  cases event with
  | stocked catalog => exact .inl ⟨rfl, rfl⟩
  | answered operation outcome =>
      cases outcome with
      | error halt => exact .inl ⟨rfl, rfl⟩
      | ok answer =>
          cases operation with
          | playStepup player played step =>
              by_cases hself : gacha = played ∧ character = player.character
              · have hafter : (Event.answered (.playStepup player played step)
                    (.ok answer)).stepAfter records gacha character stored =
                      some (Steps.after step) := if_pos hself
                obtain ⟨rfl, rfl⟩ := hself
                exact .inr (.inl ⟨player, step, answer, rfl, rfl, hafter⟩)
              · exact .inl ⟨if_neg hself, if_neg hself⟩
          | stepStatus player asked =>
              by_cases hself : gacha = asked ∧ character = player.character
              · have hafter : (Event.answered (.stepStatus player asked)
                    (.ok answer)).stepAfter records gacha character stored =
                      records.stepKept gacha stored := if_pos hself
                obtain ⟨rfl, rfl⟩ := hself
                by_cases hstep : records.hasStep gacha (stored.getD 0) = true
                · exact .inl ⟨rfl, hafter.trans (if_pos hstep)⟩
                · refine .inr (.inr ⟨player, answer, rfl, rfl, ?_, hstep⟩)
                  exact hafter.trans (if_neg hstep)
              · exact .inl ⟨rfl, if_neg hself⟩
          | _ => exact .inl ⟨rfl, rfl⟩

end Event

namespace Machine

open Event

variable {gacha : GachaId} {character : CharacterId} {machine next : Machine Memory} {event : Event}
  {stored : Option UInt8}

theorem steps?_turn (hturn : Turn machine event next)
    (hstored : machine.store.records.steps? gacha character = stored.toList) :
    next.store.records.steps? gacha character =
      (event.stepAfter machine.store.records gacha character stored).toList := by
  cases hturn with
  | done operation answer worked hworked => exact Operation.steps?_body hstored hworked
  | stopped operation halt worked hworked => exact hstored
  | stocked catalog => exact hstored

theorem steps?_serve (hstart : machine.store.records.steps? gacha character = [])
    (calls : List Call) :
    ∃ stored : Option UInt8,
      (machine.serve calls).2.store.records.steps? gacha character = stored.toList := by
  refine serve_keeps (P := fun _ now => ∃ stored : Option UInt8,
    now.store.records.steps? gacha character = stored.toList) ?_ calls ⟨none, hstart⟩
  rintro past machine event next hturn ⟨stored, hstored⟩
  exact ⟨_, steps?_turn hturn hstored⟩

theorem step_moves (machine : Machine Memory) (gacha : GachaId) (character : CharacterId)
    (hstart : machine.store.records.steps? gacha character = []) (calls : List Call)
    (call : Call) :
    let now := (machine.serve calls).2
    let event := (now.call call).1
    let next := (now.call call).2
    ∃ before after : Option UInt8,
      now.store.records.steps? gacha character = before.toList ∧
      next.store.records.steps? gacha character = after.toList ∧
      (∀ player step play, event = .answered (.playStepup player gacha step) (.ok play) →
        player.character = character → after = some (Steps.after step)) ∧
      ∀ stored, before = some stored →
        (∃ later, after = some later ∧ stored ≤ later) ∨
        (after = none ∧ ∃ player status,
          event = .answered (.stepStatus player gacha) (.ok status) ∧
          player.character = character ∧
          ∀ entry ∈ now.store.records.entriesOf gacha, entry.entryType = stored →
            entry.isProgression = false) ∨
        (∃ player step play, event = .answered (.playStepup player gacha step) (.ok play) ∧
          player.character = character ∧ after = some (Steps.after step) ∧
          Steps.after step < stored) := by
  intro now event next
  obtain ⟨before, hbefore⟩ := steps?_serve hstart calls
  have hturn : Turn now event next := now.turn_call call
  refine ⟨before, event.stepAfter now.store.records gacha character before, hbefore,
    steps?_turn hturn hbefore, ?_, ?_⟩
  · rintro player step play hevent rfl
    rw [hevent]
    exact if_pos ⟨rfl, rfl⟩
  · rintro stored rfl
    rcases event.stepAfter_cases now.store.records gacha character (some stored) with
      ⟨-, hkept⟩ | ⟨player, step, play, hevent, hplayer, hafter⟩ |
        ⟨player, status, hevent, hplayer, hgone, hstep⟩
    · exact .inl ⟨stored, hkept, UInt8.le_refl stored⟩
    · by_cases hlower : Steps.after step < stored
      · exact .inr (.inr ⟨player, step, play, hevent, hplayer, hafter, hlower⟩)
      · exact .inl ⟨_, hafter, UInt8.not_lt.1 hlower⟩
    · refine .inr (.inl ⟨hgone, player, status, hevent, hplayer, ?_⟩)
      intro entry hentry htype
      rw [Records.hasStep_iff] at hstep
      by_contra hlow
      exact hstep ⟨entry, hentry, htype, by simpa using hlow⟩

theorem step_moves_ladder :
    let machine := Sample.machine Sample.ladder
    let now := (machine.serve [.ask (.playStepup Sample.player 1 1)]).2
    machine.store.records.steps? 1 1 = [] ∧
      ∃ player step play,
        (now.call (.ask (.playStepup Sample.player 1 0))).1 =
          .answered (.playStepup player 1 step) (.ok play) ∧
        player.character = 1 ∧ Steps.after step < 2 := by
  obtain ⟨before, after, hbefore, hafter, -, hmoves⟩ := step_moves (Sample.machine Sample.ladder)
    1 1 rfl [.ask (.playStepup Sample.player 1 1)] (.ask (.playStepup Sample.player 1 0))
  have hrows : ((Sample.machine Sample.ladder).serve
      [.ask (.playStepup Sample.player 1 1)]).2.store.records.steps? 1 1 =
        (some 2 : Option UInt8).toList := by
    decide +kernel
  have hnext : (((Sample.machine Sample.ladder).serve
      [.ask (.playStepup Sample.player 1 1)]).2.call
        (.ask (.playStepup Sample.player 1 0))).2.store.records.steps? 1 1 =
          (some 1 : Option UInt8).toList := by
    decide +kernel
  obtain rfl : before = some 2 := by simpa using congrArg List.head? (hbefore.symm.trans hrows)
  obtain rfl : after = some 1 := by simpa using congrArg List.head? (hafter.symm.trans hnext)
  refine ⟨rfl, ?_⟩
  rcases hmoves 2 rfl with ⟨later, hlater, hle⟩ | ⟨hgone, -⟩ | hback
  · cases hlater
    exact absurd hle (by decide)
  · cases hgone
  · obtain ⟨player, step, play, hevent, hplayer, -, hlower⟩ := hback
    exact ⟨player, step, play, hevent, hplayer, hlower⟩

theorem not_always_forward :
    ¬∀ (machine : Machine Memory) (gacha : GachaId) (character : CharacterId),
      machine.store.records.steps? gacha character = [] →
      ∀ (calls : List Call) (call : Call),
        let now := (machine.serve calls).2
        let event := (now.call call).1
        let next := (now.call call).2
        ∀ stored ∈ now.store.records.steps? gacha character,
          (∃ later ∈ next.store.records.steps? gacha character, stored ≤ later) ∨
          ∃ player status, event = .answered (.stepStatus player gacha) (.ok status) := by
  intro h
  rcases h (Sample.machine Sample.ladder) 1 1 rfl [.ask (.playStepup Sample.player 1 1)]
      (.ask (.playStepup Sample.player 1 0)) 2 List.mem_cons_self with
    ⟨later, hlater, hle⟩ | ⟨player, status, hstatus⟩
  · obtain rfl : later = 1 := List.mem_singleton.1 hlater
    exact absurd hle (by decide)
  · have hplayed : stepPlayed? 1 1 (((Sample.machine Sample.ladder).serve
        [.ask (.playStepup Sample.player 1 1)]).2.call
          (.ask (.playStepup Sample.player 1 0))).1 = some 0 := by
      decide +kernel
    have hquiet : stepPlayed? 1 1 (.answered (.stepStatus player 1) (.ok status)) = none := rfl
    rw [← hstatus, hplayed] at hquiet
    cases hquiet

end Machine

end PrizeDraw
