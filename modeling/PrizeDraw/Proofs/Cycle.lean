import PrizeDraw.Proofs.Sequence

namespace PrizeDraw

namespace Records

variable {records other : Records} {gacha : GachaId} {length : Nat}

structure Ladder (records : Records) (gacha : GachaId) (length : Nat) : Prop where
  pos : 1 ≤ length
  bound : length ≤ 100
  steps : ∀ step < length, ∃ entry ∈ records.entriesOf gacha, entry.entryType.toNat = step
  ends : length = 100 ∨ ∀ entry ∈ records.entriesOf gacha, entry.entryType.toNat ≠ length

theorem Ladder.of_entries_eq (h : records.Ladder gacha length)
    (heq : other.entries = records.entries) : other.Ladder gacha length where
  pos := h.pos
  bound := h.bound
  steps := by
    unfold entriesOf
    rw [heq]
    exact h.steps
  ends := by
    unfold entriesOf
    rw [heq]
    exact h.ends

theorem Ladder.hasStep_iff (h : records.Ladder gacha length) {step : UInt8}
    (hle : step.toNat ≤ length) :
    records.hasStep gacha step = true ↔ step.toNat < length := by
  rw [Records.hasStep_iff]
  constructor
  · rintro ⟨entry, hmem, rfl, hlow⟩
    have hbelow : entry.entryType < 100 := of_decide_eq_true hlow
    rw [UInt8.lt_iff_toNat_lt] at hbelow
    have hpool : (100 : UInt8).toNat = 100 := rfl
    rcases h.ends with hall | hnone
    · omega
    · have hne := hnone entry hmem
      omega
  · intro hlt
    obtain ⟨entry, hmem, htype⟩ := h.steps step.toNat hlt
    have hbound := h.bound
    refine ⟨entry, hmem, UInt8.toNat_inj.1 htype, ?_⟩
    rw [Entry.isProgression, decide_eq_true_iff]
    show entry.entryType.toNat < 100
    omega

/-- A stored step stands for a number of plays: it is that number modulo the length of the
sequence, or the length itself after a full turn. -/
structure Stands (length plays : Nat) (stored : Option UInt8) : Prop where
  bound : (stored.getD 0).toNat ≤ length
  turn : (stored.getD 0).toNat % length = plays % length

theorem Ladder.stands_stepKept {plays : Nat} {stored : Option UInt8}
    (hladder : records.Ladder gacha length) (h : Stands length plays stored) :
    Stands length plays (records.stepKept gacha stored) ∧
      ((records.stepKept gacha stored).getD 0).toNat = plays % length := by
  have hhas := hladder.hasStep_iff h.bound
  unfold stepKept
  by_cases hlt : (stored.getD 0).toNat < length
  · rw [if_pos (hhas.2 hlt)]
    refine ⟨h, ?_⟩
    rw [← h.turn, Nat.mod_eq_of_lt hlt]
  · have hfull : (stored.getD 0).toNat = length := by
      have hle := h.bound
      omega
    have hzero : plays % length = 0 := by rw [← h.turn, hfull, Nat.mod_self]
    rw [if_neg fun hstep => hlt (hhas.1 hstep)]
    exact ⟨⟨Nat.zero_le length, (Nat.zero_mod length).trans hzero.symm⟩, hzero.symm⟩

theorem Ladder.stands_after {plays : Nat} {step : UInt8} (hladder : records.Ladder gacha length)
    (hstep : step.toNat = plays % length) :
    Stands length (plays + 1) (some (Steps.after step)) ∧
      (Steps.after step).toNat = plays % length + 1 := by
  have hlt : plays % length < length := Nat.mod_lt plays hladder.pos
  have hbound := hladder.bound
  have hafter : (Steps.after step).toNat = plays % length + 1 := by
    rw [Steps.toNat_after, hstep]
    omega
  refine ⟨⟨?_, ?_⟩, hafter⟩
  · rw [Option.getD_some, hafter]
    omega
  · rw [Option.getD_some, hafter, Nat.mod_add_mod]

end Records

namespace Event

variable {gacha : GachaId} {character : CharacterId} {length : Nat}

def stepPlays (gacha : GachaId) (character : CharacterId) (events : List Event) : Nat :=
  events.countP fun event => (event.stepPlayed? gacha character).isSome

theorem stepPlays_snoc (gacha : GachaId) (character : CharacterId) (events : List Event)
    (event : Event) :
    stepPlays gacha character (events ++ [event]) =
      stepPlays gacha character events +
        if (event.stepPlayed? gacha character).isSome then 1 else 0 := by
  rw [stepPlays, List.countP_append, List.countP_singleton]
  rfl

def InTurn (length : Nat) (gacha : GachaId) (character : CharacterId) (events : List Event) :
    Prop :=
  ∀ before event rest step, events = before ++ event :: rest →
    event.stepPlayed? gacha character = some step →
      step.toNat = stepPlays gacha character before % length

theorem InTurn.of_append {events later : List Event}
    (h : InTurn length gacha character (events ++ later)) :
    InTurn length gacha character events := by
  rintro before event rest step rfl hplayed
  refine h before event (rest ++ later) step ?_ hplayed
  rw [List.append_assoc, List.cons_append]

theorem stepPlayed?_playStepup (player : Player) (gacha : GachaId) (step : UInt8)
    (play : StepupPlay) :
    (Event.answered (.playStepup player gacha step) (.ok play)).stepPlayed? gacha
      player.character = some step :=
  if_pos ⟨rfl, rfl⟩

theorem stands_stepAfter {records : Records} {past : List Event} {event : Event}
    {stored : Option UInt8} (hladder : records.Ladder gacha length)
    (hturn : InTurn length gacha character (past ++ [event]))
    (h : Records.Stands length (stepPlays gacha character past) stored) :
    Records.Stands length (stepPlays gacha character (past ++ [event]))
      (event.stepAfter records gacha character stored) := by
  rw [stepPlays_snoc]
  rcases event.stepAfter_cases records gacha character stored with
    ⟨hquiet, hkept⟩ | ⟨player, step, play, rfl, rfl, hafter⟩ |
      ⟨player, status, rfl, rfl, hgone, hstep⟩
  · rw [hkept, hquiet]
    exact h
  · have hplayed := stepPlayed?_playStepup player gacha step play
    have hnamed := hturn past _ [] step rfl hplayed
    rw [hafter, hplayed]
    exact (hladder.stands_after hnamed).1
  · have hkept := (hladder.stands_stepKept h).1
    rw [Records.stepKept, if_neg hstep] at hkept
    rw [hgone]
    exact hkept

end Event

namespace Machine

open Event

variable {gacha : GachaId} {character : CharacterId} {length : Nat} {machine : Machine Memory}

theorem ladder_turn {next : Machine Memory} {event : Event} (hturn : Turn machine event next)
    (hfixed : ∀ catalog, event ≠ .stocked catalog)
    (h : machine.store.records.Ladder gacha length) :
    next.store.records.Ladder gacha length := by
  cases hturn with
  | done operation answer worked hworked =>
      have hframe := operation.spoken_body.frame machine.plain
      rw [hworked] at hframe
      exact h.of_entries_eq hframe.entries
  | stopped operation halt worked hworked => exact h
  | stocked catalog => exact absurd rfl (hfixed catalog)

structure Cycles (length : Nat) (gacha : GachaId) (character : CharacterId) (events : List Event)
    (now : Records) : Prop where
  ladder : now.Ladder gacha length
  stands : ∃ stored : Option UInt8, now.steps? gacha character = stored.toList ∧
    Records.Stands length (stepPlays gacha character events) stored

theorem cycles_serve (hladder : machine.store.records.Ladder gacha length)
    (hstart : machine.store.records.steps? gacha character = []) (calls : List Call)
    (hfixed : ∀ catalog, .stocked catalog ∉ (machine.serve calls).1)
    (hturns : InTurn length gacha character (machine.serve calls).1) :
    Cycles length gacha character (machine.serve calls).1
      (machine.serve calls).2.store.records := by
  have hbegin : Cycles length gacha character [] machine.store.records :=
    ⟨hladder, none, hstart, ⟨Nat.zero_le length, rfl⟩⟩
  refine serve_keeps (P := fun events now => (∀ catalog, .stocked catalog ∉ events) →
    InTurn length gacha character events →
      Cycles length gacha character events now.store.records) ?_ calls (fun _ _ => hbegin)
    hfixed hturns
  intro past machine event next hturn hpast hfixed hturns
  have hbefore : ∀ catalog, .stocked catalog ∉ past :=
    fun catalog hmem => hfixed catalog (List.mem_append_left [event] hmem)
  obtain ⟨hladder, stored, hstored, hstands⟩ := hpast hbefore hturns.of_append
  refine ⟨ladder_turn hturn ?_ hladder, _, steps?_turn hturn hstored,
    stands_stepAfter hladder hturns hstands⟩
  rintro catalog rfl
  exact hfixed catalog (List.mem_append_right past List.mem_cons_self)

theorem cycles_of_serve_eq (hladder : machine.store.records.Ladder gacha length)
    (hstart : machine.store.records.steps? gacha character = []) {calls : List Call}
    (hfixed : ∀ catalog, .stocked catalog ∉ (machine.serve calls).1)
    (hturns : InTurn length gacha character (machine.serve calls).1) {before rest : List Event}
    {event : Event} (h : (machine.serve calls).1 = before ++ event :: rest) :
    ∃ now next, Turn now event next ∧
      Cycles length gacha character before now.store.records := by
  rw [h] at hfixed hturns
  obtain ⟨earlier, next, rfl, hturn⟩ := exists_of_serve_eq h
  refine ⟨_, next, hturn, cycles_serve hladder hstart earlier ?_ hturns.of_append⟩
  exact fun catalog hmem => hfixed catalog (List.mem_append_left _ hmem)

theorem steps_cycle (machine : Machine Memory) (gacha : GachaId) (character : CharacterId)
    (length : Nat) (hladder : machine.store.records.Ladder gacha length)
    (hstart : machine.store.records.steps? gacha character = []) (calls : List Call)
    (hfixed : ∀ catalog, .stocked catalog ∉ (machine.serve calls).1)
    (hturns : InTurn length gacha character (machine.serve calls).1) :
    let events := (machine.serve calls).1
    ((machine.serve calls).2.store.records.steps? gacha character).length ≤ 1 ∧
    (∀ before player status rest,
      events = before ++ .answered (.stepStatus player gacha) (.ok status) :: rest →
      player.character = character →
      status.step.toNat = stepPlays gacha character before % length) ∧
    ∀ before player step play rest,
      events = before ++ .answered (.playStepup player gacha step) (.ok play) :: rest →
      player.character = character →
      play.nextStep.toNat = stepPlays gacha character before % length + 1 := by
  intro events
  refine ⟨?_, ?_, ?_⟩
  · obtain ⟨-, stored, hstored, -⟩ := cycles_serve hladder hstart calls hfixed hturns
    rw [hstored]
    cases stored <;> simp
  · rintro before player status rest hevents rfl
    obtain ⟨now, next, hturn, hnow, stored, hstored, hstands⟩ :=
      cycles_of_serve_eq hladder hstart hfixed hturns hevents
    cases hturn with
    | done operation answer worked hworked =>
        rw [(Operation.steps?_stepStatus hstored hworked).2]
        exact (hnow.stands_stepKept hstands).2
  · rintro before player step play rest hevents rfl
    obtain ⟨now, next, hturn, hnow, -⟩ :=
      cycles_of_serve_eq hladder hstart hfixed hturns hevents
    have hnamed := hturns before _ rest step hevents (stepPlayed?_playStepup player gacha step play)
    cases hturn with
    | done operation answer worked hworked =>
        rw [(Operation.steps?_playStepup hworked).2]
        exact (hnow.stands_after hnamed).2

theorem steps_cycle_ladder :
    let machine := Sample.machine Sample.ladder
    let calls : List Call := [.ask (.playStepup Sample.player 1 0),
      .ask (.playStepup Sample.player 1 1), .ask (.stepStatus Sample.player 1),
      .ask (.playStepup Sample.player 1 0)]
    machine.store.records.Ladder 1 2 ∧ machine.store.records.steps? 1 1 = [] ∧
      (∀ catalog, .stocked catalog ∉ (machine.serve calls).1) ∧
      InTurn 2 1 1 (machine.serve calls).1 ∧
      ((machine.serve calls).2.store.records.steps? 1 1).length ≤ 1 := by
  intro machine calls
  have hladder : machine.store.records.Ladder 1 2 :=
    ⟨by decide, by decide, by decide, .inr (by decide)⟩
  have hfixed : ∀ catalog, .stocked catalog ∉ (machine.serve calls).1 := by
    intro catalog hmem
    simp [calls, serve, call] at hmem
  have hturns : InTurn 2 1 1 (machine.serve calls).1 := by
    intro before event rest step hevents hplayed
    have hsteps : (machine.serve calls).1.map (stepPlayed? 1 1) =
        [some 0, some 1, none, some 0] := by
      decide +kernel
    rw [hevents, List.map_append, List.map_cons, hplayed] at hsteps
    have hcount : stepPlays 1 1 before = (before.map (stepPlayed? 1 1)).countP Option.isSome := by
      rw [List.countP_map]
      rfl
    rw [hcount]
    generalize before.map (stepPlayed? 1 1) = earlier at hsteps
    rcases earlier with _ | ⟨first, _ | ⟨second, _ | ⟨third, _ | ⟨fourth, others⟩⟩⟩⟩ <;>
      simp_all
  have hcycle := steps_cycle machine 1 1 2 hladder rfl calls hfixed hturns
  exact ⟨hladder, rfl, hfixed, hturns, hcycle.1⟩

end Machine

end PrizeDraw
