import PrizeDraw.Proofs.Books

namespace PrizeDraw

namespace Records

variable {records after : Records} {gacha : GachaId} {character : CharacterId}

def hasStep (records : Records) (gacha : GachaId) (step : UInt8) : Bool :=
  (records.costRow? gacha step).any Entry.isProgression

theorem hasStep_iff {step : UInt8} :
    records.hasStep gacha step = true ↔
      ∃ entry ∈ records.entriesOf gacha, entry.entryType = step ∧ entry.isProgression = true := by
  unfold hasStep
  constructor
  · intro h
    obtain ⟨entry, hfound, hlow⟩ := (Option.any_eq_true _ _).1 h
    have htype := List.find?_some hfound
    exact ⟨entry, List.mem_of_find?_eq_some hfound, eq_of_beq htype, hlow⟩
  · rintro ⟨entry, hmem, htype, hlow⟩
    -- The first row of a type need not be this one, but it is a selector for the same reason.
    cases hfirst : records.costRow? gacha step with
    | none =>
        have hnone := List.find?_eq_none.1 hfirst entry hmem
        simp [htype] at hnone
    | some first =>
        have hsame : first.entryType = step := by simpa using List.find?_some hfirst
        rw [Option.any_some, Entry.isProgression, hsame, ← htype]
        exact hlow

theorem steps?_of_deleteStep_ok
    (h : Action.run (Store.perform (.deleteStep gacha character)) records = (.ok (), after)) :
    after.steps? gacha character = [] := by
  rw [run_perform] at h
  split at h
  · rename_i answer changed hstep
    cases h
    rw [of_write_ok hstep, steps?_filter, if_pos ⟨rfl, rfl⟩]
  · cases h

theorem steps?_of_insertStep_ok {step : UInt8}
    (h : Action.run (Store.perform (.insertStep gacha character step)) records =
      (.ok (), after)) :
    after.steps? gacha character = records.steps? gacha character ++ [step] := by
  rw [run_perform] at h
  split at h
  · rename_i answer changed hstep
    cases h
    rw [of_write_ok hstep, steps?_append, if_pos ⟨rfl, rfl⟩]
  · cases h

def stepKept (records : Records) (gacha : GachaId) (stored : Option UInt8) : Option UInt8 :=
  if records.hasStep gacha (stored.getD 0) then stored else none

end Records

namespace Steps

variable {records worked : Records} {gacha : GachaId} {character : CharacterId}

theorem toNat_after (played : UInt8) : (after played).toNat = min (played.toNat + 1) 255 := by
  unfold after
  split
  · rename_i hlast
    subst hlast
    rfl
  · rename_i hlast
    have hlt := played.toNat_lt
    have hne : played.toNat ≠ 255 := fun heq => hlast (UInt8.toNat_inj.1 heq)
    rw [UInt8.toNat_add]
    show (played.toNat + 1) % 256 = _
    omega

theorem advance_ok {played next : UInt8}
    (h : Action.run (advance gacha character played) records = (.ok next, worked)) :
    next = after played ∧ worked.steps? gacha character = [after played] := by
  obtain ⟨_, deleted, hdelete, hrest⟩ := Action.exists_of_bind_ok h
  obtain ⟨_, inserted, hinsert, hanswer⟩ := Action.exists_of_bind_ok hrest
  obtain ⟨rfl, rfl⟩ := Action.of_pure_ok hanswer
  refine ⟨rfl, ?_⟩
  rw [Records.steps?_of_insertStep_ok hinsert, Records.steps?_of_deleteStep_ok hdelete]
  rfl

theorem current_ok {stored : Option UInt8} {step : UInt8}
    (hstored : records.steps? gacha character = stored.toList)
    (h : Action.run (current gacha character) records = (.ok step, worked)) :
    worked.steps? gacha character = (records.stepKept gacha stored).toList ∧
      step = (records.stepKept gacha stored).getD 0 := by
  obtain ⟨found, read, hread, hrest⟩ := Action.exists_of_bind_ok h
  cases hread
  obtain ⟨entry, looked, hlook, hrest⟩ := Action.exists_of_bind_ok hrest
  cases hlook
  have hhead : (records.steps? gacha character).head? = stored := by
    rw [hstored]
    cases stored <;> rfl
  rw [hhead] at hrest
  unfold Records.stepKept
  split at hrest
  · rename_i hentry
    have hstep : records.hasStep gacha (stored.getD 0) = true := hentry
    rw [if_pos hstep]
    obtain ⟨rfl, rfl⟩ := Action.of_pure_ok hrest
    exact ⟨hstored, rfl⟩
  · rename_i hentry
    have hstep : ¬records.hasStep gacha (stored.getD 0) = true := hentry
    rw [if_neg hstep]
    obtain ⟨_, deleted, hdelete, hanswer⟩ := Action.exists_of_bind_ok hrest
    obtain ⟨rfl, rfl⟩ := Action.of_pure_ok hanswer
    exact ⟨Records.steps?_of_deleteStep_ok hdelete, rfl⟩

end Steps

namespace Play

variable {player : Player} {gacha : GachaId} {records after : Records}

theorem nextStep_of_closeStepup {step nextStep : UInt8} {drawn : List Entry} {play : StepupPlay}
    (h : Action.run (closeStepup player gacha step nextStep drawn) records = (.ok play, after)) :
    play.nextStep = nextStep := by
  obtain ⟨random, collected, hcollect, hlooked⟩ := Action.exists_of_bind_ok h
  obtain ⟨fixed, looked, hfixed, hawarded⟩ := Action.exists_of_bind_ok hlooked
  obtain ⟨_, awarded, haward, hanswer⟩ := Action.exists_of_bind_ok hawarded
  obtain ⟨rfl, -⟩ := Action.of_pure_ok hanswer
  rfl

end Play

namespace Operation

variable {α : Type} {player : Player} {gacha : GachaId} {character : CharacterId}
  {machine worked : Machine Records}

theorem steps?_playStepup {step : UInt8} {play : StepupPlay}
    (h : Action.run (playStepup player gacha step).body machine = (.ok play, worked)) :
    worked.store.steps? gacha player.character = [Steps.after step] ∧
      play.nextStep = Steps.after step := by
  obtain ⟨cost, nextStep, pool, drawn, opened, hopen, hclose⟩ := playStepup_ok h
  obtain ⟨debit, charged, credited, -, -, hadvance, -⟩ := Play.openStepup_ok hopen
  obtain ⟨rfl, hrows⟩ := Steps.advance_ok hadvance
  have hframe := Play.frame_closeStepup hclose
  refine ⟨?_, Play.nextStep_of_closeStepup hclose⟩
  rw [hframe.steps gacha player.character (by simp), hrows]

theorem steps?_stepStatus {stored : Option UInt8} {status : StepStatus}
    (hstored : machine.store.steps? gacha player.character = stored.toList)
    (h : Action.run (stepStatus player gacha).body machine = (.ok status, worked)) :
    worked.store.steps? gacha player.character =
        (machine.store.stepKept gacha stored).toList ∧
      status.step = (machine.store.stepKept gacha stored).getD 0 := by
  obtain ⟨_, locked, hlock, hrest⟩ := Action.exists_of_bind_ok h
  cases hlock
  obtain ⟨step, found, hcurrent, hanswer⟩ := Action.exists_of_bind_ok hrest
  cases hanswer
  exact Steps.current_ok hstored (Machine.of_onStore_ok hcurrent).1

def stepAfter (records : Records) (gacha : GachaId) (character : CharacterId) :
    Operation α → Option UInt8 → Option UInt8
  | .playStepup player played step, stored =>
      if gacha = played ∧ character = player.character then some (Steps.after step) else stored
  | .stepStatus player asked, stored =>
      if gacha = asked ∧ character = player.character then records.stepKept gacha stored
      else stored
  | _, stored => stored

theorem steps?_of_foreign (gacha : GachaId) (character : CharacterId) {operation : Operation α}
    {answer : α} (h : Action.run operation.body machine = (.ok answer, worked))
    (hout : .stepup ∈ operation.reach.tables →
      ¬(gacha = operation.reach.gacha ∧ character = operation.reach.player.character)) :
    worked.store.steps? gacha character = machine.store.steps? gacha character := by
  have hframe := operation.spoken_body.frame machine
  rw [h] at hframe
  exact hframe.steps gacha character hout

theorem steps?_body {operation : Operation α} {answer : α} {stored : Option UInt8}
    (hstored : machine.store.steps? gacha character = stored.toList)
    (h : Action.run operation.body machine = (.ok answer, worked)) :
    worked.store.steps? gacha character =
      (operation.stepAfter machine.store gacha character stored).toList := by
  cases operation with
  | playStepup player played step =>
      by_cases hself : gacha = played ∧ character = player.character
      · rw [stepAfter, if_pos hself]
        obtain ⟨rfl, rfl⟩ := hself
        exact (steps?_playStepup h).1
      · rw [stepAfter, if_neg hself, ← hstored]
        exact steps?_of_foreign gacha character h fun _ => hself
  | stepStatus player asked =>
      by_cases hself : gacha = asked ∧ character = player.character
      · rw [stepAfter, if_pos hself]
        obtain ⟨rfl, rfl⟩ := hself
        exact (steps?_stepStatus hstored h).1
      · rw [stepAfter, if_neg hself, ← hstored]
        exact steps?_of_foreign gacha character h fun _ => hself
  | receive player freeze =>
      have hkept := steps?_of_foreign gacha character h
        fun hstepup => by cases freeze <;> simp [reach] at hstepup
      exact hkept.trans hstored
  | _ =>
      have hkept := steps?_of_foreign gacha character h
        fun hstepup => by simp [reach] at hstepup
      exact hkept.trans hstored

end Operation

end PrizeDraw
