import PrizeDraw.Proofs.Boxes
import PrizeDraw.Proofs.Replies

namespace PrizeDraw

namespace Operation

variable {α : Type}

def draw {σ : Type} [Store σ] : Operation α → Action (Machine σ) (List Entry)
  | .playNormal player gacha selector => do
      let (cost, _, pool) ← Machine.onStore (Play.openNormal player gacha selector)
      Machine.drawWeighted pool cost.rolls
  | .playStepup player gacha step => do
      let (cost, _, pool) ← Machine.onStore (Play.openStepup player gacha step)
      Machine.drawWeighted pool cost.rolls
  | .playBox player gacha selector => do
      let (cost, pool) ← Machine.onStore (Play.openBox player gacha selector)
      Machine.drawUniform pool cost.rolls
  | _ => return []

def drawn (operation : Operation α) (machine : Machine Memory) : List EntryId :=
  match (Action.run operation.draw machine.plain).1 with
  | .ok entries => entries.map Entry.id
  | .error _ => []

theorem drawn_playBox {player : Player} {gacha : GachaId} {selector : UInt8}
    {machine : Machine Memory} {worked : Machine Records} {play : BoxPlay}
    (h : Action.run (playBox player gacha selector).body machine.plain = (.ok play, worked)) :
    (playBox player gacha selector).drawn machine = play.dealt := by
  obtain ⟨⟨cost, pool⟩, opened, hopen, hrest⟩ := Action.exists_of_bind_ok h
  obtain ⟨entries, sampled, hdraw, hclose⟩ := Action.exists_of_bind_ok hrest
  have hdrawn : Action.run (playBox player gacha selector).draw machine.plain =
      (.ok entries, sampled) := (Action.run_bind_of_ok hopen).trans hdraw
  rw [drawn, hdrawn]
  exact (Play.closeBox_dealt (Machine.of_onStore_ok hclose).1).1.symm

end Operation

namespace Request

def isPlay (gacha : GachaId) : Request → Bool
  | .playNormal played _ | .playStepup played _ | .playBox played _ => played == gacha
  | _ => false

def isBoxPlay (gacha : GachaId) : Request → Bool
  | .playBox played _ => played == gacha
  | _ => false

end Request

structure Visit where
  player : Player
  handle : UInt32
  request : Request
  deriving DecidableEq, Repr

structure Attended where
  visit : Visit
  acks : Except Halt (List Desk.QueuedAck)
  drawn : List EntryId

namespace Attended

def succeeded (attended : Attended) : Bool :=
  match attended.acks with
  | .ok queued => queued.any fun queued => queued.ack.isSuccess
  | .error _ => false

/-- The entries drawn for a character by the requests that count, a reset of the box apart, which
starts the list again. -/
def drawnAfter (counts : Request → Bool) (gacha : GachaId) (character : CharacterId)
    (attended : Attended) (ids : List EntryId) : List EntryId :=
  if attended.succeeded = true ∧ character = attended.visit.player.character then
    if attended.visit.request = .resetBox gacha then []
    else if counts attended.visit.request then ids ++ attended.drawn
    else ids
  else ids

def drawnSince (counts : Request → Bool) (gacha : GachaId) (character : CharacterId)
    (ids : List EntryId) (all : List Attended) : List EntryId :=
  all.foldl (fun ids attended => attended.drawnAfter counts gacha character ids) ids

theorem drawnAfter_append (counts : Request → Bool) (gacha : GachaId) (character : CharacterId)
    (attended : Attended) (older ids : List EntryId) :
    ∃ left, attended.drawnAfter counts gacha character (older ++ ids) =
      left ++ attended.drawnAfter counts gacha character ids := by
  unfold drawnAfter
  split
  · split
    · exact ⟨[], rfl⟩
    · split
      · exact ⟨older, List.append_assoc _ _ _⟩
      · exact ⟨older, rfl⟩
  · exact ⟨older, rfl⟩

end Attended

namespace Desk

open Attended

def attend (machine : Machine Memory) (visit : Visit) : Attended × Machine Memory :=
  let (acks, next) := Action.run (handle visit.player visit.handle visit.request) machine
  ({ visit, acks, drawn := (visit.request.errand visit.player).operation.drawn machine }, next)

def attendAll (machine : Machine Memory) : List Visit → List Attended × Machine Memory
  | [] => ([], machine)
  | visit :: rest =>
      let (attended, next) := attend machine visit
      let (others, last) := attendAll next rest
      (attended :: others, last)

theorem attend_cases (machine : Machine Memory) (visit : Visit) :
    (∃ answer worked,
      Action.run (visit.request.errand visit.player).operation.body machine.plain =
        (.ok answer, worked) ∧
      (attend machine visit).2 = worked.stored ∧
      (visit.request.changes = true → (attend machine visit).1.succeeded = true)) ∨
    ((attend machine visit).2.store.records = machine.store.records ∧
      (visit.request.changes = true → (attend machine visit).1.succeeded = false)) := by
  have hhandled := run_handle visit.player visit.handle visit.request machine
  dsimp only at hhandled
  cases hrun : Action.run (visit.request.errand visit.player).operation.perform machine with
  | mk outcome next =>
  rw [hrun] at hhandled
  cases outcome with
  | ok answer =>
      obtain ⟨worked, hworked, rfl⟩ := Operation.run_memory_of_ok hrun
      refine .inl ⟨answer, worked, hworked, ?_, fun hchange => ?_⟩
      · rw [attend, hhandled]
      · obtain ⟨payload, hsucceed, -⟩ :=
          Request.acknowledge_ok hchange hworked machine.clock.reading
        rw [attend, hhandled]
        simp only [succeeded, hsucceed]
        rfl
  | error halt =>
      obtain ⟨worked, -, rfl⟩ := Operation.run_memory_of_error hrun
      cases halt with
      | overflow =>
          refine .inr ⟨?_, fun _ => ?_⟩
          · rw [attend, hhandled]
            rfl
          · rw [attend, hhandled]
            rfl
      | refused fault =>
          refine .inr ⟨?_, fun hchange => ?_⟩
          · rw [attend, hhandled]
            rfl
          · rw [attend, hhandled]
            simp only [succeeded, Request.acknowledge_error hchange]
            rfl

variable {gacha : GachaId} {character : CharacterId}

theorem keyed_attend {machine : Machine Memory} (h : machine.store.records.Keyed)
    (visit : Visit) : (attend machine visit).2.store.records.Keyed := by
  obtain ⟨answer, worked, hworked, hnext, -⟩ | ⟨hkept, -⟩ := attend_cases machine visit
  · have hframe := (visit.request.errand visit.player).operation.spoken_body.frame machine.plain
    rw [hworked] at hframe
    rw [hnext]
    exact h.of_entries_eq hframe.entries
  · rw [hkept]
    exact h

theorem dealtAfter_errand {player : Player} {request : Request} {machine : Machine Memory}
    {worked : Machine Records} {answer : (request.errand player).Answer}
    (h : Action.run (request.errand player).operation.body machine.plain = (.ok answer, worked))
    (rows : List EntryId) :
    (request.errand player).operation.dealtAfter gacha character answer rows =
      if character = player.character then
        if request = .resetBox gacha then []
        else if request.isBoxPlay gacha = true then
          rows ++ (request.errand player).operation.drawn machine
        else rows
      else rows := by
  cases request with
  | playBox played selector =>
      have hdrawn : (Operation.playBox player played selector).drawn machine = answer.dealt :=
        Operation.drawn_playBox h
      by_cases hgacha : played = gacha
      · subst hgacha
        simp [Request.errand, Errand.change, Operation.dealtAfter, Request.isBoxPlay, hdrawn]
      · simp [Request.errand, Errand.change, Operation.dealtAfter, Request.isBoxPlay, hgacha,
          Ne.symm hgacha]
  | resetBox reset =>
      by_cases hgacha : reset = gacha
      · subst hgacha
        simp [Request.errand, Errand.change, Operation.dealtAfter]
      · simp [Request.errand, Errand.change, Operation.dealtAfter, Request.isBoxPlay, hgacha,
          Ne.symm hgacha]
  | _ => simp [Request.errand, Errand.change, Errand.question, Operation.dealtAfter,
      Request.isBoxPlay]

theorem dealtTo_attend (machine : Machine Memory) (visit : Visit) (gacha : GachaId)
    (character : CharacterId) :
    (attend machine visit).2.store.records.dealtTo gacha character =
      (attend machine visit).1.drawnAfter (Request.isBoxPlay gacha) gacha character
        (machine.store.records.dealtTo gacha character) := by
  have hvisit : (attend machine visit).1.visit = visit := rfl
  have hdrawn : (attend machine visit).1.drawn =
      (visit.request.errand visit.player).operation.drawn machine := rfl
  have hquestion (h : ¬visit.request.changes = true) :
      visit.request ≠ .resetBox gacha ∧ visit.request.isBoxPlay gacha = false := by
    cases hrequest : visit.request <;> simp_all [Request.changes, Request.isBoxPlay]
  unfold drawnAfter
  rw [hvisit, hdrawn]
  obtain ⟨answer, worked, hworked, hnext, hsucceeds⟩ | ⟨hkept, hfails⟩ :=
    attend_cases machine visit
  · have hrows : worked.store.dealtTo gacha character = _ := Operation.dealtTo_body hworked
    rw [dealtAfter_errand hworked] at hrows
    rw [hnext]
    refine hrows.trans ?_
    by_cases hchange : visit.request.changes = true
    · simp [hsucceeds hchange, Machine.plain]
    · obtain ⟨hreset, hbox⟩ := hquestion hchange
      simp [hreset, hbox, Machine.plain]
  · rw [hkept]
    by_cases hchange : visit.request.changes = true
    · simp [hfails hchange]
    · obtain ⟨hreset, hbox⟩ := hquestion hchange
      simp [hreset, hbox]

theorem dealtTo_attendAll (machine : Machine Memory) (visits : List Visit) (gacha : GachaId)
    (character : CharacterId) :
    (attendAll machine visits).2.store.records.dealtTo gacha character =
      drawnSince (Request.isBoxPlay gacha) gacha character
        (machine.store.records.dealtTo gacha character) (attendAll machine visits).1 := by
  induction visits generalizing machine with
  | nil => rfl
  | cons visit rest ih =>
      refine (ih (attend machine visit).2).trans ?_
      rw [dealtTo_attend]
      rfl

theorem nodup_drawn {machine : Machine Memory} (hkeyed : machine.store.records.Keyed)
    {visit : Visit} (hcounts : visit.request.isBoxPlay gacha = true)
    (hsucceeded : (attend machine visit).1.succeeded = true) :
    (attend machine visit).1.drawn.Nodup ∧
      ∀ id ∈ (attend machine visit).1.drawn,
        id ∉ machine.store.records.dealtTo gacha visit.player.character := by
  have hdrawn : (attend machine visit).1.drawn =
      (visit.request.errand visit.player).operation.drawn machine := rfl
  rw [hdrawn]
  obtain ⟨answer, worked, hworked, -, -⟩ | ⟨-, hfails⟩ := attend_cases machine visit
  · obtain ⟨player, handle, request⟩ := visit
    cases request with
    | playBox played selector =>
        obtain rfl : played = gacha := by simpa [Request.isBoxPlay] using hcounts
        have hids : (Operation.playBox player played selector).drawn machine = answer.dealt :=
          Operation.drawn_playBox hworked
        obtain ⟨cost, -, -, hnodup, hnew, -⟩ := Operation.deals_playBox hkeyed hworked
        rw [show (Request.errand player (.playBox played selector)).operation.drawn machine =
          answer.dealt from hids]
        refine ⟨hnodup, fun id hid => ?_⟩
        obtain ⟨entry, hentry, rfl⟩ := hnew id hid
        exact (Records.mem_undealt hentry).2.2
    | _ => cases hcounts
  · have hchange : visit.request.changes = true := by
      cases hrequest : visit.request <;> simp_all [Request.changes, Request.isBoxPlay]
    rw [hfails hchange] at hsucceeded
    cases hsucceeded

theorem nodup_drawnAfter_attend {machine : Machine Memory} (hkeyed : machine.store.records.Keyed)
    {older ids : List EntryId}
    (hrows : machine.store.records.dealtTo gacha character = older ++ ids) (hids : ids.Nodup)
    (visit : Visit) :
    ((attend machine visit).1.drawnAfter (Request.isBoxPlay gacha) gacha character ids).Nodup := by
  have hvisit : (attend machine visit).1.visit = visit := rfl
  rw [drawnAfter, hvisit]
  split
  · rename_i hcarried
    obtain ⟨hsucceeded, hself⟩ := hcarried
    split
    · exact List.nodup_nil
    · split
      · rename_i hcounts
        obtain ⟨hnodup, hnew⟩ := nodup_drawn hkeyed hcounts hsucceeded
        refine hids.append hnodup fun id hold hid => hnew id hid ?_
        rw [← hself, hrows]
        exact List.mem_append_right _ hold
      · exact hids
  · exact hids

theorem nodup_drawnSince {machine : Machine Memory} (hkeyed : machine.store.records.Keyed)
    {older ids : List EntryId}
    (hrows : machine.store.records.dealtTo gacha character = older ++ ids) (hids : ids.Nodup)
    (visits : List Visit) :
    (drawnSince (Request.isBoxPlay gacha) gacha character ids
      (attendAll machine visits).1).Nodup := by
  induction visits generalizing machine older ids with
  | nil => exact hids
  | cons visit rest ih =>
      obtain ⟨left, hleft⟩ := drawnAfter_append (Request.isBoxPlay gacha) gacha character
        (attend machine visit).1 older ids
      have hnext := dealtTo_attend machine visit gacha character
      rw [hrows, hleft] at hnext
      exact ih (keyed_attend hkeyed visit) hnext
        (nodup_drawnAfter_attend hkeyed hrows hids visit)

theorem box_plays_draw_once (machine : Machine Memory) (hkeyed : machine.store.records.Keyed)
    (gacha : GachaId) (character : CharacterId) (visits : List Visit) :
    let attended := attendAll machine visits
    (drawnSince (Request.isBoxPlay gacha) gacha character [] attended.1).Nodup ∧
      attended.2.store.records.dealtTo gacha character =
        drawnSince (Request.isBoxPlay gacha) gacha character
          (machine.store.records.dealtTo gacha character) attended.1 :=
  ⟨nodup_drawnSince hkeyed (List.append_nil _).symm List.nodup_nil visits,
    dealtTo_attendAll machine visits gacha character⟩

end Desk

namespace Sample

def urnCatalog : Catalog where
  gachas := [{ id := 1, name := "urn", gachaType := 4 }]
  entries := [
    { entry := { id := 1, gacha := 1, entryType := 0, rolls := 1 } },
    { entry := { id := 2, gacha := 1, entryType := 100, weight := ⟨0x3ff0000000000000⟩ },
      items := [⟨7, 1, 1⟩] }]

def urn : Machine Memory := machine ((({} : Records).addCatalog urnCatalog).addPlayer player)

theorem keyed_urn : urn.store.records.Keyed :=
  (Records.keyed_empty.addCatalog urnCatalog).of_entries_eq rfl

def urnVisits : List Visit :=
  [.playBox 1 0, .playBox 1 0, .playNormal 1 0, .resetBox 1, .playBox 1 0].map fun request =>
    { player, handle := 7, request }

end Sample

namespace Desk

open Attended

theorem box_plays_draw_once_urn :
    Sample.urn.store.records.Keyed ∧
      drawnSince (Request.isBoxPlay 1) 1 1 [] (attendAll Sample.urn Sample.urnVisits).1 = [2] ∧
      (attendAll Sample.urn Sample.urnVisits).2.store.records.dealtTo 1 1 = [2] := by
  have hdrawn : drawnSince (Request.isBoxPlay 1) 1 1 []
      (attendAll Sample.urn Sample.urnVisits).1 = [2] := by decide +kernel
  obtain ⟨-, hrows⟩ := box_plays_draw_once Sample.urn Sample.keyed_urn 1 1 Sample.urnVisits
  exact ⟨Sample.keyed_urn, hdrawn, hrows.trans hdrawn⟩

theorem not_always_drawn_once :
    ¬∀ (machine : Machine Memory) (gacha : GachaId) (found : Gacha) (character : CharacterId)
      (visits : List Visit), machine.store.records.Keyed →
      machine.store.records.gachas.find? gacha = some found → found.kind = .box →
      (drawnSince (Request.isPlay gacha) gacha character []
        (attendAll machine visits).1).Nodup := by
  intro h
  have hdrawn : drawnSince (Request.isPlay 1) 1 1 []
      (attendAll Sample.urn (Sample.urnVisits.take 3)).1 = [2, 2] := by decide +kernel
  have hnodup := h Sample.urn 1 { id := 1, name := "urn", gachaType := 4 } 1
    (Sample.urnVisits.take 3) Sample.keyed_urn rfl rfl
  rw [hdrawn] at hnodup
  simp at hnodup

end Desk

end PrizeDraw
