import PrizeDraw.Proofs.DrawFaults
import PrizeDraw.Proofs.Fetching
import PrizeDraw.Proofs.Ranking
import PrizeDraw.Proofs.Weighting

namespace PrizeDraw

namespace Sampling

variable {α ν : Type} [Scale ν]

theorem length_weighted {measure : α → ν} {pool chosen : List α} {n : Nat} {g next : Generator}
    (h : weighted measure pool n g = (.ok chosen, next)) : chosen.length = n := by
  unfold weighted at h
  dsimp only at h
  split at h
  · cases h
  · split at h
    · cases h
    · cases h
      rw [pickMany_eq, List.length_map, Generator.length_wideWords]

end Sampling

namespace Records

def prizes (records : Records) (id : EntryId) : List RewardItem :=
  (records.rewards.find? id).getD []

def winnings (records : Records) (rarity : Entry → UInt8) (drawn : List Entry) :
    List DrawnItem :=
  drawn.flatMap fun entry =>
    (records.prizes entry.id).map fun item => { item, rarity := rarity entry }

structure Prices (records : Records) (gacha : GachaId) (selector : UInt8) (cost : Entry) :
    Prop where
  mem : cost ∈ records.entries.values
  owned : cost.gacha = gacha
  named : cost.entryType = selector
  lowest : ∀ other ∈ records.entries.values, other.gacha = gacha → other.entryType = selector →
    cost.id ≤ other.id

variable {records : Records} {gacha : GachaId}

theorem Keyed.pairwise_values (h : records.Keyed) :
    records.entries.values.Pairwise fun a b => a.id < b.id := by
  rw [Table.values, List.pairwise_map]
  refine h.sorted.imp_of_mem ?_
  intro a b ha hb hlt
  rw [h.ids a ha, h.ids b hb]
  exact hlt

theorem Keyed.prices (h : records.Keyed) {selector : UInt8} {cost : Entry}
    (hfound : (records.entriesOf gacha).find? (fun entry => entry.entryType == selector) =
      some cost) : records.Prices gacha selector cost := by
  obtain ⟨htype, front, back, hsplit, hfront⟩ := List.find?_eq_some_iff_append.1 hfound
  have hmem : cost ∈ records.entriesOf gacha := List.mem_of_find?_eq_some hfound
  obtain ⟨hvalue, hgacha⟩ := List.mem_filter.1 hmem
  refine ⟨hvalue, eq_of_beq hgacha, eq_of_beq htype, fun other hother hsame hselects => ?_⟩
  have hlisted : other ∈ records.entriesOf gacha :=
    List.mem_filter.2 ⟨hother, beq_iff_eq.2 hsame⟩
  have hordered : (records.entriesOf gacha).Pairwise fun a b => a.id < b.id :=
    h.pairwise_values.filter _
  rw [hsplit] at hlisted hordered
  obtain hbefore | rfl | hafter := by simpa using hlisted
  · simpa [hselects] using hfront other hbefore
  · exact UInt32.le_refl _
  · have hrest := (List.pairwise_append.1 hordered).2.1
    exact UInt32.le_of_lt ((List.pairwise_cons.1 hrest).1 other hafter)

end Records

namespace Machine

variable {α σ : Type} {machine next : Machine σ}

theorem of_draw_ok {sample : Generator → Except Fault α × Generator} {a : α}
    (h : Action.run (draw sample) machine = (.ok a, next)) :
    sample machine.generator = (.ok a, next.generator) ∧ next.store = machine.store := by
  rw [run_draw, Prod.mk.injEq] at h
  obtain ⟨houtcome, rfl⟩ := h
  refine ⟨Prod.ext ?_ rfl, rfl⟩
  cases hsample : (sample machine.generator).1 with
  | ok found => rw [hsample] at houtcome; cases houtcome; rfl
  | error fault => rw [hsample] at houtcome; cases houtcome

theorem of_drawWeighted_ok {pool drawn : List Entry} {rolls : UInt8}
    (h : Action.run (drawWeighted pool rolls) machine = (.ok drawn, next)) :
    (if rolls = 0 then (.ok [], machine.generator)
      else Sampling.weightedByDouble Entry.weight pool rolls.toNat machine.generator) =
        (.ok drawn, next.generator) ∧ next.store = machine.store := by
  unfold drawWeighted at h
  split at h
  · rename_i hrolls
    obtain ⟨rfl, rfl⟩ := Action.of_pure_ok h
    exact ⟨if_pos hrolls, rfl⟩
  · rename_i hrolls
    rw [if_neg hrolls]
    exact of_draw_ok h

end Machine

namespace Play

variable {player : Player} {gacha : GachaId} {records after : Records}

theorem collect_ok {mark : Entry → Action Records Unit} {stock : Records}
    (hmark : ∀ entry (records after : Records),
      Action.run (mark entry) records = (.ok (), after) → after.rewards = records.rewards)
    {rarity : Entry → UInt8} {fetched : Fetched}
    (hfetched : ∀ id items, fetched.find? id = some items → items = stock.prizes id)
    {drawn : List Entry} {items : List DrawnItem} (hstock : records.rewards = stock.rewards)
    (h : Action.run (collect mark rarity fetched drawn) records = (.ok items, after)) :
    items = stock.winnings rarity drawn := by
  induction drawn generalizing fetched items records with
  | nil => exact (Action.of_pure_ok h).1.symm
  | cons entry rest ih =>
      obtain ⟨_, marked, hmarked, hlooked⟩ := Action.exists_of_bind_ok h
      obtain ⟨⟨found, kept⟩, looked, hlook, hothers⟩ := Action.exists_of_bind_ok hlooked
      obtain ⟨others, collected, hcollect, hanswer⟩ := Action.exists_of_bind_ok hothers
      obtain ⟨rfl, rfl⟩ := Action.of_pure_ok hanswer
      have hrows : marked.rewards = stock.rewards := (hmark _ _ _ hmarked).trans hstock
      have hprizes (id : EntryId) : (marked.rewards.find? id).getD [] = stock.prizes id := by
        rw [hrows, Records.prizes]
      obtain ⟨held, hrun, hcoherent⟩ := run_rewards hprizes hfetched entry.id
      rw [hrun] at hlook
      cases hlook
      rw [ih hcoherent hrows hcollect]
      rfl

theorem collectDrawn_ok {stock : Records} {drawn : List Entry} {items : List DrawnItem}
    (hstock : records.rewards = stock.rewards)
    (h : Action.run (collectDrawn drawn) records = (.ok items, after)) :
    items = stock.winnings Entry.rarity drawn :=
  collect_ok (fun _ _ _ hmark => by rw [(Action.of_pure_ok hmark).2])
    (fun _ _ hfound => by cases hfound) hstock h

theorem collectDealt_ok {stock : Records} {drawn : List Entry} {items : List DrawnItem}
    (hstock : records.rewards = stock.rewards)
    (h : Action.run (collectDealt player gacha drawn) records = (.ok items, after)) :
    items = stock.winnings (fun _ => 0) drawn := by
  refine collect_ok (fun entry records after hmark => ?_) (fun _ _ hfound => by cases hfound)
    hstock h
  have hallowed : Reach.AllowsCommand { player, gacha, tables := [.box] }
      (.insertDealt gacha player.character entry.id) := ⟨List.mem_cons_self, rfl, rfl⟩
  have hframe := (Spoken.perform _ hallowed).frame_of_run hmark
  exact hframe.rewards

theorem openNormal_pool {selector : UInt8} {cost : Entry} {debit : Option Debit}
    {pool : List Entry}
    (h : Action.run (openNormal player gacha selector) records =
      (.ok (cost, debit, pool), after)) : pool = records.pool gacha := by
  obtain ⟨_, locked, hlock, hcharged⟩ := Action.exists_of_bind_ok h
  cases hlock
  obtain ⟨⟨row, paid⟩, charged, hcharge, hpool⟩ := Action.exists_of_bind_ok hcharged
  have hframe := frame_charge hcharge
  cases hpool
  rw [Records.pool, Records.entriesOf, hframe.entries]
  rfl

theorem openStepup_pool {step nextStep : UInt8} {cost : Entry} {pool : List Entry}
    (h : Action.run (openStepup player gacha step) records =
      (.ok (cost, nextStep, pool), after)) : pool = records.pool gacha := by
  obtain ⟨_, _, _, -, -, -, hpool⟩ := openStepup_ok h
  rw [hpool, Records.pool, Records.entriesOf, (frame_openStepup h).entries]
  rfl

theorem closeNormal_items {stock : Records} {debit : Option Debit} {drawn : List Entry}
    {play : NormalPlay} (hstock : records.rewards = stock.rewards)
    (h : Action.run (closeNormal player debit drawn) records = (.ok play, after)) :
    play.items = stock.winnings Entry.rarity drawn := by
  obtain ⟨items, collected, hcollect, hawarded⟩ := Action.exists_of_bind_ok h
  obtain ⟨_, awarded, haward, hanswer⟩ := Action.exists_of_bind_ok hawarded
  obtain ⟨rfl, -⟩ := Action.of_pure_ok hanswer
  exact collectDrawn_ok hstock hcollect

theorem closeStepup_random {stock : Records} {step nextStep : UInt8} {drawn : List Entry}
    {play : StepupPlay} (hstock : records.rewards = stock.rewards)
    (h : Action.run (closeStepup player gacha step nextStep drawn) records =
      (.ok play, after)) : play.random = stock.winnings Entry.rarity drawn := by
  obtain ⟨random, collected, hcollect, hlooked⟩ := Action.exists_of_bind_ok h
  obtain ⟨fixed, looked, hfixed, hawarded⟩ := Action.exists_of_bind_ok hlooked
  obtain ⟨_, awarded, haward, hanswer⟩ := Action.exists_of_bind_ok hawarded
  obtain ⟨rfl, -⟩ := Action.of_pure_ok hanswer
  exact collectDrawn_ok hstock hcollect

theorem closeBox_items {stock : Records} {drawn : List Entry} {play : BoxPlay}
    (hstock : records.rewards = stock.rewards)
    (h : Action.run (closeBox player gacha drawn) records = (.ok play, after)) :
    play.items = stock.winnings (fun _ => 0) drawn := by
  obtain ⟨items, collected, hcollect, hawarded⟩ := Action.exists_of_bind_ok h
  obtain ⟨_, awarded, haward, hanswer⟩ := Action.exists_of_bind_ok hawarded
  obtain ⟨rfl, -⟩ := Action.of_pure_ok hanswer
  exact collectDealt_ok hstock hcollect

end Play

namespace Operation

variable {α : Type}

def weighs : Operation α → Bool
  | .playNormal _ _ _ | .playStepup _ _ _ => true
  | _ => false

def sample (records : Records) : Operation α → List Entry → UInt8 → Generator →
    Except Fault (List Entry) × Generator
  | .playBox player gacha _, pool, rolls, g =>
      Sampling.uniform (pool.filter fun entry =>
        !(records.dealtTo gacha player.character).contains entry.id) rolls.toNat g
  | _, pool, rolls, g =>
      if rolls = 0 then (.ok [], g)
      else Sampling.weightedByDouble Entry.weight pool rolls.toNat g

def HandsOut (records : Records) (cost : Entry) (drawn : List Entry) :
    Operation α → α → Prop
  | .playNormal _ _ _, play => play.items = records.winnings Entry.rarity drawn
  | .playStepup _ _ _, play =>
      play.random = records.winnings Entry.rarity drawn ∧
        play.guaranteed = (records.prizes cost.id).map fun item => { item, rarity := 0 }
  | .playBox _ _ _, play =>
      play.items = records.winnings (fun _ => 0) drawn ∧ play.dealt = drawn.map Entry.id
  | _, _ => True

structure Drew (operation : Operation α) (gacha : GachaId) (selector : UInt8)
    (machine worked : Machine Records) (cost : Entry) (drawn : List Entry) : Prop where
  found : (machine.store.entriesOf gacha).find? (fun entry => entry.entryType == selector) =
    some cost
  sampled : operation.sample machine.store (machine.store.pool gacha) cost.rolls
    machine.generator = (.ok drawn, worked.generator)

variable {player : Player} {gacha : GachaId} {selector : UInt8} {operation : Operation α}
  {machine worked : Machine Records} {answer : α}

theorem handed_playNormal {play : NormalPlay}
    (h : Action.run (playNormal player gacha selector).body machine = (.ok play, worked)) :
    ∃ cost drawn, (playNormal player gacha selector).Drew gacha selector machine worked cost
        drawn ∧
      play.items = machine.store.winnings Entry.rarity drawn := by
  obtain ⟨⟨cost, debit, pool⟩, opened, hopen, hrest⟩ := Action.exists_of_bind_ok h
  obtain ⟨drawn, sampled, hdraw, hclose⟩ := Action.exists_of_bind_ok hrest
  obtain ⟨hopened, hgenerator⟩ := Machine.of_onStore_ok hopen
  obtain ⟨hsample, hstore⟩ := Machine.of_drawWeighted_ok hdraw
  obtain ⟨hclosed, hkept⟩ := Machine.of_onStore_ok hclose
  obtain rfl := Play.openNormal_pool hopened
  rw [hgenerator] at hsample
  rw [hstore] at hclosed
  refine ⟨cost, drawn, ⟨(Play.charges_of_openNormal hopened).found, ?_⟩, ?_⟩
  · rw [hkept]
    exact hsample
  · exact Play.closeNormal_items (Play.frame_openNormal hopened).rewards hclosed

theorem handed_playStepup {play : StepupPlay}
    (h : Action.run (playStepup player gacha selector).body machine = (.ok play, worked)) :
    ∃ cost drawn, (playStepup player gacha selector).Drew gacha selector machine worked cost
        drawn ∧
      play.random = machine.store.winnings Entry.rarity drawn ∧
      play.guaranteed = (machine.store.prizes cost.id).map fun item => { item, rarity := 0 } := by
  obtain ⟨⟨cost, nextStep, pool⟩, opened, hopen, hrest⟩ := Action.exists_of_bind_ok h
  obtain ⟨drawn, sampled, hdraw, hclose⟩ := Action.exists_of_bind_ok hrest
  obtain ⟨hopened, hgenerator⟩ := Machine.of_onStore_ok hopen
  obtain ⟨hsample, hstore⟩ := Machine.of_drawWeighted_ok hdraw
  obtain ⟨hclosed, hkept⟩ := Machine.of_onStore_ok hclose
  obtain rfl := Play.openStepup_pool hopened
  rw [hgenerator] at hsample
  rw [hstore] at hclosed
  have hframe := Play.frame_openStepup hopened
  have hfound := (Play.charges_of_openStepup hopened).found
  refine ⟨cost, drawn, ⟨hfound, ?_⟩, ?_, ?_⟩
  · rw [hkept]
    exact hsample
  · exact Play.closeStepup_random hframe.rewards hclosed
  · rw [Records.prizes, ← hframe.rewards]
    refine Play.guaranteed_of_closeStepup ?_ hclosed
    rw [Records.entriesOf, hframe.entries]
    exact hfound

theorem handed_playBox {play : BoxPlay}
    (h : Action.run (playBox player gacha selector).body machine = (.ok play, worked)) :
    ∃ cost drawn, (playBox player gacha selector).Drew gacha selector machine worked cost
        drawn ∧
      play.items = machine.store.winnings (fun _ => 0) drawn ∧
      play.dealt = drawn.map Entry.id := by
  obtain ⟨⟨cost, pool⟩, opened, hopen, hrest⟩ := Action.exists_of_bind_ok h
  obtain ⟨drawn, sampled, hdraw, hclose⟩ := Action.exists_of_bind_ok hrest
  obtain ⟨hopened, hgenerator⟩ := Machine.of_onStore_ok hopen
  obtain ⟨hsample, hstore⟩ := Machine.of_draw_ok hdraw
  obtain ⟨hclosed, hkept⟩ := Machine.of_onStore_ok hclose
  obtain ⟨hfound, rfl, -⟩ := Play.openBox_ok hopened
  rw [hgenerator] at hsample
  rw [hstore] at hclosed
  refine ⟨cost, drawn, ⟨hfound, ?_⟩, ?_, (Play.closeBox_dealt hclosed).1⟩
  · rw [hkept]
    exact hsample
  · exact Play.closeBox_items (Play.frame_openBox hopened).rewards hclosed

theorem handed_body (hplay : operation.play? = some (player, gacha, selector))
    (h : Action.run operation.body machine = (.ok answer, worked)) :
    ∃ cost drawn, operation.Drew gacha selector machine worked cost drawn ∧
      operation.HandsOut machine.store cost drawn answer := by
  cases operation with
  | playNormal player gacha selector => cases hplay; exact handed_playNormal h
  | playStepup player gacha step => cases hplay; exact handed_playStepup h
  | playBox player gacha selector => cases hplay; exact handed_playBox h
  | _ => cases hplay

theorem Drew.length_eq {cost : Entry} {drawn : List Entry} (hkeyed : machine.store.Keyed)
    (hplay : operation.play? = some (player, gacha, selector))
    (h : operation.Drew gacha selector machine worked cost drawn) :
    drawn.length = cost.rolls.toNat := by
  have hsampled := h.sampled
  have hweighted (hsample : (if cost.rolls = 0 then (.ok [], machine.generator)
      else Sampling.weightedByDouble Entry.weight (machine.store.pool gacha) cost.rolls.toNat
        machine.generator) = (.ok drawn, worked.generator)) : drawn.length = cost.rolls.toNat := by
    split at hsample
    · rename_i hrolls
      obtain ⟨hdrawn, -⟩ := Prod.mk.inj hsample
      cases hdrawn
      rw [hrolls]
      rfl
    · exact Sampling.length_weighted hsample
  cases operation with
  | playNormal player gacha selector => exact hweighted hsampled
  | playStepup player gacha step => exact hweighted hsampled
  | playBox player gacha selector =>
      cases hplay
      exact (Sampling.uniform_ok (congrArg Prod.fst hsampled)
        (hkeyed.length_boxPool_le gacha player.character)).1
  | _ => cases hplay

end Operation

namespace Machine

variable {α β : Type}

theorem run_without_rolls {machine : Machine Records} {opening : Action Records α}
    {pool : α → List Entry} {rolls : α → UInt8} {closing : α → List Entry → Action Records β}
    (hopening : opening.DrawFree)
    (hclosing : ∀ a drawn, (closing a drawn).DrawFree)
    (hrolls : ∀ a after, Action.run opening machine.store = (.ok a, after) → rolls a = 0) :
    ∃ outcome after, Action.run (onStore opening >>= fun a =>
        drawWeighted (pool a) (rolls a) >>= fun drawn => onStore (closing a drawn)) machine =
      (outcome, { machine with store := after }) ∧ Outcome.DrawFree outcome := by
  have hfree := hopening machine.store
  cases hopened : Action.run opening machine.store with
  | mk outcome after =>
      have hrun : Action.run (onStore opening) machine =
          (outcome, { machine with store := after }) := by
        rw [run_onStore, hopened]
      rw [hopened] at hfree
      cases outcome with
      | error halt =>
          refine ⟨.error halt, after, Action.run_bind_of_error hrun, fun fault hrefused => ?_⟩
          cases hrefused
          exact hfree fault rfl
      | ok a =>
          rw [Action.run_bind_of_ok hrun, drawWeighted, if_pos (hrolls a after hopened)]
          exact ⟨_, _, rfl, hclosing a [] after⟩

end Machine

namespace Operation

variable {α : Type} {player : Player} {gacha : GachaId} {selector : UInt8}
  {operation : Operation α}

theorem body_without_rolls (hplay : operation.play? = some (player, gacha, selector))
    (hweighs : operation.weighs = true) {machine : Machine Records}
    (hrolls : ∀ cost, (machine.store.entriesOf gacha).find?
      (fun entry => entry.entryType == selector) = some cost → cost.rolls = 0) :
    ∃ outcome after, Action.run operation.body machine =
      (outcome, { machine with store := after }) ∧ Outcome.DrawFree outcome := by
  cases operation with
  | playNormal player gacha selector =>
      cases hplay
      have hopen (opened : Entry × Option Debit × List Entry) (after : Records)
          (h : Action.run (Play.openNormal player gacha selector) machine.store =
            (.ok opened, after)) : opened.1.rolls = 0 := by
        obtain ⟨cost, debit, pool⟩ := opened
        exact hrolls cost (Play.charges_of_openNormal h).found
      have hbody : (playNormal player gacha selector).body (σ := Records) =
          Machine.onStore (Play.openNormal player gacha selector) >>= fun opened =>
            Machine.drawWeighted opened.2.2 opened.1.rolls >>= fun drawn =>
              Machine.onStore (Play.closeNormal player opened.2.1 drawn) := rfl
      rw [hbody]
      exact Machine.run_without_rolls (Play.drawFree_openNormal player gacha selector)
        (fun opened drawn => Play.drawFree_closeNormal player opened.2.1 drawn) hopen
  | playStepup player gacha step =>
      cases hplay
      have hopen (opened : Entry × UInt8 × List Entry) (after : Records)
          (h : Action.run (Play.openStepup player gacha selector) machine.store =
            (.ok opened, after)) : opened.1.rolls = 0 := by
        obtain ⟨cost, nextStep, pool⟩ := opened
        exact hrolls cost (Play.charges_of_openStepup h).found
      have hbody : (playStepup player gacha selector).body (σ := Records) =
          Machine.onStore (Play.openStepup player gacha selector) >>= fun opened =>
            Machine.drawWeighted opened.2.2 opened.1.rolls >>= fun drawn =>
              Machine.onStore (Play.closeStepup player gacha selector opened.2.1 drawn) := rfl
      rw [hbody]
      exact Machine.run_without_rolls (Play.drawFree_openStepup player gacha selector)
        (fun opened drawn => Play.drawFree_closeStepup player gacha selector opened.2.1 drawn) hopen
  | _ => cases hweighs

theorem plays_hand_out {δ : Type} [Database δ] (operation : Operation α) (player : Player)
    (gacha : GachaId) (selector : UInt8)
    (hplay : operation.play? = some (player, gacha, selector)) :
    (∀ (machine next : Machine Memory) (answer : α), machine.store.records.Keyed →
      Action.run operation.perform machine = (.ok answer, next) →
      ∃ cost pool drawn, machine.store.records.Prices gacha selector cost ∧
        machine.store.records.Arranged gacha pool ∧
        operation.sample machine.store.records pool cost.rolls machine.generator =
          (.ok drawn, next.generator) ∧
        drawn.length = cost.rolls.toNat ∧
        operation.HandsOut machine.store.records cost drawn answer) ∧
    (operation.weighs = true → ∀ machine : Machine Memory, machine.store.records.Keyed →
      (∀ cost, machine.store.records.Prices gacha selector cost → cost.rolls = 0) →
      (Action.run operation.perform machine).1 ≠ .error (.refused .emptyPool) ∧
        (Action.run operation.perform machine).2.generator = machine.generator) ∧
    ∀ (machine next : Machine (Client δ)) (answer : α), machine.store.link = .idle →
      Action.run operation.perform machine = (.ok answer, next) →
      ∃ begun drew drawn resolved front loop back,
        Action.run (Machine.onStore Store.start) machine = (.ok (), begun) ∧
        operation.Resolves answer begun drew drawn resolved ∧
        machine.store.Talks front drew.store ∧ drew.store.Talks loop resolved ∧
        resolved.Talks back next.store ∧ fetched loop = (drawn.map Entry.id).eraseDups := by
  refine ⟨fun machine next answer hkeyed h => ?_, fun hweighs machine hkeyed hrolls => ?_,
    fun machine next answer hidle h => fetches_perform hplay hidle h⟩
  · obtain ⟨worked, hworked, rfl⟩ := run_memory_of_ok h
    obtain ⟨cost, drawn, hdrew, hhands⟩ := handed_body hplay hworked
    exact ⟨cost, _, drawn, hkeyed.prices hdrew.found, hkeyed.arranged gacha, hdrew.sampled,
      hdrew.length_eq hkeyed hplay, hhands⟩
  · have hcost (cost : Entry) (hfound : (machine.plain.store.entriesOf gacha).find?
        (fun entry => entry.entryType == selector) = some cost) : cost.rolls = 0 :=
      hrolls cost (hkeyed.prices hfound)
    obtain ⟨outcome, after, hworked, hfree⟩ := body_without_rolls hplay hweighs hcost
    rw [operation.run_memory, hworked]
    cases outcome with
    | ok answer => exact ⟨nofun, rfl⟩
    | error halt =>
        refine ⟨fun hrefused => ?_, rfl⟩
        cases hrefused
        cases hfree _ rfl

end Operation

namespace Sample

def wheelCatalog : Catalog where
  gachas := [{ id := 1, name := "wheel" }]
  entries := [
    { entry := { id := 1, gacha := 1, entryType := 0, rolls := 2 } },
    { entry := { id := 2, gacha := 1, entryType := 1 } },
    { entry :=
        { id := 3, gacha := 1, entryType := 100, weight := ⟨0x3ff0000000000000⟩, rarity := 5 },
      items := [⟨7, 1, 1⟩, ⟨7, 2, 1⟩] }]

def wheel : Machine Memory :=
  machine ((({} : Records).addCatalog wheelCatalog).addPlayer player)

theorem keyed_wheel : wheel.store.records.Keyed :=
  (Records.keyed_empty.addCatalog wheelCatalog).of_entries_eq rfl

def wheelReplies : List Response :=
  [[], [], [],
    [gachaRow { id := 1, name := "wheel" }],
    [entryRow { id := 1, gacha := 1, entryType := 0, rolls := 2 }],
    [entryRow
      { id := 3, gacha := 1, entryType := 100, weight := ⟨0x3ff0000000000000⟩, rarity := 5 }],
    [rewardRow ⟨7, 1, 1⟩, rewardRow ⟨7, 2, 1⟩],
    [[("gacha_items", .null)]],
    [], []].map fun rows => .answered { rows, affected := 1 }

def wheelPlay : NormalPlay where
  items := [⟨⟨7, 1, 1⟩, 5⟩, ⟨⟨7, 2, 1⟩, 5⟩, ⟨⟨7, 1, 1⟩, 5⟩, ⟨⟨7, 2, 1⟩, 5⟩]
  debit := none

end Sample

namespace Operation

theorem plays_hand_out_wheel :
    let twice := playNormal Sample.player 1 0
    let never := playNormal Sample.player 1 1
    let served := Sample.served Sample.wheelReplies
    let records := Sample.wheel.store.records
    (∃ next, Action.run twice.perform Sample.wheel = (.ok Sample.wheelPlay, next) ∧
      ∃ cost drawn, records.Prices 1 0 cost ∧ drawn.length = cost.rolls.toNat ∧
        Sample.wheelPlay.items = records.winnings Entry.rarity drawn) ∧
    ((Action.run never.perform Sample.wheel).1 ≠ .error (.refused .emptyPool) ∧
      (Action.run never.perform Sample.wheel).2.generator = Sample.wheel.generator) ∧
    ∃ next, Action.run twice.perform served = (.ok Sample.wheelPlay, next) ∧
      next.store.trace.filterMap Statement.rewardsOf? = [3] ∧
      ∃ (drew : Machine (Client Canned)) (drawn : List Entry) (resolved : Client Canned)
        (loop : List Round), drew.store.Talks loop resolved ∧
        Action.run (twice.resolve drawn) drew.store = (.ok Sample.wheelPlay.items, resolved) ∧
        fetched loop = (drawn.map Entry.id).eraseDups := by
  intro twice never served records
  have hwheel : (Action.run twice.perform Sample.wheel).1 = .ok Sample.wheelPlay := by
    decide +kernel
  have hserved : (Action.run twice.perform served).1 = .ok Sample.wheelPlay := by
    decide +kernel
  have hasked : (Action.run twice.perform served).2.store.trace.filterMap
      Statement.rewardsOf? = [3] := by
    decide +kernel
  have hrolls (cost : Entry) (hprices : records.Prices 1 1 cost) : cost.rolls = 0 := by
    obtain ⟨hmem, -, hnamed, -⟩ := hprices
    have hall : ∀ entry ∈ records.entries.values, entry.entryType = 1 → entry.rolls = 0 := by
      decide +kernel
    exact hall cost hmem hnamed
  obtain ⟨hmemory, -, hclient⟩ :=
    plays_hand_out (δ := Canned) twice Sample.player 1 0 rfl
  obtain ⟨-, hnever, -⟩ := plays_hand_out (δ := Canned) never Sample.player 1 1 rfl
  have hrun : Action.run twice.perform Sample.wheel =
      (.ok Sample.wheelPlay, (Action.run twice.perform Sample.wheel).2) := Prod.ext hwheel rfl
  have htold : Action.run twice.perform served =
      (.ok Sample.wheelPlay, (Action.run twice.perform served).2) := Prod.ext hserved rfl
  obtain ⟨cost, -, drawn, hprices, -, -, hlength, hitems⟩ :=
    hmemory Sample.wheel _ _ Sample.keyed_wheel hrun
  obtain ⟨_, drew, told, resolved, _, loop, _, -, hresolves, -, hloop, -, honce⟩ :=
    hclient served _ _ rfl htold
  exact ⟨⟨_, hrun, cost, drawn, hprices, hlength, hitems⟩,
    hnever rfl Sample.wheel Sample.keyed_wheel hrolls,
    _, htold, hasked, drew, told, resolved, loop, hloop, hresolves.resolves, honce⟩

end Operation

end PrizeDraw
