import PrizeDraw.Proofs.Draws
import PrizeDraw.Proofs.Keys
import PrizeDraw.Proofs.Plays

namespace PrizeDraw

open scoped List

namespace Records

variable {records : Records} {gacha : GachaId} {character : CharacterId}

def undealt (records : Records) (gacha : GachaId) (character : CharacterId) : List Entry :=
  (records.entriesOf gacha).filter fun entry =>
    entry.inPool && !(records.dealtTo gacha character).contains entry.id

def boxPool (records : Records) (gacha : GachaId) (character : CharacterId) : List Entry :=
  (Arrangement.arrange byWeightThenId ((records.entriesOf gacha).filter Entry.inPool)).filter
    fun entry => !(records.dealtTo gacha character).contains entry.id

theorem boxPool_perm (records : Records) (gacha : GachaId) (character : CharacterId) :
    records.boxPool gacha character ~ records.undealt gacha character := by
  have harranged := Arrangement.arrange_perm byWeightThenId
    ((records.entriesOf gacha).filter Entry.inPool)
  have hfiltered := harranged.filter fun entry =>
    !(records.dealtTo gacha character).contains entry.id
  rw [List.filter_filter] at hfiltered
  simp only [Bool.and_comm] at hfiltered
  exact hfiltered

theorem mem_undealt {entry : Entry} (h : entry ∈ records.undealt gacha character) :
    entry ∈ records.entriesOf gacha ∧ entry.entryType = Entry.poolType ∧
      entry.id ∉ records.dealtTo gacha character := by
  obtain ⟨hmem, hboth⟩ := List.mem_filter.1 h
  rw [Bool.and_eq_true] at hboth
  obtain ⟨hpool, hnew⟩ := hboth
  exact ⟨hmem, by simpa [Entry.inPool] using hpool, by simpa using hnew⟩

theorem dealtTo_of_insertDealt_ok {after : Records} {entry : EntryId}
    (h : Action.run (Store.perform (.insertDealt gacha character entry)) records =
      (.ok (), after)) :
    after.dealtTo gacha character = records.dealtTo gacha character ++ [entry] := by
  rw [run_perform] at h
  split at h
  · rename_i answer changed hstep
    cases h
    rw [of_write_ok hstep, dealtTo_append, if_pos ⟨rfl, rfl⟩]
  · cases h

theorem dealtTo_of_deleteDealt_ok {after : Records}
    (h : Action.run (Store.perform (.deleteDealt gacha character)) records = (.ok (), after)) :
    after.dealtTo gacha character = [] := by
  rw [run_perform] at h
  split at h
  · rename_i answer changed hstep
    cases h
    rw [of_write_ok hstep, dealtTo_filter, if_pos ⟨rfl, rfl⟩]
  · cases h

theorem Keyed.nodup_undealt (h : records.Keyed) (gacha : GachaId) (character : CharacterId) :
    ((records.undealt gacha character).map Entry.id).Nodup := by
  refine h.nodup_ids.sublist ?_
  have hentries : records.undealt gacha character <+ records.entriesOf gacha :=
    List.filter_sublist
  have hvalues : records.entriesOf gacha <+ records.entries.values := List.filter_sublist
  exact (hentries.trans hvalues).map Entry.id

theorem Keyed.length_pool_le (h : records.Keyed) (gacha : GachaId) (character : CharacterId) :
    ((records.entriesOf gacha).filter Entry.inPool).length ≤
      (records.undealt gacha character).length + (records.dealtTo gacha character).length := by
  let gone : Entry → Bool := fun entry => (records.dealtTo gacha character).contains entry.id
  let pool := (records.entriesOf gacha).filter Entry.inPool
  have hnodup : ((pool.filter gone).map Entry.id).Nodup := by
    refine h.nodup_ids.sublist (List.Sublist.map Entry.id ?_)
    exact List.filter_sublist.trans (List.filter_sublist.trans List.filter_sublist)
  have hsubset : (pool.filter gone).map Entry.id ⊆ records.dealtTo gacha character := by
    intro id hid
    obtain ⟨entry, hentry, rfl⟩ := List.mem_map.1 hid
    simpa [gone] using (List.mem_filter.1 hentry).2
  have hgone : (pool.filter gone).length ≤ (records.dealtTo gacha character).length := by
    have hlength := hnodup.length_le_of_subset hsubset
    rwa [List.length_map] at hlength
  have hleft : (pool.filter fun entry => !gone entry).length =
      (records.undealt gacha character).length := by
    rw [List.filter_filter, undealt]
    simp only [gone, Bool.and_comm]
  have hsplit := pool.length_eq_length_filter_add gone
  change pool.length ≤ _
  omega

theorem Keyed.length_boxPool_le (h : records.Keyed) (gacha : GachaId)
    (character : CharacterId) :
    (records.boxPool gacha character).length ≤ Generator.wordRange := by
  have hlength := UInt32.length_le_of_nodup (h.nodup_undealt gacha character)
  rw [List.length_map] at hlength
  rw [(records.boxPool_perm gacha character).length_eq]
  exact hlength

end Records

namespace Play

variable {player : Player} {gacha : GachaId} {records after : Records}

theorem openBox_ok {selector : UInt8} {cost : Entry} {pool : List Entry}
    (h : Action.run (openBox player gacha selector) records = (.ok (cost, pool), after)) :
    (records.entriesOf gacha).find? (fun entry => entry.entryType == selector) = some cost ∧
      pool = records.boxPool gacha player.character ∧
      after.dealtTo gacha player.character = records.dealtTo gacha player.character := by
  obtain ⟨_, locked, hlock, hcharged⟩ := Action.exists_of_bind_ok h
  cases hlock
  obtain ⟨⟨row, debit⟩, charged, hcharge, hdealt⟩ := Action.exists_of_bind_ok hcharged
  obtain ⟨hrow, -⟩ := charge_ok hcharge
  have hframe := frame_charge hcharge
  have hrows := hframe.dealt gacha player.character (by simp)
  cases hdealt
  refine ⟨hrow, ?_, hrows⟩
  rw [hrows, Records.entriesOf, hframe.entries]
  rfl

theorem collect_insertDealt_ok {rarity : Entry → UInt8} {fetched : Fetched}
    {drawn : List Entry} {items : List DrawnItem} {character : CharacterId}
    (h : Action.run (collect (fun entry => Store.perform (.insertDealt gacha character entry.id))
      rarity fetched drawn) records = (.ok items, after)) :
    after.dealtTo gacha character =
      records.dealtTo gacha character ++ drawn.map Entry.id := by
  induction drawn generalizing fetched items records with
  | nil =>
      obtain ⟨-, rfl⟩ := Action.of_pure_ok h
      simp
  | cons entry rest ih =>
      obtain ⟨_, marked, hmark, hlooked⟩ := Action.exists_of_bind_ok h
      obtain ⟨⟨found, kept⟩, looked, hlook, hothers⟩ := Action.exists_of_bind_ok hlooked
      obtain ⟨others, collected, hcollect, hanswer⟩ := Action.exists_of_bind_ok hothers
      obtain ⟨-, rfl⟩ := Action.of_pure_ok hanswer
      have hrows := (frame_rewards hlook).dealt gacha character (by simp)
      rw [ih hcollect, hrows, Records.dealtTo_of_insertDealt_ok hmark, List.append_assoc]
      rfl

theorem run_rewards {prizes : EntryId → List RewardItem}
    (hprizes : ∀ id, (records.rewards.find? id).getD [] = prizes id) {fetched : Fetched}
    (hfetched : ∀ id items, fetched.find? id = some items → items = prizes id)
    (entry : EntryId) :
    ∃ kept, Action.run (rewards fetched entry) records = (.ok (prizes entry, kept), records) ∧
      ∀ id items, Table.find? id kept = some items → items = prizes id := by
  cases hfound : Table.find? entry fetched with
  | some items =>
      obtain rfl := hfetched entry items hfound
      refine ⟨fetched, ?_, hfetched⟩
      rw [rewards, hfound]
      rfl
  | none =>
      refine ⟨Table.insert entry (prizes entry) fetched, ?_, ?_⟩
      · rw [rewards, hfound, ← hprizes entry]
        rfl
      · intro id items hfind
        by_cases hid : id = entry
        · subst hid
          rw [Table.find?_insert_self] at hfind
          exact (Option.some.inj hfind).symm
        · rw [Table.find?_insert_of_ne hid] at hfind
          exact hfetched id items hfind

theorem run_collect {P : Records → Prop} (mark : Entry → Action Records Unit)
    (prizes : EntryId → List RewardItem)
    (hmark : ∀ entry records, P records →
      ∃ after, Action.run (mark entry) records = (.ok (), after) ∧ P after)
    (hprizes : ∀ records, P records → ∀ id, (records.rewards.find? id).getD [] = prizes id)
    (rarity : Entry → UInt8) (fetched : Fetched)
    (hfetched : ∀ id items, fetched.find? id = some items → items = prizes id)
    (drawn : List Entry) {records : Records} (hrecords : P records) :
    ∃ after, Action.run (collect mark rarity fetched drawn) records =
        (.ok (drawn.flatMap fun entry =>
          (prizes entry.id).map fun item => { item, rarity := rarity entry }), after) ∧
      P after := by
  induction drawn generalizing fetched records with
  | nil => exact ⟨records, rfl, hrecords⟩
  | cons entry rest ih =>
      obtain ⟨marked, hmarked, hkept⟩ := hmark entry records hrecords
      obtain ⟨kept, hlook, hcoherent⟩ := run_rewards (hprizes marked hkept) hfetched entry.id
      obtain ⟨after, hrest, hafter⟩ := ih kept hcoherent hkept
      refine ⟨after, ?_, hafter⟩
      rw [collect, Action.run_bind_of_ok hmarked, Action.run_bind_of_ok hlook,
        Action.run_bind_of_ok hrest]
      rfl

theorem closeBox_dealt {drawn : List Entry} {play : BoxPlay}
    (h : Action.run (closeBox player gacha drawn) records = (.ok play, after)) :
    play.dealt = drawn.map Entry.id ∧
      after.dealtTo gacha player.character =
        records.dealtTo gacha player.character ++ play.dealt := by
  obtain ⟨items, collected, hcollect, hawarded⟩ := Action.exists_of_bind_ok h
  obtain ⟨_, awarded, haward, hanswer⟩ := Action.exists_of_bind_ok hawarded
  obtain ⟨rfl, rfl⟩ := Action.of_pure_ok hanswer
  have hrows := (frame_award haward).dealt gacha player.character (by simp)
  exact ⟨rfl, hrows.trans (collect_insertDealt_ok hcollect)⟩

end Play

namespace Operation

variable {player : Player} {gacha : GachaId} {machine worked : Machine Records}

theorem dealtTo_playBox {selector : UInt8} {play : BoxPlay}
    (h : Action.run (playBox player gacha selector).body machine = (.ok play, worked)) :
    worked.store.dealtTo gacha player.character =
      machine.store.dealtTo gacha player.character ++ play.dealt := by
  obtain ⟨cost, pool, drawn, opened, hopen, hdraw, hclose⟩ := playBox_ok h
  obtain ⟨-, -, hopened⟩ := Play.openBox_ok hopen
  rw [(Play.closeBox_dealt hclose).2, hopened]

theorem deals_playBox {selector : UInt8} {play : BoxPlay} (hkeyed : machine.store.Keyed)
    (h : Action.run (playBox player gacha selector).body machine = (.ok play, worked)) :
    ∃ cost, (machine.store.entriesOf gacha).find? (fun entry => entry.entryType == selector) =
        some cost ∧
      play.dealt.length = cost.rolls.toNat ∧ play.dealt.Nodup ∧
      (∀ id ∈ play.dealt,
        ∃ entry ∈ machine.store.undealt gacha player.character, entry.id = id) ∧
      worked.store.dealtTo gacha player.character =
        machine.store.dealtTo gacha player.character ++ play.dealt := by
  obtain ⟨cost, pool, drawn, opened, hopen, hdraw, hclose⟩ := playBox_ok h
  obtain ⟨hcost, rfl, -⟩ := Play.openBox_ok hopen
  obtain ⟨hdealt, -⟩ := Play.closeBox_dealt hclose
  obtain ⟨hcount, rest, hperm⟩ := Sampling.uniform_ok hdraw
    (hkeyed.length_boxPool_le gacha player.character)
  have hundealt := hperm.trans (machine.store.boxPool_perm gacha player.character)
  have hids := hundealt.map Entry.id
  rw [List.map_append, ← hdealt] at hids
  have hnodup : (play.dealt ++ rest.map Entry.id).Nodup :=
    hids.nodup_iff.2 (hkeyed.nodup_undealt gacha player.character)
  refine ⟨cost, hcost, ?_, hnodup.of_append_left, ?_, dealtTo_playBox h⟩
  · rw [hdealt, List.length_map, hcount]
  · intro id hid
    have hmem := hids.mem_iff.1 (List.mem_append_left _ hid)
    obtain ⟨entry, hentry, heq⟩ := List.mem_map.1 hmem
    exact ⟨entry, hentry, heq⟩

theorem run_playBox_of_short {selector : UInt8} {cost : Entry} {pool : List Entry}
    {opened : Records}
    (hopen : Action.run (Play.openBox player gacha selector) machine.store =
      (.ok (cost, pool), opened))
    (hshort : (machine.store.undealt gacha player.character).length < cost.rolls.toNat) :
    Action.run (playBox player gacha selector).body machine =
      (.error (.refused (.insufficientPool cost.rolls.toNat
        (machine.store.undealt gacha player.character).length)),
        { machine with store := opened }) := by
  obtain ⟨-, rfl, -⟩ := Play.openBox_ok hopen
  have hlength := (machine.store.boxPool_perm gacha player.character).length_eq
  rw [← hlength] at hshort ⊢
  have hopened : Action.run (Machine.onStore (Play.openBox player gacha selector)) machine =
      (.ok (cost, machine.store.boxPool gacha player.character),
        { machine with store := opened }) := by
    rw [Machine.run_onStore, hopen]
  have hdraw : Action.run
      (Machine.drawUniform (machine.store.boxPool gacha player.character) cost.rolls)
      { machine with store := opened } =
      (.error (.refused (.insufficientPool cost.rolls.toNat
        (machine.store.boxPool gacha player.character).length)),
        { machine with store := opened }) := by
    rw [Machine.drawUniform, Machine.run_draw, Sampling.uniform_of_short hshort]
    rfl
  exact (Action.run_bind_of_ok hopened).trans (Action.run_bind_of_error hdraw)

theorem dealtTo_resetBox {answer : Unit}
    (h : Action.run (resetBox player gacha).body machine = (.ok answer, worked)) :
    worked.store.dealtTo gacha player.character = [] := by
  obtain ⟨_, locked, hlock, hreset⟩ := Action.exists_of_bind_ok h
  exact Records.dealtTo_of_deleteDealt_ok (Machine.of_onStore_ok hreset).1

theorem run_boxStatus (player : Player) (gacha : GachaId) (machine : Machine Records) :
    Action.run (boxStatus player gacha).body machine =
      (.ok ((machine.store.dealtTo gacha player.character).map fun entry =>
        { entry, exhausted := true }), machine) := rfl

end Operation

end PrizeDraw
