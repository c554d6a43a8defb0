import Mathlib.Logic.Function.Iterate
import PrizeDraw.Proofs.Acknowledgments
import PrizeDraw.Proofs.Collecting
import PrizeDraw.Proofs.Prizes
import PrizeDraw.Proofs.Reads
import PrizeDraw.Proofs.Tallies

namespace PrizeDraw

namespace Simulation

variable {player : Player} {gacha : GachaId} {mode : Mode} {machine : Machine Memory}
  {pending : Pending}

def attempt (player : Player) (gacha : GachaId) : Mode → Action (Machine Memory) (List DrawnItem)
  | .normal => do
      let play ← Machine.playNormal player gacha 0
      return play.items
  | .stepup => do
      let status ← Machine.stepStatus player gacha
      let play ← Machine.playStepup player gacha status.step
      return play.guaranteed ++ play.random
  | .box => do
      let play ← Machine.playBox player gacha 0
      return play.items

inductive Played (player : Player) (pending : Pending) :
    Except Halt (List DrawnItem) × Machine Memory → Prop where
  | won (items : List DrawnItem) (merged : Pending) (next : Machine Memory)
      (hitems : merged.items = items.map DrawnItem.item ++ pending.items)
      (hready : next.store.records.Ready player merged) : Played player pending (.ok items, next)
  | failed (fault : Fault) (next : Machine Memory)
      (hready : next.store.records.Ready player pending) :
      Played player pending (.error (.refused fault), next)

theorem played_operation {α : Type} (operation : Operation α) (items : α → List DrawnItem)
    (hgains : ∀ (start worked : Machine Records) answer,
      Action.run operation.body start = (.ok answer, worked) →
        start.store.Gains worked.store player.character ((items answer).map DrawnItem.item))
    (h : machine.store.records.Ready player pending)
    (hcalm : ¬Action.Overflows (operation.perform >>= fun answer => pure (items answer)) machine) :
    Played player pending
      (Action.run (operation.perform >>= fun answer => pure (items answer)) machine) := by
  unfold Action.Overflows at hcalm
  cases hrun : Action.run operation.perform machine with
  | mk outcome next =>
  cases outcome with
  | ok answer =>
      obtain ⟨worked, hbody, rfl⟩ := Operation.run_memory_of_ok hrun
      obtain ⟨loaded, merged, hloaded, hitems, hheld⟩ := hgains _ _ _ hbody
      obtain rfl : loaded = pending := Except.ok.inj (hloaded.symm.trans h.loads)
      have hloads : Pending.ofStored (worked.store.held player.character) = .ok merged := by
        rw [hheld, Pending.ofStored_stored]
      rw [Action.run_bind_of_ok hrun]
      exact .won (items answer) merged worked.stored hitems (h.of_perform hrun hloads)
  | error halt =>
      rw [Action.run_bind_of_error hrun] at hcalm ⊢
      cases halt with
      | overflow => exact absurd rfl hcalm
      | refused fault =>
          obtain ⟨worked, -, rfl⟩ := Operation.run_memory_of_error hrun
          exact .failed fault _ h

theorem exists_current {records : Records} (h : records.Ready player pending) (gacha : GachaId) :
    ∃ step after,
      Action.run (Steps.current gacha player.character) records = (.ok step, after) := by
  have hstep : Action.run (Store.perform (.step gacha player.character)) records =
      (.ok (records.steps? gacha player.character).head?, records) := rfl
  unfold Steps.current
  rw [Action.run_bind_of_ok hstep]
  generalize (records.steps? gacha player.character).head?.getD 0 = step
  have hentry : Action.run (Store.perform (.entryByType gacha step)) records =
      (.ok ((records.entriesOf gacha).find? (·.entryType == step)), records) := rfl
  rw [Action.run_bind_of_ok hentry]
  split
  · exact ⟨step, records, rfl⟩
  · have hdelete : (Action.run (Store.perform (.deleteStep gacha player.character)) records).1 =
        .ok () := by
      rw [Records.run_perform]
      simp only [Records.step, Records.step.write, h.checkWrite]
    exact ⟨0, _, Action.run_bind_of_ok (Prod.ext hdelete rfl)⟩

theorem exists_stepStatus (h : machine.store.records.Ready player pending) (gacha : GachaId) :
    ∃ status next, Action.run (Machine.stepStatus player gacha) machine = (.ok status, next) ∧
      next.store.records.Ready player pending := by
  obtain ⟨step, after, hcurrent⟩ := exists_current h gacha
  have hbody : Action.run (Operation.stepStatus player gacha).body machine.plain =
      (.ok { step, serverTime := machine.clock.reading },
        { machine.plain with store := after }) := by
    have hlocked : Action.run (Machine.onStore (Play.lock (σ := Records) player gacha))
        machine.plain = (.ok (), machine.plain) := rfl
    have hstep : Action.run (Machine.onStore (Steps.current gacha player.character))
        machine.plain = (.ok step, { machine.plain with store := after }) := by
      rw [Machine.run_onStore]
      simp only [Machine.plain, hcurrent]
    rw [Operation.body, Action.run_bind_of_ok hlocked, Action.run_bind_of_ok hstep]
    rfl
  have hrun := Operation.run_memory_of_body_ok hbody
  have hframe := (Operation.stepStatus player gacha).frame_perform machine
  rw [hrun] at hframe
  refine ⟨_, _, hrun, h.of_perform hrun ?_⟩
  rw [hframe.held player.character (by simp [Operation.reach])]
  exact h.loads

theorem run_attempt_stepup {asked : Machine Memory} {status : StepStatus}
    (hstatus : Action.run (Machine.stepStatus player gacha) machine = (.ok status, asked)) :
    Action.run (attempt player gacha .stepup) machine =
      Action.run ((Operation.playStepup player gacha status.step).perform >>= fun play =>
        pure (play.guaranteed ++ play.random)) asked :=
  Action.run_bind_of_ok hstatus

theorem played_attempt (h : machine.store.records.Ready player pending)
    (hcalm : ¬Action.Overflows (attempt player gacha mode) machine) :
    Played player pending (Action.run (attempt player gacha mode) machine) := by
  cases mode with
  | normal =>
      exact played_operation (.playNormal player gacha 0) NormalPlay.items
        (fun _ _ _ => Operation.gains_playNormal) h hcalm
  | box =>
      exact played_operation (.playBox player gacha 0) BoxPlay.items
        (fun _ _ _ => Operation.gains_playBox) h hcalm
  | stepup =>
      obtain ⟨status, asked, hstatus, hready⟩ := exists_stepStatus h gacha
      unfold Action.Overflows at hcalm
      rw [run_attempt_stepup hstatus] at hcalm ⊢
      exact played_operation (.playStepup player gacha status.step) StepupPlay.items
        (fun _ _ _ => Operation.gains_playStepup) hready hcalm

theorem run_settle_map {α β : Type} (action : Action (Machine Memory) α) (items : α → β)
    (machine : Machine Memory) :
    Action.run (Desk.settle action >>= fun outcome => pure (outcome.map items)) machine =
      Action.run (Desk.settle (action >>= fun answer => pure (items answer))) machine := by
  rw [Action.run_bind, Desk.run_settle, Desk.run_settle, Action.run_bind]
  cases Action.run action machine with
  | mk outcome next =>
  cases outcome with
  | ok answer => rfl
  | error halt => cases halt <;> rfl

theorem run_playOnce (h : machine.store.records.Ready player pending) :
    Action.run (playOnce player gacha mode) machine =
      Action.run (Desk.settle (attempt player gacha mode)) machine := by
  cases mode with
  | normal => exact run_settle_map (Machine.playNormal player gacha 0) NormalPlay.items machine
  | box => exact run_settle_map (Machine.playBox player gacha 0) BoxPlay.items machine
  | stepup =>
      obtain ⟨status, asked, hstatus, -⟩ := exists_stepStatus h gacha
      have hplay : Action.run (playOnce player gacha .stepup) machine =
          Action.run (Desk.settle (Machine.playStepup player gacha status.step) >>= fun outcome =>
            pure (outcome.map StepupPlay.items)) asked :=
        Action.run_bind_of_ok hstatus
      rw [hplay, run_settle_map, Desk.run_settle, Desk.run_settle, run_attempt_stepup hstatus]
      rfl

inductive Plays (player : Player) (gacha : GachaId) (mode : Mode) (start : Machine Memory) :
    List (List DrawnItem) → Machine Memory → Prop where
  | none : Plays player gacha mode start [] start
  | more {won : List (List DrawnItem)} {played next : Machine Memory} (items : List DrawnItem)
      (h : Plays player gacha mode start won played)
      (hplay : Action.run (attempt player gacha mode) played = (.ok items, next)) :
      Plays player gacha mode start (won ++ [items]) next

theorem Plays.eq_iterate {start played : Machine Memory} {won : List (List DrawnItem)}
    (h : Plays player gacha mode start won played) :
    played = (fun reached => (Action.run (attempt player gacha mode) reached).2)^[won.length]
      start := by
  induction h with
  | none => rfl
  | more items _ hplay ih =>
      rw [List.length_append, List.length_singleton, Function.iterate_succ_apply', ← ih, hplay]

inductive Stops (player : Player) (gacha : GachaId) (mode : Mode) (plays : Nat)
    (won : List (List DrawnItem)) (played : Machine Memory) : Machine Memory → Prop where
  | all (h : won.length = plays) : Stops player gacha mode plays won played played
  | failed (h : won.length < plays) (fault : Fault) (stopped : Machine Memory)
      (hplay : Action.run (attempt player gacha mode) played =
        (.error (.refused fault), stopped)) :
      Stops player gacha mode plays won played stopped

theorem Stops.length_le {plays : Nat} {won : List (List DrawnItem)}
    {played stopped : Machine Memory} (h : Stops player gacha mode plays won played stopped) :
    won.length ≤ plays := by
  cases h with
  | all h => exact h.le
  | failed h => exact h.le

theorem exists_playMany {start : Machine Memory} (n : Nat) {won : List (List DrawnItem)}
    {tally : Tally} (hplays : Plays player gacha mode start won machine)
    (hready : machine.store.records.Ready player pending) (hcounts : tally.Counts won)
    (hpending : pending.items = won.reverse.flatten.map DrawnItem.item)
    (hcalm : ∀ won' played, Plays player gacha mode start won' played →
      won'.length < won.length + n → ¬Action.Overflows (attempt player gacha mode) played) :
    ∃ all played stopped counted rest, Plays player gacha mode start all played ∧
      Stops player gacha mode (won.length + n) all played stopped ∧
      Action.run (playMany player gacha mode n tally) machine = (.ok counted, stopped) ∧
      counted.Counts all ∧ stopped.store.records.Ready player rest ∧
      rest.items = all.reverse.flatten.map DrawnItem.item := by
  induction n generalizing machine won tally pending with
  | zero =>
      exact ⟨won, machine, machine, tally, pending, hplays, .all rfl, rfl, hcounts, hready,
        hpending⟩
  | succ n ih =>
      have hsettled : Action.run (playOnce player gacha mode) machine = _ := run_playOnce hready
      have hplayed := played_attempt hready (hcalm won machine hplays (by omega))
      rw [Desk.run_settle] at hsettled
      cases hrun : Action.run (attempt player gacha mode) machine with
      | mk outcome next =>
      rw [hrun] at hplayed hsettled
      cases hplayed with
      | failed fault _ hnext =>
          refine ⟨won, machine, next, tally, pending, hplays, .failed (by omega) fault next hrun,
            ?_, hcounts, hnext, hpending⟩
          rw [playMany, Action.run_bind_of_ok hsettled]
          rfl
      | won items merged _ hitems hnext =>
          have hlength : (won ++ [items]).length + n = won.length + (n + 1) := by
            rw [List.length_append, List.length_singleton]
            omega
          have hmerged : merged.items = (won ++ [items]).reverse.flatten.map DrawnItem.item := by
            rw [hitems, hpending, List.reverse_concat, List.flatten_cons, List.map_append]
          rw [← hlength] at hcalm ⊢
          have hrest := ih (.more items hplays hrun) hnext (Tally.counts_record hcounts items)
            hmerged hcalm
          rwa [playMany, Action.run_bind_of_ok hsettled]

theorem ready_memoryStore (catalog : Catalog) :
    (memoryStore catalog).records.Ready Sandbox.player .empty where
  failing := rfl
  known balance := by cases balance <;> rfl
  loads := rfl

theorem run_balance {records : Records} {balance : Balance} {value : Int64}
    (h : records.amount? player balance = some value) :
    Action.run (Store.perform (.balance player balance)) records = (.ok value, records) := by
  rw [Records.run_perform]
  simp only [Records.step, Records.balance_ok_iff.2 h, Records.step.read]

theorem exists_points (h : machine.store.records.Ready player pending) :
    ∃ points, Action.run (Machine.points player) machine = (.ok points, machine.plain.stored) ∧
      machine.store.records.balance player .frontierPoints = .ok points.frontierPoints ∧
      machine.store.records.balance player .gachaPremium = .ok points.premium ∧
      machine.store.records.balance player .gachaTrial = .ok points.trial := by
  obtain ⟨frontierPoints, hfrontier⟩ := Option.isSome_iff_exists.1 (h.known .frontierPoints)
  obtain ⟨premium, hpremium⟩ := Option.isSome_iff_exists.1 (h.known .gachaPremium)
  obtain ⟨trial, htrial⟩ := Option.isSome_iff_exists.1 (h.known .gachaTrial)
  have hpoints : Action.run (Ledger.points player) machine.store.records =
      (.ok { frontierPoints, premium, trial }, machine.store.records) := by
    unfold Ledger.points
    rw [Action.run_bind_of_ok (run_balance hfrontier), Action.run_bind_of_ok (run_balance hpremium),
      Action.run_bind_of_ok (run_balance htrial)]
    rfl
  have hbody : Action.run (Operation.points player).body machine.plain =
      (.ok { frontierPoints, premium, trial }, machine.plain) := by
    rw [Operation.body, Machine.run_onStore, Machine.plain, hpoints]
  exact ⟨{ frontierPoints, premium, trial }, Operation.run_memory_of_body_ok hbody,
    Records.balance_ok_iff.2 hfrontier, Records.balance_ok_iff.2 hpremium,
    Records.balance_ok_iff.2 htrial⟩

theorem run_accounts (host : Host) (settings : EngineSettings) (catalog : Catalog) (plan : Plan)
    (hcalm : ∀ won played,
      Plays Sandbox.player plan.gacha plan.mode
          (Simulation.machine host settings (memoryStore catalog)) won played →
        won.length < plan.plays →
          ¬Action.Overflows (attempt Sandbox.player plan.gacha plan.mode) played) :
    let player := Sandbox.player
    let start := Simulation.machine host settings (memoryStore catalog)
    ∃ (won : List (List DrawnItem)) (counts : List (UInt8 × Nat)) (points : Points)
        (played stopped final : Machine Memory),
      let drawn := won.flatten
      (Plays player plan.gacha plan.mode start won played ∧
        Stops player plan.gacha plan.mode plan.plays won played stopped ∧
        won.length ≤ plan.plays) ∧
      (counts.Pairwise (fun a b => a.1 < b.1) ∧
        (∀ rarity count, (rarity, count) ∈ counts ↔
          0 < count ∧ count = drawn.countP fun item => item.rarity == rarity) ∧
        (counts.map Prod.snd).sum = drawn.length) ∧
      (Collects player stopped (won.reverse.flatten.map DrawnItem.item) final ∧
        ∀ limit, 8 ≤ limit →
          Action.run (collectAll player limit) stopped = (.ok drawn.length, final)) ∧
      run player plan start =
        ({ lines :=
            [s!"plays: {won.length}, items drawn: {drawn.length}, collected: {drawn.length}"] ++
            counts.map (fun (rarity, count) => s!"  rarity {rarity}: {count}") ++
            [s!"balances: frontier points {points.frontierPoints}, premium {points.premium}" ++
              s!", trial {points.trial}"],
           fault := none }, final) ∧
      final.store.records.pendingBuffer player.character = .ok none ∧
      final.store.records.balance player .frontierPoints = .ok points.frontierPoints ∧
      final.store.records.balance player .gachaPremium = .ok points.premium ∧
      final.store.records.balance player .gachaTrial = .ok points.trial := by
  intro player start
  obtain ⟨won, played, stopped, tally, rest, hplays, hstops, hmany, hcounts, hready, hrest⟩ :=
    exists_playMany plan.plays .none (ready_memoryStore catalog) Tally.counts_nil rfl
      (by simpa using hcalm)
  rw [List.length_nil, Nat.zero_add] at hstops
  obtain ⟨final, hfinal, habsent, hstored, hcollects, hcollect⟩ := exists_collectAll hready
  obtain ⟨points, hpoints, hbalances⟩ := exists_points hfinal
  have hsize : rest.size = won.flatten.length := by
    rw [Pending.size, hrest, List.length_map, List.length_flatten, List.length_flatten,
      List.map_reverse, List.sum_reverse]
  have hcollected : ∀ limit, 8 ≤ limit →
      Action.run (collectAll player limit) stopped = (.ok won.flatten.length, final) := by
    intro limit hlimit
    have hfits : rest.size ≤ 255 := rest.fits
    have hdrained := hcollect limit (by omega) (by unfold Pending.maxEmitted; omega)
    rwa [hsize] at hdrained
  refine ⟨won, tally.byRarity, points, played, stopped, final,
    ⟨hplays, hstops, hstops.length_le⟩,
    ⟨hcounts.items.sorted, hcounts.items.mem_iff, hcounts.items.total⟩,
    ⟨hrest ▸ hcollects, hcollected⟩, ?_, ?_, hbalances⟩
  · have hdrained := hcollected retrievalLimit (by decide)
    have hall : Action.run (playAndCollect player plan) start =
        (.ok (tally, won.flatten.length), final) := by
      unfold playAndCollect
      rw [Action.run_bind_of_ok hmany, Action.run_bind_of_ok hdrained]
      rfl
    rw [hstored] at hpoints
    have hread : Action.run (Machine.points player) final = (.ok points, final) := hpoints
    simp only [run, hall, hread, tallyLines, playsLine, hcounts.plays, hcounts.total]
    rfl
  · rw [hfinal.pendingBuffer, habsent]

end Simulation

namespace Sample

def host : Host where
  env := []
  file? _ := none

end Sample

namespace Simulation

theorem run_accounts_box :
    let plan : Plan := { mode := .box, gacha := 1, plays := 3 }
    let start := Simulation.machine Sample.host {} (memoryStore Sample.catalog)
    (∀ won played, Plays Sandbox.player plan.gacha plan.mode start won played →
      won.length < plan.plays →
        ¬Action.Overflows (attempt Sandbox.player plan.gacha plan.mode) played) ∧
    ∃ (won : List (List DrawnItem)) (played stopped final : Machine Memory),
      Plays Sandbox.player 1 .box start won played ∧
      Stops Sandbox.player 1 .box 3 won played stopped ∧ won.length = 2 ∧
      run Sandbox.player plan start =
        ({ lines := ["plays: 2, items drawn: 2, collected: 2", "  rarity 0: 2",
            "balances: frontier points 980, premium 100, trial 30"], fault := none }, final) ∧
      final.store.records.pendingBuffer Sandbox.player.character = .ok none := by
  intro plan start
  let outcome (n : Nat) : Except Halt (List DrawnItem) := (Action.run (attempt Sandbox.player 1 .box)
    ((fun reached => (Action.run (attempt Sandbox.player 1 .box) reached).2)^[n] start)).1
  have houtcome : ∀ n < 3, outcome n ≠ .error .overflow ∧ ((outcome n).isOk ↔ n < 2) := by
    decide +kernel
  have hcalm : ∀ won played, Plays Sandbox.player plan.gacha plan.mode start won played →
      won.length < plan.plays →
        ¬Action.Overflows (attempt Sandbox.player plan.gacha plan.mode) played := by
    intro won played hplays hlength
    rw [hplays.eq_iterate]
    exact (houtcome won.length hlength).1
  have hreport : (run Sandbox.player plan start).1 =
      { lines := ["plays: 2, items drawn: 2, collected: 2", "  rarity 0: 2",
          "balances: frontier points 980, premium 100, trial 30"], fault := none } := by
    decide +kernel
  obtain ⟨won, counts, points, played, stopped, final, ⟨hplays, hstops, hatMost⟩, -, -, hrun,
    habsent, -⟩ := run_accounts Sample.host {} Sample.catalog plan hcalm
  refine ⟨hcalm, won, played, stopped, final, hplays, hstops, ?_, ?_, habsent⟩
  · have hsome : won.length ≤ 2 := by
      cases hplays with
      | none => exact Nat.zero_le 2
      | more items hbefore hplay =>
          rw [List.length_append, List.length_singleton] at hatMost ⊢
          rw [hbefore.eq_iterate] at hplay
          refine (houtcome _ hatMost).2.1 ?_
          have hok : outcome _ = .ok items := congrArg Prod.fst hplay
          rw [hok]
          rfl
    cases hstops with
    | all hall =>
        rw [hall] at hsome
        exact absurd hsome (by decide)
    | failed hfewer fault _ hplay =>
        rw [hplays.eq_iterate] at hplay
        have hfailed : outcome won.length = .error (.refused fault) := congrArg Prod.fst hplay
        have hlast : ¬won.length < 2 := by
          rw [← (houtcome _ hfewer).2, hfailed]
          exact nofun
        omega
  · have hfinal : (run Sandbox.player plan start).2 = final := by rw [hrun]
    exact Prod.ext hreport hfinal

end Simulation

end PrizeDraw
