import PrizeDraw.Proofs.Visits
import PrizeDraw.Proofs.Writes

namespace PrizeDraw

def Statement.rewardsOf? : Statement → Option EntryId
  | .selectRewards entry => some entry
  | _ => none

def fetched (rounds : List Round) : List EntryId :=
  rounds.filterMap fun round => round.statement.rewardsOf?

theorem fetched_append (first second : List Round) :
    fetched (first ++ second) = fetched first ++ fetched second := List.filterMap_append

namespace Client

variable {δ : Type} [Database δ] {before after : Client δ} {player : Player} {gacha : GachaId}

theorem fetches_rewards {cache kept : Play.Fetched} {entry : EntryId} {items : List RewardItem}
    (hactive : before.link = .active)
    (h : Action.run (Play.rewards cache entry) before = (.ok (items, kept), after)) :
    ∃ rounds, before.Heard rounds after ∧
      fetched rounds = (if (cache.find? entry).isSome then [] else [entry]) ∧
      ∀ id, (Table.find? id kept).isSome = ((cache.find? id).isSome || id == entry) := by
  unfold Play.rewards at h
  cases hfound : cache.find? entry with
  | some held =>
      rw [hfound] at h
      obtain ⟨hpair, rfl⟩ := Action.of_pure_ok h
      cases hpair
      refine ⟨[], .refl hactive, rfl, fun id => ?_⟩
      by_cases hid : id = entry
      · simp [hid, hfound]
      · simp [hid]
  | none =>
      rw [hfound] at h
      obtain ⟨found, asked, hask, hanswer⟩ := Action.exists_of_bind_ok h
      obtain ⟨hpair, rfl⟩ := Action.of_pure_ok hanswer
      cases hpair
      obtain ⟨_, hheard, -⟩ := heard_perform _ rfl hactive hask
      refine ⟨_, hheard, rfl, fun id => ?_⟩
      by_cases hid : id = entry
      · simp [hid]
      · simp [hid, Table.find?_insert_of_ne hid]

theorem fetches_collect {mark : Entry → Action (Client δ) Unit}
    (hmark : ∀ entry (before after : Client δ), before.link = .active →
      Action.run (mark entry) before = (.ok (), after) →
        ∃ rounds, before.Heard rounds after ∧ fetched rounds = [])
    {rarity : Entry → UInt8} {cache : Play.Fetched} {drawn : List Entry}
    {items : List DrawnItem} (hactive : before.link = .active)
    (h : Action.run (Play.collect mark rarity cache drawn) before = (.ok items, after)) :
    ∃ rounds, before.Heard rounds after ∧
      fetched rounds =
        ((drawn.map Entry.id).filter fun id => !(cache.find? id).isSome).eraseDups := by
  induction drawn generalizing cache items before with
  | nil =>
      obtain ⟨-, rfl⟩ := Action.of_pure_ok h
      exact ⟨[], .refl hactive, rfl⟩
  | cons entry rest ih =>
      obtain ⟨_, marked, hmarked, hlooked⟩ := Action.exists_of_bind_ok h
      obtain ⟨⟨found, kept⟩, looked, hlook, hothers⟩ := Action.exists_of_bind_ok hlooked
      obtain ⟨others, collected, hcollect, hanswer⟩ := Action.exists_of_bind_ok hothers
      obtain ⟨-, rfl⟩ := Action.of_pure_ok hanswer
      obtain ⟨first, hfirst, hsilent⟩ := hmark entry before marked hactive hmarked
      obtain ⟨second, hsecond, hasked, hkept⟩ := fetches_rewards hfirst.active hlook
      obtain ⟨third, hthird, hrest⟩ := ih hsecond.active hcollect
      refine ⟨_, hfirst.trans (hsecond.trans hthird), ?_⟩
      -- From here on the entry is in the cache, so what is left asks for other entries only.
      have hfilter : (fun id => !(Table.find? id kept).isSome) =
          fun id => !(cache.find? id).isSome && !(id == entry.id) :=
        funext fun id => by rw [hkept, Bool.not_or]
      rw [fetched_append, fetched_append, hsilent, hasked, hrest, List.map_cons, List.filter_cons,
        hfilter]
      cases hfound : (cache.find? entry.id).isSome with
      | true =>
          have hsame : (fun id => !(cache.find? id).isSome && !(id == entry.id)) =
              fun id => !(cache.find? id).isSome := by
            funext id
            by_cases hid : id = entry.id
            · simp [hid, hfound]
            · simp [hid]
          rw [hsame]
          rfl
      | false =>
          simp only [Bool.not_false, if_true, Bool.false_eq_true, if_false, List.nil_append,
            List.eraseDups_cons, List.filter_filter, List.singleton_append, Bool.and_comm]

theorem fetches_collect_nil {mark : Entry → Action (Client δ) Unit}
    (hmark : ∀ entry (before after : Client δ), before.link = .active →
      Action.run (mark entry) before = (.ok (), after) →
        ∃ rounds, before.Heard rounds after ∧ fetched rounds = [])
    {rarity : Entry → UInt8} {drawn : List Entry} {items : List DrawnItem}
    (hactive : before.link = .active)
    (h : Action.run (Play.collect mark rarity [] drawn) before = (.ok items, after)) :
    ∃ rounds, before.Heard rounds after ∧ fetched rounds = (drawn.map Entry.id).eraseDups := by
  obtain ⟨rounds, hrounds, hfetched⟩ := fetches_collect hmark hactive h
  have hall : ((drawn.map Entry.id).filter fun id =>
      !(Table.find? id ([] : Play.Fetched)).isSome) = drawn.map Entry.id :=
    List.filter_eq_self.2 fun _ _ => rfl
  rw [hall] at hfetched
  exact ⟨rounds, hrounds, hfetched⟩

theorem fetches_collectDrawn {drawn : List Entry} {items : List DrawnItem}
    (hactive : before.link = .active)
    (h : Action.run (Play.collectDrawn drawn) before = (.ok items, after)) :
    ∃ rounds, before.Heard rounds after ∧ fetched rounds = (drawn.map Entry.id).eraseDups := by
  have hmark (entry : Entry) (before after : Client δ) (hactive : before.link = .active)
      (h : Action.run (pure () : Action (Client δ) Unit) before = (.ok (), after)) :
      ∃ rounds, before.Heard rounds after ∧ fetched rounds = [] := by
    obtain ⟨-, rfl⟩ := Action.of_pure_ok h
    exact ⟨[], .refl hactive, rfl⟩
  exact fetches_collect_nil hmark hactive h

theorem fetches_collectDealt {drawn : List Entry} {items : List DrawnItem}
    (hactive : before.link = .active)
    (h : Action.run (Play.collectDealt player gacha drawn) before = (.ok items, after)) :
    ∃ rounds, before.Heard rounds after ∧ fetched rounds = (drawn.map Entry.id).eraseDups := by
  have hmark (entry : Entry) (before after : Client δ) (hactive : before.link = .active)
      (h : Action.run (Store.perform (.insertDealt gacha player.character entry.id)) before =
        (.ok (), after)) :
      ∃ rounds, before.Heard rounds after ∧ fetched rounds = [] := by
    obtain ⟨answer, hheard, -⟩ := heard_perform _ rfl hactive h
    exact ⟨_, hheard, rfl⟩
  exact fetches_collect_nil hmark hactive h

end Client

namespace Operation

variable {α : Type} {δ : Type} [Database δ]

def resolve {σ : Type} [Store σ] : Operation α → List Entry → Action σ (List DrawnItem)
  | .playNormal _ _ _, drawn | .playStepup _ _ _, drawn => Play.collectDrawn drawn
  | .playBox player gacha _, drawn => Play.collectDealt player gacha drawn
  | _, _ => return []

def random : Operation α → α → List DrawnItem
  | .playNormal _ _ _, play => play.items
  | .playStepup _ _ _, play => play.random
  | .playBox _ _ _, play => play.items
  | _, _ => []

theorem fetches_resolve {player : Player} {gacha : GachaId} {selector : UInt8}
    {operation : Operation α} (hplay : operation.play? = some (player, gacha, selector))
    {before after : Client δ} {drawn : List Entry} {items : List DrawnItem}
    (hactive : before.link = .active)
    (h : Action.run (operation.resolve drawn) before = (.ok items, after)) :
    ∃ rounds, before.Heard rounds after ∧ fetched rounds = (drawn.map Entry.id).eraseDups := by
  cases operation with
  | playNormal player gacha selector => exact Client.fetches_collectDrawn hactive h
  | playStepup player gacha step => exact Client.fetches_collectDrawn hactive h
  | playBox player gacha selector => exact Client.fetches_collectDealt hactive h
  | _ => cases hplay

structure Resolves (operation : Operation α) (answer : α) (begun drew : Machine (Client δ))
    (drawn : List Entry) (resolved : Client δ) : Prop where
  draws : Action.run operation.draw begun = (.ok drawn, drew)
  resolves : Action.run (operation.resolve drawn) drew.store =
    (.ok (operation.random answer), resolved)

variable {player : Player} {gacha : GachaId} {selector : UInt8} {operation : Operation α}
  {answer : α} {machine worked : Machine (Client δ)}

theorem heard_draw (hplay : operation.play? = some (player, gacha, selector))
    {drew : Machine (Client δ)} {drawn : List Entry} (hactive : machine.store.link = .active)
    (h : Action.run operation.draw machine = (.ok drawn, drew)) :
    ∃ rounds, machine.store.Heard rounds drew.store := by
  cases operation with
  | playNormal player gacha selector =>
      obtain ⟨⟨cost, debit, pool⟩, opened, hopen, hdraw⟩ := Action.exists_of_bind_ok h
      obtain ⟨rounds, _, hheard, -⟩ :=
        Client.heard_openNormal hactive (Machine.of_onStore_ok hopen).1
      have hstore := Machine.store_drawWeighted pool cost.rolls opened
      rw [hdraw] at hstore
      exact ⟨rounds, hstore ▸ hheard⟩
  | playStepup player gacha step =>
      obtain ⟨⟨cost, nextStep, pool⟩, opened, hopen, hdraw⟩ := Action.exists_of_bind_ok h
      obtain ⟨rounds, _, hheard, -⟩ :=
        Client.heard_openStepup hactive (Machine.of_onStore_ok hopen).1
      have hstore := Machine.store_drawWeighted pool cost.rolls opened
      rw [hdraw] at hstore
      exact ⟨rounds, hstore ▸ hheard⟩
  | playBox player gacha selector =>
      obtain ⟨⟨cost, pool⟩, opened, hopen, hdraw⟩ := Action.exists_of_bind_ok h
      obtain ⟨rounds, _, _, _, hheard, -⟩ :=
        Client.heard_openBox hactive (Machine.of_onStore_ok hopen).1
      have hstore := Machine.store_drawUniform pool cost.rolls opened
      rw [hdraw] at hstore
      exact ⟨rounds, hstore ▸ hheard⟩
  | _ => cases hplay

theorem resolves_body (hplay : operation.play? = some (player, gacha, selector))
    (h : Action.run operation.body machine = (.ok answer, worked)) :
    ∃ drew drawn resolved, operation.Resolves answer machine drew drawn resolved ∧
      (resolved.link = .active → ∃ rounds, resolved.Heard rounds worked.store) := by
  cases operation with
  | playNormal player gacha selector =>
      obtain ⟨⟨cost, debit, pool⟩, opened, hopen, hrest⟩ := Action.exists_of_bind_ok h
      obtain ⟨drawn, drew, hdraw, hclose⟩ := Action.exists_of_bind_ok hrest
      obtain ⟨items, resolved, hcollect, hawarded⟩ :=
        Action.exists_of_bind_ok (Machine.of_onStore_ok hclose).1
      obtain ⟨_, awarded, haward, hanswer⟩ := Action.exists_of_bind_ok hawarded
      obtain ⟨rfl, hworked⟩ := Action.of_pure_ok hanswer
      refine ⟨drew, drawn, resolved, ⟨(Action.run_bind_of_ok hopen).trans hdraw, hcollect⟩,
        fun hactive => ?_⟩
      obtain ⟨rounds, _, hheard, -⟩ := Client.heard_award hactive haward
      exact ⟨rounds, hworked ▸ hheard⟩
  | playStepup player gacha step =>
      obtain ⟨⟨cost, nextStep, pool⟩, opened, hopen, hrest⟩ := Action.exists_of_bind_ok h
      obtain ⟨drawn, drew, hdraw, hclose⟩ := Action.exists_of_bind_ok hrest
      obtain ⟨items, resolved, hcollect, hlooked⟩ :=
        Action.exists_of_bind_ok (Machine.of_onStore_ok hclose).1
      obtain ⟨fixed, looked, hfixed, hawarded⟩ := Action.exists_of_bind_ok hlooked
      obtain ⟨_, awarded, haward, hanswer⟩ := Action.exists_of_bind_ok hawarded
      obtain ⟨rfl, hworked⟩ := Action.of_pure_ok hanswer
      refine ⟨drew, drawn, resolved, ⟨(Action.run_bind_of_ok hopen).trans hdraw, hcollect⟩,
        fun hactive => ?_⟩
      obtain ⟨first, hfirst, -⟩ := Client.heard_guaranteedItems hactive hfixed
      obtain ⟨second, _, hsecond, -⟩ := Client.heard_award hfirst.active haward
      exact ⟨first ++ second, hworked ▸ hfirst.trans hsecond⟩
  | playBox player gacha selector =>
      obtain ⟨⟨cost, pool⟩, opened, hopen, hrest⟩ := Action.exists_of_bind_ok h
      obtain ⟨drawn, drew, hdraw, hclose⟩ := Action.exists_of_bind_ok hrest
      obtain ⟨items, resolved, hcollect, hawarded⟩ :=
        Action.exists_of_bind_ok (Machine.of_onStore_ok hclose).1
      obtain ⟨_, awarded, haward, hanswer⟩ := Action.exists_of_bind_ok hawarded
      obtain ⟨rfl, hworked⟩ := Action.of_pure_ok hanswer
      refine ⟨drew, drawn, resolved, ⟨(Action.run_bind_of_ok hopen).trans hdraw, hcollect⟩,
        fun hactive => ?_⟩
      obtain ⟨rounds, _, hheard, -⟩ := Client.heard_award hactive haward
      exact ⟨rounds, hworked ▸ hheard⟩
  | _ => cases hplay

theorem fetches_perform (hplay : operation.play? = some (player, gacha, selector))
    {next : Machine (Client δ)} (hidle : machine.store.link = .idle)
    (h : Action.run operation.perform machine = (.ok answer, next)) :
    ∃ begun drew drawn resolved front loop back,
      Action.run (Machine.onStore Store.start) machine = (.ok (), begun) ∧
      operation.Resolves answer begun drew drawn resolved ∧
      machine.store.Talks front drew.store ∧ drew.store.Talks loop resolved ∧
      resolved.Talks back next.store ∧ fetched loop = (drawn.map Entry.id).eraseDups := by
  rw [operation.perform_eq] at h
  obtain ⟨begun, worked, first, hstart, hbegun, hbody, hcommitted⟩ :=
    Client.started_transaction hidle h
  obtain ⟨drew, drawn, resolved, hresolves, hclose⟩ := resolves_body hplay hbody
  obtain ⟨front, hfront⟩ := heard_draw hplay hbegun.active hresolves.draws
  obtain ⟨loop, hloop, hfetched⟩ := fetches_resolve hplay hfront.active hresolves.resolves
  obtain ⟨back, hback⟩ := hclose hloop.active
  obtain ⟨last, hlast⟩ := hcommitted hback.active
  exact ⟨begun, drew, drawn, resolved, _, loop, _, hstart, hresolves,
    hbegun.talks.trans hfront.talks, hloop.talks, hback.talks.trans hlast, hfetched⟩

end Operation

end PrizeDraw
