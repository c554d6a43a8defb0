import PrizeDraw.Proofs.Importing
import PrizeDraw.Proofs.Schedules

namespace PrizeDraw

def Schema.statements : List Statement :=
  .start :: (relations.map .createTable ++ indexes.map .createIndex ++ [.commit])

namespace Sandbox

def playerStatements : List Statement :=
  [.start, .insertUser player.account, .insertCharacter player, .commit]

def balanceStatements (values : List (Balance × Int64)) : List Statement :=
  values.map fun (balance, value) => .setBalance player balance value

def statements (catalog : Catalog) : List Statement :=
  Schema.statements ++ (.start :: (catalog.statements ++ [.commit]) ++
    (playerStatements ++ balanceStatements balances))

def schedule : Except CatalogFault Catalog → Schedule
  | .error fault => Schema.statements.map .ok ++ [.error (.catalog fault)]
  | .ok catalog =>
      Schema.statements.map .ok ++ (.ok .start :: (catalog.plan.schedule ++ [.ok .commit]) ++
        (playerStatements ++ balanceStatements balances).map .ok)

end Sandbox

structure Host.Reaches {δ : Type} [Database δ] (host configured : Host) (database : δ) : Prop where
  environment : host.configure = .ok configured
  settings : ∃ settings, DatabaseSettings.load configured.env = .ok settings ∧
    Address.isAddress settings.url = true ∧ settings.maxConnections ≠ 0
  accepted : Database.accepts database = true

namespace Client

variable {δ : Type} [Database δ] {α : Type} {begins ends : Link} {schedule : Schedule}

theorem run_bind_congr {τ ε β : Type} {x y : ExceptT ε (StateM τ) α}
    {f : α → ExceptT ε (StateM τ) β} {state : τ} (h : x.run state = y.run state) :
    (x >>= f).run state = (y >>= f).run state := by
  cases hrun : y.run state with
  | mk outcome next =>
      cases outcome with
      | ok a => rw [run_bind_of_ok hrun, run_bind_of_ok (h.trans hrun)]
      | error fault => rw [run_bind_of_error hrun, run_bind_of_error (h.trans hrun)]

omit [Database δ] in
theorem fault?_mapError {ε : Type} (blame : ε → ProgramFault) (outcome : Except ε α) :
    fault? id (outcome.mapError blame) = fault? blame outcome := by
  cases outcome <;> rfl

theorem Staged.ofAction {action : Action (Client δ) α}
    (h : Staged .halted begins ends action schedule) :
    Staged id begins ends (Part.ofAction action) schedule := by
  intro client hlink
  obtain ⟨sent, back, hstage⟩ := h client hlink
  have hrun : (Part.ofAction action).run client =
      ((action.run client).1.mapError .halted, (action.run client).2) := rfl
  rw [hrun, fault?_mapError]
  exact ⟨sent, back, hstage⟩

omit [Database δ] in
theorem run_ofSetup (setup : Setup δ α) (client : Client δ) :
    (Part.ofSetup setup).run client =
      ((setup.run client).1.mapError .setup, (setup.run client).2) := rfl

theorem Staged.ofSetup {setup : Setup δ α} (h : Staged .setup begins ends setup schedule) :
    Staged id begins ends (Part.ofSetup setup) schedule := by
  intro client hlink
  obtain ⟨sent, back, hstage⟩ := h client hlink
  rw [run_ofSetup, fault?_mapError]
  exact ⟨sent, back, hstage⟩

theorem staged_createAll (relations : List Relation) (indexes : List String) :
    Staged .setup .active .active (Setup.createAll (δ := δ) relations indexes)
      ((relations.map Statement.createTable ++ indexes.map Statement.createIndex).map .ok) := by
  have hcreate (named : StoreFault → SetupFault) (relation : Relation) :
      Staged .setup .active .active
        (Setup.ofClient named (within (δ := δ) (.createTable relation)))
        [.ok (.createTable relation)] := staged_within (fun _ => rfl) named
  have hindex (named : StoreFault → SetupFault) (text : String) :
      Staged .setup .active .active (Setup.ofClient named (within (δ := δ) (.createIndex text)))
        [.ok (.createIndex text)] := staged_within (fun _ => rfl) named
  induction relations with
  | cons relation rest ih =>
      rw [Setup.createAll]
      exact (hcreate _ relation).bind fun _ => ih
  | nil =>
      induction indexes with
      | nil =>
          rw [Setup.createAll]
          exact staged_pure ()
      | cons index rest ih =>
          rw [Setup.createAll]
          exact (hindex _ index).bind fun _ => ih

theorem staged_buildTables :
    Staged .setup .idle .idle (Setup.buildTables (δ := δ)) (Schema.statements.map .ok) := by
  have hbuilt : Staged .setup .idle .idle (Setup.buildTables (δ := δ))
      ([.ok .start] ++ ((Schema.relations.map Statement.createTable ++
        Schema.indexes.map Statement.createIndex).map .ok ++ [.ok .commit])) :=
    staged_openTransaction.bind fun _ =>
      (staged_createAll Schema.relations Schema.indexes).bind fun _ => staged_commit
  simpa [Schema.statements] using hbuilt

theorem staged_setBalance (player : Player) (balance : Balance) (value : Int64) :
    Staged .halted .idle .idle (setBalance (δ := δ) player balance value)
      [.ok (.setBalance player balance value)] := by
  refine staged_of_talks fun client hlink => ?_
  have hexchanged := exchanged_exchange (.setBalance player balance value) client
  have hask : ExceptT.run (lift (exchange (.setBalance player balance value))) client =
      ((exchange (.setBalance player balance value) client).1.mapError fun fault =>
          .refused (.store fault),
        (exchange (.setBalance player balance value) client).2) := rfl
  unfold setBalance
  generalize exchange (.setBalance player balance value) client = exchanged at hexchanged hask
  cases hexchanged with
  | answered answer after talks link =>
      rw [run_bind_of_ok hask]
      by_cases hnone : answer.affected = 0
      · rw [if_pos hnone]
        refine ⟨_, talks, ?_⟩
        change Round.passes _ = false
        simp [Round.passes, Statement.contented, hnone]
      · rw [if_neg hnone]
        exact ⟨_, talks, by simp [Round.passes, Statement.contented, hnone], link.trans hlink⟩
  | failed message after talks link =>
      rw [run_bind_of_error hask]
      exact ⟨_, talks, rfl⟩
  | cut after talks link =>
      rw [run_bind_of_error hask]
      exact ⟨_, talks, rfl⟩

theorem staged_setBalances (values : List (Balance × Int64)) :
    Staged id .idle .idle (Sandbox.setBalances (δ := δ) values)
      ((Sandbox.balanceStatements values).map .ok) := by
  induction values with
  | nil => exact staged_pure ()
  | cons first rest ih => exact (staged_setBalance _ _ _).ofAction.bind fun _ => ih

theorem plain_catalog (catalog : Catalog) : catalog.plan.Plain := by
  intro statement hplan
  have hmem := Catalog.mem_statements_of_plan hplan
  refine ⟨Catalog.isControl_statements hmem, fun answer => ?_⟩
  simp only [Catalog.statements, CatalogEntry.statements, List.mem_append, List.mem_map,
    List.mem_flatMap, List.mem_cons] at hmem
  obtain ⟨gacha, -, rfl⟩ | ⟨seeded, -, rfl | rfl | ⟨item, -, rfl⟩⟩ | ⟨trade, -, rfl⟩ := hmem <;> rfl

theorem staged_importCatalog (catalog : Catalog) :
    Staged .halted .idle .idle (importCatalog (δ := δ) catalog)
      (.ok .start :: (catalog.plan.schedule ++ [.ok .commit])) := by
  rw [importCatalog_eq]
  exact staged_transaction _ (plain_catalog catalog)

theorem staged_addPlayer :
    Staged .halted .idle .idle (addPlayer (δ := δ) Sandbox.player)
      (Sandbox.playerStatements.map .ok) := by
  let plan : Plan :=
    [.ok (.insertUser Sandbox.player.account), .ok (.insertCharacter Sandbox.player)]
  have hplain : plan.Plain := by
    intro statement hplan
    obtain rfl | rfl : statement = .insertUser Sandbox.player.account ∨
        statement = .insertCharacter Sandbox.player := by simpa [plan] using hplan
    · exact ⟨rfl, fun _ => rfl⟩
    · exact ⟨rfl, fun _ => rfl⟩
  have hsend : (addPlayer Sandbox.player : Action (Client δ) Unit) = inTransaction (send plan) := by
    have hplan : plan = [.ok (.insertUser Sandbox.player.account)] ++
        [.ok (.insertCharacter Sandbox.player)] := rfl
    rw [hplan, send_append, send_ok, send_ok]
    rfl
  rw [hsend]
  exact staged_transaction plan hplain

end Client

namespace Sandbox

variable {δ : Type} [Database δ]

open Client (Staged)

def fill (configured : Host) : Part (Client δ) (List String) := do
  Part.ofSetup Setup.buildTables
  let catalog ← Part.ofExcept .catalog (loadCatalog configured)
  Part.ofAction (Client.importCatalog catalog)
  Part.ofAction (Client.addPlayer player)
  setBalances balances
  return ["Database initialized successfully"]

theorem staged_fill (configured : Host) :
    Staged id .idle .idle (fill (δ := δ) configured) (schedule (loadCatalog configured)) := by
  have hbuilt := (Client.staged_buildTables (δ := δ)).ofSetup
  unfold fill
  cases loadCatalog configured with
  | error fault => exact hbuilt.bind fun _ => Client.staged_error (fun _ => rfl) []
  | ok catalog =>
      have hwritten : Staged id .idle .idle (do
            Part.ofAction (Client.importCatalog (δ := δ) catalog)
            Part.ofAction (Client.addPlayer player)
            setBalances balances
            return ["Database initialized successfully"])
          (.ok .start :: (catalog.plan.schedule ++ [.ok .commit]) ++
            (playerStatements.map .ok ++ ((balanceStatements balances).map .ok ++ []))) :=
        (Client.staged_importCatalog catalog).ofAction.bind fun _ =>
          Client.staged_addPlayer.ofAction.bind fun _ =>
            (Client.staged_setBalances balances).bind fun _ => Client.staged_pure _
      rw [List.append_nil, ← List.map_append] at hwritten
      exact hbuilt.bind fun _ => hwritten

variable {host configured : Host} {database : δ}

omit [Database δ] in
theorem run_ofExcept {ε α : Type} (blame : ε → ProgramFault) (a : α) :
    (Part.ofExcept blame (.ok a)).run ({ database } : Client δ) = (.ok a, { database }) := rfl

theorem run_setup_connect (h : Database.accepts database = true) (create : Bool) :
    (Setup.connect false create).run ({ database } : Client δ) =
      (if create then Setup.buildTables else pure ()).run { database } := by
  have hget : (get : Setup δ (Client δ)).run { database } = (.ok { database }, { database }) := rfl
  unfold Setup.connect
  rw [Client.run_bind_of_ok hget, if_pos h]
  rfl

theorem run_setup_connect_refused (h : ¬Database.accepts database = true) (create : Bool) :
    (Setup.connect false create).run ({ database } : Client δ) =
      (.error .connect, { database }) := by
  have hget : (get : Setup δ (Client δ)).run { database } = (.ok { database }, { database }) := rfl
  unfold Setup.connect
  rw [Client.run_bind_of_ok hget, if_neg h]
  rfl

theorem run_connect (h : host.Reaches configured database) (create : Bool) :
    (Part.connect configured create).run ({ database } : Client δ) =
      (Part.ofSetup (if create then Setup.buildTables else pure ())).run { database } := by
  obtain ⟨-, ⟨settings, hload, haddress, hconnections⟩, haccepted⟩ := h
  unfold Part.connect
  rw [hload, Client.run_bind_of_ok (run_ofExcept .environment settings)]
  simp only [haddress, hconnections, Bool.not_true, Bool.false_eq_true, if_false]
  rw [Client.run_ofSetup, Client.run_ofSetup, run_setup_connect haccepted create]

theorem run_configured (h : host.Reaches configured database) {α : Type}
    (next : Host → Part (Client δ) α) :
    (Part.ofExcept id host.configure >>= next).run ({ database } : Client δ) =
      (next configured).run { database } := by
  rw [h.environment, Client.run_bind_of_ok (run_ofExcept id configured)]

theorem run_initialise (h : host.Reaches configured database) :
    (initialise host).run ({ database } : Client δ) = (fill configured).run { database } := by
  unfold initialise
  rw [run_configured h]
  exact Client.run_bind_congr (run_connect h true)

theorem run_reset (h : host.Reaches configured database) :
    (reset host).run ({ database } : Client δ) =
      (.ok ["Database reset successfully"],
        Setup.dropAll Schema.relations.reverse { database }) := by
  unfold reset
  rw [run_configured h]
  exact Client.run_bind_congr (run_connect h false)

theorem trace_dropAll (relations : List Relation) (client : Client δ) :
    (Setup.dropAll relations client).trace =
      client.trace ++ relations.map Statement.dropTable := by
  induction relations generalizing client with
  | nil => exact (List.append_nil _).symm
  | cons relation rest ih =>
      obtain ⟨response, htalks⟩ := Client.talks_exchange (.dropTable relation) client
      rw [Setup.dropAll, ih, htalks.1, List.append_assoc]
      rfl

omit [Database δ] in
theorem runPart_eq (part : Part (Client δ) (List String)) (database : δ) :
    runPart part database =
      (Outcome.ofExcept (part.run { database }).1, (part.run { database }).2.trace) := rfl

theorem runPart_fill (h : host.Reaches configured database) :
    runPart (initialise host) database =
      (Outcome.ofExcept ((fill configured).run { database }).1,
        ((fill configured).run { database }).2.trace) := by
  rw [runPart_eq, run_initialise h]

theorem runPart_reset (h : host.Reaches configured database) :
    runPart (reset host) database = ({ lines := ["Database reset successfully"] },
      Schema.relations.reverse.map Statement.dropTable) := by
  rw [runPart_eq, run_reset h, trace_dropAll]
  rfl

theorem run_connect_refused (hconfigure : host.configure = .ok configured)
    (h : ¬host.Reaches configured database) (create : Bool) :
    ∃ fault, (Part.connect configured create).run ({ database } : Client δ) =
      (.error fault, { database }) := by
  unfold Part.connect
  cases hload : DatabaseSettings.load configured.env with
  | error fault => exact ⟨_, rfl⟩
  | ok settings =>
      rw [Client.run_bind_of_ok (run_ofExcept .environment settings)]
      by_cases haddress : Address.isAddress settings.url = true
      · by_cases hnone : settings.maxConnections = 0
        · simp only [haddress, hnone, Bool.not_true, Bool.false_eq_true, if_false, if_true]
          exact ⟨_, rfl⟩
        · by_cases haccepted : Database.accepts database = true
          · cases h ⟨hconfigure, ⟨settings, hload, haddress, hnone⟩, haccepted⟩
          · simp only [haddress, hnone, Bool.not_true, Bool.false_eq_true, if_false]
            rw [Client.run_ofSetup, run_setup_connect_refused haccepted create]
            exact ⟨_, rfl⟩
      · simp only [haddress, Bool.not_false, if_true]
        exact ⟨_, rfl⟩

theorem run_unreached (h : ∀ configured, ¬host.Reaches configured database) (create : Bool)
    {α : Type} (next : Host → Part (Client δ) α) :
    ∃ fault, (Part.ofExcept id host.configure >>= fun configured =>
      Part.connect configured create >>= fun _ => next configured).run ({ database } : Client δ) =
        (.error fault, { database }) := by
  cases hconfigure : host.configure with
  | error fault => exact ⟨fault, rfl⟩
  | ok configured =>
      obtain ⟨fault, hfault⟩ := run_connect_refused hconfigure (h configured) create
      rw [Client.run_bind_of_ok (run_ofExcept id configured)]
      exact ⟨fault, Client.run_bind_of_error hfault⟩

theorem forall₂_checked {α : Type} (numbers : α → List (String × UInt32))
    (statement : α → Statement) (items : List α) :
    List.Forall₂ Schedule.Writes
      (Plan.schedule (items.map fun item => Catalog.checked (numbers item) (statement item)))
      (items.map statement) := by
  rw [Plan.schedule, List.map_map, List.forall₂_map_left_iff, List.forall₂_map_right_iff]
  refine List.forall₂_same.2 fun item _ sent hsent => ?_
  rw [Function.comp_apply] at hsent
  cases hchecked : Catalog.checked (numbers item) (statement item) with
  | ok written =>
      rw [hchecked] at hsent
      exact (Except.ok.inj hsent).symm.trans (Catalog.eq_of_checked_ok hchecked)
  | error fault =>
      rw [hchecked] at hsent
      cases hsent

theorem forall₂_schedule (catalog : Catalog) :
    List.Forall₂ Schedule.Writes (schedule (.ok catalog)) (statements catalog) := by
  have hcatalog : List.Forall₂ Schedule.Writes catalog.plan.schedule catalog.statements := by
    have hentries := Schedule.forall₂_ok (catalog.entries.flatMap CatalogEntry.statements)
    have hgachas := forall₂_checked Gacha.limited Gacha.insert catalog.gachas
    have htrades := forall₂_checked Trade.limited Trade.insert catalog.trades
    rw [Catalog.plan, Plan.schedule_append, Plan.schedule_append, Plan.schedule_ok]
    exact List.rel_append hgachas (List.rel_append hentries htrades)
  have himport : List.Forall₂ Schedule.Writes
      (.ok .start :: (catalog.plan.schedule ++ [.ok .commit]))
      (.start :: (catalog.statements ++ [.commit])) :=
    .cons (fun _ hsent => (Except.ok.inj hsent).symm)
      (List.rel_append hcatalog (Schedule.forall₂_ok [.commit]))
  exact List.rel_append (Schedule.forall₂_ok _) (List.rel_append himport (Schedule.forall₂_ok _))

structure Prepared (configured : Host) (database : δ) (ending : Outcome × List Statement)
    (sent back : List Round) : Prop where
  spoken : ending.2 = (sent ++ back).map Round.statement
  replies : (Database.converse database ending.2).1 = sent ++ back
  course : Course (schedule (loadCatalog configured)) sent ending.1.fault
  leading : ∀ catalog, loadCatalog configured = .ok catalog →
    sent.map Round.statement <+: statements catalog
  unreadable : ∀ fault, loadCatalog configured = .error fault →
    sent.map Round.statement <+: Schema.statements ∧ ending.1.fault ≠ none
  whole : ending.1.fault = none ↔ ∃ catalog, loadCatalog configured = .ok catalog ∧
    sent.map Round.statement = statements catalog ∧ ∀ round ∈ sent, round.passes = true
  givenUp : back = [] ∨ ending.1.fault ≠ none ∧ Unfinished sent ∧
    ∃ response, back = [{ statement := .rollback, response }]

theorem whole_of_readable {sent : List Round} {outcome : Option ProgramFault} {catalog : Catalog}
    (h : Course (schedule (.ok catalog)) sent outcome) :
    outcome = none ↔ sent.map Round.statement = statements catalog ∧
      ∀ round ∈ sent, round.passes = true := by
  have hfrom := forall₂_schedule catalog
  constructor
  · intro hnone
    obtain ⟨hsame, hpasses⟩ := h.eq_none_iff.1 hnone
    rw [hsame] at hfrom
    exact ⟨Schedule.eq_of_forall₂_ok hfrom, hpasses⟩
  · rintro ⟨hsame, hpasses⟩
    refine h.eq_none_of_length ?_ hpasses
    rw [hfrom.length_eq, ← hsame, List.length_map]

theorem runPart_initialise (h : host.Reaches configured database) : ∃ sent back,
    Prepared configured database (runPart (initialise host) database) sent back := by
  obtain ⟨sent, back, hstage⟩ := staged_fill (δ := δ) configured { database } rfl
  have hrun := runPart_fill h
  have hfault : (runPart (initialise host) database).1.fault =
      Client.fault? id ((fill configured).run ({ database } : Client δ)).1 := by
    rw [hrun]
    cases ((fill configured).run ({ database } : Client δ)).1 <;> rfl
  have hspoken : (runPart (initialise host) database).2 = (sent ++ back).map Round.statement := by
    rw [hrun]
    exact hstage.talks.1
  have hcourse := hstage.course
  rw [← hfault] at hcourse
  refine ⟨sent, back, hspoken, ?_, hcourse, ?_, ?_, ?_, ?_⟩
  · rw [hspoken]
    exact congrArg Prod.fst hstage.talks.2
  · intro catalog hload
    rw [hload] at hcourse
    exact hcourse.prefix_of_forall₂ (forall₂_schedule catalog)
  · intro fault hload
    rw [hload] at hcourse
    exact hcourse.prefix_of_error
  · cases hload : loadCatalog configured with
    | error fault =>
        rw [hload] at hcourse
        refine iff_of_false hcourse.prefix_of_error.2 ?_
        rintro ⟨catalog, hcatalog, -⟩
        cases hcatalog
    | ok catalog =>
        rw [hload] at hcourse
        simp only [Except.ok.injEq, exists_eq_left', whole_of_readable hcourse]
  · obtain hnone | ⟨hopen, hrollback⟩ := hstage.givenUp
    · exact .inl hnone
    · -- Without a fault nothing would have been given up.
      refine .inr ⟨fun hnone => ?_, hopen, hrollback⟩
      obtain ⟨response, rfl⟩ := hrollback
      cases (hstage.done (hfault.symm.trans hnone)).1

theorem runPart_unreached (h : ∀ configured, ¬host.Reaches configured database) (create : Bool)
    (next : Host → Part (Client δ) (List String)) {part : Part (Client δ) (List String)}
    (hpart : part = (Part.ofExcept id host.configure >>= fun configured =>
      Part.connect configured create >>= fun _ => next configured)) :
    (runPart part database).2 = [] ∧ (runPart part database).1.fault ≠ none := by
  obtain ⟨fault, hfault⟩ := run_unreached h create next
  rw [runPart_eq, hpart, hfault]
  exact ⟨rfl, nofun⟩

theorem prepares_and_resets (host : Host) (database : δ) :
    (∀ configured, host.Reaches configured database →
      (∃ sent back,
        Prepared configured database (runPart (initialise host) database) sent back) ∧
      runPart (reset host) database = ({ lines := ["Database reset successfully"] },
        Schema.relations.reverse.map Statement.dropTable)) ∧
    ((∀ configured, ¬host.Reaches configured database) →
      ((runPart (initialise host) database).2 = [] ∧
        (runPart (initialise host) database).1.fault ≠ none) ∧
      (runPart (reset host) database).2 = [] ∧ (runPart (reset host) database).1.fault ≠ none) :=
  ⟨fun _ h => ⟨runPart_initialise h, runPart_reset h⟩, fun h =>
    ⟨runPart_unreached h true _ rfl, runPart_unreached h false _ rfl⟩⟩

end Sandbox

namespace Sample

def oversized : Catalog where
  gachas := [{ id := 1, name := "", minGr := 2147483648 }]
  entries := []
  trades := []

def reachable : Host where
  env := [("DATABASE_URL", Wire.utf8 "postgres://draw@desk/draw".toList)]
  file? path :=
    if path = Sandbox.defaultCatalogPath then
      some "\x7b\"gachas\": [\x7b\"id\": 1, \"name\": \"\", \"min_gr\": 2147483648\x7d]\x7d"
    else none

def unreachable : Host := { reachable with env := [] }

def unmoved : Script := { rules := [] }

end Sample

namespace Sandbox

theorem prepares_and_resets_oversized :
    let prepared := runPart (initialise Sample.reachable) Sample.unmoved
    let cleared := runPart (reset Sample.reachable) Sample.unmoved
    (∃ sent back, Prepared Sample.reachable Sample.unmoved prepared sent back ∧
      sent.map Round.statement <+: statements Sample.oversized) ∧
    prepared.1.fault = some (.halted (.refused (.store (.outOfRange "min_gr" 2147483648)))) ∧
    prepared.2 = .start :: (Schema.relations.map .createTable ++
      Schema.indexes.map .createIndex ++ [.commit, .start, .rollback]) ∧
    cleared.1.fault = none ∧
    cleared.2.map Statement.text =
      ["DROP TABLE IF EXISTS \"shop_items_bought\" CASCADE",
        "DROP TABLE IF EXISTS \"fpoint_items\" CASCADE",
        "DROP TABLE IF EXISTS \"gacha_box\" CASCADE",
        "DROP TABLE IF EXISTS \"gacha_stepup\" CASCADE",
        "DROP TABLE IF EXISTS \"gacha_items\" CASCADE",
        "DROP TABLE IF EXISTS \"gacha_entries\" CASCADE",
        "DROP TABLE IF EXISTS \"gacha_shop\" CASCADE",
        "DROP TABLE IF EXISTS \"characters\" CASCADE",
        "DROP TABLE IF EXISTS \"users\" CASCADE"] ∧
    (runPart (initialise Sample.unreachable) Sample.unmoved).2 = [] := by
  intro prepared cleared
  have hload : loadCatalog Sample.reachable = .ok Sample.oversized := by decide +kernel
  have hreaches : Sample.reachable.Reaches Sample.reachable Sample.unmoved :=
    ⟨rfl, ⟨⟨"postgres://draw@desk/draw", 10⟩, by decide +kernel⟩, rfl⟩
  have hunreached (configured : Host) :
      ¬Sample.unreachable.Reaches configured Sample.unmoved := by
    rintro ⟨hconfigured, ⟨settings, hsettings, -⟩, -⟩
    obtain rfl : Sample.unreachable = configured := Except.ok.inj hconfigured
    have hunset : DatabaseSettings.load Sample.unreachable.env =
        .error (.notSet "DATABASE_URL") := by decide +kernel
    rw [hunset] at hsettings
    cases hsettings
  obtain ⟨⟨sent, back, hprepared⟩, hreset⟩ :=
    (prepares_and_resets Sample.reachable Sample.unmoved).1 _ hreaches
  obtain ⟨⟨hsilent, -⟩, -⟩ :=
    (prepares_and_resets Sample.unreachable Sample.unmoved).2 hunreached
  have hrun : prepared = _ := runPart_fill hreaches
  simp only [fill, hload, Setup.buildTables, Setup.createAll, Schema.relations,
    Schema.indexes] at hrun
  have hfault : prepared.1.fault =
      some (.halted (.refused (.store (.outOfRange "min_gr" 2147483648)))) := by
    rw [hrun]
    decide +kernel
  have hsent : prepared.2 = .start :: (Schema.relations.map .createTable ++
      Schema.indexes.map .createIndex ++ [.commit, .start, .rollback]) := by
    rw [hrun]
    decide +kernel
  have hcleared : cleared.1.fault = none := congrArg (fun ending => ending.1.fault) hreset
  have hdropped : cleared.2 = Schema.relations.reverse.map Statement.dropTable :=
    congrArg Prod.snd hreset
  refine ⟨⟨sent, back, hprepared, hprepared.leading _ hload⟩, hfault, hsent, hcleared, ?_, hsilent⟩
  rw [hdropped]
  decide +kernel

end Sandbox

end PrizeDraw
