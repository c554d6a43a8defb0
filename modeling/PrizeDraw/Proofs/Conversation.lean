import PrizeDraw.Database.Setup
import PrizeDraw.Proofs.Operation

namespace PrizeDraw

structure Round where
  statement : Statement
  response : Response
  deriving DecidableEq, Repr

namespace Database

variable {δ : Type} [Database δ]

def converse (database : δ) : List Statement → List Round × δ
  | [] => ([], database)
  | statement :: rest =>
      let (response, next) := Database.answer statement database
      let (rounds, last) := converse next rest
      ({ statement, response } :: rounds, last)

theorem converse_append (database : δ) (first second : List Statement) :
    converse database (first ++ second) =
      ((converse database first).1 ++ (converse (converse database first).2 second).1,
        (converse (converse database first).2 second).2) := by
  induction first generalizing database with
  | nil => rfl
  | cons statement rest ih => simp only [List.cons_append, converse, ih]

end Database

namespace Statement

def isControl : Statement → Bool
  | .start | .commit | .rollback => true
  | _ => false

def readable (answer : Answer) : Statement → Bool
  | .selectGacha _ => answer.rows.head?.all fun row => (Gacha.ofRow row).isOk
  | .selectGachas => answer.rows.all fun row => (Gacha.ofRow row).isOk
  | .selectEntries _ | .selectPool _ => answer.rows.all fun row => (Entry.ofRow row).isOk
  | .selectEntry _ _ => answer.rows.head?.all fun row => (Entry.ofRow row).isOk
  | .selectRewards _ => answer.rows.all fun row => (RewardItem.ofRow row).isOk
  | .selectTrade _ => answer.rows.head?.all fun row => (Trade.ofRow row).isOk
  | .selectBalance _ _ | .addBalance _ _ _ =>
      answer.rows.head?.any fun row => (Row.first row : Except StoreFault Int64).isOk
  | .selectPending _ =>
      answer.rows.head?.any fun row => (Row.first row : Except StoreFault (Option Bytes)).isOk
  | .updatePending _ _ => answer.affected != 0
  | .selectStep _ _ =>
      answer.rows.head?.all fun row =>
        (do
          let step : Int32 ← Row.first row
          Narrow.narrow (τ := UInt8) "step" step.toInt64).isOk
  | .selectDealt _ _ =>
      answer.rows.all fun row =>
        (do
          let id : Int64 ← Row.first row
          Narrow.narrow (τ := UInt32) "entry_id" id).isOk
  | .selectPurchase _ _ =>
      answer.rows.head?.all fun row =>
        (do
          let bought : Int64 ← Row.first row
          Narrow.narrow (τ := UInt64) "bought" bought).isOk
  | _ => true

theorem readable_updatePending (answer : Answer) (character : CharacterId)
    (buffer : Option Bytes) :
    readable answer (.updatePending character buffer) = (answer.affected != 0) := rfl

theorem readable_selectStep (answer : Answer) (gacha : GachaId) (character : CharacterId) :
    readable answer (.selectStep gacha character) = answer.rows.head?.all fun row =>
      ((Row.first row : Except StoreFault Int32) >>= fun step =>
        Narrow.narrow (τ := UInt8) "step" step.toInt64).isOk := rfl

theorem readable_selectPurchase (answer : Answer) (character : CharacterId)
    (item : ShopItemId) :
    readable answer (.selectPurchase character item) = answer.rows.head?.all fun row =>
      ((Row.first row : Except StoreFault Int64) >>=
        Narrow.narrow (τ := UInt64) "bought").isOk := rfl

end Statement

namespace Round

def settled (round : Round) : Bool :=
  match round.response with
  | .answered answer => round.statement.readable answer
  | .failed _ | .cut => false

theorem settled_start (answer : Answer) :
    settled { statement := .start, response := .answered answer } = true := rfl

end Round

namespace Client

variable {δ : Type} [Database δ] {before middle after : Client δ}

def Talks (before : Client δ) (rounds : List Round) (after : Client δ) : Prop :=
  after.trace = before.trace ++ rounds.map Round.statement ∧
    Database.converse before.database (rounds.map Round.statement) = (rounds, after.database)

theorem Talks.refl (client : Client δ) : client.Talks [] client :=
  ⟨(List.append_nil _).symm, rfl⟩

theorem Talks.trans {first second : List Round} (h : before.Talks first middle)
    (h' : middle.Talks second after) : before.Talks (first ++ second) after := by
  constructor
  · rw [h'.1, h.1, List.map_append, List.append_assoc]
  · rw [List.map_append, Database.converse_append, h.2, h'.2]

inductive Exchanged (client : Client δ) (statement : Statement) :
    Except StoreFault Answer × Client δ → Prop where
  | answered (answer : Answer) (after : Client δ)
      (talks : client.Talks [{ statement, response := .answered answer }] after)
      (link : after.link = client.link) : Exchanged client statement (.ok answer, after)
  | failed (message : String) (after : Client δ)
      (talks : client.Talks [{ statement, response := .failed message }] after)
      (link : after.link = client.link) :
      Exchanged client statement (.error (.database message), after)
  | cut (after : Client δ) (talks : client.Talks [{ statement, response := .cut }] after)
      (link : after.link = if client.link = .active then .lost else client.link) :
      Exchanged client statement (.error .connection, after)

theorem exchanged_exchange (statement : Statement) (client : Client δ) :
    client.Exchanged statement (exchange statement client) := by
  unfold exchange
  have htalks (response : Response) (database : δ) (link : Link)
      (h : Database.answer statement client.database = (response, database)) :
      client.Talks [{ statement, response }]
        { database, link, sent := statement :: client.sent } := by
    constructor
    · simp [trace]
    · simp [Database.converse, h]
  cases hreply : Database.answer statement client.database with
  | mk response database =>
      cases response with
      | answered answer => exact .answered answer _ (htalks _ _ _ hreply) rfl
      | failed message => exact .failed message _ (htalks _ _ _ hreply) rfl
      | cut => exact .cut _ (htalks _ _ _ hreply) rfl

theorem within_of_active {client : Client δ} (h : client.link = .active) (statement : Statement) :
    within statement client = exchange statement client := by
  rw [within, h]

structure Works (before : Client δ) (done : Bool) (after : Client δ) (work last : List Round) :
    Prop where
  talks : before.Talks (work ++ last) after
  plain : ∀ round ∈ work ++ last, round.statement.isControl = false
  settled : ∀ round ∈ work, round.settled = true
  length_last : last.length ≤ 1
  link : after.link ≠ .idle
  done : done = true → last = [] ∧ after.link = .active

theorem Works.refl {client : Client δ} (h : client.link = .active) (done : Bool) :
    Works client done client [] [] where
  talks := .refl client
  plain := by simp
  settled := by simp
  length_last := by simp
  link := by simp [h]
  done _ := ⟨rfl, h⟩

theorem Works.trans {done : Bool} {work others last : List Round}
    (h : Works before true middle work []) (h' : Works middle done after others last) :
    Works before done after (work ++ others) last where
  talks := by
    have htalks := h.talks.trans h'.talks
    rwa [List.append_nil, ← List.append_assoc] at htalks
  plain := by
    intro round hround
    rw [List.append_assoc, List.mem_append] at hround
    obtain hfirst | hsecond := hround
    · exact h.plain round (List.mem_append_left _ hfirst)
    · exact h'.plain round hsecond
  settled := by
    intro round hround
    obtain hfirst | hsecond := List.mem_append.1 hround
    · exact h.settled round hfirst
    · exact h'.settled round hsecond
  length_last := h'.length_last
  link := h'.link
  done := h'.done

theorem Works.of_exchange_ok {statement : Statement} (hplain : statement.isControl = false)
    (hactive : before.link = .active) {answer : Answer}
    (h : exchange statement before = (.ok answer, after)) {done : Bool}
    (hdone : done = true → statement.readable answer = true) :
    ∃ work last, Works before done after work last := by
  have hexchanged := exchanged_exchange statement before
  rw [h] at hexchanged
  cases hexchanged with
  | answered _ _ talks link =>
      have hlink : after.link ≠ .idle := by simp [link, hactive]
      cases hread : statement.readable answer with
      | true =>
          exact ⟨[{ statement, response := .answered answer }], [], talks, by simp [hplain],
            by simp [Round.settled, hread], by simp, hlink, fun _ => ⟨rfl, link.trans hactive⟩⟩
      | false =>
          refine ⟨[], [{ statement, response := .answered answer }], talks, by simp [hplain],
            by simp, by simp, hlink, fun hclaimed => ?_⟩
          rw [hdone hclaimed] at hread
          cases hread

theorem Works.of_exchange_error {statement : Statement} (hplain : statement.isControl = false)
    (hactive : before.link = .active) {fault : StoreFault}
    (h : exchange statement before = (.error fault, after)) :
    ∃ work last, Works before false after work last := by
  have hexchanged := exchanged_exchange statement before
  rw [h] at hexchanged
  have hlast {response : Response}
      (talks : before.Talks [{ statement, response }] after) (hlink : after.link ≠ .idle) :
      Works before false after [] [{ statement, response }] :=
    ⟨talks, by simp [hplain], by simp, by simp, hlink, fun h => by cases h⟩
  cases hexchanged with
  | failed message _ talks link => exact ⟨[], _, hlast talks (by simp [link, hactive])⟩
  | cut _ talks link => exact ⟨[], _, hlast talks (by simp [link, hactive])⟩

section Steady

variable {τ ε α β : Type} {clientOf : τ → Client δ}

theorem run_bind_of_ok {x : ExceptT ε (StateM τ) α} {f : α → ExceptT ε (StateM τ) β} {s t : τ}
    {a : α} (h : x.run s = (.ok a, t)) : (x >>= f).run s = (f a).run t := by
  simp only [ExceptT.run, bind, ExceptT.bind, ExceptT.mk, StateT.bind] at h ⊢
  rw [h]
  rfl

theorem run_bind_of_error {x : ExceptT ε (StateM τ) α} {f : α → ExceptT ε (StateM τ) β}
    {s t : τ} {e : ε} (h : x.run s = (.error e, t)) : (x >>= f).run s = (.error e, t) := by
  simp only [ExceptT.run, bind, ExceptT.bind, ExceptT.mk, StateT.bind] at h ⊢
  rw [h]
  rfl

def Steady (clientOf : τ → Client δ) (x : ExceptT ε (StateM τ) α) : Prop :=
  ∀ state, (clientOf state).link = .active → ∃ work last,
    Works (clientOf state) (x.run state).1.isOk (clientOf (x.run state).2) work last

theorem Steady.of_kept {x : ExceptT ε (StateM τ) α}
    (h : ∀ state, clientOf (x.run state).2 = clientOf state) : Steady clientOf x := by
  intro state hactive
  rw [h]
  exact ⟨[], [], .refl hactive _⟩

theorem steady_bind {x : ExceptT ε (StateM τ) α} {f : α → ExceptT ε (StateM τ) β}
    (hx : Steady clientOf x) (hf : ∀ a, Steady clientOf (f a)) : Steady clientOf (x >>= f) := by
  intro state hactive
  obtain ⟨work, last, hworks⟩ := hx state hactive
  cases hrun : x.run state with
  | mk outcome next =>
      rw [hrun] at hworks
      cases outcome with
      | error fault =>
          rw [run_bind_of_error hrun]
          exact ⟨work, last, hworks⟩
      | ok a =>
          rw [run_bind_of_ok hrun]
          obtain ⟨rfl, hstill⟩ := hworks.done rfl
          obtain ⟨others, ending, hothers⟩ := hf a next hstill
          exact ⟨work ++ others, ending, hworks.trans hothers⟩

theorem steady_pure (a : α) : Steady (ε := ε) clientOf (pure a) :=
  Steady.of_kept fun _ => rfl

theorem steady_forM {x : β → ExceptT ε (StateM τ) Unit} (h : ∀ b, Steady clientOf (x b))
    (items : List β) : Steady clientOf (items.forM x) := by
  induction items with
  | nil => exact steady_pure ()
  | cons item rest ih => exact steady_bind (h item) fun _ => ih

end Steady

section Commands

variable {α β : Type}

theorem run_query {client : Client δ} (hactive : client.link = .active) (statement : Statement) :
    Action.run (query statement) client =
      ((exchange statement client).1.mapError fun fault => .refused (.store fault),
        (exchange statement client).2) := by
  simp only [query, lift, Action.run, ExceptT.run, within_of_active hactive]

structure Reads (statement : Statement) (f : Answer → Action (Client δ) α) : Prop where
  plain : statement.isControl = false
  kept : ∀ answer client, (Action.run (f answer) client).2 = client
  isOk : ∀ answer client, (Action.run (f answer) client).1.isOk = statement.readable answer

theorem Reads.steady {statement : Statement} {f : Answer → Action (Client δ) α}
    (h : Reads statement f) : Steady id (query statement >>= f) := by
  intro client hactive
  change client.link = .active at hactive
  have hquery := run_query hactive statement
  dsimp only [id]
  cases hreply : exchange statement client with
  | mk reply after =>
      rw [hreply] at hquery
      cases reply with
      | error fault =>
          rw [run_bind_of_error hquery]
          exact Works.of_exchange_error h.plain hactive hreply
      | ok answer =>
          rw [run_bind_of_ok hquery]
          change ∃ work last, Works client _ (Action.run (f answer) after).2 work last
          rw [h.kept]
          exact Works.of_exchange_ok h.plain hactive hreply fun hdone =>
            (h.isOk answer after).symm.trans hdone

omit [Database δ] in
theorem run_decoded (outcome : Except StoreFault α) (client : Client δ) :
    Action.run (decoded outcome) client =
      (outcome.mapError fun fault => .refused (.store fault), client) := by
  cases outcome with
  | ok a => rfl
  | error fault => rfl

theorem isOk_mapError {ε ε' : Type} (f : ε → ε') (outcome : Except ε α) :
    (outcome.mapError f).isOk = outcome.isOk := by
  cases outcome <;> rfl

omit [Database δ] in
theorem kept_decoded_bind (outcome : Except StoreFault α) (f : α → β) (client : Client δ) :
    (Action.run (decoded outcome >>= fun a => pure (f a)) client).2 = client := by
  cases outcome <;> rfl

omit [Database δ] in
theorem isOk_decoded_bind (outcome : Except StoreFault α) (f : α → β) (client : Client δ) :
    (Action.run (decoded outcome >>= fun a => pure (f a)) client).1.isOk = outcome.isOk := by
  cases outcome <;> rfl

theorem isOk_mapM {decode : Row → Except StoreFault α} (rows : List Row) :
    (rows.mapM decode).isOk = rows.all fun row => (decode row).isOk := by
  induction rows with
  | nil => rfl
  | cons row rest ih =>
      rw [List.mapM_cons, List.all_cons, ← ih]
      cases decode row with
      | error fault => rfl
      | ok value => cases rest.mapM decode <;> rfl

theorem isOk_mapM_narrowed (decode : Row → Except StoreFault α)
    (narrow : α → Except StoreFault β) (rows : List Row) :
    (rows.mapM decode >>= fun values => values.mapM narrow).isOk =
      rows.all fun row => (decode row >>= narrow).isOk := by
  induction rows with
  | nil => rfl
  | cons row rest ih =>
      rw [List.mapM_cons, List.all_cons, ← ih]
      cases decode row with
      | error fault => rfl
      | ok value =>
          cases hrest : rest.mapM decode with
          | error fault => exact (Bool.and_false _).symm
          | ok values =>
              change ((value :: values).mapM narrow).isOk =
                ((narrow value).isOk && (values.mapM narrow).isOk)
              rw [List.mapM_cons]
              cases narrow value with
              | error fault => rfl
              | ok narrowed => cases values.mapM narrow <;> rfl

theorem steady_execute {statement : Statement} (hplain : statement.isControl = false)
    (hread : ∀ answer, statement.readable answer = true) :
    Steady id (execute (δ := δ) statement) :=
  Reads.steady ⟨hplain, fun _ _ => rfl, fun answer _ => (hread answer).symm⟩

theorem steady_all {statement : Statement} (hplain : statement.isControl = false)
    (decode : Row → Except StoreFault α)
    (hread : ∀ answer,
      statement.readable answer = answer.rows.all fun row => (decode row).isOk) :
    Steady id (all (δ := δ) decode statement) := by
  refine Reads.steady ⟨hplain, ?_, ?_⟩
  · intro answer client
    rw [run_decoded]
  · intro answer client
    rw [run_decoded, isOk_mapError, isOk_mapM, hread]

theorem steady_firstRow?_bind {statement : Statement} (hplain : statement.isControl = false)
    {decode : Row → Except StoreFault α} {f : Option α → Action (Client δ) β}
    (hkept : ∀ found client, (Action.run (f found) client).2 = client)
    (hread : ∀ answer client, statement.readable answer =
      match answer.rows.head?.map decode with
      | none => (Action.run (f none) client).1.isOk
      | some (.ok value) => (Action.run (f (some value)) client).1.isOk
      | some (.error _) => false) :
    Steady id (firstRow? decode statement >>= f) := by
  unfold firstRow?
  rw [bind_assoc]
  refine Reads.steady ⟨hplain, ?_, ?_⟩
  · intro answer client
    cases hrows : answer.rows with
    | nil => exact hkept none client
    | cons row rest =>
        simp only [bind_assoc, pure_bind]
        cases hdecode : decode row with
        | error fault => rfl
        | ok value => exact hkept (some value) client
  · intro answer client
    rw [hread answer client]
    cases hrows : answer.rows with
    | nil => rfl
    | cons row rest =>
        simp only [bind_assoc, pure_bind, List.head?_cons, Option.map_some]
        cases hdecode : decode row with
        | error fault => rfl
        | ok value => rfl

theorem steady_firstRow? {statement : Statement} (hplain : statement.isControl = false)
    (decode : Row → Except StoreFault α)
    (hread : ∀ answer,
      statement.readable answer = answer.rows.head?.all fun row => (decode row).isOk) :
    Steady id (firstRow? (δ := δ) decode statement) := by
  rw [← bind_pure (firstRow? decode statement)]
  refine steady_firstRow?_bind hplain (fun _ _ => rfl) fun answer client => ?_
  rw [hread]
  cases answer.rows.head? with
  | none => rfl
  | some row =>
      cases hdecode : decode row <;> simp only [Option.all_some, Option.map_some, hdecode] <;> rfl

theorem steady_ownedRow {statement : Statement} (hplain : statement.isControl = false)
    (scope : BalanceScope) (owner : UInt32) (decode : Row → Except StoreFault α)
    (hread : ∀ answer,
      statement.readable answer = answer.rows.head?.any fun row => (decode row).isOk) :
    Steady id (ownedRow (δ := δ) scope owner decode statement) := by
  refine steady_firstRow?_bind hplain (fun found _ => ?_) fun answer client => ?_
  · cases found <;> rfl
  · rw [hread]
    cases answer.rows.head? with
    | none => rfl
    | some row =>
        cases hdecode : decode row <;> simp only [Option.any_some, Option.map_some, hdecode] <;> rfl

theorem steady_setPendingBuffer (character : CharacterId) (buffer : Option Bytes) :
    Steady id (perform (δ := δ) (.setPendingBuffer character buffer)) := by
  refine Reads.steady ⟨rfl, fun answer client => ?_, fun answer client => ?_⟩
  · split <;> rfl
  · rw [Statement.readable_updatePending]
    by_cases hnone : answer.affected = 0
    · rw [if_pos hnone, hnone]
      rfl
    · rw [if_neg hnone, bne_iff_ne.2 hnone]
      rfl

theorem steady_step (gacha : GachaId) (character : CharacterId) :
    Steady id (perform (δ := δ) (.step gacha character)) := by
  refine steady_firstRow?_bind rfl (fun found client => ?_) fun answer client => ?_
  · cases found with
    | none => rfl
    | some step => exact kept_decoded_bind _ _ client
  · rw [Statement.readable_selectStep]
    cases answer.rows.head? with
    | none => rfl
    | some row =>
        rw [Option.all_some, Option.map_some]
        cases (Row.first row : Except StoreFault Int32) with
        | error fault => rfl
        | ok step => exact (isOk_decoded_bind _ _ client).symm

theorem steady_dealtEntries (gacha : GachaId) (character : CharacterId) :
    Steady id (perform (δ := δ) (.dealtEntries gacha character)) := by
  have hperform : perform (δ := δ) (.dealtEntries gacha character) =
      query (.selectDealt gacha character) >>= fun answer =>
        decoded (answer.rows.mapM (Row.first : Row → Except StoreFault Int64)) >>= fun ids =>
          decoded (ids.mapM (Narrow.narrow "entry_id")) := bind_assoc _ _ _
  rw [hperform]
  have hrun (answer : Answer) (client : Client δ) :
      Action.run (decoded (answer.rows.mapM (Row.first : Row → Except StoreFault Int64)) >>=
        fun ids => decoded (ids.mapM (Narrow.narrow (τ := UInt32) "entry_id"))) client =
      ((answer.rows.mapM (Row.first : Row → Except StoreFault Int64) >>= fun ids =>
        ids.mapM (Narrow.narrow (τ := UInt32) "entry_id")).mapError
          fun fault => .refused (.store fault), client) := by
    rw [Action.run_bind, run_decoded]
    cases (answer.rows.mapM Row.first : Except StoreFault (List Int64)) with
    | error fault => rfl
    | ok ids => exact run_decoded _ client
  refine Reads.steady ⟨rfl, fun answer client => ?_, fun answer client => ?_⟩
  · rw [hrun]
  · rw [hrun, isOk_mapError, isOk_mapM_narrowed]
    rfl

theorem steady_purchaseCount (character : CharacterId) (item : ShopItemId) :
    Steady id (perform (δ := δ) (.purchaseCount character item)) := by
  refine steady_firstRow?_bind rfl (fun found client => ?_) fun answer client => ?_
  · rw [run_decoded]
  · rw [Statement.readable_selectPurchase]
    cases answer.rows.head? with
    | none => rfl
    | some row =>
        rw [Option.all_some, Option.map_some]
        cases (Row.first row : Except StoreFault Int64) with
        | error fault => rfl
        | ok count =>
            dsimp only
            rw [run_decoded, isOk_mapError]
            rfl

theorem steady_perform {reach : Reach} {asked : Command α} (h : reach.AllowsCommand asked) :
    Steady id (perform (δ := δ) asked) := by
  cases asked with
  | commit => exact h.elim
  | rollback => exact h.elim
  | lockScope character gacha => exact steady_execute rfl fun _ => rfl
  | lockCharacter character => exact steady_execute rfl fun _ => rfl
  | deleteStep gacha character => exact steady_execute rfl fun _ => rfl
  | insertStep gacha character step => exact steady_execute rfl fun _ => rfl
  | insertDealt gacha character entry => exact steady_execute rfl fun _ => rfl
  | deleteDealt gacha character => exact steady_execute rfl fun _ => rfl
  | addPurchase character item count => exact steady_execute rfl fun _ => rfl
  | gacha id => exact steady_firstRow? rfl Gacha.ofRow fun _ => rfl
  | gachas => exact steady_all rfl Gacha.ofRow fun _ => rfl
  | entries gacha => exact steady_all rfl Entry.ofRow fun _ => rfl
  | entryByType gacha entryType => exact steady_firstRow? rfl Entry.ofRow fun _ => rfl
  | randomPool gacha => exact steady_all rfl Entry.ofRow fun _ => rfl
  | rewardItems entry => exact steady_all rfl RewardItem.ofRow fun _ => rfl
  | trade id => exact steady_firstRow? rfl Trade.ofRow fun _ => rfl
  | balance player balance => exact steady_ownedRow rfl _ _ Row.first fun _ => rfl
  | adjustBalance player balance delta => exact steady_ownedRow rfl _ _ Row.first fun _ => rfl
  | pendingBuffer character => exact steady_ownedRow rfl _ _ Row.first fun _ => rfl
  | setPendingBuffer character buffer => exact steady_setPendingBuffer character buffer
  | step gacha character => exact steady_step gacha character
  | dealtEntries gacha character => exact steady_dealtEntries gacha character
  | purchaseCount character item => exact steady_purchaseCount character item

theorem steady_decoded (outcome : Except StoreFault α) :
    Steady id (decoded (δ := δ) outcome) := by
  refine Steady.of_kept fun client => ?_
  change (Action.run (decoded outcome) client).2 = client
  rw [run_decoded]

theorem steady_onStore {x : Action (Client δ) α} (h : Steady id x) :
    Steady Machine.store (Machine.onStore x) :=
  fun machine hactive => h machine.store hactive

theorem steady_put {reach : Reach} {query : Query α} (h : reach.Allows α query) :
    Steady Machine.store (query.put (σ := Client δ)) := by
  cases query with
  | command asked => exact steady_onStore (steady_perform h)
  | weighted pool rolls => exact Steady.of_kept (Machine.store_drawWeighted pool rolls)
  | uniform pool rolls => exact Steady.of_kept (Machine.store_drawUniform pool rolls)
  | clock => exact Steady.of_kept fun _ => rfl

theorem steady_carry {reach : Reach} {d : Dialogue α} (h : d.Within reach.Allows) :
    Steady Machine.store (d.carry (σ := Client δ)) := by
  induction d with
  | done answer => exact steady_pure answer
  | stop halt => exact Steady.of_kept fun _ => rfl
  | ask query next ih => exact steady_bind (steady_put h.1) fun b => ih b (h.2 b)

end Commands

theorem steady_body {α : Type} (operation : Operation α) :
    Steady Machine.store (operation.body (σ := Client δ)) := by
  obtain ⟨d, hd, hcarry⟩ := operation.spoken_body
  have hbody : operation.body (σ := Client δ) = d.carry := hcarry (Client δ)
  rw [hbody]
  exact steady_carry hd

section Imports

theorem steady_importGacha (gacha : Gacha) : Steady id (importGacha (δ := δ) gacha) :=
  steady_bind (steady_decoded _) fun _ => steady_bind (steady_decoded _) fun _ =>
    steady_execute rfl fun _ => rfl

theorem steady_importRewards (entry : EntryId) (items : List RewardItem) :
    Steady id (importRewards (δ := δ) entry items) := by
  induction items with
  | nil => exact steady_pure ()
  | cons item rest ih => exact steady_bind (steady_execute rfl fun _ => rfl) fun _ => ih

theorem steady_importEntry (seeded : CatalogEntry) :
    Steady id (importEntry (δ := δ) seeded) :=
  steady_bind (steady_execute rfl fun _ => rfl) fun _ =>
    steady_bind (steady_execute rfl fun _ => rfl) fun _ => steady_importRewards _ _

theorem steady_importTrade (trade : Trade) : Steady id (importTrade (δ := δ) trade) :=
  steady_bind (steady_decoded _) fun _ => steady_execute rfl fun _ => rfl

def writeCatalog (catalog : Catalog) : Action (Client δ) Unit := do
  catalog.gachas.forM importGacha
  catalog.entries.forM importEntry
  catalog.trades.forM importTrade

theorem steady_writeCatalog (catalog : Catalog) :
    Steady id (writeCatalog (δ := δ) catalog) :=
  steady_bind (steady_forM steady_importGacha _) fun _ =>
    steady_bind (steady_forM steady_importEntry _) fun _ => steady_forM steady_importTrade _

def writePlayer (player : Player) : Action (Client δ) Unit := do
  execute (.insertUser player.account)
  execute (.insertCharacter player)

theorem steady_writePlayer (player : Player) : Steady id (writePlayer (δ := δ) player) :=
  steady_bind (steady_execute rfl fun _ => rfl) fun _ => steady_execute rfl fun _ => rfl

end Imports

end Client

namespace Setup

variable {δ : Type} [Database δ]

theorem steady_within {statement : Statement} (hplain : statement.isControl = false)
    (hread : ∀ answer, statement.readable answer = true) (blame : StoreFault → SetupFault) :
    Client.Steady id (ofClient (δ := δ) blame (Client.within statement)) := by
  intro client hactive
  change client.link = .active at hactive
  have hrun : (ofClient blame (Client.within statement)).run client =
      ((Client.exchange statement client).1.mapError blame,
        (Client.exchange statement client).2) := by
    rw [← Client.within_of_active hactive]
    rfl
  rw [hrun]
  dsimp only [id]
  cases hreply : Client.exchange statement client with
  | mk reply after =>
      cases reply with
      | error fault => exact Client.Works.of_exchange_error hplain hactive hreply
      | ok answer => exact Client.Works.of_exchange_ok hplain hactive hreply fun _ => hread answer

theorem steady_createAll (relations : List Relation) (indexes : List String) :
    Client.Steady id (createAll (δ := δ) relations indexes) := by
  induction relations with
  | cons relation rest ih =>
      rw [createAll]
      exact Client.steady_bind (steady_within rfl (fun _ => rfl) _) fun _ => ih
  | nil =>
      induction indexes with
      | nil =>
          rw [createAll]
          exact Client.steady_pure ()
      | cons index rest ih =>
          rw [createAll]
          exact Client.steady_bind (steady_within rfl (fun _ => rfl) _) fun _ => ih

end Setup

end PrizeDraw
