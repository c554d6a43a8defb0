import PrizeDraw.Proofs.Balances
import PrizeDraw.Proofs.Commits
import PrizeDraw.Proofs.Telling

namespace PrizeDraw

namespace Table

variable {κ ν : Type} [DecidableEq κ] [LT κ] [DecidableLT κ]

def update (key : κ) (change : ν → ν) (table : Table κ ν) : Table κ ν :=
  match table.find? key with
  | some value => table.insert key (change value)
  | none => table

theorem update_of_some {key : κ} {value : ν} {table : Table κ ν}
    (h : table.find? key = some value) (change : ν → ν) :
    table.update key change = table.insert key (change value) := by
  rw [update, h]

theorem update_of_none {key : κ} {table : Table κ ν} (h : table.find? key = none)
    (change : ν → ν) : table.update key change = table := by
  rw [update, h]

theorem find?_update (key other : κ) (change : ν → ν) (table : Table κ ν) :
    find? other (update key change table) =
      if other = key then (find? other table).map change else find? other table := by
  unfold update
  split
  · rename_i value hfound
    by_cases h : other = key
    · subst h
      rw [find?_insert_self, if_pos rfl, hfound, Option.map_some]
    · rw [find?_insert_of_ne h, if_neg h]
  · rename_i hfound
    split
    · rename_i h
      rw [h, hfound, Option.map_none]
    · rfl

theorem map_find?_update {μ : Type} (part : ν → μ) {change : ν → ν}
    (h : ∀ value, part (change value) = part value) (key other : κ) (table : Table κ ν) :
    (find? other (update key change table)).map part = (find? other table).map part := by
  rw [find?_update]
  split
  · rw [Option.map_map]
    exact Option.map_congr fun value _ => h value
  · rfl

end Table

namespace Purse

def add (purse : Purse) (balance : Balance) (delta : Int64) : Purse :=
  purse.set balance (purse.get balance + delta)

end Purse

inductive Write where
  | book (player : Player) (balance : Balance) (delta : Int64)
  | hold (character : CharacterId) (buffer : Option Bytes)
  | clearSteps (gacha : GachaId) (character : CharacterId)
  | addStep (gacha : GachaId) (character : CharacterId) (step : UInt8)
  | deal (gacha : GachaId) (character : CharacterId) (entry : EntryId)
  | clearDealt (gacha : GachaId) (character : CharacterId)
  | purchase (character : CharacterId) (item : ShopItemId) (count : UInt32)
  deriving DecidableEq, Repr

def Command.write? {α : Type} : Command α → Option Write
  | .adjustBalance player purse delta => some (.book player purse delta)
  | .setPendingBuffer character buffer => some (.hold character buffer)
  | .deleteStep id character => some (.clearSteps id character)
  | .insertStep id character next => some (.addStep id character next)
  | .insertDealt id character entry => some (.deal id character entry)
  | .deleteDealt id character => some (.clearDealt id character)
  | .addPurchase character item count => some (.purchase character item count)
  | _ => none

namespace Write

def onBalance (player : Player) (balance : Balance) (value : Int64) : Write → Int64
  | .book owner column delta =>
      if balance = column ∧ balance.scope.owner player = balance.scope.owner owner
      then value + delta else value
  | _ => value

def onBuffer (character : CharacterId) (buffer : Option Bytes) : Write → Option Bytes
  | .hold owner held => if character = owner then held else buffer
  | _ => buffer

def onSteps (gacha : GachaId) (character : CharacterId) (steps : List UInt8) :
    Write → List UInt8
  | .clearSteps other owner => if gacha = other ∧ character = owner then [] else steps
  | .addStep other owner step =>
      if gacha = other ∧ character = owner then steps ++ [step] else steps
  | _ => steps

def onDealt (gacha : GachaId) (character : CharacterId) (dealt : List EntryId) :
    Write → List EntryId
  | .clearDealt other owner => if gacha = other ∧ character = owner then [] else dealt
  | .deal other owner entry =>
      if gacha = other ∧ character = owner then dealt ++ [entry] else dealt
  | _ => dealt

def onPurchases (character : CharacterId) (item : ShopItemId) (bought : UInt64) :
    Write → UInt64
  | .purchase owner other count =>
      if character = owner ∧ item = other then bought + count.toUInt64 else bought
  | _ => bought

end Write

namespace Records

variable {α ν : Type}

def put (records : Records) : Write → Records
  | .book player balance delta =>
      match balance.scope with
      | .account =>
          { records with
            accounts := records.accounts.update player.account fun purse =>
              purse.add balance delta }
      | .character =>
          { records with
            characters := records.characters.update player.character fun row =>
              { row with purse := row.purse.add balance delta } }
  | .hold character buffer =>
      { records with
        characters := records.characters.update character fun row =>
          { row with pending := buffer } }
  | .clearSteps gacha character =>
      { records with
        steps := records.steps.filter fun row =>
          !(row.gacha == gacha && row.character == character) }
  | .addStep gacha character step =>
      { records with steps := records.steps ++ [{ gacha, character, step }] }
  | .deal gacha character entry =>
      { records with dealt := records.dealt ++ [{ gacha, character, entry }] }
  | .clearDealt gacha character =>
      { records with
        dealt := records.dealt.filter fun row =>
          !(row.gacha == gacha && row.character == character) }
  | .purchase character item count =>
      { records with
        purchases := records.purchases.insert { character, item }
          (records.purchaseCount character item + count.toUInt64) }

def puts (records : Records) (writes : List Write) : Records := writes.foldl put records

theorem puts_append (records : Records) (first second : List Write) :
    records.puts (first ++ second) = (records.puts first).puts second := List.foldl_append

def refusing (outcome : Except StoreFault α) : Except Halt α :=
  outcome.mapError fun fault => .refused (.store fault)

/-- What a command is answered in a unit of work that began on the records, after the writes that
it made so far. -/
def answered (records : Records) (writes : List Write) : Command α → Except Halt α
  | .lockScope _ _ | .lockCharacter _ | .commit | .rollback => .ok ()
  | .gacha id => .ok (records.gachas.find? id)
  | .gachas => .ok records.gachas.values
  | .entries gacha => .ok (Arrangement.arrange byTypeThenId (records.entriesOf gacha))
  | .entryByType gacha entryType =>
      .ok ((records.entriesOf gacha).find? (·.entryType == entryType))
  | .randomPool gacha =>
      .ok (Arrangement.arrange byWeightThenId ((records.entriesOf gacha).filter Entry.inPool))
  | .rewardItems entry => .ok ((records.rewards.find? entry).getD [])
  | .trade id => .ok (records.trades.find? id)
  | .balance player balance => refusing (balanceAfter player balance)
  | .adjustBalance player balance delta => do
      refusing (records.checkWrite .balances)
      let value ← refusing (balanceAfter player balance)
      summed value delta
  | .pendingBuffer character => refusing (bufferAfter character)
  | .setPendingBuffer character _ => do
      refusing (records.checkWrite .inventory)
      let _ ← refusing (bufferAfter character)
  | .step gacha character =>
      .ok (writes.foldl (Write.onSteps gacha character) (records.steps? gacha character)).head?
  | .deleteStep _ _ | .insertStep _ _ _ => refusing (records.checkWrite .stepup)
  | .dealtEntries gacha character =>
      .ok (writes.foldl (Write.onDealt gacha character) (records.dealtTo gacha character))
  | .insertDealt _ _ _ | .deleteDealt _ _ => refusing (records.checkWrite .box)
  | .addPurchase character item count => do
      refusing (records.checkWrite .shopPurchases)
      counted (boughtAfter character item) count
  | .purchaseCount character item => .ok (boughtAfter character item)
where
  balanceAfter (player : Player) (balance : Balance) : Except StoreFault Int64 :=
    return writes.foldl (Write.onBalance player balance) (← records.balance player balance)
  bufferAfter (character : CharacterId) : Except StoreFault (Option Bytes) :=
    return writes.foldl (Write.onBuffer character) (← records.pendingBuffer character)
  boughtAfter (character : CharacterId) (item : ShopItemId) : UInt64 :=
    writes.foldl (Write.onPurchases character item) (records.purchaseCount character item)
  summed (value delta : Int64) : Except Halt Int64 :=
    match Amount.add? value delta with
    | some sum => .ok sum
    | none => .error .overflow
  counted (bought : UInt64) (count : UInt32) : Except Halt Unit :=
    if bought.toNat + count.toNat < UInt64.size then .ok () else .error .overflow

theorem add?_eq_some {a b sum : Int64} (h : Amount.add? a b = some sum) : sum = a + b := by
  rw [← Int64.ofInt_toInt sum, Amount.ofInt?_eq_some_iff.1 h, Int64.ofInt_add,
    Int64.ofInt_toInt, Int64.ofInt_toInt]

theorem setBalance_eq (records : Records) (player : Player) (balance : Balance)
    (delta : Int64) {value : Int64} (h : records.balance player balance = .ok value) :
    records.setBalance player balance (value + delta) =
      .ok (records.put (.book player balance delta)) := by
  unfold Records.balance at h
  unfold setBalance put
  cases hscope : balance.scope with
  | account =>
      rw [hscope, purse] at h
      cases hpurse : records.account player.account with
      | error fault => rw [hpurse] at h; cases h
      | ok purse =>
          rw [hpurse] at h
          cases h
          dsimp only
          rw [hscope, Table.update_of_some (account_ok hpurse)]
          rfl
  | character =>
      rw [hscope, purse] at h
      cases hrow : records.character player.character with
      | error fault => rw [hrow] at h; cases h
      | ok row =>
          rw [hrow] at h
          cases h
          dsimp only
          rw [hscope, Table.update_of_some (character_ok hrow)]
          rfl

theorem put_book_of_none {records : Records} {player : Player} {balance : Balance}
    (h : records.amount? player balance = none) (delta : Int64) :
    records.put (.book player balance delta) = records := by
  unfold amount? at h
  unfold put
  cases hscope : balance.scope with
  | account =>
      rw [hscope] at h
      dsimp only
      rw [hscope, Table.update_of_none (Option.map_eq_none_iff.1 h)]
  | character =>
      rw [hscope] at h
      have hmissing := Option.map_eq_none_iff.1 (Option.map_eq_none_iff.1 h)
      dsimp only
      rw [hscope, Table.update_of_none hmissing]

theorem setPendingBuffer_eq (records : Records) (character : CharacterId)
    (buffer : Option Bytes) :
    records.setPendingBuffer character buffer =
      (records.pendingBuffer character).map fun _ => records.put (.hold character buffer) := by
  unfold setPendingBuffer pendingBuffer put
  cases hrow : records.character character with
  | error fault => rfl
  | ok row =>
      dsimp only
      rw [Table.update_of_some (character_ok hrow)]
      rfl

@[simp] theorem refusing_ok_bind {β : Type} (value : α) (f : α → Except Halt β) :
    refusing (.ok value) >>= f = f value := rfl

theorem read_eq (records : Records) (outcome : Except StoreFault α) :
    step.read records outcome = (refusing outcome).map fun answer => (answer, records) := by
  cases outcome <;> rfl

theorem write_eq (records : Records) (table : WriteTable) (changed : Records) :
    step.write records table changed =
      (refusing (records.checkWrite table)).map fun answer => (answer, changed) := by
  unfold step.write
  cases records.checkWrite table <;> rfl

theorem balanceAfter_nil (records : Records) (player : Player) (balance : Balance) :
    answered.balanceAfter records [] player balance = records.balance player balance := by
  unfold answered.balanceAfter
  cases records.balance player balance <;> rfl

theorem bufferAfter_nil (records : Records) (character : CharacterId) :
    answered.bufferAfter records [] character = records.pendingBuffer character := by
  unfold answered.bufferAfter
  cases records.pendingBuffer character <;> rfl

theorem step_eq (records : Records) (asked : Command α) :
    records.step asked =
      (records.answered [] asked).map fun answer =>
        (answer, records.puts asked.write?.toList) := by
  cases asked with
  | balance player balance =>
      simp only [answered, balanceAfter_nil]
      exact read_eq records _
  | pendingBuffer character =>
      simp only [answered, bufferAfter_nil]
      exact read_eq records _
  | adjustBalance player balance delta =>
      simp only [step, answered, balanceAfter_nil]
      cases records.checkWrite .balances with
      | error fault => rfl
      | ok _ =>
          cases hvalue : records.balance player balance with
          | error fault => rfl
          | ok value =>
              cases hsum : Amount.add? value delta with
              | none =>
                  simp only [refusing_ok_bind, answered.summed, hsum]
                  rfl
              | some sum =>
                  obtain rfl := add?_eq_some hsum
                  simp only [refusing_ok_bind, answered.summed, hsum,
                    setBalance_eq records player balance delta hvalue]
                  rfl
  | setPendingBuffer character buffer =>
      simp only [step, answered, bufferAfter_nil]
      rw [setPendingBuffer_eq]
      cases records.checkWrite .inventory with
      | error fault => rfl
      | ok _ => cases records.pendingBuffer character <;> rfl
  | deleteStep gacha character => exact write_eq records .stepup _
  | insertStep gacha character step => exact write_eq records .stepup _
  | insertDealt gacha character entry => exact write_eq records .box _
  | deleteDealt gacha character => exact write_eq records .box _
  | addPurchase character item count =>
      simp only [step, answered, answered.boughtAfter, answered.counted, List.foldl_nil]
      cases records.checkWrite .shopPurchases with
      | error fault => rfl
      | ok _ =>
          by_cases hfits : (records.purchaseCount character item).toNat + count.toNat < UInt64.size
          · simp only [refusing_ok_bind, hfits, if_true, UInt64.ofNat_add, UInt64.ofNat_toNat,
              UInt64.ofNat_uInt32ToNat]
            rfl
          · simp only [refusing_ok_bind, hfits, if_false]
            rfl
  | _ => rfl

theorem puts_kept (records : Records) (writes : List Write) :
    ∃ accounts characters steps dealt purchases,
      records.puts writes =
        { records with accounts, characters, steps, dealt, purchases } := by
  induction writes generalizing records with
  | nil => exact ⟨_, _, _, _, _, rfl⟩
  | cons write rest ih =>
      obtain ⟨accounts, characters, steps, dealt, purchases, hrest⟩ := ih (records.put write)
      refine ⟨accounts, characters, steps, dealt, purchases, hrest.trans ?_⟩
      cases write with
      | book player balance delta =>
          simp only [put]
          split <;> rfl
      | _ => rfl

theorem view_puts (view : Records → ν) (on : ν → Write → ν)
    (h : ∀ records write, view (records.put write) = on (view records) write)
    (records : Records) (writes : List Write) :
    view (records.puts writes) = writes.foldl on (view records) :=
  (List.foldl_hom view fun records write => (h records write).symm).symm

theorem view?_puts (view : Records → Option ν) (on : ν → Write → ν)
    (h : ∀ records write, view (records.put write) = (view records).map (on · write))
    (records : Records) (writes : List Write) :
    view (records.puts writes) = (view records).map fun value => writes.foldl on value := by
  induction writes generalizing records with
  | nil => exact Option.map_id'.symm
  | cons write rest ih =>
      refine (ih (records.put write)).trans ?_
      rw [h, Option.map_map]
      rfl

theorem amount?_put (player : Player) (balance : Balance) (records : Records) (write : Write) :
    (records.put write).amount? player balance =
      (records.amount? player balance).map (Write.onBalance player balance · write) := by
  cases write with
  | book owner column delta =>
      by_cases hconcerned :
          balance = column ∧ balance.scope.owner player = balance.scope.owner owner
      · obtain ⟨rfl, howner⟩ := hconcerned
        simp only [Write.onBalance, howner, true_and, if_true]
        rw [records.amount?_congr howner]
        cases hvalue : records.amount? owner balance with
        | none => rw [put_book_of_none hvalue, records.amount?_congr howner, hvalue]; rfl
        | some value =>
            rw [amount?_of_setBalance_ok
              (setBalance_eq records owner balance delta (balance_ok_iff.2 hvalue)),
              if_pos ⟨rfl, howner⟩]
            rfl
      · simp only [Write.onBalance, if_neg hconcerned, Option.map_id']
        cases hvalue : records.amount? owner column with
        | none => rw [put_book_of_none hvalue]
        | some value =>
            rw [amount?_of_setBalance_ok
              (setBalance_eq records owner column delta (balance_ok_iff.2 hvalue)),
              if_neg hconcerned]
  | hold owner buffer =>
      have hpurse : (records.put (.hold owner buffer)).ownPurse? player.character =
          records.ownPurse? player.character := by
        refine Table.map_find?_update CharacterRow.purse ?_ owner player.character _
        intro row
        rfl
      simp only [Write.onBalance, Option.map_id', amount?, hpurse]
      rfl
  | _ => exact Option.map_id'.symm

theorem amount?_puts (records : Records) (writes : List Write) (player : Player)
    (balance : Balance) :
    (records.puts writes).amount? player balance =
      (records.amount? player balance).map fun value =>
        writes.foldl (Write.onBalance player balance) value :=
  view?_puts (fun records => records.amount? player balance) (Write.onBalance player balance)
    (amount?_put player balance) records writes

def buffer? (records : Records) (character : CharacterId) : Option (Option Bytes) :=
  (records.characters.find? character).map CharacterRow.pending

theorem pendingBuffer_eq (records : Records) (character : CharacterId) :
    records.pendingBuffer character =
      match records.buffer? character with
      | some buffer => .ok buffer
      | none => .error (.unknownOwner BalanceScope.character.table character) := by
  unfold pendingBuffer Records.character buffer?
  cases records.characters.find? character <;> rfl

theorem buffer?_put (character : CharacterId) (records : Records) (write : Write) :
    (records.put write).buffer? character =
      (records.buffer? character).map (Write.onBuffer character · write) := by
  cases write with
  | book owner column delta =>
      simp only [Write.onBuffer, Option.map_id', put]
      cases column.scope with
      | account => rfl
      | character =>
          refine Table.map_find?_update CharacterRow.pending ?_ owner.character character _
          intro row
          rfl
  | hold owner buffer =>
      simp only [buffer?, put, Table.find?_update, Write.onBuffer]
      split
      · simp only [Option.map_map]
        rfl
      · rw [Option.map_id']
  | _ => exact Option.map_id'.symm

theorem buffer?_puts (records : Records) (writes : List Write) (character : CharacterId) :
    (records.puts writes).buffer? character =
      (records.buffer? character).map fun buffer =>
        writes.foldl (Write.onBuffer character) buffer :=
  view?_puts (fun records => records.buffer? character) (Write.onBuffer character)
    (buffer?_put character) records writes

theorem steps?_put (gacha : GachaId) (character : CharacterId) (records : Records)
    (write : Write) :
    (records.put write).steps? gacha character =
      Write.onSteps gacha character (records.steps? gacha character) write := by
  cases write with
  | clearSteps other owner => exact steps?_filter records other gacha owner character
  | addStep other owner step => exact steps?_append records _ gacha character
  | book player balance delta =>
      simp only [put]
      split <;> rfl
  | _ => rfl

theorem steps?_puts (records : Records) (writes : List Write) (gacha : GachaId)
    (character : CharacterId) :
    (records.puts writes).steps? gacha character =
      writes.foldl (Write.onSteps gacha character) (records.steps? gacha character) :=
  view_puts (fun records => records.steps? gacha character) (Write.onSteps gacha character)
    (steps?_put gacha character) records writes

theorem dealtTo_put (gacha : GachaId) (character : CharacterId) (records : Records)
    (write : Write) :
    (records.put write).dealtTo gacha character =
      Write.onDealt gacha character (records.dealtTo gacha character) write := by
  cases write with
  | clearDealt other owner => exact dealtTo_filter records other gacha owner character
  | deal other owner entry => exact dealtTo_append records _ gacha character
  | book player balance delta =>
      simp only [put]
      split <;> rfl
  | _ => rfl

theorem dealtTo_puts (records : Records) (writes : List Write) (gacha : GachaId)
    (character : CharacterId) :
    (records.puts writes).dealtTo gacha character =
      writes.foldl (Write.onDealt gacha character) (records.dealtTo gacha character) :=
  view_puts (fun records => records.dealtTo gacha character) (Write.onDealt gacha character)
    (dealtTo_put gacha character) records writes

theorem purchaseCount_put (character : CharacterId) (item : ShopItemId) (records : Records)
    (write : Write) :
    (records.put write).purchaseCount character item =
      Write.onPurchases character item (records.purchaseCount character item) write := by
  cases write with
  | purchase owner other count =>
      simp only [put, Write.onPurchases, Records.purchaseCount]
      split
      · rename_i hkey
        rw [hkey.1, hkey.2, Table.find?_insert_self, Option.getD_some]
      · rename_i hkey
        rw [Table.find?_insert_of_ne fun heq => hkey ?_]
        injection heq with hcharacter hitem
        exact ⟨hcharacter, hitem⟩
  | book player balance delta =>
      simp only [put]
      split <;> rfl
  | _ => rfl

theorem purchaseCount_puts (records : Records) (writes : List Write) (character : CharacterId)
    (item : ShopItemId) :
    (records.puts writes).purchaseCount character item =
      writes.foldl (Write.onPurchases character item) (records.purchaseCount character item) :=
  view_puts (fun records => records.purchaseCount character item)
    (Write.onPurchases character item) (purchaseCount_put character item) records writes

theorem balanceAfter_puts (records : Records) (writes : List Write) (player : Player)
    (balance : Balance) :
    answered.balanceAfter (records.puts writes) [] player balance =
      answered.balanceAfter records writes player balance := by
  simp only [answered.balanceAfter, balance_eq, amount?_puts, List.foldl_nil]
  cases records.amount? player balance <;> rfl

theorem bufferAfter_puts (records : Records) (writes : List Write) (character : CharacterId) :
    answered.bufferAfter (records.puts writes) [] character =
      answered.bufferAfter records writes character := by
  simp only [answered.bufferAfter, pendingBuffer_eq, buffer?_puts, List.foldl_nil]
  cases records.buffer? character <;> rfl

theorem checkWrite_puts (records : Records) (writes : List Write) (table : WriteTable) :
    (records.puts writes).checkWrite table = records.checkWrite table := by
  obtain ⟨accounts, characters, steps, dealt, purchases, hkept⟩ := records.puts_kept writes
  rw [hkept]
  rfl

theorem answered_puts (records : Records) (writes : List Write) (asked : Command α) :
    (records.puts writes).answered [] asked = records.answered writes asked := by
  obtain ⟨accounts, characters, steps, dealt, purchases, hkept⟩ := records.puts_kept writes
  have hfailing := records.checkWrite_puts writes
  cases asked with
  | balance player balance => simp only [answered, balanceAfter_puts]
  | adjustBalance player balance delta =>
      simp only [answered, hfailing, balanceAfter_puts, answered.summed]
  | pendingBuffer character => simp only [answered, bufferAfter_puts]
  | setPendingBuffer character buffer => simp only [answered, hfailing, bufferAfter_puts]
  | step gacha character =>
      simp only [answered, steps?_puts, List.foldl_nil]
  | dealtEntries gacha character =>
      simp only [answered, dealtTo_puts, List.foldl_nil]
  | purchaseCount character item =>
      simp only [answered, answered.boughtAfter, purchaseCount_puts, List.foldl_nil]
  | addPurchase character item count =>
      simp only [answered, answered.boughtAfter, hfailing, purchaseCount_puts, List.foldl_nil]
  | deleteStep gacha character => exact congrArg refusing (hfailing .stepup)
  | insertStep gacha character step => exact congrArg refusing (hfailing .stepup)
  | insertDealt gacha character entry => exact congrArg refusing (hfailing .box)
  | deleteDealt gacha character => exact congrArg refusing (hfailing .box)
  | _ =>
      rw [hkept]
      rfl

theorem step_puts (records : Records) (writes : List Write) (asked : Command α) :
    (records.puts writes).step asked =
      (records.answered writes asked).map fun answer =>
        (answer, records.puts (writes ++ asked.write?.toList)) := by
  rw [step_eq, answered_puts, puts_append]

end Records

structure Asked : Type 1 where
  {α : Type}
  command : Command α

structure Done : Type 1 where
  {α : Type}
  command : Command α
  outcome : Except Halt α

def Asked.finished (asked : Asked) : Done where
  command := asked.command
  outcome := .error (.refused (.store .finished))

namespace Done

def asked (done : Done) : Asked where
  command := done.command

def write? (done : Done) : Option Write :=
  match done.outcome with
  | .ok _ => done.command.write?
  | .error _ => none

def writes (all : List Done) : List Write := all.filterMap write?

@[simp] theorem writes_nil : writes [] = [] := rfl

theorem writes_cons (done : Done) (rest : List Done) :
    writes (done :: rest) = done.write?.toList ++ writes rest := by
  unfold writes
  rw [List.filterMap_cons]
  cases done.write? <;> rfl

end Done

namespace Store

variable {σ : Type} [Store σ]

def work : List Asked → σ → List Done × σ
  | [], store => ([], store)
  | asked :: rest, store =>
      let (outcome, next) := Action.run (perform asked.command) store
      let (done, last) := work rest next
      ({ command := asked.command, outcome } :: done, last)

structure Over (store : σ) : Prop where
  refused : ∀ asked, work asked store = (asked.map Asked.finished, store)
  abandoned : Store.abandon store = store

theorem Over.of_perform {store : σ}
    (h : ∀ {α : Type} (asked : Command α),
      Action.run (perform asked) store = (.error (.refused (.store .finished)), store))
    (habandon : Store.abandon store = store) : Over store where
  refused asked := by
    induction asked with
    | nil => rfl
    | cons first rest ih =>
        simp only [work, h first.command, ih]
        rfl
  abandoned := habandon

end Store

namespace Memory

open Store (work)

variable {α : Type}

def opened (records : Records) (writes : List Write) : Memory where
  records
  staged := some (records.puts writes)

theorem run_opened {asked : Command α} (h : asked.endsUnit = false) (records : Records)
    (writes : List Write) :
    let done : Done := { command := asked, outcome := records.answered writes asked }
    Action.run (Store.perform asked) (opened records writes) =
      (records.answered writes asked, opened records (writes ++ done.write?.toList)) := by
  dsimp only
  rw [opened, run_perform_staged h, Records.run_perform, Records.step_puts]
  cases hanswer : records.answered writes asked with
  | ok answer => rfl
  | error halt => simp [opened, Done.write?, Except.map]

theorem work_opened (records : Records) {asked : List Asked}
    (hasked : ∀ next ∈ asked, next.command.endsUnit = false) (made : List Write) :
    ∃ done, work asked (opened records made) =
        (done, opened records (made ++ Done.writes done)) ∧
      done.map Done.asked = asked ∧
      ∀ front next back, done = front ++ next :: back →
        next.outcome = records.answered (made ++ Done.writes front) next.command := by
  -- What was written before the first command is written before the rest, and its own write too.
  induction asked generalizing made with
  | nil => exact ⟨[], by simp [work], rfl, by simp⟩
  | cons first rest ih =>
      let now : Done :=
        { command := first.command, outcome := records.answered made first.command }
      obtain ⟨done, hwork, hcommands, hanswers⟩ :=
        ih (fun next hnext => hasked next (List.mem_cons_of_mem _ hnext))
          (made ++ now.write?.toList)
      refine ⟨now :: done, ?_, ?_, ?_⟩
      · simp only [work, run_opened (hasked first List.mem_cons_self), Done.writes_cons]
        rw [hwork, List.append_assoc]
      · rw [List.map_cons, hcommands]
        rfl
      · intro front next back hsplit
        cases front with
        | nil =>
            cases hsplit
            rw [Done.writes_nil, List.append_nil]
        | cons _ front =>
            obtain ⟨rfl, hrest⟩ := List.cons.inj hsplit
            rw [hanswers front next back hrest, Done.writes_cons, List.append_assoc]

structure Isolated (records : Records) (asked : List Asked) (done : List Done)
    (memory : Memory) : Prop where
  asked : done.map Done.asked = asked
  visible : memory.records = records
  answers : ∀ front next back, done = front ++ next :: back →
    next.outcome = records.answered (Done.writes front) next.command
  committed : Action.run (perform .commit) memory =
    (.ok (), { records := records.puts (Done.writes done) })
  rolledBack : Action.run (perform .rollback) memory = (.ok (), { records })
  abandoned : Store.abandon memory = { records }

theorem isolated_work (records : Records) {asked : List Asked}
    (hasked : ∀ next ∈ asked, next.command.endsUnit = false) :
    ∃ begun done last, Action.run Store.start ({ records } : Memory) = (.ok (), begun) ∧
      work asked begun = (done, last) ∧ Isolated records asked done last := by
  obtain ⟨done, hwork, hcommands, hanswers⟩ := work_opened records hasked []
  exact ⟨opened records [], done, _, rfl, hwork, hcommands, rfl, hanswers, rfl, rfl, rfl⟩

theorem over_of_finished {memory : Memory} (h : memory.staged = none) : Store.Over memory := by
  obtain ⟨records, staged⟩ := memory
  cases h
  exact .of_perform (fun _ => rfl) rfl

theorem over_of_end {ending : Command α} (h : ending.endsUnit = true) (memory : Memory) :
    Store.Over (Action.run (Store.perform ending) memory).2 := by
  apply over_of_finished
  obtain ⟨records, staged⟩ := memory
  cases ending with
  | commit => cases staged <;> rfl
  | rollback => cases staged <;> rfl
  | _ => cases h

end Memory

namespace Client

variable {δ : Type} [Database δ] {α : Type} {client : Client δ}

theorem within_of_idle (h : client.link = .idle) (statement : Statement) :
    within statement client = (.error .finished, client) := by
  rw [within, h]

theorem run_query_of_idle (h : client.link = .idle) (statement : Statement) :
    Action.run (query statement) client =
      (.error (.refused (.store .finished)), client) := by
  rw [query, run_lift, within_of_idle h]
  rfl

theorem run_finish_of_idle (h : client.link = .idle) (statement : Statement) :
    Action.run (finish statement) client =
      (.error (.refused (.store .finished)), client) := by
  rw [finish, run_lift, endWith, within_of_idle h]
  dsimp only
  rw [abandon_of_idle h]
  rfl

theorem over_of_idle (h : client.link = .idle) : Store.Over client := by
  refine .of_perform (fun asked => ?_) (abandon_of_idle h)
  by_cases hends : asked.endsUnit = false
  · refine (congrArg (fun action => Action.run action client) (perform_eq_query hends)).trans ?_
    exact Action.run_bind_of_error (run_query_of_idle h _)
  · cases asked with
    | commit => exact run_finish_of_idle h .commit
    | rollback => exact run_finish_of_idle h .rollback
    | _ => exact absurd rfl hends

theorem over_of_end {ending : Command α} (h : ending.endsUnit = true) (client : Client δ) :
    Store.Over (Action.run (perform ending) client).2 := by
  apply over_of_idle
  cases ending with
  | commit => exact link_abandon _
  | rollback => exact link_abandon _
  | _ => cases h

end Client

theorem Store.units_of_work {asked : List Asked}
    (hasked : ∀ next ∈ asked, next.command.endsUnit = false) {α : Type} {ending : Command α}
    (hending : ending.endsUnit = true) :
    (∀ records : Records, ∃ begun done last,
      Action.run Store.start ({ records } : Memory) = (.ok (), begun) ∧
        work asked begun = (done, last) ∧ Memory.Isolated records asked done last) ∧
      (∀ memory : Memory, Over (Action.run (perform ending) memory).2) ∧
      ∀ (δ : Type) [Database δ] (client : Client δ),
        Over (Action.run (perform ending) client).2 :=
  ⟨fun records => Memory.isolated_work records hasked, Memory.over_of_end hending,
    fun _ _ client => Client.over_of_end hending client⟩

namespace Sample

def attempt : List Asked := [
  { command := .adjustBalance player .frontierPoints 5 },
  { command := .setPendingBuffer player.character none },
  { command := .balance player .frontierPoints }]

def troubled : Records := records.setFailing .inventory true

end Sample

theorem Store.units_of_work_troubled :
    (∀ next ∈ Sample.attempt, next.command.endsUnit = false) ∧
      ∃ begun done last,
        Action.run Store.start ({ records := Sample.troubled } : Memory) = (.ok (), begun) ∧
          work Sample.attempt begun = (done, last) ∧
          Memory.Isolated Sample.troubled Sample.attempt done last ∧
          Done.writes done = [.book Sample.player .frontierPoints 5] ∧
          Over (Action.run (perform .commit) last).2 := by
  have hasked : ∀ next ∈ Sample.attempt, next.command.endsUnit = false := by decide
  obtain ⟨hmemory, hover, -⟩ := units_of_work hasked (rfl : Command.commit.endsUnit = true)
  obtain ⟨begun, done, last, hstart, hwork, hisolated⟩ := hmemory Sample.troubled
  refine ⟨hasked, begun, done, last, hstart, hwork, hisolated, ?_, hover last⟩
  cases hstart
  obtain rfl : (work Sample.attempt _).1 = done := congrArg Prod.fst hwork
  decide +kernel

end PrizeDraw
