import PrizeDraw.Database.Address
import PrizeDraw.Database.Setup
import PrizeDraw.Generator.ChaCha
import PrizeDraw.Memory
import PrizeDraw.Sandbox

namespace PrizeDraw

inductive ProgramFault where
  | usage
  | unknownMode (text : String)
  | argument (fault : IntegerFault)
  | environment (fault : EnvironmentFault)
  | catalog (fault : CatalogFault)
  | setup (fault : SetupFault)
  | halted (halt : Halt)
  | unsettable
  | noConnections
  deriving DecidableEq, Repr

namespace ProgramFault

def message : ProgramFault → String
  | .usage => "usage: simulate <normal|stepup|box> <gacha_id> [plays]"
  | .unknownMode text => "unknown mode '" ++ text ++ "', expected normal, stepup or box"
  | .argument fault => fault.message
  | .environment fault => fault.message
  | .catalog fault => fault.message
  | .setup fault => fault.message
  | .halted (.refused fault) => fault.message
  | .halted .overflow => "balance out of range"
  | .unsettable => "value of a variable holds a null character"
  | .noConnections => "no connection is allowed"

def isBreakdown : ProgramFault → Bool
  | .halted .overflow | .unsettable | .noConnections => true
  | _ => false

def exitCode (fault : ProgramFault) : UInt8 := if fault.isBreakdown then 101 else 1

def report (fault : ProgramFault) : String :=
  if fault.isBreakdown then "\n" ++ fault.message else "Error: " ++ fault.message

end ProgramFault

structure Outcome where
  lines : List String := []
  fault : Option ProgramFault := none
  deriving DecidableEq, Repr, Inhabited

namespace Outcome

def exitCode (outcome : Outcome) : UInt8 :=
  match outcome.fault with
  | none => 0
  | some fault => fault.exitCode

def errorText? (outcome : Outcome) : Option String :=
  outcome.fault.map ProgramFault.report

def ofExcept : Except ProgramFault (List String) → Outcome
  | .ok lines => { lines }
  | .error fault => { fault := some fault }

end Outcome

def Host.configure (host : Host) : Except ProgramFault Host :=
  match host.configured? with
  | some host => .ok host
  | none => .error .unsettable

abbrev Part (σ α : Type) := ExceptT ProgramFault (StateM σ) α

namespace Part

variable {δ : Type} [Database δ]

def ofExcept {σ ε α : Type} (blame : ε → ProgramFault) (outcome : Except ε α) : Part σ α :=
  fun state => (outcome.mapError blame, state)

def ofAction {σ α : Type} (action : Action σ α) : Part σ α := fun state =>
  let (outcome, state) := action.run state
  (outcome.mapError .halted, state)

def ofSetup {α : Type} (setup : Setup δ α) : Part (Client δ) α := fun client =>
  let (outcome, client) := (ExceptT.run setup) client
  (outcome.mapError .setup, client)

def connect (host : Host) (create : Bool) : Part (Client δ) Unit := do
  let settings ← ofExcept .environment (DatabaseSettings.load host.env)
  if !Address.isAddress settings.url then throw (.setup .connect)
  if settings.maxConnections = 0 then throw .noConnections
  ofSetup (Setup.connect false create)

end Part

namespace Sandbox

variable {δ : Type} [Database δ]

def setBalances : List (Balance × Int64) → Part (Client δ) Unit
  | [] => return
  | (balance, value) :: rest => do
      Part.ofAction (Client.setBalance player balance value)
      setBalances rest

def initialise (host : Host) : Part (Client δ) (List String) := do
  let host ← Part.ofExcept id host.configure
  Part.connect host true
  let catalog ← Part.ofExcept .catalog (loadCatalog host)
  Part.ofAction (Client.importCatalog catalog)
  Part.ofAction (Client.addPlayer player)
  setBalances balances
  return ["Database initialized successfully"]

def reset (host : Host) : Part (Client δ) (List String) := do
  let host ← Part.ofExcept id host.configure
  Part.connect host false
  Part.ofSetup Setup.dropTables
  return ["Database reset successfully"]

def runPart (part : Part (Client δ) (List String)) (database : δ) : Outcome × List Statement :=
  let (outcome, client) := (ExceptT.run part) { database }
  (Outcome.ofExcept outcome, client.trace)

end Sandbox

end PrizeDraw
