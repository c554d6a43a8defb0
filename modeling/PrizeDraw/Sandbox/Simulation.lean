import PrizeDraw.Desk
import PrizeDraw.Sandbox.Program
import PrizeDraw.Tally

namespace PrizeDraw

namespace Simulation

inductive Mode where
  | normal
  | stepup
  | box
  deriving DecidableEq, Repr

def Mode.read (text : String) : Except ProgramFault Mode :=
  if text = "normal" then .ok .normal
  else if text = "stepup" then .ok .stepup
  else if text = "box" then .ok .box
  else .error (.unknownMode text)

structure Plan where
  mode : Mode
  gacha : GachaId
  plays : Nat
  deriving DecidableEq, Repr

namespace Plan

def defaultPlays : Nat := 10

def readInteger (range : IntegerText.Range) (text : String) : Except ProgramFault Nat :=
  match IntegerText.read range text.toList with
  | .ok n => .ok n.toNat
  | .error fault => .error (.argument fault)

def read : List String → Except ProgramFault Plan
  | mode :: gacha :: rest => do
      let mode ← Mode.read mode
      let gacha ← readInteger .u32 gacha
      let plays ←
        match rest with
        | [] => pure defaultPlays
        | plays :: _ => readInteger .u64 plays
      return { mode, gacha := UInt32.ofNat gacha, plays }
  | _ => .error .usage

end Plan

variable {σ : Type} [Store σ]

def playOnce (player : Player) (gacha : GachaId) :
    Mode → Action (Machine σ) (Except Fault (List DrawnItem))
  | .normal => do
      return (← Desk.settle (Machine.playNormal player gacha 0)).map NormalPlay.items
  | .stepup => do
      let status ← Machine.stepStatus player gacha
      return (← Desk.settle (Machine.playStepup player gacha status.step)).map StepupPlay.items
  | .box => do
      return (← Desk.settle (Machine.playBox player gacha 0)).map BoxPlay.items

def playMany (player : Player) (gacha : GachaId) (mode : Mode) :
    Nat → Tally → Action (Machine σ) Tally
  | 0, tally => return tally
  | n + 1, tally => do
      match ← playOnce player gacha mode with
      | .ok items => playMany player gacha mode n (tally.record items)
      | .error _ => return tally

def collectAll (player : Player) : Nat → Action (Machine σ) Nat
  | 0 => return 0
  | fuel + 1 => do
      let drained ← Machine.receive player false
      if drained.remaining.isEmpty then return drained.emitted.size
      else
        let others ← collectAll player fuel
        return drained.emitted.size + others

def retrievalLimit : Nat := 1000000

def playsLine (tally : Tally) (collected : Nat) : String :=
  s!"plays: {tally.plays}, items drawn: {tally.total}, collected: {collected}"

def rarityLine (rarity : UInt8) (count : Nat) : String := s!"  rarity {rarity}: {count}"

def balancesLine (points : Points) : String :=
  s!"balances: frontier points {points.frontierPoints}, premium {points.premium}" ++
    s!", trial {points.trial}"

def tallyLines (tally : Tally) (collected : Nat) : List String :=
  playsLine tally collected :: tally.byRarity.map fun (rarity, count) => rarityLine rarity count

def playAndCollect (player : Player) (plan : Plan) : Action (Machine σ) (Tally × Nat) := do
  let tally ← playMany player plan.gacha plan.mode plan.plays {}
  let collected ← collectAll player retrievalLimit
  return (tally, collected)

def run (player : Player) (plan : Plan) (machine : Machine σ) : Outcome × Machine σ :=
  match (playAndCollect player plan).run machine with
  | (.error halt, machine) => ({ fault := some (.halted halt) }, machine)
  | (.ok (tally, collected), machine) =>
      let lines := tallyLines tally collected
      match (Machine.points player).run machine with
      | (.error halt, machine) => ({ lines, fault := some (.halted halt) }, machine)
      | (.ok points, machine) => ({ lines := lines ++ [balancesLine points] }, machine)

def machine (host : Host) (settings : EngineSettings) (store : σ) : Machine σ where
  store := store
  generator := Generator.seeded (settings.seed.getD host.entropy)
  clock := { now := host.now, offset := settings.offset }

def fillBalances : List (Balance × Int64) → Action Memory Unit
  | [] => return
  | (balance, value) :: rest => do
      Memory.setBalance Sandbox.player balance value
      fillBalances rest

def memoryStore (catalog : Catalog) : Memory :=
  let store := Memory.addPlayer Sandbox.player (Memory.addCatalog catalog {})
  ((fillBalances Sandbox.balances).run store).2

def onMemory (host : Host) (plan : Plan) (settings : EngineSettings) : Outcome :=
  match Sandbox.loadCatalog host with
  | .error fault => { fault := some (.catalog fault) }
  | .ok catalog => (run Sandbox.player plan (machine host settings (memoryStore catalog))).1

def onDatabase {δ : Type} [Database δ] (host : Host) (plan : Plan) (settings : EngineSettings)
    (database : δ) : Outcome × List Statement :=
  match (ExceptT.run (Part.connect host true)) ({ database } : Client δ) with
  | (.error fault, client) => ({ fault := some fault }, client.trace)
  | (.ok (), client) =>
      let (outcome, machine) := run Sandbox.player plan (machine host settings client)
      (outcome, machine.store.trace)

def prepare (arguments : List String) (host : Host) :
    Except ProgramFault (Host × Plan × EngineSettings) := do
  let host ← host.configure
  let plan ← Plan.read arguments
  let settings ← (EngineSettings.load host.env).mapError .environment
  return (host, plan, settings)

def program {δ : Type} [Database δ] (arguments : List String) (host : Host) (database : δ) :
    Outcome × List Statement :=
  match prepare arguments host with
  | .error fault => ({ fault := some fault }, [])
  | .ok (host, plan, settings) =>
      if (host.env.get? DatabaseSettings.urlKey).isSome then
        onDatabase host plan settings database
      else (onMemory host plan settings, [])

end Simulation

end PrizeDraw
