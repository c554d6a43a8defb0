import PrizeDraw.Sandbox.Simulation

namespace PrizeDraw

inductive Unreachable where
  | mk

instance : Database Unreachable where
  accepts _ := false
  answer _ database := (.cut, database)

namespace CommandLine

def variableNames : List String :=
  [EngineSettings.offsetKey, EngineSettings.seedKey, DatabaseSettings.urlKey,
    DatabaseSettings.maxConnectionsKey, Sandbox.catalogKey]

def readEnvironment : List String → IO Environment
  | [] => return []
  | name :: rest => do
      let others ← readEnvironment rest
      match ← IO.getEnv name with
      | some text => return (name, text.toUTF8.toList) :: others
      | none => return others

def readFile (path : String) : IO (Option String) := do
  try
    let text ← IO.FS.readFile path
    return some text
  catch _ => return none

def readNearest (path : String) : Nat → IO (Option String)
  | 0 => return none
  | n + 1 => do
      match ← readFile path with
      | some text => return some text
      | none => readNearest ("../" ++ path) n

def readHost : IO Host := do
  let depth := (← IO.currentDir).components.length
  let settings ← readNearest EnvironmentFile.name depth
  let names := variableNames ++ EnvironmentFile.mentions (settings.getD "").toList
  let env ← readEnvironment names
  let extended := (EnvironmentFile.extend? env (settings.getD "")).getD env
  let path :=
    ((extended.get? Sandbox.catalogKey).map Blank.trim).getD Sandbox.defaultCatalogPath
  let text ← readFile path
  let seed ← IO.getRandomBytes 8
  return {
    env
    file? := fun name =>
      if name = EnvironmentFile.name then settings else if name = path then text else none
    entropy := seed.toList.foldl (fun n b => n * 256 + b.toUInt64) 0 }

def runProgram (host : Host) : List String → Outcome
  | "simulate" :: arguments => (Simulation.program arguments host Unreachable.mk).1
  | "init" :: _ => (Sandbox.runPart (Sandbox.initialise host) Unreachable.mk).1
  | "reset_db" :: _ => (Sandbox.runPart (Sandbox.reset host) Unreachable.mk).1
  | _ => { fault := some .usage }

end CommandLine

end PrizeDraw

open PrizeDraw in
def main (arguments : List String) : IO UInt32 := do
  let host ← CommandLine.readHost
  let outcome := CommandLine.runProgram host arguments
  outcome.lines.forM IO.println
  match outcome.errorText? with
  | some line => IO.eprintln line
  | none => pure ()
  return outcome.exitCode.toUInt32
