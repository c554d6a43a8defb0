import PrizeDraw.Catalog.Json
import PrizeDraw.Currency
import PrizeDraw.Environment.File

namespace PrizeDraw

structure Host where
  env : Environment
  file? : String → Option String
  now : Int64 := 0
  entropy : UInt64 := 0

def Host.configured? (host : Host) : Option Host :=
  match host.file? EnvironmentFile.name with
  | some text =>
      (EnvironmentFile.extend? host.env text).map fun env => { host with env := env }
  | none => some host

inductive CatalogFault where
  | environment (fault : EnvironmentFault)
  | unreadable (path : String)
  | malformed (path : String)
  deriving DecidableEq, Repr

namespace CatalogFault

def message : CatalogFault → String
  | .environment fault => fault.message
  | .unreadable path => "failed to read catalog " ++ path
  | .malformed path => "failed to parse catalog " ++ path

end CatalogFault

namespace Sandbox

def player : Player := { account := 1, character := 1 }

def balances : List (Balance × Int64) :=
  [(.frontierPoints, 1000), (.gachaPremium, 100), (.gachaTrial, 30), (.netcafePoints, 500)]

def catalogKey : String := "GACHA_CATALOG_PATH"

def defaultCatalogPath : String := "services/gacha-sandbox/catalog.json"

def loadCatalog (host : Host) : Except CatalogFault Catalog := do
  let path ← (host.env.valueOr catalogKey ValueReader.string defaultCatalogPath).mapError
    .environment
  match host.file? path with
  | none => .error (.unreadable path)
  | some text =>
      match Catalog.parse? text with
      | none => .error (.malformed path)
      | some catalog => .ok catalog

end Sandbox

end PrizeDraw
