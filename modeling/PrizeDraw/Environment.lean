import PrizeDraw.Text.Blank
import PrizeDraw.Text.IntegerText
import PrizeDraw.Wire.Text

namespace PrizeDraw

abbrev Environment := List (String × Bytes)

inductive ValueFault where
  | integer (fault : IntegerFault)
  | bool
  deriving DecidableEq, Repr

namespace ValueFault

def message : ValueFault → String
  | .integer fault => fault.message
  | .bool => "provided string was not `true` or `false`"

end ValueFault

inductive EnvironmentFault where
  | invalid (key : String) (fault : ValueFault)
  | notSet (key : String)
  deriving DecidableEq, Repr

namespace EnvironmentFault

def message : EnvironmentFault → String
  | .invalid key fault => s!"invalid value for {key}: {fault.message}"
  | .notSet key => s!"{key} environment variable not set"

end EnvironmentFault

abbrev ValueReader (α : Type) := String → Except ValueFault α

namespace ValueReader

def integer {α : Type} (range : IntegerText.Range) (make : Int → α) : ValueReader α := fun text =>
  match IntegerText.read range text.toList with
  | .ok n => .ok (make n)
  | .error fault => .error (.integer fault)

def i64 : ValueReader Int64 := integer .i64 Int64.ofInt

def u64 : ValueReader UInt64 := integer .u64 fun n => UInt64.ofNat n.toNat

def u32 : ValueReader UInt32 := integer .u32 fun n => UInt32.ofNat n.toNat

def u8 : ValueReader UInt8 := integer .u8 fun n => UInt8.ofNat n.toNat

def bool : ValueReader Bool := fun text =>
  if text = "true" then .ok true else if text = "false" then .ok false else .error .bool

def string : ValueReader String := .ok

end ValueReader

namespace Environment

def equalsSign : UInt8 := 0x3d

def bytes? (env : Environment) (key : String) : Option Bytes :=
  match key.toList.dropWhile (· != '=') with
  | [] => env.lookup key
  | _ :: rest =>
      (env.lookup (String.ofList (key.toList.takeWhile (· != '=')))).bind fun bs =>
        (Wire.utf8 rest ++ [equalsSign]).isPrefixOf? bs

def get? (env : Environment) (key : String) : Option String :=
  (env.bytes? key).bind fun bs => String.fromUTF8? (ByteArray.mk bs.toArray)

def set (env : Environment) (key value : String) : Environment :=
  (key, Wire.utf8 value.toList) :: env.filter fun (name, _) => name != key

def read {α : Type} (key : String) (reader : ValueReader α) (text : String) :
    Except EnvironmentFault α :=
  (reader (Blank.trim text)).mapError (.invalid key)

def valueOr {α : Type} (env : Environment) (key : String) (reader : ValueReader α)
    (default : α) : Except EnvironmentFault α :=
  match env.get? key with
  | some text => read key reader text
  | none => .ok default

def value? {α : Type} (env : Environment) (key : String) (reader : ValueReader α) :
    Except EnvironmentFault (Option α) :=
  match env.get? key with
  | some text => (read key reader text).map some
  | none => .ok none

def required (env : Environment) (key : String) : Except EnvironmentFault String :=
  match env.get? key with
  | some text => .ok text
  | none => .error (.notSet key)

end Environment

def intText (n : Int) : String := String.ofList (Decimal.ofInt n)

structure EngineSettings where
  offset : Int64 := 0
  seed : Option UInt64 := none
  deriving DecidableEq, Repr, Inhabited

namespace EngineSettings

def offsetKey : String := "GACHA_SERVER_TIME_OFFSET"

def seedKey : String := "GACHA_RNG_SEED"

def load (env : Environment) : Except EnvironmentFault EngineSettings := do
  return {
    offset := ← env.valueOr offsetKey ValueReader.i64 0
    seed := ← env.value? seedKey ValueReader.u64 }

def lookup? (settings : EngineSettings) (key : String) : Option String :=
  if key = offsetKey then some (intText settings.offset.toInt)
  else if key = seedKey then settings.seed.map fun seed => intText seed.toNat
  else none

end EngineSettings

structure DatabaseSettings where
  url : String
  maxConnections : UInt32
  deriving DecidableEq, Repr, Inhabited

namespace DatabaseSettings

def urlKey : String := "DATABASE_URL"

def maxConnectionsKey : String := "DATABASE_MAX_CONNECTIONS"

def defaultMaxConnections : UInt32 := 10

def load (env : Environment) : Except EnvironmentFault DatabaseSettings := do
  return {
    url := ← env.required urlKey
    maxConnections := ← env.valueOr maxConnectionsKey ValueReader.u32 defaultMaxConnections }

def lookup? (settings : DatabaseSettings) (key : String) : Option String :=
  if key = urlKey then some settings.url
  else if key = maxConnectionsKey then some (intText settings.maxConnections.toNat)
  else none

end DatabaseSettings

end PrizeDraw
