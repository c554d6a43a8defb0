import PrizeDraw.Amount
import PrizeDraw.Json.Double
import PrizeDraw.Weight

namespace PrizeDraw

namespace Json

def integer? : Json → Option Int
  | .number n => n.integer?
  | _ => none

def within? (low high : Int) (j : Json) : Option Int :=
  (integer? j).filter fun n => decide (low ≤ n) && decide (n ≤ high)

def u8? (j : Json) : Option UInt8 :=
  (within? 0 (UInt8.size - 1) j).map fun n => UInt8.ofNat n.toNat

def u16? (j : Json) : Option UInt16 :=
  (within? 0 (UInt16.size - 1) j).map fun n => UInt16.ofNat n.toNat

def u32? (j : Json) : Option UInt32 :=
  (within? 0 (UInt32.size - 1) j).map fun n => UInt32.ofNat n.toNat

def u64? (j : Json) : Option UInt64 :=
  (within? 0 (UInt64.size - 1) j).map fun n => UInt64.ofNat n.toNat

def i64? (j : Json) : Option Int64 := (within? Amount.lowest Amount.highest j).map Int64.ofInt

def bool? : Json → Option Bool
  | .bool b => some b
  | _ => none

def text? : Json → Option String
  | .string s => s
  | _ => none

def weight? : Json → Option Weight
  | .number n => n.double?.map Weight.ofFloat
  | _ => none

def list? {α : Type} (decode : Json → Option α) : Json → Option (List α)
  | .array items => items.mapM decode
  | _ => none

def nullable? {α : Type} (decode : Json → Option α) : Json → Option (Option α)
  | .null => some none
  | j => (decode j).map some

def natural? (j : Json) : Option Nat := (within? 0 (UInt64.size - 1) j).map Int.toNat

def member? (j : Json) (name : String) : Option Json :=
  match j with
  | .object members => (members.find? fun member => member.1 == some name).map Prod.snd
  | _ => none

def optionally? {α : Type} (j : Json) (name : String) (decode : Json → Option α) :
    Option (Option α) :=
  nullable? decode ((j.member? name).getD .null)

abbrev Fields := List (String × Json)

namespace Fields

def find? (fields : Fields) (name : String) : Option Json :=
  (List.find? (fun field => field.1 == name) fields).map Prod.snd

def required {α : Type} (fields : Fields) (name : String) (decode : Json → Option α) :
    Option α := do
  decode (← fields.find? name)

def optional {α : Type} (fields : Fields) (name : String) (decode : Json → Option α)
    (default : α) : Option α :=
  match fields.find? name with
  | none => some default
  | some j => decode j

end Fields

def named? (members : List (Option String × Json)) : Option Fields :=
  members.mapM fun (name, value) => name.map (·, value)

def eachOnce (names : List String) (fields : Fields) : Bool :=
  names.all fun name => decide ((fields.filter fun field => field.1 == name).length ≤ 1)

def objectFields? (names : List String) : Json → Option Fields
  | .object members => (named? members).filter (eachOnce names)
  | _ => none

def fields? (names : List String) : Json → Option Fields
  | .array items => if items.length ≤ names.length then some (names.zip items) else none
  | j => objectFields? names j

mutual

def isPlain (depth : Nat) : Json → Bool
  | .null | .bool _ => true
  | .number n => n.double?.isSome
  | .string s => s.isSome
  | .array items =>
      match depth with
      | 0 => false
      | depth + 1 => itemsPlain depth items
  | .object members =>
      match depth with
      | 0 => false
      | depth + 1 => membersPlain depth members

def itemsPlain (depth : Nat) : List Json → Bool
  | [] => true
  | item :: rest => isPlain depth item && itemsPlain depth rest

def membersPlain (depth : Nat) : List (Option String × Json) → Bool
  | [] => true
  | (name, value) :: rest => name.isSome && isPlain depth value && membersPlain depth rest

end

end Json

end PrizeDraw
