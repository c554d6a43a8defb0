import PrizeDraw.Database.Script

namespace PrizeDraw

def ColumnType.ofName? : String → Option ColumnType
  | "int8" => some .int8
  | "int4" => some .int4
  | "text" => some .text
  | "bool" => some .bool
  | "float8" => some .float8
  | "bytea" => some .bytea
  | _ => none

def ScriptArgument.ofMembers? (j : Json) : Option ScriptArgument :=
  match j.member? "bits" with
  | some digits => do return .bits ⟨UInt64.ofNat (← Hex.value? (← digits.text?).toList)⟩
  | none => do return .bytes (← Hex.ofString? (← (← j.member? "hex").text?))

def ScriptArgument.ofJson? : Json → Option ScriptArgument
  | .null => some .null
  | .bool b => some (.bool b)
  | .string s => s.map .text
  | .number n => n.integer?.map .int
  | j => ofMembers? j

def ScriptReply.ofJson? (j : Json) : Option ScriptReply := do
  let close := (← j.optionally? "close" Json.bool?).getD false
  if close then return .close
  match ← j.optionally? "error" some with
  | some fault => return .error (← (← fault.member? "message").text?)
  | none =>
      let rows := (← j.optionally? "rows" (Json.list? (Json.list? some))).getD []
      return .rows rows (← j.optionally? "affected" Json.natural?)

def ScriptRule.ofJson? (j : Json) : Option ScriptRule := do
  return {
    pattern := ← (← j.member? "sql").text?
    arguments := (← j.optionally? "args" (Json.list? ScriptArgument.ofJson?)).getD []
    left := ← j.optionally? "times" Json.natural?
    reply := ← ScriptReply.ofJson? j }

namespace Script

def column? : Json → Option (String × ColumnType)
  | .array [name, type] => do return (← name.text?, ← ColumnType.ofName? (← type.text?))
  | _ => none

def columns? : Json → Option (String × List (String × ColumnType))
  | .array [pattern, columns] => do return (← pattern.text?, ← Json.list? column? columns)
  | _ => none

def ofJson? (j : Json) : Option Script := do
  return {
    rules := (← j.optionally? "db" (Json.list? ScriptRule.ofJson?)).getD []
    columns := (← j.optionally? "columns" (Json.list? columns?)).getD []
    accepting := (← j.optionally? "startup" some).isNone }

end Script

end PrizeDraw
