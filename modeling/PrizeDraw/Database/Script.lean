import PrizeDraw.Database.Client
import PrizeDraw.Json.Decode
import PrizeDraw.Text.Hex

namespace PrizeDraw

def Weight.ofNotation? : Json → Option Weight
  | .string (some "nan") => some ⟨0x7ff8000000000000⟩
  | .string (some "-nan") => some ⟨0xfff8000000000000⟩
  | .string (some "inf") => some ⟨Weight.infinityBits⟩
  | .string (some "-inf") => some ⟨Weight.infinityBits ||| Weight.signBit⟩
  | .string (some text) =>
      match text.toList with
      | '0' :: 'x' :: ds => (Hex.value? ds).map fun n => ⟨UInt64.ofNat n⟩
      | _ => none
  | j => j.weight?

inductive ScriptArgument where
  | null
  | int (n : Int)
  | bool (b : Bool)
  | text (s : String)
  | bits (w : Weight)
  | bytes (bs : Bytes)
  deriving DecidableEq, Repr

def Value.scriptArgument : Value → ScriptArgument
  | .null => .null
  | .int8 n => .int n.toInt
  | .int4 n => .int n.toInt
  | .text s => .text s
  | .bool b => .bool b
  | .float8 w => .bits w
  | .bytea bs => .bytes bs

inductive ScriptReply where
  | rows (rows : List (List Json)) (affected : Option Nat)
  | error (message : String)
  | close

structure ScriptRule where
  pattern : String
  arguments : List ScriptArgument := []
  left : Option Nat := none
  reply : ScriptReply

structure Script where
  rules : List ScriptRule
  columns : List (String × List (String × ColumnType)) := []
  accepting : Bool := true

namespace Script

def occursIn (pattern : List Char) : List Char → Bool
  | [] => pattern.isEmpty
  | c :: rest => pattern.isPrefixOf (c :: rest) || occursIn pattern rest

def mentions (text pattern : String) : Bool := occursIn pattern.toList text.toList

def after? (mark : String) (text : String) : Option String :=
  match text.splitOn mark with
  | _ :: part :: parts => some (mark.intercalate (part :: parts))
  | _ => none

def before? (mark : String) (text : String) : Option String :=
  match text.splitOn mark with
  | part :: _ :: _ => some part
  | _ => none

def listedNames (text : String) : List String :=
  match (after? "SELECT " text).bind (before? " FROM ") with
  | some names => names.splitOn ", "
  | none =>
      match after? " RETURNING " text with
      | some names => names.splitOn ", "
      | none => []

def columnsOf (script : Script) (text : String) : List (String × ColumnType) :=
  match script.columns.find? fun entry => mentions text entry.1 with
  | some (_, columns) => columns
  | none => (listedNames text).map fun name => (name, (Schema.columnType? name).getD .text)

def cell (type : ColumnType) (j : Json) : Value :=
  match j with
  | .null => .null
  | j =>
      match type with
      | .int8 => .int8 (j.i64?.getD 0)
      | .int4 => .int4 (((j.within? (-2147483648) 2147483647).map Int32.ofInt).getD 0)
      | .text => .text (j.text?.getD "")
      | .bool => .bool (j.bool?.getD false)
      | .float8 => .float8 ((Weight.ofNotation? j).getD ⟨0⟩)
      | .bytea => .bytea ((j.text?.bind Hex.ofString?).getD [])

def row (columns : List (String × ColumnType)) (cells : List Json) : Row :=
  (columns.zip cells).map fun (column, j) => (column.1, cell column.2 j)

def ScriptRule.fits (rule : ScriptRule) (text : String) (arguments : List ScriptArgument) : Bool :=
  rule.left != some 0 && mentions text rule.pattern && rule.arguments.isPrefixOf arguments

def use (text : String) (arguments : List ScriptArgument) :
    List ScriptRule → Option ScriptReply × List ScriptRule
  | [] => (none, [])
  | rule :: rules =>
      if ScriptRule.fits rule text arguments then
        (some rule.reply, { rule with left := rule.left.map (· - 1) } :: rules)
      else
        let (reply, rules) := use text arguments rules
        (reply, rule :: rules)

def answer (statement : Statement) (script : Script) : Response × Script :=
  let text := statement.text
  let (reply, rules) := use text (statement.arguments.map Value.scriptArgument) script.rules
  let response :=
    match reply with
    | none => .answered {}
    | some (.rows rows affected) =>
        .answered {
          rows := rows.map (row (script.columnsOf text))
          affected := affected.getD rows.length }
    | some (.error message) => .failed message
    | some .close => .cut
  (response, { script with rules })

instance : Database Script where
  accepts := Script.accepting
  answer := answer

end Script

end PrizeDraw
