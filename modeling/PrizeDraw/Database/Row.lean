import PrizeDraw.Database.Statement
import PrizeDraw.Fault

namespace PrizeDraw

class Narrow (τ : Type) where
  ofInt? : Int → Option τ

namespace Narrow

instance : Narrow UInt8 where
  ofInt? n := if 0 ≤ n ∧ n < UInt8.size then some (UInt8.ofNat n.toNat) else none

instance : Narrow UInt16 where
  ofInt? n := if 0 ≤ n ∧ n < UInt16.size then some (UInt16.ofNat n.toNat) else none

instance : Narrow UInt32 where
  ofInt? n := if 0 ≤ n ∧ n < UInt32.size then some (UInt32.ofNat n.toNat) else none

instance : Narrow UInt64 where
  ofInt? n := if 0 ≤ n ∧ n < UInt64.size then some (UInt64.ofNat n.toNat) else none

instance : Narrow Int32 where
  ofInt? n := if -2147483648 ≤ n ∧ n ≤ 2147483647 then some (Int32.ofInt n) else none

def narrow {τ : Type} [Narrow τ] (column : String) (value : Int64) : Except StoreFault τ :=
  match Narrow.ofInt? value.toInt with
  | some narrowed => .ok narrowed
  | none => .error (.outOfRange column value)

end Narrow

class Cell (τ : Type) where
  ofValue? : Value → Option τ

namespace Cell

instance : Cell Int64 where
  ofValue?
    | .int8 n => some n
    | _ => none

instance : Cell Int32 where
  ofValue?
    | .int4 n => some n
    | _ => none

instance : Cell String where
  ofValue?
    | .text s => some s
    | _ => none

instance : Cell Bool where
  ofValue?
    | .bool b => some b
    | _ => none

instance : Cell Weight where
  ofValue?
    | .float8 w => some w
    | _ => none

instance : Cell Bytes where
  ofValue?
    | .bytea bs => some bs
    | _ => none

instance {τ : Type} [Cell τ] : Cell (Option τ) where
  ofValue?
    | .null => some none
    | value => (ofValue? value).map some

end Cell

abbrev Row := List (String × Value)

namespace Row

def value (row : Row) (column : String) : Except StoreFault Value :=
  match row.reverse.lookup column with
  | some value => .ok value
  | none => .error (.columnNotFound column)

def convert {τ : Type} [Cell τ] (column : String) (value : Value) : Except StoreFault τ :=
  match Cell.ofValue? value with
  | some cell => .ok cell
  | none => .error (.columnDecode column)

def cell {τ : Type} [Cell τ] (row : Row) (column : String) : Except StoreFault τ := do
  convert column (← row.value column)

def bigint {τ : Type} [Narrow τ] (row : Row) (column : String) : Except StoreFault τ := do
  Narrow.narrow column (← row.cell column)

def int {τ : Type} [Narrow τ] (row : Row) (column : String) : Except StoreFault τ := do
  let n : Int32 ← row.cell column
  Narrow.narrow column n.toInt64

def first {τ : Type} [Cell τ] : Row → Except StoreFault τ
  | [] => .error .connection
  | (column, value) :: _ => convert column value

end Row

namespace Gacha

def ofRow (row : Row) : Except StoreFault Gacha := do
  return {
    id := ← row.bigint "id"
    minGr := ← row.int "min_gr"
    minHr := ← row.int "min_hr"
    name := ← row.cell "name"
    urlBanner := ← row.cell "url_banner"
    urlFeature := ← row.cell "url_feature"
    urlThumbnail := ← row.cell "url_thumbnail"
    wide := ← row.cell "wide"
    recommended := ← row.cell "recommended"
    gachaType := ← row.int "gacha_type"
    hidden := ← row.cell "hidden" }

end Gacha

namespace Entry

def ofRow (row : Row) : Except StoreFault Entry := do
  return {
    id := ← row.bigint "id"
    gacha := ← row.bigint "gacha_id"
    entryType := ← row.int "entry_type"
    itemType := ← row.int "item_type"
    itemNumber := ← row.int "item_number"
    itemQuantity := ← row.int "item_quantity"
    weight := ← row.cell "weight"
    rarity := ← row.int "rarity"
    rolls := ← row.int "rolls"
    frontierPoints := ← row.cell "frontier_points"
    dailyLimit := ← row.int "daily_limit"
    name := ← row.cell "name" }

end Entry

namespace RewardItem

def ofRow (row : Row) : Except StoreFault RewardItem := do
  return {
    itemType := ← row.int "item_type"
    itemId := ← row.int "item_id"
    quantity := ← row.int "quantity" }

end RewardItem

namespace Trade

def ofRow (row : Row) : Except StoreFault Trade := do
  return {
    id := ← row.bigint "id"
    itemType := ← row.int "item_type"
    itemId := ← row.int "item_id"
    quantity := ← row.int "quantity"
    fpoints := ← row.int "fpoints"
    buyable := ← row.cell "buyable" }

end Trade

end PrizeDraw
