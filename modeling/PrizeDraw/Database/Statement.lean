import PrizeDraw.Currency
import PrizeDraw.Database.Schema

namespace PrizeDraw

inductive Value where
  | null
  | int8 (n : Int64)
  | int4 (n : Int32)
  | text (s : String)
  | bool (b : Bool)
  | float8 (w : Weight)
  | bytea (bs : Bytes)
  deriving DecidableEq, Repr, Inhabited

namespace Value

def id (n : UInt32) : Value := .int8 (Int64.ofNat n.toNat)

def u8 (n : UInt8) : Value := .int4 (Int32.ofNat n.toNat)

def u16 (n : UInt16) : Value := .int4 (Int32.ofNat n.toNat)

def ofOption {α : Type} (encode : α → Value) : Option α → Value
  | none => .null
  | some a => encode a

end Value

inductive Statement where
  | start
  | commit
  | rollback
  | createTable (relation : Relation)
  | createIndex (text : String)
  | dropTable (relation : Relation)
  | lockScope (character : CharacterId) (gacha : GachaId)
  | lockCharacter (character : CharacterId)
  | selectGacha (gacha : GachaId)
  | selectGachas
  | selectEntries (gacha : GachaId)
  | selectEntry (gacha : GachaId) (entryType : UInt8)
  | selectPool (gacha : GachaId)
  | selectRewards (entry : EntryId)
  | selectTrade (trade : TradeId)
  | selectBalance (player : Player) (balance : Balance)
  | addBalance (player : Player) (balance : Balance) (delta : Int64)
  | setBalance (player : Player) (balance : Balance) (value : Int64)
  | selectPending (character : CharacterId)
  | updatePending (character : CharacterId) (buffer : Option Bytes)
  | selectStep (gacha : GachaId) (character : CharacterId)
  | deleteStep (gacha : GachaId) (character : CharacterId)
  | insertStep (gacha : GachaId) (character : CharacterId) (step : UInt8)
  | selectDealt (gacha : GachaId) (character : CharacterId)
  | insertDealt (gacha : GachaId) (character : CharacterId) (entry : EntryId)
  | deleteDealt (gacha : GachaId) (character : CharacterId)
  | addPurchase (character : CharacterId) (item : ShopItemId) (count : UInt32)
  | selectPurchase (character : CharacterId) (item : ShopItemId)
  | upsertGacha (gacha : Gacha) (minGr minHr : Int32)
  | upsertEntry (entry : Entry)
  | deleteRewards (entry : EntryId)
  | insertReward (entry : EntryId) (item : RewardItem)
  | upsertTrade (trade : Trade) (fpoints : Int32)
  | insertUser (account : AccountId)
  | insertCharacter (player : Player)
  deriving DecidableEq, Repr

namespace Statement

def list (names : List String) : String := ", ".intercalate names

def gachaColumns : List String :=
  ["id", "min_gr", "min_hr", "name", "url_banner", "url_feature", "url_thumbnail", "wide",
    "recommended", "gacha_type", "hidden"]

def entryColumns : List String :=
  ["id", "gacha_id", "entry_type", "item_type", "item_number", "item_quantity", "weight",
    "rarity", "rolls", "frontier_points", "daily_limit", "name"]

def rewardColumns : List String := ["item_type", "item_id", "quantity"]

def tradeColumns : List String :=
  ["id", "item_type", "item_id", "quantity", "fpoints", "buyable"]

def placeholders (count : Nat) : String :=
  list ((List.range count).map fun n => "$" ++ toString (n + 1))

def insertText (table : String) (columns : List String) : String :=
  s!"INSERT INTO {table} ({list columns}) VALUES ({placeholders columns.length})"

def upsertText (table : String) (columns : List String) : String :=
  let setters := columns.drop 1 |>.map fun column => s!"{column} = EXCLUDED.{column}"
  s!"{insertText table columns} ON CONFLICT (id) DO UPDATE SET {list setters}"

def selectText (columns : List String) (source : String) : String :=
  s!"SELECT {list columns} FROM {source}"

def ownedBy : String := "WHERE gacha_id = $1 AND character_id = $2"

def ignoreConflict : String := " ON CONFLICT (id) DO NOTHING"

def text : Statement → String
  | .start => "BEGIN"
  | .commit => "COMMIT"
  | .rollback => "ROLLBACK"
  | .createTable relation => relation.createText
  | .createIndex text => text
  | .dropTable relation => relation.dropText
  | .lockScope _ _ => "SELECT pg_advisory_xact_lock($1)"
  | .lockCharacter _ => "SELECT id FROM characters WHERE id = $1 FOR UPDATE"
  | .selectGacha _ => selectText gachaColumns "gacha_shop WHERE id = $1"
  | .selectGachas => selectText gachaColumns "gacha_shop ORDER BY id"
  | .selectEntries _ =>
      selectText entryColumns "gacha_entries WHERE gacha_id = $1 ORDER BY entry_type, id"
  | .selectEntry _ _ =>
      selectText entryColumns
        "gacha_entries WHERE gacha_id = $1 AND entry_type = $2 ORDER BY id LIMIT 1"
  | .selectPool _ =>
      selectText entryColumns
        "gacha_entries WHERE gacha_id = $1 AND entry_type = $2 ORDER BY weight DESC, id"
  | .selectRewards _ => selectText rewardColumns "gacha_items WHERE entry_id = $1 ORDER BY id"
  | .selectTrade _ => selectText tradeColumns "fpoint_items WHERE id = $1"
  | .selectBalance _ balance => selectText [balance.column] s!"{balance.scope.table} WHERE id = $1"
  | .addBalance _ balance _ =>
      let column := balance.column
      s!"UPDATE {balance.scope.table} SET {column} = {column} + $1 WHERE id = $2 RETURNING {column}"
  | .setBalance _ balance _ =>
      s!"UPDATE {balance.scope.table} SET {balance.column} = $1 WHERE id = $2"
  | .selectPending _ => "SELECT gacha_items FROM characters WHERE id = $1 FOR UPDATE"
  | .updatePending _ _ => "UPDATE characters SET gacha_items = $1 WHERE id = $2"
  | .selectStep _ _ => s!"SELECT step FROM gacha_stepup {ownedBy}"
  | .deleteStep _ _ => s!"DELETE FROM gacha_stepup {ownedBy}"
  | .insertStep _ _ _ => insertText "gacha_stepup" ["gacha_id", "character_id", "step"]
  | .selectDealt _ _ => s!"SELECT entry_id FROM gacha_box {ownedBy} ORDER BY id"
  | .insertDealt _ _ _ => insertText "gacha_box" ["gacha_id", "entry_id", "character_id"]
  | .deleteDealt _ _ => s!"DELETE FROM gacha_box {ownedBy}"
  | .addPurchase _ _ _ =>
      insertText "shop_items_bought" ["character_id", "shop_item_id", "bought"] ++
        " ON CONFLICT (character_id, shop_item_id)" ++
        " DO UPDATE SET bought = shop_items_bought.bought + EXCLUDED.bought"
  | .selectPurchase _ _ =>
      "SELECT bought FROM shop_items_bought WHERE character_id = $1 AND shop_item_id = $2"
  | .upsertGacha _ _ _ => upsertText "gacha_shop" gachaColumns
  | .upsertEntry _ => upsertText "gacha_entries" entryColumns
  | .deleteRewards _ => "DELETE FROM gacha_items WHERE entry_id = $1"
  | .insertReward _ _ => insertText "gacha_items" ("entry_id" :: rewardColumns)
  | .upsertTrade _ _ => upsertText "fpoint_items" tradeColumns
  | .insertUser _ => insertText "users" ["id"] ++ ignoreConflict
  | .insertCharacter _ => insertText "characters" ["id", "user_id"] ++ ignoreConflict

def scopeKey (character : CharacterId) (gacha : GachaId) : Int64 :=
  (character.toUInt64 <<< 32 ||| gacha.toUInt64).toInt64

def balanceOwner (player : Player) (balance : Balance) : Value :=
  .id (balance.scope.owner player)

def arguments : Statement → List Value
  | .start | .commit | .rollback | .createTable _ | .createIndex _ | .dropTable _
  | .selectGachas => []
  | .lockScope character gacha => [.int8 (scopeKey character gacha)]
  | .lockCharacter character => [.id character]
  | .selectGacha gacha => [.id gacha]
  | .selectEntries gacha => [.id gacha]
  | .selectEntry gacha entryType => [.id gacha, .u8 entryType]
  | .selectPool gacha => [.id gacha, .u8 Entry.poolType]
  | .selectRewards entry => [.id entry]
  | .selectTrade trade => [.id trade]
  | .selectBalance player balance => [balanceOwner player balance]
  | .addBalance player balance delta => [.int8 delta, balanceOwner player balance]
  | .setBalance player balance value => [.int8 value, balanceOwner player balance]
  | .selectPending character => [.id character]
  | .updatePending character buffer => [.ofOption .bytea buffer, .id character]
  | .selectStep gacha character => [.id gacha, .id character]
  | .deleteStep gacha character => [.id gacha, .id character]
  | .insertStep gacha character step => [.id gacha, .id character, .u8 step]
  | .selectDealt gacha character => [.id gacha, .id character]
  | .insertDealt gacha character entry => [.id gacha, .id entry, .id character]
  | .deleteDealt gacha character => [.id gacha, .id character]
  | .addPurchase character item count => [.id character, .id item, .id count]
  | .selectPurchase character item => [.id character, .id item]
  | .upsertGacha gacha minGr minHr =>
      [.id gacha.id, .int4 minGr, .int4 minHr, .text gacha.name, .text gacha.urlBanner,
        .text gacha.urlFeature, .text gacha.urlThumbnail, .bool gacha.wide,
        .bool gacha.recommended, .u8 gacha.gachaType, .bool gacha.hidden]
  | .upsertEntry entry =>
      [.id entry.id, .id entry.gacha, .u8 entry.entryType, .u8 entry.itemType,
        .u16 entry.itemNumber, .u16 entry.itemQuantity, .float8 entry.weight, .u8 entry.rarity,
        .u8 entry.rolls, .int8 entry.frontierPoints, .u16 entry.dailyLimit,
        .ofOption .text entry.name]
  | .deleteRewards entry => [.id entry]
  | .insertReward entry item =>
      [.id entry, .u8 item.itemType, .u16 item.itemId, .u16 item.quantity]
  | .upsertTrade trade fpoints =>
      [.id trade.id, .u8 trade.itemType, .u16 trade.itemId, .u16 trade.quantity, .int4 fpoints,
        .bool trade.buyable]
  | .insertUser account => [.id account]
  | .insertCharacter player => [.id player.character, .id player.account]

end Statement

end PrizeDraw
