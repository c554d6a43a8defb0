namespace PrizeDraw

inductive ColumnType where
  | int8
  | int4
  | text
  | bool
  | float8
  | bytea
  deriving DecidableEq, Repr

structure Column where
  name : String
  type : ColumnType
  declaration : String
  deriving DecidableEq, Repr

structure Relation where
  name : String
  columns : List Column
  constraints : List String := []
  deriving DecidableEq, Repr

namespace Relation

def items (relation : Relation) : List String :=
  relation.columns.map (fun column => column.name ++ " " ++ column.declaration) ++
    relation.constraints

def creation (relation : Relation) (opening separator closing : String) : String :=
  "CREATE TABLE IF NOT EXISTS " ++ relation.name ++ " (" ++ opening ++
    separator.intercalate relation.items ++ closing ++ ")"

def createText (relation : Relation) : String := relation.creation " " ", " " "

def createLayout (relation : Relation) : String :=
  "\n        " ++
    relation.creation "\n            " ",\n            " "\n        " ++ "\n        "

def dropText (relation : Relation) : String :=
  "DROP TABLE IF EXISTS \"" ++ relation.name ++ "\" CASCADE"

end Relation

namespace Schema

def bigint (name rule : String) : Column := ⟨name, .int8, "BIGINT" ++ rule⟩

def serial (name rule : String) : Column := ⟨name, .int8, "BIGSERIAL" ++ rule⟩

def integer (name rule : String) : Column := ⟨name, .int4, "INTEGER" ++ rule⟩

def text (name rule : String) : Column := ⟨name, .text, "TEXT" ++ rule⟩

def boolean (name rule : String) : Column := ⟨name, .bool, "BOOLEAN" ++ rule⟩

def double (name rule : String) : Column := ⟨name, .float8, "DOUBLE PRECISION" ++ rule⟩

def bytes (name rule : String) : Column := ⟨name, .bytea, "BYTEA" ++ rule⟩

def key : String := " PRIMARY KEY"

def needed : String := " NOT NULL"

def zero : String := " NOT NULL DEFAULT 0"

def blank : String := " NOT NULL DEFAULT ''"

def no : String := " NOT NULL DEFAULT FALSE"

def parent (table : String) : String :=
  " NOT NULL REFERENCES " ++ table ++ "(id) ON DELETE CASCADE"

def users : Relation where
  name := "users"
  columns :=
    [bigint "id" key, bigint "frontier_points" zero, bigint "gacha_premium" zero,
      bigint "gacha_trial" zero]

def characters : Relation where
  name := "characters"
  columns :=
    [bigint "id" key, bigint "user_id" (parent "users"), bytes "gacha_items" "",
      bigint "netcafe_points" zero, bigint "guild_points" zero, bigint "bond_points" zero,
      bigint "image_change_points" zero]

def gachaShop : Relation where
  name := "gacha_shop"
  columns :=
    [bigint "id" key, integer "min_gr" zero, integer "min_hr" zero, text "name" blank,
      text "url_banner" blank, text "url_feature" blank, text "url_thumbnail" blank,
      boolean "wide" no, boolean "recommended" no, integer "gacha_type" zero,
      boolean "hidden" no]

def gachaEntries : Relation where
  name := "gacha_entries"
  columns :=
    [bigint "id" key, bigint "gacha_id" (parent "gacha_shop"), integer "entry_type" needed,
      integer "item_type" zero, integer "item_number" zero, integer "item_quantity" zero,
      double "weight" (zero ++ " CHECK (weight >= 0)"), integer "rarity" zero,
      integer "rolls" zero, bigint "frontier_points" zero, integer "daily_limit" zero,
      text "name" ""]

def gachaItems : Relation where
  name := "gacha_items"
  columns :=
    [serial "id" key, bigint "entry_id" (parent "gacha_entries"), integer "item_type" needed,
      integer "item_id" needed, integer "quantity" needed]

def gachaStepup : Relation where
  name := "gacha_stepup"
  columns := [bigint "gacha_id" needed, bigint "character_id" needed, integer "step" needed]
  constraints := ["UNIQUE (gacha_id, character_id)"]

def gachaBox : Relation where
  name := "gacha_box"
  columns :=
    [serial "id" key, bigint "gacha_id" needed, bigint "entry_id" needed,
      bigint "character_id" needed]

def fpointItems : Relation where
  name := "fpoint_items"
  columns :=
    [bigint "id" key, integer "item_type" needed, integer "item_id" needed,
      integer "quantity" needed, integer "fpoints" needed, boolean "buyable" no]

def shopItemsBought : Relation where
  name := "shop_items_bought"
  columns :=
    [bigint "character_id" needed, bigint "shop_item_id" needed, bigint "bought" zero]
  constraints := ["UNIQUE (character_id, shop_item_id)"]

def relations : List Relation :=
  [users, characters, gachaShop, gachaEntries, gachaItems, gachaStepup, gachaBox, fpointItems,
    shopItemsBought]

def indexes : List String :=
  ["CREATE INDEX IF NOT EXISTS gacha_entries_gacha_type_idx ON gacha_entries (gacha_id, entry_type)",
    "CREATE INDEX IF NOT EXISTS gacha_items_entry_idx ON gacha_items (entry_id)",
    "CREATE INDEX IF NOT EXISTS gacha_box_owner_idx ON gacha_box (gacha_id, character_id)",
    "CREATE INDEX IF NOT EXISTS characters_user_idx ON characters (user_id)"]

def columnType? (name : String) : Option ColumnType :=
  ((relations.flatMap Relation.columns).find? fun column => column.name == name).map Column.type

end Schema

end PrizeDraw
