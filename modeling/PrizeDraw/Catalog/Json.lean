import PrizeDraw.Catalog
import PrizeDraw.Json.Decode
import PrizeDraw.Json.Reader

namespace PrizeDraw

namespace RewardItem

def fieldNames : List String := ["item_type", "item_id", "quantity"]

def ofJson? (j : Json) : Option RewardItem := do
  let fields ← j.fields? fieldNames
  return {
    itemType := ← fields.required "item_type" Json.u8?
    itemId := ← fields.required "item_id" Json.u16?
    quantity := ← fields.required "quantity" Json.u16? }

end RewardItem

namespace Gacha

def fieldNames : List String :=
  ["id", "min_gr", "min_hr", "name", "url_banner", "url_feature", "url_thumbnail", "wide",
    "recommended", "gacha_type", "hidden"]

def ofJson? (j : Json) : Option Gacha := do
  let fields ← j.fields? fieldNames
  return {
    id := ← fields.required "id" Json.u32?
    minGr := ← fields.optional "min_gr" Json.u32? 0
    minHr := ← fields.optional "min_hr" Json.u32? 0
    name := ← fields.required "name" Json.text?
    urlBanner := ← fields.optional "url_banner" Json.text? ""
    urlFeature := ← fields.optional "url_feature" Json.text? ""
    urlThumbnail := ← fields.optional "url_thumbnail" Json.text? ""
    wide := ← fields.optional "wide" Json.bool? false
    recommended := ← fields.optional "recommended" Json.bool? false
    gachaType := ← fields.optional "gacha_type" Json.u8? 0
    hidden := ← fields.optional "hidden" Json.bool? false }

end Gacha

namespace Trade

def fieldNames : List String := ["id", "item_type", "item_id", "quantity", "fpoints", "buyable"]

def ofJson? (j : Json) : Option Trade := do
  let fields ← j.fields? fieldNames
  return {
    id := ← fields.required "id" Json.u32?
    itemType := ← fields.required "item_type" Json.u8?
    itemId := ← fields.required "item_id" Json.u16?
    quantity := ← fields.required "quantity" Json.u16?
    fpoints := ← fields.required "fpoints" Json.u32?
    buyable := ← fields.optional "buyable" Json.bool? false }

end Trade

namespace Entry

def fieldNames : List String :=
  ["id", "gacha_id", "entry_type", "item_type", "item_number", "item_quantity", "weight",
    "rarity", "rolls", "frontier_points", "daily_limit", "name"]

def ofFields? (fields : Json.Fields) : Option Entry := do
  return {
    id := ← fields.required "id" Json.u32?
    gacha := ← fields.required "gacha_id" Json.u32?
    entryType := ← fields.required "entry_type" Json.u8?
    itemType := ← fields.optional "item_type" Json.u8? 0
    itemNumber := ← fields.optional "item_number" Json.u16? 0
    itemQuantity := ← fields.optional "item_quantity" Json.u16? 0
    weight := ← fields.optional "weight" Json.weight? ⟨0⟩
    rarity := ← fields.optional "rarity" Json.u8? 0
    rolls := ← fields.optional "rolls" Json.u8? 0
    frontierPoints := ← fields.optional "frontier_points" Json.i64? 0
    dailyLimit := ← fields.optional "daily_limit" Json.u16? 0
    name := ← fields.optional "name" (Json.nullable? Json.text?) none }

end Entry

namespace CatalogEntry

def itemsName : String := "items"

/-- Containers that may nest inside a member of an entry: 127 in all, three of them around it. -/
def maxDepth : Nat := 124

def ofJson? (j : Json) : Option CatalogEntry := do
  let fields ← j.objectFields? (itemsName :: Entry.fieldNames)
  let others := fields.filter fun field => field.1 != itemsName
  if others.all fun field => field.2.isPlain maxDepth then
    return {
      entry := ← Entry.ofFields? fields
      items := ← fields.optional itemsName (Json.list? RewardItem.ofJson?) [] }
  else none

end CatalogEntry

namespace Catalog

def fieldNames : List String := ["gachas", "entries", "fpoint_items"]

def ofJson? (j : Json) : Option Catalog := do
  let fields ← j.fields? fieldNames
  return {
    gachas := ← fields.optional "gachas" (Json.list? Gacha.ofJson?) []
    entries := ← fields.optional "entries" (Json.list? CatalogEntry.ofJson?) []
    trades := ← fields.optional "fpoint_items" (Json.list? Trade.ofJson?) [] }

def parse? (text : String) : Option Catalog := do ofJson? (← Json.parse? text)

end Catalog

end PrizeDraw
