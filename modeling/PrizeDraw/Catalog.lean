import PrizeDraw.Reward
import PrizeDraw.Weight

namespace PrizeDraw

abbrev AccountId := UInt32
abbrev CharacterId := UInt32
abbrev GachaId := UInt32
abbrev EntryId := UInt32
abbrev TradeId := UInt32
abbrev ShopItemId := UInt32

structure Player where
  account : AccountId
  character : CharacterId
  deriving DecidableEq, Repr, Inhabited

inductive GachaKind where
  | normal
  | stepUp
  | box
  deriving DecidableEq, Repr

namespace GachaKind

def ofCode (code : UInt8) : GachaKind :=
  if code < 2 then .normal else if code < 4 then .stepUp else .box

def code : GachaKind → UInt8
  | .normal => 0
  | .stepUp => 2
  | .box => 4

end GachaKind

structure Gacha where
  id : GachaId
  minGr : UInt32 := 0
  minHr : UInt32 := 0
  name : String
  urlBanner : String := ""
  urlFeature : String := ""
  urlThumbnail : String := ""
  wide : Bool := false
  recommended : Bool := false
  gachaType : UInt8 := 0
  hidden : Bool := false
  deriving DecidableEq, Repr, Inhabited

namespace Gacha

def kind (gacha : Gacha) : GachaKind := GachaKind.ofCode gacha.gachaType

def isVisibleTo (gacha : Gacha) (hr gr : UInt32) : Bool :=
  !gacha.hidden && decide (gacha.minHr ≤ hr) && decide (gacha.minGr ≤ gr)

end Gacha

structure Entry where
  id : EntryId
  gacha : GachaId
  entryType : UInt8
  itemType : UInt8 := 0
  itemNumber : UInt16 := 0
  itemQuantity : UInt16 := 0
  weight : Weight := ⟨0⟩
  rarity : UInt8 := 0
  rolls : UInt8 := 0
  frontierPoints : Int64 := 0
  dailyLimit : UInt16 := 0
  name : Option String := none
  deriving DecidableEq, Repr, Inhabited

namespace Entry

def poolType : UInt8 := 100

def namedTypeLimit : UInt8 := 10

def inPool (entry : Entry) : Bool := entry.entryType == poolType

def isProgression (entry : Entry) : Bool := decide (entry.entryType < poolType)

def displayName (entry : Entry) : Option String :=
  if entry.entryType < namedTypeLimit then entry.name else none

end Entry

structure Trade where
  id : TradeId
  itemType : UInt8
  itemId : UInt16
  quantity : UInt16
  fpoints : UInt32
  buyable : Bool := false
  deriving DecidableEq, Repr, Inhabited

structure CatalogEntry where
  entry : Entry
  items : List RewardItem := []
  deriving DecidableEq, Repr, Inhabited

structure Catalog where
  gachas : List Gacha := []
  entries : List CatalogEntry := []
  trades : List Trade := []
  deriving DecidableEq, Repr, Inhabited

structure ListedEntry where
  entryType : UInt8
  itemType : UInt8
  itemNumber : UInt16
  itemQuantity : UInt16
  rolls : UInt8
  frontierPoints : Int64
  dailyLimit : UInt16
  name : Option String
  items : List RewardItem
  deriving DecidableEq, Repr, Inhabited

structure GachaListing where
  gacha : Gacha
  entries : List ListedEntry
  deriving DecidableEq, Repr, Inhabited

namespace ListedEntry

def ofEntry (entry : Entry) (items : List RewardItem) : ListedEntry where
  entryType := entry.entryType
  itemType := entry.itemType
  itemNumber := entry.itemNumber
  itemQuantity := entry.itemQuantity
  rolls := entry.rolls
  frontierPoints := entry.frontierPoints
  dailyLimit := entry.dailyLimit
  name := entry.displayName
  items := items

end ListedEntry

end PrizeDraw
