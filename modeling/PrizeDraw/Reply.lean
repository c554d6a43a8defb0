import PrizeDraw.Machine
import PrizeDraw.Wire.Text

namespace PrizeDraw

namespace Reply

def count8 (count : Nat) : Except Fault Bytes :=
  if count < 256 then .ok [UInt8.ofNat count] else .error (.inventoryOverflow count)

def count16 (count : Nat) : Except Fault Bytes :=
  if count < 65536 then .ok (Wire.u16 (UInt16.ofNat count))
  else .error (.inventoryOverflow count)

def wireAmount (amount : Int64) : UInt32 := Amount.clampU32 amount.toInt

def drawnItems (items : List DrawnItem) : Bytes := items.flatMap DrawnItem.encode

def normalPlay (items : List DrawnItem) : Except Fault Bytes :=
  return (← count8 items.length) ++ drawnItems items

def stepupPlay (guaranteed random : List DrawnItem) : Except Fault Bytes :=
  return (← count8 (guaranteed.length + random.length)) ++ (← count8 random.length) ++
    drawnItems guaranteed ++ drawnItems random

def boxPlay (items : List DrawnItem) : Except Fault Bytes := normalPlay items

def boxEntry (status : BoxStatus) : Bytes := Wire.u32 status.entry ++ Wire.flag status.exhausted

def boxStatus (status : List BoxStatus) : Except Fault Bytes :=
  return (← count8 status.length) ++ status.flatMap boxEntry

def stepStatus (status : StepStatus) : Bytes := status.step :: Wire.u32 status.serverTime

def points (points : Points) : Bytes :=
  Wire.u32 (wireAmount points.frontierPoints) ++ Wire.u32 (wireAmount points.premium) ++
    Wire.u32 (wireAmount points.trial)

def balance (amount : Int64) : Bytes := Wire.u32 (wireAmount amount)

def listedEntry (entry : ListedEntry) : Except Fault Bytes :=
  return [entry.entryType, entry.itemType] ++ Wire.u16 entry.itemNumber ++
    Wire.u16 entry.itemQuantity ++ [entry.rolls] ++ Wire.u32 (wireAmount entry.frontierPoints) ++
    Wire.u16 entry.dailyLimit ++ Wire.text (entry.name.getD "") ++
    (← count8 entry.items.length) ++ entry.items.flatMap RewardItem.encode

def gachaHead (gacha : Gacha) : Bytes :=
  Wire.u32 gacha.id ++ Wire.u32 gacha.minGr ++ Wire.u32 gacha.minHr ++ [gacha.gachaType] ++
    Wire.flag gacha.wide ++ Wire.flag gacha.recommended ++ Wire.text gacha.name ++
    Wire.text gacha.urlBanner ++ Wire.text gacha.urlFeature ++ Wire.text gacha.urlThumbnail

def gachaListing (listing : GachaListing) : Except Fault Bytes :=
  return gachaHead listing.gacha ++ (← count8 listing.entries.length) ++
    (← listing.entries.mapM listedEntry).flatten

def listing (listings : List GachaListing) : Except Fault Bytes :=
  return (← count16 listings.length) ++ (← listings.mapM gachaListing).flatten

end Reply

end PrizeDraw
