import PrizeDraw.Json.Decode
import PrizeDraw.Json.Printer
import PrizeDraw.Json.Reader
import PrizeDraw.Request

namespace PrizeDraw

namespace Purchase

def toJson (purchase : Purchase) : Json :=
  .array [Json.ofNat purchase.item.toNat, Json.ofNat purchase.count.toNat]

def ofJson? : Json → Option Purchase
  | .array [item, count] => do return { item := ← item.u32?, count := ← count.u32? }
  | _ => none

end Purchase

namespace Request

def named (name : String) (arguments : List (String × Json)) : Json :=
  Json.ofMembers [(name, Json.ofMembers arguments)]

def toJson (request : Request) : Json :=
  match request with
  | .playNormal gacha selector | .playStepup gacha selector | .playBox gacha selector =>
      named request.name
        [("gacha_id", Json.ofNat gacha.toNat), ("roll_type", Json.ofNat selector.toNat)]
  | .boxInfo gacha | .resetBox gacha | .stepStatus gacha =>
      named request.name [("gacha_id", Json.ofNat gacha.toNat)]
  | .receive freeze => named request.name [("freeze", .bool freeze)]
  | .points => Json.text request.name
  | .usePoints trial premium =>
      named request.name
        [("trial_coins", Json.ofNat trial.toNat), ("premium_coins", Json.ofNat premium.toNat)]
  | .buy trade quantity | .sell trade quantity =>
      named request.name
        [("trade_id", Json.ofNat trade.toNat), ("quantity", Json.ofNat quantity.toNat)]
  | .acquire purchases =>
      named request.name [("purchases", .array (purchases.map Purchase.toJson))]
  | .enumerate hr gr =>
      named request.name [("hr", Json.ofNat hr.toNat), ("gr", Json.ofNat gr.toNat)]

def play? (make : GachaId → UInt8 → Request) (arguments : Json) : Option Request := do
  let fields ← arguments.fields? ["gacha_id", "roll_type"]
  return make (← fields.required "gacha_id" Json.u32?) (← fields.required "roll_type" Json.u8?)

def ofGacha? (make : GachaId → Request) (arguments : Json) : Option Request := do
  let fields ← arguments.fields? ["gacha_id"]
  return make (← fields.required "gacha_id" Json.u32?)

def ofTrade? (make : TradeId → UInt16 → Request) (arguments : Json) : Option Request := do
  let fields ← arguments.fields? ["trade_id", "quantity"]
  return make (← fields.required "trade_id" Json.u32?) (← fields.required "quantity" Json.u16?)

def ofNamed? (name : String) (arguments : Json) : Option Request :=
  match name with
  | "PlayNormalGacha" => play? .playNormal arguments
  | "PlayStepupGacha" => play? .playStepup arguments
  | "PlayBoxGacha" => play? .playBox arguments
  | "GetBoxGachaInfo" => ofGacha? .boxInfo arguments
  | "ResetBoxGachaInfo" => ofGacha? .resetBox arguments
  | "GetStepupStatus" => ofGacha? .stepStatus arguments
  | "ReceiveGachaItem" => do
      let fields ← arguments.fields? ["freeze"]
      return .receive (← fields.required "freeze" Json.bool?)
  | "GetGachaPoint" =>
      match arguments with
      | .null => some .points
      | _ => none
  | "UseGachaPoint" => do
      let fields ← arguments.fields? ["trial_coins", "premium_coins"]
      return .usePoints (← fields.required "trial_coins" Json.u32?)
        (← fields.required "premium_coins" Json.u32?)
  | "ExchangeFpoint2Item" => ofTrade? .buy arguments
  | "ExchangeItem2Fpoint" => ofTrade? .sell arguments
  | "AcquireExchangeShop" => do
      let fields ← arguments.fields? ["purchases"]
      return .acquire (← fields.required "purchases" (Json.list? Purchase.ofJson?))
  | "EnumerateGacha" => do
      let fields ← arguments.fields? ["hr", "gr"]
      return .enumerate (← fields.required "hr" Json.u32?) (← fields.required "gr" Json.u32?)
  | _ => none

def ofJson? : Json → Option Request
  | .object [(some name, arguments)] => ofNamed? name arguments
  | .string (some name) => if name = Request.points.name then some .points else none
  | _ => none

def parse? (text : String) : Option Request := do ofJson? (← Json.parse? text)

def render (request : Request) : String := request.toJson.render

end Request

end PrizeDraw
