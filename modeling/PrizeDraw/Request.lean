import PrizeDraw.Exchange

namespace PrizeDraw

inductive Request where
  | playNormal (gacha : GachaId) (selector : UInt8)
  | playStepup (gacha : GachaId) (selector : UInt8)
  | playBox (gacha : GachaId) (selector : UInt8)
  | boxInfo (gacha : GachaId)
  | resetBox (gacha : GachaId)
  | stepStatus (gacha : GachaId)
  | receive (freeze : Bool)
  | points
  | usePoints (trial premium : UInt32)
  | buy (trade : TradeId) (quantity : UInt16)
  | sell (trade : TradeId) (quantity : UInt16)
  | acquire (purchases : List Purchase)
  | enumerate (hr gr : UInt32)
  deriving DecidableEq, Repr

namespace Request

def name : Request → String
  | .playNormal _ _ => "PlayNormalGacha"
  | .playStepup _ _ => "PlayStepupGacha"
  | .playBox _ _ => "PlayBoxGacha"
  | .boxInfo _ => "GetBoxGachaInfo"
  | .resetBox _ => "ResetBoxGachaInfo"
  | .stepStatus _ => "GetStepupStatus"
  | .receive _ => "ReceiveGachaItem"
  | .points => "GetGachaPoint"
  | .usePoints _ _ => "UseGachaPoint"
  | .buy _ _ => "ExchangeFpoint2Item"
  | .sell _ _ => "ExchangeItem2Fpoint"
  | .acquire _ => "AcquireExchangeShop"
  | .enumerate _ _ => "EnumerateGacha"

end Request

end PrizeDraw
