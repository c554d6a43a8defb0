import PrizeDraw.Catalog

namespace PrizeDraw

inductive BalanceScope where
  | account
  | character
  deriving DecidableEq, Repr

inductive Balance where
  | frontierPoints
  | gachaPremium
  | gachaTrial
  | netcafePoints
  | guildPoints
  | bondPoints
  | imageChangePoints
  deriving DecidableEq, Repr

namespace Balance

def all : List Balance :=
  [.frontierPoints, .gachaPremium, .gachaTrial, .netcafePoints, .guildPoints, .bondPoints,
    .imageChangePoints]

def scope : Balance → BalanceScope
  | .frontierPoints | .gachaPremium | .gachaTrial => .account
  | .netcafePoints | .guildPoints | .bondPoints | .imageChangePoints => .character

def column : Balance → String
  | .frontierPoints => "frontier_points"
  | .gachaPremium => "gacha_premium"
  | .gachaTrial => "gacha_trial"
  | .netcafePoints => "netcafe_points"
  | .guildPoints => "guild_points"
  | .bondPoints => "bond_points"
  | .imageChangePoints => "image_change_points"

end Balance

namespace BalanceScope

def table : BalanceScope → String
  | .account => "users"
  | .character => "characters"

def owner : BalanceScope → Player → UInt32
  | .account, player => player.account
  | .character, player => player.character

end BalanceScope

inductive Currency where
  | netcafePoints
  | trialCoin
  | premiumCoin
  | frontierPoints
  | guildPoints
  | bondPoints
  | imageChangePoints
  deriving DecidableEq, Repr

inductive DebitRule where
  | direct (balance : Balance)
  | coins
  deriving DecidableEq, Repr

namespace Currency

def ofItemType (code : UInt8) : Option Currency :=
  if code = 17 then some .netcafePoints
  else if code = 18 then some .guildPoints
  else if code = 19 then some .trialCoin
  else if code = 20 then some .premiumCoin
  else if code = 21 then some .frontierPoints
  else if code = 22 then some .bondPoints
  else if code = 23 then some .imageChangePoints
  else none

def itemType : Currency → UInt8
  | .netcafePoints => 17
  | .guildPoints => 18
  | .trialCoin => 19
  | .premiumCoin => 20
  | .frontierPoints => 21
  | .bondPoints => 22
  | .imageChangePoints => 23

def debitRule : Currency → DebitRule
  | .trialCoin | .premiumCoin => .coins
  | .netcafePoints => .direct .netcafePoints
  | .frontierPoints => .direct .frontierPoints
  | .guildPoints => .direct .guildPoints
  | .bondPoints => .direct .bondPoints
  | .imageChangePoints => .direct .imageChangePoints

def creditTarget : Currency → Balance
  | .trialCoin => .gachaTrial
  | .premiumCoin => .gachaPremium
  | .netcafePoints => .netcafePoints
  | .frontierPoints => .frontierPoints
  | .guildPoints => .guildPoints
  | .bondPoints => .bondPoints
  | .imageChangePoints => .imageChangePoints

end Currency

structure Debit where
  balance : Balance
  amount : Int64
  newBalance : Int64
  deriving DecidableEq, Repr

structure Points where
  frontierPoints : Int64
  premium : Int64
  trial : Int64
  deriving DecidableEq, Repr, Inhabited

end PrizeDraw
