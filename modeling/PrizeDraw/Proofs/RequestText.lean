import PrizeDraw.Proofs.JsonText
import PrizeDraw.Request.Json

namespace PrizeDraw

namespace Decimal

theorem digit_ne_zero {d : Nat} (hpos : 0 < d) (hlt : d < 10) : digit d ≠ '0' := by
  have all : ∀ d, d < 10 → 0 < d → digit d ≠ '0' := by decide
  exact all d hlt hpos

theorem head?_digits {n : Nat} (h : 0 < n) : (digits n).head? ≠ some '0' := by
  rw [digits]
  split
  · rename_i hlt
    exact fun heq => digit_ne_zero h hlt (Option.some.inj heq)
  · obtain ⟨c, others, hfront⟩ := List.exists_cons_of_ne_nil (digits_ne_nil (n / 10))
    have hc := head?_digits (n := n / 10) (by omega)
    rw [hfront] at hc ⊢
    exact hc

end Decimal

namespace Numeral

theorem isLiteral_ofNat (n : Nat) : (ofNat n).IsLiteral where
  whole := by
    obtain rfl | hpos := Nat.eq_zero_or_pos n
    · left
      rw [ofNat, Decimal.digits, if_pos (by decide)]
      rfl
    · exact .inr ⟨Decimal.isDigits_digits n, Decimal.head?_digits hpos⟩
  fraction := nofun
  exponent := nofun

theorem integer?_ofNat (n : Nat) : (ofNat n).integer? = some (n : Int) := by
  simp [integer?, ofNat, Decimal.value_digits]

end Numeral

namespace Json

theorem writable_ofNat (n : Nat) : Writable (ofNat n) := .number (Numeral.isLiteral_ofNat n)

theorem within?_ofNat {n size : Nat} (h : n < size) :
    within? 0 (size - 1) (ofNat n) = some (n : Int) := by
  have hinteger : integer? (ofNat n) = some (n : Int) := Numeral.integer?_ofNat n
  rw [within?, hinteger, Option.filter_some, if_pos]
  rw [Bool.and_eq_true, decide_eq_true_eq, decide_eq_true_eq]
  omega

theorem u8?_ofNat (v : UInt8) : u8? (ofNat v.toNat) = some v := by
  rw [u8?, within?_ofNat v.toNat_lt_size, Option.map_some, Int.toNat_natCast, UInt8.ofNat_toNat]

theorem u16?_ofNat (v : UInt16) : u16? (ofNat v.toNat) = some v := by
  rw [u16?, within?_ofNat v.toNat_lt_size, Option.map_some, Int.toNat_natCast, UInt16.ofNat_toNat]

theorem u32?_ofNat (v : UInt32) : u32? (ofNat v.toNat) = some v := by
  rw [u32?, within?_ofNat v.toNat_lt_size, Option.map_some, Int.toNat_natCast, UInt32.ofNat_toNat]

theorem list?_map {α : Type} {decode : Json → Option α} {encode : α → Json}
    (h : ∀ a, decode (encode a) = some a) (as : List α) :
    list? decode (.array (as.map encode)) = some as := by
  rw [list?]
  induction as with
  | nil => rfl
  | cons a as ih =>
      rw [List.map_cons, List.mapM_cons, h, ih]
      rfl

theorem named?_map (arguments : List (String × Json)) :
    named? (arguments.map fun (name, value) => (some name, value)) = some arguments := by
  rw [named?]
  induction arguments with
  | nil => rfl
  | cons argument arguments ih =>
      rw [List.map_cons, List.mapM_cons, ih]
      rfl

theorem fields?_ofMembers {names : List String} {arguments : List (String × Json)}
    (h : eachOnce names arguments = true) :
    (ofMembers arguments).fields? names = some arguments := by
  rw [ofMembers, fields?, objectFields?, named?_map, Option.filter_some, if_pos h]
  exact nofun

end Json

namespace Purchase

theorem writable_toJson (purchase : Purchase) : purchase.toJson.Writable :=
  .array (List.forall_mem_cons.mpr ⟨Json.writable_ofNat _,
    List.forall_mem_singleton.mpr (Json.writable_ofNat _)⟩)

theorem ofJson?_toJson (purchase : Purchase) : ofJson? purchase.toJson = some purchase := by
  rw [toJson, ofJson?, Json.u32?_ofNat, Json.u32?_ofNat]
  rfl

end Purchase

namespace Request

open Json (Writable writable_ofNat ofMembers)

theorem writable_named (name : String) {arguments : List (String × Json)}
    (each : ∀ argument ∈ arguments, argument.2.Writable) : (named name arguments).Writable :=
  .object (List.forall_mem_singleton.mpr (.object each))

theorem writable_number (name key : String) (n : Nat) :
    (named name [(key, Json.ofNat n)]).Writable :=
  writable_named name (List.forall_mem_singleton.mpr (writable_ofNat n))

theorem writable_numbers (name key other : String) (m n : Nat) :
    (named name [(key, Json.ofNat m), (other, Json.ofNat n)]).Writable :=
  writable_named name (List.forall_mem_cons.mpr
    ⟨writable_ofNat m, List.forall_mem_singleton.mpr (writable_ofNat n)⟩)

theorem writable_toJson (request : Request) : request.toJson.Writable := by
  cases request with
  | playNormal | playStepup | playBox => exact writable_numbers _ _ _ _ _
  | boxInfo | resetBox | stepStatus => exact writable_number _ _ _
  | receive freeze => exact writable_named _ (List.forall_mem_singleton.mpr (.bool freeze))
  | points => exact .text _
  | usePoints | buy | sell | enumerate => exact writable_numbers _ _ _ _ _
  | acquire purchases =>
      refine writable_named _ (List.forall_mem_singleton.mpr (.array ?_))
      exact List.forall_mem_map.mpr fun purchase _ => purchase.writable_toJson

theorem ofJson?_named (name : String) (arguments : List (String × Json)) :
    ofJson? (named name arguments) = ofNamed? name (ofMembers arguments) := rfl

theorem play?_written (make : GachaId → UInt8 → Request) (gacha : GachaId) (selector : UInt8) :
    play? make (ofMembers [("gacha_id", Json.ofNat gacha.toNat),
      ("roll_type", Json.ofNat selector.toNat)]) = some (make gacha selector) := by
  rw [play?, Json.fields?_ofMembers (by rfl)]
  simp [Json.Fields.required, Json.Fields.find?, Json.u32?_ofNat, Json.u8?_ofNat]

theorem ofGacha?_written (make : GachaId → Request) (gacha : GachaId) :
    ofGacha? make (ofMembers [("gacha_id", Json.ofNat gacha.toNat)]) = some (make gacha) := by
  rw [ofGacha?, Json.fields?_ofMembers (by rfl)]
  simp [Json.Fields.required, Json.Fields.find?, Json.u32?_ofNat]

theorem ofTrade?_written (make : TradeId → UInt16 → Request) (trade : TradeId) (quantity : UInt16) :
    ofTrade? make (ofMembers [("trade_id", Json.ofNat trade.toNat),
      ("quantity", Json.ofNat quantity.toNat)]) = some (make trade quantity) := by
  rw [ofTrade?, Json.fields?_ofMembers (by rfl)]
  simp [Json.Fields.required, Json.Fields.find?, Json.u32?_ofNat, Json.u16?_ofNat]

theorem ofJson?_toJson (request : Request) : ofJson? request.toJson = some request := by
  cases request with
  | playNormal gacha selector => exact play?_written .playNormal gacha selector
  | playStepup gacha selector => exact play?_written .playStepup gacha selector
  | playBox gacha selector => exact play?_written .playBox gacha selector
  | boxInfo gacha => exact ofGacha?_written .boxInfo gacha
  | resetBox gacha => exact ofGacha?_written .resetBox gacha
  | stepStatus gacha => exact ofGacha?_written .stepStatus gacha
  | receive freeze => rfl
  | points => rfl
  | usePoints trial premium =>
      rw [toJson, ofJson?_named, name, ofNamed?, Json.fields?_ofMembers (by rfl)]
      simp [Json.Fields.required, Json.Fields.find?, Json.u32?_ofNat]
  | buy trade quantity => exact ofTrade?_written .buy trade quantity
  | sell trade quantity => exact ofTrade?_written .sell trade quantity
  | acquire purchases =>
      rw [toJson, ofJson?_named, name, ofNamed?, Json.fields?_ofMembers (by rfl)]
      simp [Json.Fields.required, Json.Fields.find?, Json.list?_map Purchase.ofJson?_toJson]
  | enumerate hr gr =>
      rw [toJson, ofJson?_named, name, ofNamed?, Json.fields?_ofMembers (by rfl)]
      simp [Json.Fields.required, Json.Fields.find?, Json.u32?_ofNat]

theorem parse?_render (request : Request) : parse? request.render = some request := by
  rw [parse?, render, Json.parse?_render request.writable_toJson, Option.bind_eq_bind,
    Option.bind_some, ofJson?_toJson]

theorem text_read_back :
    (∀ request : Request, parse? request.render = some request) ∧
    ∀ (text : String) (request : Request), parse? text = some request →
      parse? request.render = some request :=
  ⟨parse?_render, fun _ request _ => parse?_render request⟩

def disguised : String :=
  " \x7b\"PlayBoxGacha\" : \x7b\"roll_type\":255, \"?\" : [-1e3, null],\n" ++
    "\"gacha\\u005fid\":4294967295\x7d \x7d\t"

theorem text_read_back_disguised :
    parse? disguised = some (.playBox 4294967295 255) ∧
      parse? (playBox 4294967295 255).render = some (.playBox 4294967295 255) := by
  have hread : parse? disguised = some (.playBox 4294967295 255) := by decide +kernel
  exact ⟨hread, text_read_back.2 _ _ hread⟩

end Request

end PrizeDraw
