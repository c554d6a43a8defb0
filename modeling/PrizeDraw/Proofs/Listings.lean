import Mathlib.Data.List.Forall2
import PrizeDraw.Proofs.Reading

namespace PrizeDraw

namespace Wire

structure Cut (text : String) (bytes : Bytes) : Prop where
  leading : ∃ kept : String, kept.toList <+: text.toList ∧ kept.toUTF8 = bytes.toByteArray
  fits : bytes.length ≤ 255
  longest : ∀ other : String, other.toList <+: text.toList → other.utf8ByteSize ≤ 255 →
    other.utf8ByteSize ≤ bytes.length

theorem length_utf8_toList (text : String) : (utf8 text.toList).length = text.utf8ByteSize := by
  have hencoded := List.size_toByteArray (l := utf8 text.toList)
  rw [← hencoded, ← String.size_toByteArray]
  conv => rhs; rw [← text.ofList_toList, String.toByteArray_ofList]
  rfl

theorem clip_leading (room : Nat) (chars : List Char) : clip room chars <+: chars := by
  induction chars generalizing room with
  | nil => exact List.prefix_refl []
  | cons c rest ih =>
      rw [clip]
      split
      · exact (List.prefix_cons_inj c).mpr (ih _)
      · exact List.nil_prefix

theorem length_utf8_le_clip {room : Nat} {chars kept : List Char} (hkept : kept <+: chars)
    (hfits : (utf8 kept).length ≤ room) :
    (utf8 kept).length ≤ (utf8 (clip room chars)).length := by
  induction chars generalizing room kept with
  | nil =>
      rw [List.prefix_nil.mp hkept]
      exact Nat.zero_le _
  | cons c rest ih =>
      obtain rfl | ⟨others, rfl, hothers⟩ := List.prefix_cons_iff.mp hkept
      · exact Nat.zero_le _
      · rw [length_utf8_cons] at hfits
        have hroom : c.utf8Size ≤ room := by omega
        have hrest : (utf8 others).length ≤ (utf8 (clip (room - c.utf8Size) rest)).length :=
          ih hothers (by omega)
        rw [clip, if_pos hroom, length_utf8_cons, length_utf8_cons]
        omega

theorem cut_textBody (text : String) : Cut text (textBody text) where
  leading := by
    refine ⟨String.ofList (clip maxTextBytes text.toList), ?_, ?_⟩
    · rw [String.toList_ofList]
      exact clip_leading _ _
    · exact String.toByteArray_ofList
  fits := length_utf8_clip_le _ _
  longest := by
    intro other hother hfits
    rw [← length_utf8_toList] at hfits ⊢
    exact length_utf8_le_clip hother hfits

example : (utf8 (clip 255 (List.replicate 200 'é'))).length = 254 := by decide +kernel

end Wire

namespace Reply

structure TellsEntry (entry : ListedEntry) (told : WireEntry) : Prop where
  entryType : told.entryType = entry.entryType
  itemType : told.itemType = entry.itemType
  itemNumber : told.itemNumber = entry.itemNumber
  itemQuantity : told.itemQuantity = entry.itemQuantity
  rolls : told.rolls = entry.rolls
  frontierPoints : (told.frontierPoints.toNat : Int) =
    max 0 (min entry.frontierPoints.toInt 4294967295)
  dailyLimit : told.dailyLimit = entry.dailyLimit
  name : match entry.name with
    | some name => Wire.Cut name told.name
    | none => told.name = []
  items : told.items = entry.items

structure Tells (listing : GachaListing) (told : WireGacha) : Prop where
  id : told.id = listing.gacha.id
  minGr : told.minGr = listing.gacha.minGr
  minHr : told.minHr = listing.gacha.minHr
  gachaType : told.gachaType = listing.gacha.gachaType
  wide : told.wide = listing.gacha.wide
  recommended : told.recommended = listing.gacha.recommended
  name : Wire.Cut listing.gacha.name told.name
  urlBanner : Wire.Cut listing.gacha.urlBanner told.urlBanner
  urlFeature : Wire.Cut listing.gacha.urlFeature told.urlFeature
  urlThumbnail : Wire.Cut listing.gacha.urlThumbnail told.urlThumbnail
  entries : List.Forall₂ TellsEntry listing.entries told.entries

theorem toNat_wireAmount (amount : Int64) :
    ((wireAmount amount).toNat : Int) = max 0 (min amount.toInt 4294967295) := by
  rw [wireAmount, Amount.clampU32, Amount.clamp,
    UInt32.toNat_ofNat_of_lt' (by unfold UInt32.size; omega)]
  omega

theorem tellsEntry_ofListed (entry : ListedEntry) : TellsEntry entry (.ofListed entry) where
  entryType := rfl
  itemType := rfl
  itemNumber := rfl
  itemQuantity := rfl
  rolls := rfl
  frontierPoints := toNat_wireAmount entry.frontierPoints
  dailyLimit := rfl
  name := by
    cases hname : entry.name with
    | some name =>
        rw [WireEntry.ofListed, hname]
        exact Wire.cut_textBody name
    | none =>
        rw [WireEntry.ofListed, hname]
        rfl
  items := rfl

theorem tells_ofListing (listing : GachaListing) : Tells listing (.ofListing listing) where
  id := rfl
  minGr := rfl
  minHr := rfl
  gachaType := rfl
  wide := rfl
  recommended := rfl
  name := Wire.cut_textBody _
  urlBanner := Wire.cut_textBody _
  urlFeature := Wire.cut_textBody _
  urlThumbnail := Wire.cut_textBody _
  entries := by
    rw [WireGacha.ofListing, List.forall₂_map_right_iff]
    exact List.forall₂_same.mpr fun entry _ => tellsEntry_ofListed entry

def FailsAt {α : Type} (written : Except Fault α) (counts : List Nat) : Prop :=
  match counts.find? (255 < ·) with
  | some count => written = .error (.inventoryOverflow count)
  | none => ∃ a, written = .ok a

section FailsAt

variable {α β : Type}

theorem FailsAt.pure (a : α) : FailsAt (Pure.pure a) [] := ⟨a, rfl⟩

theorem failsAt_count8 (count : Nat) : FailsAt (count8 count) [count] := by
  rw [FailsAt, List.find?_singleton]
  by_cases hcount : 255 < count
  · rw [if_pos (decide_eq_true hcount)]
    exact if_neg (by omega)
  · rw [if_neg (by simpa using hcount)]
    exact ⟨_, if_pos (by omega)⟩

theorem FailsAt.bind {x : Except Fault α} {f : α → Except Fault β} {front back : List Nat}
    (hx : FailsAt x front) (hf : ∀ a, FailsAt (f a) back) :
    FailsAt (x >>= f) (front ++ back) := by
  unfold FailsAt at hx
  rw [FailsAt, List.find?_append]
  split at hx
  · rename_i count hcount
    rw [hcount, hx]
    rfl
  · rename_i hnone
    obtain ⟨a, rfl⟩ := hx
    rw [hnone]
    exact hf a

theorem failsAt_mapM {write : α → Except Fault β} {counts : α → List Nat}
    (hwrite : ∀ value, FailsAt (write value) (counts value)) (values : List α) :
    FailsAt (values.mapM write) (values.flatMap counts) := by
  induction values with
  | nil => exact FailsAt.pure []
  | cons value others ih =>
      rw [List.mapM_cons, List.flatMap_cons]
      refine (hwrite value).bind fun front => ?_
      rw [← List.append_nil (others.flatMap counts)]
      exact ih.bind fun back => FailsAt.pure _

end FailsAt

def lineCounts (listing : GachaListing) : List Nat :=
  listing.entries.length :: listing.entries.map (·.items.length)

def tooMany? (listings : List GachaListing) : Option Nat :=
  if 65535 < listings.length then some listings.length
  else (listings.flatMap lineCounts).find? (255 < ·)

def Oversized (listings : List GachaListing) : Prop :=
  65535 < listings.length ∨ (∃ listing ∈ listings, 255 < listing.entries.length) ∨
    ∃ listing ∈ listings, ∃ entry ∈ listing.entries, 255 < entry.items.length

theorem tooMany?_eq_none_iff (listings : List GachaListing) :
    tooMany? listings = none ↔ ¬ Oversized listings := by
  unfold tooMany? Oversized
  split
  · rename_i hlength
    simp [hlength]
  · rename_i hlength
    simp [hlength, lineCounts, forall_and]

theorem failsAt_listedEntry (entry : ListedEntry) :
    FailsAt (listedEntry entry) [entry.items.length] :=
  (failsAt_count8 entry.items.length).bind fun _ => FailsAt.pure _

theorem failsAt_gachaListing (listing : GachaListing) :
    FailsAt (gachaListing listing) (lineCounts listing) := by
  have hentries := failsAt_mapM failsAt_listedEntry listing.entries
  rw [← List.map_eq_flatMap] at hentries
  refine (failsAt_count8 listing.entries.length).bind fun count => ?_
  rw [← List.append_nil (listing.entries.map _)]
  exact hentries.bind fun parts => FailsAt.pure _

theorem listing_outcome (listings : List GachaListing) :
    match tooMany? listings with
    | some count => listing listings = .error (.inventoryOverflow count)
    | none => ∃ payload, listing listings = .ok payload := by
  by_cases hlength : 65535 < listings.length
  · have hcount : count16 listings.length = .error (.inventoryOverflow listings.length) :=
      if_neg (by omega)
    rw [tooMany?, if_pos hlength, listing, hcount]
    rfl
  · have hcount : count16 listings.length = .ok (Wire.u16 (UInt16.ofNat listings.length)) :=
      if_pos (by omega)
    have hparts := (failsAt_mapM failsAt_gachaListing listings).bind fun parts =>
      FailsAt.pure (Wire.u16 (UInt16.ofNat listings.length) ++ parts.flatten)
    rw [List.append_nil] at hparts
    rw [tooMany?, if_neg hlength, listing, hcount]
    exact hparts

theorem listing_readable (listings : List GachaListing) :
    match listing listings with
    | .error fault => Oversized listings ∧
        ∃ count, tooMany? listings = some count ∧ fault = .inventoryOverflow count
    | .ok payload => ¬ Oversized listings ∧
        ∃ told, readListing payload = some told ∧ List.Forall₂ Tells listings told := by
  have houtcome := listing_outcome listings
  have hoversized := tooMany?_eq_none_iff listings
  cases htooMany : tooMany? listings with
  | some count =>
      rw [htooMany] at houtcome hoversized
      rw [houtcome]
      exact ⟨by simpa using hoversized, count, rfl, rfl⟩
  | none =>
      rw [htooMany] at houtcome hoversized
      obtain ⟨payload, hpayload⟩ := houtcome
      rw [hpayload]
      refine ⟨hoversized.mp rfl, _, readListing_listing hpayload, ?_⟩
      rw [List.forall₂_map_right_iff]
      exact List.forall₂_same.mpr fun listing _ => tells_ofListing listing

end Reply

end PrizeDraw
