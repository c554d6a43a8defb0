import Mathlib.Order.Bounds.Basic
import PrizeDraw.Proofs.Listings

namespace PrizeDraw

namespace Wire

/-- Whether a character of the text begins, or the text ends, after this many bytes. -/
def IsBoundary (s : String) (place : Nat) : Prop := String.Pos.Raw.IsValid s ⟨place⟩

instance (s : String) (place : Nat) : Decidable (IsBoundary s place) :=
  inferInstanceAs (Decidable (String.Pos.Raw.IsValid s ⟨place⟩))

def goBack (s : String) : Nat → Option Nat
  | 0 => if IsBoundary s 0 then some 0 else none
  | place + 1 => if IsBoundary s (place + 1) then some (place + 1) else goBack s place

theorem goBack_eq_some {s : String} {start place : Nat}
    (h : IsGreatest {place | place ≤ start ∧ IsBoundary s place} place) :
    goBack s start = some place := by
  obtain ⟨⟨hle, hplace⟩, hgreatest⟩ := h
  induction start with
  | zero =>
      obtain rfl : place = 0 := Nat.le_zero.mp hle
      rw [goBack, if_pos hplace]
  | succ start ih =>
      rw [goBack]
      split
      · rename_i hstart
        have hall : start + 1 ≤ place := hgreatest ⟨Nat.le_refl _, hstart⟩
        rw [Nat.le_antisymm hle hall]
      · rename_i hstart
        have hne : place ≠ start + 1 := fun heq => hstart (heq ▸ hplace)
        refine ih ?_ (by omega)
        rintro other ⟨hother, hboundary⟩
        exact hgreatest ⟨Nat.le_succ_of_le hother, hboundary⟩

theorem isBoundary_iff {s : String} {place : Nat} :
    IsBoundary s place ↔ ∃ kept, kept <+: s.toList ∧ (utf8 kept).length = place := by
  rw [IsBoundary, String.Pos.Raw.isValid_iff_exists_append]
  constructor
  · rintro ⟨front, back, rfl, hplace⟩
    refine ⟨front.toList, ⟨back.toList, String.toList_append.symm⟩, ?_⟩
    rw [length_utf8_toList, ← String.byteIdx_rawEndPos, ← hplace]
  · rintro ⟨kept, ⟨others, hs⟩, rfl⟩
    refine ⟨String.ofList kept, String.ofList others, ?_, ?_⟩
    · rw [← String.ofList_append, hs, String.ofList_toList]
    · have hlength := length_utf8_toList (String.ofList kept)
      rw [String.toList_ofList] at hlength
      rw [String.Pos.Raw.ext_iff, String.byteIdx_rawEndPos, hlength]

theorem textBody_isGreatest (s : String) :
    IsGreatest {place | place ≤ min s.utf8ByteSize 255 ∧ IsBoundary s place}
      (textBody s).length := by
  constructor
  · have hboundary : IsBoundary s (textBody s).length :=
      isBoundary_iff.mpr ⟨_, clip_leading maxTextBytes s.toList, rfl⟩
    have hinside : (textBody s).length ≤ s.utf8ByteSize := hboundary.le_utf8ByteSize
    exact ⟨Nat.le_min.mpr ⟨hinside, length_utf8_clip_le _ _⟩, hboundary⟩
  · rintro place ⟨hle, hplace⟩
    obtain ⟨kept, hkept, rfl⟩ := isBoundary_iff.mp hplace
    exact length_utf8_le_clip hkept (Nat.le_min.mp hle).2

theorem toByteArray_textBody (s : String) :
    (textBody s).toByteArray = s.toByteArray.extract 0 (textBody s).length := by
  obtain ⟨kept, ⟨others, hs⟩, hbytes⟩ := (cut_textBody s).leading
  have happend : s = kept ++ String.ofList others := by
    apply String.toList_injective
    rw [String.toList_append, String.toList_ofList, hs]
  have hsize : kept.toByteArray.size = (textBody s).length := by
    rw [← List.size_toByteArray, ← hbytes]
    rfl
  rw [← hbytes, ← hsize]
  conv => rhs; rw [happend, String.toByteArray_append]
  rw [ByteArray.extract_append_eq_left rfl]
  rfl

theorem length_textBody_of_long {s : String} (h : 255 < s.utf8ByteSize) :
    252 ≤ (textBody s).length := by
  have hfits := (textBody_isGreatest s).1.1
  obtain ⟨others, hs⟩ := clip_leading maxTextBytes s.toList
  cases others with
  | nil =>
      rw [List.append_nil] at hs
      have hall : (textBody s).length = s.utf8ByteSize := by
        rw [textBody, hs, length_utf8_toList]
      omega
  | cons c others =>
      have hnext : IsBoundary s ((textBody s).length + c.utf8Size) := by
        refine isBoundary_iff.mpr ⟨clip maxTextBytes s.toList ++ [c], ⟨others, ?_⟩, ?_⟩
        · rw [List.append_assoc, List.singleton_append, hs]
        · rw [utf8, List.flatMap_append, List.length_append, List.flatMap_singleton,
            String.length_utf8EncodeChar]
          rfl
      have hwidth : c.utf8Size ≤ 4 := c.utf8Size_le_four
      by_contra hfar
      -- The next character would have fitted too.
      have hroom : (textBody s).length + c.utf8Size ≤ min s.utf8ByteSize 255 := by omega
      have hgreater := (textBody_isGreatest s).2 ⟨hroom, hnext⟩
      have hpos := c.utf8Size_pos
      omega

theorem text_cut (s : String) :
    ∃ place, goBack s (min s.utf8ByteSize 255) = some place ∧
      IsGreatest {place | place ≤ min s.utf8ByteSize 255 ∧ IsBoundary s place} place ∧
      (∃ (size : UInt8) (kept : Bytes), text s = size :: kept ∧ size.toNat = place ∧
        kept.toByteArray = s.toByteArray.extract 0 place ∧ kept.toByteArray.IsValidUTF8) ∧
      (s.utf8ByteSize ≤ 255 → place = s.utf8ByteSize) ∧
      (255 < s.utf8ByteSize → 252 ≤ place) := by
  have hgreatest := textBody_isGreatest s
  have hwithin := hgreatest.1.1
  refine ⟨(textBody s).length, goBack_eq_some hgreatest, hgreatest, ?_, fun hshort => ?_,
    length_textBody_of_long⟩
  · refine ⟨UInt8.ofNat (textBody s).length, textBody s, rfl, ?_, toByteArray_textBody s, ?_⟩
    · exact UInt8.toNat_ofNat_of_lt' (Nat.lt_succ_of_le (by omega))
    · rw [toByteArray_textBody]
      exact hgreatest.1.2.isValidUTF8_extract_zero
  · have hend : IsBoundary s s.utf8ByteSize := String.Pos.Raw.isValid_rawEndPos
    exact Nat.le_antisymm (by omega) (hgreatest.2 ⟨by omega, hend⟩)

end Wire

end PrizeDraw
