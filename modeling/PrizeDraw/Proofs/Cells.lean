import Mathlib.Data.List.Forall2
import PrizeDraw.Database.Row

namespace PrizeDraw

inductive Shape where
  | bigint
  | int
  | text
  | bool
  | double
  | nullable
  deriving DecidableEq, Repr

namespace Shape

def admits : Shape → Value → Bool
  | .bigint, .int8 _ | .int, .int4 _ | .text, .text _ | .bool, .bool _ | .double, .float8 _
  | .nullable, .text _ | .nullable, .null => true
  | _, _ => false

end Shape

structure Slot where
  column : String
  shape : Shape
  size : Option Nat := none
  deriving DecidableEq, Repr

namespace Slot

def number? : Value → Option Int64
  | .int8 n => some n
  | .int4 n => some n.toInt64
  | _ => none

def misfit? (slot : Slot) (row : Row) : Option (String × Int64) := do
  let size ← slot.size
  let n ← number? (← (row.value slot.column).toOption)
  if 0 ≤ n.toInt ∧ n.toInt < size then none else some (slot.column, n)

end Slot

namespace Row

variable {α β : Type} {row : Row}

def Fills (row : Row) (slots : List Slot) : Prop :=
  ∀ slot ∈ slots, ∃ value, row.value slot.column = .ok value ∧ slot.shape.admits value = true

def Decodes (row : Row) (slots : List Slot) (decoded : Except StoreFault α) : Prop :=
  row.Fills slots →
    match slots.findSome? fun slot => slot.misfit? row with
    | none => ∃ a, decoded = .ok a
    | some (column, value) => decoded = .error (.outOfRange column value)

theorem decodes_pure (a : α) : row.Decodes [] (pure a) := fun _ => ⟨a, rfl⟩

theorem decodes_bind {slot : Slot} {slots : List Slot} {x : Except StoreFault β}
    {f : β → Except StoreFault α} (hx : row.Decodes [slot] x)
    (hf : ∀ b, row.Decodes slots (f b)) : row.Decodes (slot :: slots) (x >>= f) := by
  intro hfills
  obtain ⟨hslot, hslots⟩ := List.forall_mem_cons.1 hfills
  have hfirst := hx (List.forall_mem_singleton.2 hslot)
  rw [List.findSome?_cons] at hfirst ⊢
  cases hmisfit : slot.misfit? row with
  | none =>
      rw [hmisfit] at hfirst
      obtain ⟨b, rfl⟩ := hfirst
      exact hf b hslots
  | some offence =>
      rw [hmisfit] at hfirst
      obtain rfl := hfirst
      rfl

end Row

def Narrow.Below (τ : Type) [Narrow τ] (size : Nat) : Prop :=
  ∀ n, (Narrow.ofInt? n : Option τ).isSome ↔ 0 ≤ n ∧ n < size

namespace Narrow

theorem below_u8 : Below UInt8 UInt8.size := fun n => by
  simp [ofInt?]

theorem below_u16 : Below UInt16 UInt16.size := fun n => by
  simp [ofInt?]

theorem below_u32 : Below UInt32 UInt32.size := fun n => by
  simp [ofInt?]

end Narrow

def Cell.Takes (τ : Type) [Cell τ] (shape : Shape) : Prop :=
  ∀ value, shape.admits value = true → ∃ a : τ, Cell.ofValue? value = some a

namespace Cell

theorem takes_bigint : Takes Int64 .bigint := fun value h => by
  cases value <;> first | exact ⟨_, rfl⟩ | cases h

theorem takes_int : Takes Int32 .int := fun value h => by
  cases value <;> first | exact ⟨_, rfl⟩ | cases h

theorem takes_text : Takes String .text := fun value h => by
  cases value <;> first | exact ⟨_, rfl⟩ | cases h

theorem takes_bool : Takes Bool .bool := fun value h => by
  cases value <;> first | exact ⟨_, rfl⟩ | cases h

theorem takes_double : Takes Weight .double := fun value h => by
  cases value <;> first | exact ⟨_, rfl⟩ | cases h

theorem takes_nullable : Takes (Option String) .nullable := fun value h => by
  cases value <;> first | exact ⟨_, rfl⟩ | cases h

end Cell

namespace Row

variable {τ : Type} {row : Row}

theorem cell_of_value [Cell τ] {column : String} {value : Value} {a : τ}
    (hvalue : row.value column = .ok value) (ha : Cell.ofValue? value = some a) :
    (row.cell column : Except StoreFault τ) = .ok a := by
  unfold cell
  rw [hvalue]
  change convert column value = .ok a
  rw [convert, ha]

theorem decodes_cell [Cell τ] {shape : Shape} (h : Cell.Takes τ shape) (column : String) :
    row.Decodes [⟨column, shape, none⟩] (row.cell column : Except StoreFault τ) := by
  intro hfills
  obtain ⟨value, hvalue, hadmits⟩ := hfills _ List.mem_cons_self
  obtain ⟨a, ha⟩ := h value hadmits
  exact ⟨a, cell_of_value hvalue ha⟩

theorem decodes_narrow [Narrow τ] {size : Nat} (h : Narrow.Below τ size) {column : String}
    {shape : Shape} {value : Value} {n : Int64} (hvalue : row.value column = .ok value)
    (hn : Slot.number? value = some n) :
    row.Decodes [⟨column, shape, some size⟩]
      (Narrow.narrow column n : Except StoreFault τ) := by
  intro _
  have hmisfit : Slot.misfit? ⟨column, shape, some size⟩ row =
      if 0 ≤ n.toInt ∧ n.toInt < size then none else some (column, n) := by
    simp [Slot.misfit?, hvalue, hn, Except.toOption]
  rw [List.findSome?_singleton, hmisfit, Narrow.narrow]
  cases hnarrow : (Narrow.ofInt? n.toInt : Option τ) with
  | some a =>
      rw [if_pos ((h n.toInt).1 (Option.isSome_of_eq_some hnarrow))]
      exact ⟨a, rfl⟩
  | none =>
      rw [if_neg fun hfits => ?_]
      have hsome := (h n.toInt).2 hfits
      rw [hnarrow] at hsome
      cases hsome

theorem decodes_bigint [Narrow τ] {size : Nat} (h : Narrow.Below τ size) (column : String) :
    row.Decodes [⟨column, .bigint, some size⟩] (row.bigint column : Except StoreFault τ) := by
  intro hfills
  obtain ⟨value, hvalue, hadmits⟩ := hfills _ List.mem_cons_self
  obtain ⟨n, hn⟩ := Cell.takes_bigint value hadmits
  rw [bigint, cell_of_value hvalue hn]
  refine decodes_narrow h hvalue ?_ hfills
  cases value with
  | int8 n => cases hn; rfl
  | _ => cases hn

theorem decodes_int [Narrow τ] {size : Nat} (h : Narrow.Below τ size) (column : String) :
    row.Decodes [⟨column, .int, some size⟩] (row.int column : Except StoreFault τ) := by
  intro hfills
  obtain ⟨value, hvalue, hadmits⟩ := hfills _ List.mem_cons_self
  obtain ⟨n, hn⟩ := Cell.takes_int value hadmits
  rw [int, cell_of_value hvalue hn]
  refine decodes_narrow h hvalue ?_ hfills
  cases value with
  | int4 n => cases hn; rfl
  | _ => cases hn

end Row

def Gacha.slots : List Slot :=
  [⟨"id", .bigint, some UInt32.size⟩, ⟨"min_gr", .int, some UInt32.size⟩,
    ⟨"min_hr", .int, some UInt32.size⟩, ⟨"name", .text, none⟩, ⟨"url_banner", .text, none⟩,
    ⟨"url_feature", .text, none⟩, ⟨"url_thumbnail", .text, none⟩, ⟨"wide", .bool, none⟩,
    ⟨"recommended", .bool, none⟩, ⟨"gacha_type", .int, some UInt8.size⟩,
    ⟨"hidden", .bool, none⟩]

def Entry.slots : List Slot :=
  [⟨"id", .bigint, some UInt32.size⟩, ⟨"gacha_id", .bigint, some UInt32.size⟩,
    ⟨"entry_type", .int, some UInt8.size⟩, ⟨"item_type", .int, some UInt8.size⟩,
    ⟨"item_number", .int, some UInt16.size⟩, ⟨"item_quantity", .int, some UInt16.size⟩,
    ⟨"weight", .double, none⟩, ⟨"rarity", .int, some UInt8.size⟩,
    ⟨"rolls", .int, some UInt8.size⟩, ⟨"frontier_points", .bigint, none⟩,
    ⟨"daily_limit", .int, some UInt16.size⟩, ⟨"name", .nullable, none⟩]

def RewardItem.slots : List Slot :=
  [⟨"item_type", .int, some UInt8.size⟩, ⟨"item_id", .int, some UInt16.size⟩,
    ⟨"quantity", .int, some UInt16.size⟩]

def Trade.slots : List Slot :=
  [⟨"id", .bigint, some UInt32.size⟩, ⟨"item_type", .int, some UInt8.size⟩,
    ⟨"item_id", .int, some UInt16.size⟩, ⟨"quantity", .int, some UInt16.size⟩,
    ⟨"fpoints", .int, some UInt32.size⟩, ⟨"buyable", .bool, none⟩]

namespace Row

variable (row : Row)

theorem decodes_gacha : row.Decodes Gacha.slots (Gacha.ofRow row) :=
  decodes_bind (decodes_bigint Narrow.below_u32 _) fun _ =>
  decodes_bind (decodes_int Narrow.below_u32 _) fun _ =>
  decodes_bind (decodes_int Narrow.below_u32 _) fun _ =>
  decodes_bind (decodes_cell Cell.takes_text _) fun _ =>
  decodes_bind (decodes_cell Cell.takes_text _) fun _ =>
  decodes_bind (decodes_cell Cell.takes_text _) fun _ =>
  decodes_bind (decodes_cell Cell.takes_text _) fun _ =>
  decodes_bind (decodes_cell Cell.takes_bool _) fun _ =>
  decodes_bind (decodes_cell Cell.takes_bool _) fun _ =>
  decodes_bind (decodes_int Narrow.below_u8 _) fun _ =>
  decodes_bind (decodes_cell Cell.takes_bool _) fun _ => decodes_pure _

theorem decodes_entry : row.Decodes Entry.slots (Entry.ofRow row) :=
  decodes_bind (decodes_bigint Narrow.below_u32 _) fun _ =>
  decodes_bind (decodes_bigint Narrow.below_u32 _) fun _ =>
  decodes_bind (decodes_int Narrow.below_u8 _) fun _ =>
  decodes_bind (decodes_int Narrow.below_u8 _) fun _ =>
  decodes_bind (decodes_int Narrow.below_u16 _) fun _ =>
  decodes_bind (decodes_int Narrow.below_u16 _) fun _ =>
  decodes_bind (decodes_cell Cell.takes_double _) fun _ =>
  decodes_bind (decodes_int Narrow.below_u8 _) fun _ =>
  decodes_bind (decodes_int Narrow.below_u8 _) fun _ =>
  decodes_bind (decodes_cell Cell.takes_bigint _) fun _ =>
  decodes_bind (decodes_int Narrow.below_u16 _) fun _ =>
  decodes_bind (decodes_cell Cell.takes_nullable _) fun _ => decodes_pure _

theorem decodes_reward : row.Decodes RewardItem.slots (RewardItem.ofRow row) :=
  decodes_bind (decodes_int Narrow.below_u8 _) fun _ =>
  decodes_bind (decodes_int Narrow.below_u16 _) fun _ =>
  decodes_bind (decodes_int Narrow.below_u16 _) fun _ => decodes_pure _

theorem decodes_trade : row.Decodes Trade.slots (Trade.ofRow row) :=
  decodes_bind (decodes_bigint Narrow.below_u32 _) fun _ =>
  decodes_bind (decodes_int Narrow.below_u8 _) fun _ =>
  decodes_bind (decodes_int Narrow.below_u16 _) fun _ =>
  decodes_bind (decodes_int Narrow.below_u16 _) fun _ =>
  decodes_bind (decodes_int Narrow.below_u32 _) fun _ =>
  decodes_bind (decodes_cell Cell.takes_bool _) fun _ => decodes_pure _

end Row

namespace Narrow

theorem ofInt?_u8 (n : UInt8) : (ofInt? n.toNat : Option UInt8) = some n := by
  have hfits : (0 : Int) ≤ n.toNat ∧ (n.toNat : Int) < UInt8.size := by
    have := n.toNat_lt_size
    omega
  simp only [ofInt?, if_pos hfits, Int.toNat_natCast, UInt8.ofNat_toNat]

theorem ofInt?_u16 (n : UInt16) : (ofInt? n.toNat : Option UInt16) = some n := by
  have hfits : (0 : Int) ≤ n.toNat ∧ (n.toNat : Int) < UInt16.size := by
    have := n.toNat_lt_size
    omega
  simp only [ofInt?, if_pos hfits, Int.toNat_natCast, UInt16.ofNat_toNat]

theorem ofInt?_u32 (n : UInt32) : (ofInt? n.toNat : Option UInt32) = some n := by
  have hfits : (0 : Int) ≤ n.toNat ∧ (n.toNat : Int) < UInt32.size := by
    have := n.toNat_lt_size
    omega
  simp only [ofInt?, if_pos hfits, Int.toNat_natCast, UInt32.ofNat_toNat]

theorem narrow_ok {τ : Type} [Narrow τ] {value : Int64} {n : Nat} {a : τ}
    (hvalue : value.toInt = n) (ha : (ofInt? n : Option τ) = some a) (column : String) :
    (narrow column value : Except StoreFault τ) = .ok a := by
  rw [narrow, hvalue, ha]

theorem toInt_bigint (n : UInt32) : (Int64.ofNat n.toNat).toInt = n.toNat :=
  Int64.toInt_ofNat_of_lt (by have := n.toNat_lt; omega)

theorem toInt_int {n : Nat} (h : n ≤ 2147483647) :
    (Int32.ofNat n).toInt64.toInt = n := by
  rw [Int32.toInt_toInt64, Int32.toInt_ofNat_of_lt (by omega)]

def intMax : UInt32 := 2147483647

theorem narrow_signed (column : String) (n : UInt32) :
    (narrow column (Int64.ofNat n.toNat) : Except StoreFault Int32) =
      if n ≤ intMax then .ok (Int32.ofNat n.toNat)
      else .error (.outOfRange column (Int64.ofNat n.toNat)) := by
  have hfits : n ≤ intMax ↔
      -2147483648 ≤ (n.toNat : Int) ∧ (n.toNat : Int) ≤ 2147483647 := by
    simp only [UInt32.le_iff_toNat_le, intMax, UInt32.toNat_ofNat]
    omega
  rw [narrow, toInt_bigint]
  by_cases h : n ≤ intMax
  · simp only [ofInt?, if_pos (hfits.1 h), if_pos h]
    rfl
  · simp only [ofInt?, if_neg fun hrange => h (hfits.2 hrange), if_neg h]

end Narrow

namespace Row

variable {row : Row} {column : String}

def Holds (row : Row) (columns : List String) (values : List Value) : Prop :=
  List.Forall₂ (fun column value => row.value column = .ok value) columns values

theorem value_of_mem (hdistinct : (row.map Prod.fst).Nodup) {value : Value}
    (h : (column, value) ∈ row) : row.value column = .ok value := by
  obtain ⟨front, back, rfl⟩ := List.append_of_mem h
  rw [List.map_append, List.map_cons] at hdistinct
  have hlater := (List.nodup_cons.1 (List.nodup_append.1 hdistinct).2.1).1
  have hlookup : (front ++ (column, value) :: back).reverse.lookup column = some value := by
    -- The row is searched from its end, where the column does not occur again.
    refine List.lookup_eq_some_iff.2 ⟨back.reverse, front.reverse, by simp, fun cell hcell => ?_⟩
    refine bne_iff_ne.2 fun hsame => hlater ?_
    exact List.mem_map.2 ⟨cell, List.mem_reverse.1 hcell, hsame.symm⟩
  rw [Row.value, hlookup]

theorem holds_zip {columns : List String} {values : List Value}
    (hlength : columns.length = values.length) (hdistinct : columns.Nodup) :
    Holds (columns.zip values) columns values := by
  have hnames : ((columns.zip values).map Prod.fst) = columns :=
    List.map_fst_zip (Nat.le_of_eq hlength)
  refine List.forall₂_iff_zip.2 ⟨hlength, fun {column value} hmem => value_of_mem ?_ hmem⟩
  rwa [hnames]

theorem bigint_id {n : UInt32} (h : row.value column = .ok (.id n)) :
    row.bigint column = .ok n := by
  rw [bigint, cell_of_value h rfl]
  exact Narrow.narrow_ok (Narrow.toInt_bigint n) (Narrow.ofInt?_u32 n) column

theorem int_of_value {τ : Type} [Narrow τ] {n : Nat} {a : τ} (hn : n ≤ 2147483647)
    (ha : (Narrow.ofInt? n : Option τ) = some a)
    (h : row.value column = .ok (.int4 (Int32.ofNat n))) : row.int column = .ok a := by
  rw [int, cell_of_value h rfl]
  exact Narrow.narrow_ok (Narrow.toInt_int hn) ha column

theorem int_u8 {n : UInt8} (h : row.value column = .ok (.u8 n)) : row.int column = .ok n :=
  int_of_value (by have := n.toNat_lt; omega) (Narrow.ofInt?_u8 n) h

theorem int_u16 {n : UInt16} (h : row.value column = .ok (.u16 n)) : row.int column = .ok n :=
  int_of_value (by have := n.toNat_lt; omega) (Narrow.ofInt?_u16 n) h

theorem int_signed {n : UInt32} (hn : n ≤ Narrow.intMax)
    (h : row.value column = .ok (.int4 (Int32.ofNat n.toNat))) : row.int column = .ok n :=
  int_of_value (UInt32.le_iff_toNat_le.1 hn) (Narrow.ofInt?_u32 n) h

theorem cell_nullable {name : Option String}
    (h : row.value column = .ok (.ofOption .text name)) : row.cell column = .ok name := by
  cases name with
  | none => exact cell_of_value h rfl
  | some text => exact cell_of_value h rfl

end Row

/-- An insert names its columns, and any row that holds its arguments in them, as some row does, is
read as the value. -/
structure Statement.ReadsBack {α : Type} (insert : Statement) (columns : List String)
    (decode : Row → Except StoreFault α) (a : α) : Prop where
  named : ∃ table rest, insert.text = insertText table columns ++ rest
  held : ∃ row : Row, row.Holds columns insert.arguments
  read : ∀ row : Row, row.Holds columns insert.arguments → decode row = .ok a

def Gacha.insert (gacha : Gacha) : Statement :=
  .upsertGacha gacha (Int32.ofNat gacha.minGr.toNat) (Int32.ofNat gacha.minHr.toNat)

def Trade.insert (trade : Trade) : Statement :=
  .upsertTrade trade (Int32.ofNat trade.fpoints.toNat)

theorem Statement.upsertText_eq (table : String) (columns : List String) :
    ∃ rest, upsertText table columns = insertText table columns ++ rest := by
  unfold upsertText
  exact ⟨_, by simp only [toString, String.append_assoc]; rfl⟩

theorem Gacha.reads_back (gacha : Gacha) (hgr : gacha.minGr ≤ Narrow.intMax)
    (hhr : gacha.minHr ≤ Narrow.intMax) :
    gacha.insert.ReadsBack Statement.gachaColumns Gacha.ofRow gacha where
  named := ⟨"gacha_shop", Statement.upsertText_eq _ _⟩
  held := ⟨_, Row.holds_zip rfl (by decide)⟩
  read row hrow := by
    simp only [Row.Holds, Gacha.insert, Statement.gachaColumns, Statement.arguments,
      List.forall₂_cons] at hrow
    obtain ⟨hid, hminGr, hminHr, hname, hbanner, hfeature, hthumbnail, hwide, hrecommended,
      htype, hhidden, -⟩ := hrow
    rw [Gacha.ofRow, Row.bigint_id hid, Row.int_signed hgr hminGr, Row.int_signed hhr hminHr,
      Row.cell_of_value hname rfl, Row.cell_of_value hbanner rfl, Row.cell_of_value hfeature rfl,
      Row.cell_of_value hthumbnail rfl, Row.cell_of_value hwide rfl,
      Row.cell_of_value hrecommended rfl, Row.int_u8 htype, Row.cell_of_value hhidden rfl]
    rfl

theorem Entry.reads_back (entry : Entry) :
    (Statement.upsertEntry entry).ReadsBack Statement.entryColumns Entry.ofRow entry where
  named := ⟨"gacha_entries", Statement.upsertText_eq _ _⟩
  held := ⟨_, Row.holds_zip rfl (by decide)⟩
  read row hrow := by
    simp only [Row.Holds, Statement.entryColumns, Statement.arguments,
      List.forall₂_cons] at hrow
    obtain ⟨hid, hgacha, htype, hitem, hnumber, hquantity, hweight, hrarity, hrolls, hpoints,
      hlimit, hname, -⟩ := hrow
    rw [Entry.ofRow, Row.bigint_id hid, Row.bigint_id hgacha, Row.int_u8 htype, Row.int_u8 hitem,
      Row.int_u16 hnumber, Row.int_u16 hquantity, Row.cell_of_value hweight rfl,
      Row.int_u8 hrarity, Row.int_u8 hrolls, Row.cell_of_value hpoints rfl, Row.int_u16 hlimit,
      Row.cell_nullable hname]
    rfl

theorem RewardItem.reads_back (entry : EntryId) (item : RewardItem) :
    (Statement.insertReward entry item).ReadsBack ("entry_id" :: Statement.rewardColumns)
      RewardItem.ofRow item where
  named := ⟨"gacha_items", "", String.append_empty.symm⟩
  held := ⟨_, Row.holds_zip rfl (by decide)⟩
  read row hrow := by
    simp only [Row.Holds, Statement.rewardColumns, Statement.arguments,
      List.forall₂_cons] at hrow
    obtain ⟨-, htype, hitem, hquantity, -⟩ := hrow
    rw [RewardItem.ofRow, Row.int_u8 htype, Row.int_u16 hitem, Row.int_u16 hquantity]
    rfl

theorem Trade.reads_back (trade : Trade) (hpoints : trade.fpoints ≤ Narrow.intMax) :
    trade.insert.ReadsBack Statement.tradeColumns Trade.ofRow trade where
  named := ⟨"fpoint_items", Statement.upsertText_eq _ _⟩
  held := ⟨_, Row.holds_zip rfl (by decide)⟩
  read row hrow := by
    simp only [Row.Holds, Trade.insert, Statement.tradeColumns, Statement.arguments,
      List.forall₂_cons] at hrow
    obtain ⟨hid, htype, hitem, hquantity, hfpoints, hbuyable, -⟩ := hrow
    rw [Trade.ofRow, Row.bigint_id hid, Row.int_u8 htype, Row.int_u16 hitem,
      Row.int_u16 hquantity, Row.int_signed hpoints hfpoints, Row.cell_of_value hbuyable rfl]
    rfl

end PrizeDraw
