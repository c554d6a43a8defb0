import PrizeDraw.Proofs.Codec
import PrizeDraw.Reply

namespace PrizeDraw

abbrev Reader (α : Type) := StateT Bytes Option α

namespace Reader

variable {α β : Type}

def Reads (reader : Reader α) (bytes : Bytes) (value : α) : Prop :=
  ∀ rest, reader.run (bytes ++ rest) = some (value, rest)

theorem Reads.pure (value : α) : Reads (Pure.pure value) [] value := fun _ => rfl

theorem Reads.bind {reader : Reader α} {next : α → Reader β} {front back : Bytes} {a : α} {b : β}
    (hfront : Reads reader front a) (hback : Reads (next a) back b) :
    Reads (reader >>= next) (front ++ back) b := by
  intro rest
  rw [List.append_assoc, StateT.run_bind, hfront]
  exact hback rest

theorem Reads.map {reader : Reader α} {bytes : Bytes} {a : α} {f : α → β} {b : β}
    (h : Reads reader bytes a) (hf : f a = b) :
    Reads (reader >>= fun a => Pure.pure (f a)) bytes b := by
  intro rest
  rw [StateT.run_bind, h, ← hf]
  rfl

def whole (reader : Reader α) (bytes : Bytes) : Option α :=
  match reader.run bytes with
  | some (value, []) => some value
  | _ => none

theorem Reads.whole {reader : Reader α} {bytes : Bytes} {value : α}
    (h : Reads reader bytes value) : reader.whole bytes = some value := by
  have hrun := h []
  rw [List.append_nil] at hrun
  rw [Reader.whole, hrun]

def field (read : Bytes → Option α × Bytes) : Reader α := fun bytes =>
  match read bytes with
  | (some value, rest) => some (value, rest)
  | (none, _) => none

theorem reads_field {read : Bytes → Option α × Bytes} {bytes : Bytes} {value : α}
    (h : ∀ rest, read (bytes ++ rest) = (some value, rest)) : Reads (field read) bytes value := by
  intro rest
  simp only [StateT.run, field, h]

def u8 : Reader UInt8 := field Wire.readU8

def u16 : Reader UInt16 := field Wire.readU16

def u32 : Reader UInt32 := field Wire.readU32

def item : Reader RewardItem := field RewardItem.read

def flag : Reader Bool := do
  let byte ← u8
  if byte = 1 then return true else if byte = 0 then return false else failure

def raw (size : Nat) : Reader Bytes := fun bytes =>
  if size ≤ bytes.length then some (bytes.splitAt size) else none

def text : Reader Bytes := do
  let size ← u8
  raw size.toNat

def many (reader : Reader α) : Nat → Reader (List α)
  | 0 => return []
  | count + 1 => do
      let value ← reader
      let others ← many reader count
      return value :: others

def counted (reader : Reader α) : Reader (List α) := do
  let count ← u8
  many reader count.toNat

theorem reads_u8 (v : UInt8) : Reads u8 [v] v := reads_field fun _ => rfl

theorem reads_u16 (v : UInt16) : Reads u16 (Wire.u16 v) v := reads_field (Wire.readU16_u16 v)

theorem reads_u32 (v : UInt32) : Reads u32 (Wire.u32 v) v := reads_field (Wire.readU32_u32 v)

theorem reads_item (v : RewardItem) : Reads item v.encode v := reads_field v.read_encode

theorem reads_flag (b : Bool) : Reads flag (Wire.flag b) b := by
  cases b with
  | true => exact (reads_u8 1).bind (Reads.pure true)
  | false => exact (reads_u8 0).bind (Reads.pure false)

theorem reads_raw (bytes : Bytes) : Reads (raw bytes.length) bytes bytes := by
  intro rest
  have hfits : bytes.length ≤ (bytes ++ rest).length := by simp
  simp only [StateT.run, raw, if_pos hfits, List.splitAt_eq, List.take_left, List.drop_left]

end Reader

namespace Wire

theorem length_utf8_cons (c : Char) (rest : List Char) :
    (utf8 (c :: rest)).length = c.utf8Size + (utf8 rest).length := by
  rw [utf8, List.flatMap_cons, List.length_append, String.length_utf8EncodeChar]
  rfl

theorem length_utf8_clip_le (room : Nat) (chars : List Char) :
    (utf8 (clip room chars)).length ≤ room := by
  induction chars generalizing room with
  | nil => exact Nat.zero_le room
  | cons c rest ih =>
      rw [clip]
      split
      · have hrest := ih (room - c.utf8Size)
        rw [length_utf8_cons]
        omega
      · exact Nat.zero_le room

def textBody (s : String) : Bytes := utf8 (clip maxTextBytes s.toList)

end Wire

namespace Reply

theorem exists_of_bind_ok {α β : Type} {x : Except Fault α} {f : α → Except Fault β} {b : β}
    (h : x >>= f = .ok b) : ∃ a, x = .ok a ∧ f a = .ok b := by
  cases x with
  | error fault => cases h
  | ok a => exact ⟨a, rfl, h⟩

theorem count8_ok {count : Nat} {bytes : Bytes} (h : count8 count = .ok bytes) :
    bytes = [UInt8.ofNat count] ∧ (UInt8.ofNat count).toNat = count := by
  unfold count8 at h
  split at h
  · rename_i hlt
    cases h
    exact ⟨rfl, UInt8.toNat_ofNat_of_lt' hlt⟩
  · cases h

theorem count16_ok {count : Nat} {bytes : Bytes} (h : count16 count = .ok bytes) :
    bytes = Wire.u16 (UInt16.ofNat count) ∧ (UInt16.ofNat count).toNat = count := by
  unfold count16 at h
  split at h
  · rename_i hlt
    cases h
    exact ⟨rfl, UInt16.toNat_ofNat_of_lt' hlt⟩
  · cases h

end Reply

namespace Reader

variable {α γ : Type} {reader : Reader α} {seen : γ → α} {values : List γ}

theorem reads_text (s : String) : Reads text (Wire.text s) (Wire.textBody s) := by
  have hlength : (Wire.textBody s).length ≤ 255 :=
    Wire.length_utf8_clip_le Wire.maxTextBytes s.toList
  have hsize : (UInt8.ofNat (Wire.textBody s).length).toNat = (Wire.textBody s).length :=
    UInt8.toNat_ofNat_of_lt' (Nat.lt_succ_of_le hlength)
  have hraw := reads_raw (Wire.textBody s)
  rw [← hsize] at hraw
  exact (reads_u8 _).bind hraw

theorem reads_many {write : γ → Except Fault Bytes} {parts : List Bytes}
    (hreads : ∀ value bytes, write value = .ok bytes → Reads reader bytes (seen value))
    (hparts : values.mapM write = .ok parts) :
    Reads (many reader values.length) parts.flatten (values.map seen) := by
  induction values generalizing parts with
  | nil =>
      cases hparts
      exact Reads.pure []
  | cons value others ih =>
      rw [List.mapM_cons] at hparts
      obtain ⟨front, hfront, hrest⟩ := Reply.exists_of_bind_ok hparts
      obtain ⟨back, hback, hsame⟩ := Reply.exists_of_bind_ok hrest
      cases hsame
      refine (hreads value front hfront).bind ?_
      exact (ih hback).map rfl

theorem reads_many_flatMap {write : γ → Bytes}
    (hreads : ∀ value, Reads reader (write value) (seen value)) :
    Reads (many reader values.length) (values.flatMap write) (values.map seen) := by
  have hparts : values.mapM (fun value => (Except.ok (write value) : Except Fault Bytes)) =
      .ok (values.map write) :=
    List.mapM_pure
  rw [List.flatMap_def]
  refine reads_many ?_ hparts
  intro value bytes hbytes
  cases hbytes
  exact hreads value

theorem reads_counted {count bytes : Bytes} (hcount : Reply.count8 values.length = .ok count)
    (hmany : Reads (many reader values.length) bytes (values.map seen)) :
    Reads (counted reader) (count ++ bytes) (values.map seen) := by
  obtain ⟨rfl, hsize⟩ := Reply.count8_ok hcount
  refine (reads_u8 _).bind ?_
  rw [hsize]
  exact hmany

end Reader

namespace Reply

open Reader

def boxLine : Reader BoxStatus := do
  let entry ← u32
  let exhausted ← flag
  return { entry, exhausted }

def readBoxStatus (payload : Bytes) : Option (List BoxStatus) := (counted boxLine).whole payload

theorem reads_boxEntry (status : BoxStatus) : Reads boxLine (boxEntry status) status := by
  refine (reads_u32 status.entry).bind ?_
  exact (reads_flag status.exhausted).map rfl

theorem readBoxStatus_boxStatus {status : List BoxStatus} {payload : Bytes}
    (h : boxStatus status = .ok payload) : readBoxStatus payload = some status := by
  obtain ⟨count, hcount, hpayload⟩ := exists_of_bind_ok h
  cases hpayload
  have hread := (reads_counted hcount (reads_many_flatMap reads_boxEntry)).whole
  rw [List.map_id'] at hread
  exact hread

def stepLine : Reader StepStatus := do
  let step ← u8
  let serverTime ← u32
  return { step, serverTime }

def readStepStatus (payload : Bytes) : Option StepStatus := stepLine.whole payload

theorem readStepStatus_stepStatus (status : StepStatus) :
    readStepStatus (stepStatus status) = some status := by
  refine Reads.whole ((reads_u8 status.step).bind ?_)
  exact (reads_u32 status.serverTime).map rfl

structure WirePoints where
  frontierPoints : UInt32
  premium : UInt32
  trial : UInt32
  deriving DecidableEq, Repr

def pointsLine : Reader WirePoints := do
  let frontierPoints ← u32
  let premium ← u32
  let trial ← u32
  return { frontierPoints, premium, trial }

def readPoints (payload : Bytes) : Option WirePoints := pointsLine.whole payload

theorem readPoints_points (amounts : Points) :
    readPoints (points amounts) = some
      { frontierPoints := wireAmount amounts.frontierPoints
        premium := wireAmount amounts.premium
        trial := wireAmount amounts.trial } := by
  refine Reads.whole ?_
  rw [points, List.append_assoc]
  refine (reads_u32 _).bind ((reads_u32 _).bind ?_)
  exact (reads_u32 (wireAmount amounts.trial)).map rfl

structure WireEntry where
  entryType : UInt8
  itemType : UInt8
  itemNumber : UInt16
  itemQuantity : UInt16
  rolls : UInt8
  frontierPoints : UInt32
  dailyLimit : UInt16
  name : Bytes
  items : List RewardItem
  deriving DecidableEq, Repr

def WireEntry.ofListed (entry : ListedEntry) : WireEntry where
  entryType := entry.entryType
  itemType := entry.itemType
  itemNumber := entry.itemNumber
  itemQuantity := entry.itemQuantity
  rolls := entry.rolls
  frontierPoints := wireAmount entry.frontierPoints
  dailyLimit := entry.dailyLimit
  name := Wire.textBody (entry.name.getD "")
  items := entry.items

def entryLine : Reader WireEntry := do
  let entryType ← u8
  let itemType ← u8
  let itemNumber ← u16
  let itemQuantity ← u16
  let rolls ← u8
  let frontierPoints ← u32
  let dailyLimit ← u16
  let name ← text
  let items ← counted item
  return { entryType, itemType, itemNumber, itemQuantity, rolls, frontierPoints, dailyLimit, name,
           items }

theorem reads_listedEntry {entry : ListedEntry} {bytes : Bytes}
    (h : listedEntry entry = .ok bytes) : Reads entryLine bytes (.ofListed entry) := by
  obtain ⟨count, hcount, hbytes⟩ := exists_of_bind_ok h
  cases hbytes
  have hitems := reads_counted hcount (reads_many_flatMap reads_item)
  rw [List.map_id'] at hitems
  simp only [List.append_assoc]
  refine (reads_u8 _).bind ((reads_u8 _).bind ((reads_u16 _).bind ((reads_u16 _).bind ?_)))
  refine (reads_u8 _).bind ((reads_u32 _).bind ((reads_u16 _).bind ((reads_text _).bind ?_)))
  exact hitems.map rfl

structure WireGacha where
  id : GachaId
  minGr : UInt32
  minHr : UInt32
  gachaType : UInt8
  wide : Bool
  recommended : Bool
  name : Bytes
  urlBanner : Bytes
  urlFeature : Bytes
  urlThumbnail : Bytes
  entries : List WireEntry
  deriving DecidableEq, Repr

def WireGacha.ofListing (listing : GachaListing) : WireGacha where
  id := listing.gacha.id
  minGr := listing.gacha.minGr
  minHr := listing.gacha.minHr
  gachaType := listing.gacha.gachaType
  wide := listing.gacha.wide
  recommended := listing.gacha.recommended
  name := Wire.textBody listing.gacha.name
  urlBanner := Wire.textBody listing.gacha.urlBanner
  urlFeature := Wire.textBody listing.gacha.urlFeature
  urlThumbnail := Wire.textBody listing.gacha.urlThumbnail
  entries := listing.entries.map .ofListed

def gachaLines : Reader WireGacha := do
  let id ← u32
  let minGr ← u32
  let minHr ← u32
  let gachaType ← u8
  let wide ← flag
  let recommended ← flag
  let name ← text
  let urlBanner ← text
  let urlFeature ← text
  let urlThumbnail ← text
  let entries ← counted entryLine
  return { id, minGr, minHr, gachaType, wide, recommended, name, urlBanner, urlFeature,
           urlThumbnail, entries }

theorem reads_gachaListing {listing : GachaListing} {bytes : Bytes}
    (h : gachaListing listing = .ok bytes) : Reads gachaLines bytes (.ofListing listing) := by
  obtain ⟨count, hcount, hrest⟩ := exists_of_bind_ok h
  obtain ⟨parts, hparts, hbytes⟩ := exists_of_bind_ok hrest
  cases hbytes
  have hentries := reads_counted hcount (reads_many (fun _ _ => reads_listedEntry) hparts)
  simp only [gachaHead, List.append_assoc]
  refine (reads_u32 _).bind ((reads_u32 _).bind ((reads_u32 _).bind ((reads_u8 _).bind ?_)))
  refine (reads_flag _).bind ((reads_flag _).bind ((reads_text _).bind ((reads_text _).bind ?_)))
  refine (reads_text _).bind ((reads_text _).bind ?_)
  exact hentries.map rfl

def listingLines : Reader (List WireGacha) := do
  let count ← u16
  many gachaLines count.toNat

def readListing (payload : Bytes) : Option (List WireGacha) := listingLines.whole payload

theorem readListing_listing {listings : List GachaListing} {payload : Bytes}
    (h : listing listings = .ok payload) :
    readListing payload = some (listings.map .ofListing) := by
  obtain ⟨count, hcount, hrest⟩ := exists_of_bind_ok h
  obtain ⟨parts, hparts, hpayload⟩ := exists_of_bind_ok hrest
  cases hpayload
  obtain ⟨rfl, hsize⟩ := count16_ok hcount
  have hmany := reads_many (fun _ _ => reads_gachaListing) hparts
  rw [← hsize] at hmany
  exact ((reads_u16 _).bind hmany).whole

end Reply

end PrizeDraw
