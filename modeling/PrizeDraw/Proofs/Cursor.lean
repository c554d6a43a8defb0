import PrizeDraw.Proofs.Buffers
import PrizeDraw.Proofs.Replies

namespace PrizeDraw

namespace Wire

inductive Call where
  | u8
  | u16
  | u32
  | item
  deriving DecidableEq, Repr

namespace Call

def widths : Call → List Nat
  | .u8 => [1]
  | .u16 => [2]
  | .u32 => [4]
  | .item => [1, 2, 2]

def width (call : Call) : Nat := call.widths.sum

def read : Call → Bytes → Option (List Nat) × Bytes
  | .u8, bytes => (readU8 bytes).map (Option.map fun v => [v.toNat]) id
  | .u16, bytes => (readU16 bytes).map (Option.map fun v => [v.toNat]) id
  | .u32, bytes => (readU32 bytes).map (Option.map fun v => [v.toNat]) id
  | .item, bytes =>
      (RewardItem.read bytes).map
        (Option.map fun item => [item.itemType.toNat, item.itemId.toNat, item.quantity.toNat]) id

def readAll : List Call → Bytes → List (Option (List Nat)) × Bytes
  | [], bytes => ([], bytes)
  | call :: calls, bytes =>
      let (answer, rest) := call.read bytes
      let (answers, rest) := readAll calls rest
      (answer :: answers, rest)

theorem readAll_append (front back : List Call) (bytes : Bytes) :
    readAll (front ++ back) bytes =
      ((readAll front bytes).1 ++ (readAll back (readAll front bytes).2).1,
        (readAll back (readAll front bytes).2).2) := by
  induction front generalizing bytes with
  | nil => rfl
  | cons call calls ih => simp only [List.cons_append, readAll, ih]

end Call

namespace Field

def calls : Field → List Call
  | .u8 _ => [.u8]
  | .u16 _ => [.u16]
  | .u32 _ => [.u32]
  | .flag _ => [.u8]
  | .raw bytes => bytes.map fun _ => .u8

def answers : Field → List (Option (List Nat))
  | .u8 v => [some [v.toNat]]
  | .u16 v => [some [v.toNat]]
  | .u32 v => [some [v.toNat]]
  | .flag b => [some [b.toNat]]
  | .raw bytes => bytes.map fun byte => some [byte.toNat]

theorem readAll_encode (field : Field) (rest : Bytes) :
    Call.readAll field.calls (field.encode ++ rest) = (field.answers, rest) := by
  cases field with
  | u8 v => rfl
  | u16 v => simp [calls, encode, answers, Call.readAll, Call.read, readU16_u16]
  | u32 v => simp [calls, encode, answers, Call.readAll, Call.read, readU32_u32]
  | flag b => cases b <;> rfl
  | raw bytes =>
      induction bytes with
      | nil => rfl
      | cons byte bytes ih =>
          simp only [calls, encode, answers] at ih ⊢
          rw [List.map_cons, List.map_cons, List.cons_append, Call.readAll, Call.read, readU8]
          simp only [Prod.map_apply, Option.map_some, id_eq, ih]

theorem readAll_frame (fields : List Field) :
    Call.readAll (fields.flatMap calls) (frame fields) = (fields.flatMap answers, []) := by
  induction fields with
  | nil => rfl
  | cons field fields ih =>
      have hframe : frame (field :: fields) = field.encode ++ frame fields := rfl
      rw [hframe, List.flatMap_cons, List.flatMap_cons, Call.readAll_append, readAll_encode, ih]

end Field

theorem bigEndian_pair (a b : UInt8) :
    bigEndian [a, b] = (a.toUInt16 <<< 8 ||| b.toUInt16).toNat := by
  rw [toNat_join, bigEndian, List.foldl_cons, List.foldl_cons, List.foldl_nil]
  omega

theorem bigEndian_quad (a b c d : UInt8) :
    bigEndian [a, b, c, d] =
      (a.toUInt32 <<< 24 ||| b.toUInt32 <<< 16 ||| c.toUInt32 <<< 8 ||| d.toUInt32).toNat := by
  have ha := a.toNat_lt
  have hb := b.toNat_lt
  have hc := c.toNat_lt
  have hd := d.toNat_lt
  have shifted (n k : Nat) (hk : n * 2 ^ k < 2 ^ 32) : n <<< k % 2 ^ 32 = n * 2 ^ k := by
    rw [Nat.shiftLeft_eq, Nat.mod_eq_of_lt hk]
  have joined (high low k : Nat) (hlow : low < 2 ^ k) :
      high * 2 ^ k ||| low = high * 2 ^ k + low := by
    rw [← Nat.shiftLeft_eq, ← Nat.shiftLeft_add_eq_or_of_lt hlow]
  simp only [UInt32.toNat_or, UInt32.toNat_shiftLeft, UInt8.toNat_toUInt32, UInt32.reduceToNat,
    Nat.reduceMod, Nat.or_assoc]
  -- The bytes are joined from the right, so that each part lies below the one it is joined to.
  rw [shifted _ 24 (by omega), shifted _ 16 (by omega), shifted _ 8 (by omega),
    joined _ _ 8 (by omega), joined _ _ 16 (by omega), joined _ _ 24 (by omega)]
  simp only [bigEndian, List.foldl_cons, List.foldl_nil]
  omega

/-- How many bytes the leading fields take that fit whole into some room. -/
def fitting : List Nat → Nat → Nat
  | [], _ => 0
  | width :: widths, room => if width ≤ room then width + fitting widths (room - width) else 0

theorem fitting_le (widths : List Nat) (room : Nat) : fitting widths room ≤ room := by
  induction widths generalizing room with
  | nil => exact Nat.zero_le room
  | cons width widths ih =>
      have hrest := ih (room - width)
      rw [fitting]
      split <;> omega

def numbers : List Nat → Bytes → List Nat
  | [], _ => []
  | width :: widths, bytes => bigEndian (bytes.take width) :: numbers widths (bytes.drop width)

namespace Call

theorem read_of_fits {call : Call} {bytes : Bytes} (h : call.width ≤ bytes.length) :
    call.read bytes = (some (numbers call.widths bytes), bytes.drop call.width) := by
  match call, bytes with
  | .u8, a :: rest => simp [read, readU8, width, widths, numbers, bigEndian]
  | .u16, a :: b :: rest => simp [read, readU16, width, widths, numbers, bigEndian_pair]
  | .u32, a :: b :: c :: d :: rest =>
      simp [read, readU32, width, widths, numbers, bigEndian_quad]
  | .item, a :: b :: c :: d :: e :: rest =>
      have hone : bigEndian [a] = a.toNat := by simp [bigEndian]
      simp [read, RewardItem.read, readU8, readU16, width, widths, numbers, hone, bigEndian_pair]

theorem read_item_of_short {bytes : Bytes} (h : bytes.length < width .item) :
    Call.item.read bytes = (none, bytes.drop (fitting [1, 2, 2] bytes.length)) := by
  match bytes with
  | [] | [_] | [_, _] | [_, _, _] | [_, _, _, _] => rfl

theorem read_number_of_short {call : Call} {bytes : Bytes} (hcall : call ≠ .item)
    (h : bytes.length < call.width) : call.read bytes = (none, bytes) := by
  match call, bytes with
  | .u8, [] => rfl
  | .u16, [] | .u16, [_] => rfl
  | .u32, [] | .u32, [_] | .u32, [_, _] | .u32, [_, _, _] => rfl

inductive Step (bytes : Bytes) (position : Nat) (call : Call) : Option (List Nat) → Nat → Prop where
  | whole (fits : position + call.width ≤ bytes.length) :
      Step bytes position call (some (numbers call.widths (bytes.drop position)))
        (position + call.width)
  | number (short : bytes.length < position + call.width) (scalar : call ≠ .item) :
      Step bytes position call none position
  | item (short : bytes.length < position + call.width) (compound : call = .item) :
      Step bytes position call none (position + fitting [1, 2, 2] (bytes.length - position))

theorem exists_step {bytes : Bytes} {position : Nat} (call : Call)
    (inside : position ≤ bytes.length) :
    ∃ next, Step bytes position call (call.read (bytes.drop position)).1 next ∧
      (call.read (bytes.drop position)).2 = bytes.drop next := by
  have hroom : (bytes.drop position).length = bytes.length - position := List.length_drop
  by_cases hfits : position + call.width ≤ bytes.length
  · refine ⟨position + call.width, ?_, ?_⟩
    · rw [read_of_fits (by omega)]
      exact .whole hfits
    · rw [read_of_fits (by omega), List.drop_drop]
  have hshort : bytes.length < position + call.width := Nat.lt_of_not_le hfits
  by_cases hcall : call = .item
  · subst hcall
    refine ⟨position + fitting [1, 2, 2] (bytes.length - position), ?_, ?_⟩
    · rw [read_item_of_short (by omega)]
      exact .item hshort rfl
    · rw [read_item_of_short (by omega), List.drop_drop, hroom]
  · refine ⟨position, ?_, ?_⟩
    · rw [read_number_of_short hcall (by omega)]
      exact .number hshort hcall
    · rw [read_number_of_short hcall (by omega)]

theorem Step.inside {bytes : Bytes} {position next : Nat} {call : Call} {answer : Option (List Nat)}
    (h : Step bytes position call answer next) (inside : position ≤ bytes.length) :
    next ≤ bytes.length := by
  cases h with
  | whole fits => exact fits
  | number _ _ => exact inside
  | item _ _ =>
      have hfitting := fitting_le [1, 2, 2] (bytes.length - position)
      omega

inductive Run (bytes : Bytes) : Nat → List Call → List (Option (List Nat)) → Nat → Prop where
  | done {position : Nat} (inside : position ≤ bytes.length) : Run bytes position [] [] position
  | step {position next last : Nat} {call : Call} {calls : List Call} {answer : Option (List Nat)}
      {answers : List (Option (List Nat))} (inside : position ≤ bytes.length)
      (first : Step bytes position call answer next) (others : Run bytes next calls answers last) :
      Run bytes position (call :: calls) (answer :: answers) last

theorem exists_run {bytes : Bytes} {position : Nat} (calls : List Call)
    (inside : position ≤ bytes.length) :
    ∃ last, Run bytes position calls (readAll calls (bytes.drop position)).1 last ∧
      (readAll calls (bytes.drop position)).2 = bytes.drop last ∧ last ≤ bytes.length := by
  induction calls generalizing position with
  | nil => exact ⟨position, .done inside, rfl, inside⟩
  | cons call calls ih =>
      obtain ⟨next, hstep, hrest⟩ := exists_step call inside
      obtain ⟨last, hrun, hlast, hinside⟩ := ih (hstep.inside inside)
      rw [← hrest] at hrun hlast
      exact ⟨last, .step inside hstep hrun, hlast, hinside⟩

end Call

theorem frames_read_back :
    (∀ fields : List Field,
      Call.readAll (fields.flatMap Field.calls) (frame fields) =
        (fields.flatMap Field.answers, [])) ∧
    ∀ (bytes : Bytes) (calls : List Call), ∃ last,
      Call.Run bytes 0 calls (Call.readAll calls bytes).1 last ∧
        (Call.readAll calls bytes).2 = bytes.drop last ∧
        last + (Call.readAll calls bytes).2.length = bytes.length := by
  refine ⟨Field.readAll_frame, fun bytes calls => ?_⟩
  obtain ⟨last, hrun, hrest, hinside⟩ := Call.exists_run calls (Nat.zero_le bytes.length)
  rw [List.drop_zero] at hrun hrest
  refine ⟨last, hrun, hrest, ?_⟩
  rw [hrest, List.length_drop]
  omega

example : Call.readAll [.u8, .u32, .item, .u8] [0xab, 0x05, 0x00, 0x10] =
    ([some [0xab], none, none, none], []) := by decide

end Wire

end PrizeDraw
