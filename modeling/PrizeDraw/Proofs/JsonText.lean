import PrizeDraw.Json.Printer
import PrizeDraw.Json.Reader
import PrizeDraw.Proofs.IntegerTexts

namespace PrizeDraw

namespace Numeral

structure IsLiteral (n : Numeral) : Prop where
  whole : n.whole = ['0'] ∨ Decimal.IsDigits n.whole ∧ n.whole.head? ≠ some '0'
  fraction : ∀ c ∈ n.fraction, c.isDigit = true
  exponent : ∀ sign ds, n.exponent = some (sign, ds) → Decimal.IsDigits ds

theorem IsLiteral.exists_digit {n : Numeral} (h : n.IsLiteral) :
    ∃ c others, n.whole = c :: others ∧ c.isDigit = true := by
  obtain hzero | ⟨hdigits, -⟩ := h.whole
  · exact ⟨'0', [], hzero, by decide⟩
  · obtain ⟨c, others, hwhole⟩ := List.exists_cons_of_ne_nil hdigits.1
    exact ⟨c, others, hwhole, hdigits.2 c (hwhole ▸ List.mem_cons_self)⟩

end Numeral

namespace Json

namespace Reader

def EndsDigits (rest : List Char) : Prop := ∀ c ∈ rest.head?, c.isDigit = false

def EndsNumeral (rest : List Char) : Prop :=
  ∀ c ∈ rest.head?, c.isDigit = false ∧ c ≠ '.' ∧ c ≠ 'e' ∧ c ≠ 'E'

theorem spanDigits_append {ds rest : List Char} (hds : ∀ c ∈ ds, c.isDigit = true)
    (hrest : EndsDigits rest) : spanDigits (ds ++ rest) = (ds, rest) := by
  have hnone : rest.takeWhile Char.isDigit = [] ∧ rest.dropWhile Char.isDigit = rest := by
    cases rest with
    | nil => exact ⟨rfl, rfl⟩
    | cons c rest =>
        have hc : ¬ c.isDigit = true := Bool.eq_false_iff.mp (hrest c rfl)
        exact ⟨List.takeWhile_cons_of_neg hc, List.dropWhile_cons_of_neg hc⟩
  rw [spanDigits, List.takeWhile_append_of_pos hds, List.dropWhile_append_of_pos hds, hnone.1,
    hnone.2, List.append_nil]

theorem digits?_append {ds rest : List Char} (hds : Decimal.IsDigits ds)
    (hrest : EndsDigits rest) : digits? (ds ++ rest) = some (ds, rest) := by
  rw [digits?, spanDigits_append hds.2 hrest]
  obtain ⟨c, others, rfl⟩ := List.exists_cons_of_ne_nil hds.1
  rfl

theorem whole?_append {n : Numeral} (h : n.IsLiteral) {rest : List Char}
    (hrest : EndsDigits rest) :
    whole? (n.whole ++ rest) = some (n.whole, rest) := by
  obtain hzero | ⟨hdigits, hhead⟩ := h.whole
  · rw [hzero, whole?, spanDigits_append (List.forall_mem_singleton.mpr (by decide)) hrest]
    rfl
  · rw [whole?, spanDigits_append hdigits.2 hrest]
    obtain ⟨c, others, hwhole⟩ := List.exists_cons_of_ne_nil hdigits.1
    rw [hwhole] at hhead ⊢
    have hc : c ≠ '0' := fun heq => hhead (congrArg some heq)
    simp [hc]

theorem fraction?_append {ds rest : List Char} (hds : ∀ c ∈ ds, c.isDigit = true)
    (hrest : EndsDigits rest) (hpoint : rest.head? ≠ some '.') :
    fraction? ((if ds.isEmpty then [] else '.' :: ds) ++ rest) = some (ds, rest) := by
  cases ds with
  | nil =>
      cases rest with
      | nil => rfl
      | cons c rest =>
          have hc : c ≠ '.' := fun heq => hpoint (congrArg some heq)
          simp [fraction?, hc]
  | cons d ds => exact digits?_append ⟨List.cons_ne_nil d ds, hds⟩ hrest

theorem signedDigits?_append (sign : Bool) {ds rest : List Char} (hds : Decimal.IsDigits ds)
    (hrest : EndsDigits rest) :
    signedDigits? ((if sign then '-' :: ds else ds) ++ rest) = some ((sign, ds), rest) := by
  cases sign with
  | true =>
      rw [if_pos rfl, List.cons_append, signedDigits?, digits?_append hds hrest]
      rfl
  | false =>
      rw [if_neg Bool.false_ne_true]
      obtain ⟨c, others, rfl⟩ := List.exists_cons_of_ne_nil hds.1
      have hc : c.isDigit = true := hds.2 c List.mem_cons_self
      have hminus : c ≠ '-' := by rintro rfl; exact absurd hc (by decide)
      have hplus : c ≠ '+' := by rintro rfl; exact absurd hc (by decide)
      rw [List.cons_append, signedDigits?, ← List.cons_append, digits?_append hds hrest]
      · rfl
      · exact fun other => fun heq => hminus (List.cons.inj heq).1
      · exact fun other => fun heq => hplus (List.cons.inj heq).1

theorem exponent?_append {exponent : Option (Bool × List Char)} {rest : List Char}
    (hexponent : ∀ sign ds, exponent = some (sign, ds) → Decimal.IsDigits ds)
    (hrest : EndsNumeral rest) :
    exponent? (Printer.exponentChars exponent ++ rest) = some (exponent, rest) := by
  cases exponent with
  | none =>
      cases rest with
      | nil => rfl
      | cons c rest =>
          obtain ⟨-, -, hlower, hupper⟩ := hrest c rfl
          simp [Printer.exponentChars, exponent?, hlower, hupper]
  | some exponent =>
      obtain ⟨sign, ds⟩ := exponent
      have hchars : Printer.exponentChars (some (sign, ds)) =
          'e' :: (if sign then '-' :: ds else ds) := by cases sign <;> rfl
      have hsigned := signedDigits?_append sign (hexponent sign ds rfl)
        (fun c hc => (hrest c hc).1)
      rw [hchars, List.cons_append, exponent?, if_pos (by decide), hsigned]
      rfl

theorem head?_exponentChars (exponent : Option (Bool × List Char)) {rest : List Char}
    (hrest : EndsNumeral rest) :
    ∀ c ∈ (Printer.exponentChars exponent ++ rest).head?, c.isDigit = false ∧ c ≠ '.' := by
  intro c hc
  match exponent with
  | none => exact ⟨(hrest c hc).1, (hrest c hc).2.1⟩
  | some (true, _) | some (false, _) =>
      obtain rfl := Option.some.inj hc
      decide

theorem head?_fractionChars {ds rest : List Char} (hrest : EndsDigits rest) :
    EndsDigits ((if ds.isEmpty then [] else '.' :: ds) ++ rest) := by
  intro c hc
  cases ds with
  | nil => exact hrest c hc
  | cons d ds =>
      obtain rfl := Option.some.inj hc
      decide

theorem unsigned?_append {n : Numeral} (h : n.IsLiteral) {rest : List Char}
    (hrest : EndsNumeral rest) :
    unsigned? n.negative (n.whole ++ ((if n.fraction.isEmpty then [] else '.' :: n.fraction) ++
      (Printer.exponentChars n.exponent ++ rest))) = some (n, rest) := by
  have hexponent := head?_exponentChars n.exponent hrest
  have hdigits : EndsDigits (Printer.exponentChars n.exponent ++ rest) :=
    fun c hc => (hexponent c hc).1
  have hpoint : (Printer.exponentChars n.exponent ++ rest).head? ≠ some '.' :=
    fun heq => (hexponent '.' heq).2 rfl
  rw [unsigned?, whole?_append h (head?_fractionChars hdigits), Option.bind_eq_bind,
    Option.bind_some]
  dsimp only
  rw [fraction?_append h.fraction hdigits hpoint, Option.bind_eq_bind, Option.bind_some]
  dsimp only
  rw [exponent?_append h.exponent hrest]
  rfl

theorem numeral?_numeralChars {n : Numeral} (h : n.IsLiteral) {rest : List Char}
    (hrest : EndsNumeral rest) : numeral? (Printer.numeralChars n ++ rest) = some (n, rest) := by
  have hunsigned := unsigned?_append h hrest
  have hchars : Printer.numeralChars n ++ rest = (if n.negative then ['-'] else []) ++ (n.whole ++
      ((if n.fraction.isEmpty then [] else '.' :: n.fraction) ++
        (Printer.exponentChars n.exponent ++ rest))) := by
    simp only [Printer.numeralChars, List.append_assoc]
  rw [hchars]
  cases hsign : n.negative with
  | true =>
      rw [hsign] at hunsigned
      exact hunsigned
  | false =>
      rw [hsign] at hunsigned
      obtain ⟨c, others, hwhole, hc⟩ := h.exists_digit
      rw [if_neg Bool.false_ne_true, List.nil_append, numeral?, hunsigned]
      rintro minus heq
      rw [hwhole] at heq
      rw [(List.cons.inj heq).1] at hc
      exact absurd hc (by decide)

theorem exists_numeralChars {n : Numeral} (h : n.IsLiteral) :
    ∃ c others, Printer.numeralChars n = c :: others ∧ (c = '-' ∨ c.isDigit = true) := by
  obtain ⟨c, others, hwhole, hc⟩ := h.exists_digit
  rw [Printer.numeralChars, hwhole]
  cases n.negative with
  | true => exact ⟨'-', _, rfl, .inl rfl⟩
  | false => exact ⟨c, _, rfl, .inr hc⟩

def pieceOf (c : Char) : Piece :=
  if c == '"' || c == '\\' then .char c else if c < ' ' then .unit c.toNat else .char c

theorem value?_digits {n : Nat} (h : n < 32) :
    ∃ a b c d, Hex.digits 4 n = [a, b, c, d] ∧ Hex.value? [a, b, c, d] = some n := by
  have all : ∀ n, n < 32 → Hex.value? (Hex.digits 4 n) = some n := by decide
  exact ⟨_, _, _, _, rfl, all n h⟩

theorem pieces?_charChars (c : Char) (rest : List Char) :
    pieces? (Printer.charChars c ++ rest) =
      (pieces? rest).map fun found => (pieceOf c :: found.1, found.2) := by
  rw [Printer.charChars, pieceOf]
  by_cases hescaped : (c == '"' || c == '\\') = true
  · rw [if_pos hescaped, if_pos hescaped]
    rw [Bool.or_eq_true, beq_iff_eq, beq_iff_eq] at hescaped
    obtain rfl | rfl := hescaped <;> cases hrest : pieces? rest <;> simp [pieces?, escaped?, hrest]
  rw [if_neg hescaped, if_neg hescaped]
  by_cases hcontrol : c < ' '
  · rw [if_pos hcontrol, if_pos hcontrol]
    obtain ⟨w, x, y, z, hdigits, hvalue⟩ := value?_digits (n := c.toNat) hcontrol
    rw [hdigits]
    cases hrest : pieces? rest <;> simp [pieces?, hvalue, hrest]
  · rw [Bool.or_eq_true, beq_iff_eq, beq_iff_eq, not_or] at hescaped
    rw [if_neg hcontrol, if_neg hcontrol, List.singleton_append, pieces?, if_neg hcontrol]
    · cases hrest : pieces? rest <;> rfl
    · exact hescaped.1
    · exact fun _ _ _ _ _ heq => absurd heq hescaped.2
    · exact fun _ _ heq => absurd heq hescaped.2

theorem characters?_unit {n : Nat} (h : n < 0xd800) (pieces : List Piece) :
    characters? (.unit n :: pieces) = (characters? pieces).map (Char.ofNat n :: ·) := by
  have hhigh : isHighHalf n = false := by simp [isHighHalf]; omega
  have hlow : isLowHalf n = false := by simp [isLowHalf]; omega
  match pieces with
  | [] | .char _ :: _ => simp [characters?, hhigh, hlow]
  | .unit low :: rest => simp [characters?, hhigh, hlow]

theorem characters?_pieceOf (c : Char) (pieces : List Piece) :
    characters? (pieceOf c :: pieces) = (characters? pieces).map (c :: ·) := by
  rw [pieceOf]
  split
  · rw [characters?]
  split
  · rename_i hcontrol
    have hunit : c.toNat < 0xd800 := Nat.lt_trans hcontrol (by decide)
    rw [characters?_unit hunit, Char.ofNat_toNat]
  · rw [characters?]

theorem pieces?_flatMap (cs rest : List Char) :
    pieces? (cs.flatMap Printer.charChars ++ '"' :: rest) = some (cs.map pieceOf, rest) := by
  induction cs with
  | nil => rfl
  | cons c cs ih =>
      rw [List.flatMap_cons, List.append_assoc, pieces?_charChars, ih]
      rfl

theorem characters?_map (cs : List Char) : characters? (cs.map pieceOf) = some cs := by
  induction cs with
  | nil => rfl
  | cons c cs ih =>
      rw [List.map_cons, characters?_pieceOf, ih]
      rfl

theorem quoted?_quoted (s : String) (rest : List Char) :
    quoted? (s.toList.flatMap Printer.charChars ++ '"' :: rest) = some (some s, rest) := by
  rw [quoted?, pieces?_flatMap, Option.bind_eq_bind, Option.bind_some]
  dsimp only
  rw [characters?_map, Option.map_some, String.ofList_toList]
  rfl

end Reader

inductive Writable : Json → Prop where
  | null : Writable .null
  | bool (b : Bool) : Writable (.bool b)
  | number {n : Numeral} (literal : n.IsLiteral) : Writable (.number n)
  | text (s : String) : Writable (Json.text s)
  | array {items : List Json} (each : ∀ item ∈ items, Writable item) : Writable (.array items)
  | object {members : List (String × Json)} (each : ∀ member ∈ members, Writable member.2) :
      Writable (ofMembers members)

open Reader Printer

def ReadsOff (j : Json) : Prop :=
  ∀ rest fuel, EndsNumeral rest → 2 * (chars j).length ≤ fuel →
    value? fuel (chars j ++ rest) = some (j, rest)

theorem skipBlank_cons {c : Char} (h : isBlank c = false) (rest : List Char) :
    skipBlank (c :: rest) = c :: rest :=
  List.dropWhile_cons_of_neg (Bool.eq_false_iff.mp h)

theorem opensNumeral {c : Char} (hc : c = '-' ∨ c.isDigit = true) :
    isBlank c = false ∧ c ∉ ['n', 't', 'f', '"', '[', '{', ']'] := by
  have hnone : ∀ other ∈ ['n', 't', 'f', '"', '[', '{', ']'],
      ¬ (other = '-' ∨ other.isDigit = true) := by simp
  refine ⟨Bool.eq_false_iff.mpr fun hblank => ?_, fun hmem => hnone c hmem hc⟩
  simp only [isBlank, Bool.or_eq_true, beq_iff_eq] at hblank
  obtain ((rfl | rfl) | rfl) | rfl := hblank <;> exact absurd hc (by decide)

theorem Writable.exists_chars {j : Json} (h : Writable j) :
    ∃ c others, chars j = c :: others ∧ isBlank c = false ∧ c ≠ ']' := by
  cases h with
  | null => exact ⟨_, _, rfl, by decide, by decide⟩
  | bool b => cases b <;> exact ⟨_, _, rfl, by decide, by decide⟩
  | number literal =>
      obtain ⟨c, others, hchars, hc⟩ := exists_numeralChars literal
      obtain ⟨hblank, hother⟩ := opensNumeral hc
      refine ⟨c, others, hchars, hblank, ?_⟩
      rintro rfl
      exact hother (by decide)
  | text s => exact ⟨_, _, rfl, by decide, by decide⟩
  | array each => exact ⟨_, _, rfl, by decide, by decide⟩
  | object each => exact ⟨_, _, rfl, by decide, by decide⟩

theorem endsNumeral_cons {c : Char}
    (h : c.isDigit = false ∧ c ≠ '.' ∧ c ≠ 'e' ∧ c ≠ 'E') (rest : List Char) :
    EndsNumeral (c :: rest) := by
  intro other hother
  obtain rfl := Option.some.inj hother
  exact h

theorem exists_itemsChars {items : List Json} (hne : items ≠ [])
    (each : ∀ item ∈ items, Writable item) :
    ∃ c others, itemsChars items = c :: others ∧ isBlank c = false ∧ c ≠ ']' := by
  obtain ⟨item, others, rfl⟩ := List.exists_cons_of_ne_nil hne
  obtain ⟨c, tail, hchars, hc⟩ := (each item List.mem_cons_self).exists_chars
  cases others with
  | nil => exact ⟨c, tail, by rw [itemsChars, hchars], hc⟩
  | cons next others =>
      refine ⟨c, tail ++ ',' :: itemsChars (next :: others), ?_, hc⟩
      rw [itemsChars, hchars]
      · rfl
      · exact nofun

theorem items?_itemsChars {items : List Json} (hne : items ≠ [])
    (hread : ∀ item ∈ items, ReadsOff item) (rest : List Char) (fuel : Nat)
    (hfuel : 2 * (itemsChars items).length + 1 ≤ fuel) :
    items? fuel (itemsChars items ++ ']' :: rest) = some (items, rest) := by
  induction items generalizing fuel with
  | nil => exact absurd rfl hne
  | cons item others ih =>
      obtain ⟨fuel, rfl⟩ : ∃ less, fuel = less + 1 := ⟨fuel - 1, by omega⟩
      have hitem := hread item List.mem_cons_self
      cases others with
      | nil =>
          rw [itemsChars] at hfuel ⊢
          rw [items?, hitem _ fuel (endsNumeral_cons (by decide) rest) (by omega)]
          rfl
      | cons next others =>
          have hchars : itemsChars (item :: next :: others) =
              chars item ++ ',' :: itemsChars (next :: others) := by rw [itemsChars]; simp
          have hrest := ih (List.cons_ne_nil _ _)
            (fun item hmem => hread item (List.mem_cons_of_mem _ hmem)) fuel
          rw [hchars, List.length_append, List.length_cons] at hfuel
          rw [hchars, List.append_assoc, List.cons_append, items?,
            hitem _ fuel (endsNumeral_cons (by decide) _) (by omega)]
          simp only [Option.bind_eq_bind, Option.bind_some, skipBlank_cons (c := ',') (by decide),
            hrest (by omega)]
          rfl

def named (members : List (String × Json)) : List (Option String × Json) :=
  members.map fun (name, value) => (some name, value)

theorem members?_member {name : String} {value : Json} (hvalue : ReadsOff value) {c : Char}
    (hblank : isBlank c = false) (hends : c.isDigit = false ∧ c ≠ '.' ∧ c ≠ 'e' ∧ c ≠ 'E')
    (tail : List Char) {fuel : Nat} (hfuel : 2 * (chars value).length ≤ fuel) :
    members? (fuel + 1) (quoted name ++ ':' :: (chars value ++ c :: tail)) =
      if c = '}' then some ([(some name, value)], tail)
      else if c = ',' then
        (members? fuel tail).map fun found => ((some name, value) :: found.1, found.2)
      else none := by
  have hread := hvalue _ fuel (endsNumeral_cons hends tail) hfuel
  simp only [members?, quoted, List.cons_append, List.append_assoc, List.nil_append,
    skipBlank_cons (c := '"') (by decide), quoted?_quoted, Option.bind_eq_bind, Option.bind_some,
    skipBlank_cons (c := ':') (by decide), hread, skipBlank_cons hblank]
  by_cases hbrace : c = '}'
  · subst hbrace
    rfl
  rw [if_neg hbrace]
  by_cases hcomma : c = ','
  · subst hcomma
    rw [if_pos rfl, Option.map_eq_bind]
    rfl
  · rw [if_neg hcomma]
    simp [hbrace, hcomma]

theorem exists_membersChars {members : List (String × Json)} (hne : members ≠ []) :
    ∃ tail, membersChars (named members) = '"' :: tail := by
  obtain ⟨⟨name, value⟩, others, rfl⟩ := List.exists_cons_of_ne_nil hne
  cases others with
  | nil => exact ⟨_, rfl⟩
  | cons next others => exact ⟨_, rfl⟩

theorem members?_membersChars {members : List (String × Json)} (hne : members ≠ [])
    (hread : ∀ member ∈ members, ReadsOff member.2) (rest : List Char) (fuel : Nat)
    (hfuel : 2 * (membersChars (named members)).length + 1 ≤ fuel) :
    members? fuel (membersChars (named members) ++ '}' :: rest) = some (named members, rest) := by
  induction members generalizing fuel with
  | nil => exact absurd rfl hne
  | cons member others ih =>
      obtain ⟨name, value⟩ := member
      obtain ⟨fuel, rfl⟩ : ∃ less, fuel = less + 1 := ⟨fuel - 1, by omega⟩
      have hvalue : ReadsOff value := hread (name, value) List.mem_cons_self
      cases others with
      | nil =>
          have hchars : membersChars (named [(name, value)]) =
              quoted name ++ ':' :: chars value := by simp [named, membersChars]
          rw [hchars, List.length_append, List.length_cons] at hfuel
          rw [hchars, List.append_assoc, List.cons_append,
            members?_member hvalue (by decide) (by decide) rest (by omega)]
          rfl
      | cons next others =>
          have hchars : membersChars (named ((name, value) :: next :: others)) = quoted name ++
              ':' :: (chars value ++ ',' :: membersChars (named (next :: others))) := by
            simp [named, membersChars]
          have hrest := ih (List.cons_ne_nil _ _)
            (fun member hmem => hread member (List.mem_cons_of_mem _ hmem)) fuel
          rw [hchars, List.length_append, List.length_cons, List.length_append,
            List.length_cons] at hfuel
          rw [hchars, List.append_assoc, List.cons_append, List.append_assoc, List.cons_append,
            members?_member hvalue (by decide) (by decide) _ (by omega), hrest (by omega)]
          rfl

theorem value?_numeral {n : Numeral} (h : n.IsLiteral) {rest : List Char}
    (hrest : EndsNumeral rest) (fuel : Nat) :
    value? (fuel + 1) (numeralChars n ++ rest) = some (.number n, rest) := by
  have hread := numeral?_numeralChars h hrest
  obtain ⟨c, others, hchars, hc⟩ := exists_numeralChars h
  obtain ⟨hblank, hother⟩ := opensNumeral hc
  have hne {start : Char} {after : List Char}
      (hstart : start ∈ ['n', 't', 'f', '"', '[', '{', ']']) : c :: (others ++ rest) ≠ start :: after :=
    fun heq => hother ((List.cons.inj heq).1 ▸ hstart)
  rw [hchars, List.cons_append] at hread ⊢
  rw [value?, skipBlank_cons hblank]
  split
  iterate 6 next heq => exact absurd heq (hne (by decide))
  rw [hread]
  rfl

theorem value?_text (s : String) (rest : List Char) (fuel : Nat) :
    value? (fuel + 1) (chars (Json.text s) ++ rest) = some (Json.text s, rest) := by
  simp only [Json.text, chars, quoted, Option.getD_some, List.cons_append, List.append_assoc,
    List.nil_append, value?, skipBlank_cons (c := '"') (by decide), quoted?_quoted,
    Option.bind_eq_bind, Option.bind_some]
  rfl

theorem value?_array {items : List Json} (each : ∀ item ∈ items, Writable item)
    (hread : ∀ item ∈ items, ReadsOff item) (rest : List Char) {fuel : Nat}
    (hfuel : 2 * (chars (.array items)).length ≤ fuel + 1) :
    value? (fuel + 1) (chars (.array items) ++ rest) = some (.array items, rest) := by
  cases items with
  | nil => rfl
  | cons item others =>
      have hne := List.cons_ne_nil item others
      obtain ⟨c, tail, hchars, hblank, hclosing⟩ := exists_itemsChars hne each
      simp only [chars, List.length_cons, List.length_append, List.length_nil] at hfuel
      have hitems := items?_itemsChars hne hread rest fuel (by omega)
      simp only [chars, List.cons_append, List.append_assoc, List.nil_append, value?,
        skipBlank_cons (c := '[') (by decide)]
      rw [hchars, List.cons_append] at hitems ⊢
      rw [skipBlank_cons hblank]
      split
      · rename_i heq
        exact absurd (List.cons.inj heq).1 hclosing
      · rw [hitems]
        rfl

theorem value?_object {members : List (String × Json)}
    (hread : ∀ member ∈ members, ReadsOff member.2) (rest : List Char) {fuel : Nat}
    (hfuel : 2 * (chars (ofMembers members)).length ≤ fuel + 1) :
    value? (fuel + 1) (chars (ofMembers members) ++ rest) = some (ofMembers members, rest) := by
  cases members with
  | nil => rfl
  | cons member others =>
      have hne := List.cons_ne_nil member others
      obtain ⟨tail, hchars⟩ := exists_membersChars hne
      have hobject : ofMembers (member :: others) = .object (named (member :: others)) := rfl
      simp only [hobject, chars, List.length_cons, List.length_append, List.length_nil] at hfuel
      have hmembers := members?_membersChars hne hread rest fuel (by omega)
      simp only [hobject, chars, List.cons_append, List.append_assoc, List.nil_append, value?,
        skipBlank_cons (c := '{') (by decide)]
      rw [hchars, List.cons_append] at hmembers ⊢
      rw [skipBlank_cons (c := '"') (by decide)]
      split
      · rename_i heq
        exact absurd (List.cons.inj heq).1 (by decide)
      · rw [hmembers]
        rfl

theorem Writable.readsOff_of_succ {j : Json} (h : Writable j)
    (hread : ∀ rest fuel, EndsNumeral rest → 2 * (chars j).length ≤ fuel + 1 →
      value? (fuel + 1) (chars j ++ rest) = some (j, rest)) : ReadsOff j := by
  intro rest fuel hrest hfuel
  obtain ⟨c, others, hchars, -⟩ := h.exists_chars
  have hlength : 0 < (chars j).length := by rw [hchars]; exact Nat.succ_pos _
  obtain ⟨less, rfl⟩ : ∃ less, fuel = less + 1 := ⟨fuel - 1, by omega⟩
  exact hread rest less hrest hfuel

theorem Writable.readsOff {j : Json} (h : Writable j) : ReadsOff j := by
  induction h with
  | null => exact Writable.null.readsOff_of_succ fun _ _ _ _ => rfl
  | bool b =>
      refine (Writable.bool b).readsOff_of_succ fun _ _ _ _ => ?_
      cases b <;> rfl
  | number literal =>
      exact (Writable.number literal).readsOff_of_succ fun _ fuel hrest _ =>
        value?_numeral literal hrest fuel
  | text s => exact (Writable.text s).readsOff_of_succ fun rest fuel _ _ => value?_text s rest fuel
  | array each ih =>
      exact (Writable.array each).readsOff_of_succ fun rest _ _ hfuel =>
        value?_array each ih rest hfuel
  | object each ih =>
      exact (Writable.object each).readsOff_of_succ fun rest _ _ hfuel =>
        value?_object ih rest hfuel

theorem parse?_render {j : Json} (h : Writable j) : parse? j.render = some j := by
  have hread := h.readsOff [] (enough (chars j)) nofun (by unfold enough; omega)
  rw [List.append_nil] at hread
  rw [parse?, render, String.toList_ofList, ofChars?, hread]
  rfl

end Json

end PrizeDraw
