import PrizeDraw.Amount
import PrizeDraw.Proofs.IntegerTexts

namespace PrizeDraw

namespace Blank

def Padded (text padded : List Char) : Prop :=
  ∃ before after, padded = before ++ text ++ after ∧
    (∀ c ∈ before, isBlank c = true) ∧ ∀ c ∈ after, isBlank c = true

theorem dropWhile_blanks {blanks text : List Char} (hblanks : ∀ c ∈ blanks, isBlank c = true)
    (htext : ∀ c ∈ text, isBlank c = false) (hne : text ≠ []) (rest : List Char) :
    (blanks ++ (text ++ rest)).dropWhile isBlank = text ++ rest := by
  rw [List.dropWhile_append_of_pos hblanks]
  obtain ⟨c, others, rfl⟩ := List.exists_cons_of_ne_nil hne
  rw [List.cons_append]
  exact List.dropWhile_cons_of_neg (Bool.eq_false_iff.mp (htext c List.mem_cons_self))

theorem trimChars_padded {text padded : List Char} (h : Padded text padded)
    (htext : ∀ c ∈ text, isBlank c = false) (hne : text ≠ []) : trimChars padded = text := by
  obtain ⟨before, after, rfl, hbefore, hafter⟩ := h
  have hback : ∀ c ∈ after.reverse, isBlank c = true := fun c hc =>
    hafter c (List.mem_reverse.mp hc)
  have hturned : ∀ c ∈ text.reverse, isBlank c = false := fun c hc =>
    htext c (List.mem_reverse.mp hc)
  have hlast := dropWhile_blanks hback hturned (List.reverse_ne_nil_iff.mpr hne) []
  rw [List.append_nil] at hlast
  rw [trimChars, List.append_assoc, dropWhile_blanks hbefore htext hne, List.reverse_append, hlast,
    List.reverse_reverse]

theorem isBlank_of_isDigit {c : Char} (h : c.isDigit = true) : isBlank c = false := by
  have hrange : 48 ≤ c.toNat ∧ c.toNat ≤ 57 := by
    rw [Char.isDigit, Bool.and_eq_true, decide_eq_true_eq, decide_eq_true_eq] at h
    exact h
  simp only [isBlank, ranges, List.any_cons, List.any_nil]
  simp
  omega

end Blank

namespace IntegerText

theorem Written.ne_nil {signed : Bool} {cs : List Char} {n : Int} (h : Written signed cs n) :
    cs ≠ [] := by
  cases h with
  | plain digits => exact digits.1
  | plus digits => exact List.cons_ne_nil _ _
  | minus digits sign => exact List.cons_ne_nil _ _

theorem Written.isBlank_eq_false {signed : Bool} {cs : List Char} {n : Int}
    (h : Written signed cs n) : ∀ c ∈ cs, Blank.isBlank c = false := by
  have hdigits {ds : List Char} (digits : Decimal.IsDigits ds) :
      ∀ c ∈ ds, Blank.isBlank c = false := fun c hc => Blank.isBlank_of_isDigit (digits.2 c hc)
  cases h with
  | plain digits => exact hdigits digits
  | plus digits => exact List.forall_mem_cons.mpr ⟨by decide, hdigits digits⟩
  | minus digits sign => exact List.forall_mem_cons.mpr ⟨by decide, hdigits digits⟩

namespace Range

theorem within_i64 (n : Int64) : -(i64.low : Int) ≤ n.toInt ∧ n.toInt ≤ i64.high :=
  ⟨Amount.lowest_le_toInt n, Amount.toInt_le_highest n⟩

theorem within_u64 (n : UInt64) : -(u64.low : Int) ≤ n.toNat ∧ (n.toNat : Int) ≤ u64.high := by
  have hbound := n.toNat_lt
  change -(0 : Int) ≤ n.toNat ∧ (n.toNat : Int) ≤ 18446744073709551615
  omega

theorem within_u32 (n : UInt32) : -(u32.low : Int) ≤ n.toNat ∧ (n.toNat : Int) ≤ u32.high := by
  have hbound := n.toNat_lt
  change -(0 : Int) ≤ n.toNat ∧ (n.toNat : Int) ≤ 4294967295
  omega

end Range

end IntegerText

namespace Environment

def Holds (env : Environment) (key text : String) : Prop :=
  env.bytes? key = some (Wire.utf8 text.toList)

theorem toByteArray_eq (text : String) :
    text.toByteArray = ByteArray.mk (Wire.utf8 text.toList).toArray := by
  apply ByteArray.ext
  conv => lhs; rw [← text.ofList_toList, String.toByteArray_ofList]
  exact List.data_toByteArray

theorem fromUTF8?_eq_some_iff {bytes : Bytes} {text : String} :
    String.fromUTF8? (ByteArray.mk bytes.toArray) = some text ↔
      bytes = Wire.utf8 text.toList := by
  have hbytes : ByteArray.mk bytes.toArray = text.toByteArray ↔ bytes = Wire.utf8 text.toList := by
    rw [toByteArray_eq, ByteArray.mk.injEq, ← Array.toList_inj]
  rw [← hbytes, String.fromUTF8?]
  constructor
  · intro h
    split at h
    · obtain rfl := Option.some.inj h
      rfl
    · cases h
  · intro h
    have hvalid : (ByteArray.mk bytes.toArray).IsValidUTF8 := h ▸ text.isValidUTF8
    rw [dif_pos hvalid]
    exact congrArg some (String.toByteArray_inj.mp h)

theorem get?_eq_some_iff {env : Environment} {key text : String} :
    env.get? key = some text ↔ env.Holds key text := by
  rw [get?, Holds, Option.bind_eq_some_iff]
  simp only [fromUTF8?_eq_some_iff]
  constructor
  · rintro ⟨bytes, hbytes, rfl⟩
    exact hbytes
  · intro h
    exact ⟨_, h, rfl⟩

def Shows (env : Environment) (key : String) : Option String → Prop
  | none => env.bytes? key = none
  | some number => ∃ text, env.Holds key text ∧ Blank.Padded number.toList text.toList

def IsNumber (signed : Bool) (low high : Int) (text : String) : Prop :=
  ∃ n, IntegerText.Written signed (Blank.trimChars text.toList) n ∧ low ≤ n ∧ n ≤ high

def Garbled (env : Environment) (key : String) : Prop :=
  ∃ bytes, env.bytes? key = some bytes ∧ ∀ text : String, bytes ≠ Wire.utf8 text.toList

def Misset (env : Environment) (key : String) (signed : Bool) (low high : Int) : Prop :=
  ∃ bytes, env.bytes? key = some bytes ∧
    ∀ text : String, bytes = Wire.utf8 text.toList → ¬ IsNumber signed low high text

section

variable {α : Type} {env : Environment} {key text : String} {range : IntegerText.Range}
  {make : Int → α} {a : α}

theorem read_integer_eq_ok_iff :
    read key (ValueReader.integer range make) text = .ok a ↔
      ∃ n, (IntegerText.Written range.isSigned (Blank.trimChars text.toList) n ∧
        -(range.low : Int) ≤ n ∧ n ≤ range.high) ∧ make n = a := by
  simp only [← IntegerText.read_eq_ok_iff]
  rw [read, ValueReader.integer, Blank.trim, String.toList_ofList]
  cases IntegerText.read range (Blank.trimChars text.toList) with
  | error fault => exact iff_of_false (fun h => nomatch h) fun ⟨n, h, _⟩ => nomatch h
  | ok n =>
      constructor
      · intro h
        exact ⟨n, rfl, Except.ok.inj h⟩
      · rintro ⟨m, hm, rfl⟩
        rw [Except.ok.inj hm]
        rfl

theorem get?_eq_none_iff : env.get? key = none ↔ ∀ text, ¬ env.Holds key text := by
  rw [Option.eq_none_iff_forall_ne_some]
  exact forall_congr' fun text => not_congr get?_eq_some_iff

theorem Holds.unique {other : String} (h : env.Holds key text) (hother : env.Holds key other) :
    text = other := by
  rw [← get?_eq_some_iff] at h hother
  exact Option.some.inj (h.symm.trans hother)

theorem exists_holds_iff {P : String → Prop} (h : env.get? key = some text) :
    (∃ found, env.Holds key found ∧ P found) ↔ P text := by
  constructor
  · rintro ⟨found, hfound, hp⟩
    exact hfound.unique (get?_eq_some_iff.mp h) ▸ hp
  · exact fun hp => ⟨text, get?_eq_some_iff.mp h, hp⟩

theorem valueOr_of_no_text {reader : ValueReader α} (h : ∀ text, ¬ env.Holds key text) :
    env.valueOr key reader a = .ok a := by
  rw [valueOr, get?_eq_none_iff.mpr h]

theorem value?_of_no_text {reader : ValueReader α} (h : ∀ text, ¬ env.Holds key text) :
    env.value? key reader = .ok none := by
  rw [value?, get?_eq_none_iff.mpr h]

theorem not_holds_of_unset (h : env.bytes? key = none) (text : String) : ¬ env.Holds key text := by
  rw [Holds, h]
  exact nofun

theorem no_text_iff : (∀ text, ¬ env.Holds key text) ↔ env.bytes? key = none ∨ env.Garbled key := by
  cases hbytes : env.bytes? key with
  | none => exact iff_of_true (not_holds_of_unset hbytes) (.inl rfl)
  | some bytes => simp [Holds, Garbled, hbytes]

theorem misset_iff {signed : Bool} {low high : Int} : env.Misset key signed low high ↔
    env.Garbled key ∨ ∃ text, env.Holds key text ∧ ¬ IsNumber signed low high text := by
  constructor
  · rintro ⟨bytes, hbytes, hnumber⟩
    by_cases htext : ∃ text : String, bytes = Wire.utf8 text.toList
    · obtain ⟨text, rfl⟩ := htext
      exact .inr ⟨text, hbytes, hnumber text rfl⟩
    · exact .inl ⟨bytes, hbytes, fun text h => htext ⟨text, h⟩⟩
  · rintro (⟨bytes, hbytes, hgarbled⟩ | ⟨text, hholds, hnumber⟩)
    · exact ⟨bytes, hbytes, fun text h => absurd h (hgarbled text)⟩
    · refine ⟨_, hholds, fun found hfound => ?_⟩
      have hsame := hholds.unique (hholds.trans (congrArg some hfound))
      exact hsame ▸ hnumber

theorem read_of_padded {n : Int} (h : Blank.Padded (intText n).toList text.toList)
    (sign : n < 0 → range.isSigned = true) (within : -(range.low : Int) ≤ n ∧ n ≤ range.high) :
    read key (ValueReader.integer range make) text = .ok (make n) := by
  rw [intText, String.toList_ofList] at h
  have hwritten : IntegerText.Written range.isSigned (Decimal.ofInt n) n :=
    IntegerText.written_ofInt sign
  have htrim := Blank.trimChars_padded h hwritten.isBlank_eq_false hwritten.ne_nil
  exact read_integer_eq_ok_iff.mpr ⟨n, ⟨htrim.symm ▸ hwritten, within⟩, rfl⟩

theorem valueOr_of_shows {n : Int} (h : env.Shows key (some (intText n)))
    (sign : n < 0 → range.isSigned = true) (within : -(range.low : Int) ≤ n ∧ n ≤ range.high) :
    env.valueOr key (ValueReader.integer range make) a = .ok (make n) := by
  obtain ⟨text, hholds, hpadded⟩ := h
  rw [valueOr, get?_eq_some_iff.mpr hholds]
  exact read_of_padded hpadded sign within

theorem value?_of_shows {number : Option Int} (h : env.Shows key (number.map intText))
    (sign : ∀ n ∈ number, n < 0 → range.isSigned = true)
    (within : ∀ n ∈ number, -(range.low : Int) ≤ n ∧ n ≤ range.high) :
    env.value? key (ValueReader.integer range make) = .ok (number.map make) := by
  cases number with
  | none => exact value?_of_no_text (not_holds_of_unset h)
  | some n =>
      obtain ⟨text, hholds, hpadded⟩ := h
      rw [value?, get?_eq_some_iff.mpr hholds]
      dsimp only
      rw [read_of_padded hpadded (sign n rfl) (within n rfl)]
      rfl

def Fails {ε β : Type} (x : Except ε β) : Prop := ∃ fault, x = .error fault

theorem fails_iff {ε β : Type} {x : Except ε β} : Fails x ↔ ∀ b, x ≠ .ok b := by
  cases x with
  | error fault => exact iff_of_true ⟨fault, rfl⟩ fun b => nofun
  | ok b => exact iff_of_false (fun ⟨fault, h⟩ => nomatch h) fun h => h b rfl

theorem fails_pair_iff {ε β γ δ : Type} {x : Except ε β} {y : Except ε γ} {f : β → γ → δ} :
    Fails (x >>= fun b => y >>= fun c => pure (f b c)) ↔ Fails x ∨ Fails y := by
  cases x with
  | error fault => exact iff_of_true ⟨fault, rfl⟩ (.inl ⟨fault, rfl⟩)
  | ok b =>
      cases y with
      | error fault => exact iff_of_true ⟨fault, rfl⟩ (.inr ⟨fault, rfl⟩)
      | ok c =>
          refine iff_of_false (fun ⟨fault, h⟩ => nomatch h) ?_
          rintro (⟨fault, h⟩ | ⟨fault, h⟩) <;> cases h

theorem fails_read_iff :
    Fails (read key (ValueReader.integer range make) text) ↔
      ¬ IsNumber range.isSigned (-range.low) range.high text := by
  rw [fails_iff]
  constructor
  · rintro h ⟨n, hn⟩
    exact h (make n) (read_integer_eq_ok_iff.mpr ⟨n, hn, rfl⟩)
  · intro h b hb
    obtain ⟨n, hn, -⟩ := read_integer_eq_ok_iff.mp hb
    exact h ⟨n, hn⟩

theorem fails_map_iff {ε β γ : Type} {x : Except ε β} {f : β → γ} : Fails (x.map f) ↔ Fails x := by
  cases x with
  | error fault => exact iff_of_true ⟨fault, rfl⟩ ⟨fault, rfl⟩
  | ok b => exact iff_of_false (fun ⟨fault, h⟩ => nomatch h) fun ⟨fault, h⟩ => nomatch h

theorem fails_valueOr_iff :
    Fails (env.valueOr key (ValueReader.integer range make) a) ↔
      ∃ text, env.Holds key text ∧ ¬ IsNumber range.isSigned (-range.low) range.high text := by
  rw [valueOr]
  cases hget : env.get? key with
  | none =>
      exact iff_of_false (fun ⟨fault, h⟩ => nomatch h) fun ⟨text, hholds, _⟩ =>
        get?_eq_none_iff.mp hget text hholds
  | some text => rw [fails_read_iff, exists_holds_iff hget]

theorem fails_value?_iff :
    Fails (env.value? key (ValueReader.integer range make)) ↔
      ∃ text, env.Holds key text ∧ ¬ IsNumber range.isSigned (-range.low) range.high text := by
  rw [value?]
  cases hget : env.get? key with
  | none =>
      exact iff_of_false (fun ⟨fault, h⟩ => nomatch h) fun ⟨text, hholds, _⟩ =>
        get?_eq_none_iff.mp hget text hholds
  | some text => rw [fails_map_iff, fails_read_iff, exists_holds_iff hget]

theorem fails_required_iff : Fails (env.required key) ↔ ∀ text, ¬ env.Holds key text := by
  rw [← get?_eq_none_iff, required]
  cases env.get? key with
  | none => exact iff_of_true ⟨_, rfl⟩ rfl
  | some text => exact iff_of_false (fun ⟨fault, h⟩ => nomatch h) (Option.some_ne_none text)

end

end Environment

open Environment

namespace EngineSettings

def ShownIn (settings : EngineSettings) (env : Environment) : Prop :=
  env.Shows offsetKey (settings.lookup? offsetKey) ∧ env.Shows seedKey (settings.lookup? seedKey)

theorem lookup?_offsetKey (settings : EngineSettings) :
    settings.lookup? offsetKey = some (intText settings.offset.toInt) := if_pos rfl

theorem lookup?_seedKey (settings : EngineSettings) :
    settings.lookup? seedKey = (settings.seed.map fun seed => (seed.toNat : Int)).map intText := by
  rw [lookup?, if_neg (by decide), if_pos rfl, Option.map_map]
  rfl

theorem load_of_shownIn {settings : EngineSettings} {env : Environment}
    (h : settings.ShownIn env) : load env = .ok settings := by
  obtain ⟨hoffset, hseed⟩ := h
  rw [lookup?_offsetKey] at hoffset
  rw [lookup?_seedKey] at hseed
  have hoffset : env.valueOr offsetKey ValueReader.i64 0 =
      .ok (Int64.ofInt settings.offset.toInt) :=
    valueOr_of_shows hoffset (fun _ => rfl) (IntegerText.Range.within_i64 settings.offset)
  have hseed : env.value? seedKey ValueReader.u64 = .ok
      ((settings.seed.map fun seed => (seed.toNat : Int)).map fun n => UInt64.ofNat n.toNat) := by
    refine value?_of_shows hseed ?_ ?_
    · intro n hn
      obtain ⟨seed, -, rfl⟩ := Option.map_eq_some_iff.mp hn
      omega
    · intro n hn
      obtain ⟨seed, -, rfl⟩ := Option.map_eq_some_iff.mp hn
      exact IntegerText.Range.within_u64 seed
  have hsame : (settings.seed.map fun seed => (seed.toNat : Int)).map
      (fun n => UInt64.ofNat n.toNat) = settings.seed := by
    simp [Option.map_map, Function.comp_def]
  rw [load, hoffset, hseed, hsame, Int64.ofInt_toInt]
  rfl

theorem fails_load_iff {env : Environment} :
    Fails (load env) ↔
      (∃ text, env.Holds offsetKey text ∧
        ¬ IsNumber true (-9223372036854775808) 9223372036854775807 text) ∨
      ∃ text, env.Holds seedKey text ∧ ¬ IsNumber false 0 18446744073709551615 text := by
  rw [load, fails_pair_iff]
  exact or_congr fails_valueOr_iff fails_value?_iff

theorem misset_load_iff {env : Environment} :
    (Fails (load env) ↔
      env.Misset offsetKey true (-9223372036854775808) 9223372036854775807 ∨
      env.Misset seedKey false 0 18446744073709551615) ↔
    (env.Garbled offsetKey ∨ env.Garbled seedKey → Fails (load env)) := by
  have hfails : Fails (load env) ↔ _ := fails_load_iff
  rw [misset_iff, misset_iff]
  grind

theorem of_load_ok {env : Environment} {settings : EngineSettings} (h : load env = .ok settings) :
    env.valueOr offsetKey ValueReader.i64 0 = .ok settings.offset ∧
      env.value? seedKey ValueReader.u64 = .ok settings.seed := by
  rw [load] at h
  cases hoffset : env.valueOr offsetKey ValueReader.i64 0 with
  | error fault => rw [hoffset] at h; cases h
  | ok offset =>
      cases hseed : env.value? seedKey ValueReader.u64 with
      | error fault => rw [hoffset, hseed] at h; cases h
      | ok seed =>
          rw [hoffset, hseed] at h
          cases h
          exact ⟨rfl, rfl⟩

end EngineSettings

namespace DatabaseSettings

def ShownIn (settings : DatabaseSettings) (env : Environment) : Prop :=
  (∀ url ∈ settings.lookup? urlKey, env.Holds urlKey url) ∧
    env.Shows maxConnectionsKey (settings.lookup? maxConnectionsKey)

theorem lookup?_urlKey (settings : DatabaseSettings) :
    settings.lookup? urlKey = some settings.url := if_pos rfl

theorem lookup?_maxConnectionsKey (settings : DatabaseSettings) :
    settings.lookup? maxConnectionsKey = some (intText settings.maxConnections.toNat) := by
  rw [lookup?, if_neg (by decide), if_pos rfl]

theorem load_of_shownIn {settings : DatabaseSettings} {env : Environment}
    (h : settings.ShownIn env) : load env = .ok settings := by
  obtain ⟨hurl, hmax⟩ := h
  rw [lookup?_maxConnectionsKey] at hmax
  have hget := get?_eq_some_iff.mpr (hurl settings.url settings.lookup?_urlKey)
  have hurl : env.required urlKey = .ok settings.url := by rw [required, hget]
  have hmax : env.valueOr maxConnectionsKey ValueReader.u32 defaultMaxConnections =
      .ok (UInt32.ofNat (settings.maxConnections.toNat : Int).toNat) :=
    valueOr_of_shows hmax (by omega) (IntegerText.Range.within_u32 settings.maxConnections)
  rw [load, hurl, hmax, Int.toNat_natCast, UInt32.ofNat_toNat]
  rfl

theorem fails_load_iff {env : Environment} :
    Fails (load env) ↔
      (∀ url, ¬ env.Holds urlKey url) ∨
      ∃ text, env.Holds maxConnectionsKey text ∧ ¬ IsNumber false 0 4294967295 text := by
  rw [load, fails_pair_iff]
  exact or_congr fails_required_iff fails_valueOr_iff

theorem misset_load_iff {env : Environment} :
    (Fails (load env) ↔
      env.bytes? urlKey = none ∨ env.Misset maxConnectionsKey false 0 4294967295) ↔
    (env.Garbled maxConnectionsKey → Fails (load env)) ∧
      (env.Garbled urlKey → env.Misset maxConnectionsKey false 0 4294967295) := by
  have hfails : Fails (load env) ↔ _ := fails_load_iff
  have hset (hgarbled : env.Garbled urlKey) : env.bytes? urlKey ≠ none := by
    obtain ⟨bytes, hbytes, -⟩ := hgarbled
    rw [hbytes]
    exact nofun
  rw [no_text_iff] at hfails
  rw [misset_iff]
  grind

theorem of_load_ok {env : Environment} {settings : DatabaseSettings}
    (h : load env = .ok settings) :
    env.valueOr maxConnectionsKey ValueReader.u32 defaultMaxConnections =
      .ok settings.maxConnections := by
  rw [load] at h
  cases hurl : env.required urlKey with
  | error fault => rw [hurl] at h; cases h
  | ok url =>
      cases hmax : env.valueOr maxConnectionsKey ValueReader.u32 defaultMaxConnections with
      | error fault => rw [hurl, hmax] at h; cases h
      | ok maxConnections =>
          rw [hurl, hmax] at h
          cases h
          rfl

end DatabaseSettings

namespace Environment

theorem settings_read_back (env : Environment) :
    (∀ settings : EngineSettings, settings.ShownIn env →
      EngineSettings.load env = .ok settings) ∧
    (∀ settings : DatabaseSettings, settings.ShownIn env →
      DatabaseSettings.load env = .ok settings) ∧
    ((∃ fault, EngineSettings.load env = .error fault) ↔
      (∃ text, env.bytes? EngineSettings.offsetKey = some (Wire.utf8 text.toList) ∧
        ¬ IsNumber true (-9223372036854775808) 9223372036854775807 text) ∨
      ∃ text, env.bytes? EngineSettings.seedKey = some (Wire.utf8 text.toList) ∧
        ¬ IsNumber false 0 18446744073709551615 text) ∧
    ((∃ fault, DatabaseSettings.load env = .error fault) ↔
      (∀ url : String, env.bytes? DatabaseSettings.urlKey ≠ some (Wire.utf8 url.toList)) ∨
      ∃ text, env.bytes? DatabaseSettings.maxConnectionsKey = some (Wire.utf8 text.toList) ∧
        ¬ IsNumber false 0 4294967295 text) ∧
    (((∃ fault, EngineSettings.load env = .error fault) ↔
        env.Misset EngineSettings.offsetKey true (-9223372036854775808) 9223372036854775807 ∨
        env.Misset EngineSettings.seedKey false 0 18446744073709551615) ↔
      (env.Garbled EngineSettings.offsetKey ∨ env.Garbled EngineSettings.seedKey →
        ∃ fault, EngineSettings.load env = .error fault)) ∧
    (((∃ fault, DatabaseSettings.load env = .error fault) ↔
        env.bytes? DatabaseSettings.urlKey = none ∨
        env.Misset DatabaseSettings.maxConnectionsKey false 0 4294967295) ↔
      (env.Garbled DatabaseSettings.maxConnectionsKey →
        ∃ fault, DatabaseSettings.load env = .error fault) ∧
      (env.Garbled DatabaseSettings.urlKey →
        env.Misset DatabaseSettings.maxConnectionsKey false 0 4294967295)) ∧
    (∀ settings : EngineSettings, EngineSettings.load env = .ok settings →
      ((∀ text : String, env.bytes? EngineSettings.offsetKey ≠ some (Wire.utf8 text.toList)) →
        settings.offset = 0) ∧
      ((∀ text : String, env.bytes? EngineSettings.seedKey ≠ some (Wire.utf8 text.toList)) →
        settings.seed = none)) ∧
    ∀ settings : DatabaseSettings, DatabaseSettings.load env = .ok settings →
      (∀ text : String,
        env.bytes? DatabaseSettings.maxConnectionsKey ≠ some (Wire.utf8 text.toList)) →
      settings.maxConnections = 10 := by
  refine ⟨fun _ h => EngineSettings.load_of_shownIn h,
    fun _ h => DatabaseSettings.load_of_shownIn h, EngineSettings.fails_load_iff,
    DatabaseSettings.fails_load_iff, EngineSettings.misset_load_iff,
    DatabaseSettings.misset_load_iff, fun settings h => ⟨fun hnone => ?_, fun hnone => ?_⟩,
    fun settings h hnone => ?_⟩
  · have hoffset := (EngineSettings.of_load_ok h).1
    rw [valueOr_of_no_text hnone] at hoffset
    exact (Except.ok.inj hoffset).symm
  · have hseed := (EngineSettings.of_load_ok h).2
    rw [value?_of_no_text hnone] at hseed
    exact (Except.ok.inj hseed).symm
  · have hmax := DatabaseSettings.of_load_ok h
    rw [valueOr_of_no_text hnone] at hmax
    exact (Except.ok.inj hmax).symm

def utmost : Environment :=
  [("GACHA_SERVER_TIME_OFFSET", Wire.utf8 "\t-9223372036854775808 ".toList),
    ("GACHA_RNG_SEED", Wire.utf8 "18446744073709551615".toList),
    ("DATABASE_URL", Wire.utf8 " é ".toList),
    ("DATABASE_MAX_CONNECTIONS", Wire.utf8 "4294967295\n".toList)]

theorem settings_read_back_utmost :
    (EngineSettings.mk (-9223372036854775808) (some 18446744073709551615)).ShownIn utmost ∧
      EngineSettings.load utmost = .ok ⟨-9223372036854775808, some 18446744073709551615⟩ ∧
      (DatabaseSettings.mk " é " 4294967295).ShownIn utmost ∧
      DatabaseSettings.load utmost = .ok ⟨" é ", 4294967295⟩ := by
  have hoffset : Blank.Padded (intText (-9223372036854775808)).toList
      "\t-9223372036854775808 ".toList :=
    ⟨['\t'], [' '], by decide +kernel, List.forall_mem_singleton.mpr (by decide),
      List.forall_mem_singleton.mpr (by decide)⟩
  have hseed : Blank.Padded (intText 18446744073709551615).toList
      "18446744073709551615".toList :=
    ⟨[], [], by decide +kernel, List.forall_mem_nil _, List.forall_mem_nil _⟩
  have hmax : Blank.Padded (intText 4294967295).toList "4294967295\n".toList :=
    ⟨[], ['\n'], by decide +kernel, List.forall_mem_nil _,
      List.forall_mem_singleton.mpr (by decide)⟩
  have hengine : (EngineSettings.mk (-9223372036854775808) (some 18446744073709551615)).ShownIn
      utmost := ⟨⟨_, rfl, hoffset⟩, ⟨_, rfl, hseed⟩⟩
  have hdatabase : (DatabaseSettings.mk " é " 4294967295).ShownIn utmost :=
    ⟨fun url hurl => by rw [← Option.some.inj hurl]; rfl, ⟨_, rfl, hmax⟩⟩
  obtain ⟨hloaded, hconnected, -⟩ := settings_read_back utmost
  exact ⟨hengine, hloaded _ hengine, hdatabase, hconnected _ hdatabase⟩

def garbled : Environment := [("GACHA_SERVER_TIME_OFFSET", [0xff]), ("DATABASE_URL", [0xff])]

theorem garbled_unnoticed :
    (∃ bytes, garbled.bytes? EngineSettings.offsetKey = some bytes ∧
      ∀ text : String, bytes = Wire.utf8 text.toList →
        ¬ IsNumber true (-9223372036854775808) 9223372036854775807 text) ∧
    EngineSettings.load garbled = .ok { offset := 0, seed := none } ∧
    garbled.bytes? DatabaseSettings.urlKey ≠ none ∧
    garbled.bytes? DatabaseSettings.maxConnectionsKey = none ∧
    DatabaseSettings.load garbled = .error (.notSet "DATABASE_URL") := by
  have hinvalid : String.fromUTF8? (ByteArray.mk #[0xff]) = none := by decide +kernel
  have hnot (text : String) : ([0xff] : Bytes) ≠ Wire.utf8 text.toList := by
    intro htext
    rw [fromUTF8?_eq_some_iff.mpr htext] at hinvalid
    cases hinvalid
  have hoffset (text : String) : ¬ garbled.Holds EngineSettings.offsetKey text :=
    fun h => hnot text (Option.some.inj h)
  have hurl (url : String) : ¬ garbled.Holds DatabaseSettings.urlKey url :=
    fun h => hnot url (Option.some.inj h)
  have hseed : garbled.bytes? EngineSettings.seedKey = none := by decide
  refine ⟨⟨[0xff], rfl, fun text htext => absurd htext (hnot text)⟩, ?_, by decide, by decide, ?_⟩
  · rw [EngineSettings.load, valueOr_of_no_text hoffset,
      value?_of_no_text (not_holds_of_unset hseed)]
    rfl
  · rw [DatabaseSettings.load, required, get?_eq_none_iff.mpr hurl]
    rfl

end Environment

end PrizeDraw
