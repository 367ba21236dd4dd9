import Mathlib
import Promotions.Http.Caller
import Promotions.Proofs.Countries
import Promotions.Proofs.Numerals

/-!
Who calls, as the header says it. The texts that are read as an identifier are described without
reading them: thirty-two hexadecimal digits in either letter case, alone or in hyphenated groups,
and the groups alone, between braces or in a resource name. Reading accepts these texts and no
others, and the header adds what is its own: only the first value counts, all of its bytes are
ASCII, blanks around the text do not count, and the nil identifier names nobody.
-/

namespace Promotions

namespace Text

/-! ### Digits in either letter case -/

theorem hexValue?_toLower (c : Char) : hexValue? c.toLower = hexValue? c :=
  toLower_cases (P := fun c d => hexValue? d = hexValue? c) (by decide) (fun _ => rfl) c

theorem toNat_lt_of_hexValue? {c : Char} {v : Nat} (h : hexValue? c = some v) : c.toNat < 128 := by
  have hbound {d : Char} (hle : c ≤ d) (hd : d.toNat < 128) : c.toNat < 128 :=
    Nat.lt_of_le_of_lt (UInt32.le_iff_toNat_le.mp hle) hd
  unfold hexValue? at h
  split_ifs at h with hdigit hlower hupper
  · simp only [Char.isDigit, Bool.and_eq_true, decide_eq_true_eq] at hdigit
    exact hbound (d := '9') hdigit.2 (by decide)
  · exact hbound hlower.2 (by decide)
  · exact hbound hupper.2 (by decide)

/-- A digit in lower case is the digit that is written for its value. -/
theorem hexChar_of_hexValue? {c : Char} {v : Nat} (h : hexValue? c = some v) :
    v < 16 ∧ hexChar v = c.toLower := by
  have hall : ∀ n < 128, (hexValue? (Char.ofNat n)).all
      (fun v => v < 16 && hexChar v == (Char.ofNat n).toLower) = true := by decide
  have hc := hall c.toNat (toNat_lt_of_hexValue? h)
  rw [Char.ofNat_toNat, h] at hc
  simpa using hc

theorem hexChar_congr {m n : Nat} (h : m % 16 = n % 16) : hexChar m = hexChar n := by
  simp only [hexChar, h]

/-- Digits that are not written do not count. -/
theorem fixedHex_mod (width n : Nat) : fixedHex width (n % 16 ^ width) = fixedHex width n := by
  induction width generalizing n with
  | zero => rfl
  | succ width ih =>
    have hfront : n % 16 ^ (width + 1) / 16 = n / 16 % 16 ^ width := by
      rw [Nat.pow_succ', Nat.mod_mul_right_div_self]
    have hback : n % 16 ^ (width + 1) % 16 = n % 16 := by
      rw [Nat.pow_succ', Nat.mod_mul_right_mod]
    rw [fixedHex, hfront, ih, hexChar_congr hback, fixedHex]

/-- Digits are read back as they were, apart from their letter case. -/
theorem fixedHex_of_mapM {cs : List Char} {ds : List Nat} (h : cs.mapM hexValue? = some ds) :
    ds.length = cs.length ∧ fixedHex ds.length (valueFrom 16 0 ds) = cs.map Char.toLower := by
  induction cs using List.reverseRecOn generalizing ds with
  | nil =>
    obtain rfl : [] = ds := by simpa using h
    exact ⟨rfl, rfl⟩
  | append_singleton cs c ih =>
    simp only [List.mapM_append, List.mapM_cons, List.mapM_nil, Option.bind_eq_bind,
      Option.pure_def, Option.bind_eq_some_iff, Option.some.injEq] at h
    obtain ⟨init, hinit, last, ⟨v, hv, _, rfl, rfl⟩, rfl⟩ := h
    obtain ⟨hlength, hdigits⟩ := ih hinit
    obtain ⟨hlt, hchar⟩ := hexChar_of_hexValue? hv
    have hfront : (valueFrom 16 0 init * 16 + v) / 16 = valueFrom 16 0 init := by omega
    have hback : hexChar (valueFrom 16 0 init * 16 + v) = hexChar v := hexChar_congr (by omega)
    refine ⟨by simp [hlength], ?_⟩
    rw [valueFrom_concat, List.length_append, List.length_singleton, fixedHex, hfront, hdigits,
      hback, hchar, List.map_append, List.map_singleton]

/-- Trimming leaves a text alone in which nothing is blank. -/
theorem trim_of_not_blank {s : String} (h : ∀ c ∈ s.toList, isBlank c = false) : trim s = s := by
  have hself (cs : List Char) (hcs : ∀ c ∈ cs, isBlank c = false) : cs.dropWhile isBlank = cs := by
    cases cs with
    | nil => rfl
    | cons c cs => exact List.dropWhile_cons_of_neg (by simp [hcs c List.mem_cons_self])
  have hreverse : ∀ c ∈ s.toList.reverse, isBlank c = false :=
    fun c hc => h c (List.mem_reverse.mp hc)
  rw [trim, trimLeft, hself _ h, trimRight, hself _ hreverse, List.reverse_reverse,
    String.ofList_toList]

theorem utf8EncodeChar_of_ascii {c : Char} (h : c.toNat < 128) :
    String.utf8EncodeChar c = [UInt8.ofNat c.toNat] := by
  have hle : c.val.toNat ≤ 127 := by
    change c.toNat ≤ 127
    omega
  simp only [String.utf8EncodeChar, hle, if_true]
  rfl

end Text

namespace Uuid

open Text

/-- The digits of an identifier, their letters in either case. -/
def Spells (ds : List Char) (u : Uuid) : Prop := ds.map Char.toLower = u.hexDigits

/-- The texts of an identifier. -/
inductive WrittenAs (u : Uuid) : List Char → Prop
  | plain {ds : List Char} : Spells ds u → u.WrittenAs ds
  | hyphenated {ds : List Char} : Spells ds u → u.WrittenAs (hyphenate ds)
  | braced {ds : List Char} : Spells ds u → u.WrittenAs ('\x7b' :: hyphenate ds ++ ['\x7d'])
  /-- The letters of `urn:uuid:` count in either case as well. -/
  | urn {lead ds : List Char} : lead.map Char.toLower = urn → Spells ds u →
      u.WrittenAs (lead ++ hyphenate ds)

theorem Spells.length {ds : List Char} {u : Uuid} (h : Spells ds u) : ds.length = 32 := by
  rw [← List.length_map, h, length_hexDigits]

/-- Digits are read as an identifier exactly if they spell it. -/
theorem ofHexDigits?_eq_some_iff {ds : List Char} {u : Uuid} :
    ofHexDigits? ds = some u ↔ Spells ds u := by
  constructor
  · intro h
    simp only [ofHexDigits?, Option.bind_eq_bind, Option.bind_eq_some_iff] at h
    obtain ⟨vs, hvs, h⟩ := h
    split_ifs at h with hlength
    obtain rfl := Option.some.inj h
    obtain ⟨-, hdigits⟩ := fixedHex_of_mapM hvs
    -- What 32 digits write fits 128 bits.
    have hfits : (ofNat (valueFrom 16 0 vs)).toNat = valueFrom 16 0 vs % 16 ^ 32 := rfl
    rw [Spells, hexDigits, hfits, fixedHex_mod, ← hdigits, hlength]
  · intro h
    have hsame : ds.mapM hexValue? = u.hexDigits.mapM hexValue? := by
      rw [← h, List.mapM_map]
      exact congrArg (ds.mapM ·) (funext fun c => (hexValue?_toLower c).symm)
    rw [← ofHexDigits?_hexDigits u, ofHexDigits?, hsame]
    rfl

theorem ofHyphenated?_eq_some_iff {cs : List Char} {u : Uuid} :
    ofHyphenated? cs = some u ↔ ∃ ds, Spells ds u ∧ cs = hyphenate ds := by
  constructor
  · intro h
    simp only [ofHyphenated?] at h
    split_ifs at h with hcs
    exact ⟨_, ofHexDigits?_eq_some_iff.mp h, hcs⟩
  · rintro ⟨ds, hds, rfl⟩
    simp only [ofHyphenated?, digits_hyphenate hds.length, if_true]
    exact ofHexDigits?_eq_some_iff.mpr hds

theorem ofBraced?_eq_some_iff {cs : List Char} {u : Uuid} :
    ofBraced? cs = some u ↔ ∃ ds, Spells ds u ∧ cs = '\x7b' :: hyphenate ds ++ ['\x7d'] := by
  constructor
  · intro h
    unfold ofBraced? at h
    split at h
    · rename_i rest
      split_ifs at h with hlast
      obtain ⟨ds, hds, hinit⟩ := ofHyphenated?_eq_some_iff.mp h
      have hrest := List.dropLast_append_getLast? _ hlast
      exact ⟨ds, hds, by rw [List.cons_append, ← hinit, hrest]⟩
    · cases h
  · rintro ⟨ds, hds, rfl⟩
    simp only [List.cons_append, ofBraced?, List.getLast?_concat, List.dropLast_concat, if_true]
    exact ofHyphenated?_eq_some_iff.mpr ⟨ds, hds, rfl⟩

/-- Reading accepts the texts of an identifier and no others. -/
theorem read?_eq_some_iff {cs : List Char} {u : Uuid} : read? cs = some u ↔ u.WrittenAs cs := by
  constructor
  · intro h
    unfold read? at h
    split at h
    · exact .plain (ofHexDigits?_eq_some_iff.mp h)
    · obtain ⟨ds, hds, rfl⟩ := ofHyphenated?_eq_some_iff.mp h
      exact .hyphenated hds
    · obtain ⟨ds, hds, rfl⟩ := ofBraced?_eq_some_iff.mp h
      exact .braced hds
    · split_ifs at h with hlead
      obtain ⟨ds, hds, hrest⟩ := ofHyphenated?_eq_some_iff.mp h
      rw [← List.take_append_drop 9 cs, hrest]
      exact .urn hlead hds
    · cases h
  · rintro (⟨hds⟩ | ⟨hds⟩ | ⟨hds⟩ | ⟨hlead, hds⟩)
    · simp only [read?, hds.length]
      exact ofHexDigits?_eq_some_iff.mpr hds
    · simp only [read?, length_hyphenate hds.length]
      exact ofHyphenated?_eq_some_iff.mpr ⟨_, hds, rfl⟩
    · have hlength : ∀ ds : List Char, ds.length = 32 →
          ('\x7b' :: hyphenate ds ++ ['\x7d']).length = 38 := by
        intro ds hds
        simp [length_hyphenate hds]
      simp only [read?, hlength _ hds.length]
      exact ofBraced?_eq_some_iff.mpr ⟨_, hds, rfl⟩
    · rename_i lead ds
      have hnine : lead.length = 9 := by
        have := congrArg List.length hlead
        rwa [List.length_map] at this
      have hlength : (lead ++ hyphenate ds).length = 45 := by
        rw [List.length_append, hnine, length_hyphenate hds.length]
      have htake : (lead ++ hyphenate ds).take 9 = lead := by
        rw [← hnine, List.take_left]
      have hdrop : (lead ++ hyphenate ds).drop 9 = hyphenate ds := by
        rw [← hnine, List.drop_left]
      simp only [read?, hlength, htake, hdrop, hlead, if_true]
      exact ofHyphenated?_eq_some_iff.mpr ⟨ds, hds, rfl⟩

/-! ### Characters of identifiers -/

def Graphic (c : Char) : Prop := 0x21 ≤ c.toNat ∧ c.toNat ≤ 0x7E

instance (c : Char) : Decidable (Graphic c) := inferInstanceAs (Decidable (_ ∧ _))

theorem Graphic.not_blank {c : Char} (h : Graphic c) : isBlank c = false := by
  have hall : ∀ n < 127, 0x21 ≤ n → isBlank (Char.ofNat n) = false := by decide
  have hc := hall c.toNat (Nat.lt_succ_of_le h.2) h.1
  rwa [Char.ofNat_toNat] at hc

theorem graphic_of_toLower {c : Char} : Graphic c.toLower → Graphic c :=
  toLower_cases (P := fun c d => Graphic d → Graphic c) (by decide) (fun _ h => h) c

/-- Every digit that is printed is graphic. -/
theorem graphic_of_mem_fixedHex {width n : Nat} {c : Char} (h : c ∈ fixedHex width n) :
    Graphic c := by
  have hdigit : ∀ d < 16, Graphic (hexChar d) := by decide
  induction width generalizing n with
  | zero => cases h
  | succ width ih =>
    rcases List.mem_append.mp h with hfront | hback
    · exact ih hfront
    · rw [List.mem_singleton.mp hback, ← hexChar_congr (Nat.mod_mod n 16)]
      exact hdigit _ (Nat.mod_lt n (by decide))

/-- Whatever spells an identifier is made of graphic characters, since its small letters are. -/
theorem Spells.graphic {ds : List Char} {u : Uuid} (h : Spells ds u) {c : Char} (hc : c ∈ ds) :
    Graphic c := by
  refine graphic_of_toLower (graphic_of_mem_fixedHex (?_ : _ ∈ fixedHex 32 u.toNat))
  rw [← hexDigits, ← h]
  exact List.mem_map_of_mem hc

theorem mem_of_mem_hyphenate {ds : List Char} {c : Char} (h : c ∈ hyphenate ds) :
    c ∈ ds ∨ c = '-' := by
  have hpart {n m : Nat} (hmem : c ∈ (ds.drop n).take m) : c ∈ ds :=
    List.mem_of_mem_drop (List.mem_of_mem_take hmem)
  simp only [hyphenate, List.mem_append, List.mem_cons] at h
  rcases h with (((h | rfl | h) | rfl | h) | rfl | h) | rfl | h
  exacts [Or.inl (List.mem_of_mem_take h), Or.inr rfl, Or.inl (hpart h), Or.inr rfl,
    Or.inl (hpart h), Or.inr rfl, Or.inl (hpart h), Or.inr rfl, Or.inl (List.mem_of_mem_drop h)]

/-- No form of an identifier has a blank in it, so that trimming cannot shorten one. -/
theorem WrittenAs.graphic {u : Uuid} {cs : List Char} (h : u.WrittenAs cs) {c : Char}
    (hc : c ∈ cs) : Graphic c := by
  have hgroups {ds : List Char} (hds : Spells ds u) (hc : c ∈ hyphenate ds) : Graphic c := by
    rcases mem_of_mem_hyphenate hc with hc | rfl
    · exact hds.graphic hc
    · decide
  cases h with
  | plain hds => exact hds.graphic hc
  | hyphenated hds => exact hgroups hds hc
  | braced hds =>
    simp only [List.cons_append, List.mem_cons, List.mem_append, List.not_mem_nil, or_false] at hc
    rcases hc with rfl | hc | rfl
    · decide
    · exact hgroups hds hc
    · decide
  | urn hlead hds =>
    rcases List.mem_append.mp hc with hc | hc
    · have hletters : Uuid.urn.all (fun d => Graphic d) = true := by decide
      have hletter := List.all_eq_true.mp hletters _ (hlead ▸ List.mem_map_of_mem hc)
      exact graphic_of_toLower (of_decide_eq_true hletter)
    · exact hgroups hds hc

end Uuid

namespace Http

open Text

/-- The value of a header: bytes, of which none is a control character other than the tab. -/
structure HeaderValue where
  bytes : List UInt8
  legal : ∀ b ∈ bytes, b = 9 ∨ 0x20 ≤ b ∧ b ≠ 0x7F

def HeaderValue.text (v : HeaderValue) : String :=
  String.ofList (v.bytes.map fun b => Char.ofNat b.toNat)

/-- The values that can be read are those in ASCII. -/
theorem readableText?_eq_some_iff {v : HeaderValue} {s : String} :
    readableText? v.bytes = some s ↔ (∀ b ∈ v.bytes, b < 0x80) ∧ v.text = s := by
  have hreadable : (v.bytes.all fun b => b = 9 || (0x20 ≤ b && b ≤ 0x7E)) = true ↔
      ∀ b ∈ v.bytes, b < 0x80 := by
    rw [List.all_eq_true]
    refine forall₂_congr fun b hb => ?_
    have hlegal := v.legal b hb
    simp only [Bool.or_eq_true, Bool.and_eq_true, decide_eq_true_eq]
    grind
  unfold readableText?
  split_ifs with h
  · rw [Option.some.injEq, and_iff_right (hreadable.mp h), HeaderValue.text]
  · simp only [mt hreadable.mpr h, false_and]

/-- The first value decides alone, and its text is read after trimming. -/
theorem callerOf_eq_ok_iff {value : List UInt8} {rest : List (List UInt8)} {u : Uuid} :
    callerOf (value :: rest) = .ok u ↔
      ∃ s, readableText? value = some s ∧ u.WrittenAs (trim s).toList ∧ u ≠ .nil := by
  simp only [callerOf]
  constructor
  · intro h
    split at h
    · rename_i id hid
      obtain ⟨s, hs, hread⟩ := Option.bind_eq_some_iff.mp hid
      split_ifs at h with hnil
      obtain rfl := Except.ok.inj h
      exact ⟨s, hs, Uuid.read?_eq_some_iff.mp hread, hnil⟩
    · cases h
  · rintro ⟨s, hs, hwritten, hnil⟩
    have hread : Uuid.ofString? (trim s) = some u := Uuid.read?_eq_some_iff.mpr hwritten
    simp only [hs, Option.bind_some, hread, hnil, if_false]

/-- A caller is named, or unknown; there is no other outcome. -/
theorem callerOf_cases (values : List (List UInt8)) :
    (∃ u, callerOf values = .ok u) ∨ callerOf values = .error .unknownCaller := by
  unfold callerOf
  split
  · exact Or.inr rfl
  · split
    · split_ifs
      · exact Or.inr rfl
      · exact Or.inl ⟨_, rfl⟩
    · exact Or.inr rfl

/-- A text of printed characters, blanks and tabs is sent as it is. -/
theorem readableText?_utf8 {s : String}
    (h : ∀ c ∈ s.toList, c = '\t' ∨ 0x20 ≤ c.toNat ∧ c.toNat ≤ 0x7E) :
    readableText? (utf8 s) = some s := by
  have hsmall : ∀ c ∈ s.toList, c.toNat < 128 := by
    intro c hc
    rcases h c hc with rfl | hc
    · decide
    · omega
  have hbytes : utf8 s = s.toList.map fun c => UInt8.ofNat c.toNat := by
    rw [utf8, List.map_eq_flatMap]
    exact List.flatMap_congr fun c hc => utf8EncodeChar_of_ascii (hsmall c hc)
  have hreadable : (utf8 s).all (fun b => b = 9 || (0x20 ≤ b && b ≤ 0x7E)) = true := by
    rw [hbytes, List.all_map, List.all_eq_true]
    intro c hc
    rcases h c hc with rfl | ⟨hlow, hhigh⟩
    · decide
    · simp only [Function.comp, Bool.or_eq_true, Bool.and_eq_true, decide_eq_true_eq]
      right
      constructor <;> rw [UInt8.le_iff_toNat_le, UInt8.toNat_ofNat'] <;> simp <;> omega
  have hback : ((utf8 s).map fun b => Char.ofNat b.toNat) = s.toList := by
    rw [hbytes, List.map_map]
    refine (List.map_congr_left fun c hc => ?_).trans (List.map_id _)
    have hc := hsmall c hc
    simp only [Function.comp, UInt8.toNat_ofNat', id]
    rw [Nat.mod_eq_of_lt (by omega), Char.ofNat_toNat]
  rw [readableText?, if_pos hreadable, hback, String.ofList_toList]

/-! ### Identifiers between blanks -/

variable {u : Uuid} {cs before after : List Char}

/-- The blanks around an identifier are cut off, and nothing of it. -/
theorem trim_between_blanks (hwritten : u.WrittenAs cs)
    (hblanks : ∀ c ∈ before ++ after, c = ' ' ∨ c = '\t') :
    (trim (String.ofList (before ++ cs ++ after))).toList = cs := by
  have hblank : ∀ c ∈ before ++ after, isBlank c = true := by
    intro c hc
    rcases hblanks c hc with rfl | rfl <;> decide
  have hbare : trim (String.ofList cs) = String.ofList cs := by
    refine trim_of_not_blank fun c hc => ?_
    rw [String.toList_ofList] at hc
    exact (hwritten.graphic hc).not_blank
  have hsurrounded := trim_surrounded (fun c hc => hblank c (List.mem_append_left after hc))
    (fun c hc => hblank c (List.mem_append_right before hc)) (String.ofList cs)
  rw [String.toList_ofList] at hsurrounded
  rw [hsurrounded, hbare, String.toList_ofList]

/-- An identifier between blanks and tabs is a text that can be read. -/
theorem readableText?_between_blanks (hwritten : u.WrittenAs cs)
    (hblanks : ∀ c ∈ before ++ after, c = ' ' ∨ c = '\t') :
    readableText? (utf8 (String.ofList (before ++ cs ++ after))) =
      some (String.ofList (before ++ cs ++ after)) := by
  refine readableText?_utf8 fun c hc => ?_
  rw [String.toList_ofList, List.append_assoc, List.mem_append, List.mem_append,
    or_left_comm] at hc
  rcases hc with hc | hc
  · have hgraphic := hwritten.graphic hc
    exact Or.inr ⟨hgraphic.1.trans' (by decide), hgraphic.2⟩
  · rcases hblanks c (List.mem_append.mpr hc) with rfl | rfl
    · exact Or.inr (by decide)
    · exact Or.inl rfl

/-- A caller is known by the first value of the header and by nothing else. Whatever the values are,
they name a company exactly if there is a first one, all of its bytes are ASCII, and its text between
blanks is the company's identifier, which is not nil, as thirty-two digits, in hyphenated groups, and
these between braces or behind the lead of a resource name, with digits and lead in either letter
case; otherwise the caller is unknown. So every text of an identifier, with blanks around it, is
read back as the company that it names. -/
theorem caller_is_read_exactly :
    (∀ values : List HeaderValue,
      (∀ u, callerOf (values.map (·.bytes)) = .ok u ↔ ∃ v rest, values = v :: rest ∧
        (∀ b ∈ v.bytes, b < 0x80) ∧ u.WrittenAs (trim v.text).toList ∧ u ≠ .nil) ∧
      ((¬ ∃ u, callerOf (values.map (·.bytes)) = .ok u) →
        callerOf (values.map (·.bytes)) = .error .unknownCaller)) ∧
      ∀ u : Uuid, u ≠ .nil → ∀ cs, u.WrittenAs cs →
        ∀ before after : List Char, (∀ c ∈ before ++ after, c = ' ' ∨ c = '\t') →
          ∀ rest, callerOf (utf8 (String.ofList (before ++ cs ++ after)) :: rest) = .ok u := by
  refine ⟨fun values => ⟨fun u => ?_, (callerOf_cases _).resolve_left⟩,
    fun u hnil cs hwritten before after hblanks rest => ?_⟩
  · cases values with
    | nil => simp [callerOf]
    | cons v rest =>
      rw [List.map_cons, callerOf_eq_ok_iff]
      constructor
      · rintro ⟨s, hs, hwritten, hnil⟩
        obtain ⟨hascii, rfl⟩ := readableText?_eq_some_iff.mp hs
        exact ⟨v, rest, rfl, hascii, hwritten, hnil⟩
      · rintro ⟨v', rest', hvalues, hascii, hwritten, hnil⟩
        obtain ⟨rfl, rfl⟩ := List.cons.inj hvalues
        exact ⟨v.text, readableText?_eq_some_iff.mpr ⟨hascii, rfl⟩, hwritten, hnil⟩
  · refine callerOf_eq_ok_iff.mpr ⟨_, readableText?_between_blanks hwritten hblanks, ?_, hnil⟩
    rwa [trim_between_blanks hwritten hblanks]

def bakery : Uuid := .ofNat 0xABCDEF

/-- Braces, both letter cases, and blanks of both kinds around them. -/
theorem bakery_between_braces :
    callerOf [utf8 " \t\x7b00000000-0000-0000-0000-000000aBcDeF\x7d "] = .ok bakery := by
  have hspells : Uuid.Spells "00000000000000000000000000aBcDeF".toList bakery := by
    unfold Uuid.Spells
    decide +kernel
  exact caller_is_read_exactly.2 bakery (by decide) _ (.braced hspells) [' ', '\t'] [' ']
    (by simp) []

def loudBakery : String := "URN:UUID:00000000-0000-0000-0000-000000abcdef"

/-- The lead of a resource name need not be written in small letters. -/
theorem capital_lead_is_read :
    callerOf [utf8 loudBakery] = .ok bakery ∧ ¬ ∃ u ds, Uuid.Spells ds u ∧
      ((trim loudBakery).toList = ds ∨ (trim loudBakery).toList = Uuid.hyphenate ds ∨
        (trim loudBakery).toList = '\x7b' :: Uuid.hyphenate ds ++ ['\x7d'] ∨
        (trim loudBakery).toList = Uuid.urn ++ Uuid.hyphenate ds) := by
  have hlength : (trim loudBakery).toList.length = 45 := by decide +kernel
  have hhead : (trim loudBakery).toList.head? = some 'U' := by decide +kernel
  refine ⟨by decide +kernel, ?_⟩
  rintro ⟨u, ds, hds, h | h | h | h⟩
  · rw [h, hds.length] at hlength
    omega
  · rw [h, Uuid.length_hyphenate hds.length] at hlength
    omega
  · rw [h] at hlength
    simp [Uuid.length_hyphenate hds.length] at hlength
  · have hurn : Uuid.urn.head? = some 'u' := by decide
    rw [h, List.head?_append, hurn] at hhead
    exact absurd (Option.some.inj hhead) (by decide)

end Http

end Promotions
