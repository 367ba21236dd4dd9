import Mathlib
import Promotions.Uuid

/-!
Numerals and identifiers read back. The digits that a number is written with have the number as
their value, and the text of an identifier is the text of no other.
-/

namespace Promotions

namespace Text

/-! ### Hexadecimal digits -/

theorem hexValue?_hexChar (n : Nat) : hexValue? (hexChar n) = some (n % 16) := by
  have h : ∀ d : Fin 16, hexValue? (hexChar d) = some d.val := by decide
  have hmod : hexChar n = hexChar (n % 16) := by simp [hexChar]
  rw [hmod]
  exact h ⟨n % 16, Nat.mod_lt n (by decide)⟩

theorem length_fixedHex (width n : Nat) : (fixedHex width n).length = width := by
  induction width generalizing n with
  | zero => rfl
  | succ width ih => simp [fixedHex, ih]

/-- One more digit shifts those before it by one place. -/
theorem valueFrom_concat (base start : Nat) (ds : List Nat) (d : Nat) :
    valueFrom base start (ds ++ [d]) = valueFrom base start ds * base + d := by
  simp [valueFrom]

/-- As many digits as are written give as much of the number as they can hold. -/
theorem mapM_fixedHex (width n : Nat) :
    ∃ ds, (fixedHex width n).mapM hexValue? = some ds ∧ ds.length = width ∧
      valueFrom 16 0 ds = n % 16 ^ width := by
  induction width generalizing n with
  | zero => exact ⟨[], rfl, rfl, by simp [valueFrom, Nat.mod_one]⟩
  | succ width ih =>
    obtain ⟨ds, hread, hlength, hvalue⟩ := ih (n / 16)
    refine ⟨ds ++ [n % 16], ?_, by simp [hlength], ?_⟩
    · simp [fixedHex, List.mapM_append, hread, hexValue?_hexChar]
    · rw [valueFrom_concat, hvalue, Nat.pow_succ', Nat.mod_mul]
      omega

/-! ### Decimal digits -/

theorem digitValue?_digitChar (n : Nat) : digitValue? (digitChar n) = some (n % 10) := by
  have h : ∀ d : Fin 10, digitValue? (digitChar d) = some d.val := by decide
  have hmod : digitChar n = digitChar (n % 10) := by simp [digitChar]
  rw [hmod]
  exact h ⟨n % 10, Nat.mod_lt n (by decide)⟩

theorem isDigit_digitChar (n : Nat) : (digitChar n).isDigit = true := by
  have hvalue := digitValue?_digitChar n
  unfold digitValue? at hvalue
  split at hvalue
  · assumption
  · cases hvalue

theorem decimalValue_concat (cs : List Char) (c : Char) :
    decimalValue (cs ++ [c]) = decimalValue cs * 10 + (digitValue? c).getD 0 := by
  rw [decimalValue, List.map_append, List.map_singleton, valueFrom_concat]
  rfl

theorem length_fixedDecimal (width n : Nat) : (fixedDecimal width n).length = width := by
  induction width generalizing n with
  | zero => rfl
  | succ width ih => simp [fixedDecimal, ih]

theorem isDigit_of_mem_fixedDecimal {width n : Nat} {c : Char} (h : c ∈ fixedDecimal width n) :
    c.isDigit = true := by
  induction width generalizing n with
  | zero => cases h
  | succ width ih =>
    rcases List.mem_append.mp h with hinit | hlast
    · exact ih hinit
    · rw [List.mem_singleton.mp hlast]
      exact isDigit_digitChar n

/-- A number is read back from digits of a fixed width that it does not go beyond. -/
theorem decimalValue_fixedDecimal {width n : Nat} (h : n < 10 ^ width) :
    decimalValue (fixedDecimal width n) = n := by
  induction width generalizing n with
  | zero =>
    rw [Nat.pow_zero, Nat.lt_one_iff] at h
    rw [h]
    rfl
  | succ width ih =>
    have hhigh : n / 10 < 10 ^ width := by
      rw [Nat.pow_succ] at h
      exact Nat.div_lt_of_lt_mul (by omega)
    rw [fixedDecimal, decimalValue_concat, ih hhigh, digitValue?_digitChar, Option.getD_some]
    omega

theorem decimal_eq (n : Nat) : decimal n = Nat.toDigits 10 n := Nat.toList_repr

theorem decimal_ne_nil (n : Nat) : decimal n ≠ [] := by
  rw [decimal_eq]
  exact Nat.toDigits_ne_nil

theorem isDigit_of_mem_decimal {n : Nat} {c : Char} (h : c ∈ decimal n) : c.isDigit = true := by
  rw [decimal_eq] at h
  exact Nat.isDigit_of_mem_toDigits (by decide) (by decide) h

theorem digitValue?_nat_digitChar {d : Nat} (h : d < 10) : digitValue? d.digitChar = some d := by
  have hall : ∀ d : Fin 10, digitValue? (Nat.digitChar d) = some d.val := by decide
  exact hall ⟨d, h⟩

/-- A number is read back from its digits. -/
theorem decimalValue_decimal (n : Nat) : decimalValue (decimal n) = n := by
  rw [decimal_eq]
  induction n using Nat.strongRecOn with
  | ind n ih =>
    by_cases hn : n < 10
    · rw [Nat.toDigits_of_lt_base hn, ← List.nil_append [_], decimalValue_concat,
        digitValue?_nat_digitChar hn]
      simp [decimalValue, valueFrom]
    · have hmod : n % 10 < 10 := Nat.mod_lt n (by decide)
      rw [Nat.toDigits_of_base_le (by decide) (by omega), decimalValue_concat,
        ih (n / 10) (by omega), digitValue?_nat_digitChar hmod, Option.getD_some]
      omega

/-- Only zero is written with a zero in front. -/
theorem eq_zero_of_head_decimal {n : Nat} (h : (decimal n).head? = some '0') : n = 0 := by
  rw [decimal_eq] at h
  induction n using Nat.strongRecOn with
  | ind n ih =>
    by_cases hn : n < 10
    · rw [Nat.toDigits_of_lt_base hn, List.head?_cons, Option.some.injEq] at h
      exact Nat.digitChar_eq_zero.mp h
    · rw [Nat.toDigits_of_base_le (by decide) (by omega),
        List.head?_append_of_ne_nil _ Nat.toDigits_ne_nil] at h
      have hzero := ih (n / 10) (by omega) h
      omega

/-! ### Integers -/

theorem le_valueFrom (base start : Nat) (hbase : 0 < base) (ds : List Nat) :
    start ≤ valueFrom base start ds := by
  induction ds generalizing start with
  | nil => exact Nat.le_refl start
  | cons d ds ih =>
    have hstep : start ≤ start * base + d :=
      Nat.le_add_right_of_le (Nat.le_mul_of_pos_right start hbase)
    exact hstep.trans (ih (start * base + d))

/-- Digits that do not lead out of bounds are read one by one. -/
theorem integerDigits_eq {low high : Int} (hlow : low ≤ 0) {cs : List Char}
    (hdigits : ∀ c ∈ cs, c.isDigit = true) {n : Nat}
    (hhigh : (valueFrom 10 n (cs.map fun c => (digitValue? c).getD 0) : Int) ≤ high) :
    integerDigits 1 low high n cs =
      .ok (valueFrom 10 n (cs.map fun c => (digitValue? c).getD 0) : Int) := by
  induction cs generalizing n with
  | nil => rfl
  | cons c cs ih =>
    obtain ⟨hc, hcs⟩ := List.forall_mem_cons.mp hdigits
    have hdigit : digitValue? c = some (c.toNat - '0'.toNat) := if_pos hc
    have hvalue : valueFrom 10 n ((c :: cs).map fun c => (digitValue? c).getD 0) =
        valueFrom 10 (n * 10 + (c.toNat - '0'.toNat))
          (cs.map fun c => (digitValue? c).getD 0) := by
      simp [valueFrom, hdigit]
    rw [hvalue] at hhigh ⊢
    have hstep : (n : Int) * 10 + 1 * (c.toNat - '0'.toNat : Nat) =
        (n * 10 + (c.toNat - '0'.toNat) : Nat) := by
      push_cast
      ring
    have hle := le_valueFrom 10 (n * 10 + (c.toNat - '0'.toNat)) (by decide)
      (cs.map fun c => (digitValue? c).getD 0)
    have hbelow : ¬ high < (n * 10 + (c.toNat - '0'.toNat) : Nat) := by omega
    have habove : ¬ ((n * 10 + (c.toNat - '0'.toNat) : Nat) : Int) < low := by omega
    simp only [integerDigits, hdigit, hstep, hbelow, habove, if_false]
    exact ih hcs hhigh

/-- A number within bounds is read from its decimal digits. -/
theorem integer_decimal {low high : Int} (hlow : low ≤ 0) {n : Nat} (hhigh : (n : Int) ≤ high) :
    integer low high (decimal n) = .ok (n : Int) := by
  have hvalue : valueFrom 10 0 ((decimal n).map fun c => (digitValue? c).getD 0) = n :=
    decimalValue_decimal n
  have hdigits : integerDigits 1 low high 0 (decimal n) = .ok (n : Int) := by
    have hread : integerDigits 1 low high (0 : Nat) (decimal n) = _ :=
      integerDigits_eq hlow (fun c hc => isDigit_of_mem_decimal (n := n) hc) (by rwa [hvalue])
    rwa [hvalue] at hread
  -- What begins with a digit begins with no sign.
  obtain ⟨c, cs, hcs⟩ := List.exists_cons_of_ne_nil (decimal_ne_nil n)
  have hc : c.isDigit = true := isDigit_of_mem_decimal (n := n) (hcs ▸ List.mem_cons_self)
  have hplus : c ≠ '+' := by
    rintro rfl
    exact absurd hc (by decide)
  have hminus : c ≠ '-' := by
    rintro rfl
    exact absurd hc (by decide)
  rw [hcs] at hdigits ⊢
  unfold integer
  split <;> simp_all

end Text

/-! ### Identifiers -/

namespace Uuid

open Text

theorem length_hexDigits (u : Uuid) : u.hexDigits.length = 32 := length_fixedHex 32 u.toNat

theorem length_hyphenate {ds : List Char} (h : ds.length = 32) : (hyphenate ds).length = 36 := by
  simp [hyphenate, h]

/-- The groups of an identifier are its digits again when the hyphens are left out. -/
theorem digits_hyphenate {ds : List Char} (h : ds.length = 32) :
    (hyphenate ds).take 8 ++ ((hyphenate ds).drop 9).take 4 ++ ((hyphenate ds).drop 14).take 4 ++
      ((hyphenate ds).drop 19).take 4 ++ (hyphenate ds).drop 24 = ds := by
  have h8 := List.take_append_drop 8 ds
  have h12 := List.take_append_drop 4 (ds.drop 8)
  have h16 := List.take_append_drop 4 (ds.drop 12)
  have h20 := List.take_append_drop 4 (ds.drop 16)
  simp only [List.drop_drop, Nat.reduceAdd] at h12 h16 h20
  simp [hyphenate, List.drop_append, List.drop_take, h, h8, h12, h16, h20]

/-- The digits of an identifier are read back as the identifier. -/
theorem ofHexDigits?_hexDigits (u : Uuid) : ofHexDigits? u.hexDigits = some u := by
  obtain ⟨ds, hread, hlength, hvalue⟩ := mapM_fixedHex 32 u.toNat
  have hlt : u.toNat < 16 ^ 32 := u.bits.isLt
  rw [Nat.mod_eq_of_lt hlt] at hvalue
  have hbits : ofNat u.toNat = u := by
    simp [ofNat, toNat]
  simp only [ofHexDigits?, hexDigits, hread, Option.bind_eq_bind, Option.bind_some, hlength,
    if_true, hvalue, hbits]

/-- An identifier is read back from its text. -/
theorem ofString?_toString (u : Uuid) : ofString? (toString u) = some u := by
  have hlength := length_hyphenate u.length_hexDigits
  have hdigits := digits_hyphenate u.length_hexDigits
  have hchars : (toString u).toList = hyphenate u.hexDigits := String.toList_ofList
  rw [ofString?, hchars]
  simp only [read?, hlength, ofHyphenated?, hdigits, if_true, ofHexDigits?_hexDigits]

/-- No two identifiers are printed alike. -/
theorem toString_injective {a b : Uuid} (h : toString a = toString b) : a = b := by
  have hread := congrArg ofString? h
  rw [ofString?_toString, ofString?_toString] at hread
  exact Option.some.inj hread

end Uuid

end Promotions
