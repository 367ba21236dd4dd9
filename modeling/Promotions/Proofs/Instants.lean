import Mathlib
import Promotions.Calendar.Printer
import Promotions.Calendar.Reader
import Promotions.Proofs.Numerals

/-!
Instants read back. Every instant of the calendar is read from the text that is printed for it: in
years of any number of digits, with any fraction, and in leap seconds.
-/

namespace Promotions.Calendar

open Text

/-! ### Digits and marks -/

theorem isBlank_of_isDigit {c : Char} (h : c.isDigit = true) : isBlank c = false := by
  have hrange : 48 ≤ c.toNat ∧ c.toNat ≤ 57 := by
    simpa [Char.isDigit, UInt32.le_iff_toNat_le] using h
  unfold isBlank
  grind

/-- What stands in front of a text that does not go on with a digit. -/
def EndsDigits (rest : List Char) : Prop := ∀ c, rest.head? = some c → c.isDigit = false

theorem endsDigits_cons {c : Char} (h : c.isDigit = false) (rest : List Char) :
    EndsDigits (c :: rest) := by
  intro c' hc'
  obtain rfl := Option.some.inj hc'
  exact h

/-- Leading digits are taken up to the end of a run that fits. -/
theorem leadingDigits_append {ds rest : List Char} {limit : Nat} (hds : ∀ c ∈ ds, c.isDigit = true)
    (hlength : ds.length ≤ limit) (hrest : EndsDigits rest) :
    leadingDigits limit (ds ++ rest) = (ds, rest) := by
  induction ds generalizing limit with
  | nil =>
    cases limit with
    | zero => cases rest <;> rfl
    | succ limit =>
      cases rest with
      | nil => rfl
      | cons c rest => simp [leadingDigits, hrest c rfl]
  | cons d ds ih =>
    cases limit with
    | zero => cases hlength
    | succ limit =>
      have hd : d.isDigit = true := hds d List.mem_cons_self
      have htail := ih (fun c hc => hds c (List.mem_cons_of_mem d hc))
        (Nat.le_of_succ_le_succ hlength)
      simp only [List.cons_append, leadingDigits, hd, if_true, htail]

theorem trimLeft_cons {c : Char} (h : isBlank c = false) (cs : List Char) :
    trimLeft (c :: cs) = c :: cs := by
  simp [trimLeft, h]

theorem readNumber_append {ds rest : List Char} {limit : Nat} (hds : ∀ c ∈ ds, c.isDigit = true)
    (hne : ds ≠ []) (hlength : ds.length ≤ limit) (hrest : EndsDigits rest) :
    readNumber limit (ds ++ rest) = some (decimalValue ds, rest) := by
  obtain ⟨d, ds', rfl⟩ := List.exists_cons_of_ne_nil hne
  have hblank := isBlank_of_isDigit (hds d List.mem_cons_self)
  have hleading := leadingDigits_append hds hlength hrest
  rw [List.cons_append] at hleading ⊢
  simp only [readNumber, trimLeft_cons hblank, hleading]

theorem readNumber_fixedDecimal {width limit n : Nat} {rest : List Char} (hn : n < 10 ^ width)
    (hpos : 0 < width) (hwidth : width ≤ limit) (hrest : EndsDigits rest) :
    readNumber limit (fixedDecimal width n ++ rest) = some (n, rest) := by
  have hlength := length_fixedDecimal width n
  have hne : fixedDecimal width n ≠ [] := by
    rw [← List.length_pos_iff, hlength]
    exact hpos
  rw [readNumber_append (fun c hc => isDigit_of_mem_fixedDecimal hc) hne (by omega) hrest,
    decimalValue_fixedDecimal hn]

theorem readLongNumber_append {ds rest : List Char} (hds : ∀ c ∈ ds, c.isDigit = true)
    (hne : ds ≠ []) (hrest : EndsDigits rest) :
    readLongNumber (ds ++ rest) = some (decimalValue ds, rest) := by
  obtain ⟨d, ds', rfl⟩ := List.exists_cons_of_ne_nil hne
  have hlength : (d :: ds').length ≤ (d :: ds' ++ rest).length := by simp
  simp only [readLongNumber, leadingDigits_append hds hlength hrest]

theorem readMark_cons {mark : Char} (h : isBlank mark = false) (rest : List Char) :
    readMark mark (mark :: rest) = some rest := by
  simp only [readMark, trimLeft_cons h, if_true]

/-! ### Dates -/

theorem decimalValue_replicate (n : Nat) (ds : List Char) :
    decimalValue (List.replicate n '0' ++ ds) = decimalValue ds := by
  induction n with
  | zero => rfl
  | succ n ih =>
    rw [← ih, List.replicate_succ, List.cons_append]
    rfl

theorem readYear_cons_of_isDigit {c : Char} (h : c.isDigit = true) (cs : List Char) :
    readYear (c :: cs) = (readNumber 4 (c :: cs)).map fun (n, rest) => ((n : Int), rest) := by
  have hminus : c ≠ '-' := by
    rintro rfl
    cases h
  have hplus : c ≠ '+' := by
    rintro rfl
    cases h
  simp only [readYear, trimLeft_cons (isBlank_of_isDigit h)]
  split <;> simp_all

/-- A year is read back as it was printed, with the sign that stands in front of long ones. -/
theorem readYear_print (year : Int) {rest : List Char} (hrest : EndsDigits rest) :
    readYear (printYear year ++ rest) = some (year, rest) := by
  unfold printYear
  split
  · rename_i hyear
    have hlt : year.toNat < 10 ^ 4 := by omega
    have hread := readNumber_fixedDecimal hlt (by decide) (Nat.le_refl 4) hrest
    obtain ⟨d, ds, hds⟩ : ∃ d ds, fixedDecimal 4 year.toNat = d :: ds := ⟨_, _, rfl⟩
    have hdigit : d.isDigit = true :=
      isDigit_of_mem_fixedDecimal (hds ▸ List.mem_cons_self)
    rw [hds, List.cons_append] at hread ⊢
    rw [readYear_cons_of_isDigit hdigit, hread]
    simp only [Option.map_some, Int.toNat_of_nonneg hyear.1]
  · rename_i hyear
    have hdigits : ∀ c ∈ List.replicate (4 - (decimal year.natAbs).length) '0' ++
        decimal year.natAbs, c.isDigit = true := by
      intro c hc
      rcases List.mem_append.mp hc with hzero | hdigit
      · rw [List.eq_of_mem_replicate hzero]
        rfl
      · exact isDigit_of_mem_decimal hdigit
    have hread := readLongNumber_append hdigits (by simp [decimal_ne_nil]) hrest
    rw [decimalValue_replicate, decimalValue_decimal] at hread
    have hminus : isBlank '-' = false := by decide
    have hplus : isBlank '+' = false := by decide
    by_cases hneg : year < 0
    · have habs : -(year.natAbs : Int) = year := by omega
      simp only [hneg, if_true, List.cons_append, readYear, trimLeft_cons hminus, hread,
        Option.map_some, habs]
    · have habs : (year.natAbs : Int) = year := by omega
      simp only [hneg, if_false, List.cons_append, readYear, trimLeft_cons hplus, hread,
        Option.map_some, habs]

theorem daysIn_le (year : Int) (month : Nat) : daysIn year month ≤ 31 := by
  unfold daysIn
  split
  · split <;> decide
  · split <;> decide

theorem Date.of?_eq (d : Date) : Date.of? d.year d.month d.day = some d :=
  dif_pos ⟨d.minYear_le, d.le_maxYear, d.month_range, d.day_range⟩

/-- A date is read back as it was printed. -/
theorem readDate_print (d : Date) {rest : List Char} (hrest : EndsDigits rest) :
    readDate (d.print ++ rest) = some (d, rest) := by
  have hmonth : d.month < 10 ^ 2 := by
    have hle := d.month_range.2
    omega
  have hday : d.day < 10 ^ 2 := by
    have hle := d.day_range.2
    have hdays := daysIn_le d.year d.month
    omega
  have hhyphen (cs : List Char) : EndsDigits ('-' :: cs) := endsDigits_cons rfl cs
  simp only [readDate, Date.print, List.append_assoc, List.cons_append,
    readYear_print d.year (hhyphen _), Option.bind_eq_bind, Option.bind_some,
    readMark_cons (by decide : isBlank '-' = false),
    readNumber_fixedDecimal hmonth (by decide) (Nat.le_refl 2) (hhyphen _),
    readNumber_fixedDecimal hday (by decide) (Nat.le_refl 2) hrest, Date.of?_eq]

/-! ### Times of day -/

def EndsFraction (rest : List Char) : Prop := EndsDigits rest ∧ rest.head? ≠ some '.'

/-- Digits of a fraction are worth less the further they stand behind the point. -/
theorem readFraction_digits {width nano : Nat} {rest : List Char} (hpos : 0 < width)
    (hwidth : width ≤ 9) (hnano : nano < 10 ^ width) (hrest : EndsFraction rest) :
    readFraction ('.' :: fixedDecimal width nano ++ rest) =
      some (nano * 10 ^ (9 - width), rest) := by
  have hlength := length_fixedDecimal width nano
  have hleading := leadingDigits_append (fun c hc => isDigit_of_mem_fixedDecimal hc)
    (hlength.trans_le hwidth) hrest.1
  have hdrop : rest.dropWhile Char.isDigit = rest := by
    cases rest with
    | nil => rfl
    | cons c rest => simp [hrest.1 c rfl]
  obtain ⟨d, ds, hds⟩ : ∃ d ds, fixedDecimal width nano = d :: ds :=
    List.exists_cons_of_length_pos (by omega)
  have hvalue : decimalValue (d :: ds) = nano := by rw [← hds, decimalValue_fixedDecimal hnano]
  rw [hds] at hleading hlength ⊢
  simp only [List.cons_append] at hleading ⊢
  simp only [readFraction, hleading, hvalue, hlength, hdrop]
  rfl

/-- A fraction is read back as it was printed: with none, three, six or nine digits, whichever is
enough. -/
theorem readFraction_print {nano : Nat} (hnano : nano < nanosPerSecond) {rest : List Char}
    (hrest : EndsFraction rest) :
    readFraction (printFraction nano ++ rest) = some (nano, rest) := by
  unfold nanosPerSecond at hnano
  unfold printFraction
  split
  · rename_i hzero
    subst hzero
    obtain ⟨-, hpoint⟩ := hrest
    simp only [List.nil_append, readFraction]
    split
    · exact absurd rfl hpoint
    · rfl
  split
  · rename_i hmilli
    rw [readFraction_digits (by decide) (by decide) (by omega) hrest]
    simp
    omega
  split
  · rename_i hmicro
    rw [readFraction_digits (by decide) (by decide) (by omega) hrest]
    simp
    omega
  · rw [readFraction_digits (by decide) (by decide) hnano hrest]
    simp

theorem shownSecond_le (t : Time) : t.shownSecond ≤ 60 := by
  have hsecond := t.second_lt
  unfold Time.shownSecond
  split
  · omega
  · exact Nat.le_refl 60

/-- A time is found again from what a clock shows of it. -/
theorem Time.of?_shown (t : Time) :
    Time.of? t.hour t.minute t.shownSecond t.shownNano = some t := by
  obtain ⟨hour, minute, second, nano, hhour, hminute, hsecond, hnano⟩ := t
  by_cases hleap : nano < nanosPerSecond
  · have hshown : nano % nanosPerSecond = nano := Nat.mod_eq_of_lt hleap
    have hne : second ≠ 60 := by omega
    simp only [shownSecond, shownNano, hleap, if_true, hshown, of?, hne, if_false]
    exact dif_pos ⟨hhour, hminute, hsecond, Or.inl trivial⟩
  · obtain ⟨rfl, hlt⟩ := hnano.resolve_left hleap
    have hshown : nano % nanosPerSecond + nanosPerSecond = nano := by
      unfold nanosPerSecond at hleap hlt ⊢
      omega
    simp only [shownSecond, shownNano, hleap, if_false, of?, if_true, hshown]
    exact dif_pos ⟨hhour, hminute, by decide, Or.inr ⟨trivial, hlt⟩⟩

/-- A time of day is read back as it was printed, in a leap second as well. -/
theorem readTime_print (t : Time) {rest : List Char} (hrest : EndsFraction rest) :
    readTime (t.print ++ rest) = some (t, rest) := by
  have hhour : t.hour < 10 ^ 2 := by
    have hlt := t.hour_lt
    omega
  have hminute : t.minute < 10 ^ 2 := by
    have hlt := t.minute_lt
    omega
  have hsecond : t.shownSecond < 10 ^ 2 := by
    have hle := shownSecond_le t
    omega
  have hnano : t.shownNano < nanosPerSecond := Nat.mod_lt _ (by decide)
  have hcolon (cs : List Char) : EndsDigits (':' :: cs) := endsDigits_cons rfl cs
  have hfraction : EndsDigits (printFraction t.shownNano ++ rest) := by
    unfold printFraction
    split
    · exact hrest.1
    split
    · exact endsDigits_cons rfl _
    split
    · exact endsDigits_cons rfl _
    · exact endsDigits_cons rfl _
  simp only [readTime, Time.print, List.append_assoc, List.cons_append, Option.bind_eq_bind,
    readNumber_fixedDecimal hhour (by decide) (Nat.le_refl 2) (hcolon _), Option.bind_some,
    readMark_cons (by decide : isBlank ':' = false),
    readNumber_fixedDecimal hminute (by decide) (Nat.le_refl 2) (hcolon _),
    readNumber_fixedDecimal hsecond (by decide) (Nat.le_refl 2) hfraction,
    readFraction_print hnano hrest, Time.of?_shown]

/-! ### Instants -/

/-- A clock in universal time shows an instant as it is. -/
theorem Instant.ofClock?_zero (date : Date) (time : Time) :
    Instant.ofClock? date time 0 = some ⟨date, time⟩ := by
  have hhour := time.hour_lt
  have hminute := time.minute_lt
  have htotal : (time.hour * 60 + time.minute : Int) - 0 =
      ((time.hour * 60 + time.minute : Nat) : Int) := by omega
  have hday : (((time.hour * 60 + time.minute : Nat) : Int)).fdiv 1440 = 0 := by
    rw [Int.fdiv_eq_ediv_of_nonneg _ (by decide)]
    omega
  have hofDay : (((time.hour * 60 + time.minute : Nat) : Int)).fmod 1440 =
      ((time.hour * 60 + time.minute : Nat) : Int) := by
    rw [Int.fmod_eq_emod_of_nonneg _ (by decide)]
    omega
  have hshift : date.shift? 0 = some date := rfl
  have hhours : (time.hour * 60 + time.minute) / 60 = time.hour := by omega
  have hminutes : (time.hour * 60 + time.minute) % 60 = time.minute := by omega
  simp only [Instant.ofClock?, htotal, hday, hofDay, hshift, Option.bind_eq_bind, Option.bind_some,
    Int.toNat_natCast, hhours, hminutes, hhour, dif_pos]

/-- An instant is read back from its text. -/
theorem Instant.ofString?_toString (i : Instant) : Instant.ofString? (toString i) = some i := by
  have hchars : (toString i).toList = i.print := String.toList_ofList
  have hzone : EndsFraction ['Z'] := ⟨endsDigits_cons rfl [], by decide⟩
  have hblank : trimLeft ['Z'] = ['Z'] := trimLeft_cons (by decide) []
  rw [Instant.ofString?, hchars, Instant.read?, Instant.print, List.append_assoc, List.cons_append]
  simp only [readDate_print i.date (endsDigits_cons (rfl : 'T'.isDigit = false) _),
    Option.bind_eq_bind, Option.bind_some, readSeparator, true_or, if_true,
    readTime_print i.time hzone, hblank, readOffset, List.all_nil, Instant.ofClock?_zero]

end Promotions.Calendar
