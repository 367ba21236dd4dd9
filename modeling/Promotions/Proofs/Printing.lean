import Mathlib
import Promotions.Json.Shape
import Promotions.Proofs.Numerals

/-!
Printed values read back. A value that is printed without white space is read as the same value by
the reader of its shape, wherever it stands: as a whole text, or before the comma, bracket or brace
that ends it. Strings, integers, optional values, lists and records are treated one after another.
-/

namespace Promotions.Json

open Text

/-! ### What is printed -/

/-- The text after a value: its end, or what ends the value. -/
def EndsValue (rest : List Char) : Prop :=
  ∀ c, rest.head? = some c → c = ',' ∨ c = ']' ∨ c = '\x7d'

/-- A text as a value is printed: it starts with the value at once, and is read as the value up to
its end. -/
structure Prints {α : Type} (read : Reader α) (cs : List Char) (a : α) : Prop where
  starts : ∃ c rest, cs = c :: rest ∧ isGap c = false ∧ c ≠ ']' ∧ c ≠ '\x7d'
  reads : ∀ rest, EndsValue rest → read (cs ++ rest) = .ok (a, rest)

theorem endsValue_nil : EndsValue [] := fun _ h => by cases h

theorem endsValue_cons {c : Char} (h : c = ',' ∨ c = ']' ∨ c = '\x7d') (rest : List Char) :
    EndsValue (c :: rest) := by
  intro c' hc'
  obtain rfl := Option.some.inj hc'
  exact h

theorem skipGaps_cons {c : Char} (h : isGap c = false) (cs : List Char) :
    skipGaps (c :: cs) = c :: cs := by
  simp [skipGaps, h]

/-- A whole text that is printed is parsed. -/
theorem parse_of_prints {α : Type} {read : Nat → Reader α} {s : String} {a : α}
    (h : Prints (read maxLevels) s.toList a) : parse read s = .ok a := by
  have hread := h.reads [] endsValue_nil
  rw [List.append_nil] at hread
  simp only [parse, hread]
  rfl

/-! ### Strings -/

/-- Four hexadecimal digits are read back as the number that they were printed for. -/
theorem hexUnit_fixedHex {n : Nat} (h : n < 65536) (rest : List Char) :
    hexUnit (fixedHex 4 n ++ rest) = .ok (n, rest) := by
  obtain ⟨ds, hread, -, hvalue⟩ := mapM_fixedHex 4 n
  have hmod : n % 16 ^ 4 = n := Nat.mod_eq_of_lt h
  rw [hmod] at hvalue
  have hdigits : fixedHex 4 n =
    [hexChar (n / 16 / 16 / 16), hexChar (n / 16 / 16), hexChar (n / 16), hexChar n] := rfl
  rw [hdigits] at hread ⊢
  simp only [List.cons_append, List.nil_append, hexUnit, hread, hvalue]

/-- An escape in a string is one character of it. -/
theorem textFrom_escape {done cs rest : List Char} {e : Char} (h : escape cs = .ok (e, rest)) :
    textFrom done ('\\' :: cs) = textFrom (e :: done) rest := by
  have hquote : ('\\' : Char) ≠ '"' := by decide
  rw [textFrom, if_neg hquote, if_pos rfl]
  split
  · rename_i e' rest' h'
    rw [h] at h'
    cases h'
    rfl
  · rename_i f h'
    rw [h] at h'
    cases h'

theorem textFrom_plain {done cs : List Char} {c : Char} (hquote : c ≠ '"') (hslash : c ≠ '\\')
    (hcontrol : ¬ c.toNat < 0x20) : textFrom done (c :: cs) = textFrom (c :: done) cs := by
  rw [textFrom]
  simp only [hquote, hslash, hcontrol, if_false]

/-- A control character is read back from the escape by its number. -/
theorem escape_control {c : Char} (h : c.toNat < 0x20) (rest : List Char) :
    escape ('u' :: (fixedHex 4 c.toNat ++ rest)) = .ok (c, rest) := by
  have hshort : shortEscape? 'u' = none := by decide
  have hlow : isLowUnit c.toNat = false := by
    unfold isLowUnit
    grind
  have hhigh : isHighUnit c.toNat = false := by
    unfold isHighUnit
    grind
  simp only [escape, hshort, if_true, hexUnit_fixedHex (by omega : c.toNat < 65536), hlow, hhigh,
    Bool.false_eq_true, if_false, Char.ofNat_toNat, bind, Except.bind]

/-- Every character is read back from what is written for it in a string. -/
theorem textFrom_quoteChar (done : List Char) (c : Char) (rest : List Char) :
    textFrom done (quoteChar c ++ rest) = textFrom (c :: done) rest := by
  unfold quoteChar
  split_ifs with hquote hslash hback htab hline hform hreturn hcontrol
  · subst hquote
    exact textFrom_escape rfl
  · subst hslash
    exact textFrom_escape rfl
  · subst hback
    exact textFrom_escape rfl
  · subst htab
    exact textFrom_escape rfl
  · subst hline
    exact textFrom_escape rfl
  · subst hform
    exact textFrom_escape rfl
  · subst hreturn
    exact textFrom_escape rfl
  · exact textFrom_escape (escape_control hcontrol rest)
  · exact textFrom_plain hquote hslash hcontrol

/-- A string is read back behind its opening quote. -/
theorem textBody_quote (s : String) (rest : List Char) :
    textBody (s.toList.flatMap quoteChar ++ '"' :: rest) = .ok (s, rest) := by
  have hfrom : ∀ (cs done : List Char), textFrom done (cs.flatMap quoteChar ++ '"' :: rest) =
      .ok (String.ofList (done.reverse ++ cs), rest) := by
    intro cs
    induction cs with
    | nil =>
      intro done
      rw [List.flatMap_nil, List.nil_append, List.append_nil, textFrom, if_pos rfl]
    | cons c cs ih =>
      intro done
      rw [List.flatMap_cons, List.append_assoc, textFrom_quoteChar, ih, List.reverse_cons,
        List.append_assoc, List.singleton_append]
  rw [textBody, hfrom, List.reverse_nil, List.nil_append, String.ofList_toList]

/-- A string is read back as it was printed. -/
theorem prints_text (s : String) : Prints text (quote s) s := by
  refine ⟨⟨'"', _, rfl, by decide, by decide, by decide⟩, fun rest _ => ?_⟩
  have hquote : quote s ++ rest = '"' :: (s.toList.flatMap quoteChar ++ '"' :: rest) := by
    simp [quote]
  rw [hquote]
  simp only [text, skipGaps_cons (by decide : isGap '"' = false), textBody_quote]

theorem prints_textAs {α : Type} {read? : String → Option α} {s : String} {a : α}
    (h : read? s = some a) : Prints (textAs read?) (quote s) a := by
  refine ⟨(prints_text s).starts, fun rest hrest => ?_⟩
  simp only [textAs, (prints_text s).reads rest hrest, bind, Except.bind, h]

theorem prints_constant {α : Type} {read? : String → Option α} {s : String} {a : α}
    (h : read? s = some a) : Prints (constant read?) (quote s) a := by
  refine ⟨(prints_text s).starts, fun rest hrest => ?_⟩
  have hread := (prints_textAs h).reads rest hrest
  simp only [quote, List.cons_append] at hread ⊢
  simp only [constant, skipGaps_cons (by decide : isGap '"' = false), hread]

/-! ### Integers -/

theorem EndsValue.not_isDigit {rest : List Char} (h : EndsValue rest) {c : Char}
    (hc : rest.head? = some c) : c.isDigit = false := by
  rcases h c hc with rfl | rfl | rfl <;> decide

theorem isGap_of_isDigit {c : Char} (h : c.isDigit = true) : isGap c = false := by
  by_contra hgap
  simp only [isGap, Bool.not_eq_false, Bool.or_eq_true, beq_iff_eq] at hgap
  rcases hgap with ((rfl | rfl) | rfl) | rfl <;> cases h

/-- Digits are taken up to the first character that is none. -/
theorem someDigits_append {ds rest : List Char} (hds : ∀ c ∈ ds, c.isDigit = true) (hne : ds ≠ [])
    (hrest : ∀ c, rest.head? = some c → c.isDigit = false) :
    someDigits (ds ++ rest) = .ok (ds, rest) := by
  have htake : (ds ++ rest).takeWhile Char.isDigit = ds := by
    rw [List.takeWhile_append_of_pos hds]
    cases rest with
    | nil => simp
    | cons c rest => simp [hrest c rfl]
  have hdrop : (ds ++ rest).dropWhile Char.isDigit = rest := by
    rw [List.dropWhile_append_of_pos hds]
    cases rest with
    | nil => simp
    | cons c rest => simp [hrest c rfl]
  obtain ⟨d, ds', rfl⟩ := List.exists_cons_of_ne_nil hne
  simp only [someDigits, htake, hdrop]

theorem wholePart_decimal (n : Nat) {rest : List Char} (hrest : EndsValue rest) :
    wholePart (decimal n ++ rest) = .ok (decimal n, rest) := by
  have hdigits := someDigits_append (fun c hc => isDigit_of_mem_decimal hc) (decimal_ne_nil n)
    fun c hc => hrest.not_isDigit hc
  simp only [wholePart, hdigits, bind, Except.bind]
  split
  · rename_i heq
    have hzero : n = 0 := eq_zero_of_head_decimal (by rw [heq]; rfl)
    subst hzero
    cases heq
  · rfl

/-- A number is read back from its digits, with a minus sign or without one. -/
theorem numeral_decimal (n : Nat) {rest : List Char} (hrest : EndsValue rest) :
    numeral (decimal n ++ rest) = .ok (⟨false, decimal n, none, none⟩, rest) ∧
      numeral ('-' :: (decimal n ++ rest)) = .ok (⟨true, decimal n, none, none⟩, rest) := by
  have hwhole := wholePart_decimal n hrest
  have hfraction : fractionPart rest = .ok (none, rest) := by
    cases rest with
    | nil => rfl
    | cons c rest => rcases hrest c rfl with rfl | rfl | rfl <;> rfl
  have hexponent : exponentPart rest = .ok (none, rest) := by
    cases rest with
    | nil => rfl
    | cons c rest => rcases hrest c rfl with rfl | rfl | rfl <;> rfl
  obtain ⟨d, ds, hds⟩ := List.exists_cons_of_ne_nil (decimal_ne_nil n)
  have hdigit : d.isDigit = true := isDigit_of_mem_decimal (hds ▸ List.mem_cons_self)
  rw [hds, List.cons_append] at hwhole ⊢
  constructor
  · unfold numeral
    split
    · rename_i heq
      split at heq
      · rename_i hcons
        rw [(List.cons.inj hcons).1] at hdigit
        cases hdigit
      · obtain ⟨rfl, rfl⟩ := Prod.mk.inj heq
        simp only [hwhole, hfraction, hexponent, bind, Except.bind]
  · simp only [numeral, hwhole, hfraction, hexponent, bind, Except.bind]

/-- A number that fits is taken with all of its digits. -/
theorem takeDigits_eq {start : Nat} {cs : List Char} {n : Nat}
    (hvalue : valueFrom 10 start (cs.map fun c => (digitValue? c).getD 0) = n)
    (hfits : (n : Int) ≤ maxWord64) : takeDigits start cs = (n, 0) := by
  induction cs generalizing start with
  | nil =>
    subst hvalue
    rfl
  | cons c cs ih =>
    have hdigit : decimalValue [c] = (digitValue? c).getD 0 := by simp [decimalValue, valueFrom]
    have hrest : valueFrom 10 (start * 10 + decimalValue [c])
        (cs.map fun c => (digitValue? c).getD 0) = n := by
      rw [hdigit]
      exact hvalue
    have hle := le_valueFrom 10 (start * 10 + decimalValue [c]) (by decide)
      (cs.map fun c => (digitValue? c).getD 0)
    have hstep : ((start * 10 + decimalValue [c] : Nat) : Int) ≤ maxWord64 := by omega
    rw [takeDigits]
    simp only [hstep, if_true]
    exact ih hrest

/-- Rounding to 53 binary digits never more than doubles a number. -/
theorem nearestDouble_le (n : Nat) : nearestDouble n ≤ 2 * n := by
  unfold nearestDouble
  split
  · omega
  · rename_i hlarge
    have hlarge : 2 ^ 53 ≤ n := Nat.le_of_not_lt hlarge
    have hunit : Nat.pow 2 (n.log2 - 52) ≤ n := by
      have hpow : 2 ^ (n.log2 - 52) ≤ 2 ^ n.log2 := Nat.pow_le_pow_right (by decide) (by omega)
      exact hpow.trans (Nat.log2_self_le (by omega))
    generalize Nat.pow 2 (n.log2 - 52) = unit at hunit ⊢
    have hquotient : n / unit * unit ≤ n := Nat.div_mul_le_self n unit
    have hnext : (n / unit + 1) * unit = n / unit * unit + unit := Nat.succ_mul _ _
    dsimp only
    split <;> omega

/-- An integer of 64 bits is far from the greatest double-precision number. -/
theorem outOfRange_decimal (negative : Bool) {n : Nat} (h : (n : Int) ≤ maxWord64) :
    Numeral.outOfRange ⟨negative, decimal n, none, none⟩ = false := by
  have htaken : takeDigits 0 (decimal n) = (n, 0) := takeDigits_eq (decimalValue_decimal n) h
  have hscientific : Numeral.scientific ⟨negative, decimal n, none, none⟩ = (n, 0) := by
    simp only [Numeral.scientific, htaken, Option.getD_none, takeDigits]
    rfl
  have hbound : nearestDouble n * nearestDouble 1 < doubleOverflow := by
    have hn : nearestDouble n ≤ 2 * n := nearestDouble_le n
    have hone : nearestDouble 1 ≤ 2 := nearestDouble_le 1
    have hproduct : nearestDouble n * nearestDouble 1 ≤ 2 * n * 2 := Nat.mul_le_mul hn hone
    have hoverflow : 2 ^ 66 < doubleOverflow := by
      obtain ⟨m, hm⟩ : ∃ m, m = 970 := ⟨970, rfl⟩
      have hsum : 1024 = m + 54 := by omega
      have hsmall : 2 ^ 66 ≤ 2 ^ m := Nat.pow_le_pow_right (by decide) (by omega)
      have hsplit : Nat.pow 2 (m + 54) = Nat.pow 2 m * 2 ^ 54 := Nat.pow_add 2 m 54
      have hpow : Nat.pow 2 m = 2 ^ m := rfl
      rw [doubleOverflow, hsum, ← hm]
      omega
    unfold maxWord64 at h
    omega
  unfold Numeral.outOfRange
  rw [hscientific]
  simp [hbound]

/-- An integer that fits 64 bits, with a sign or without one, is read back. -/
theorem keptNumeral_signedDecimal {i : Int} (hlow : minInt64 ≤ i) (hhigh : i ≤ maxWord64)
    {rest : List Char} (hrest : EndsValue rest) :
    ∃ n, keptNumeral (signedDecimal i ++ rest) = .ok (n, rest) ∧ n.integer? = some i := by
  unfold minInt64 at hlow
  cases i with
  | ofNat n =>
    have hhigh : (n : Int) ≤ maxWord64 := hhigh
    refine ⟨⟨false, decimal n, none, none⟩, ?_, ?_⟩
    · simp only [keptNumeral, signedDecimal, (numeral_decimal n hrest).1, bind, Except.bind,
        outOfRange_decimal false hhigh, Bool.false_eq_true, if_false]
    · simp [Numeral.integer?, decimalValue_decimal, hhigh]
  | negSucc n =>
    have hneg : Int.negSucc n = -((n + 1 : Nat) : Int) := Int.negSucc_eq n
    have hfits : ((n + 1 : Nat) : Int) ≤ maxWord64 := by
      unfold maxWord64
      omega
    refine ⟨⟨true, decimal (n + 1), none, none⟩, ?_, ?_⟩
    · simp only [keptNumeral, signedDecimal, List.cons_append, (numeral_decimal (n + 1) hrest).2,
        bind, Except.bind, outOfRange_decimal true hfits, Bool.false_eq_true, if_false]
    · have hne : ((n + 1 : Nat) : Int) ≠ 0 := by omega
      have hmin : minInt64 ≤ -((n + 1 : Nat) : Int) := by
        unfold minInt64
        omega
      simp only [Numeral.integer?, decimalValue_decimal, Option.isSome_none, Bool.or_self,
        Bool.false_eq_true, if_false, if_true, hne, hmin, ne_eq, not_false_eq_true, and_self, hneg]

theorem render_int (i : Int) :
    ∃ c cs, (Value.int i).render = c :: cs ∧ signedDecimal i = c :: cs ∧
      (c = '-' ∨ c.isDigit = true) := by
  have hrender : (Value.int i).render = signedDecimal i := by simp [Value.int, Value.render]
  rw [hrender]
  cases i with
  | ofNat n =>
    obtain ⟨d, ds, hds⟩ := List.exists_cons_of_ne_nil (decimal_ne_nil n)
    exact ⟨d, ds, hds, hds, Or.inr (isDigit_of_mem_decimal (hds ▸ List.mem_cons_self))⟩
  | negSucc n => exact ⟨'-', _, rfl, rfl, Or.inl rfl⟩

theorem head_int_ne_null (i : Int) : (Value.int i).render.head? ≠ some 'n' := by
  obtain ⟨c, cs, hcs, -, hc⟩ := render_int i
  rw [hcs]
  rintro ⟨⟩
  simp at hc

/-- An integer within 64 bits is read back as it was printed. -/
theorem prints_integer {low high i : Int} (hlow : low ≤ i) (hhigh : i ≤ high)
    (hmin : minInt64 ≤ low) (hmax : high ≤ maxWord64) :
    Prints (integer low high) (Value.int i).render i := by
  obtain ⟨c, cs, hrender, hcs, hc⟩ := render_int i
  have hgap : isGap c = false := by
    rcases hc with rfl | hc
    · decide
    · exact isGap_of_isDigit hc
  rw [hrender]
  refine ⟨⟨c, cs, rfl, hgap, ?_, ?_⟩, ?_⟩
  · rintro rfl
    simp at hc
  · rintro rfl
    simp at hc
  · intro rest hrest
    obtain ⟨n, hread, hvalue⟩ :=
      keptNumeral_signedDecimal (hmin.trans hlow) (hhigh.trans hmax) hrest
    rw [hcs] at hread
    rw [List.cons_append] at hread ⊢
    simp only [integer, skipGaps_cons hgap, hc, if_true, hread, bind, Except.bind, hvalue, hlow,
      hhigh, and_self]

theorem prints_int32 (n : Int32) : Prints int32 (Value.int n.toInt).render n := by
  have hprints : Prints (integer Int32.minValue.toInt Int32.maxValue.toInt)
      (Value.int n.toInt).render n.toInt :=
    prints_integer n.minValue_le_toInt n.toInt_le (by decide) (by decide)
  refine ⟨hprints.starts, fun rest hrest => ?_⟩
  simp only [int32, hprints.reads rest hrest, bind, Except.bind, Int32.ofInt_toInt]

theorem prints_int64 (n : Int64) : Prints int64 (Value.int n.toInt).render n := by
  have hprints : Prints (integer Int64.minValue.toInt Int64.maxValue.toInt)
      (Value.int n.toInt).render n.toInt :=
    prints_integer n.minValue_le_toInt n.toInt_le (by decide) (by decide)
  refine ⟨hprints.starts, fun rest hrest => ?_⟩
  simp only [int64, hprints.reads rest hrest, bind, Except.bind, Int64.ofInt_toInt]

/-! ### Optional values and lists -/

section

variable {α β σ : Type}

/-- An optional value is read back if the value is not taken for null. -/
theorem prints_optional {read : Reader α} {print : α → Value} (o : Option α)
    (hprints : ∀ a, o = some a → Prints read (print a).render a)
    (hnull : ∀ a, (print a).render.head? ≠ some 'n') :
    Prints (optional read) (Value.orNull (o.map print)).render o := by
  cases o with
  | none =>
    refine ⟨⟨'n', ['u', 'l', 'l'], rfl, by decide, by decide, by decide⟩, fun rest _ => ?_⟩
    rfl
  | some a =>
    have hprints := hprints a rfl
    obtain ⟨c, cs, hcs, hgap, -, -⟩ := hprints.starts
    have hne : c ≠ 'n' := by
      rintro rfl
      exact hnull a (by rw [hcs]; rfl)
    refine ⟨hprints.starts, fun rest hrest => ?_⟩
    have hread := hprints.reads rest hrest
    simp only [Option.map_some, Value.orNull, Option.getD_some, hcs, List.cons_append] at hread ⊢
    simp only [optional, skipGaps_cons hgap]
    split
    · rename_i heq
      exact absurd (List.cons.inj heq).1 hne
    · simp only [hread, bind, Except.bind]

theorem next_close {last : Char} (h : isGap last = false) (first : Bool) (rest : List Char) :
    next last first (last :: rest) = .ok (.close rest) := by
  simp only [next, skipGaps_cons h, if_true]

theorem next_first {last c : Char} (hgap : isGap c = false) (hne : c ≠ last) (rest : List Char) :
    next last true (c :: rest) = .ok (.item (c :: rest)) := by
  simp only [next, skipGaps_cons hgap, hne, if_false, if_true]

/-- Behind a comma the next item is read. -/
theorem next_comma {last c : Char} (hlast : last ≠ ',') (hgap : isGap c = false) (hne : c ≠ last)
    (rest : List Char) : next last false (',' :: c :: rest) = .ok (.item (c :: rest)) := by
  have hcomma : isGap ',' = false := by decide
  simp only [next, skipGaps_cons hcomma, Ne.symm hlast, if_false, skipGaps_cons hgap, hne,
    Bool.false_eq_true, if_true]

theorem renderItems_cons (v : Value) (vs : List Value) :
    Value.renderItems (v :: vs) = v.render ++ vs.flatMap fun v => ',' :: v.render := by
  induction vs generalizing v with
  | nil => simp [Value.renderItems]
  | cons w vs ih => simp [Value.renderItems, ih]

theorem endsValue_items (print : β → Value) (xs : List β) (rest : List Char) :
    EndsValue (xs.flatMap (fun x => ',' :: (print x).render) ++ ']' :: rest) := by
  cases xs with
  | nil => exact endsValue_cons (Or.inr (Or.inl rfl)) rest
  | cons y ys => exact endsValue_cons (Or.inl rfl) _

/-- The items of an array behind the first one are read back. -/
theorem arrayRest_items {item : σ → Reader σ} {print : β → Value} {grow : σ → β → σ} (xs : List β)
    (hitem : ∀ x ∈ xs, ∀ s, Prints (item s) (print x).render (grow s x)) {bound : Nat}
    (hbound : xs.length < bound) (s : σ) (rest : List Char) :
    arrayRest item bound false s (xs.flatMap (fun x => ',' :: (print x).render) ++ ']' :: rest) =
      .ok (xs.foldl grow s, rest) := by
  induction xs generalizing bound s with
  | nil =>
    obtain ⟨bound, rfl⟩ := Nat.exists_eq_succ_of_ne_zero (Nat.ne_of_gt hbound)
    simp only [List.flatMap_nil, List.nil_append, arrayRest,
      next_close (by decide : isGap ']' = false), bind, Except.bind, List.foldl_nil]
  | cons x xs ih =>
    obtain ⟨bound, rfl⟩ := Nat.exists_eq_succ_of_ne_zero (Nat.ne_of_gt (Nat.zero_lt_of_lt hbound))
    have hx := hitem x List.mem_cons_self s
    obtain ⟨c, cs, hcs, hgap, hbracket, -⟩ := hx.starts
    have hread := hx.reads _ (endsValue_items print xs rest)
    have hrest := ih (fun y hy => hitem y (List.mem_cons_of_mem x hy))
      (Nat.lt_of_succ_lt_succ hbound) (grow s x)
    simp only [List.flatMap_cons, List.cons_append, List.append_assoc, hcs] at hread ⊢
    simp only [arrayRest, next_comma (by decide : ']' ≠ ',') hgap hbracket, bind, Except.bind,
      hread, hrest, List.foldl_cons]

/-- All items of an array are read back. -/
theorem arrayRest_all {item : σ → Reader σ} {print : β → Value} (grow : σ → β → σ) (xs : List β)
    (hitem : ∀ x ∈ xs, ∀ s, Prints (item s) (print x).render (grow s x)) {bound : Nat}
    (hbound : xs.length < bound) (s : σ) (rest : List Char) :
    arrayRest item bound true s (Value.renderItems (xs.map print) ++ ']' :: rest) =
      .ok (xs.foldl grow s, rest) := by
  obtain ⟨bound, rfl⟩ := Nat.exists_eq_succ_of_ne_zero (Nat.ne_of_gt (Nat.zero_lt_of_lt hbound))
  cases xs with
  | nil =>
    simp only [List.map_nil, Value.renderItems, List.nil_append, arrayRest,
      next_close (by decide : isGap ']' = false), bind, Except.bind, List.foldl_nil]
  | cons x xs =>
    have hx := hitem x List.mem_cons_self s
    obtain ⟨c, cs, hcs, hgap, hbracket, -⟩ := hx.starts
    have hread := hx.reads _ (endsValue_items print xs rest)
    have hrest := arrayRest_items xs (fun y hy => hitem y (List.mem_cons_of_mem x hy))
      (Nat.lt_of_succ_lt_succ hbound) (grow s x) rest
    rw [List.map_cons, renderItems_cons, List.flatMap_map]
    simp only [hcs, List.cons_append, List.append_assoc] at hread ⊢
    simp only [arrayRest, next_first hgap hbracket, bind, Except.bind, hread, hrest,
      List.foldl_cons]

/-- A list has no more items than characters, so that its length bounds the reading. -/
theorem length_le_renderItems (vs : List Value) :
    vs.length ≤ (Value.renderItems vs).length + 1 := by
  have htail : ∀ vs : List Value, vs.length ≤ (vs.flatMap fun v => ',' :: v.render).length := by
    intro vs
    induction vs with
    | nil => exact Nat.le_refl 0
    | cons v vs ih =>
      simp only [List.flatMap_cons, List.length_append, List.length_cons]
      omega
  cases vs with
  | nil => exact Nat.zero_le _
  | cons v vs =>
    have hvs := htail vs
    rw [renderItems_cons, List.length_append, List.length_cons]
    omega

/-- A list is read back if its items are. -/
theorem prints_list {read : Reader α} {print : α → Value} (as : List α)
    (hitems : ∀ a ∈ as, Prints read (print a).render a) :
    Prints (list read) (Value.array (as.map print)).render as := by
  have hreverse : ∀ as done : List α,
      as.foldl (fun done a => a :: done) done = as.reverse ++ done := by
    intro as
    induction as with
    | nil => exact fun _ => rfl
    | cons a as ih =>
      intro done
      simp [ih]
  have hopen : isGap '[' = false := by decide
  rw [Value.render]
  refine ⟨⟨'[', _, rfl, hopen, by decide, by decide⟩, fun rest _ => ?_⟩
  have hbound : as.length <
      (Value.renderItems (as.map print) ++ ']' :: rest).length + 1 := by
    have hlength := length_le_renderItems (as.map print)
    simp only [List.length_map, List.length_append, List.length_cons] at hlength ⊢
    omega
  simp only [List.cons_append, List.append_assoc, List.nil_append, list, skipGaps_cons hopen]
  rw [arrayRest_all (fun done a => a :: done) as ?_ hbound, hreverse, List.append_nil]
  · simp only [bind, Except.bind, List.reverse_reverse]
  · intro a ha done
    refine ⟨(hitems a ha).starts, fun rest hrest => ?_⟩
    simp only [(hitems a ha).reads rest hrest, bind, Except.bind]

end

/-! ### Records -/

theorem renderMembers_cons (k : String) (v : Value) (ms : List (String × Value)) :
    Value.renderMembers ((k, v) :: ms) =
      quote k ++ ':' :: v.render ++
        ms.flatMap fun m => ',' :: (quote m.1 ++ ':' :: m.2.render) := by
  induction ms generalizing k v with
  | nil => simp [Value.renderMembers]
  | cons m ms ih =>
    obtain ⟨k', v'⟩ := m
    simp [Value.renderMembers, ih]

theorem endsValue_members (ms : List (String × Value)) (rest : List Char) :
    EndsValue (ms.flatMap (fun m => ',' :: (quote m.1 ++ ':' :: m.2.render)) ++
      '\x7d' :: rest) := by
  cases ms with
  | nil => exact endsValue_cons (Or.inr (Or.inr rfl)) rest
  | cons m ms => exact endsValue_cons (Or.inl rfl) _

/-- So has an object no more members than characters. -/
theorem length_le_renderMembers (ms : List (String × Value)) :
    ms.length ≤ (Value.renderMembers ms).length := by
  induction ms with
  | nil => exact Nat.zero_le _
  | cons m ms ih =>
    obtain ⟨k, v⟩ := m
    cases ms with
    | nil =>
      simp only [Value.renderMembers, List.length_cons, List.length_append, List.length_nil]
      omega
    | cons m ms =>
      simp only [Value.renderMembers, List.length_cons, List.length_append] at ih ⊢
      omega

namespace Given

variable {Field : Type} [DecidableEq Field] {Content : Field → Type}

theorem set_self (g : Given Content) (f : Field) (v : Content f) : (g.set f v) f = some v := by
  simp [set]

theorem set_of_ne (g : Given Content) {f f' : Field} (v : Content f) (h : f' ≠ f) :
    (g.set f v) f' = g f' := by
  simp [set, h]

def setAll (g : Given Content) (v : (f : Field) → Content f) (fs : List Field) : Given Content :=
  fs.foldl (fun g f => g.set f (v f)) g

/-- Fields that are all set have their values, and the others have what they had. -/
theorem setAll_eq (g : Given Content) (v : (f : Field) → Content f) (fs : List Field) (f : Field) :
    g.setAll v fs f = if f ∈ fs then some (v f) else g f := by
  induction fs generalizing g with
  | nil => rfl
  | cons f' fs ih =>
    have hstep : g.setAll v (f' :: fs) = (g.set f' (v f')).setAll v fs := rfl
    rw [hstep, ih]
    by_cases hf : f = f'
    · subst hf
      simp [set_self]
    · simp [hf, set_of_ne g (v f') hf]

end Given

namespace Shape

variable {Field : Type} [DecidableEq Field] {Content : Field → Type} {α : Type}
  (shape : Shape Field Content α)

def members (print : Field → Value) (fs : List Field) : List (String × Value) :=
  fs.map fun f => (shape.name f, print f)

def Named : Prop :=
  shape.fields.Nodup ∧ ∀ f, f ∈ shape.fields ∧
    shape.fields.find? (fun f' => shape.name f' == shape.name f) = some f

variable {shape} {levels : Nat} {print : Field → Value} {v : (f : Field) → Content f}

/-- A member whose field is not given yet gives it. -/
theorem exists_member (hnamed : shape.Named) {f : Field}
    (hvalue : Prints (shape.read f levels) (print f).render (v f)) {g : Given Content}
    (hnew : g f = none) : ∃ read, shape.member levels (shape.name f) g = .ok read ∧
      Prints read (print f).render (g.set f (v f)) := by
  simp only [member, (hnamed.2 f).2, hnew, Option.isSome_none, Bool.false_eq_true, if_false]
  refine ⟨_, rfl, hvalue.starts, fun rest hrest => ?_⟩
  simp only [hvalue.reads rest hrest, bind, Except.bind]

/-- What a member and those behind it give. -/
theorem objectRest_member (hnamed : shape.Named) {f : Field}
    (hvalue : Prints (shape.read f levels) (print f).render (v f)) {g : Given Content}
    (hnew : g f = none) {bound : Nat} {first : Bool} {cs tail : List Char}
    (hnext : next '\x7d' first cs =
      .ok (.item (quote (shape.name f) ++ ':' :: ((print f).render ++ tail))))
    (htail : EndsValue tail) :
    objectRest textBody (shape.member levels) (bound + 1) first g cs =
      objectRest textBody (shape.member levels) bound false (g.set f (v f)) tail := by
  obtain ⟨read, hmember, hread⟩ := exists_member hnamed hvalue hnew
  have hcolon : isGap ':' = false := by decide
  have hquote (rest : List Char) : quote (shape.name f) ++ rest =
      '"' :: ((shape.name f).toList.flatMap quoteChar ++ '"' :: rest) := by
    simp [quote]
  rw [hquote] at hnext
  simp only [objectRest, hnext, bind, Except.bind, textBody_quote, hmember, colon,
    skipGaps_cons hcolon, hread.reads tail htail]

/-- The members of an object behind the first one give their fields. -/
theorem objectRest_members (hnamed : shape.Named)
    (hvalues : ∀ f, Prints (shape.read f levels) (print f).render (v f)) (fs : List Field)
    (hnodup : fs.Nodup) {bound : Nat} (hbound : fs.length < bound) {g : Given Content}
    (hnew : ∀ f ∈ fs, g f = none) (rest : List Char) :
    objectRest textBody (shape.member levels) bound false g
      ((shape.members print fs).flatMap (fun m => ',' :: (quote m.1 ++ ':' :: m.2.render)) ++
        '\x7d' :: rest) = .ok (g.setAll v fs, rest) := by
  induction fs generalizing bound g with
  | nil =>
    obtain ⟨bound, rfl⟩ := Nat.exists_eq_succ_of_ne_zero (Nat.ne_of_gt hbound)
    simp only [members, List.map_nil, List.flatMap_nil, List.nil_append, objectRest,
      next_close (by decide : isGap '\x7d' = false), bind, Except.bind]
    rfl
  | cons f fs ih =>
    obtain ⟨bound, rfl⟩ := Nat.exists_eq_succ_of_ne_zero (Nat.ne_of_gt (Nat.zero_lt_of_lt hbound))
    obtain ⟨hf, hnodup⟩ := List.nodup_cons.mp hnodup
    have hnew' : ∀ f' ∈ fs, (g.set f (v f)) f' = none := by
      intro f' hf'
      have hne : f' ≠ f := fun heq => hf (heq ▸ hf')
      rw [Given.set_of_ne g (v f) hne]
      exact hnew f' (List.mem_cons_of_mem f hf')
    have hnext (cs : List Char) : next '\x7d' false (',' :: (quote (shape.name f) ++ cs)) =
        .ok (.item (quote (shape.name f) ++ cs)) :=
      next_comma (by decide) (by decide) (by decide) _
    simp only [members, List.map_cons, List.flatMap_cons, List.cons_append, List.append_assoc]
    rw [objectRest_member hnamed (hvalues f) (hnew f List.mem_cons_self) (hnext _)
      (endsValue_members _ rest)]
    exact ih hnodup (Nat.lt_of_succ_lt_succ hbound) hnew'

/-- Members are read back in whatever order their fields are printed. -/
theorem objectRest_all (hnamed : shape.Named)
    (hvalues : ∀ f, Prints (shape.read f levels) (print f).render (v f)) (fs : List Field)
    (hnodup : fs.Nodup) {bound : Nat} (hbound : fs.length < bound) (rest : List Char) :
    objectRest textBody (shape.member levels) bound true Given.empty
      (Value.renderMembers (shape.members print fs) ++ '\x7d' :: rest) =
        .ok (Given.empty.setAll v fs, rest) := by
  obtain ⟨bound, rfl⟩ := Nat.exists_eq_succ_of_ne_zero (Nat.ne_of_gt (Nat.zero_lt_of_lt hbound))
  cases fs with
  | nil =>
    simp only [members, List.map_nil, Value.renderMembers, List.nil_append, objectRest,
      next_close (by decide : isGap '\x7d' = false), bind, Except.bind]
    rfl
  | cons f fs =>
    obtain ⟨hf, hnodup⟩ := List.nodup_cons.mp hnodup
    have hnew : ∀ f' ∈ fs, (Given.empty.set f (v f)) f' = none := by
      intro f' hf'
      have hne : f' ≠ f := fun heq => hf (heq ▸ hf')
      rw [Given.set_of_ne _ (v f) hne]
      rfl
    have hnext (cs : List Char) : next '\x7d' true (quote (shape.name f) ++ cs) =
        .ok (.item (quote (shape.name f) ++ cs)) :=
      next_first (by decide) (by decide) _
    simp only [members, List.map_cons, renderMembers_cons, List.append_assoc, List.cons_append]
    rw [objectRest_member hnamed (hvalues f) rfl (hnext _) (endsValue_members _ rest)]
    exact objectRest_members hnamed hvalues fs hnodup (Nat.lt_of_succ_lt_succ hbound) hnew rest

/-- A record is read back from an object with one member for each of some fields, in any order, if
the other fields stand for themselves. -/
theorem prints_object_of_fields (hnamed : shape.Named) {fs : List Field} (hnodup : fs.Nodup)
    (hvalues : ∀ f, Prints (shape.read f levels) (print f).render (v f)) {a : α}
    (hassemble : shape.assemble
      (fun f => if f ∈ fs then some (v f) else (shape.absent f).inObject?) = some a) :
    Prints (shape.reader (levels + 1)) (Value.object (shape.members print fs)).render a := by
  have hopen : isGap '\x7b' = false := by decide
  have hgiven : (fun f => ((Given.empty.setAll v fs) f).orElse
      fun _ => (shape.absent f).inObject?) =
        fun f => if f ∈ fs then some (v f) else (shape.absent f).inObject? := by
    funext f
    rw [Given.setAll_eq]
    split <;> rfl
  have hrecord : shape.ofMembers (Given.empty.setAll v fs) = .ok a := by
    simp only [ofMembers, hgiven, hassemble]
  rw [Value.render]
  refine ⟨⟨'\x7b', _, rfl, hopen, by decide, by decide⟩, fun rest _ => ?_⟩
  have hbound : fs.length <
      (Value.renderMembers (shape.members print fs) ++ '\x7d' :: rest).length + 1 := by
    have hlength := length_le_renderMembers (shape.members print fs)
    simp only [members, List.length_map, List.length_append, List.length_cons] at hlength ⊢
    omega
  have hall := objectRest_all hnamed hvalues fs hnodup hbound rest
  simp only [List.cons_append, List.append_assoc, List.nil_append, reader, skipGaps_cons hopen,
    ofObject, hall, bind, Except.bind, hrecord]

/-- A record is read back from the object with one member for each of its fields. -/
theorem prints_object (hnamed : shape.Named)
    (hvalues : ∀ f, Prints (shape.read f levels) (print f).render (v f)) {a : α}
    (hassemble : shape.assemble (fun f => some (v f)) = some a) :
    Prints (shape.reader (levels + 1))
      (Value.object (shape.members print shape.fields)).render a := by
  have hall (f : Field) : f ∈ shape.fields := (hnamed.2 f).1
  exact prints_object_of_fields hnamed hnamed.1 hvalues (by simpa only [hall, if_true])

end Shape

end Promotions.Json
