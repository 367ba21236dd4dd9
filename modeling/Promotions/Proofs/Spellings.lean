import Promotions.Proofs.Trees

/-!
Numbers and strings as they are written, in front of anything that can follow a value: a number is
read as it stands, and a string as what it stands for, unless it has half of a character only.
-/

namespace Promotions.Json

open Text

/-! ### What stands behind a value -/

/-- Tokens behind a value: none, or such as end a value. -/
def Ends (tokens : List Token) : Prop :=
  ∀ token, tokens.head? = some token → token = [','] ∨ token = [']'] ∨ token = ['\x7d']

theorem ends_nil : Ends [] := fun _ h => by cases h

theorem ends_cons {token : Token} (h : token = [','] ∨ token = [']'] ∨ token = ['\x7d'])
    (tokens : List Token) : Ends (token :: tokens) := by
  intro token' htoken
  obtain rfl := Option.some.inj htoken
  exact h

def EndsNumber (rest : List Char) : Prop :=
  ∀ c, rest.head? = some c → c.isDigit = false ∧ c ≠ '.' ∧ c ≠ 'e' ∧ c ≠ 'E'

theorem Spaced.endsNumber {tokens : List Token} {rest : List Char} (hends : Ends tokens)
    (h : Spaced tokens rest) : EndsNumber rest := by
  have hgap {c : Char} (hc : isGap c = true) :
      c.isDigit = false ∧ c ≠ '.' ∧ c ≠ 'e' ∧ c ≠ 'E' := by
    simp only [isGap, Bool.or_eq_true, beq_iff_eq] at hc
    rcases hc with ((rfl | rfl) | rfl) | rfl <;> decide
  intro c hc
  cases h with
  | nil hrest => exact hgap (hrest c (List.mem_of_head? hc))
  | @cons gap token _ _ hfront _ =>
    cases gap with
    | nil =>
      rcases hends token rfl with rfl | rfl | rfl <;>
        (obtain rfl := Option.some.inj hc; decide)
    | cons d gap =>
      obtain rfl := Option.some.inj hc
      exact hgap (hfront d List.mem_cons_self)

/-! ### Numbers -/

def WrittenNumber.numeral (n : WrittenNumber) : Numeral where
  negative := n.negative
  whole := n.whole
  fraction := n.fraction
  exponent := n.exponent.map fun e => (e.sign = ['-'], e.digits)

theorem someDigits_of_digits {ds rest : List Char} (h : Digits ds)
    (hrest : ∀ c, rest.head? = some c → c.isDigit = false) :
    someDigits (ds ++ rest) = .ok (ds, rest) :=
  someDigits_append h.2 h.1 hrest

theorem exponentPart_chars (n : WrittenNumber) {rest : List Char} (h : EndsNumber rest) :
    exponentPart (n.exponentChars ++ rest) = .ok (n.numeral.exponent, rest) := by
  unfold WrittenNumber.exponentChars WrittenNumber.numeral
  cases n.exponent with
  | none =>
    cases rest with
    | nil => rfl
    | cons c rest =>
      obtain ⟨-, -, he, hE⟩ := h c rfl
      simp [exponentPart, he, hE]
  | some e =>
    have hletter := e.letter_eq
    have hdigits := someDigits_of_digits e.digits_ok fun c hc => (h c hc).1
    simp only [Option.elim_some, WrittenExponent.chars, List.cons_append, List.append_assoc,
      exponentPart, hletter, if_true, Option.map_some]
    rcases e.sign_eq with hsign | hsign | hsign
    · -- Without a sign the first character is a digit.
      obtain ⟨d, ds, hds⟩ := List.exists_cons_of_ne_nil e.digits_ok.1
      have hd : d.isDigit = true := e.digits_ok.2 d (hds ▸ List.mem_cons_self)
      have hplus : d ≠ '+' := by
        rintro rfl
        exact absurd hd (by decide)
      have hminus : d ≠ '-' := by
        rintro rfl
        exact absurd hd (by decide)
      rw [hds, List.cons_append] at hdigits
      simp only [hsign, List.nil_append, hds, List.cons_append]
      split
      · rename_i hcons
        exact absurd (List.cons.inj hcons).1 hplus
      · rename_i hcons
        exact absurd (List.cons.inj hcons).1 hminus
      · simp only [hdigits, bind, Except.bind]
        rfl
    · simp only [hsign, List.cons_append, List.nil_append, hdigits, bind, Except.bind]
      rfl
    · simp only [hsign, List.cons_append, List.nil_append, hdigits, bind, Except.bind]
      rfl

theorem head?_exponentChars (n : WrittenNumber) {rest : List Char} (h : EndsNumber rest) {c : Char}
    (hc : (n.exponentChars ++ rest).head? = some c) : c.isDigit = false ∧ c ≠ '.' := by
  unfold WrittenNumber.exponentChars at hc
  cases hexponent : n.exponent with
  | none =>
    rw [hexponent] at hc
    exact ⟨(h c hc).1, (h c hc).2.1⟩
  | some e =>
    rw [hexponent] at hc
    obtain rfl : e.letter = c := Option.some.inj hc
    rcases e.letter_eq with heq | heq <;> rw [heq] <;> decide

theorem fractionPart_chars (n : WrittenNumber) {rest : List Char} (h : EndsNumber rest) :
    fractionPart (n.fractionChars ++ (n.exponentChars ++ rest)) =
      .ok (n.fraction, n.exponentChars ++ rest) := by
  have hnext {c : Char} := head?_exponentChars n h (c := c)
  unfold WrittenNumber.fractionChars
  cases hfraction : n.fraction with
  | none =>
    generalize n.exponentChars ++ rest = cs at hnext
    cases cs with
    | nil => rfl
    | cons c cs =>
      have hpoint : c ≠ '.' := (hnext rfl).2
      simp only [Option.elim_none, List.nil_append]
      unfold fractionPart
      split
      · rename_i heq
        exact absurd (List.cons.inj heq).1 hpoint
      · rfl
  | some ds =>
    have hdigits := someDigits_of_digits (n.fraction_ok ds hfraction) fun c hc => (hnext hc).1
    simp only [Option.elim_some, List.cons_append, fractionPart, hdigits, bind, Except.bind]

theorem wholePart_chars (n : WrittenNumber) {rest : List Char}
    (h : ∀ c, rest.head? = some c → c.isDigit = false) :
    wholePart (n.whole ++ rest) = .ok (n.whole, rest) := by
  simp only [wholePart, someDigits_of_digits n.whole_ok h, bind, Except.bind]
  split
  · rename_i heq
    have hzero := n.whole_eq (by rw [heq]; rfl)
    rw [heq] at hzero
    cases hzero
  · rfl

/-- A number is read as it is written. -/
theorem numeral_chars (n : WrittenNumber) {rest : List Char} (h : EndsNumber rest) :
    numeral (n.chars ++ rest) = .ok (n.numeral, rest) := by
  have hexponent := exponentPart_chars n h
  have hfraction := fractionPart_chars n h
  have hwhole : wholePart (n.whole ++ (n.fractionChars ++ (n.exponentChars ++ rest))) =
      .ok (n.whole, n.fractionChars ++ (n.exponentChars ++ rest)) := by
    refine wholePart_chars n fun c hc => ?_
    unfold WrittenNumber.fractionChars at hc
    cases hpoint : n.fraction with
    | none =>
      rw [hpoint] at hc
      exact (head?_exponentChars n h hc).1
    | some ds =>
      rw [hpoint] at hc
      obtain rfl : '.' = c := Option.some.inj hc
      decide
  simp only [WrittenNumber.chars, List.append_assoc]
  unfold WrittenNumber.signChars
  cases hsign : n.negative with
  | true =>
    simp only [if_true, List.cons_append, List.nil_append, numeral, hwhole, hfraction, hexponent,
      bind, Except.bind]
    simp [WrittenNumber.numeral, hsign]
  | false =>
    obtain ⟨d, ds, hds⟩ := List.exists_cons_of_ne_nil n.whole_ok.1
    have hd : d.isDigit = true := n.whole_ok.2 d (hds ▸ List.mem_cons_self)
    simp only [Bool.false_eq_true, if_false, List.nil_append]
    unfold numeral
    split
    rename_i heq
    split at heq
    · rename_i hcons
      rw [hds, List.cons_append] at hcons
      rw [(List.cons.inj hcons).1] at hd
      cases hd
    · obtain ⟨rfl, rfl⟩ := Prod.mk.inj heq
      simp only [hwhole, hfraction, hexponent, bind, Except.bind]
      simp [WrittenNumber.numeral, hsign]

/-- A number that is kept is within range. -/
theorem keptNumeral_chars (n : WrittenNumber) {rest : List Char} (h : EndsNumber rest) :
    keptNumeral (n.chars ++ rest) =
      if n.numeral.outOfRange then .error .malformed else .ok (n.numeral, rest) := by
  simp only [keptNumeral, numeral_chars n h, bind, Except.bind]

/-! ### Strings -/

theorem hexUnit_code {a b c d : Char} (h : ([a, b, c, d].mapM hexValue?).isSome)
    (rest : List Char) : hexUnit (a :: b :: c :: d :: rest) = .ok (Piece.code a b c d, rest) := by
  obtain ⟨ds, hds⟩ := Option.isSome_iff_exists.mp h
  simp only [hexUnit, Piece.code, hds, Option.getD_some]

theorem textFrom_refused {done cs : List Char} {f : Fault} (h : escape cs = .error f) :
    textFrom done ('\\' :: cs) = .error f := by
  have hquote : ('\\' : Char) ≠ '"' := by decide
  rw [textFrom, if_neg hquote, if_pos rfl]
  split
  · rename_i e' rest' h'
    rw [h] at h'
    cases h'
  · rename_i f' h'
    rw [h] at h'
    cases h'
    rfl

theorem escape_unit {a b c d : Char} (h : ([a, b, c, d].mapM hexValue?).isSome)
    (rest : List Char) : escape ('u' :: a :: b :: c :: d :: rest) =
      if isLowUnit (Piece.code a b c d) then .error .malformed
      else if isHighUnit (Piece.code a b c d) then lowEscape (Piece.code a b c d) rest
      else .ok (Char.ofNat (Piece.code a b c d), rest) := by
  have hshort : shortEscape? 'u' = none := by decide
  simp only [escape, hshort, if_true, hexUnit_code h, bind, Except.bind]

theorem lowEscape_unit {high : Nat} {a b c d : Char} (h : ([a, b, c, d].mapM hexValue?).isSome)
    (rest : List Char) : lowEscape high ('\\' :: 'u' :: a :: b :: c :: d :: rest) =
      if isLowUnit (Piece.code a b c d) then .ok (pairChar high (Piece.code a b c d), rest)
      else .error .malformed := by
  simp only [lowEscape, hexUnit_code h, bind, Except.bind]

/-- Half of a character must not be followed by anything but its other half. -/
theorem lowEscape_refused {high : Nat} {ps : List Piece} (rest : List Char)
    (h : ∀ a b c d hcode more, ps ≠ .unit a b c d hcode :: more) :
    lowEscape high (Piece.body ps ++ '"' :: rest) = .error .malformed := by
  cases ps with
  | nil => rfl
  | cons p ps =>
    cases p with
    | plain c hc =>
      simp only [Piece.body, List.flatMap_cons, Piece.chars, List.cons_append, List.nil_append]
      unfold lowEscape
      split
      · rename_i heq
        exact absurd (List.cons.inj heq).1 hc.2.1
      · rename_i heq
        cases heq
      · rename_i heq
        exact absurd (List.cons.inj heq).1 hc.2.1
      · rfl
    | short c hc =>
      have hu : c ≠ 'u' := by
        rintro rfl
        exact absurd hc (by decide)
      simp only [Piece.body, List.flatMap_cons, Piece.chars, List.cons_append, List.nil_append]
      unfold lowEscape
      split
      · rename_i heq
        exact absurd (List.cons.inj (List.cons.inj heq).2).1 hu
      · rename_i heq
        cases heq
      · rename_i heq
        cases (List.cons.inj heq).2
      · rfl
    | unit a b c d hcode => exact absurd rfl (h a b c d hcode ps)

def Piece.read (ps : List Piece) : Except Fault String :=
  match text? ps with
  | some s => .ok s
  | none => .error .malformed

/-- A string is read as its pieces spell it. -/
theorem textFrom_body (ps : List Piece) (done rest : List Char) :
    textFrom done (Piece.body ps ++ '"' :: rest) =
      match Piece.spell? ps with
      | some cs => .ok (String.ofList (done.reverse ++ cs), rest)
      | none => .error .malformed := by
  have hunit (a b c d : Char) (h : ([a, b, c, d].mapM hexValue?).isSome) (ps : List Piece) :
      Piece.body (.unit a b c d h :: ps) ++ '"' :: rest =
        '\\' :: 'u' :: a :: b :: c :: d :: (Piece.body ps ++ '"' :: rest) := rfl
  -- A unit that needs another one behind it takes two pieces at once, so the cases are those of the
  -- spelling and not those of the list.
  fun_induction Piece.spell? ps generalizing done with
  | case1 =>
    rw [Piece.body, List.flatMap_nil, List.nil_append, textFrom, if_pos rfl]
    simp
  | case2 c hc ps ih =>
    have hbody : Piece.body (.plain c hc :: ps) = c :: Piece.body ps := rfl
    rw [hbody, List.cons_append, textFrom_plain hc.1 hc.2.1 (Nat.not_lt.mpr hc.2.2), ih]
    cases Piece.spell? ps <;> simp
  | case3 c hc ps ih =>
    have hbody : Piece.body (.short c hc :: ps) = '\\' :: c :: Piece.body ps := rfl
    obtain ⟨e, he⟩ := Option.isSome_iff_exists.mp hc
    have hescape (cs : List Char) : escape (c :: cs) = .ok (e, cs) := by
      simp only [escape, he]
    rw [hbody, List.cons_append, List.cons_append, textFrom_escape (hescape _), ih]
    cases Piece.spell? ps <;> simp [he]
  | case4 a b c d hcode ps hlow =>
    rw [hunit, textFrom_refused]
    rw [escape_unit hcode, if_pos hlow]
  | case5 a b c d hcode hlow hhigh a' b' c' d' hcode' ps hlow' ih =>
    have hescape : escape ('u' :: a :: b :: c :: d ::
        (Piece.body (.unit a' b' c' d' hcode' :: ps) ++ '"' :: rest)) =
          .ok (pairChar (Piece.code a b c d) (Piece.code a' b' c' d'),
            Piece.body ps ++ '"' :: rest) := by
      rw [escape_unit hcode, if_neg hlow, if_pos hhigh, hunit, lowEscape_unit hcode', if_pos hlow']
    rw [hunit, textFrom_escape hescape, ih]
    cases Piece.spell? ps <;> simp
  | case6 a b c d hcode hlow hhigh a' b' c' d' hcode' ps hlow' =>
    rw [hunit, textFrom_refused]
    rw [escape_unit hcode, if_neg hlow, if_pos hhigh, hunit, lowEscape_unit hcode', if_neg hlow']
  | case7 a b c d hcode ps hlow hhigh hother =>
    rw [hunit, textFrom_refused]
    rw [escape_unit hcode, if_neg hlow, if_pos hhigh, lowEscape_refused rest hother]
  | case8 a b c d hcode ps hlow hhigh ih =>
    have hescape (cs : List Char) : escape ('u' :: a :: b :: c :: d :: cs) =
        .ok (Char.ofNat (Piece.code a b c d), cs) := by
      rw [escape_unit hcode, if_neg hlow, if_neg hhigh]
    rw [hunit, textFrom_escape (hescape _), ih]
    cases Piece.spell? ps <;> simp

/-- A string that is kept is read behind its opening quote as what it stands for. -/
theorem textBody_body (ps : List Piece) (rest : List Char) :
    textBody (Piece.body ps ++ '"' :: rest) = (Piece.read ps).map fun s => (s, rest) := by
  rw [textBody, textFrom_body, Piece.read, Piece.text?]
  cases Piece.spell? ps <;> rfl

/-- A string that is passed over may have half of a character. -/
theorem skipTextBody_body (ps : List Piece) (rest : List Char) :
    skipTextBody (Piece.body ps ++ '"' :: rest) = .ok rest := by
  have hbackslash {cs rest' : List Char} (h : skipEscape cs = .ok rest') :
      skipTextBody ('\\' :: cs) = skipTextBody rest' := by
    have hquote : ('\\' : Char) ≠ '"' := by decide
    rw [skipTextBody, if_neg hquote, if_pos rfl]
    split
    · rename_i rest'' h'
      rw [h] at h'
      cases h'
      rfl
    · rename_i f h'
      rw [h] at h'
      cases h'
  induction ps with
  | nil =>
    rw [Piece.body, List.flatMap_nil, List.nil_append, skipTextBody, if_pos rfl]
  | cons p ps ih =>
    rw [Piece.body, List.flatMap_cons, ← Piece.body, List.append_assoc]
    cases p with
    | plain c hc =>
      rw [Piece.chars, List.singleton_append, skipTextBody, if_neg hc.1, if_neg hc.2.1,
        if_neg (Nat.not_lt.mpr hc.2.2), ih]
    | short c hc =>
      have hescape : skipEscape (c :: (Piece.body ps ++ '"' :: rest)) =
          .ok (Piece.body ps ++ '"' :: rest) := by
        simp only [skipEscape, hc, if_true]
      rw [Piece.chars, List.cons_append, List.singleton_append, hbackslash hescape, ih]
    | unit a b c d hcode =>
      have hescape : skipEscape ('u' :: a :: b :: c :: d :: (Piece.body ps ++ '"' :: rest)) =
          .ok (Piece.body ps ++ '"' :: rest) := by
        have hshort : (shortEscape? 'u').isSome = false := by decide
        simp only [skipEscape, hshort, Bool.false_eq_true, if_false, if_true, hexUnit_code hcode,
          bind, Except.bind]
      rw [Piece.chars]
      simp only [List.cons_append, List.nil_append]
      rw [hbackslash hescape, ih]

end Promotions.Json
