import Promotions.Proofs.Questions
import Promotions.Proofs.RecordTrees

/-!
Readers take values and nothing else. Where a reader does not fail, the text that it has gone through
writes a tree: its numbers and strings first, then what is told apart by its first character, and
sequences. So every text that is parsed writes a tree.
-/

namespace Promotions.Json

open Text

variable {α β σ κ : Type}

/-- A text starts with these tokens and goes on behind them. -/
def Covers (front : List Token) (cs rest : List Char) : Prop :=
  ∀ tokens, Spaced tokens rest → Spaced (front ++ tokens) cs

/-- What is read is a value. -/
def Grammatical (read : Reader α) : Prop :=
  ∀ cs a rest, read cs = .ok (a, rest) → ∃ t : Tree, Covers t.tokens cs rest

namespace Covers

variable {front back : List Token} {cs mid rest : List Char}

theorem nil (cs : List Char) : Covers [] cs cs := fun _ h => h

theorem append (h : Covers front cs mid) (h' : Covers back mid rest) :
    Covers (front ++ back) cs rest := fun tokens htokens => by
  rw [List.append_assoc]
  exact h _ (h' tokens htokens)

theorem token (token : Token) (rest : List Char) : Covers [token] (token ++ rest) rest :=
  fun _ h => .cons isGap_nil h

/-- White space in front makes no difference. -/
theorem of_skipGaps (h : Covers front (skipGaps cs) rest) : Covers front cs rest :=
  fun tokens htokens => by
  have hgap : IsGap (cs.takeWhile isGap) := fun _ hc => List.mem_takeWhile_imp hc
  have hsplit : cs.takeWhile isGap ++ skipGaps cs = cs := List.takeWhile_append_dropWhile
  rw [← hsplit]
  exact (h tokens htokens).gap_append hgap

theorem of_eq (token : Token) (h : skipGaps cs = token ++ rest) : Covers [token] cs rest :=
  of_skipGaps (h ▸ Covers.token token rest)

end Covers

/-! ### Numbers -/

/-- The digits that are taken are all there is before the rest. -/
theorem digits_of_someDigits {cs ds rest : List Char} (h : someDigits cs = .ok (ds, rest)) :
    Digits ds ∧ cs = ds ++ rest := by
  have hsplit : cs.takeWhile Char.isDigit ++ cs.dropWhile Char.isDigit = cs :=
    List.takeWhile_append_dropWhile
  have hdigits : ∀ d ∈ cs.takeWhile Char.isDigit, d.isDigit = true :=
    fun _ hd => List.mem_takeWhile_imp hd
  unfold someDigits at h
  generalize cs.takeWhile Char.isDigit = front at h hsplit hdigits
  generalize cs.dropWhile Char.isDigit = back at h hsplit
  cases front with
  | nil => cases back <;> cases h
  | cons d front =>
    cases h
    exact ⟨⟨List.cons_ne_nil _ _, hdigits⟩, hsplit.symm⟩

theorem whole_of_wholePart {cs ds rest : List Char} (h : wholePart cs = .ok (ds, rest)) :
    Digits ds ∧ (ds.head? = some '0' → ds = ['0']) ∧ cs = ds ++ rest := by
  obtain ⟨⟨ds', rest'⟩, hdigits, h⟩ := bind_ok h
  obtain ⟨hds, hcs⟩ := digits_of_someDigits hdigits
  simp only at h
  split at h
  · cases h
  · rename_i hzero
    cases h
    refine ⟨hds, fun hhead => ?_, hcs⟩
    cases ds with
    | nil => cases hhead
    | cons d ds =>
      obtain rfl := Option.some.inj hhead
      cases ds with
      | nil => rfl
      | cons d ds => exact absurd rfl (hzero d ds)

theorem fraction_of_fractionPart {cs rest : List Char} {fraction : Option (List Char)}
    (h : fractionPart cs = .ok (fraction, rest)) :
    (∀ ds ∈ fraction, Digits ds) ∧ cs = fraction.elim [] ('.' :: ·) ++ rest := by
  unfold fractionPart at h
  split at h
  · obtain ⟨⟨ds, rest'⟩, hdigits, h⟩ := bind_ok h
    obtain ⟨hds, hcs⟩ := digits_of_someDigits hdigits
    cases h
    refine ⟨fun ds' hds' => ?_, by rw [hcs]; rfl⟩
    obtain rfl := Option.some.inj hds'
    exact hds
  · cases h
    exact ⟨fun _ hds => (by cases hds), rfl⟩

theorem exponent_of_exponentPart {cs rest : List Char} {exponent : Option (Bool × List Char)}
    (h : exponentPart cs = .ok (exponent, rest)) :
    ∃ e : Option WrittenExponent, cs = e.elim [] WrittenExponent.chars ++ rest := by
  unfold exponentPart at h
  split at h
  · rename_i c cs
    split at h
    · rename_i hletter
      split at h
      rename_i negative cs' hsplit
      obtain ⟨⟨ds, rest'⟩, hdigits, h⟩ := bind_ok h
      cases h
      obtain ⟨hds, rfl⟩ := digits_of_someDigits hdigits
      obtain ⟨sign, hsign, rfl⟩ : ∃ sign, (sign = [] ∨ sign = ['+'] ∨ sign = ['-']) ∧
          cs = sign ++ (ds ++ rest) := by
        split at hsplit <;> cases hsplit
        · exact ⟨['+'], Or.inr (Or.inl rfl), rfl⟩
        · exact ⟨['-'], Or.inr (Or.inr rfl), rfl⟩
        · exact ⟨[], Or.inl rfl, rfl⟩
      refine ⟨some ⟨c, sign, ds, hletter, hsign, hds⟩, ?_⟩
      simp [WrittenExponent.chars]
    · cases h
      exact ⟨none, rfl⟩
  · cases h
    exact ⟨none, rfl⟩

/-- What is read as a number is written as one. -/
theorem exists_chars_of_numeral {cs rest : List Char} {n : Numeral}
    (h : numeral cs = .ok (n, rest)) : ∃ w : WrittenNumber, cs = w.chars ++ rest := by
  unfold numeral at h
  split at h
  rename_i negative cs' hsplit
  obtain ⟨⟨whole, rest₁⟩, hwhole, h⟩ := bind_ok h
  obtain ⟨⟨fraction, rest₂⟩, hfraction, h⟩ := bind_ok h
  obtain ⟨⟨exponent, rest₃⟩, hexponent, h⟩ := bind_ok h
  cases h
  obtain ⟨hdigits, hzero, rfl⟩ := whole_of_wholePart hwhole
  obtain ⟨hpoint, rfl⟩ := fraction_of_fractionPart hfraction
  obtain ⟨e, rfl⟩ := exponent_of_exponentPart hexponent
  refine ⟨⟨negative, whole, fraction, e, hdigits, hzero, hpoint⟩, ?_⟩
  simp only [WrittenNumber.chars, WrittenNumber.signChars, WrittenNumber.fractionChars,
    WrittenNumber.exponentChars, List.append_assoc]
  split at hsplit <;> cases hsplit <;> rfl

/-- A number that is kept is written as one, as one that is passed over is. -/
theorem exists_chars_of_keptNumeral {cs rest : List Char} {n : Numeral}
    (h : keptNumeral cs = .ok (n, rest)) : ∃ w : WrittenNumber, cs = w.chars ++ rest := by
  obtain ⟨⟨n', rest'⟩, hnumeral, h⟩ := bind_ok h
  simp only at h
  split at h
  · cases h
  · cases h
    exact exists_chars_of_numeral hnumeral

/-! ### Strings -/

theorem digits_of_hexUnit {cs rest : List Char} {n : Nat} (h : hexUnit cs = .ok (n, rest)) :
    ∃ a b c d, ([a, b, c, d].mapM hexValue?).isSome ∧ cs = a :: b :: c :: d :: rest := by
  unfold hexUnit at h
  split at h
  · rename_i a b c d _
    split at h
    · rename_i ds hds
      cases h
      exact ⟨a, b, c, d, Option.isSome_iff_exists.mpr ⟨ds, hds⟩, rfl⟩
    · cases h
  · cases h

/-- What stands behind a backslash is part of a string. -/
theorem exists_body_of_escape {cs rest : List Char} {e : Char} (h : escape cs = .ok (e, rest)) :
    ∃ ps, '\\' :: cs = Piece.body ps ++ rest := by
  unfold escape at h
  split at h
  · cases h
  · rename_i c cs'
    split at h
    · rename_i e' he
      cases h
      exact ⟨[.short c (Option.isSome_iff_exists.mpr ⟨e, he⟩)], rfl⟩
    · split at h
      · rename_i hu
        subst hu
        obtain ⟨⟨n, rest'⟩, hunit, hnext⟩ := bind_ok h
        obtain ⟨a, b, c, d, hcode, rfl⟩ := digits_of_hexUnit hunit
        simp only at hnext
        split at hnext
        · cases hnext
        · split at hnext
          · unfold lowEscape at hnext
            split at hnext
            · obtain ⟨⟨low, rest''⟩, hunit', hlow⟩ := bind_ok hnext
              obtain ⟨a', b', c', d', hcode', rfl⟩ := digits_of_hexUnit hunit'
              simp only at hlow
              split at hlow
              · simp only [Except.ok.injEq, Prod.mk.injEq] at hlow
                obtain ⟨-, rfl⟩ := hlow
                exact ⟨[.unit a b c d hcode, .unit a' b' c' d' hcode'], rfl⟩
              · cases hlow
            all_goals cases hnext
          · cases hnext
            exact ⟨[.unit a b c d hcode], rfl⟩
      · cases h

/-- What stands behind a backslash is one piece also where the string is not kept. -/
theorem exists_body_of_skipEscape {cs rest : List Char} (h : skipEscape cs = .ok rest) :
    ∃ p : Piece, '\\' :: cs = p.chars ++ rest := by
  unfold skipEscape at h
  split at h
  · cases h
  · rename_i c cs'
    split at h
    · rename_i hshort
      cases h
      exact ⟨.short c hshort, rfl⟩
    · split at h
      · rename_i hu
        subst hu
        obtain ⟨⟨n, rest'⟩, hunit, hnext⟩ := bind_ok h
        obtain ⟨a, b, c, d, hcode, rfl⟩ := digits_of_hexUnit hunit
        cases hnext
        exact ⟨.unit a b c d hcode, rfl⟩
      · cases h

theorem body_append (ps ps' : List Piece) :
    Piece.body (ps ++ ps') = Piece.body ps ++ Piece.body ps' :=
  List.flatMap_append

/-- What is read as a string is written as one. -/
theorem exists_body_of_textFrom {done cs rest : List Char} {s : String}
    (h : textFrom done cs = .ok (s, rest)) : ∃ ps, cs = Piece.body ps ++ '"' :: rest := by
  fun_induction textFrom done cs with
  | case1 => cases h
  | case2 done rest =>
    cases h
    exact ⟨[], rfl⟩
  | case3 done cs e rest' hescape hquote ih =>
    obtain ⟨ps, hps⟩ := exists_body_of_escape hescape
    obtain ⟨ps', rfl⟩ := ih h
    exact ⟨ps ++ ps', by rw [hps, body_append, List.append_assoc]⟩
  | case4 => cases h
  | case5 => cases h
  | case6 done c cs hquote hslash hcontrol ih =>
    obtain ⟨ps, rfl⟩ := ih h
    exact ⟨.plain c ⟨hquote, hslash, Nat.not_lt.mp hcontrol⟩ :: ps, rfl⟩

/-- A string that is passed over is written as one, though its pieces need not stand for
characters. -/
theorem exists_body_of_skipTextBody {cs rest : List Char} (h : skipTextBody cs = .ok rest) :
    ∃ ps, cs = Piece.body ps ++ '"' :: rest := by
  fun_induction skipTextBody cs with
  | case1 => cases h
  | case2 rest =>
    cases h
    exact ⟨[], rfl⟩
  | case3 cs rest' hescape hquote ih =>
    obtain ⟨p, hp⟩ := exists_body_of_skipEscape hescape
    obtain ⟨ps, rfl⟩ := ih h
    exact ⟨p :: ps, by rw [hp, ← List.append_assoc]; rfl⟩
  | case4 => cases h
  | case5 => cases h
  | case6 c cs hquote hslash hcontrol ih =>
    obtain ⟨ps, rfl⟩ := ih h
    exact ⟨.plain c ⟨hquote, hslash, Nat.not_lt.mp hcontrol⟩ :: ps, rfl⟩

theorem covers_quoted {cs rest : List Char} {ps : List Piece}
    (h : skipGaps cs = '"' :: (Piece.body ps ++ '"' :: rest)) :
    Covers (Tree.text ps).tokens cs rest :=
  Covers.of_eq (Piece.quoted ps) (by rw [h, Piece.quoted]; simp)

/-! ### Sequences -/

theorem eq_of_word {ws cs rest : List Char} (h : word ws cs = .ok rest) : cs = ws ++ rest := by
  induction ws generalizing cs with
  | nil =>
    cases h
    rfl
  | cons w ws ih =>
    cases cs with
    | nil => cases h
    | cons c cs =>
      rw [word] at h
      split at h
      · rename_i heq
        rw [heq, ih h, List.cons_append]
      · cases h

theorem covers_of_colon {cs rest : List Char} (h : colon cs = .ok rest) :
    Covers [[':']] cs rest := by
  unfold colon at h
  split at h
  · rename_i hcolon
    cases h
    exact .of_eq _ hcolon
  · cases h
  · cases h

theorem covers_of_close {last : Char} {first : Bool} {cs rest : List Char}
    (h : next last first cs = .ok (.close rest)) : Covers [[last]] cs rest := by
  unfold next at h
  split at h
  · cases h
  · rename_i c rest' hcs
    split at h
    · rename_i hlast
      cases h
      subst hlast
      exact .of_eq _ hcs
    · split at h
      · cases h
      · split at h
        · split at h
          · cases h
          · split at h <;> cases h
        · cases h

def lead (first : Bool) : List Token := if first then [] else [[',']]

theorem separated_eq_lead (first : Bool) (part : List Token) (parts : List (List Token)) :
    separated first (part :: parts) = lead first ++ (part ++ separated false parts) := by
  cases first with
  | true => exact separated_cons_first part parts
  | false => exact separated_cons part parts

/-- Before an item there is nothing but the comma that separates it, and no end has been missed. -/
theorem covers_of_item {last : Char} {first : Bool} {cs rest : List Char}
    (h : next last first cs = .ok (.item rest)) : Covers (lead first) cs rest := by
  unfold next at h
  split at h
  · cases h
  · rename_i c rest' hcs
    split at h
    · cases h
    · split at h
      · rename_i hfirst
        cases h
        rw [lead, if_pos hfirst]
        exact .of_skipGaps (hcs ▸ .nil _)
      · rename_i hfirst
        rw [lead, if_neg hfirst]
        split at h
        · rename_i hcomma
          subst hcomma
          split at h
          · cases h
          · rename_i hmore
            split at h
            · cases h
            · cases h
              exact (Covers.of_eq [','] hcs).append (.of_skipGaps (hmore ▸ .nil _))
        · cases h

/-- The items that were read one after another are values with commas between them, up to the
bracket that closes them. The induction is on the bound. -/
theorem covers_of_arrayRest {item : σ → Reader σ} (hitem : ∀ s, Grammatical (item s)) {bound : Nat}
    {first : Bool} {s s' : σ} {cs rest : List Char}
    (h : arrayRest item bound first s cs = .ok (s', rest)) :
    ∃ ts : List Tree, Covers (separated first (ts.map Tree.tokens) ++ [[']']]) cs rest := by
  induction bound generalizing first s cs with
  | zero => cases h
  | succ bound ih =>
    obtain ⟨step, hnext, h⟩ := bind_ok h
    cases step with
    | close rest' =>
      cases h
      refine ⟨[], ?_⟩
      rw [List.map_nil, separated_nil, List.nil_append]
      exact covers_of_close hnext
    | item cs' =>
      obtain ⟨⟨s₁, cs₁⟩, hread, h⟩ := bind_ok h
      obtain ⟨t, ht⟩ := hitem s _ _ _ hread
      obtain ⟨ts, hts⟩ := ih h
      refine ⟨t :: ts, ?_⟩
      rw [List.map_cons, separated_eq_lead, List.append_assoc, List.append_assoc]
      exact (covers_of_item hnext).append (ht.append hts)

/-- Members that were read are names with values behind colons, up to the brace that closes them, as
long as every reader that a name selects reads a value. -/
theorem covers_of_objectRest {key : Reader κ} {member : κ → σ → Except Fault (Reader σ)}
    (hkey : ∀ {cs : List Char} {k : κ} {rest : List Char}, key cs = .ok (k, rest) →
      ∃ ps, cs = Piece.body ps ++ '"' :: rest)
    (hmember : ∀ {k : κ} {s : σ} {read : Reader σ}, member k s = .ok read → Grammatical read)
    {bound : Nat} {first : Bool} {s s' : σ} {cs rest : List Char}
    (h : objectRest key member bound first s cs = .ok (s', rest)) :
    ∃ ms : List Member,
      Covers (separated first (ms.map Member.tokens) ++ [['\x7d']]) cs rest := by
  induction bound generalizing first s cs with
  | zero => cases h
  | succ bound ih =>
    obtain ⟨step, hnext, h⟩ := bind_ok h
    simp only at h
    split at h
    · cases h
      refine ⟨[], ?_⟩
      rw [List.map_nil, separated_nil, List.nil_append]
      exact covers_of_close hnext
    · rename_i cs'
      obtain ⟨⟨k, cs₁⟩, hname, h⟩ := bind_ok h
      obtain ⟨read, hread, h⟩ := bind_ok h
      obtain ⟨cs₂, hcolon, h⟩ := bind_ok h
      obtain ⟨⟨s₁, cs₃⟩, hvalue, h⟩ := bind_ok h
      obtain ⟨t, ht⟩ := hmember hread _ _ _ hvalue
      obtain ⟨ms, hms⟩ := ih h
      obtain ⟨ps, rfl⟩ := hkey hname
      have hquoted : Covers [Piece.quoted ps] ('"' :: (Piece.body ps ++ '"' :: cs₁)) cs₁ := by
        have htoken := Covers.token (Piece.quoted ps) cs₁
        simpa [Piece.quoted] using htoken
      refine ⟨(ps, t) :: ms, ?_⟩
      rw [List.map_cons, separated_eq_lead, List.append_assoc, List.append_assoc]
      exact (covers_of_item hnext).append
        ((hquoted.append ((covers_of_colon hcolon).append ht)).append hms)
    · cases h

theorem Covers.array {ts : List Tree} {cs rest : List Char}
    (h : Covers (separated true (ts.map Tree.tokens) ++ [[']']]) cs rest) :
    Covers (Tree.array ts).tokens ('[' :: cs) rest := by
  rw [tokens_array]
  exact (Covers.token ['['] cs).append h

theorem Covers.object {ms : List Member} {cs rest : List Char}
    (h : Covers (separated true (ms.map Member.tokens) ++ [['\x7d']]) cs rest) :
    Covers (Tree.object ms).tokens ('\x7b' :: cs) rest := by
  rw [tokens_object]
  exact (Covers.token ['\x7b'] cs).append h

/-! ### Values -/

/-- A value that was told apart by its first character is a value if each kind of reader has read
one. -/
theorem grammatical_dispatch {leaf : Value → α} {number text nested : Reader α}
    (hnumber : ∀ {cs : List Char} {a : α} {rest : List Char}, number cs = .ok (a, rest) →
      ∃ n : WrittenNumber, cs = n.chars ++ rest)
    (htext : ∀ {cs : List Char} {a : α} {rest : List Char}, text cs = .ok (a, rest) →
      ∃ ps, cs = Piece.body ps ++ '"' :: rest)
    (hnested : ∀ {c : Char} {cs : List Char} {a : α} {rest : List Char}, c = '[' ∨ c = '\x7b' →
      nested (c :: cs) = .ok (a, rest) → ∃ t : Tree, Covers t.tokens (c :: cs) rest) :
    Grammatical (dispatch leaf number text nested) := fun cs a rest h => by
  unfold dispatch at h
  split at h
  · cases h
  · rename_i c cs' hcs
    split at h
    · rename_i hc
      obtain ⟨rest', hword, h⟩ := bind_ok h
      cases h
      exact ⟨.null, .of_eq _ (by rw [hcs, hc, eq_of_word hword]; rfl)⟩
    split at h
    · rename_i hc
      obtain ⟨rest', hword, h⟩ := bind_ok h
      cases h
      exact ⟨.bool true, .of_eq _ (by rw [hcs, hc, eq_of_word hword]; rfl)⟩
    split at h
    · rename_i hc
      obtain ⟨rest', hword, h⟩ := bind_ok h
      cases h
      exact ⟨.bool false, .of_eq _ (by rw [hcs, hc, eq_of_word hword]; rfl)⟩
    split at h
    · rename_i hc
      obtain ⟨ps, hps⟩ := htext h
      exact ⟨.text ps, covers_quoted (by rw [hcs, hc, hps])⟩
    split at h
    · obtain ⟨n, hn⟩ := hnumber h
      exact ⟨.number n, .of_eq _ (by rw [hcs, hn])⟩
    split at h
    · rename_i hc
      obtain ⟨t, ht⟩ := hnested hc h
      exact ⟨t, .of_skipGaps (hcs ▸ ht)⟩
    · cases h

/-- What is passed over is a value at any depth. -/
theorem grammatical_skipWithin (bound : Nat) : Grammatical (skipWithin bound) := by
  induction bound with
  | zero =>
    intro cs a rest h
    cases h
  | succ bound ih =>
    rw [skipWithin]
    refine grammatical_dispatch (fun h => ?_) (fun h => ?_) fun hc h => ?_
    · obtain ⟨rest', hskip, h⟩ := bind_ok h
      cases h
      unfold skipNumeral at hskip
      split at hskip
      · rename_i hnumeral
        cases hskip
        exact exists_chars_of_numeral hnumeral
      · cases hskip
    · obtain ⟨rest', hskip, h⟩ := bind_ok h
      cases h
      exact exists_body_of_skipTextBody hskip
    · rcases hc with rfl | rfl
      · obtain ⟨ts, hts⟩ := covers_of_arrayRest (fun _ => ih) h
        exact ⟨.array ts, hts.array⟩
      · have hkey {cs : List Char} {k : Unit} {rest : List Char}
            (h : skippedText cs = .ok (k, rest)) : ∃ ps, cs = Piece.body ps ++ '"' :: rest := by
          obtain ⟨rest', hskip, h⟩ := bind_ok h
          cases h
          exact exists_body_of_skipTextBody hskip
        have hmember {k s : Unit} {read : Reader Unit}
            (h : (.ok (skipWithin bound) : Except Fault (Reader Unit)) = .ok read) :
            Grammatical read := by
          cases h
          exact ih
        obtain ⟨ms, hms⟩ := covers_of_objectRest hkey (fun {k s} => hmember (k := k) (s := s)) h
        exact ⟨.object ms, hms.object⟩

theorem covers_of_skipValue {cs rest : List Char} (h : skipValue cs = .ok rest) :
    ∃ t : Tree, Covers t.tokens cs rest := by
  obtain ⟨⟨u, rest'⟩, hskip, h⟩ := bind_ok h
  cases h
  exact grammatical_skipWithin _ _ _ _ hskip

theorem grammatical_text : Grammatical text := fun cs a rest h => by
  unfold text at h
  split at h
  · rename_i rest' hcs
    obtain ⟨ps, hps⟩ := exists_body_of_textFrom h
    exact ⟨.text ps, covers_quoted (by rw [hcs, hps])⟩
  · cases h

/-- More can be done with what is read. -/
theorem Grammatical.followed {read : Reader α} (h : Grammatical read)
    {k : α × List Char → Except Fault (β × List Char)}
    (hk : ∀ a rest b rest', k (a, rest) = .ok (b, rest') → rest' = rest) :
    Grammatical fun cs => read cs >>= k := fun cs b rest hread => by
  obtain ⟨⟨a, rest'⟩, hfirst, hthen⟩ := bind_ok hread
  obtain rfl := hk _ _ _ _ hthen
  exact h _ _ _ hfirst

theorem keep_rest (f : α → β) (a : α) (rest : List Char) (b : β) (rest' : List Char)
    (h : (.ok (f a, rest) : Except Fault (β × List Char)) = .ok (b, rest')) : rest' = rest := by
  cases h
  rfl

theorem grammatical_integer (low high : Int) : Grammatical (integer low high) :=
  fun cs a rest h => by
  unfold integer at h
  split at h
  · rename_i c cs' hcs
    split at h
    · obtain ⟨⟨n, rest'⟩, hkept, h⟩ := bind_ok h
      obtain ⟨w, hw⟩ := exists_chars_of_keptNumeral hkept
      have hrest : rest' = rest := by
        simp only at h
        split at h
        · split at h
          · cases h
            rfl
          · cases h
        · cases h
      exact ⟨.number w, .of_eq _ (by rw [hcs, hw, hrest])⟩
    · cases h
  · cases h

theorem grammatical_int32 : Grammatical int32 :=
  (grammatical_integer _ _).followed (keep_rest Int32.ofInt)

theorem grammatical_int64 : Grammatical int64 :=
  (grammatical_integer _ _).followed (keep_rest Int64.ofInt)

theorem grammatical_textAs (read? : String → Option α) : Grammatical (textAs read?) :=
  grammatical_text.followed fun _ _ _ _ h => by
    simp only at h
    split at h
    · cases h
      rfl
    · cases h

theorem Grammatical.optional {read : Reader α} (h : Grammatical read) :
    Grammatical (optional read) := fun cs a rest hread => by
  unfold Json.optional at hread
  split at hread
  · rename_i rest' hcs
    obtain ⟨rest'', hword, hread⟩ := bind_ok hread
    cases hread
    exact ⟨.null, .of_eq _ (by rw [hcs, eq_of_word hword]; rfl)⟩
  · obtain ⟨⟨b, rest'⟩, hvalue, hread⟩ := bind_ok hread
    cases hread
    obtain ⟨t, ht⟩ := h _ _ _ hvalue
    exact ⟨t, .of_skipGaps ht⟩

theorem Grammatical.list {read : Reader α} (h : Grammatical read) : Grammatical (list read) :=
  fun cs a rest hread => by
  unfold Json.list at hread
  split at hread
  · rename_i rest' hcs
    obtain ⟨⟨as, rest''⟩, hitems, hread⟩ := bind_ok hread
    cases hread
    obtain ⟨ts, hts⟩ := covers_of_arrayRest (fun as => h.followed (keep_rest (· :: as))) hitems
    exact ⟨.array ts, .of_skipGaps (hcs ▸ hts.array)⟩
  · cases hread

/-- A value that is kept is a value at any depth. -/
theorem grammatical_value (levels : Nat) : Grammatical (value levels) := by
  have hnumber {cs : List Char} {v : Value} {rest : List Char} (h : keptNumber cs = .ok (v, rest)) :
      ∃ n : WrittenNumber, cs = n.chars ++ rest := by
    obtain ⟨⟨n, rest'⟩, hkept, h⟩ := bind_ok h
    cases h
    exact exists_chars_of_keptNumeral hkept
  have htext {cs : List Char} {v : Value} {rest : List Char} (h : keptText cs = .ok (v, rest)) :
      ∃ ps, cs = Piece.body ps ++ '"' :: rest := by
    obtain ⟨⟨s, rest'⟩, hkept, h⟩ := bind_ok h
    cases h
    exact exists_body_of_textFrom hkept
  induction levels with
  | zero => exact grammatical_dispatch hnumber htext fun _ h => by cases h
  | succ levels ih =>
    refine grammatical_dispatch hnumber htext fun hc h => ?_
    rcases hc with rfl | rfl
    · obtain ⟨⟨vs, rest'⟩, hitems, h⟩ := bind_ok h
      cases h
      obtain ⟨ts, hts⟩ := covers_of_arrayRest (fun vs => ih.followed (keep_rest (· :: vs))) hitems
      exact ⟨.array ts, hts.array⟩
    · obtain ⟨⟨vs, rest'⟩, hmembers, h⟩ := bind_ok h
      cases h
      obtain ⟨ms, hms⟩ := covers_of_objectRest exists_body_of_textFrom (fun h => by
        cases h
        exact ih.followed (keep_rest _)) hmembers
      exact ⟨.object ms, hms.object⟩

/-! ### Records -/

namespace Shape

variable {Field : Type} [DecidableEq Field] {Content : Field → Type} {shape : Shape Field Content α}
  {levels : Nat}

/-- Whatever the name of a member is, what is read behind it is a value. -/
theorem grammatical_member (hread : ∀ f, Grammatical (shape.read f levels)) {name : String}
    {g : Given Content} {read : Reader (Given Content)}
    (h : shape.member levels name g = .ok read) : Grammatical read := by
  unfold Shape.member at h
  split at h
  · cases h
    intro cs g' rest hskip
    obtain ⟨rest', hskip, heq⟩ := bind_ok hskip
    cases heq
    exact covers_of_skipValue hskip
  · rename_i f _
    split at h
    · cases h
    · cases h
      exact (hread f).followed (keep_rest fun v => g.set f v)

/-- The items of an array that gives fields are values. There may be fewer of them than fields. -/
theorem covers_of_items (hread : ∀ f, Grammatical (shape.read f levels)) {fs : List Field}
    {first : Bool} {g g' : Given Content} {cs rest : List Char}
    (h : shape.items levels fs first g cs = .ok (g', rest)) :
    ∃ ts : List Tree, Covers (separated first (ts.map Tree.tokens) ++ [[']']]) cs rest := by
  induction fs generalizing first g cs with
  | nil =>
    unfold items at h
    split at h
    · rename_i hcs
      cases h
      refine ⟨[], ?_⟩
      rw [List.map_nil, separated_nil, List.nil_append]
      exact .of_eq _ hcs
    · cases h
    · cases h
  | cons f fs ih =>
    obtain ⟨step, hnext, h⟩ := bind_ok h
    cases step with
    | close rest' =>
      simp only at h
      split at h
      · exact ih h
      · cases h
    | item cs' =>
      obtain ⟨⟨v, cs₁⟩, hvalue, h⟩ := bind_ok h
      obtain ⟨t, ht⟩ := hread f _ _ _ hvalue
      obtain ⟨ts, hts⟩ := ih h
      refine ⟨t :: ts, ?_⟩
      rw [List.map_cons, separated_eq_lead, List.append_assoc, List.append_assoc]
      exact (covers_of_item hnext).append (ht.append hts)

/-- A record is read from a value. -/
theorem grammatical_reader (hread : ∀ f levels, Grammatical (shape.read f levels)) (levels : Nat) :
    Grammatical (shape.reader levels) := fun cs a rest h => by
  unfold reader at h
  split at h
  · rename_i cs' levels hcs
    obtain ⟨⟨g, rest'⟩, hitems, h⟩ := bind_ok h
    obtain ⟨ts, hts⟩ := covers_of_items (fun f => hread f levels) hitems
    simp only at h
    split at h
    · cases h
      exact ⟨.array ts, .of_skipGaps (hcs ▸ hts.array)⟩
    · cases h
  · rename_i cs' levels hcs
    obtain ⟨⟨g, rest'⟩, hmembers, h⟩ := bind_ok h
    obtain ⟨a', hassemble, h⟩ := bind_ok h
    obtain ⟨ms, hms⟩ := covers_of_objectRest exists_body_of_textFrom
      (fun h => grammatical_member (fun f => hread f levels) h) hmembers
    cases h
    exact ⟨.object ms, .of_skipGaps (hcs ▸ hms.object)⟩
  · cases h
  · cases h
  · cases h

end Shape

/-- Every text that is parsed writes a value. -/
theorem exists_writes {read : Nat → Reader α} (hread : Grammatical (read maxLevels)) {s : String}
    {a : α} (h : parse read s = .ok a) : ∃ t, Writes s t := by
  obtain ⟨⟨a', rest⟩, hvalue, h⟩ := bind_ok h
  obtain ⟨t, ht⟩ := hread _ _ _ hvalue
  simp only at h
  split at h
  · rename_i hend
    have hgap : IsGap rest := List.dropWhile_eq_nil_iff.mp (List.isEmpty_iff.mp hend)
    have hwrites := ht [] (.nil hgap)
    rw [List.append_nil] at hwrites
    exact ⟨t, hwrites⟩
  · cases h

end Promotions.Json
