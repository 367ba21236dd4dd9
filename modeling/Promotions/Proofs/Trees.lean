import Promotions.Proofs.Printing

/-!
JSON texts without a reader. A value is a tree whose leaves are numbers and strings as they are
written; the tree is a row of tokens; and a text writes the tree if it is these tokens with any white
space before, between and behind them. So two texts of one tree differ in their white space only,
and the members of an object are those of its tree.
-/

namespace Promotions.Json

open Text

/-! ### Leaves -/

/-- A part of a string as it is written: what stands for a character, or for half of one. -/
inductive Piece where
  /-- A character that stands for itself. -/
  | plain (c : Char) (h : c ≠ '"' ∧ c ≠ '\\' ∧ 0x20 ≤ c.toNat)
  /-- A character behind a backslash. -/
  | short (c : Char) (h : (shortEscape? c).isSome)
  /-- A backslash, a `u` and four hexadecimal digits. -/
  | unit (a b c d : Char) (h : ([a, b, c, d].mapM hexValue?).isSome)

namespace Piece

def chars : Piece → List Char
  | plain c _ => [c]
  | short c _ => ['\\', c]
  | unit a b c d _ => ['\\', 'u', a, b, c, d]

def body (ps : List Piece) : List Char := ps.flatMap chars

def quoted (ps : List Piece) : List Char := '"' :: (body ps ++ ['"'])

def code (a b c d : Char) : Nat := valueFrom 16 0 (([a, b, c, d].mapM hexValue?).getD [])

/-- The characters that a string stands for. There are none if it has half of a character only. -/
def spell? : List Piece → Option (List Char)
  | [] => some []
  | plain c _ :: ps => (spell? ps).map (c :: ·)
  | short c h :: ps => (spell? ps).map ((shortEscape? c).get h :: ·)
  | unit a b c d _ :: ps =>
    if isLowUnit (code a b c d) then none
    else if isHighUnit (code a b c d) then
      match ps with
      | unit a' b' c' d' _ :: ps =>
        if isLowUnit (code a' b' c' d') then
          (spell? ps).map (pairChar (code a b c d) (code a' b' c' d') :: ·)
        else none
      | _ => none
    else (spell? ps).map (Char.ofNat (code a b c d) :: ·)

def text? (ps : List Piece) : Option String := (spell? ps).map String.ofList

end Piece

/-- A text as it is written if all its characters stand for themselves. -/
def spelled (s : String) : List Piece :=
  s.toList.filterMap fun c =>
    if h : c ≠ '"' ∧ c ≠ '\\' ∧ 0x20 ≤ c.toNat then some (.plain c h) else none

def Digits (ds : List Char) : Prop := ds ≠ [] ∧ ∀ d ∈ ds, d.isDigit = true

structure WrittenExponent where
  letter : Char
  sign : List Char
  digits : List Char
  letter_eq : letter = 'e' ∨ letter = 'E'
  sign_eq : sign = [] ∨ sign = ['+'] ∨ sign = ['-']
  digits_ok : Digits digits

/-- A number as it is written. A whole part of more than one digit does not start with zero. -/
structure WrittenNumber where
  negative : Bool
  whole : List Char
  fraction : Option (List Char)
  exponent : Option WrittenExponent
  whole_ok : Digits whole
  whole_eq : whole.head? = some '0' → whole = ['0']
  fraction_ok : ∀ ds ∈ fraction, Digits ds

def WrittenExponent.chars (e : WrittenExponent) : List Char := e.letter :: (e.sign ++ e.digits)

namespace WrittenNumber

def signChars (n : WrittenNumber) : List Char := if n.negative then ['-'] else []

def fractionChars (n : WrittenNumber) : List Char := n.fraction.elim [] ('.' :: ·)

def exponentChars (n : WrittenNumber) : List Char := n.exponent.elim [] WrittenExponent.chars

def chars (n : WrittenNumber) : List Char :=
  n.signChars ++ (n.whole ++ (n.fractionChars ++ n.exponentChars))

end WrittenNumber

/-! ### Trees -/

inductive Tree where
  | null
  | bool (b : Bool)
  | number (n : WrittenNumber)
  | text (ps : List Piece)
  | array (items : List Tree)
  | object (members : List (List Piece × Tree))

abbrev Member : Type := List Piece × Tree

/-- The shortest parts of a text: what no white space can divide. -/
abbrev Token : Type := List Char

mutual

def Tree.tokens : Tree → List Token
  | .null => ["null".toList]
  | .bool b => [if b then "true".toList else "false".toList]
  | .number n => [n.chars]
  | .text ps => [Piece.quoted ps]
  | .array ts => ['['] :: ((itemTokens ts).tail ++ [[']']])
  | .object ms => ['\x7b'] :: ((memberTokens ms).tail ++ [['\x7d']])

def itemTokens : List Tree → List Token
  | [] => []
  | t :: ts => [','] :: (t.tokens ++ itemTokens ts)

def memberTokens : List (List Piece × Tree) → List Token
  | [] => []
  | (k, t) :: ms => [','] :: (Piece.quoted k :: [':'] :: (t.tokens ++ memberTokens ms))

end

def IsGap (cs : List Char) : Prop := ∀ c ∈ cs, isGap c = true

/-- A text is made of tokens, with any white space before, between and behind them. -/
inductive Spaced : List Token → List Char → Prop
  | nil {gap : List Char} : IsGap gap → Spaced [] gap
  | cons {gap token : List Char} {tokens : List Token} {cs : List Char} :
      IsGap gap → Spaced tokens cs → Spaced (token :: tokens) (gap ++ (token ++ cs))

/-- A text writes a value. -/
def Writes (s : String) (t : Tree) : Prop := Spaced t.tokens s.toList

def Member.tokens (m : Member) : List Token := Piece.quoted m.1 :: [':'] :: m.2.tokens

/-- Parts of a sequence, with a comma before each that is not the first of the sequence. -/
def separated (first : Bool) (parts : List (List Token)) : List Token :=
  let all := parts.flatMap fun part => [','] :: part
  if first then all.tail else all

theorem itemTokens_eq (ts : List Tree) :
    itemTokens ts = separated false (ts.map Tree.tokens) := by
  induction ts with
  | nil => rfl
  | cons t ts ih =>
    rw [itemTokens, ih]
    simp [separated]

theorem memberTokens_eq (ms : List Member) :
    memberTokens ms = separated false (ms.map Member.tokens) := by
  induction ms with
  | nil => rfl
  | cons m ms ih =>
    obtain ⟨k, t⟩ := m
    rw [memberTokens, ih]
    simp [separated, Member.tokens]

theorem tokens_array (ts : List Tree) : (Tree.array ts).tokens =
    ['['] :: (separated true (ts.map Tree.tokens) ++ [[']']]) := by
  rw [Tree.tokens, itemTokens_eq]
  rfl

theorem tokens_object (ms : List Member) : (Tree.object ms).tokens =
    ['\x7b'] :: (separated true (ms.map Member.tokens) ++ [['\x7d']]) := by
  rw [Tree.tokens, memberTokens_eq]
  rfl

theorem separated_nil (first : Bool) : separated first [] = [] := by
  cases first <;> rfl

theorem separated_cons_first (part : List Token) (parts : List (List Token)) :
    separated true (part :: parts) = part ++ separated false parts := by
  simp [separated]

theorem separated_cons (part : List Token) (parts : List (List Token)) :
    separated false (part :: parts) = [','] :: (part ++ separated false parts) := by
  simp [separated]

/-! ### Texts of tokens -/

theorem isGap_nil : IsGap [] := fun _ h => by cases h

theorem spaced_flatten (tokens : List Token) : Spaced tokens tokens.flatten := by
  induction tokens with
  | nil => exact .nil isGap_nil
  | cons token tokens ih => exact .cons isGap_nil ih

/-- A text without white space writes its value. -/
theorem writes_of_flatten {s : String} {t : Tree} (h : t.tokens.flatten = s.toList) :
    Writes s t := by
  rw [Writes, ← h]
  exact spaced_flatten t.tokens

theorem skipGaps_append {gap : List Char} (h : IsGap gap) (cs : List Char) :
    skipGaps (gap ++ cs) = skipGaps cs :=
  List.dropWhile_append_of_pos h

/-- What is left of a text without the white space before its first token. -/
theorem Spaced.skipGaps_eq {c : Char} {token : List Char} {tokens : List Token} {cs : List Char}
    (h : Spaced ((c :: token) :: tokens) cs) (hc : isGap c = false) :
    ∃ rest, skipGaps cs = c :: (token ++ rest) ∧ Spaced tokens rest := by
  cases h with
  | @cons gap _ _ rest hgap hrest =>
    refine ⟨rest, ?_, hrest⟩
    rw [skipGaps_append hgap]
    simp [skipGaps, hc]

/-- White space in front makes no difference. -/
theorem Spaced.gap_append {gap : List Char} {tokens : List Token} {cs : List Char}
    (hgap : IsGap gap) (h : Spaced tokens cs) : Spaced tokens (gap ++ cs) := by
  cases h with
  | nil hcs => exact .nil (List.forall_mem_append.mpr ⟨hgap, hcs⟩)
  | cons hfront hrest =>
    rw [← List.append_assoc]
    exact .cons (List.forall_mem_append.mpr ⟨hgap, hfront⟩) hrest

/-- A text has at least as many characters as tokens. -/
theorem Spaced.length_le {tokens more : List Token} (hne : ∀ token ∈ tokens, token ≠ [])
    {cs : List Char} (h : Spaced (tokens ++ more) cs) : tokens.length ≤ cs.length := by
  induction tokens generalizing cs with
  | nil => exact Nat.zero_le _
  | cons token tokens ih =>
    obtain ⟨hhead, htail⟩ := List.forall_mem_cons.mp hne
    cases h with
    | cons _ hrest =>
      have hlength := ih htail hrest
      have hpos := List.length_pos_of_ne_nil hhead
      simp only [List.length_cons, List.length_append]
      omega

theorem WrittenNumber.exists_chars (n : WrittenNumber) :
    ∃ c cs, n.chars = c :: cs ∧ (c = '-' ∨ c.isDigit = true) := by
  obtain ⟨hne, hdigits⟩ := n.whole_ok
  obtain ⟨d, ds, hwhole⟩ := List.exists_cons_of_ne_nil hne
  cases hsign : n.negative with
  | true => exact ⟨'-', _, by simp [chars, signChars, hsign]; rfl, Or.inl rfl⟩
  | false =>
    refine ⟨d, _, by simp [chars, signChars, hsign, hwhole]; rfl, Or.inr (hdigits d ?_)⟩
    rw [hwhole]
    exact List.mem_cons_self

mutual

theorem Tree.tokens_ne_nil : ∀ t : Tree, ∀ token ∈ t.tokens, token ≠ []
  | .null, token, h => by
    rw [Tree.tokens, List.mem_singleton] at h
    subst h
    decide
  | .bool b, token, h => by
    rw [Tree.tokens, List.mem_singleton] at h
    subst h
    cases b <;> decide
  | .number n, token, h => by
    rw [Tree.tokens, List.mem_singleton] at h
    obtain ⟨c, cs, hcs, -⟩ := n.exists_chars
    rw [h, hcs]
    exact List.cons_ne_nil c cs
  | .text ps, token, h => by
    rw [Tree.tokens, List.mem_singleton] at h
    rw [h]
    exact List.cons_ne_nil _ _
  | .array ts, token, h => by
    simp only [Tree.tokens, List.mem_cons, List.mem_append, List.not_mem_nil, or_false] at h
    rcases h with rfl | h | rfl
    · decide
    · exact itemTokens_ne_nil ts token (List.mem_of_mem_tail h)
    · decide
  | .object ms, token, h => by
    simp only [Tree.tokens, List.mem_cons, List.mem_append, List.not_mem_nil, or_false] at h
    rcases h with rfl | h | rfl
    · decide
    · exact memberTokens_ne_nil ms token (List.mem_of_mem_tail h)
    · decide

theorem itemTokens_ne_nil : ∀ ts : List Tree, ∀ token ∈ itemTokens ts, token ≠ []
  | [], token, h => by
    rw [itemTokens] at h
    cases h
  | t :: ts, token, h => by
    simp only [itemTokens, List.mem_cons, List.mem_append] at h
    rcases h with rfl | h | h
    · decide
    · exact t.tokens_ne_nil token h
    · exact itemTokens_ne_nil ts token h

theorem memberTokens_ne_nil :
    ∀ ms : List (List Piece × Tree), ∀ token ∈ memberTokens ms, token ≠ []
  | [], token, h => by
    rw [memberTokens] at h
    cases h
  | (k, t) :: ms, token, h => by
    simp only [memberTokens, List.mem_cons, List.mem_append] at h
    rcases h with rfl | rfl | rfl | h | h
    · decide
    · exact List.cons_ne_nil _ _
    · decide
    · exact t.tokens_ne_nil token h
    · exact memberTokens_ne_nil ms token h

end

/-! ### How a value starts -/

/-- A text that starts with a value at once, and the tokens behind the value. -/
inductive Opens (tokens : List Token) : Tree → List Char → Prop
  | null {rest : List Char} : Spaced tokens rest → Opens tokens .null ('n' :: ("ull".toList ++ rest))
  | yes {rest : List Char} : Spaced tokens rest →
      Opens tokens (.bool true) ('t' :: ("rue".toList ++ rest))
  | no {rest : List Char} : Spaced tokens rest →
      Opens tokens (.bool false) ('f' :: ("alse".toList ++ rest))
  | number {n : WrittenNumber} {rest : List Char} : Spaced tokens rest →
      Opens tokens (.number n) (n.chars ++ rest)
  | text {ps : List Piece} {rest : List Char} : Spaced tokens rest →
      Opens tokens (.text ps) ('"' :: (Piece.body ps ++ '"' :: rest))
  | array {ts : List Tree} {rest : List Char} :
      Spaced (separated true (ts.map Tree.tokens) ++ [']'] :: tokens) rest →
        Opens tokens (.array ts) ('[' :: rest)
  | object {ms : List Member} {rest : List Char} :
      Spaced (separated true (ms.map Member.tokens) ++ ['\x7d'] :: tokens) rest →
        Opens tokens (.object ms) ('\x7b' :: rest)

theorem isGap_of_starts {c : Char} (h : c = '-' ∨ c.isDigit = true) : isGap c = false := by
  rcases h with rfl | h
  · decide
  · exact isGap_of_isDigit h

theorem Spaced.opens {t : Tree} {tokens : List Token} {cs : List Char}
    (h : Spaced (t.tokens ++ tokens) cs) : Opens tokens t (skipGaps cs) := by
  cases t with
  | null =>
    obtain ⟨rest, hcs, hrest⟩ := h.skipGaps_eq (by decide : isGap 'n' = false)
    exact hcs ▸ .null hrest
  | bool b =>
    cases b with
    | true =>
      obtain ⟨rest, hcs, hrest⟩ := h.skipGaps_eq (by decide : isGap 't' = false)
      exact hcs ▸ .yes hrest
    | false =>
      obtain ⟨rest, hcs, hrest⟩ := h.skipGaps_eq (by decide : isGap 'f' = false)
      exact hcs ▸ .no hrest
  | number n =>
    obtain ⟨c, ds, hchars, hc⟩ := n.exists_chars
    rw [Tree.tokens, hchars] at h
    obtain ⟨rest, hcs, hrest⟩ := h.skipGaps_eq (isGap_of_starts hc)
    rw [hcs, ← List.cons_append, ← hchars]
    exact .number hrest
  | text ps =>
    rw [Tree.tokens, Piece.quoted] at h
    obtain ⟨rest, hcs, hrest⟩ := h.skipGaps_eq (by decide)
    rw [hcs, List.append_assoc, List.singleton_append]
    exact .text hrest
  | array ts =>
    rw [tokens_array, List.cons_append, List.append_assoc] at h
    obtain ⟨rest, hcs, hrest⟩ := h.skipGaps_eq (by decide)
    exact hcs ▸ .array hrest
  | object ms =>
    rw [tokens_object, List.cons_append, List.append_assoc] at h
    obtain ⟨rest, hcs, hrest⟩ := h.skipGaps_eq (by decide)
    exact hcs ▸ .object hrest

theorem Opens.spaced {t : Tree} {tokens : List Token} {cs : List Char} (h : Opens tokens t cs) :
    Spaced (t.tokens ++ tokens) cs := by
  cases h with
  | null hrest => exact .cons isGap_nil hrest
  | yes hrest => exact .cons isGap_nil hrest
  | no hrest => exact .cons isGap_nil hrest
  | number hrest => exact .cons isGap_nil hrest
  | @text ps rest hrest =>
    have htext : Spaced (Piece.quoted ps :: tokens) ([] ++ (Piece.quoted ps ++ rest)) :=
      .cons isGap_nil hrest
    simpa [Tree.tokens, Piece.quoted] using htext
  | array hrest =>
    rw [tokens_array, List.cons_append, List.append_assoc]
    exact .cons isGap_nil hrest
  | object hrest =>
    rw [tokens_object, List.cons_append, List.append_assoc]
    exact .cons isGap_nil hrest

theorem Opens.skipGaps_eq {t : Tree} {tokens : List Token} {cs : List Char}
    (h : Opens tokens t cs) : skipGaps cs = cs := by
  cases h with
  | number hrest =>
    rename_i n rest
    obtain ⟨c, ds, hchars, hc⟩ := n.exists_chars
    rw [hchars, List.cons_append, skipGaps_cons (isGap_of_starts hc)]
  | null | yes | no | text | array | object => exact skipGaps_cons (by decide) _

def Tree.Starts : Tree → Char → Prop
  | .null, c => c = 'n'
  | .bool b, c => c = if b then 't' else 'f'
  | .number _, c => c = '-' ∨ c.isDigit = true
  | .text _, c => c = '"'
  | .array _, c => c = '['
  | .object _, c => c = '\x7b'

namespace Tree.Starts

variable {t : Tree}

theorem eq_null (h : t.Starts 'n') : t = .null := by
  cases t with
  | null => rfl
  | bool b => cases b <;> exact absurd h (by simp [Starts])
  | number | text | array | object => exact absurd h (by simp [Starts])

theorem exists_number {c : Char} (h : t.Starts c) (hc : c = '-' ∨ c.isDigit = true) :
    ∃ n, t = .number n := by
  cases t with
  | number n => exact ⟨n, rfl⟩
  | bool b => cases b <;> (obtain rfl := h; exact absurd hc (by decide))
  | null | text | array | object =>
    obtain rfl := h
    exact absurd hc (by decide)

theorem exists_text (h : t.Starts '"') : ∃ ps, t = .text ps := by
  cases t with
  | text ps => exact ⟨ps, rfl⟩
  | bool b => cases b <;> exact absurd h (by simp [Starts])
  | null | number | array | object => exact absurd h (by simp [Starts])

theorem exists_array (h : t.Starts '[') : ∃ ts, t = .array ts := by
  cases t with
  | array ts => exact ⟨ts, rfl⟩
  | bool b => cases b <;> exact absurd h (by simp [Starts])
  | null | number | text | object => exact absurd h (by simp [Starts])

theorem exists_object (h : t.Starts '\x7b') : ∃ ms, t = .object ms := by
  cases t with
  | object ms => exact ⟨ms, rfl⟩
  | bool b => cases b <;> exact absurd h (by simp [Starts])
  | null | number | text | array => exact absurd h (by simp [Starts])

end Tree.Starts

theorem Opens.starts {t : Tree} {tokens : List Token} {cs : List Char} (h : Opens tokens t cs) :
    ∃ c rest, cs = c :: rest ∧ t.Starts c := by
  cases h with
  | number hrest =>
    rename_i n rest
    obtain ⟨c, ds, hchars, hc⟩ := n.exists_chars
    exact ⟨c, ds ++ rest, by rw [hchars]; rfl, hc⟩
  | null | yes | no | text | array | object => exact ⟨_, _, rfl, rfl⟩

/-- A value starts with its first token, which is neither white space nor a separator. -/
theorem Tree.exists_tokens (t : Tree) : ∃ c token tokens, t.tokens = (c :: token) :: tokens ∧
    isGap c = false ∧ c ≠ ']' ∧ c ≠ '\x7d' := by
  cases t with
  | null => exact ⟨'n', _, _, rfl, by decide⟩
  | bool b => cases b <;> exact ⟨_, _, _, rfl, by decide⟩
  | number n =>
    obtain ⟨c, cs, hchars, hc⟩ := n.exists_chars
    refine ⟨c, cs, [], by rw [Tree.tokens, hchars], isGap_of_starts hc, ?_, ?_⟩ <;>
      (rintro rfl; rcases hc with hc | hc <;> exact absurd hc (by decide))
  | text ps => exact ⟨'"', _, _, rfl, by decide⟩
  | array ts => exact ⟨'[', _, _, by rw [tokens_array], by decide⟩
  | object ms => exact ⟨'\x7b', _, _, by rw [tokens_object], by decide⟩

/-! ### Lengths -/

theorem length_le_separated {parts : List (List Token)} (hne : ∀ part ∈ parts, part ≠ []) :
    parts.length ≤ (separated true parts).length ∧
      ∀ part ∈ parts, part.length ≤ (separated true parts).length := by
  have hall (parts : List (List Token)) : parts.length ≤ (separated false parts).length ∧
      ∀ part ∈ parts, part.length ≤ (separated false parts).length := by
    induction parts with
    | nil => exact ⟨Nat.zero_le _, fun _ h => by cases h⟩
    | cons part parts ih =>
      rw [separated_cons]
      simp only [List.length_cons, List.length_append]
      refine ⟨by omega, fun part' hpart' => ?_⟩
      rcases List.mem_cons.mp hpart' with rfl | hmem
      · omega
      · have := ih.2 part' hmem
        omega
  cases parts with
  | nil => exact ⟨Nat.zero_le _, fun _ h => by cases h⟩
  | cons part parts =>
    have hpos := List.length_pos_of_ne_nil (hne part List.mem_cons_self)
    obtain ⟨hcount, hmem⟩ := hall parts
    rw [separated_cons_first]
    simp only [List.length_cons, List.length_append]
    refine ⟨by omega, fun part' hpart' => ?_⟩
    rcases List.mem_cons.mp hpart' with rfl | hpart'
    · omega
    · have := hmem part' hpart'
      omega

/-- An array has more tokens than items, and more than any of its items. -/
theorem length_tokens_array (ts : List Tree) : ts.length + 2 ≤ (Tree.array ts).tokens.length ∧
    ∀ t ∈ ts, t.tokens.length + 2 ≤ (Tree.array ts).tokens.length := by
  have hparts : ∀ part ∈ ts.map Tree.tokens, part ≠ [] := by
    rintro part hpart rfl
    obtain ⟨t, -, ht⟩ := List.mem_map.mp hpart
    obtain ⟨c, token, tokens, ht', -⟩ := t.exists_tokens
    rw [ht] at ht'
    cases ht'
  obtain ⟨hcount, hmem⟩ := length_le_separated hparts
  rw [List.length_map] at hcount
  rw [tokens_array]
  simp only [List.length_cons, List.length_append, List.length_nil]
  refine ⟨by omega, fun t ht => ?_⟩
  have := hmem t.tokens (List.mem_map_of_mem ht)
  omega

/-- An object has more tokens than members, and more than any value in it. -/
theorem length_tokens_object (ms : List Member) :
    ms.length + 2 ≤ (Tree.object ms).tokens.length ∧
      ∀ m ∈ ms, m.2.tokens.length + 2 ≤ (Tree.object ms).tokens.length := by
  have hparts : ∀ part ∈ ms.map Member.tokens, part ≠ [] := by
    rintro part hpart rfl
    obtain ⟨m, -, hm⟩ := List.mem_map.mp hpart
    cases hm
  obtain ⟨hcount, hmem⟩ := length_le_separated hparts
  rw [List.length_map] at hcount
  rw [tokens_object]
  simp only [List.length_cons, List.length_append, List.length_nil]
  refine ⟨by omega, fun m hm => ?_⟩
  have := hmem (Member.tokens m) (List.mem_map_of_mem hm)
  simp only [Member.tokens, List.length_cons] at this
  omega

/-- A text has more characters behind its first bracket than items. -/
theorem Opens.length_items {tokens : List Token} {ts : List Tree} {rest : List Char}
    (h : Opens tokens (.array ts) ('[' :: rest)) : ts.length < rest.length + 1 := by
  have hlength := h.spaced.length_le (Tree.array ts).tokens_ne_nil
  have hitems := (length_tokens_array ts).1
  rw [List.length_cons] at hlength
  omega

theorem Opens.length_members {tokens : List Token} {ms : List Member} {rest : List Char}
    (h : Opens tokens (.object ms) ('\x7b' :: rest)) : ms.length < rest.length + 1 := by
  have hlength := h.spaced.length_le (Tree.object ms).tokens_ne_nil
  have hmembers := (length_tokens_object ms).1
  rw [List.length_cons] at hlength
  omega

end Promotions.Json
