import Promotions.Json.Shape
import Promotions.Proofs.Spellings

/-!
Readers do not see white space. What a reader makes of a value hangs on the tree of the value only,
whatever white space stands between its tokens and whatever stands behind it; this holds of faults
as well as of what is read. What is told apart by its first character comes first, then sequences,
and in the end the readers of each shape. A value that is passed over may be nested to any depth.
-/

namespace Promotions.Json

open Text

variable {α β σ κ : Type}

/-! ### What a reader makes of a value -/

/-- How a reader ends that is to make this of a value: it leaves the tokens behind the value, or
stops with the fault. -/
inductive Leaves (tokens : List Token) : Except Fault α → Except Fault (α × List Char) → Prop
  | ok {a : α} {rest : List Char} : Spaced tokens rest → Leaves tokens (.ok a) (.ok (a, rest))
  | error {f : Fault} : Leaves tokens (.error f) (.error f)

/-- A reader makes this of a value, wherever it stands. -/
def Reads (read : Reader α) (t : Tree) (res : Except Fault α) : Prop :=
  ∀ tokens cs, Ends tokens → Spaced (t.tokens ++ tokens) cs → Leaves tokens res (read cs)

/-- A reader makes the same of all texts of a value. -/
def IgnoresGaps (read : Reader α) : Prop := ∀ t, ∃ res, Reads read t res

/-- What a reader makes of a value that is written without white space. -/
def Tree.readBy (t : Tree) (read : Reader α) : Except Fault α :=
  (read t.tokens.flatten).map (·.1)

theorem Leaves.of_eq {tokens : List Token} {rest : List Char} (h : Spaced tokens rest)
    {res : Except Fault α} {out : Except Fault (α × List Char)}
    (heq : out = res.map fun a => (a, rest)) : Leaves tokens res out := by
  subst heq
  cases res with
  | ok a => exact .ok h
  | error f => exact .error

theorem Leaves.bind {tokens tokens' : List Token} {res : Except Fault α}
    {out : Except Fault (α × List Char)} (h : Leaves tokens res out)
    {k : α → Except Fault β} {k' : α × List Char → Except Fault (β × List Char)}
    (hk : ∀ a rest, Spaced tokens rest → Leaves tokens' (k a) (k' (a, rest))) :
    Leaves tokens' (res >>= k) (out >>= k') := by
  cases h with
  | ok hrest => exact hk _ _ hrest
  | error => exact .error

theorem Leaves.map {tokens : List Token} {res : Except Fault α}
    {out : Except Fault (α × List Char)} (h : Leaves tokens res out) (f : α → β) :
    Leaves tokens (res.map f) (do let (a, rest) ← out; .ok (f a, rest)) := by
  cases h with
  | ok hrest => exact .ok hrest
  | error => exact .error

theorem Reads.readBy_eq {read : Reader α} {t : Tree} {res : Except Fault α}
    (h : Reads read t res) : t.readBy read = res := by
  have hspaced : Spaced (t.tokens ++ []) t.tokens.flatten := by
    rw [List.append_nil]
    exact spaced_flatten t.tokens
  have hleaves := h [] _ ends_nil hspaced
  unfold Tree.readBy
  generalize read t.tokens.flatten = out at hleaves
  cases hleaves with
  | ok => rfl
  | error => rfl

theorem IgnoresGaps.reads {read : Reader α} (h : IgnoresGaps read) (t : Tree) :
    Reads read t (t.readBy read) := by
  obtain ⟨res, hres⟩ := h t
  rwa [hres.readBy_eq]

/-- A value can be told by its text from its first character on. -/
theorem reads_of_opens {read : Reader α} {t : Tree} {res : Except Fault α}
    (h : ∀ tokens cs, Ends tokens → Opens tokens t (skipGaps cs) → Leaves tokens res (read cs)) :
    Reads read t res :=
  fun tokens cs hends hcs => h tokens cs hends hcs.opens

/-- What comes of a value when more is done with what is read. -/
theorem Reads.followed {read : Reader α} {t : Tree} {res : Except Fault α} (h : Reads read t res)
    {k : α → Except Fault β} {k' : α × List Char → Except Fault (β × List Char)}
    (hk : ∀ a rest, k' (a, rest) = (k a).map fun b => (b, rest)) :
    Reads (fun cs => read cs >>= k') t (res >>= k) := fun tokens cs hends hcs =>
  (h tokens cs hends hcs).bind fun a rest hrest => .of_eq hrest (hk a rest)

/-! ### Telling values apart -/

def Tree.sorted (leaf : Value → α) (number : WrittenNumber → Except Fault α)
    (text : List Piece → Except Fault α) (nested : Except Fault α) : Tree → Except Fault α
  | .null => .ok (leaf .null)
  | .bool b => .ok (leaf (.bool b))
  | .number n => number n
  | .text ps => text ps
  | .array _ | .object _ => nested

/-- The rest of a text that starts with the given word. -/
theorem word_append (ws rest : List Char) : word ws (ws ++ rest) = .ok rest := by
  induction ws with
  | nil => rfl
  | cons w ws ih => rw [List.cons_append, word, if_pos rfl, ih]

/-- A value is told apart by its first character. -/
theorem Opens.dispatch {tokens : List Token} {t : Tree} {cs : List Char} (hends : Ends tokens)
    (h : Opens tokens t (skipGaps cs)) (leaf : Value → α) (number text nested : Reader α)
    {ofNumber : WrittenNumber → Except Fault α} {ofText : List Piece → Except Fault α}
    {ofNested : Except Fault α}
    (hnumber : ∀ n rest, EndsNumber rest →
      number (n.chars ++ rest) = (ofNumber n).map fun a => (a, rest))
    (htext : ∀ ps rest,
      text (Piece.body ps ++ '"' :: rest) = (ofText ps).map fun a => (a, rest))
    (harray : ∀ ts, t = .array ts → ∀ rest,
      Spaced (separated true (ts.map Tree.tokens) ++ [']'] :: tokens) rest →
        Leaves tokens ofNested (nested ('[' :: rest)))
    (hobject : ∀ ms, t = .object ms → ∀ rest,
      Spaced (separated true (ms.map Member.tokens) ++ ['\x7d'] :: tokens) rest →
        Leaves tokens ofNested (nested ('\x7b' :: rest))) :
    Leaves tokens (t.sorted leaf ofNumber ofText ofNested)
      (Json.dispatch leaf number text nested cs) := by
  unfold Json.dispatch
  generalize skipGaps cs = ds at h
  cases h with
  | null hrest =>
    simp only [word_append, if_true, bind, Except.bind]
    exact .ok hrest
  | yes hrest =>
    simp only [word_append, bind, Except.bind]
    exact .ok hrest
  | no hrest =>
    simp only [word_append, bind, Except.bind]
    exact .ok hrest
  | number hrest =>
    rename_i n rest
    obtain ⟨c, cs, hchars, hc⟩ := n.exists_chars
    have heq := hnumber n rest (hrest.endsNumber hends)
    rw [hchars, List.cons_append] at heq ⊢
    have hne (d : Char) (hd : d.isDigit = false ∧ d ≠ '-') : c ≠ d := by
      rintro rfl
      rcases hc with hc | hc
      · exact hd.2 hc
      · rw [hd.1] at hc
        cases hc
    simp only [hne 'n' (by decide), hne 't' (by decide), hne 'f' (by decide),
      hne '"' (by decide), hc, if_true]
    exact .of_eq hrest heq
  | text hrest => exact .of_eq hrest (htext _ _)
  | array hrest => exact harray _ rfl _ hrest
  | object hrest => exact hobject _ rfl _ hrest

/-- The fault of a value that is not of the shape that is wanted. -/
def Tree.misfit : Tree → Fault
  | .number n => if n.numeral.outOfRange then .malformed else .mismatch
  | .text ps => if (Piece.text? ps).isSome then .mismatch else .malformed
  | _ => .mismatch

def vainNumber : Reader Unit := fun cs => do
  let (_, rest) ← keptNumeral cs
  .ok ((), rest)

def vainText : Reader Unit := fun cs => do
  let (_, rest) ← textBody cs
  .ok ((), rest)

theorem vainNumber_chars (n : WrittenNumber) (rest : List Char) (h : EndsNumber rest) :
    vainNumber (n.chars ++ rest) =
      (if n.numeral.outOfRange then .error .malformed else .ok () : Except Fault Unit).map
        fun a => (a, rest) := by
  simp only [vainNumber, keptNumeral_chars n h]
  split <;> rfl

theorem vainText_body (ps : List Piece) (rest : List Char) :
    vainText (Piece.body ps ++ '"' :: rest) =
      ((Piece.read ps).map fun _ => ()).map fun a => (a, rest) := by
  simp only [vainText, textBody_body]
  cases Piece.read ps <;> rfl

theorem wrongShape_eq {tokens : List Token} {t : Tree} {cs : List Char} (hends : Ends tokens)
    (h : Opens tokens t cs) : wrongShape cs = t.misfit := by
  have hvain := (h.skipGaps_eq.symm ▸ h).dispatch hends (fun _ => ()) vainNumber vainText
    (fun _ => .error .mismatch) vainNumber_chars vainText_body (fun _ _ _ _ => .error)
    fun _ _ _ _ => .error
  generalize hres : t.sorted _ _ _ _ = res at hvain
  have hfault : res = .ok () ∧ t.misfit = .mismatch ∨ res = .error t.misfit := by
    subst hres
    cases t with
    | number n => cases hrange : n.numeral.outOfRange <;> simp [Tree.sorted, Tree.misfit, hrange]
    | text ps =>
      cases htext : Piece.text? ps with
      | none => exact Or.inr (by simp [Tree.sorted, Tree.misfit, Piece.read, htext, Except.map])
      | some s =>
        exact Or.inl (by simp [Tree.sorted, Tree.misfit, Piece.read, htext, Except.map])
    | null | bool => exact Or.inl ⟨rfl, rfl⟩
    | array | object => exact Or.inr rfl
  unfold wrongShape
  split
  · rename_i p hread
    have hout : Json.dispatch (fun _ => ()) vainNumber vainText (fun _ => .error .mismatch) cs =
        .ok p := hread
    rw [hout] at hvain
    rcases hfault with ⟨rfl, hfault⟩ | rfl
    · exact hfault.symm
    · cases hvain
  · rename_i f hread
    have hout : Json.dispatch (fun _ => ()) vainNumber vainText (fun _ => .error .mismatch) cs =
        .error f := hread
    rw [hout] at hvain
    rcases hfault with ⟨rfl, hfault⟩ | rfl <;> cases hvain
    rfl

/-! ### Strings and integers -/

/-- A string is read in the same way wherever it stands. -/
theorem reads_text (ps : List Piece) : Reads text (.text ps) (Piece.read ps) :=
  reads_of_opens fun tokens cs hends h => by
    unfold text
    generalize skipGaps cs = ds at h
    cases h with
    | text hrest => exact .of_eq hrest (textBody_body _ _)

theorem reads_text_other {t : Tree} (h : ∀ ps, t ≠ .text ps) :
    Reads text t (.error t.misfit) :=
  reads_of_opens fun tokens cs hends hopens => by
    have hfault := wrongShape_eq hends hopens
    obtain ⟨c, rest, hcs, hstarts⟩ := hopens.starts
    unfold text
    rw [hcs] at hfault ⊢
    split
    · rename_i rest' heq
      obtain ⟨rfl, -⟩ := List.cons.inj heq
      obtain ⟨ps, rfl⟩ := hstarts.exists_text
      exact absurd rfl (h ps)
    · rw [hfault]
      exact .error

theorem ignoresGaps_text : IgnoresGaps text := fun t => by
  cases t with
  | text ps => exact ⟨_, reads_text ps⟩
  | null | bool | number | array | object => exact ⟨_, reads_text_other fun _ h => by cases h⟩

def WrittenNumber.between (n : WrittenNumber) (low high : Int) : Except Fault Int :=
  if n.numeral.outOfRange then .error .malformed
  else match n.numeral.integer? with
    | some i => if low ≤ i ∧ i ≤ high then .ok i else .error .mismatch
    | none => .error .mismatch

theorem reads_integer (n : WrittenNumber) (low high : Int) :
    Reads (integer low high) (.number n) (n.between low high) :=
  reads_of_opens fun tokens cs hends h => by
    unfold integer
    generalize skipGaps cs = ds at h
    cases h with
    | number hrest =>
      rename_i rest
      obtain ⟨c, ds, hchars, hc⟩ := n.exists_chars
      have hkept := keptNumeral_chars n (hrest.endsNumber hends)
      rw [hchars, List.cons_append] at hkept ⊢
      simp only [hc, if_true, hkept, bind, Except.bind]
      refine .of_eq hrest ?_
      unfold WrittenNumber.between
      by_cases hrange : n.numeral.outOfRange = true
      · simp only [hrange, if_true]
        rfl
      · simp only [hrange, if_false, Bool.false_eq_true]
        cases n.numeral.integer? with
        | none => rfl
        | some i =>
          simp only
          split <;> rfl

theorem ignoresGaps_integer (low high : Int) : IgnoresGaps (integer low high) := fun t => by
  by_cases h : ∃ n, t = .number n
  · obtain ⟨n, rfl⟩ := h
    exact ⟨_, reads_integer n low high⟩
  · refine ⟨.error t.misfit, reads_of_opens fun tokens cs hends hopens => ?_⟩
    have hfault := wrongShape_eq hends hopens
    obtain ⟨c, rest, hcs, hstarts⟩ := hopens.starts
    have hc : ¬(c = '-' ∨ c.isDigit = true) := fun hc => h (hstarts.exists_number hc)
    rw [hcs] at hfault
    simp only [integer, hcs, hc, if_false, hfault]
    exact .error

theorem ignoresGaps_int32 : IgnoresGaps int32 := fun t =>
  ⟨_, ((ignoresGaps_integer _ _).reads t).followed (k := fun n => .ok (Int32.ofInt n))
    fun _ _ => rfl⟩

theorem ignoresGaps_int64 : IgnoresGaps int64 := fun t =>
  ⟨_, ((ignoresGaps_integer _ _).reads t).followed (k := fun n => .ok (Int64.ofInt n))
    fun _ _ => rfl⟩

theorem ignoresGaps_textAs (read? : String → Option α) : IgnoresGaps (textAs read?) := fun t =>
  ⟨_, (ignoresGaps_text.reads t).followed
    (k := fun s => (read? s).elim (.error .mismatch) .ok) fun s _ => by
      simp only
      cases read? s <;> rfl⟩

/-! ### Optional values -/

theorem reads_optional_null (read : Reader α) : Reads (optional read) .null (.ok none) :=
  reads_of_opens fun tokens cs _ h => by
    unfold optional
    generalize skipGaps cs = ds at h
    cases h with
    | null hrest =>
      simp only [word_append, bind, Except.bind]
      exact .ok hrest

theorem reads_optional {read : Reader α} {t : Tree} {res : Except Fault α}
    (h : Reads read t res) (hnull : t ≠ .null) : Reads (optional read) t (res.map some) :=
  reads_of_opens fun tokens cs hends hopens => by
    have hread := h tokens _ hends hopens.spaced
    obtain ⟨c, rest, hcs, hstarts⟩ := hopens.starts
    unfold optional
    rw [hcs] at hread ⊢
    split
    · rename_i heq
      obtain ⟨rfl, -⟩ := List.cons.inj heq
      exact absurd hstarts.eq_null hnull
    · exact hread.map some

theorem IgnoresGaps.optional {read : Reader α} (h : IgnoresGaps read) :
    IgnoresGaps (optional read) := fun t => by
  by_cases hnull : t = .null
  · exact ⟨_, hnull ▸ reads_optional_null read⟩
  · exact ⟨_, reads_optional (h.reads t) hnull⟩

/-! ### Sequences -/

theorem next_close_of_spaced {last : Char} (hgap : isGap last = false) (first : Bool)
    {tokens : List Token} {cs : List Char} (h : Spaced ([last] :: tokens) cs) :
    ∃ rest, next last first cs = .ok (.close rest) ∧ Spaced tokens rest := by
  obtain ⟨rest, hcs, hrest⟩ := h.skipGaps_eq hgap
  refine ⟨rest, ?_, hrest⟩
  simp only [next, hcs, List.nil_append, if_true]

/-- Another item follows, from its first character on. -/
theorem next_item_of_spaced (last : Char) {c : Char} (hlast : last ≠ ',') (hgap : isGap c = false)
    (hne : c ≠ last) {first : Bool} {token : List Char} {part : List Token}
    {parts : List (List Token)} {tokens : List Token} {cs : List Char}
    (h : Spaced (separated first (((c :: token) :: part) :: parts) ++ tokens) cs) :
    ∃ rest, next last first cs = .ok (.item (c :: (token ++ rest))) ∧
      Spaced (part ++ (separated false parts ++ tokens)) rest := by
  cases first with
  | true =>
    rw [separated_cons_first, List.append_assoc, List.cons_append] at h
    obtain ⟨rest, hcs, hrest⟩ := h.skipGaps_eq hgap
    refine ⟨rest, ?_, hrest⟩
    simp only [next, hcs, hne, if_false, if_true]
  | false =>
    rw [separated_cons, List.cons_append, List.append_assoc, List.cons_append] at h
    obtain ⟨rest, hcs, hrest⟩ := h.skipGaps_eq (by decide : isGap ',' = false)
    obtain ⟨rest', hcs', hrest'⟩ := hrest.skipGaps_eq hgap
    refine ⟨rest', ?_, hrest'⟩
    simp only [next, hcs, List.nil_append, Ne.symm hlast, if_false, if_true, Bool.false_eq_true,
      hcs', hne]

theorem ends_separated {last : Char} (hlast : last = ']' ∨ last = '\x7d')
    (parts : List (List Token)) (tokens : List Token) :
    Ends (separated false parts ++ [last] :: tokens) := by
  cases parts with
  | nil =>
    rw [separated_nil, List.nil_append]
    rcases hlast with rfl | rfl
    · exact ends_cons (Or.inr (Or.inl rfl)) tokens
    · exact ends_cons (Or.inr (Or.inr rfl)) tokens
  | cons part parts =>
    rw [separated_cons, List.cons_append]
    exact ends_cons (Or.inl rfl) _

/-- The items of an array are read one after another. -/
theorem leaves_arrayRest (item : σ → Reader σ) {give : σ → Tree → Except Fault σ}
    {tokens : List Token} {ts : List Tree} (hitem : ∀ s, ∀ t ∈ ts, Reads (item s) t (give s t))
    {bound : Nat} (hbound : ts.length < bound) {first : Bool} {s : σ} {cs : List Char}
    (h : Spaced (separated first (ts.map Tree.tokens) ++ [']'] :: tokens) cs) :
    Leaves tokens (ts.foldlM give s) (arrayRest item bound first s cs) := by
  induction ts generalizing bound first s cs with
  | nil =>
    obtain ⟨bound, rfl⟩ := Nat.exists_eq_succ_of_ne_zero (Nat.ne_of_gt hbound)
    rw [List.map_nil, separated_nil, List.nil_append] at h
    obtain ⟨rest, hnext, hrest⟩ := next_close_of_spaced (by decide) first h
    simp only [arrayRest, hnext, bind, Except.bind]
    exact .ok hrest
  | cons t ts ih =>
    obtain ⟨bound, rfl⟩ := Nat.exists_eq_succ_of_ne_zero (Nat.ne_of_gt (Nat.zero_lt_of_lt hbound))
    obtain ⟨hhead, htail⟩ := List.forall_mem_cons.mp (fun t ht s => hitem s t ht)
    obtain ⟨c, token, part, ht, hgap, hne, -⟩ := t.exists_tokens
    rw [List.map_cons, ht] at h
    obtain ⟨rest, hnext, hrest⟩ := next_item_of_spaced ']' (by decide) hgap hne h
    have hspaced : Spaced (t.tokens ++ (separated false (ts.map Tree.tokens) ++ [']'] :: tokens))
        (c :: (token ++ rest)) := by
      rw [ht]
      exact .cons isGap_nil hrest
    have hread := hhead s _ _ (ends_separated (Or.inl rfl) _ _) hspaced
    simp only [arrayRest, hnext, List.foldlM_cons]
    exact hread.bind fun s' rest' hrest' =>
      ih (fun s t ht => htail t ht s) (Nat.lt_of_succ_lt_succ hbound) hrest'

/-- What becomes of a state when a member is read: its name can be spoilt or refused; else its value
is read. -/
inductive Takes (ofKey : List Piece → Except Fault κ) (member : κ → σ → Except Fault (Reader σ))
    (s : σ) (m : Member) : Except Fault σ → Prop
  | spoilt {f : Fault} : ofKey m.1 = .error f → Takes ofKey member s m (.error f)
  | refused {k : κ} {f : Fault} : ofKey m.1 = .ok k → member k s = .error f →
      Takes ofKey member s m (.error f)
  | read {k : κ} {read : Reader σ} {res : Except Fault σ} : ofKey m.1 = .ok k →
      member k s = .ok read → Reads read m.2 res → Takes ofKey member s m res

theorem takes_of_key {ofKey : List Piece → Except Fault κ}
    {member : κ → σ → Except Fault (Reader σ)} {s : σ} {m : Member} {res : κ → Except Fault σ}
    (h : ∀ k, ofKey m.1 = .ok k → (∃ f, member k s = .error f ∧ res k = .error f) ∨
      ∃ read, member k s = .ok read ∧ Reads read m.2 (res k)) :
    Takes ofKey member s m (ofKey m.1 >>= res) := by
  cases hkey : ofKey m.1 with
  | error f => exact .spoilt hkey
  | ok k =>
    rcases h k hkey with ⟨f, hrefused, hres⟩ | ⟨read, hread, hvalue⟩
    · have hend : (Except.ok k >>= res) = .error f := hres
      rw [hend]
      exact .refused hkey hrefused
    · exact .read hkey hread hvalue

theorem colon_of_spaced {tokens : List Token} {cs : List Char} (h : Spaced ([':'] :: tokens) cs) :
    ∃ rest, colon cs = .ok rest ∧ Spaced tokens rest := by
  obtain ⟨rest, hcs, hrest⟩ := h.skipGaps_eq (by decide)
  refine ⟨rest, ?_, hrest⟩
  simp only [colon, hcs, List.nil_append]

/-- The members of an object are read one after another. -/
theorem leaves_objectRest {key : Reader κ} {member : κ → σ → Except Fault (Reader σ)}
    {ofKey : List Piece → Except Fault κ} {give : σ → Member → Except Fault σ}
    (hkey : ∀ ps rest, key (Piece.body ps ++ '"' :: rest) = (ofKey ps).map fun k => (k, rest))
    {tokens : List Token} {ms : List Member}
    (hmember : ∀ s, ∀ m ∈ ms, Takes ofKey member s m (give s m))
    {bound : Nat} (hbound : ms.length < bound) {first : Bool} {s : σ} {cs : List Char}
    (h : Spaced (separated first (ms.map Member.tokens) ++ ['\x7d'] :: tokens) cs) :
    Leaves tokens (ms.foldlM give s) (objectRest key member bound first s cs) := by
  induction ms generalizing bound first s cs with
  | nil =>
    obtain ⟨bound, rfl⟩ := Nat.exists_eq_succ_of_ne_zero (Nat.ne_of_gt hbound)
    rw [List.map_nil, separated_nil, List.nil_append] at h
    obtain ⟨rest, hnext, hrest⟩ := next_close_of_spaced (by decide) first h
    simp only [objectRest, hnext, bind, Except.bind]
    exact .ok hrest
  | cons m ms ih =>
    obtain ⟨bound, rfl⟩ := Nat.exists_eq_succ_of_ne_zero (Nat.ne_of_gt (Nat.zero_lt_of_lt hbound))
    obtain ⟨hhead, htail⟩ := List.forall_mem_cons.mp (fun m hm s => hmember s m hm)
    rw [List.map_cons, Member.tokens, Piece.quoted] at h
    obtain ⟨rest, hnext, hrest⟩ :=
      next_item_of_spaced '\x7d' (by decide) (by decide) (by decide) h
    rw [List.append_assoc, List.singleton_append] at hnext
    obtain ⟨rest', hcolon, hrest'⟩ := colon_of_spaced hrest
    have hends := ends_separated (Or.inr rfl) (ms.map Member.tokens) tokens
    have htakes := hhead s
    rw [List.foldlM_cons]
    generalize give s m = res at htakes
    simp only [objectRest, hnext, bind, Except.bind, hkey]
    cases htakes with
    | spoilt hspoilt =>
      simp only [hspoilt, Except.map]
      exact .error
    | refused hname hrefused =>
      simp only [hname, Except.map, hrefused]
      exact .error
    | read hname hread hvalue =>
      simp only [hname, Except.map, hread, hcolon]
      exact (hvalue _ _ hends hrest').bind fun s' rest'' hrest'' =>
        ih (fun s m hm => htail m hm s) (Nat.lt_of_succ_lt_succ hbound) hrest''

/-! ### Values that are passed over -/

def pass (_ : Unit) (_ : β) : Except Fault Unit := .ok ()

theorem foldlM_pass (bs : List β) : bs.foldlM pass () = .ok () := by
  induction bs with
  | nil => rfl
  | cons b bs ih => exact ih

/-- A value is passed over if the bound is not below the number of its tokens. -/
theorem leaves_skipWithin (bound : Nat) {t : Tree} (hbound : t.tokens.length ≤ bound)
    {tokens : List Token} {cs : List Char} (hends : Ends tokens)
    (h : Spaced (t.tokens ++ tokens) cs) : Leaves tokens (.ok ()) (skipWithin bound cs) := by
  -- What is inside a value has fewer tokens than the value, so the bound does for it as well.
  induction bound generalizing t tokens cs with
  | zero =>
    obtain ⟨c, token, more, ht, -⟩ := t.exists_tokens
    rw [ht] at hbound
    cases hbound
  | succ bound ih =>
    have hall : t.sorted (fun _ => ()) (fun _ => .ok ()) (fun _ => .ok ()) (.ok ()) =
        (.ok () : Except Fault Unit) := by
      cases t <;> rfl
    rw [← hall, skipWithin]
    refine h.opens.dispatch hends _ _ _ _ ?_ ?_ ?_ ?_
    · intro n rest hrest
      simp only [skippedNumber, skipNumeral, numeral_chars n hrest]
      rfl
    · intro ps rest
      simp only [skippedText, skipTextBody_body]
      rfl
    · rintro ts rfl rest hrest
      obtain ⟨hcount, hmem⟩ := length_tokens_array ts
      have hitem : ∀ s, ∀ t ∈ ts, Reads (skipWithin bound) t (pass s t) :=
        fun _ t ht tokens cs hends h => ih (by have := hmem t ht; omega) hends h
      have hrun := leaves_arrayRest (fun _ => skipWithin bound) hitem
        (by omega : ts.length < bound) (s := ()) hrest
      rwa [foldlM_pass] at hrun
    · rintro ms rfl rest hrest
      obtain ⟨hcount, hmem⟩ := length_tokens_object ms
      have hmember : ∀ s, ∀ m ∈ ms, Takes (fun _ => .ok ())
          (fun (_ : Unit) _ => .ok (skipWithin bound)) s m (pass s m) := fun _ m hm =>
        .read rfl rfl fun tokens cs hends h => ih (by have := hmem m hm; omega) hends h
      have hkey (ps : List Piece) (rest : List Char) :
          skippedText (Piece.body ps ++ '"' :: rest) = .ok ((), rest) := by
        simp only [skippedText, skipTextBody_body]
        rfl
      have hrun := leaves_objectRest hkey hmember (by omega : ms.length < bound) (s := ())
        hrest
      rwa [foldlM_pass] at hrun

/-- Every value can be passed over. -/
theorem exists_skipValue {t : Tree} {tokens : List Token} {cs : List Char} (hends : Ends tokens)
    (h : Spaced (t.tokens ++ tokens) cs) : ∃ rest, skipValue cs = .ok rest ∧ Spaced tokens rest := by
  have hlength : t.tokens.length ≤ cs.length + 1 := Nat.le_succ_of_le (h.length_le t.tokens_ne_nil)
  have hskipped := leaves_skipWithin _ hlength hends h
  unfold skipValue
  generalize skipWithin (cs.length + 1) cs = out at hskipped
  cases hskipped with
  | ok hrest => exact ⟨_, rfl, hrest⟩

/-! ### Lists and values -/

/-- The items so far, last one first, with one more that is read. -/
def oneMore (read : Reader α) (as : List α) : Reader (List α) := fun cs => do
  let (a, cs) ← read cs
  .ok (a :: as, cs)

theorem reads_oneMore {read : Reader α} {t : Tree} {res : Except Fault α} (h : Reads read t res)
    (as : List α) : Reads (oneMore read as) t (res >>= fun a => .ok (a :: as)) :=
  h.followed fun _ _ => rfl

/-- What a reader of items makes of an array, last item first. -/
def gather (read : Tree → Except Fault α) (ts : List Tree) : Except Fault (List α) :=
  ts.foldlM (fun as t => do .ok ((← read t) :: as)) []

/-- The items of an array are read one by one, wherever the array stands. -/
theorem reads_list {read : Reader α} (h : IgnoresGaps read) (ts : List Tree) :
    Reads (list read) (.array ts) ((gather (·.readBy read) ts).map List.reverse) :=
  reads_of_opens fun tokens cs _ hopens => by
    unfold list
    generalize skipGaps cs = ds at hopens
    cases hopens with
    | array hrest =>
      have hitems := leaves_arrayRest (oneMore read) (fun as t _ => reads_oneMore (h.reads t) as)
        (Opens.array hrest).length_items (s := []) hrest
      exact hitems.map List.reverse

theorem ignoresGaps_list {read : Reader α} (h : IgnoresGaps read) : IgnoresGaps (list read) :=
  fun t => by
  by_cases harray : ∃ ts, t = .array ts
  · obtain ⟨ts, rfl⟩ := harray
    exact ⟨_, reads_list h ts⟩
  · refine ⟨.error t.misfit, reads_of_opens fun tokens cs hends hopens => ?_⟩
    have hfault := wrongShape_eq hends hopens
    obtain ⟨c, rest, hcs, hstarts⟩ := hopens.starts
    unfold list
    rw [hcs] at hfault ⊢
    split
    · rename_i heq
      obtain ⟨rfl, -⟩ := List.cons.inj heq
      exact absurd hstarts.exists_array harray
    · rw [hfault]
      exact .error

def WrittenNumber.value (n : WrittenNumber) : Except Fault Value :=
  if n.numeral.outOfRange then .error .malformed else .ok n.numeral.value

theorem keptNumber_chars (n : WrittenNumber) (rest : List Char) (h : EndsNumber rest) :
    keptNumber (n.chars ++ rest) = n.value.map fun v => (v, rest) := by
  simp only [keptNumber, keptNumeral_chars n h, WrittenNumber.value]
  split <;> rfl

theorem keptText_body (ps : List Piece) (rest : List Char) :
    keptText (Piece.body ps ++ '"' :: rest) =
      ((Piece.read ps).map Value.text).map fun v => (v, rest) := by
  simp only [keptText, textBody_body]
  cases Piece.read ps <;> rfl

def memberMore (levels : Nat) (k : String) (vs : List (String × Value)) :
    Reader (List (String × Value)) := fun cs => do
  let (v, cs) ← value levels cs
  .ok ((k, v) :: vs, cs)

def keep (read : Tree → Except Fault Value) (ms : List (String × Value)) (m : Member) :
    Except Fault (List (String × Value)) := do
  let k ← Piece.read m.1
  .ok ((k, ← read m.2) :: ms)

/-- What becomes of an array or object, given what becomes of the values in it. -/
def keepNested (read : Tree → Except Fault Value) : Tree → Except Fault Value
  | .array ts => (gather read ts).map fun vs => .array vs.reverse
  | .object ms => (ms.foldlM (keep read) []).map fun vs => .object vs.reverse
  | _ => .error .malformed

/-- All texts of a value are kept as the same value. -/
theorem ignoresGaps_value (levels : Nat) : IgnoresGaps (value levels) := fun t => by
  induction levels generalizing t with
  | zero =>
    exact ⟨_, reads_of_opens fun tokens cs hends h =>
      h.dispatch hends _ _ _ _ keptNumber_chars keptText_body (fun _ _ _ _ => .error)
        fun _ _ _ _ => .error⟩
  | succ levels ih =>
    have hvalue (t : Tree) := IgnoresGaps.reads ih t
    refine ⟨t.sorted id WrittenNumber.value (fun ps => (Piece.read ps).map .text)
      (keepNested (·.readBy (value levels)) t), reads_of_opens fun tokens cs hends h =>
        h.dispatch hends _ _ _ _ keptNumber_chars keptText_body ?_ ?_⟩
    · rintro ts rfl rest hrest
      have hitems := leaves_arrayRest (oneMore (value levels))
        (fun vs t _ => reads_oneMore (hvalue t) vs) (Opens.array hrest).length_items (s := []) hrest
      exact hitems.map fun vs => Value.array vs.reverse
    · rintro ms rfl rest hrest
      have hkeep (vs : List (String × Value)) (m : Member) : Takes Piece.read
          (fun k vs => .ok (memberMore levels k vs)) vs m (keep (·.readBy (value levels)) vs m) :=
        takes_of_key fun k _ => Or.inr ⟨_, rfl,
          (hvalue m.2).followed (k := fun v => .ok ((k, v) :: vs)) fun _ _ => rfl⟩
      have hmembers := leaves_objectRest textBody_body (fun vs m _ => hkeep vs m)
        (Opens.object hrest).length_members (s := []) hrest
      exact hmembers.map fun vs => Value.object vs.reverse

end Promotions.Json
