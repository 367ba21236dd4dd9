import Promotions.Json.Fault
import Promotions.Text.Numeral

/-!
JSON strings: reading what stands after the opening quote, passing over it unread, and writing.
A string that is kept holds Unicode characters only, so surrogates must come in pairs; in a string
that is passed over they need not.
-/

namespace Promotions.Json

open Text

/-- The number that four hexadecimal digits write. A fault lies within the text as long as four
bytes are left of it. -/
def hexUnit : Reader Nat
  | a :: b :: c :: d :: rest =>
    match [a, b, c, d].mapM hexValue? with
    | some ds => .ok (valueFrom 16 0 ds, rest)
    | none => .error .malformed
  | cs => .error (if 4 ≤ cs.foldl (fun n c => n + c.utf8Size) 0 then .malformed else .truncated)

def isHighUnit (n : Nat) : Bool := 0xD800 ≤ n && n ≤ 0xDBFF

def isLowUnit (n : Nat) : Bool := 0xDC00 ≤ n && n ≤ 0xDFFF

def pairChar (high low : Nat) : Char :=
  Char.ofNat (0x10000 + (high - 0xD800) * 0x400 + (low - 0xDC00))

def lowEscape (high : Nat) : Reader Char
  | '\\' :: 'u' :: rest => do
    let (low, rest) ← hexUnit rest
    if isLowUnit low then .ok (pairChar high low, rest) else .error .malformed
  | [] => .error .truncated
  | ['\\'] => .error .truncated
  | _ => .error .malformed

/-- The character that a one-letter escape stands for. -/
def shortEscape? (c : Char) : Option Char :=
  if c = '"' ∨ c = '\\' ∨ c = '/' then some c
  else if c = 'b' then some '\x08'
  else if c = 'f' then some '\x0c'
  else if c = 'n' then some '\n'
  else if c = 'r' then some '\r'
  else if c = 't' then some '\t'
  else none

def escape : Reader Char
  | [] => .error .truncated
  | c :: rest =>
    match shortEscape? c with
    | some e => .ok (e, rest)
    | none =>
      if c = 'u' then do
        let (n, rest) ← hexUnit rest
        if isLowUnit n then .error .malformed
        else if isHighUnit n then lowEscape n rest
        else .ok (Char.ofNat n, rest)
      else .error .malformed

def skipEscape : List Char → Except Fault (List Char)
  | [] => .error .truncated
  | c :: rest =>
    if (shortEscape? c).isSome then .ok rest
    else if c = 'u' then do
      let (_, rest) ← hexUnit rest
      .ok rest
    else .error .malformed

theorem hexUnit_shorter {cs rest : List Char} {n : Nat} (h : hexUnit cs = .ok (n, rest)) :
    rest.length < cs.length := by
  unfold hexUnit at h
  split at h
  · split at h
    · cases h; simp only [List.length_cons]; omega
    · cases h
  · cases h

theorem lowEscape_shorter {high : Nat} {cs rest : List Char} {c : Char}
    (h : lowEscape high cs = .ok (c, rest)) : rest.length < cs.length := by
  unfold lowEscape at h
  split at h
  · rename_i tail
    cases hu : hexUnit tail with
    | error f => simp [hu, bind, Except.bind] at h
    | ok p =>
      obtain ⟨low, more⟩ := p
      have := hexUnit_shorter hu
      simp only [hu, bind, Except.bind] at h
      split at h
      · simp only [Except.ok.injEq, Prod.mk.injEq] at h
        simp only [List.length_cons, ← h.2]; omega
      · cases h
  all_goals cases h

theorem escape_shorter {cs rest : List Char} {c : Char} (h : escape cs = .ok (c, rest)) :
    rest.length < cs.length := by
  unfold escape at h
  split at h
  · cases h
  · rename_i e tail
    split at h
    · cases h; simp
    · split at h
      · cases hu : hexUnit tail with
        | error f => simp [hu, bind, Except.bind] at h
        | ok p =>
          obtain ⟨n, more⟩ := p
          have := hexUnit_shorter hu
          simp only [hu, bind, Except.bind] at h
          split at h
          · cases h
          · split at h
            · have := lowEscape_shorter h
              simp only [List.length_cons]; omega
            · simp only [Except.ok.injEq, Prod.mk.injEq] at h
              simp only [List.length_cons, ← h.2]; omega
      · cases h

theorem skipEscape_shorter {cs rest : List Char} (h : skipEscape cs = .ok rest) :
    rest.length < cs.length := by
  unfold skipEscape at h
  split at h
  · cases h
  · rename_i e tail
    split at h
    · cases h; simp
    · split at h
      · cases hu : hexUnit tail with
        | error f => simp [hu, bind, Except.bind] at h
        | ok p =>
          obtain ⟨n, more⟩ := p
          have := hexUnit_shorter hu
          simp only [hu, bind, Except.bind] at h
          cases h; simp only [List.length_cons]; omega
      · cases h

/-- A string after its opening quote, behind the characters already read, last one first. -/
def textFrom (done : List Char) (cs : List Char) : Except Fault (String × List Char) :=
  match cs with
  | [] => .error .truncated
  | c :: rest =>
    if c = '"' then .ok (String.ofList done.reverse, rest)
    else if c = '\\' then
      match _h : escape rest with
      | .ok (e, rest') => textFrom (e :: done) rest'
      | .error f => .error f
    else if c.toNat < 0x20 then .error .malformed
    else textFrom (c :: done) rest
termination_by cs.length
decreasing_by
  · have := escape_shorter _h
    simp only [List.length_cons]; omega
  · simp

def textBody : Reader String := textFrom []

/-- The rest of a text after a string whose opening quote is past and which is not kept. -/
def skipTextBody (cs : List Char) : Except Fault (List Char) :=
  match cs with
  | [] => .error .truncated
  | c :: rest =>
    if c = '"' then .ok rest
    else if c = '\\' then
      match _h : skipEscape rest with
      | .ok rest' => skipTextBody rest'
      | .error f => .error f
    else if c.toNat < 0x20 then .error .malformed
    else skipTextBody rest
termination_by cs.length
decreasing_by
  · have := skipEscape_shorter _h
    simp only [List.length_cons]; omega
  · simp

def quoteChar (c : Char) : List Char :=
  if c = '"' then ['\\', '"']
  else if c = '\\' then ['\\', '\\']
  else if c = '\x08' then ['\\', 'b']
  else if c = '\t' then ['\\', 't']
  else if c = '\n' then ['\\', 'n']
  else if c = '\x0c' then ['\\', 'f']
  else if c = '\r' then ['\\', 'r']
  else if c.toNat < 0x20 then '\\' :: 'u' :: fixedHex 4 c.toNat
  else [c]

def quote (s : String) : List Char := '"' :: s.toList.flatMap quoteChar ++ ['"']

end Promotions.Json
