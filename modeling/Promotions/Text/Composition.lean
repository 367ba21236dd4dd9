import Promotions.Text.Composition.Table

/-!
The composed form of a text. Texts that look the same may differ in how their letters are put
together: a letter with a mark is one character or several, and marks that do not touch come in any
order. The composed form is reached by taking every character apart, bringing the marks on each
letter into one order, and putting together again what makes up one character.
-/

namespace Promotions.Text

/-- The class of a combining mark; marks of different classes do not touch. Zero for any other
character. -/
def combiningClass (c : Char) : Nat :=
  if c.toNat < 0x300 then 0
  else ((combiningClasses.find? fun k => inRanges k.2 c).map Prod.fst).getD 0

/-- The letters of a Korean syllable: a consonant, a vowel, and a consonant or none. -/
def syllableParts? (c : Char) : Option (List Char) :=
  if 0xAC00 ≤ c.toNat ∧ c.toNat ≤ 0xD7A3 then
    let place := c.toNat - 0xAC00
    let final := place % 28
    some ([Char.ofNat (0x1100 + place / 588), Char.ofNat (0x1161 + place % 588 / 28)]
      ++ if final = 0 then [] else [Char.ofNat (0x11A7 + final)])
  else none

/-- The Korean syllable of two letters, or of an open syllable and the consonant that closes it. -/
def syllable? (a b : Char) : Option Char :=
  if 0x1100 ≤ a.toNat ∧ a.toNat ≤ 0x1112 ∧ 0x1161 ≤ b.toNat ∧ b.toNat ≤ 0x1175 then
    some (Char.ofNat (0xAC00 + ((a.toNat - 0x1100) * 21 + (b.toNat - 0x1161)) * 28))
  else if 0xAC00 ≤ a.toNat ∧ a.toNat ≤ 0xD7A3 ∧ (a.toNat - 0xAC00) % 28 = 0 ∧
      0x11A8 ≤ b.toNat ∧ b.toNat ≤ 0x11C2 then
    some (Char.ofNat (a.toNat + (b.toNat - 0x11A7)))
  else none

/-- What a character is taken apart into at first; none when it is one piece. -/
def parts? (c : Char) : Option (List Char) :=
  if c.toNat < 0xC0 then none
  else (syllableParts? c <|> lookUp replaced c) <|> lookUp composites c

def partsWithin : Nat → Char → List Char
  | 0, c => [c]
  | steps + 1, c =>
    match parts? c with
    | some cs => cs.flatMap (partsWithin steps)
    | none => [c]

/-- A text taken apart. No character takes more than four steps. -/
def decomposed (cs : List Char) : List Char := cs.flatMap (partsWithin 4)

/-- A mark put behind the last of the characters before it, nearest first, whose class is no
higher. -/
def placeMark (c : Char) : List Char → List Char
  | [] => [c]
  | b :: before =>
    if combiningClass c < combiningClass b then b :: placeMark c before else c :: b :: before

/-- A text, last character first, with one more character at its end. Marks go to their place. -/
def place (before : List Char) (c : Char) : List Char :=
  if combiningClass c = 0 then c :: before else placeMark c before

def arranged (cs : List Char) : List Char := (cs.foldl place []).reverse

def composite? (a b : Char) : Option Char :=
  if b.toNat < 0x300 then none
  else syllable? a b <|> composites.findSome? (CharRun.pair? a b)

/-- The composite of a base and a character after it, with the marks between them, nearest first.
A mark of the same class or a higher one keeps the two apart. -/
def reach? (base : Option Char) (marks : List Char) (c : Char) : Option Char := do
  let b ← base
  match marks with
  | m :: _ => if combiningClass m < combiningClass c then composite? b c else none
  | [] => composite? b c

/-- A text put together, given the last base before it and the marks that did not join that base,
nearest first. -/
def composeFrom (base : Option Char) (marks : List Char) : List Char → List Char
  | [] => base.toList ++ marks.reverse
  | c :: cs =>
    match reach? base marks c with
    | some joined => composeFrom (some joined) marks cs
    | none =>
      if combiningClass c = 0 then base.toList ++ marks.reverse ++ composeFrom (some c) [] cs
      else composeFrom base (c :: marks) cs

def composed (cs : List Char) : List Char := composeFrom none [] (arranged (decomposed cs))

end Promotions.Text
