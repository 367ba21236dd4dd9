import Promotions.Text.Numeral

/-!
Identifiers of 128 bits, the four forms in which they are read and the one in which they are
written: lower-case hexadecimal digits in groups of 8, 4, 4, 4 and 12.
-/

namespace Promotions

open Text

structure Uuid where
  bits : BitVec 128
  deriving DecidableEq

namespace Uuid

/-- The identifier all of whose bits are zero; it names nothing. -/
def nil : Uuid := ⟨0⟩

def ofNat (n : Nat) : Uuid := ⟨BitVec.ofNat 128 n⟩

/-- The identifier as a number. Identifiers are ordered by it. -/
def toNat (u : Uuid) : Nat := u.bits.toNat

def hexDigits (u : Uuid) : List Char := fixedHex 32 u.toNat

/-- Thirty-two digits with a hyphen after the 8th, 12th, 16th and 20th. -/
def hyphenate (ds : List Char) : List Char :=
  ds.take 8 ++ '-' :: (ds.drop 8).take 4 ++ '-' :: (ds.drop 12).take 4
    ++ '-' :: (ds.drop 16).take 4 ++ '-' :: ds.drop 20

def print (u : Uuid) : List Char := hyphenate u.hexDigits

instance : ToString Uuid := ⟨fun u => String.ofList u.print⟩

def ofHexDigits? (cs : List Char) : Option Uuid := do
  let ds ← cs.mapM hexValue?
  if ds.length = 32 then some (ofNat (valueFrom 16 0 ds)) else none

/-- Exactly 32 hexadecimal digits in the five hyphenated groups. -/
def ofHyphenated? (cs : List Char) : Option Uuid :=
  let ds := cs.take 8 ++ (cs.drop 9).take 4 ++ (cs.drop 14).take 4 ++ (cs.drop 19).take 4
    ++ cs.drop 24
  if cs = hyphenate ds then ofHexDigits? ds else none

/-- The letters before the hyphenated form in a uniform resource name. -/
def urn : List Char := "urn:uuid:".toList

def ofBraced? : List Char → Option Uuid
  | '\x7b' :: rest => if rest.getLast? = some '\x7d' then ofHyphenated? rest.dropLast else none
  | _ => none

/-- An identifier in any of its four forms: 32 digits, hyphenated, hyphenated between braces, or
hyphenated as a uniform resource name. Letters count in either case. -/
def read? (cs : List Char) : Option Uuid :=
  match cs.length with
  | 32 => ofHexDigits? cs
  | 36 => ofHyphenated? cs
  | 38 => ofBraced? cs
  | 45 => if (cs.take 9).map Char.toLower = urn then ofHyphenated? (cs.drop 9) else none
  | _ => none

def ofString? (s : String) : Option Uuid := read? s.toList

end Uuid

end Promotions
