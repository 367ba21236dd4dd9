import Promotions.Promotion.Country
import Promotions.Promotion.Draft
import Promotions.Request.Basic
import Promotions.Request.Violation
import Promotions.Text.Blank
import Promotions.Url.Basic

/-!
Validation. A request is checked rule by rule, and the first rule that it breaks is the answer. What
passes is brought into the form in which it is stored: a blank image address and a blank country
are absent, and a country is its code in capitals.
-/

namespace Promotions

open Text

def lengthWithin (low high : Nat) (s : String) : Bool := low ≤ s.length && s.length ≤ high

def demand (kept : Bool) (v : Violation) : Except Violation Unit :=
  if kept then .ok () else .error v

namespace Target

def ageFits (age : Option Int32) : Bool := age.all fun n => 0 ≤ n && n ≤ 100

def agesOrdered (t : Target) : Bool :=
  match t.ageFrom, t.ageUntil with
  | some low, some high => low ≤ high
  | _, _ => true

def normalCountry (country : Option String) : Except Violation (Option String) :=
  match blankToNone country with
  | none => .ok none
  | some s =>
    match country? s with
    | some code => .ok (some code)
    | none => .error .country

def normalise (t : Target) : Except Violation Target := do
  demand (ageFits t.ageFrom) .ageFrom
  demand (ageFits t.ageUntil) .ageUntil
  demand t.agesOrdered .ageOrder
  let country ← normalCountry t.country
  match t.categories.find? fun c => 20 < c.length with
  | some name => .error (.category name)
  | none => .ok { t with country }

end Target

namespace Content

def normalise (c : Content) : Except Violation Content := do
  let imageUrl := blankToNone c.imageUrl
  demand (lengthWithin 10 300 c.description) .description
  demand (imageUrl.all (lengthWithin 0 350)) .imageUrlLength
  demand (imageUrl.all fun s => (Url.ofString? s).isSome) .imageUrl
  let target ← c.target.normalise
  .ok { c with imageUrl, target }

def periodOrdered (c : Content) : Bool :=
  match c.activeFrom, c.activeUntil with
  | some start, some finish => start < finish
  | _, _ => true

end Content

namespace CreateRequest

def commonBudget (code : Option String) (maxCount : Option Int64) : Except Violation Budget :=
  match blankToNone code with
  | none => .error .sharedCode
  | some code => do
    demand (lengthWithin 5 30 code) .sharedCodeLength
    match maxCount with
    | some n => if 1 ≤ n then .ok (.common code n) else .error .maxCount
    | none => .error .maxCount

/-- Checks codes one by one, given those before them: each has a fitting length and is new. -/
def checkCodes (before : List String) : List String → Except Violation Unit
  | [] => .ok ()
  | code :: codes => do
    demand (lengthWithin 3 30 code) (.codeLength before.length)
    demand (!before.contains code) (.repeatedCode code)
    checkCodes (code :: before) codes

def uniqueBudget (codes : Option (List String)) : Except Violation Budget := do
  let codes := codes.getD []
  demand (!codes.isEmpty) .noCodes
  checkCodes [] codes
  .ok (.unique codes)

def budget (r : CreateRequest) : Mode → Except Violation Budget
  | .common => commonBudget r.promoCommon r.maxCount
  | .unique => uniqueBudget r.promoUnique

/-- The promotion that a company asks for, or the first rule that the request breaks: those on
single fields come first, then those on the codes, and the one on the period last. -/
def draft (r : CreateRequest) (company : Uuid) : Except Violation Draft := do
  demand (company ≠ .nil) .company
  match Mode.ofLabel? (trim r.mode) with
  | none => .error .mode
  | some mode =>
    let content ← r.content.normalise
    let budget ← r.budget mode
    demand content.periodOrdered .period
    .ok ⟨company, content, budget⟩

end CreateRequest

namespace UpdateRequest

def sent (r : UpdateRequest) : FixedField → Bool
  | .mode => r.mode.isSome
  | .maxCount => r.maxCount.isSome
  | .promoCommon => r.promoCommon.isSome
  | .promoUnique => r.promoUnique.isSome

/-- The content that an owner asks for, or the first rule that the request breaks. -/
def changes (r : UpdateRequest) : Except Violation Content := do
  let content ← r.content.normalise
  demand content.periodOrdered .period
  match [FixedField.mode, .maxCount, .promoCommon, .promoUnique].find? r.sent with
  | some field => .error (.fixed field)
  | none => .ok content

end UpdateRequest

end Promotions
