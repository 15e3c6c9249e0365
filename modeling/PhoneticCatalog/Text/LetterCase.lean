import PhoneticCatalog.Text.LetterCase.Table

/-!
# Letter case

The small and the capital form of a letter, and which letters differ by case alone. A comparison
that ignores case compares small forms; `caseTwins` adds the few letters that count as the same
although their small forms differ. `toCapitals` writes a whole text in capitals and `toSmall` in
small letters, where one letter can become several.
-/

namespace PhoneticCatalog.Text

namespace CaseRun

/-- The run maps this code point. -/
def covers (r : CaseRun) (code : Nat) : Bool :=
  r.first ≤ code && code ≤ r.last && (code - r.first) % r.stride = 0

/-- What the run maps a code point to. -/
def image (r : CaseRun) (code : Nat) : Nat := (code + r.shift).toNat

/-- The code point of the run that is mapped to `code`. -/
def preimage? (r : CaseRun) (code : Nat) : Option Nat :=
  let source := (code - r.shift).toNat
  if r.covers source && r.image source = code then some source else none

end CaseRun

/-- The small form of a letter; other code points are left alone. -/
def smallForm (code : Nat) : Nat :=
  match smallRuns.find? (·.covers code) with
  | some r => r.image code
  | none => code

/-- The letters, `code` itself aside, whose small form is `code`. -/
def lettersWithSmallForm (code : Nat) : List Nat :=
  smallRuns.filterMap (·.preimage? code)

/-- The capital form of a letter as one or several letters; other code points are left alone. -/
def capitalForm (code : Nat) : List Nat :=
  match longCapitals.lookup code with
  | some letters => letters
  | none =>
    match capitalRuns.find? (·.covers code) with
    | some r => [r.image code]
    | none => [code]

/-- The first letter of the capital form. -/
def firstCapital (code : Nat) : Nat := (capitalForm code).headD code

/-- The code point has another case. -/
def hasCase (code : Nat) : Bool := smallForm code ≠ code || firstCapital code ≠ code

/-- The other small letters that count as the same letter as this small letter. -/
def twinsOf (code : Nat) : List Nat := (caseTwins.lookup code).getD []

/-- The code points that become `code` or one of its twins in small form. -/
def caseVariants (code : Nat) : List Nat :=
  (code :: twinsOf code).flatMap fun small => small :: lettersWithSmallForm small

/-- A text in capitals. -/
def toCapitals (text : List Char) : List Char :=
  text.flatMap fun c => (capitalForm c.toNat).map Char.ofNat

/-- A letter in small form as one or several letters. The dotted capital I keeps its dot, which is a
letter of its own. -/
def smallLetters (code : Nat) : List Nat :=
  if code = 0x130 then [0x69, 0x307] else [smallForm code]

/-- A text in small letters. A capital sigma becomes the same letter wherever it stands. -/
def toSmall (text : List Char) : List Char :=
  text.flatMap fun c => (smallLetters c.toNat).map Char.ofNat

/-! ## The letters A to Z -/

/-- The small form, for the letters A to Z only. -/
def smallLatin (code : Nat) : Nat :=
  if 0x41 ≤ code && code ≤ 0x5a then code + 0x20 else code

/-- The code point is one of the letters A to Z in either case. -/
def isLatin (code : Nat) : Bool :=
  (0x41 ≤ code && code ≤ 0x5a) || (0x61 ≤ code && code ≤ 0x7a)

end PhoneticCatalog.Text
