import PhoneticCatalog.Text.Line

/-!
# Reading whole numbers

How a whole number may be written in a setting or in the text of an expression: blanks around it,
one sign, and decimal digits of any script, where single underscores may stand between two digits.
-/

namespace PhoneticCatalog.Text

/-- The largest number of digits that is read. What is written is not bounded: messages show whole
numbers with all their digits. -/
def maxDigits : Nat := 4300

namespace Number

/-- The blank characters that may stand around a number. The four information separators are not
among them. -/
def isPadding (c : Char) : Bool :=
  isSpace c.toNat && !(0x1c ≤ c.toNat && c.toNat ≤ 0x1f)

/-- A number without the blanks around it. -/
def unpad (text : List Char) : List Char := stripWhile isPadding text

/-- The value of a digit to a base: a decimal digit of any script, or a Latin letter for ten and
more. -/
def digitValue? (base : Nat) (c : Char) : Option Nat :=
  let value := match decimalValue? c.toNat with
    | some d => some d
    | none =>
      if 'a' ≤ c && c ≤ 'z' then some (c.toNat - 'a'.toNat + 10)
      else if 'A' ≤ c && c ≤ 'Z' then some (c.toNat - 'A'.toNat + 10)
      else none
  value.filter (· < base)

/-- The values of the digits of a number; every underscore stands between two digits. -/
def digitValues? (base : Nat) : List Char → Option (List Nat)
  | [] => none
  | [c] => (digitValue? base c).map ([·])
  | c :: '_' :: rest => do
    let d ← digitValue? base c
    let ds ← digitValues? base rest
    return d :: ds
  | c :: rest => do
    let d ← digitValue? base c
    let ds ← digitValues? base rest
    return d :: ds

/-- The number with the given digits to a base. -/
def ofDigits (base : Nat) (ds : List Nat) : Nat := ds.foldl (fun n d => base * n + d) 0

/-- The number that plain digits write to a base, which is sixteen at most. -/
def ofPlain (base : Nat) (digits : List Char) : Nat :=
  ofDigits base (digits.map fun c => (hexValue? c).getD 0)

/-- The letters that may announce a base. -/
def baseLetters : Nat → List Char
  | 2 => ['b', 'B']
  | 8 => ['o', 'O']
  | 16 => ['x', 'X']
  | _ => []

/-- The digits of a number without the announcement of its base, behind which an underscore may
stand. -/
def unannounced (base : Nat) (digits : List Char) : List Char :=
  match digits with
  | '0' :: c :: rest =>
    if (baseLetters base).contains c then
      match rest with
      | '_' :: rest => rest
      | rest => rest
    else digits
  | _ => digits

/-- A sign and what follows it. -/
def splitSign : List Char → Bool × List Char
  | '-' :: rest => (true, rest)
  | '+' :: rest => (false, rest)
  | rest => (false, rest)

end Number

/-- The whole number that a text writes to a base, if it writes one. -/
def readIntTo? (base : Nat) (text : List Char) : Option Int := do
  let (negative, digits) := Number.splitSign (Number.unpad text)
  let values ← Number.digitValues? base (Number.unannounced base digits)
  let n := Number.ofDigits base values
  return if negative then -(n : Int) else n

/-- The number of decimal digits at the start of a text, behind its sign. -/
def decimalCount (text : List Char) : Nat :=
  let digits := (Number.splitSign (Number.unpad text)).2
  ((digits.takeWhile fun c => c = '_' || (decimalValue? c.toNat).isSome).filter (· ≠ '_')).length

/-- The whole number that a text writes, if it writes one and not with too many digits. -/
def readInt? (text : List Char) : Option Int :=
  if maxDigits < decimalCount text then none else readIntTo? 10 text

end PhoneticCatalog.Text
