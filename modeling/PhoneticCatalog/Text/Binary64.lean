import PhoneticCatalog.Text.Number

/-!
# Decimal numbers in 64 bits

Numbers with 53 binary digits, as exact values: a mantissa times a power of two. `ofRatio` rounds a
quotient to the nearest of them, to the one with the even mantissa if it lies in the middle.
`ofText?` reads a decimal number, and `shown` writes the fewest decimal digits that read back, and
of several such decimals the nearest one.
-/

namespace PhoneticCatalog.Text

/-- A number in 64 bits. The mantissa is below `2 ^ 53`, and reaches `2 ^ 52` unless the exponent is
the least one. -/
inductive Binary64 where
  | finite (negative : Bool) (mantissa : Nat) (exponent : Int)
  | infinite (negative : Bool)
  | notNumber
  deriving DecidableEq, Repr

namespace Binary64

/-- The least exponent. -/
def leastExponent : Int := -1074

/-- The greatest exponent. -/
def greatestExponent : Int := 971

/-- The quotient of two numbers, rounded to the nearest whole number, and to the even one of two. -/
def roundQuotient (num den : Nat) : Nat :=
  let q := num / den
  let r := num % den
  if den < 2 * r || (2 * r = den && q % 2 = 1) then q + 1 else q

/-- A quotient divided by a power of a base. -/
def scaleDown (base : Nat) (exponent : Int) (num den : Nat) : Nat × Nat :=
  if 0 ≤ exponent then (num, den * base.pow exponent.toNat)
  else (num * base.pow (-exponent).toNat, den)

/-- The least mantissa of full length. -/
def fullMantissa : Nat := 1 <<< 52

/-- The number nearest to a quotient. -/
def ofRatio (negative : Bool) (num den : Nat) : Binary64 :=
  if num = 0 then .finite negative 0 leastExponent
  else
    let guess : Int := (num.log2 : Int) - den.log2 - 52
    let (n, d) := scaleDown 2 guess num den
    let exponent := max (if n < fullMantissa * d then guess - 1 else guess) leastExponent
    let (n, d) := scaleDown 2 exponent num den
    let mantissa := roundQuotient n d
    let (mantissa, exponent) :=
      if mantissa = 2 * fullMantissa then (fullMantissa, exponent + 1) else (mantissa, exponent)
    if greatestExponent < exponent then .infinite negative else .finite negative mantissa exponent

/-- The number as a quotient, if it is one. -/
def ratio? : Binary64 → Option (Int × Nat)
  | finite negative m e =>
    let (n, d) := scaleDown 2 (-e) m 1
    some (if negative then -(n : Int) else n, d)
  | _ => none

/-- The number nearest to a quotient with a sign. -/
def ofSigned (num : Int) (den : Nat) : Binary64 := ofRatio (num < 0) num.natAbs den

/-- The sum of two numbers, rounded. -/
def add (x y : Binary64) : Binary64 :=
  match x.ratio?, y.ratio? with
  | some (a, b), some (c, d) => ofSigned (a * d + c * b) (b * d)
  | none, some _ => x
  | some _, none => y
  | none, none => if x = y then x else .notNumber

/-- The number nearest to a whole number, if it is not infinite. -/
def ofNat? (n : Nat) : Option Binary64 :=
  match ofRatio false n 1 with
  | .finite negative m e => some (.finite negative m e)
  | _ => none

/-- A number times a positive finite one, rounded. -/
def times (x factor : Binary64) : Binary64 :=
  match x.ratio?, factor.ratio? with
  | some (a, b), some (c, d) => ofSigned (a * c) (b * d)
  | _, _ => x

/-- The number with the other sign. -/
def negate : Binary64 → Binary64
  | finite negative m e => finite (!negative) m e
  | infinite negative => infinite (!negative)
  | notNumber => notNumber

/-! ## Reading -/

/-- The values of the digits at the start of a text, and what follows them. -/
def digitsOf (s : List Char) : List Nat × List Char :=
  let digits := s.takeWhile fun c => (decimalValue? c.toNat).isSome
  (digits.filterMap fun c => decimalValue? c.toNat, s.drop digits.length)

/-- The exponent that a text writes: nothing, or an `e`, a sign and digits. -/
def exponentOf? : List Char → Option Int
  | [] => some 0
  | c :: rest =>
    if c = 'e' || c = 'E' then
      let (negative, rest) := Number.splitSign rest
      match digitsOf rest with
      | (d :: ds, []) =>
        let n : Int := Number.ofDigits 10 (d :: ds)
        some (if negative then -n else n)
      | _ => none
    else none

/-- Numbers with more digits before the point are infinite, with more zeros behind it zero. -/
def reach : Int := 400

/-- The number with the given digits before and behind the point, and an exponent of ten. -/
def ofDigits (negative : Bool) (whole behind : List Nat) (exponent : Int) : Binary64 :=
  let m := Number.ofDigits 10 (whole ++ behind)
  let exponent := exponent - behind.length
  let size : Int := (Nat.toDigits 10 m).length + exponent
  if m = 0 || size < -reach then .finite negative 0 leastExponent
  else if reach < size then .infinite negative
  else
    let (n, d) := scaleDown 10 (-exponent) m 1
    ofRatio negative n d

/-- The number that a text without a sign writes in digits. -/
def unsigned? (negative : Bool) (s : List Char) : Option Binary64 :=
  let (whole, rest) := digitsOf s
  let (behind, rest) := match rest with
    | '.' :: rest => digitsOf rest
    | rest => ([], rest)
  if whole.isEmpty && behind.isEmpty then none
  else (exponentOf? rest).map (ofDigits negative whole behind)

/-- The number that a text writes: digits with a point and an exponent, or a word, after a sign and
between blanks. -/
def ofText? (text : List Char) : Option Binary64 :=
  let (negative, s) := Number.splitSign (Number.unpad text)
  let word := String.ofList (s.map Char.toLower)
  if word = "inf" || word = "infinity" then some (.infinite negative)
  else if word = "nan" then some .notNumber
  else unsigned? negative s

/-! ## Writing -/

/-- The number of decimal digits before the point of a positive quotient; if there are none, the
number of zeros behind the point counts negative. -/
def magnitude (num den : Nat) : Int :=
  if den ≤ num then (Nat.toDigits 10 (num / den)).length
  else 1 - ((Nat.toDigits 10 ((den - 1) / num)).length : Int)

/-- The best decimal with some digits that reads back to a positive number: its digits as a whole
number. -/
def decimalWith? (x : Binary64) (num den : Nat) (scale : Int) : Option Nat :=
  let (n, d) := scaleDown 10 scale num den
  let low := n / d
  let readsBack (c : Nat) : Bool :=
    let (a, b) := scaleDown 10 (-scale) c 1
    ofRatio false a b = x
  match readsBack low, readsBack (low + 1) with
  | true, true => some (roundQuotient n d)
  | true, false => some low
  | false, true => some (low + 1)
  | false, false => none

/-- The fewest digits that read back to a positive number, and the place of the point in them. -/
def shortest (m : Nat) (e : Int) : List Char × Int :=
  let (num, den) := scaleDown 2 (-e) m 1
  let size := magnitude num den
  let found := (List.range 17).findSome? fun (i : Nat) =>
    let scale := size - ((i : Int) + 1)
    (decimalWith? (.finite false m e) num den scale).map (·, scale)
  let (digits, scale) := found.getD (num / den, 0)
  let all := Nat.toDigits 10 digits
  ((all.reverse.dropWhile (· = '0')).reverse, all.length + scale)

/-- Exponents of the leading digit from here on are written positionally. -/
def plainFrom : Int := -4

/-- Exponents of the leading digit from here on are written apart. -/
def plainBelow : Int := 16

/-- Digits with a point at a place. A whole number gets a zero behind the point; an exponent that is
written apart has a sign and two digits at least. -/
def layout (digits : List Char) (point : Int) : List Char :=
  let exponent := point - 1
  if plainFrom ≤ exponent && exponent < plainBelow then
    if point ≤ 0 then "0.".toList ++ List.replicate (-point).toNat '0' ++ digits
    else
      let whole := digits.take point.toNat
      let behind := digits.drop point.toNat
      whole ++ List.replicate (point.toNat - whole.length) '0' ++ '.' ::
        (if behind.isEmpty then ['0'] else behind)
  else
    let written := Nat.toDigits 10 exponent.natAbs
    let mantissa := match digits with
      | d :: e :: rest => d :: '.' :: e :: rest
      | ds => ds
    mantissa ++ 'e' :: (if exponent < 0 then '-' else '+') ::
      (List.replicate (2 - written.length) '0' ++ written)

/-- How the number is shown. -/
def shown : Binary64 → List Char
  | notNumber => "nan".toList
  | infinite negative => if negative then "-inf".toList else "inf".toList
  | finite negative m e =>
    let (digits, point) := shortest m e
    (if negative then ['-'] else []) ++ (if m = 0 then "0.0".toList else layout digits point)

end Binary64

end PhoneticCatalog.Text
