import PhoneticCatalog.Document.Token
import PhoneticCatalog.Document.Token.Scalar
import PhoneticCatalog.Text.Encoding

/-!
# Names in a document

Anchors and aliases, tags and directives. Names are made of ASCII letters, digits, hyphens and low
lines; the characters of a tag are those of an address, where a percent sign and two hexadecimal
digits stand for a byte.
-/

namespace PhoneticCatalog.Document

/-- The characters of a name. -/
def isNameChar (c : Char) : Bool := c.isAlphanum || c = '-' || c = '_'

/-- The characters of an address. -/
def isAddressChar (c : Char) : Bool :=
  c.isAlphanum || "-;/?:@&=+$,_.!~*'()[]%".toList.contains c

/-- A name at a place. It is not empty. -/
def name (p : Place) : Except ReadFault (List Char × Place) :=
  let (n, q) := p.span isNameChar
  if n.isEmpty then .error .malformed else .ok (n, q)

/-- The name of an anchor or an alias. The place is that of its sign. -/
def anchorName (p : Place) : Except ReadFault (List Char × Place) := do
  let (n, q) ← name p.next
  if endsWord q.rest || q.rest.head?.any ("?:,]\x7d%@`".toList.contains ·) then return (n, q)
  else throw .malformed

/-! ## Tags -/

/-- Bytes that are written with percent signs. -/
def percentBytes : (turns : Nat) → Place → Except ReadFault (List UInt8 × Place)
  | 0, p => .ok ([], p)
  | turns + 1, p =>
    match p.rest with
    | '%' :: rest =>
      match hexNumber? 2 rest with
      | some n => do
        let (more, q) ← percentBytes turns (p.skip 3)
        return (n.toUInt8 :: more, q)
      | none => .error .malformed
    | _ => .ok ([], p)

/-- The characters of an address from here on. Bytes in a row are decoded together. -/
def addressRest : (turns : Nat) → Place → Except ReadFault (List Char × Place)
  | 0, p => .ok ([], p)
  | turns + 1, p => do
    let (plain, q) := p.span fun c => isAddressChar c && c ≠ '%'
    if q.rest.head? = some '%' then
      let (bytes, r) ← percentBytes turns q
      let text ← ((Text.Encoding.utf8 false).decode bytes).mapError fun _ => ReadFault.malformed
      let (more, s) ← addressRest turns r
      return (plain ++ text ++ more, s)
    else return (plain, q)

/-- The address at a place. It is not empty. -/
def address (p : Place) : Except ReadFault (List Char × Place) := do
  if !p.rest.head?.any isAddressChar then throw .malformed
  addressRest (p.rest.length + 1) p

/-- The handle of a tag: an exclamation mark, or a name between two of them, which may be empty. A
lone mark is followed by a space. -/
def tagHandle (p : Place) : Except ReadFault (List Char × Place) :=
  match p.rest with
  | '!' :: ' ' :: _ => .ok (['!'], p.next)
  | '!' :: _ =>
    let (n, q) := p.next.span isNameChar
    if q.rest.head? = some '!' then .ok ('!' :: n ++ ['!'], q.next) else .error .malformed
  | _ => .error .malformed

/-- A second exclamation mark comes before the end of the word. -/
def hasSecondMark : List Char → Bool
  | [] => false
  | c :: rest => c = '!' || (!(c = ' ' || isBreak c) && hasSecondMark rest)

/-- A tag: between angle brackets, a lone exclamation mark, or with a handle. The place is that of
its sign. -/
def tag (p : Place) : Except ReadFault (Token × Place) := do
  let (t, q) ← match p.next.rest with
    | '<' :: _ => do
      let (rest, q) ← address (p.skip 2)
      if q.rest.head? ≠ some '>' then throw .malformed
      pure (Token.tag none rest, q.next)
    | rest =>
      if endsWord rest then pure (Token.tag none ['!'], p.next)
      else if hasSecondMark rest then do
        let (handle, q) ← tagHandle p
        let (rest, r) ← address q
        pure (Token.tag (some handle) rest, r)
      else do
        let (rest, q) ← address p.next
        pure (Token.tag (some ['!']) rest, q)
  if endsName q.rest then return (t, q) else throw .malformed

/-! ## Directives -/

/-- The number that some ASCII digits write. -/
def numberOf (digits : List Char) : Except ReadFault Nat :=
  if digits.isEmpty then .error .malformed
  else if Text.maxDigits < digits.length then .error (.scalar (.tooManyDigits digits.length))
  else .ok (Text.Number.ofPlain 10 digits)

/-- The version in a directive. -/
def versionDirective (p : Place) : Except ReadFault (Directive × Place) := do
  let (digits, q) := (p.pass (· = ' ')).span Char.isDigit
  let major ← numberOf digits
  if q.rest.head? ≠ some '.' then throw .malformed
  let (digits, r) := q.next.span Char.isDigit
  let minor ← numberOf digits
  if endsName r.rest then return (.version major minor, r) else throw .malformed

/-- The handle and its meaning in a directive. -/
def handleDirective (p : Place) : Except ReadFault (Directive × Place) := do
  let (handle, q) ← tagHandle (p.pass (· = ' '))
  if q.rest.head? ≠ some ' ' then throw .malformed
  let (meaning, r) ← address (q.pass (· = ' '))
  if endsName r.rest then return (.handle handle meaning, r) else throw .malformed

/-- A directive with the rest of its line. The place is that of its sign. -/
def directive (p : Place) : Except ReadFault (Directive × Place) := do
  let (n, q) ← name p.next
  if !endsName q.rest then throw .malformed
  let (d, r) ←
    if n = "YAML".toList then versionDirective q
    else if n = "TAG".toList then handleDirective q
    else pure (Directive.other, q.pass (!isBreak ·))
  let s := (r.pass (· = ' ')).passComment
  if endsLine s.rest then return (d, (s.lineBreak?.map (·.2)).getD s) else throw .malformed

end PhoneticCatalog.Document
