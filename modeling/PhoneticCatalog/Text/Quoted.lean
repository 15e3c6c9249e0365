import PhoneticCatalog.Text.CharKind

/-!
# Quoted text

How a text is shown in a message: between quotes, on one line, with every character that has no
visible form written as an escape. Single quotes are used unless the text holds a single quote and
no double quote. `quote` is the whole rule; `escape` is the rule for one character. Escapes write
code points with `hexDigits`, and `commas` puts the shown parts of a collection together.
-/

namespace PhoneticCatalog.Text

/-- The lower-case hexadecimal digit of a value below sixteen. -/
def hexDigit (n : Nat) : Char := Nat.digitChar (n % 16)

/-- The last `width` hexadecimal digits of a number. -/
def hexDigits : (width : Nat) → Nat → List Char
  | 0, _ => []
  | w + 1, n => hexDigits w (n / 16) ++ [hexDigit n]

/-- Texts with commas between them. -/
def commas (texts : List (List Char)) : List Char := (", ".toList).intercalate texts

namespace Quoted

/-- The quote for a text: single, unless only double quotes leave nothing to escape. -/
def quoteFor (text : List Char) : Char :=
  if text.contains '\'' && !text.contains '"' then '"' else '\''

/-- A character as it stands between the quotes `q`. -/
def escape (q c : Char) : List Char :=
  if c = q || c = '\\' then ['\\', c]
  else if c = '\t' then ['\\', 't']
  else if c = '\n' then ['\\', 'n']
  else if c = '\r' then ['\\', 'r']
  else if isPrintable c.toNat then [c]
  else if c.toNat ≤ 0xff then '\\' :: 'x' :: hexDigits 2 c.toNat
  else if c.toNat ≤ 0xffff then '\\' :: 'u' :: hexDigits 4 c.toNat
  else '\\' :: 'U' :: hexDigits 8 c.toNat

end Quoted

/-- A text between quotes, with escapes for what cannot be shown. -/
def quote (text : List Char) : List Char :=
  let q := Quoted.quoteFor text
  q :: text.flatMap (Quoted.escape q) ++ [q]

/-- A string between quotes, with escapes for what cannot be shown. -/
def quoteString (s : String) : String := String.ofList (quote s.toList)

end PhoneticCatalog.Text
