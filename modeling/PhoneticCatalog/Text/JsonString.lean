import PhoneticCatalog.Text.Quoted

/-!
# Strings in JSON

How a text is written as a JSON string that has plain ASCII characters only. Every other character
is written as one or two units of sixteen bits.
-/

namespace PhoneticCatalog.Text

namespace JsonString

/-- A unit of sixteen bits as an escape. -/
def escapeUnit (n : Nat) : List Char := '\\' :: 'u' :: hexDigits 4 n

/-- A character as it stands between the quotes. -/
def escape (c : Char) : List Char :=
  if c = '"' || c = '\\' then ['\\', c]
  else if c = '\n' then ['\\', 'n']
  else if c = '\r' then ['\\', 'r']
  else if c = '\t' then ['\\', 't']
  else if c = '\x08' then ['\\', 'b']
  else if c = '\x0c' then ['\\', 'f']
  else if 0x20 ≤ c.toNat && c.toNat < 0x7f then [c]
  else if c.toNat < 0x10000 then escapeUnit c.toNat
  else
    let n := c.toNat - 0x10000
    escapeUnit (0xd800 + n / 1024) ++ escapeUnit (0xdc00 + n % 1024)

end JsonString

/-- A text as a JSON string. -/
def jsonString (text : List Char) : List Char :=
  '"' :: text.flatMap JsonString.escape ++ ['"']

end PhoneticCatalog.Text
