/-!
# Bytes in base 64

Four characters of 64 write three bytes. Characters outside of them are passed over; equals signs
fill up the last group and end the text, which may not end within a group otherwise.
-/

namespace PhoneticCatalog.Document.Base64

/-- The value of a character. -/
def value? (c : Char) : Option Nat :=
  if 'A' ≤ c && c ≤ 'Z' then some (c.toNat - 'A'.toNat)
  else if 'a' ≤ c && c ≤ 'z' then some (c.toNat - 'a'.toNat + 26)
  else if '0' ≤ c && c ≤ '9' then some (c.toNat - '0'.toNat + 52)
  else if c = '+' then some 62
  else if c = '/' then some 63
  else none

/-- The bytes from here on: `filled` characters of the group were read, `left` are the bits of them
that make no byte yet, and `pads` equals signs were met in a row. -/
def bytes? (filled left pads : Nat) : List Char → Option (List UInt8)
  | [] => if filled = 0 then some [] else none
  | c :: rest =>
    if c = '=' then
      if 2 ≤ filled && 4 ≤ filled + pads + 1 then some []
      else bytes? filled left (if 2 ≤ filled then pads + 1 else pads) rest
    else
      match value? c with
      | none => bytes? filled left pads rest
      | some n =>
        match filled with
        | 0 => bytes? 1 n 0 rest
        | 1 => (bytes? 2 (n % 16) 0 rest).map ((left * 4 + n / 16).toUInt8 :: ·)
        | 2 => (bytes? 3 (n % 4) 0 rest).map ((left * 16 + n / 4).toUInt8 :: ·)
        | _ => (bytes? 0 0 0 rest).map ((left * 64 + n).toUInt8 :: ·)

/-- The bytes that a text writes. -/
def decode? (text : List Char) : Option (List UInt8) := bytes? 0 0 0 text

end PhoneticCatalog.Document.Base64
