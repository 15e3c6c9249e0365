import PhoneticCatalog.Text.Encoding.CodePage
import PhoneticCatalog.Text.Quoted

/-!
# Encodings

How the bytes of a file become text. `Encoding.ofName?` knows the usual spellings of the names of
encodings, `Encoding.decode` decodes bytes or says which of them are wrong, and `unifyNewlines`
turns every line ending of a file into a line feed.
-/

namespace PhoneticCatalog.Text

/-- Which byte of a unit comes first. -/
inductive ByteOrder where
  | little
  | big
  deriving DecidableEq, Repr

/-- The number of bytes in a unit. -/
inductive UnitWidth where
  | two
  | four
  deriving DecidableEq, Repr

/-- The number of bytes in a unit. -/
def UnitWidth.size : UnitWidth → Nat
  | two => 2
  | four => 4

/-- The name of the encoding with units of a width, in small letters. -/
def UnitWidth.codec : UnitWidth → String
  | two => "utf-16"
  | four => "utf-32"

/-- The name of the encoding with units of a width. -/
def UnitWidth.label : UnitWidth → String
  | two => "UTF-16"
  | four => "UTF-32"

/-- The encodings that catalogs can be written in. -/
inductive Encoding where
  | ascii
  | latin1
  | page (p : CodePage)
  /-- UTF-8, with or without dropping a byte order mark. -/
  | utf8 (dropsMark : Bool)
  /-- UTF-16 or UTF-32. Without a fixed byte order the text has to start with a mark. -/
  | units (width : UnitWidth) (order : Option ByteOrder)
  deriving DecidableEq, Repr

/-- What is wrong with some bytes. -/
inductive DecodeCause where
  | notAscii
  | undefinedByte
  | badStart
  | badContinuation
  | unexpectedEnd
  | truncated
  | badSurrogate
  | loneSurrogate
  | outOfRange
  | surrogate
  deriving DecidableEq, Repr

/-- The wording of what is wrong with some bytes. -/
def DecodeCause.message : DecodeCause → String
  | notAscii => "ordinal not in range(128)"
  | undefinedByte => "character maps to <undefined>"
  | badStart => "invalid start byte"
  | badContinuation => "invalid continuation byte"
  | unexpectedEnd => "unexpected end of data"
  | truncated => "truncated data"
  | badSurrogate => "illegal UTF-16 surrogate"
  | loneSurrogate => "illegal encoding"
  | outOfRange => "code point not in range(0x110000)"
  | surrogate => "code point in surrogate code point range(0xd800, 0xe000)"

/-- Bytes that cannot be decoded: the decoder that met them, where they are, and the first of them.
-/
structure DecodeFault where
  codec : String
  start : Nat
  length : Nat
  byte : UInt8
  cause : DecodeCause
  deriving DecidableEq, Repr

/-- The wording of a decode fault. -/
def DecodeFault.message (f : DecodeFault) : String :=
  "'" ++ f.codec ++ "' codec can't decode " ++
    (if f.length = 1 then
      "byte 0x" ++ String.ofList (hexDigits 2 f.byte.toNat) ++ " in position " ++ toString f.start
    else
      "bytes in position " ++ toString f.start ++ "-" ++ toString (f.start + f.length - 1))
    ++ ": " ++ f.cause.message

/-- Why bytes were not decoded. -/
inductive DecodeError where
  | fault (f : DecodeFault)
  /-- The text should start with a byte order mark. -/
  | noMark (width : UnitWidth)
  deriving DecidableEq, Repr

/-- What the bytes at one place hold: a character and how many bytes it takes, or the number of
bytes that are wrong and why. -/
abbrev Decoded := Except (Nat × DecodeCause) (Char × Nat)

namespace Encoding

/-! ## One character -/

/-- A byte that can follow the first one of a character in UTF-8. -/
def continues (b : UInt8) : Bool := 0x80 ≤ b.toNat && b.toNat < 0xc0

/-- The second byte is allowed after the first one: no character has two forms, is a surrogate, or
lies beyond the last code point. -/
def secondAllowed (a b : UInt8) : Bool :=
  continues b &&
    (a.toNat ≠ 0xe0 || 0xa0 ≤ b.toNat) && (a.toNat ≠ 0xed || b.toNat < 0xa0) &&
    (a.toNat ≠ 0xf0 || 0x90 ≤ b.toNat) && (a.toNat ≠ 0xf4 || b.toNat < 0x90)

/-- The code point of a first byte's bits and further bytes. -/
def join (first : Nat) (more : List UInt8) : Char :=
  Char.ofNat (more.foldl (fun n b => n * 0x40 + b.toNat % 0x40) first)

/-- The first character of bytes in UTF-8. -/
def utf8Char : List UInt8 → Decoded
  | [] => .error (0, .unexpectedEnd)
  | a :: rest =>
    let n := a.toNat
    if n < 0x80 then .ok (Char.ofNat n, 1)
    else if n < 0xc2 || n > 0xf4 then .error (1, .badStart)
    else if n < 0xe0 then
      match rest with
      | [] => .error (1, .unexpectedEnd)
      | b :: _ => if continues b then .ok (join (n % 0x20) [b], 2) else .error (1, .badContinuation)
    else
      match rest with
      | [] => .error (1, .unexpectedEnd)
      | b :: rest =>
        if !secondAllowed a b then .error (1, .badContinuation)
        else
          match rest with
          | [] => .error (2, .unexpectedEnd)
          | c :: rest =>
            if !continues c then .error (2, .badContinuation)
            else if n < 0xf0 then .ok (join (n % 0x10) [b, c], 3)
            else
              match rest with
              | [] => .error (3, .unexpectedEnd)
              | d :: _ =>
                if continues d then .ok (join (n % 0x8) [b, c, d], 4)
                else .error (3, .badContinuation)

/-- The value of a unit of two bytes. -/
private def unit (order : ByteOrder) (a b : UInt8) : Nat :=
  match order with
  | .little => b.toNat * 0x100 + a.toNat
  | .big => a.toNat * 0x100 + b.toNat

/-- The first character of bytes in UTF-16. -/
def utf16Char (order : ByteOrder) : List UInt8 → Decoded
  | [] => .error (0, .truncated)
  | [_] => .error (1, .truncated)
  | a :: b :: rest =>
    let n := unit order a b
    if n < 0xd800 || n ≥ 0xe000 then .ok (Char.ofNat n, 2)
    else if n ≥ 0xdc00 then .error (2, .loneSurrogate)
    else
      match rest with
      | [] => .error (2, .unexpectedEnd)
      | [_] => .error (3, .unexpectedEnd)
      | c :: d :: _ =>
        let m := unit order c d
        if 0xdc00 ≤ m && m < 0xe000 then
          .ok (Char.ofNat (0x10000 + (n - 0xd800) * 0x400 + (m - 0xdc00)), 4)
        else .error (2, .badSurrogate)

/-- The value of a unit of four bytes. -/
private def longUnit (order : ByteOrder) (a b c d : UInt8) : Nat :=
  match order with
  | .little => unit .little c d * 0x10000 + unit .little a b
  | .big => unit .big a b * 0x10000 + unit .big c d

/-- The first character of bytes in UTF-32. -/
def utf32Char (order : ByteOrder) : List UInt8 → Decoded
  | a :: b :: c :: d :: _ =>
    let n := longUnit order a b c d
    if 0x110000 ≤ n then .error (4, .outOfRange)
    else if 0xd800 ≤ n && n < 0xe000 then .error (4, .surrogate)
    else .ok (Char.ofNat n, 4)
  | bytes => .error (bytes.length, .truncated)

/-- The first character of bytes in ASCII. -/
def asciiChar : List UInt8 → Decoded
  | [] => .error (0, .unexpectedEnd)
  | b :: _ => if b.toNat < 0x80 then .ok (Char.ofNat b.toNat, 1) else .error (1, .notAscii)

/-- The first character of bytes in Latin-1, where the number of a byte is that of its character. -/
def latin1Char : List UInt8 → Decoded
  | [] => .error (0, .unexpectedEnd)
  | b :: _ => .ok (Char.ofNat b.toNat, 1)

/-- The first character of bytes in a code page. -/
def pageChar (page : CodePage) : List UInt8 → Decoded
  | [] => .error (0, .unexpectedEnd)
  | b :: _ =>
    match page.char? b with
    | some c => .ok (c, 1)
    | none => .error (1, .undefinedByte)

/-! ## All characters -/

/-- Decodes bytes one character after the other. `start` is the position of the first byte, and
`bound` is at least the number of bytes. -/
def decodeAll (codec : String) (step : List UInt8 → Decoded) :
    (bound start : Nat) → List UInt8 → Except DecodeFault (List Char)
  | _, _, [] => .ok []
  | 0, _, _ :: _ => .ok []
  | bound + 1, start, b :: rest =>
    match step (b :: rest) with
    | .error (length, cause) => .error ⟨codec, start, length, b, cause⟩
    | .ok (c, used) =>
      match decodeAll codec step bound (start + used) ((b :: rest).drop used) with
      | .ok cs => .ok (c :: cs)
      | .error f => .error f

/-- The order in the name of a decoder. -/
private def ByteOrder.suffix : ByteOrder → String
  | .little => "-le"
  | .big => "-be"

/-- Decodes bytes in units of a fixed byte order, from a position on. -/
private def decodeUnits (width : UnitWidth) (order : ByteOrder) (start : Nat) (bytes : List UInt8) :
    Except DecodeError (List Char) :=
  let step := match width with
    | .two => utf16Char order
    | .four => utf32Char order
  (decodeAll (width.codec ++ ByteOrder.suffix order) step bytes.length start bytes).mapError .fault

/-- The byte order that a mark at the start of bytes gives, and the bytes behind the mark. -/
private def markOf? (width : UnitWidth) (bytes : List UInt8) : Option (ByteOrder × List UInt8) :=
  match width, bytes with
  | .two, 0xff :: 0xfe :: rest => some (.little, rest)
  | .two, 0xfe :: 0xff :: rest => some (.big, rest)
  | .four, 0xff :: 0xfe :: 0 :: 0 :: rest => some (.little, rest)
  | .four, 0 :: 0 :: 0xfe :: 0xff :: rest => some (.big, rest)
  | _, _ => none

/-- Decodes bytes in units whose order a mark gives. Without a mark, wrong bytes are reported before
the missing mark is. -/
private def decodeMarked (width : UnitWidth) (bytes : List UInt8) :
    Except DecodeError (List Char) :=
  match markOf? width bytes with
  | some (order, rest) => decodeUnits width order width.size rest
  | none =>
    if bytes.isEmpty then .ok []
    else do
      let _ ← decodeUnits width .little 0 bytes
      .error (.noMark width)

/-- The text that bytes hold in an encoding. -/
def decode (e : Encoding) (bytes : List UInt8) : Except DecodeError (List Char) :=
  let all (codec : String) (step : List UInt8 → Decoded) (bytes : List UInt8) :=
    (decodeAll codec step bytes.length 0 bytes).mapError DecodeError.fault
  match e with
  | ascii => all "ascii" asciiChar bytes
  | latin1 => all "latin-1" latin1Char bytes
  | page p => all "charmap" (pageChar p) bytes
  | utf8 false => all "utf-8" utf8Char bytes
  | utf8 true =>
    match bytes with
    | 0xef :: 0xbb :: 0xbf :: rest => all "utf-8" utf8Char rest
    | _ => all "utf-8" utf8Char bytes
  | units width (some order) => decodeUnits width order 0 bytes
  | units width none => decodeMarked width bytes

/-! ## Names -/

/-- The name of an encoding in its normal form: small letters and digits, all else between them an
underscore. -/
def normalName (name : List Char) : List Char :=
  (name.foldl
    (fun (st : List Char × Bool) c =>
      if isWord c.toNat && c ≠ '_' || c = '.' then
        let gap := if st.2 && !st.1.isEmpty then ['_'] else []
        (st.1 ++ gap ++ (if c.toNat < 0x80 then [c.toLower] else []), false)
      else (st.1, true))
    ([], false)).1

/-- The encodings with the normal forms of their names. -/
private def names : List (Encoding × List String) :=
  [(utf8 false, ["utf_8", "utf8", "u8", "utf", "utf8_ucs2", "utf8_ucs4", "cp65001"]),
   (utf8 true, ["utf_8_sig"]),
   (ascii, ["ascii", "646", "ansi_x3_4_1968", "ansi_x3_4_1986", "cp367", "csascii", "ibm367",
     "iso646_us", "iso_646_irv_1991", "iso_ir_6", "us", "us_ascii"]),
   (latin1, ["latin_1", "8859", "cp819", "csisolatin1", "ibm819", "iso8859", "iso8859_1",
     "iso_8859_1", "iso_8859_1_1987", "iso_ir_100", "l1", "latin", "latin1"]),
   (units .two none, ["utf_16", "u16", "utf16"]),
   (units .two (some .little), ["utf_16_le", "unicodelittleunmarked", "utf_16le"]),
   (units .two (some .big), ["utf_16_be", "unicodebigunmarked", "utf_16be"]),
   (units .four none, ["utf_32", "u32", "utf32"]),
   (units .four (some .little), ["utf_32_le", "utf_32le"]),
   (units .four (some .big), ["utf_32_be", "utf_32be"])]

/-- The encoding with the given name. -/
def ofName? (name : List Char) : Option Encoding :=
  let normal := String.ofList (normalName name)
  match names.find? (·.2.contains normal) with
  | some (e, _) => some e
  | none => (CodePage.ofName? normal).map page

end Encoding

/-- The text with every line ending written as a line feed. -/
def unifyNewlines : List Char → List Char
  | [] => []
  | '\r' :: '\n' :: rest => '\n' :: unifyNewlines rest
  | c :: rest => (if c = '\r' then '\n' else c) :: unifyNewlines rest

/-- The bytes of a text in UTF-8. -/
def encodeUtf8 (text : List Char) : List UInt8 := text.flatMap String.utf8EncodeChar

end PhoneticCatalog.Text
