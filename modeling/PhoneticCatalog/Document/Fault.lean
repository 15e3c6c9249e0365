import PhoneticCatalog.Text.Number
import PhoneticCatalog.Text.Quoted

/-!
# Why a document cannot be read

A text may be no document at all, which needs no further reason here, or a scalar in it may not keep
what its form or its tag promises. `ScalarFault` lists the reasons for the latter.
-/

namespace PhoneticCatalog.Document

/-- The text of a scalar is none of the kind that its tag promises. -/
inductive ScalarFault where
  /-- The text is no whole number to a base. -/
  | integer (text : List Char) (base : Nat)
  /-- A whole number without a digit. -/
  | emptyInteger
  /-- A whole number with more digits than are read. -/
  | tooManyDigits (count : Nat)
  /-- The text is no decimal number. -/
  | decimal (text : List Char)
  /-- A decimal number without a digit. -/
  | emptyDecimal
  /-- A decimal number with so many steps of sixty that they go beyond all decimal numbers. -/
  | largeFactor
  /-- The text is no truth value. -/
  | truth (text : List Char)
  /-- The text is not written like a date. -/
  | date
  /-- A mapping stands where a date has to be written. -/
  | dateMapping
  | year (number : Nat)
  | month
  | day
  | hour
  | minute
  | second
  /-- The offset from universal time, here in minutes, is a day or more. -/
  | offset (minutes : Int)
  /-- An escape in a quoted text names a code point beyond the last one. -/
  | codePoint
  /-- An escape in a quoted text names a number that is far beyond all code points. -/
  | hugeCodePoint
  deriving DecidableEq, Repr

/-- A span of time in minutes, as it is shown in a message: whole days, and the seconds of the rest.
-/
def spanText (minutes : Int) : String :=
  let days := minutes / 1440
  let seconds := (minutes % 1440) * 60
  "datetime.timedelta(" ++
    (if days = 0 then "seconds=" ++ toString seconds
     else if seconds = 0 then "days=" ++ toString days
     else "days=" ++ toString days ++ ", seconds=" ++ toString seconds) ++ ")"

/-- The wording of a scalar fault. -/
def ScalarFault.message : ScalarFault → String
  | integer text base =>
    "invalid literal for int() with base " ++ toString base ++ ": "
      ++ String.ofList ((Text.quote text).take 200)
  | emptyInteger | emptyDecimal => "string index out of range"
  | tooManyDigits count =>
    String.join ["Exceeds the limit (", toString Text.maxDigits,
      " digits) for integer string conversion: value has ", toString count,
      " digits; use sys.set_int_max_str_digits() to increase the limit"]
  | decimal text => "could not convert string to float: " ++ String.ofList (Text.quote text)
  | truth text => String.ofList (Text.quote text)
  | largeFactor => "int too large to convert to float"
  | date => "'NoneType' object has no attribute 'groupdict'"
  | dateMapping => "expected string or bytes-like object, got 'list'"
  | year n => "year " ++ toString n ++ " is out of range"
  | month => "month must be in 1..12"
  | day => "day is out of range for month"
  | hour => "hour must be in 0..23"
  | minute => "minute must be in 0..59"
  | second => "second must be in 0..59"
  | offset minutes =>
    String.join ["offset must be a timedelta strictly between -timedelta(hours=24) and ",
      "timedelta(hours=24), not ", spanText minutes, "."]
  | codePoint => "chr() arg not in range(0x110000)"
  | hugeCodePoint => "Python int too large to convert to C int"

/-- Why a text cannot be read as a document. -/
inductive ReadFault where
  | malformed
  | scalar (fault : ScalarFault)
  deriving DecidableEq, Repr

end PhoneticCatalog.Document
