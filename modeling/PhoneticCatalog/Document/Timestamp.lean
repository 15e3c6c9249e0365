import PhoneticCatalog.Document.Fault

/-!
# Points in time

A timestamp is a day of the calendar, or a time on such a day, given with or without its offset from
universal time. `Timestamp.ofText` reads one and checks that there is such a day and such a time.
-/

namespace PhoneticCatalog.Document

/-- A time on a day. The offset is in minutes. -/
structure TimeOfDay where
  hour : Nat
  minute : Nat
  second : Nat
  microsecond : Nat
  offset : Option Int
  deriving DecidableEq, Repr

/-- A day, or a time on a day. -/
structure Timestamp where
  year : Nat
  month : Nat
  day : Nat
  time : Option TimeOfDay
  deriving DecidableEq, Repr

namespace Timestamp

/-! ## Reading -/

/-- The number that between `least` and `most` ASCII digits at the start of a text write, and what
follows them. -/
def digits? (least most : Nat) (s : List Char) : Option (Nat × List Char) :=
  let ds := (s.takeWhile Char.isDigit).take most
  if ds.length < least then none
  else some (Text.Number.ofPlain 10 ds, s.drop ds.length)

/-- What follows a character at the start of a text. -/
def after? (c : Char) : List Char → Option (List Char)
  | d :: rest => if d = c then some rest else none
  | [] => none

/-- The text ends here, possibly with a line feed. -/
def atEnd (s : List Char) : Bool := s = [] || s = ['\n']

/-- The characters between a day and a time. -/
def isGap (c : Char) : Bool := c = ' ' || c = '\t'

/-- What follows the gap between a day and a time. -/
def afterGap? : List Char → Option (List Char)
  | 'T' :: rest | 't' :: rest => some rest
  | c :: rest => if isGap c then some (rest.dropWhile isGap) else none
  | [] => none

/-- The microseconds that a fraction of a second writes; further digits do not count. -/
def microseconds (ds : List Char) : Nat :=
  Text.Number.ofPlain 10 ((ds ++ List.replicate 6 '0').take 6)

/-- A fraction of a second, if there is one, and what follows it. -/
def fraction : List Char → Nat × List Char
  | '.' :: rest =>
    let ds := rest.takeWhile Char.isDigit
    (microseconds ds, rest.drop ds.length)
  | s => (0, s)

/-- The offset that the rest of a text writes, if it is one. -/
def offset? (s : List Char) : Option (Option Int) :=
  if atEnd s then some none
  else
    match s.dropWhile isGap with
    | 'Z' :: rest => if atEnd rest then some (some 0) else none
    | c :: rest => do
      if c ≠ '+' && c ≠ '-' then none
      let (hours, rest) ← digits? 1 2 rest
      let (minutes, rest) ← match rest with
        | ':' :: rest => digits? 2 2 rest
        | rest => some (0, rest)
      if !atEnd rest then none
      let total : Int := hours * 60 + minutes
      return some (if c = '-' then -total else total)
    | [] => none

/-- The time that the rest of a text writes, if it is one. -/
def time? (s : List Char) : Option TimeOfDay := do
  let (hour, s) ← digits? 1 2 s
  let (minute, s) ← digits? 2 2 (← after? ':' s)
  let (second, s) ← digits? 2 2 (← after? ':' s)
  let (microsecond, s) := fraction s
  return { hour, minute, second, microsecond, offset := ← offset? s }

/-- The timestamp that a text writes, whether there is such a day and such a time or not. -/
def written? (s : List Char) : Option Timestamp := do
  let (year, s) ← digits? 4 4 s
  let (month, s) ← digits? 1 2 (← after? '-' s)
  let (day, s) ← digits? 1 2 (← after? '-' s)
  if atEnd s then return ⟨year, month, day, none⟩
  return ⟨year, month, day, some (← time? (← afterGap? s))⟩

/-! ## The calendar -/

/-- Years with a leap day. -/
def isLeap (year : Nat) : Bool := year % 4 = 0 && (year % 100 ≠ 0 || year % 400 = 0)

/-- The number of days of a month. -/
def daysOf (year month : Nat) : Nat :=
  if month = 2 then (if isLeap year then 29 else 28)
  else if month = 4 || month = 6 || month = 9 || month = 11 then 30
  else 31

/-- Checks that there is such a day and such a time. The offset is looked at first. -/
def check (t : Timestamp) : Except ScalarFault Unit := do
  if let some offset := t.time.bind (·.offset) then
    if 1440 ≤ offset.natAbs then throw (.offset offset)
  if t.year = 0 then throw (.year t.year)
  if t.month = 0 || 12 < t.month then throw .month
  if t.day = 0 || daysOf t.year t.month < t.day then throw .day
  if let some time := t.time then
    if 23 < time.hour then throw .hour
    if 59 < time.minute then throw .minute
    if 59 < time.second then throw .second

/-- The timestamp that a text writes. -/
def ofText (s : List Char) : Except ScalarFault Timestamp := do
  match written? s with
  | none => throw .date
  | some t => do
    t.check
    return t

/-! ## Showing -/

/-- The name of the kind of a timestamp. -/
def kindName (t : Timestamp) : String :=
  if t.time.isSome then "datetime.datetime" else "datetime.date"

/-- The parts of a time that are shown: seconds are left out if they are zero. -/
def shownTime (t : TimeOfDay) : List Nat :=
  [t.hour, t.minute] ++
    (if t.second = 0 && t.microsecond = 0 then []
     else t.second :: if t.microsecond = 0 then [] else [t.microsecond])

/-- An offset as it is shown. -/
def shownOffset (minutes : Int) : String :=
  if minutes = 0 then "datetime.timezone.utc" else "datetime.timezone(" ++ spanText minutes ++ ")"

/-- A timestamp as it is shown. -/
def shown (t : Timestamp) : String :=
  let parts := [t.year, t.month, t.day] ++ (t.time.map shownTime).getD []
  let offset := match t.time.bind (·.offset) with
    | some minutes => ", tzinfo=" ++ shownOffset minutes
    | none => ""
  t.kindName ++ "(" ++ ", ".intercalate (parts.map toString) ++ offset ++ ")"

end Timestamp

end PhoneticCatalog.Document
