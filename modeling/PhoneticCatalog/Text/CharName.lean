import PhoneticCatalog.Text.CharName.Scripts
import PhoneticCatalog.Text.CharName.Signs
import PhoneticCatalog.Text.Number

/-!
# Characters by name

`characterNamed?` finds a character by its name. The names of ideographs hold their code points, and
those of Korean syllables hold their sounds; these are known in capitals only. All other names stand
in the tables, and the case of their letters does not count.
-/

namespace PhoneticCatalog.Text

namespace CharName

/-! ## Names that are made up -/

/-- The code point that a name gives in four or five capital hexadecimal digits after a text, if it
lies in one of some ranges. -/
def numbered? (start : String) (ranges : List (Nat × Nat)) (name : List Char) : Option Nat := do
  let digits ← start.toList.isPrefixOf? name
  let code := Number.ofPlain 16 digits
  if (digits.length = 4 || digits.length = 5)
      && digits.all (fun c => (hexValue? c).isSome && !c.isLower)
      && ranges.any (fun (first, last) => first ≤ code && code ≤ last) then
    return code
  else none

/-- The ranges of unified ideographs. -/
def ideographs : List (Nat × Nat) :=
  [(0x3400, 0x4dbf), (0x4e00, 0x9fff), (0x20000, 0x2a6df), (0x2a700, 0x2b738), (0x2b740, 0x2b81d),
   (0x2b820, 0x2cea1), (0x2ceb0, 0x2ebe0), (0x30000, 0x3134a)]

/-- The sounds that a syllable starts with. -/
def initials : List String :=
  ["G", "GG", "N", "D", "DD", "R", "M", "B", "BB", "S", "SS", "", "J", "JJ", "C", "K", "T", "P",
   "H"]

/-- The vowels of syllables. -/
def vowels : List String :=
  ["A", "AE", "YA", "YAE", "EO", "E", "YEO", "YE", "O", "WA", "WAE", "OE", "YO", "U", "WEO", "WE",
   "WI", "YU", "EU", "YI", "I"]

/-- The sounds that a syllable ends with. -/
def finals : List String :=
  ["", "G", "GG", "GS", "N", "NJ", "NH", "D", "L", "LG", "LM", "LB", "LS", "LT", "LP", "LH", "M",
   "B", "BS", "S", "SS", "NG", "J", "C", "K", "T", "P", "H"]

/-- The syllable with some sounds: syllables are numbered by what they start with, then by their
vowels, then by what they end with. -/
def syllable? (sounds : List Char) : Option Nat :=
  initials.zipIdx.findSome? fun (initial, i) => do
    let rest ← initial.toList.isPrefixOf? sounds
    vowels.zipIdx.findSome? fun (vowel, j) => do
      let final ← vowel.toList.isPrefixOf? rest
      let k ← finals.findIdx? (·.toList = final)
      return 0xac00 + (i * vowels.length + j) * finals.length + k

/-- The code point of an ideograph or a syllable with a name. -/
def madeUp? (name : List Char) : Option Nat :=
  (numbered? "CJK UNIFIED IDEOGRAPH-" ideographs name).or
    (("HANGUL SYLLABLE ".toList.isPrefixOf? name).bind syllable?)

/-! ## Names of the tables -/

/-- The first words of a name, each with the space or the hyphen that ends it. -/
def firstWords : Nat → List Char → List Char
  | 0, _ => []
  | _, [] => []
  | k + 1, c :: rest => c :: firstWords (if c = ' ' || c = '-' then k else k + 1) rest

/-- The last letter that says how many words a name keeps. -/
def lastKept : Char := 'l'

/-- Reads one more character of a table, given the names so far. The newest name comes first, and
all of them are written backwards. -/
def readSign (names : List (List Char)) (c : Char) : List (List Char) :=
  if 'a' ≤ c && c ≤ lastKept then
    (firstWords (c.toNat - 'a'.toNat) (names.headD []).reverse).reverse :: names
  else
    match names with
    | [] => []
    | newest :: before =>
      (((namePhrases.lookup c).map (·.toList)).getD [c]).reverseAux newest :: before

/-- The code point of a run that has a name. -/
def find? (r : NameRun) (name : List Char) : Option Nat :=
  let names := (r.rows.flatMap String.toList).foldl readSign []
  (names.reverse.findIdx? (·.reverse = name)).map (r.first + ·)

/-- The ranges of characters other than unified ideographs that are named by their code points,
with what their names start with. -/
def numberedRanges : List (String × List (Nat × Nat)) :=
  [("CJK COMPATIBILITY IDEOGRAPH-", [(0xf900, 0xfa6d), (0xfa70, 0xfad9), (0x2f800, 0x2fa1d)]),
   ("KHITAN SMALL SCRIPT CHARACTER-", [(0x18b00, 0x18cd5)]),
   ("NUSHU CHARACTER-", [(0x1b170, 0x1b2fb)])]

/-- The variation selector with a short name: the first sixteen lie apart from the others. -/
def selector? (name : List Char) : Option Nat := do
  let n ← (List.range' 1 256).find? fun n => name = 'V' :: 'S' :: (toString n).toList
  return if n ≤ 16 then 0xfe00 + (n - 1) else 0xe0100 + (n - 17)

/-- The code point with a name in capitals. No number starts with a zero here. -/
def listed? (name : List Char) : Option Nat :=
  (nameAliases.lookup (String.ofList name)).or <| (selector? name).or <|
    (numberedRanges.findSome? fun (start, ranges) =>
      if (start.toList ++ ['0']).isPrefixOf name then none else numbered? start ranges name).or <|
    (letterNames ++ scriptNames ++ signNames).findSome? (find? · name)

end CharName

/-- The code point of the character with a name. -/
def characterNamed? (name : List Char) : Option Nat :=
  (CharName.madeUp? name).or (CharName.listed? (name.map Char.toUpper))

end PhoneticCatalog.Text
