import PhoneticCatalog.Text.CharKind
import PhoneticCatalog.Text.LetterCase

/-!
# Tests on one character

The parts of an expression that take exactly one character: a literal, a set, the dot.
`CharTest.accepts` decides them. How letter case counts is part of the test (`CaseRule`): case may
be exact, or ignored among the letters A to Z, or ignored among all letters.
-/

namespace PhoneticCatalog.Context

/-- The alphabet that classes such as `\w` are read in. -/
inductive Alphabet where
  | ascii
  | unicode
  deriving DecidableEq, Repr

/-- How letter case counts in a comparison. -/
inductive CaseRule where
  | exact
  | ignored (alphabet : Alphabet)
  deriving DecidableEq, Repr

/-- The classes of characters that have an escape of their own. -/
inductive CharClass where
  | digit
  | space
  | word
  deriving DecidableEq, Repr

/-- The code point belongs to the class. -/
def CharClass.holds : CharClass → Alphabet → Nat → Bool
  | digit, .unicode, n => Text.isDecimal n
  | space, .unicode, n => Text.isSpace n
  | word, .unicode, n => Text.isWord n
  | digit, .ascii, n => 0x30 ≤ n && n ≤ 0x39
  | space, .ascii, n => (0x9 ≤ n && n ≤ 0xd) || n = 0x20
  | word, .ascii, n => (0x30 ≤ n && n ≤ 0x39) || Text.isLatin n || n = 0x5f

/-- A member of a set. -/
inductive SetItem where
  | point (code : Nat)
  | range (first last : Nat)
  | class (c : CharClass) (negated : Bool)
  deriving DecidableEq, Repr

/-- The small form that an alphabet knows. -/
def Alphabet.smallForm : Alphabet → Nat → Nat
  | .ascii => Text.smallLatin
  | .unicode => Text.smallForm

/-- The alphabet knows the code point in another case. -/
def Alphabet.hasCase : Alphabet → Nat → Bool
  | .ascii => Text.isLatin
  | .unicode => Text.hasCase

/-- The code points that count as the same as the small form `small`. -/
def Alphabet.variants : Alphabet → Nat → List Nat
  | .ascii, small =>
    if 0x61 ≤ small && small ≤ 0x7a then [small, small - 0x20] else [small]
  | .unicode, small => Text.caseVariants small

/-- The last code point of the basic plane. Case is compared differently beyond it. -/
def lastBasic : Nat := 0xffff

namespace SetItem

/-- The item names a code point that the alphabet knows in another case, or reaches beyond the basic
plane as a range. -/
def isCased (a : Alphabet) : SetItem → Bool
  | point n => a.hasCase n
  | range first last =>
    last > lastBasic || (List.range (last + 1 - first)).any fun i => a.hasCase (first + i)
  | SetItem.class _ _ => false

/-- A set with this item that ignores case compares small forms. -/
def comparesSmall (a : Alphabet) : SetItem → Bool
  | point n => isCased a (point n) || n > lastBasic
  | item => item.isCased a

/-- The item holds the code point, case being exact. -/
def holds (a : Alphabet) (n : Nat) : SetItem → Bool
  | point m => n = m
  | range first last => first ≤ n && n ≤ last
  | SetItem.class c negated => c.holds a n != negated

/-- The item holds a code point of the small form `small`. Code points beyond the basic plane are
compared as they are; a range that reaches there also takes a letter by its capital form. -/
def holdsSmall (a : Alphabet) (small : Nat) : SetItem → Bool
  | point m => if m > lastBasic then small = m else (a.variants small).contains m
  | range first last =>
    ((a.variants small).any fun n => first ≤ n && n ≤ last && n ≤ lastBasic)
      || (last > lastBasic &&
        ((first ≤ small && small ≤ last)
          || (first ≤ Text.firstCapital small && Text.firstCapital small ≤ last)))
  | SetItem.class c negated => c.holds a small != negated

end SetItem

/-- A test that one character passes or fails. -/
inductive CharTest where
  /-- Any character, or any but a line feed. -/
  | any (lineFeed : Bool)
  /-- One code point, or any other if negated. -/
  | literal (negated : Bool) (code : Nat) (rule : CaseRule)
  /-- The members of a set, or all others if negated. A set compares small forms only if `small`. -/
  | set (negated : Bool) (items : List SetItem) (alphabet : Alphabet) (small : Bool)
  deriving DecidableEq, Repr

namespace CharTest

/-- A set under a case rule. Small forms are compared if case is ignored and some item has case. -/
def ofItems (negated : Bool) (items : List SetItem) (alphabet : Alphabet) (rule : CaseRule) :
    CharTest :=
  match rule with
  | .exact => set negated items alphabet false
  | .ignored a => set negated items alphabet (items.any (·.comparesSmall a))

/-- The code points are the same under a case rule; the first one is what the expression names. -/
def sameCode (rule : CaseRule) (code n : Nat) : Bool :=
  match rule with
  | .exact => n = code
  | .ignored a =>
    if a.hasCase code then
      match a with
      | .ascii => Text.smallLatin n = Text.smallLatin code
      | .unicode =>
        let small := Text.smallForm code
        (small :: Text.twinsOf small).contains (Text.smallForm n)
    else n = code

/-- The test accepts the character. -/
def accepts (c : Char) : CharTest → Bool
  | any lineFeed => lineFeed || c ≠ '\n'
  | literal negated code rule => sameCode rule code c.toNat != negated
  | set negated items alphabet small =>
    (if small then items.any (·.holdsSmall alphabet (alphabet.smallForm c.toNat))
     else items.any (·.holds alphabet c.toNat)) != negated

end CharTest

end PhoneticCatalog.Context
