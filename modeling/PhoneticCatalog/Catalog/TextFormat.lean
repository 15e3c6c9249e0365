import PhoneticCatalog.Catalog.Loader
import PhoneticCatalog.Text.Line

/-!
# The text format

A catalog is written line by line. Two slashes start a comment that runs to the end of the line; a
line that starts with a slash and an asterisk starts a comment that runs to a later line which ends
with an asterisk and a slash. `#include` names a catalog to be spliced in. Any other line holds the
four fields of a rule, which may be quoted. `LineContent.ofLine` reads one line outside of block
comments, and `textSteps` runs through all lines of a text.
-/

namespace PhoneticCatalog.Catalog

/-- The sign that starts a comment up to the end of the line. -/
def commentSign : List Char := ['/', '/']

/-- The sign that starts a block comment. -/
def blockStart : List Char := ['/', '*']

/-- The sign that ends a block comment. -/
def blockEnd : List Char := ['*', '/']

/-- The word that starts an include. -/
def includeWord : List Char := "#include".toList

/-- What a line outside of block comments holds. -/
inductive LineContent where
  /-- Nothing, or nothing but a comment. -/
  | blank (commented : Bool)
  /-- An include of a catalog. -/
  | include (name : List Char)
  /-- The four fields of a rule. -/
  | rule (pattern left right phoneme : List Char)
  /-- Neither of them. -/
  | malformed (problem : Malformation)
  deriving DecidableEq, Repr

namespace LineContent

/-- The content of a line whose comment is cut off and whose ends are trimmed. -/
def ofTrimmed (line : List Char) : LineContent :=
  if Text.startsWith line includeWord then
    let name := Text.trim (line.drop includeWord.length)
    if name.isEmpty || name.any Text.isSeparator then .malformed .inclusion else .include name
  else
    match Text.splitFields line with
    | [pattern, left, right, phoneme] =>
      .rule (Text.stripQuotes pattern) (Text.stripQuotes left) (Text.stripQuotes right)
        (Text.stripQuotes phoneme)
    | fields => .malformed (.rule fields.length)

/-- The content of a line outside of block comments. -/
def ofLine (raw : List Char) : LineContent :=
  let code := Text.before? commentSign raw
  let line := Text.trim (code.getD raw)
  if line.isEmpty then .blank code.isSome else ofTrimmed line

end LineContent

/-- The steps of one line outside of block comments. -/
def lineSteps (catalog : List Char) (number : Nat) (raw : List Char) : List (Step Rule) :=
  match LineContent.ofLine raw with
  | .blank commented => [.tally 1 (if commented then 1 else 0)]
  | .include name => [.tally 1 0, .splice name]
  | .malformed problem => [.tally 1 0, .skip ⟨catalog, number, problem, raw⟩]
  | .rule pattern left right phoneme =>
    [.tally 1 0, .ofFields catalog (.line number) { pattern, left, right, phoneme }]

/-- The steps of the lines from a number on, inside or outside of a block comment. -/
def linesSteps (catalog : List Char) : (inBlock : Bool) → (number : Nat) → List (List Char) →
    List (Step Rule)
  | _, _, [] => []
  | true, number, raw :: rest =>
    .tally 1 1 :: linesSteps catalog (!Text.endsWith raw blockEnd) (number + 1) rest
  | false, number, raw :: rest =>
    if Text.startsWith raw blockStart then
      .tally 1 1 :: linesSteps catalog true (number + 1) rest
    else lineSteps catalog number raw ++ linesSteps catalog false (number + 1) rest

/-- The steps of a text. -/
def textSteps (catalog text : List Char) : List (Step Rule) :=
  linesSteps catalog false 1 (Text.splitLines text)

/-- The text format. -/
def textFormat : Format Rule := ⟨.text, textSteps⟩

end PhoneticCatalog.Catalog
