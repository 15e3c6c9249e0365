import PhoneticCatalog.Text.Quoted

/-!
# Why a text is no context expression

`Fault` lists what can be wrong with the text of an expression. `Refusal` says why no expression was
made of a text: a fault at a position, or a limit that the expression as a whole exceeds.
`Refusal.message` holds all the wording.
-/

namespace PhoneticCatalog.Context

/-- What is wrong at one place of a text. Parts of the text are given as they are written there. -/
inductive Fault where
  | escapeAtEnd
  | incompleteEscape (written : List Char)
  | badEscape (written : List Char)
  | octalTooLarge (written : List Char)
  | missingBrace
  | missingCharacterName
  | missingGroupName
  | unterminatedName (closer : Char)
  | unknownCharacterName (name : List Char)
  | invalidGroup (number : Nat)
  | openGroup
  | groupOfSameLookBehind
  | unterminatedSet
  | badRange (first last : List Char)
  | reversedBounds
  | nothingToRepeat
  | multipleRepeat
  | unexpectedEnd
  | badGroupName (name : List Char)
  | unknownGroupName (name : List Char)
  | redefinedGroup (name : List Char) (number old : Nat)
  | badGroupNumber
  | unknownExtension (written : List Char)
  | unterminatedComment
  | unterminatedGroup
  | tooManyBranches
  | flagsNotAtStart
  | localeFlag
  | conflictingFlags
  | flagsUnfinished
  | unknownFlag
  | missingFlag
  | missingColon
  | globalFlagOn
  | globalFlagOff
  | alphabetFlagOff
  | flagOnAndOff
  | unbalancedParenthesis
  deriving DecidableEq, Repr

/-- The wording of a fault. -/
def Fault.message : Fault → String
  | escapeAtEnd => "bad escape (end of pattern)"
  | incompleteEscape w => "incomplete escape " ++ String.ofList w
  | badEscape w => "bad escape " ++ String.ofList w
  | octalTooLarge w =>
    "octal escape value " ++ String.ofList w ++ " outside of range 0-0o377"
  | missingBrace => "missing \x7b"
  | missingCharacterName => "missing character name"
  | missingGroupName => "missing group name"
  | unterminatedName c => "missing " ++ c.toString ++ ", unterminated name"
  | unknownCharacterName n => "undefined character name " ++ String.ofList (Text.quote n)
  | invalidGroup n => "invalid group reference " ++ toString n
  | openGroup => "cannot refer to an open group"
  | groupOfSameLookBehind =>
    "cannot refer to group defined in the same lookbehind subpattern"
  | unterminatedSet => "unterminated character set"
  | badRange a b => "bad character range " ++ String.ofList a ++ "-" ++ String.ofList b
  | reversedBounds => "min repeat greater than max repeat"
  | nothingToRepeat => "nothing to repeat"
  | multipleRepeat => "multiple repeat"
  | unexpectedEnd => "unexpected end of pattern"
  | badGroupName n => "bad character in group name " ++ String.ofList (Text.quote n)
  | unknownGroupName n => "unknown group name " ++ String.ofList (Text.quote n)
  | redefinedGroup n new old =>
    "redefinition of group name " ++ String.ofList (Text.quote n) ++ " as group " ++ toString new
      ++ "; was group " ++ toString old
  | badGroupNumber => "bad group number"
  | unknownExtension w => "unknown extension ?" ++ String.ofList w
  | unterminatedComment => "missing ), unterminated comment"
  | unterminatedGroup => "missing ), unterminated subpattern"
  | tooManyBranches => "conditional backref with more than two branches"
  | flagsNotAtStart => "global flags not at the start of the expression"
  | localeFlag => "bad inline flags: cannot use 'L' flag with a str pattern"
  | conflictingFlags => "bad inline flags: flags 'a', 'u' and 'L' are incompatible"
  | flagsUnfinished => "missing -, : or )"
  | unknownFlag => "unknown flag"
  | missingFlag => "missing flag"
  | missingColon => "missing :"
  | globalFlagOn => "bad inline flags: cannot turn on global flag"
  | globalFlagOff => "bad inline flags: cannot turn off global flag"
  | alphabetFlagOff => "bad inline flags: cannot turn off flags 'a', 'u' and 'L'"
  | flagOnAndOff => "bad inline flags: flag turned on and off"
  | unbalancedParenthesis => "unbalanced parenthesis"

/-- How often a repeat may run, and in which order it tries. -/
inductive RepeatMode where
  | greedy
  | lazy
  | possessive
  deriving DecidableEq, Repr

/-- Why no expression was made of a text. -/
inductive Refusal where
  /-- The text is wrong at a position. -/
  | malformed (fault : Fault) (position : Nat)
  /-- What a look-behind looks for has no fixed length. -/
  | lookBehindNotFixed
  /-- What a look-behind looks for is longer than any text. -/
  | lookBehindTooLong
  /-- A repeat in an expression that was declared to be a template. -/
  | repeatInTemplate (mode : RepeatMode)
  /-- A count of a repeat is beyond the largest one. -/
  | repetitionTooLarge
  /-- Both alphabets were asked for. -/
  | conflictingAlphabets
  deriving DecidableEq, Repr

namespace Refusal

/-- A position as line and column, both counted from one. -/
def lineAndColumn (text : List Char) (position : Nat) : Nat × Nat :=
  let passed := text.take position
  (passed.count '\n' + 1, (passed.reverse.takeWhile (· ≠ '\n')).length + 1)

/-- A fault's place in the text; in a text of several lines also by line and column. -/
def place (text : List Char) (position : Nat) : String :=
  " at position " ++ toString position ++
    if text.contains '\n' then
      let (line, column) := lineAndColumn text position
      " (line " ++ toString line ++ ", column " ++ toString column ++ ")"
    else ""

/-- The wording of a refusal of the given text. -/
def message (text : List Char) : Refusal → String
  | malformed fault position => fault.message ++ place text position
  | lookBehindNotFixed => "look-behind requires fixed-width pattern"
  | lookBehindTooLong => "looks too much behind"
  | repeatInTemplate mode =>
    "internal: unsupported template operator " ++
      match mode with
      | .greedy => "MAX_REPEAT"
      | .lazy => "MIN_REPEAT"
      | .possessive => "POSSESSIVE_REPEAT"
  | repetitionTooLarge => "the repetition number is too large"
  | conflictingAlphabets => "ASCII and UNICODE flags are incompatible"

end Refusal

end PhoneticCatalog.Context
