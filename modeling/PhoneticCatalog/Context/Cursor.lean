import PhoneticCatalog.Context.Refusal

/-!
# The text of an expression, token by token

A token is a character, or a backslash together with the character after it. A `Cursor` stands
before a token and knows how many characters it has passed. A backslash that ends the text is
refused as soon as it comes next (`Cursor.skip`), even if the expression would be wrong for another
reason before.
-/

namespace PhoneticCatalog.Context

/-- A token: nothing more, a character, or a backslash and a character. -/
inductive Token where
  | stop
  | plain (c : Char)
  | escaped (c : Char)
  deriving DecidableEq, Repr

/-- The characters of a token. -/
def Token.written : Token → List Char
  | stop => []
  | plain c => [c]
  | escaped c => ['\\', c]

/-- A place in the text of an expression. -/
structure Cursor where
  passed : Nat
  rest : List Char
  deriving Repr

namespace Cursor

/-- The token at the cursor. -/
def token (k : Cursor) : Token :=
  match k.rest with
  | [] => .stop
  | '\\' :: c :: _ => .escaped c
  | c :: _ => .plain c

/-- The cursor with `n` characters passed. -/
def advance (k : Cursor) (n : Nat) : Cursor := ⟨k.passed + n, k.rest.drop n⟩

/-- Refuses a cursor before a backslash that ends the text. -/
def checked (k : Cursor) : Except Refusal Cursor :=
  if k.rest = ['\\'] then throw (.malformed .escapeAtEnd k.passed) else pure k

/-- The cursor behind the token. -/
def skip (k : Cursor) : Except Refusal Cursor := (k.advance k.token.written.length).checked

end Cursor

/-- How far a name reaches. -/
inductive NameEnd where
  /-- The name is closed, and this is what follows. -/
  | closed (rest : List Char)
  /-- The text ends within the name. -/
  | open
  /-- The text ends within the name, with a lone backslash. -/
  | cutOff

/-- The characters up to the token that is the closing character, and what comes then. -/
def splitName (closer : Char) : List Char → List Char × NameEnd
  | [] => ([], .open)
  | ['\\'] => ([], .cutOff)
  | '\\' :: c :: rest =>
    let (name, ending) := splitName closer rest
    ('\\' :: c :: name, ending)
  | c :: rest =>
    if c = closer then ([], .closed rest)
    else
      let (name, ending) := splitName closer rest
      (c :: name, ending)

end PhoneticCatalog.Context
