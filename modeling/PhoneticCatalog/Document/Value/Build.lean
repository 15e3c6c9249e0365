import PhoneticCatalog.Document.Base64
import PhoneticCatalog.Document.Node.Parser
import PhoneticCatalog.Document.Token.Lexer
import PhoneticCatalog.Document.Value
import PhoneticCatalog.Text.LetterCase

/-!
# Reading documents

`read` turns a text into the value of the document that it holds, by way of the tokens of the text
and of the nodes that they make up. `Value.ofNode` gives the value that a node stands for. A scalar
is read as its tag says. A mapping takes over the entries that are merged into it, and a key that
comes twice keeps its first place and its last value. A collection that lies in itself is known
there by its kind alone, and brings no entries where it is merged.

Collections are completed level by level from the root on, so that of several faults in a document
the one nearest to the root counts, and of several at one level the first one. `Ranked` results
carry that level with the fault.
-/

namespace PhoneticCatalog.Document

/-! ## Scalars -/

/-- The truth values by their words. -/
def truths : List (String × Bool) :=
  [("yes", true), ("no", false), ("true", true), ("false", false), ("on", true), ("off", false)]

/-- The truth value that a text writes. -/
def truthOf (s : List Char) : Except ScalarFault Bool :=
  let word := Text.toSmall s
  match truths.lookup (String.ofList word) with
  | some b => .ok b
  | none => .error (.truth word)

/-- The whole number that a text writes to a base. -/
def wholeTo (base : Nat) (s : List Char) : Except ScalarFault Int :=
  if base = 10 && Text.maxDigits < Text.decimalCount s then
    .error (.tooManyDigits (Text.decimalCount s))
  else
    match Text.readIntTo? base s with
    | some n => .ok n
    | none => .error (.integer s base)

/-- The whole number that a text without a sign writes: to base two, sixteen or eight if it is
announced so, in steps of sixty between colons, or in decimal digits. -/
def wholeOf (s : List Char) : Except ScalarFault Int :=
  match s with
  | [] => .error .emptyInteger
  | ['0'] => .ok 0
  | '0' :: 'b' :: rest => wholeTo 2 rest
  | '0' :: 'x' :: rest => wholeTo 16 rest
  | '0' :: _ => wholeTo 8 s
  | _ =>
    if s.contains ':' then do
      let parts ← (s.splitOn ':').mapM (wholeTo 10)
      return parts.foldl (fun n part => n * 60 + part) 0
    else wholeTo 10 s

/-- The whole number that a text writes. Underscores do not count. -/
def integerOf (s : List Char) : Except ScalarFault Int :=
  let s := s.filter (· ≠ '_')
  if s.isEmpty then .error .emptyInteger
  else
    let (negative, s) := Text.Number.splitSign s
    (wholeOf s).map fun n => if negative then -n else n

/-- The decimal number that a text writes. -/
def partOf (s : List Char) : Except ScalarFault Text.Binary64 :=
  match Text.Binary64.ofText? s with
  | some x => .ok x
  | none => .error (.decimal s)

/-- The sum of numbers in steps of sixty, the lowest one first: each is multiplied by the number
nearest to its power of sixty, which may not be infinite. -/
def sixtieths (factor : Nat) (sum : Text.Binary64) :
    List Text.Binary64 → Except ScalarFault Text.Binary64
  | [] => .ok sum
  | part :: rest =>
    match Text.Binary64.ofNat? factor with
    | some f => sixtieths (factor * 60) (sum.add (part.times f)) rest
    | none => .error .largeFactor

/-- The decimal number that a text writes, possibly in steps of sixty between colons. Underscores do
not count. -/
def decimalOf (s : List Char) : Except ScalarFault Text.Binary64 :=
  let s := Text.toSmall (s.filter (· ≠ '_'))
  if s.isEmpty then .error .emptyDecimal
  else do
    let (negative, s) := Text.Number.splitSign s
    if s = ".nan".toList then return .notNumber
    let x ←
      if s = ".inf".toList then pure (Text.Binary64.infinite false)
      else if s.contains ':' then do
        let parts ← (s.splitOn ':').mapM partOf
        sixtieths 1 (.finite false 0 Text.Binary64.leastExponent) parts.reverse
      else partOf s
    return if negative then x.negate else x

/-- The bytes that a text writes. -/
def bytesOf (s : List Char) : Except ReadFault (List UInt8) :=
  if s.all (·.toNat < 0x80) then
    match Base64.decode? s with
    | some b => .ok b
    | none => .error .malformed
  else .error .malformed

/-- The value of a scalar. A tag for a collection, or for nothing known, does not fit. -/
def scalarValue (t : Tag) (s : List Char) : Except ReadFault Value :=
  match t with
  | .nothing => .ok .nothing
  | .truth => ((truthOf s).map .truth).mapError .scalar
  | .integer => ((integerOf s).map .integer).mapError .scalar
  | .decimal => ((decimalOf s).map .decimal).mapError .scalar
  | .timestamp => ((Timestamp.ofText s).map .time).mapError .scalar
  | .binary => (bytesOf s).map .bytes
  | .text => .ok (.text s)
  | _ => .error .malformed

/-! ## Collections -/

/-- A result, or a fault with its level. -/
abbrev Ranked (α : Type) := Except (Nat × ReadFault) α

/-- Two results together. Of two faults the one at the lower level counts, else the first one. -/
def Ranked.both {α β γ : Type} (f : α → β → γ) (x : Ranked α) (y : Ranked β) : Ranked γ :=
  match x, y with
  | .ok a, .ok b => .ok (f a b)
  | .ok _, .error e => .error e
  | .error e, .ok _ => .error e
  | .error e, .error e' => .error (if e'.1 < e.1 then e' else e)

namespace Tag

/-- The tags of collections. -/
def isCollection : Tag → Bool
  | sequence | mapping | set | pairs | orderedMapping => true
  | _ => false

end Tag

namespace Value

/-- The text that stands for all of a mapping: that of the first key that says so. -/
def textIn : List (Node × Node) → Option (List Char)
  | [] => none
  | (k, v) :: rest =>
    if k.tag = .value then
      match v with
      | .scalar _ s => some s
      | .mapping _ entries => textIn entries
      | _ => none
    else textIn rest

/-- All that is to be merged into a mapping are mappings and lists of mappings. -/
def canMerge : List (Node × Node) → Bool
  | [] => true
  | (k, v) :: rest => (k.tag ≠ .merge || canMergeNode v) && canMerge rest
where
  /-- What is to be merged is a mapping or a list of mappings. -/
  canMergeNode : Node → Bool
    | .mapping _ entries => canMerge entries
    | .sequence _ items => canMergeAll items
    | .enclosing kind => kind = .mapping
    | .scalar .. => false
  /-- All nodes to be merged are mappings. -/
  canMergeAll : List Node → Bool
    | [] => true
    | .mapping _ entries :: rest => canMerge entries && canMergeAll rest
    | .enclosing kind :: rest => kind = .mapping && canMergeAll rest
    | _ => false

/-- The keys of a mapping with their values. -/
def putAll (entries : List (Value × Value)) : List (Value × Value) := Table.ofEntries entries

mutual

/-- The value of a node at a level. -/
def build (level : Nat) : Node → Ranked Value
  | .enclosing kind => .ok (.enclosing kind)
  | .scalar t s =>
    if t.isCollection then .error (level + 1, .malformed)
    else (scalarValue t s).mapError (level, ·)
  | .sequence t items =>
    match t with
    | .sequence => (buildItems (level + 1) items).map .list
    | .pairs | .orderedMapping => (buildPairs (level + 1) items).map .list
    | .mapping | .set => .error (level + 1, .malformed)
    | _ => .error (level, .malformed)
  | .mapping t entries =>
    match t with
    | .mapping => (buildEntries (level + 1) entries).map .mapping
    | .set => (buildEntries (level + 1) entries).map fun es => .set (es.map (·.1))
    | .sequence | .pairs | .orderedMapping => .error (level + 1, .malformed)
    | t =>
      match textIn entries with
      | some s =>
        -- A date is read off the node itself, which is no text.
        if t = .timestamp then .error (level, .scalar .dateMapping)
        else (scalarValue t s).mapError (level, ·)
      | none => .error (level, .malformed)

/-- The values of the items of a list. -/
def buildItems (level : Nat) : List Node → Ranked (List Value)
  | [] => .ok []
  | n :: rest => Ranked.both (· :: ·) (build level n) (buildItems level rest)

/-- The values of the items of a list of pairs: mappings with one entry each. -/
def buildPairs (level : Nat) : List Node → Ranked (List Value)
  | [] => .ok []
  | .mapping _ [(k, v)] :: rest =>
    Ranked.both (· :: ·) (Ranked.both .pair (build level k) (build level v)) (buildPairs level rest)
  | _ => .error (level, .malformed)

/-- The values of the entries of a mapping, merged ones first. -/
def buildEntries (level : Nat) (entries : List (Node × Node)) : Ranked (List (Value × Value)) :=
  if canMerge entries then
    (Ranked.both (· ++ ·) (buildMerged level entries) (buildOwn level entries)).map putAll
  else .error (level, .malformed)

/-- The entries that are merged into a mapping. -/
def buildMerged (level : Nat) : List (Node × Node) → Ranked (List (Value × Value))
  | [] => .ok []
  | (k, v) :: rest =>
    match k.tag with
    | .merge => Ranked.both (· ++ ·) (buildSource level v) (buildMerged level rest)
    | _ => buildMerged level rest

/-- The entries that a merged node brings: those of a mapping, or of all mappings of a list, where
the last ones come first. -/
def buildSource (level : Nat) : Node → Ranked (List (Value × Value))
  | .mapping _ entries =>
    Ranked.both (· ++ ·) (buildMerged level entries) (buildOwn level entries)
  | .sequence _ items => buildSources level items
  | _ => .ok []

/-- The entries of all mappings of a list, where the last ones come first. -/
def buildSources (level : Nat) : List Node → Ranked (List (Value × Value))
  | [] => .ok []
  | .mapping _ entries :: rest =>
    Ranked.both (· ++ ·) (buildSources level rest)
      (Ranked.both (· ++ ·) (buildMerged level entries) (buildOwn level entries))
  | _ :: rest => buildSources level rest

/-- The entries that a mapping has itself. No collection can be a key. -/
def buildOwn (level : Nat) : List (Node × Node) → Ranked (List (Value × Value))
  | [] => .ok []
  | (k, v) :: rest =>
    match k.tag with
    | .merge => buildOwn level rest
    | t =>
      let key : Ranked Value :=
        if t.isCollection then .error (level, .malformed)
        else if t = .value then
          match k with
          | .scalar _ s => .ok (.text s)
          | _ => .error (level, .malformed)
        else build level k
      Ranked.both (· :: ·) (Ranked.both (·, ·) key (build level v)) (buildOwn level rest)

end

/-- The value that a node stands for. -/
def ofNode (n : Node) : Except ReadFault Value := (build 0 n).mapError (·.2)

end Value

/-- The value of the document that a text holds. A text without a document stands for nothing. -/
def read (text : List Char) : Except ReadFault Value := do
  match ← Node.ofTokens? (tokens text) with
  | some n => Value.ofNode n
  | none => return .nothing

end PhoneticCatalog.Document
