import PhoneticCatalog.Document.Node
import PhoneticCatalog.Document.Token

/-!
# Nodes of tokens

`Node.ofTokens?` puts the tokens of a document together to its root node. Where a node may stand and
none does, there is an empty plain scalar. An alias is replaced by the node with its anchor. The
functions that call each other carry a bound on their depth, for which twice the number of tokens is
enough.
-/

namespace PhoneticCatalog.Document

/-- What is known on the way: the meanings of handles, and the nodes with an anchor. A node that is
not complete yet is known by its kind. -/
structure Known where
  handles : List (List Char × List Char) := []
  anchors : List (List Char × Node) := []

namespace Known

/-- The meanings of handles that no directive has to give. -/
def givenHandles : List (List Char × List Char) :=
  [(['!'], ['!']), (['!', '!'], Tag.commonStart)]

end Known

namespace Node

/-- The result of reading something: it, what is known now, and the tokens that are left. -/
structure Parsed (α : Type) where
  result : α
  known : Known
  rest : List Token

/-- The fault of tokens that do not go on as they should. -/
def unexpected : List Token → ReadFault
  | .unreadable f :: _ => f
  | _ => .malformed

/-- What stands before the content of a node. The tag is known by its name. -/
structure Properties where
  anchor : Option (List Char) := none
  tag : Option (List Char) := none

/-- The full name of a tag. -/
def tagName (k : Known) (handle : Option (List Char)) (rest : List Char) :
    Except ReadFault (List Char) :=
  match handle with
  | none => .ok rest
  | some h =>
    match k.handles.lookup h with
    | some meaning => .ok (meaning ++ rest)
    | none => .error .malformed

/-- The anchor and the tag before a node, in either order, each at most once. -/
def properties (k : Known) : List Token → Except ReadFault (Properties × List Token)
  | .anchor a :: .tag h s :: rest => do return (⟨some a, some (← tagName k h s)⟩, rest)
  | .tag h s :: .anchor a :: rest => do return (⟨some a, some (← tagName k h s)⟩, rest)
  | .anchor a :: rest => .ok (⟨some a, none⟩, rest)
  | .tag _ _ :: .unreadable f :: _ => .error f
  | .tag h s :: rest => do return (⟨none, some (← tagName k h s)⟩, rest)
  | rest => .ok ({}, rest)

/-- The tag of a node, where a lone exclamation mark is as good as none. -/
def Properties.tagOr (p : Properties) (default : Tag) : Tag :=
  match p.tag with
  | none => default
  | some ['!'] => default
  | some name => Tag.ofName name

/-- The scalar with some properties. A lone exclamation mark makes it plain. -/
def scalarOf (p : Properties) (isPlain : Bool) (text : List Char) : Node :=
  .scalar (p.tagOr (if isPlain || p.tag = some ['!'] then Tag.ofPlain text else .text)) text

/-- The node that stands where there is none. -/
def empty : Node := .scalar .nothing []

/-- A node with an anchor is known from now on. An anchor stands for one node only. -/
def declare (k : Known) (p : Properties) (n : Node) : Except ReadFault Known :=
  match p.anchor with
  | none => .ok k
  | some a =>
    if (k.anchors.lookup a).isSome then .error .malformed
    else .ok { k with anchors := (a, n) :: k.anchors }

/-- The node with an anchor is complete. -/
def complete (k : Known) (p : Properties) (n : Node) : Known :=
  match p.anchor with
  | none => k
  | some a => { k with anchors := (a, n) :: k.anchors }

/-- Where a node stands, which decides how it may be written. -/
inductive Site where
  /-- Within a flow collection. -/
  | flow
  /-- Within a block. -/
  | block
  /-- Behind the sign of a key or a value in a block, where the items of a sequence may stand in the
  same column. -/
  | entry
  deriving DecidableEq, Repr

/-- No node follows in a block mapping. -/
def endsEntry : List Token → Bool
  | .key :: _ | .value :: _ | .blockEnd :: _ => true
  | _ => false

/-- No node follows in a block sequence. -/
def endsItem : List Token → Bool
  | .blockEntry :: _ | .blockEnd :: _ => true
  | _ => false

/-- No node follows within the given end of a flow collection. -/
def endsFlow (close : Token) : List Token → Bool
  | t :: _ => t = .flowEntry || t = close
  | [] => false

mutual

/-- A node. -/
def parse (site : Site) : (bound : Nat) → Known → List Token → Except ReadFault (Parsed Node)
  | 0, _, _ => .error .malformed
  | bound + 1, k, tokens => do
    match tokens with
    | .alias a :: rest =>
      match k.anchors.lookup a with
      | some n => return ⟨n, k, rest⟩
      | none => throw .malformed
    | _ =>
    let (p, tokens) ← properties k tokens
    let sequence (read : Known → Except ReadFault (Parsed (List Node))) :
        Except ReadFault (Parsed Node) := do
      let r ← read (← declare k p (.enclosing .sequence))
      let n := Node.sequence (p.tagOr .sequence) r.result
      return ⟨n, complete r.known p n, r.rest⟩
    let mapping (read : Known → Except ReadFault (Parsed (List (Node × Node)))) :
        Except ReadFault (Parsed Node) := do
      let r ← read (← declare k p (.enclosing .mapping))
      let n := Node.mapping (p.tagOr .mapping) r.result
      return ⟨n, complete r.known p n, r.rest⟩
    let scalar (isPlain : Bool) (text : List Char) (rest : List Token) :
        Except ReadFault (Parsed Node) := do
      let n := scalarOf p isPlain text
      return ⟨n, ← declare k p n, rest⟩
    match tokens with
    | .scalar isPlain text :: rest => scalar isPlain text rest
    | .flowSequenceStart :: rest => sequence fun k => flowItems bound true k rest
    | .flowMappingStart :: rest => mapping fun k => flowEntries bound true k rest
    | .blockEntry :: rest =>
      if site = .entry then sequence fun k => looseItems bound k (.blockEntry :: rest)
      else if p.anchor.isSome || p.tag.isSome then scalar p.tag.isNone [] (.blockEntry :: rest)
      else throw .malformed
    | .blockSequenceStart :: rest =>
      if site ≠ .flow then sequence fun k => blockItems bound k rest
      else if p.anchor.isSome || p.tag.isSome then
        scalar p.tag.isNone [] (.blockSequenceStart :: rest)
      else throw .malformed
    | .blockMappingStart :: rest =>
      if site ≠ .flow then mapping fun k => blockEntries bound k rest
      else if p.anchor.isSome || p.tag.isSome then
        scalar p.tag.isNone [] (.blockMappingStart :: rest)
      else throw .malformed
    | .unreadable f :: _ => throw f
    | rest =>
      if p.anchor.isSome || p.tag.isSome then scalar p.tag.isNone [] rest
      else throw .malformed

/-- A node, or an empty one where there is none. -/
def parseUnless (site : Site) (isEmpty : Bool) :
    (bound : Nat) → Known → List Token → Except ReadFault (Parsed Node)
  | 0, _, _ => .error .malformed
  | bound + 1, k, tokens =>
    if isEmpty then .ok ⟨empty, k, tokens⟩ else parse site bound k tokens

/-- The items of a block sequence. -/
def blockItems : (bound : Nat) → Known → List Token → Except ReadFault (Parsed (List Node))
  | 0, _, _ => .error .malformed
  | bound + 1, k, tokens => do
    match tokens with
    | .blockEntry :: rest =>
      let item ← parseUnless .block (endsItem rest) bound k rest
      let more ← blockItems bound item.known item.rest
      return { more with result := item.result :: more.result }
    | .blockEnd :: rest => return ⟨[], k, rest⟩
    | rest => throw (unexpected rest)

/-- The items of a sequence in the same column as the mapping around it. -/
def looseItems : (bound : Nat) → Known → List Token → Except ReadFault (Parsed (List Node))
  | 0, _, _ => .error .malformed
  | bound + 1, k, tokens => do
    match tokens with
    | .blockEntry :: rest =>
      let item ← parseUnless .block (endsItem rest || endsEntry rest) bound k rest
      let more ← looseItems bound item.known item.rest
      return { more with result := item.result :: more.result }
    | rest => return ⟨[], k, rest⟩

/-- The entries of a block mapping. -/
def blockEntries :
    (bound : Nat) → Known → List Token → Except ReadFault (Parsed (List (Node × Node)))
  | 0, _, _ => .error .malformed
  | bound + 1, k, tokens => do
    match tokens with
    | .key :: rest =>
      let key ← parseUnless .entry (endsEntry rest) bound k rest
      blockValue bound key.result key.known key.rest
    | .blockEnd :: rest => return ⟨[], k, rest⟩
    | rest => throw (unexpected rest)

/-- The entries of a block mapping from the value of a key on. -/
def blockValue : (bound : Nat) → (key : Node) → Known → List Token →
    Except ReadFault (Parsed (List (Node × Node)))
  | 0, _, _, _ => .error .malformed
  | bound + 1, key, k, tokens => do
    let value ← match tokens with
      | .value :: rest => parseUnless .entry (endsEntry rest) bound k rest
      | rest => .ok ⟨empty, k, rest⟩
    let more ← blockEntries bound value.known value.rest
    return { more with result := (key, value.result) :: more.result }

/-- The items of a flow sequence; `first` if none was read yet. A key stands for a mapping with one
entry. -/
def flowItems : (bound : Nat) → (first : Bool) → Known → List Token →
    Except ReadFault (Parsed (List Node))
  | 0, _, _, _ => .error .malformed
  | bound + 1, first, k, tokens => do
    match tokens with
    | .flowSequenceEnd :: rest => return ⟨[], k, rest⟩
    | _ =>
    let tokens ← match first, tokens with
      | true, rest => .ok rest
      | false, .flowEntry :: rest => .ok rest
      | false, rest => .error (unexpected rest)
    match tokens with
    | .flowSequenceEnd :: rest => return ⟨[], k, rest⟩
    | .key :: rest =>
      let item ← flowPair bound .flowSequenceEnd k rest
      let more ← flowItems bound false item.known item.rest
      return { more with result := Node.mapping .mapping [item.result] :: more.result }
    | rest =>
      let item ← parse .flow bound k rest
      let more ← flowItems bound false item.known item.rest
      return { more with result := item.result :: more.result }

/-- An entry within a flow collection, behind the sign of its key. -/
def flowPair : (bound : Nat) → (close : Token) → Known → List Token →
    Except ReadFault (Parsed (Node × Node))
  | 0, _, _, _ => .error .malformed
  | bound + 1, close, k, tokens => do
    let noKey := tokens.head? = some .value || endsFlow close tokens
    let key ← parseUnless .flow noKey bound k tokens
    match key.rest with
    | .value :: rest =>
      let value ← parseUnless .flow (endsFlow close rest) bound key.known rest
      return ⟨(key.result, value.result), value.known, value.rest⟩
    | rest => return ⟨(key.result, empty), key.known, rest⟩

/-- The entries of a flow mapping; `first` if none was read yet. A node without the sign of a key is
a key without a value. -/
def flowEntries : (bound : Nat) → (first : Bool) → Known → List Token →
    Except ReadFault (Parsed (List (Node × Node)))
  | 0, _, _, _ => .error .malformed
  | bound + 1, first, k, tokens => do
    match tokens with
    | .flowMappingEnd :: rest => return ⟨[], k, rest⟩
    | _ =>
    let tokens ← match first, tokens with
      | true, rest => .ok rest
      | false, .flowEntry :: rest => .ok rest
      | false, rest => .error (unexpected rest)
    match tokens with
    | .flowMappingEnd :: rest => return ⟨[], k, rest⟩
    | .key :: rest =>
      let entry ← flowPair bound .flowMappingEnd k rest
      let more ← flowEntries bound false entry.known entry.rest
      return { more with result := entry.result :: more.result }
    | rest =>
      let key ← parse .flow bound k rest
      let more ← flowEntries bound false key.known key.rest
      return { more with result := (key.result, empty) :: more.result }

end

/-! ## Documents -/

/-- The directives before a document. Each of them may be given once, and the version has to be a
known one. -/
def directives (version : Bool) (k : Known) : List Token → Except ReadFault (Known × List Token)
  | .directive (.version major _) :: rest =>
    if version || major ≠ 1 then .error .malformed else directives true k rest
  | .directive (.handle name meaning) :: rest =>
    if (k.handles.lookup name).isSome then .error .malformed
    else directives version { k with handles := (name, meaning) :: k.handles } rest
  | .directive .other :: rest => directives version k rest
  | rest => .ok ({ k with handles := k.handles ++ Known.givenHandles }, rest)

/-- Nothing follows the start of a document. -/
def endsDocument : List Token → Bool
  | [] | .directive _ :: _ | .documentStart :: _ | .documentEnd :: _ => true
  | _ => false

/-- The node of a document that is announced, behind its announcement. -/
def announced (bound : Nat) (k : Known) (tokens : List Token) :
    Except ReadFault (Node × List Token) :=
  if endsDocument tokens then .ok (empty, tokens)
  else do
    let r ← parse .block bound k tokens
    return (r.result, r.rest)

/-- The only document of some tokens; nothing if there is none. -/
def ofTokens? (tokens : List Token) : Except ReadFault (Option Node) := do
  let bound := 3 * tokens.length + 3
  let (node, rest) ← match tokens with
    | [] => return none
    | .directive _ :: _ | .documentStart :: _ => do
      let (k, rest) ← directives false {} tokens
      match rest with
      | .documentStart :: rest => announced bound k rest
      | rest => throw (unexpected rest)
    | _ => do
      let r ← parse .block bound { handles := Known.givenHandles } tokens
      pure (r.result, r.rest)
  match rest.dropWhile (· = .documentEnd) with
  | [] => return some node
  | rest => do
    -- The directives of a second document are read before it is refused.
    let (_, rest) ← directives false {} rest
    throw (unexpected rest)

end Node

end PhoneticCatalog.Document
