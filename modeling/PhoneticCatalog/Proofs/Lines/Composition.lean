import PhoneticCatalog.Proofs.Lines.Blocks
import PhoneticCatalog.Proofs.Lines.Reading
import PhoneticCatalog.Proofs.Text.Line
import PhoneticCatalog.Proofs.Writing.Agreement

/-!
# Texts put together

A text that goes on where another one ends has the lines of both, if the first one ends with a
terminator that does not run on into the second one. Its lines are then read as those of the parts,
unless a block comment is left open in between; what is said about a line of the second part names
the number it has in the whole (`parse_append`).

Only lines of the text itself get other numbers: it is an open catalog, and so no included one can
have its name (`Loader.visit_raises`).
-/

namespace PhoneticCatalog.Catalog

/-! ## Raised line numbers -/

section Raised

variable (name : List Char) (k : Nat)

/-- The number of a line, raised by `k` if it is a line of the catalog of the given name. -/
def raisedIn (catalog : List Char) (number : Nat) : Nat :=
  if catalog = name then number + k else number

/-- The diagnostic with a raised line number. -/
def Diagnostic.raised (d : Diagnostic) : Diagnostic :=
  { d with line := raisedIn name k d.source d.line }

/-- The error with a raised line number, if it names a line. -/
def LoadError.raised : LoadError → LoadError
  | .format catalog (.context (.line number) e) =>
    .format catalog (.context (.line (raisedIn name k catalog number)) e)
  | e => e

variable {name k}

/-- Line numbers of the catalog itself are raised. -/
theorem raisedIn_self (number : Nat) : raisedIn name k name number = number + k := if_pos rfl

/-- Line numbers of other catalogs stay as they are. -/
theorem raisedIn_of_ne {catalog : List Char} (h : catalog ≠ name) (number : Nat) :
    raisedIn name k catalog number = number := if_neg h

/-- Raised line numbers go on one by one. -/
theorem raisedIn_succ (catalog : List Char) (number : Nat) :
    raisedIn name k catalog (number + 1) = raisedIn name k catalog number + 1 := by
  rw [raisedIn, raisedIn]
  split
  · exact Nat.add_right_comm number 1 k
  · rfl

/-- An error of a context names the raised line. -/
theorem LoadError.raised_ofContext (catalog : List Char) (number : Nat) (e : ContextError) :
    (ofContext catalog (.line number) e).raised name k =
      ofContext catalog (.line (raisedIn name k catalog number)) e := by
  rw [ofContext, ofContext]
  split <;> rfl

end Raised

namespace Walk

/-- The second walk is the first one with raised line numbers, events and requests aside. -/
structure Raises {α : Type} (name : List Char) (k : Nat) (v w : Walk α) : Prop where
  result : w.result = v.result.mapError (·.raised name k)
  diagnostics : w.trace.diagnostics = v.trace.diagnostics.map (·.raised name k)
  counters : w.trace.counters = v.trace.counters

namespace Raises

variable {α β : Type} {name : List Char} {k : Nat} {v w : Walk α}

/-- What comes after walks that differ in line numbers may differ in them as well. -/
theorem bind {f g : α → Walk β} (h : v.Raises name k w) (hf : ∀ a, (f a).Raises name k (g a)) :
    (v >>= f).Raises name k (w >>= g) := by
  have hresult := h.result
  cases hv : v.result with
  | error e =>
    rw [hv] at hresult
    rw [bind_of_error hv, bind_of_error hresult]
    exact ⟨rfl, h.diagnostics, h.counters⟩
  | ok a =>
    rw [hv] at hresult
    rw [bind_of_ok hv, bind_of_ok hresult]
    refine ⟨(hf a).result, ?_, ?_⟩
    · rw [Trace.diagnostics_append, Trace.diagnostics_append, List.map_append, h.diagnostics,
        (hf a).diagnostics]
    · rw [Trace.counters_append, Trace.counters_append, h.counters, (hf a).counters]

/-- A mere result names no line. -/
theorem pure (a : α) : (Pure.pure a : Walk α).Raises name k (Pure.pure a) := ⟨rfl, rfl, rfl⟩

end Raises

end Walk

/-! ## Runs with raised line numbers -/

namespace Loader

variable {name : List Char} {k : Nat}

section Lines

variable {L : Loader Rule} {splice : List Char → Walk (List Rule)}

/-- A line with a raised number is read like the line, where the walks of included catalogs are not
touched by that. -/
theorem readAs_raises (hsplice : ∀ b, (splice b).Raises name k (splice b)) (catalog : List Char)
    (number : Nat) (raw : List Char) (role : Option LineContent) :
    (L.readAs splice catalog number raw role).Raises name k
      (L.readAs splice catalog (raisedIn name k catalog number) raw role) := by
  rcases role with _ | _ | b | ⟨pattern, left, right, phoneme⟩ | problem
  · exact ⟨rfl, rfl, rfl⟩
  · exact ⟨rfl, rfl, rfl⟩
  · exact .bind ⟨rfl, rfl, rfl⟩ fun _ => hsplice b
  · refine ⟨?_, rfl, rfl⟩
    rw [readAs, readAs]
    cases Rule.ofFields { pattern, left, right, phoneme } with
    | ok r => rfl
    | error e => exact congrArg Except.error (LoadError.raised_ofContext catalog number e).symm
  · exact ⟨rfl, rfl, rfl⟩

/-- Lines that are read further down report raised line numbers. -/
theorem readLines_raises (hsplice : ∀ b, (splice b).Raises name k (splice b))
    (catalog : List Char) (inBlock : Bool) (number : Nat) (lines : List (List Char)) :
    (L.readLines splice catalog inBlock number lines).Raises name k
      (L.readLines splice catalog inBlock (raisedIn name k catalog number) lines) := by
  induction lines generalizing inBlock number with
  | nil => exact .pure []
  | cons raw rest ih =>
    rw [readLines, readLines, ← raisedIn_succ]
    apply Walk.Raises.bind (readAs_raises hsplice catalog number raw _)
    intro own
    apply Walk.Raises.bind (ih _ _)
    intro others
    exact .pure _

end Lines

/-- Visits are not touched by raised line numbers of a catalog that is open already. -/
theorem visit_raises (source : Source) (depth : ℕ+) (room : Nat) {stack : List (List Char)}
    (h : name ∈ stack) (catalog : List Char) :
    ((ofKind .text source depth).visit room stack catalog).Raises name k
      ((ofKind .text source depth).visit room stack catalog) := by
  -- The name of the text is open throughout, so that none of its own lines are read in a visit.
  refine visit_induction _
    (motive := fun _ stack _ w => name ∈ stack → w.Raises name k w) ?cycle ?full ?refused ?run
    room stack catalog h
  case cycle => exact fun _ _ _ _ _ => ⟨rfl, rfl, rfl⟩
  case full => exact fun _ _ _ _ => ⟨rfl, rfl, rfl⟩
  case refused => exact fun _ _ _ _ _ _ _ => ⟨rfl, rfl, rfl⟩
  case run =>
    intro room stack catalog text hmem _ ih h
    have hne : catalog ≠ name := fun heq => hmem (heq ▸ h)
    have hlines := readLines_raises (L := ofKind .text source depth)
      (fun b => ih b (List.mem_append_left [catalog] h)) catalog false 1 (Text.splitLines text)
    rw [raisedIn_of_ne hne, ← runSteps_text] at hlines
    apply Walk.Raises.bind ⟨rfl, rfl, rfl⟩
    intro _
    apply Walk.Raises.bind ⟨rfl, rfl, rfl⟩
    intro _
    exact hlines

/-! ## Parses of texts put together -/

/-- The walk of the lines of a text that stands for a catalog, from a number on. -/
def readText (source : Source) (depth : ℕ+) (name : List Char) (number : Nat) (text : List Char) :
    Walk (List Rule) :=
  (ofKind .text source depth).readLines ((ofKind .text source depth).visit (depth - 1) [name]) name
    false number (Text.splitLines text)

variable {source : Source} {depth : ℕ+} {text : List Char}

/-- A text is parsed by reading its lines from the first one on. -/
theorem parse_text_alike (source : Source) (depth : ℕ+) (text name : List Char) :
    ((ofKind .text source depth).parse text name).Alike (readText source depth name 1 text) := by
  rw [readText, ← runSteps_text]
  exact parse_alike .text source depth text name

/-- A parse counts what its lines count, its own text and its results. -/
theorem parse_text_counters {rules : List Rule}
    (h : (readText source depth name 1 text).result = .ok rules) :
    ((ofKind .text source depth).parse text name).trace.counters =
      { ({ catalogs := 1 } : Counters) + (readText source depth name 1 text).trace.counters with
        rules := rules.length
        diagnostics := (readText source depth name 1 text).trace.diagnostics.length } := by
  rw [readText, ← runSteps_text] at h ⊢
  exact finish_counters_of_ok _ name h

/-- Lines are read like lines with lower numbers. -/
theorem readText_raises (source : Source) (depth : ℕ+) (name : List Char) (k : Nat)
    (text : List Char) :
    (readText source depth name 1 text).Raises name k
      (readText source depth name (1 + k) text) := by
  rw [readText, readText, ← raisedIn_self]
  exact readLines_raises (visit_raises source depth _ (List.mem_singleton_self name)) name _ _ _

end Loader

/-- Some lines leave a block comment open: one of them opens it, and no later one ends it. -/
def LeavesBlockOpen (lines : List (List Char)) : Prop :=
  ∃ i, i < lines.length ∧ OpensBlock lines i ∧ StillOpen lines i lines.length

/-- Lines leave a block open if their last state is that of a block comment. -/
theorem leavesBlockOpen_iff {lines : List (List Char)} :
    LeavesBlockOpen lines ↔ lines.foldl blockAfter false = true := by
  rw [LeavesBlockOpen, ← foldl_blockAfter_iff le_rfl, List.take_length]

instance (lines : List (List Char)) : Decidable (LeavesBlockOpen lines) :=
  decidable_of_iff _ leavesBlockOpen_iff.symm

/-- The lines of the whole are read as those of its parts. -/
theorem Loader.readText_append {source : Source} {depth : ℕ+} {name first second : List Char}
    (hends : Text.IsTerminated first) (hseam : ¬ Text.MeetInTerminator first second)
    (hclosed : ¬ LeavesBlockOpen (Text.splitLines first)) :
    readText source depth name 1 (first ++ second) = do
      let rules ← readText source depth name 1 first
      let others ← readText source depth name (1 + (Text.splitLines first).length) second
      return rules ++ others := by
  rw [leavesBlockOpen_iff, Bool.not_eq_true] at hclosed
  rw [readText, Text.splitLines_append_of_isTerminated hends hseam, readLines_append, hclosed]
  rfl

/-- A text is parsed like its parts, one after the other, if the first part is terminated and leaves
no block comment open. An error of the first part ends the whole, and then an error of the second
one does. If there is none, the rules of both parts follow one another, and so do their diagnostics;
the counters add up, but for the catalog of the text itself, which is counted once. Line numbers of
the second part are raised by the number of lines of the first one, and those of included catalogs
stay. -/
theorem parse_append (source : Source) (depth : ℕ+) (name first second : List Char)
    (hends : Text.IsTerminated first) (hseam : ¬ Text.MeetInTerminator first second)
    (hclosed : ¬ LeavesBlockOpen (Text.splitLines first)) :
    let L := Loader.ofKind .text source depth
    let k := (Text.splitLines first).length
    (∀ e, (L.parse first name).result = .error e →
      (L.parse (first ++ second) name).result = .error e) ∧
    (∀ rules e, (L.parse first name).result = .ok rules → (L.parse second name).result = .error e →
      (L.parse (first ++ second) name).result = .error (e.raised name k)) ∧
    ∀ rules others, (L.parse first name).result = .ok rules →
      (L.parse second name).result = .ok others →
      (L.parse (first ++ second) name).result = .ok (rules ++ others) ∧
      (L.parse (first ++ second) name).trace.diagnostics =
        (L.parse first name).trace.diagnostics ++
          (L.parse second name).trace.diagnostics.map (·.raised name k) ∧
      (L.parse (first ++ second) name).trace.counters + ({ catalogs := 1 } : Counters) =
        (L.parse first name).trace.counters + (L.parse second name).trace.counters := by
  intro L k
  have hboth := Loader.parse_text_alike source depth (first ++ second) name
  have hfirst := Loader.parse_text_alike source depth first name
  have hsecond := Loader.parse_text_alike source depth second name
  have hraises := Loader.readText_raises source depth name k second
  have hresult := hraises.result
  have happend : Loader.readText source depth name 1 (first ++ second) = _ :=
    Loader.readText_append hends hseam hclosed
  refine ⟨fun e he => ?_, fun rules e hrules he => ?_, fun rules others hrules hothers => ?_⟩
  · rw [hfirst.result] at he
    rw [hboth.result, happend, Walk.bind_of_error he]
  · rw [hfirst.result] at hrules
    rw [← hsecond.result, he] at hresult
    rw [hboth.result, happend, Walk.bind_of_ok hrules, Walk.bind_of_error hresult]
  · have hothers' := hsecond.result.symm.trans hothers
    have hrules' := hfirst.result.symm.trans hrules
    rw [hothers'] at hresult
    -- If both succeed, the whole is the one run behind the other.
    have hwhole : Loader.readText source depth name 1 (first ++ second) =
        ⟨(Loader.readText source depth name 1 first).trace ++
          (Loader.readText source depth name (1 + k) second).trace, .ok (rules ++ others)⟩ := by
      rw [happend, Walk.bind_of_ok hrules', Walk.bind_of_ok hresult, Walk.pure_eq,
        Trace.append_empty]
    have hok : (Loader.readText source depth name 1 (first ++ second)).result =
        .ok (rules ++ others) := congrArg Walk.result hwhole
    refine ⟨hboth.result.trans hok, ?_, ?_⟩
    · rw [hboth.diagnostics, hfirst.diagnostics, hsecond.diagnostics, hwhole,
        Trace.diagnostics_append, hraises.diagnostics]
    · rw [Loader.parse_text_counters hok, Loader.parse_text_counters hrules',
        Loader.parse_text_counters hothers', hwhole]
      simp only [Trace.counters_append, Trace.diagnostics_append, hraises.counters,
        hraises.diagnostics, List.length_append, List.length_map, Counters.add_eq]
      rw [Counters.mk.injEq]
      omega

/-- Two texts with a malformed line each, where the second diagnostic moves down by one line. -/
theorem parse_append_malformed_lines :
    Text.IsTerminated "x\n".toList ∧ ¬ Text.MeetInTerminator "x\n".toList "y".toList ∧
    ¬ LeavesBlockOpen (Text.splitLines "x\n".toList) ∧
    ((Loader.ofKind .text (.ofList []) 1).parse "x\ny".toList ['n']).trace.diagnostics =
      [⟨['n'], 1, .rule 1, ['x']⟩, ⟨['n'], 2, .rule 1, ['y']⟩] := by
  have hends : Text.IsTerminated "x\n".toList := by decide
  have hseam : ¬ Text.MeetInTerminator "x\n".toList "y".toList := by decide
  have hclosed : ¬ LeavesBlockOpen (Text.splitLines "x\n".toList) := by decide +kernel
  obtain ⟨-, -, hboth⟩ :=
    parse_append (.ofList []) 1 ['n'] "x\n".toList "y".toList hends hseam hclosed
  obtain ⟨-, hdiagnostics, -⟩ := hboth [] [] rfl rfl
  refine ⟨hends, hseam, hclosed, hdiagnostics.trans ?_⟩
  decide +kernel

end PhoneticCatalog.Catalog
