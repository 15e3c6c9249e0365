import PhoneticCatalog.Proofs.Inclusion.Visit
import PhoneticCatalog.Proofs.Writing.Documents

/-!
# Texts and documents agree

A family of catalogs can be held as texts, with a line for each entry, or as documents that list the
entries. A load from the texts and a load from the documents then give the same rules, or end in
errors that match: only the place of a rule whose context cannot be read is given in another way
(`LoadError.Matches`). They ask for the same catalogs and count the same catalogs and includes
(`texts_and_documents_agree`).

Both loaders carry out the steps of the same entries, the one of them line by line and the other
after its whole document was checked. `Loader.runSteps_matches` is the induction on the entries and
`Loader.visit_matches` the one on the room that is left for further catalogs.
-/

namespace PhoneticCatalog.Catalog

open Document (Value)

/-- The errors are the same, or are that of one rule whose context cannot be read: it stands on a
line of a text, counted from one, and is an entry of a document, counted from zero. -/
inductive LoadError.Matches : LoadError → LoadError → Prop where
  | same (e : LoadError) : Matches e e
  | context (catalog : List Char) (number : Nat) (error : ContextError) :
      Matches (.format catalog (.context (.line (number + 1)) error))
        (.format catalog (.context (.entry number) error))

/-- The error of a context in a line matches that in the entry of the same number. -/
theorem LoadError.ofContext_matches (catalog : List Char) (number : Nat) (error : ContextError) :
    (ofContext catalog (.line (number + 1)) error).Matches
      (ofContext catalog (.entry number) error) := by
  unfold ofContext
  split
  · exact .same _
  · exact .same _
  · exact .context catalog number error

namespace Walk

variable {α β : Type}

/-- The walks have the same result or errors that match, have asked for the same catalogs, and have
counted as many catalogs and includes. -/
structure Matches (v w : Walk α) : Prop where
  result : (∃ a, v.result = .ok a ∧ w.result = .ok a) ∨
    ∃ e e', v.result = .error e ∧ w.result = .error e' ∧ e.Matches e'
  opened : v.trace.opened = w.trace.opened
  catalogs : v.trace.counters.catalogs = w.trace.counters.catalogs
  includes : v.trace.counters.includes = w.trace.counters.includes

namespace Matches

/-- A walk matches itself. -/
theorem refl (w : Walk α) : Matches w w := by
  refine ⟨?_, rfl, rfl, rfl⟩
  cases h : w.result with
  | ok a => exact Or.inl ⟨a, rfl, rfl⟩
  | error e => exact Or.inr ⟨e, e, rfl, rfl, .same e⟩

/-- Failures with errors that match do match. -/
theorem fail {e e' : LoadError} (h : e.Matches e') : Matches (fail e : Walk α) (fail e') :=
  ⟨Or.inr ⟨e, e', rfl, rfl, h⟩, rfl, rfl, rfl⟩

/-- Traces match that tell of the same catalogs. -/
theorem leave {t t' : Trace} (opened : t.opened = t'.opened)
    (catalogs : t.counters.catalogs = t'.counters.catalogs)
    (includes : t.counters.includes = t'.counters.includes) : Matches (leave t) (leave t') :=
  ⟨Or.inl ⟨(), rfl, rfl⟩, opened, catalogs, includes⟩

/-- What comes after walks that match goes on to match. -/
theorem bind {v w : Walk α} {f g : α → Walk β} (h : Matches v w) (hf : ∀ a, Matches (f a) (g a)) :
    Matches (v >>= f) (w >>= g) := by
  rcases h.result with ⟨a, hv, hw⟩ | ⟨e, e', hv, hw, he⟩
  · rw [bind_of_ok hv, bind_of_ok hw]
    refine ⟨(hf a).result, ?_, ?_, ?_⟩
    · rw [Trace.opened_append, Trace.opened_append, h.opened, (hf a).opened]
    · rw [Trace.counters_append, Trace.counters_append]
      exact congrArg₂ (· + ·) h.catalogs (hf a).catalogs
    · rw [Trace.counters_append, Trace.counters_append]
      exact congrArg₂ (· + ·) h.includes (hf a).includes
  · rw [bind_of_error hv, bind_of_error hw]
    exact ⟨Or.inr ⟨e, e', rfl, rfl, he⟩, h.opened, h.catalogs, h.includes⟩

end Matches

end Walk

namespace Loader

section

variable {L L' : Loader Rule} {splice splice' : List Char → Walk (List Rule)}
  {steps : List (Step Rule)} {w : Walk (List Rule)}

/-- It does not matter how many lines are counted. -/
theorem runSteps_tally_matches (h : (L.runSteps splice steps).Matches w) (lines comments : Nat) :
    (L.runSteps splice (.tally lines comments :: steps)).Matches w := by
  have hleave : (Walk.leave { counters := { lines, comments } }).Matches (pure ()) :=
    .leave rfl rfl rfl
  have hbind := hleave.bind (f := fun _ => L.runSteps splice steps) (g := fun _ => w) fun _ => h
  rwa [pure_bind] at hbind

/-- Counting lines makes no difference. -/
theorem matches_runSteps_tally (h : w.Matches (L.runSteps splice steps)) (lines comments : Nat) :
    w.Matches (L.runSteps splice (.tally lines comments :: steps)) := by
  have hleave : Walk.Matches (pure ()) (Walk.leave { counters := { lines, comments } }) :=
    .leave rfl rfl rfl
  have hbind := hleave.bind (f := fun _ => w) (g := fun _ => L.runSteps splice steps) fun _ => h
  rwa [pure_bind] at hbind

/-- The steps of an entry match, on a line and in a document. -/
theorem runStep_matches (h : ∀ name, (splice name).Matches (splice' name)) (catalog : List Char)
    (number : Nat) (e : Entry) :
    (L.runStep splice (e.step catalog (.line (number + 1)))).Matches
      (L'.runStep splice' (e.step catalog (.entry number))) := by
  rcases e with fields | name
  · rw [Entry.step, Entry.step, Step.ofFields, Step.ofFields]
    cases Rule.ofFields fields with
    | ok r => exact .refl _
    | error e => exact .fail (LoadError.ofContext_matches catalog number e)
  · exact .bind (.refl _) fun _ => h name

/-- The runs of all entries match. -/
theorem runSteps_matches (h : ∀ name, (splice name).Matches (splice' name)) (catalog : List Char)
    (number : Nat) {entries : List Entry} (hplain : ∀ e ∈ entries, e.IsPlain) :
    (L.runSteps splice
      (linesSteps catalog false (number + 1) (entries.map Entry.line))).Matches
      (L'.runSteps splice' (entrySteps catalog number entries)) := by
  induction entries generalizing number with
  | nil =>
    rw [List.map_nil, linesSteps, entrySteps]
    exact .refl _
  | cons e rest ih =>
    have hrest := ih (number + 1) fun other hother => hplain other (List.mem_cons_of_mem e hother)
    rw [List.map_cons, linesSteps_cons_line catalog _ (hplain e List.mem_cons_self),
      entrySteps_cons]
    refine runSteps_tally_matches ?_ 1 0
    rw [runSteps_cons, runSteps_cons]
    exact .bind (runStep_matches h catalog number e) fun _ => .bind hrest fun _ => .refl _

/-- Calls that match before their end match afterwards. -/
theorem finish_matches {v w : Walk (List Rule)} (name : List Char) (h : v.Matches w) :
    (L.finish name v).Matches (L'.finish name w) := by
  have hv := L.finish_alike name v
  have hw := L'.finish_alike name w
  obtain ⟨hcatalogs, hincludes⟩ := L.finish_counters name v
  obtain ⟨hcatalogs', hincludes'⟩ := L'.finish_counters name w
  refine ⟨?_, ?_, ?_, ?_⟩
  · rw [hv.result, hw.result]
    exact h.result
  · rw [hv.opened, hw.opened, h.opened]
  · rw [hcatalogs, hcatalogs', h.catalogs]
  · rw [hincludes, hincludes', h.includes]

end

end Loader

/-! ## Families of catalogs -/

/-- Catalogs by their names, each with its entries, or the reason why there is none of a name. -/
abbrev Family := List Char → Except OpenFault (List Entry)

/-- All entries of the catalogs can be written. -/
def Family.IsPlain (family : Family) : Prop :=
  ∀ name entries, family name = .ok entries → ∀ e ∈ entries, e.IsPlain

namespace Source

/-- The source holds the catalogs as texts with a line for each entry. -/
def HoldsTexts (source : Source) (family : Family) : Prop :=
  ∀ name, (source.read name).result = (family name).map writeText

/-- The source holds the catalogs as texts of documents that list the entries. -/
def HoldsDocuments (source : Source) (family : Family) : Prop :=
  ∀ name, match family name with
    | .error fault => (source.read name).result = .error fault
    | .ok entries => ∃ document items, (source.read name).result = .ok document ∧
        Document.read document = .ok (catalogValue items) ∧
        List.Forall₂ Entry.IsWrittenAs entries items

end Source

section Agreement

variable {family : Family} {texts documents : Source} (hplain : family.IsPlain)
  (htexts : texts.HoldsTexts family) (hdocuments : documents.HoldsDocuments family)

include hplain htexts hdocuments

/-- Visits of a catalog match, whatever room is left and whichever catalogs are open. -/
theorem Loader.visit_matches (depth : ℕ+) (room : Nat) (stack : List (List Char))
    (name : List Char) :
    ((ofKind .text texts depth).visit room stack name).Matches
      ((ofKind .document documents depth).visit room stack name) := by
  induction room generalizing stack name with
  | zero =>
    by_cases hmem : name ∈ stack
    · rw [visit_of_mem _ hmem, visit_of_mem _ hmem]
      exact .refl _
    · rw [visit_zero _ hmem, visit_zero _ hmem]
      exact .refl _
  | succ room ih =>
    by_cases hmem : name ∈ stack
    · rw [visit_of_mem _ hmem, visit_of_mem _ hmem]
      exact .refl _
    rw [visit_succ _ hmem, visit_succ _ hmem]
    have hrequest : ∀ events events', (Walk.leave { opened := [name], events }).Matches
        (Walk.leave { opened := [name], events := events' }) :=
      fun _ _ => .leave rfl rfl rfl
    have htext := htexts name
    have hdocument := hdocuments name
    cases hfamily : family name with
    | error fault =>
      rw [hfamily] at htext hdocument
      rw [openCatalog_bind_of_fault htext, openCatalog_bind_of_fault hdocument]
      exact .bind (hrequest _ _) fun _ => .refl _
    | ok entries =>
      rw [hfamily] at htext hdocument
      obtain ⟨document, items, hdocument, hread, hitems⟩ := hdocument
      have hentries : ∀ e ∈ entries, e.IsPlain := hplain name entries hfamily
      have hlines : (ofKind .text texts depth).format.steps name (writeText entries) =
          linesSteps name false 1 (entries.map Entry.line) := textSteps_writeText name hentries
      have hsteps : (ofKind .document documents depth).format.steps name document =
          .tally (Text.splitLines document).length 0 :: entrySteps name 0 entries :=
        documentSteps_of_read name hentries hitems hread
      rw [openCatalog_bind_of_read htext, openCatalog_bind_of_read hdocument, hlines, hsteps]
      -- The lines of a document are counted at once, before its first entry.
      refine .bind (hrequest _ _) fun _ => .bind (.refl _) fun _ => ?_
      exact matches_runSteps_tally (runSteps_matches (ih (stack ++ [name])) name 0 hentries) _ 0

end Agreement

/-- Loads from texts and from documents that list the same entries give the same rules or end in
errors that match, after they have asked for the same catalogs, and they count as many catalogs and
includes. -/
theorem texts_and_documents_agree {family : Family} {texts documents : Source}
    (hplain : family.IsPlain) (htexts : texts.HoldsTexts family)
    (hdocuments : documents.HoldsDocuments family) (depth : ℕ+) (name : List Char) :
    ((Loader.ofKind .text texts depth).load name).Matches
      ((Loader.ofKind .document documents depth).load name) :=
  Loader.finish_matches name
    (Loader.visit_matches hplain htexts hdocuments depth depth [] name)

/-! ## A family that is held in both ways -/

/-- A catalog that includes another one, whose rule has a left context that cannot be read. -/
def unreadFamily : Family := fun name =>
  if name = ['a'] then .ok [.include ['b']]
  else if name = ['b'] then
    .ok [.rule { pattern := ['s'], left := ['['], right := [], phoneme := ['z'] }]
  else .error .notHeld

/-- The family as texts. -/
def unreadTexts : Source where
  read name := ⟨[], (unreadFamily name).map writeText⟩

/-- The document of an include. -/
def includeDocument : List Char := "\"rules\":\n- \"include\": \"b\"\n".toList

/-- The document of a rule, without the right context and with the phoneme first. -/
def ruleDocument : List Char :=
  "\"rules\":\n- \"phoneme\": \"z\"\n  \"pattern\": \"s\"\n  \"left\": \"[\"\n".toList

/-- The family as documents. -/
def unreadDocuments : Source where
  read name :=
    ⟨[], (unreadFamily name).map fun _ => if name = ['a'] then includeDocument else ruleDocument⟩

/-- The document holds an include. -/
theorem read_includeDocument :
    Document.read includeDocument =
      .ok (catalogValue [.mapping [(.text "include".toList, .text ['b'])]]) := by
  have htokens : Document.tokens includeDocument =
      [.blockMappingStart, .key, .scalar false "rules".toList, .value, .blockEntry,
        .blockMappingStart, .key, .scalar false "include".toList, .value, .scalar false ['b'],
        .blockEnd, .blockEnd] := by decide +kernel
  exact read_of_texts [[("include".toList, ['b'])]] htokens rfl

/-- The document holds a rule with a context that does not compile. -/
theorem read_ruleDocument :
    Document.read ruleDocument =
      .ok (catalogValue [.mapping [(.text "phoneme".toList, .text ['z']),
        (.text "pattern".toList, .text ['s']), (.text "left".toList, .text ['['])]]) := by
  have htokens : Document.tokens ruleDocument =
      [.blockMappingStart, .key, .scalar false "rules".toList, .value, .blockEntry,
        .blockMappingStart, .key, .scalar false "phoneme".toList, .value, .scalar false ['z'],
        .key, .scalar false "pattern".toList, .value, .scalar false ['s'], .key,
        .scalar false "left".toList, .value, .scalar false ['['], .blockEnd, .blockEnd] := by
    decide +kernel
  exact read_of_texts
    [[("phoneme".toList, ['z']), ("pattern".toList, ['s']), ("left".toList, ['['])]] htokens rfl

/-- The documents are those of the family. -/
theorem unreadDocuments_holds : unreadDocuments.HoldsDocuments unreadFamily := by
  intro name
  unfold unreadDocuments unreadFamily
  by_cases ha : name = ['a']
  · subst ha
    refine ⟨includeDocument, _, rfl, read_includeDocument, .cons ⟨_, rfl, ?_, ?_⟩ .nil⟩
    · exact fun m hm => hm
    · exact fun m hm => Or.inl hm
  by_cases hb : name = ['b']
  · subst hb
    refine ⟨ruleDocument, _, rfl, read_ruleDocument, .cons ⟨_, rfl, ?_, ?_⟩ .nil⟩
    · simp [Entry.members]
    · simp [Entry.members, Entry.omissible]
  · simp only [if_neg ha, if_neg hb]
    rfl

/-- Every entry of the family can be written on a line. -/
theorem unreadFamily_isPlain : unreadFamily.IsPlain := by
  intro name entries hentries
  unfold unreadFamily at hentries
  split at hentries
  · obtain rfl := Except.ok.inj hentries
    decide +kernel
  split at hentries
  · obtain rfl := Except.ok.inj hentries
    decide +kernel
  · cases hentries

/-- A rule with a context that does not compile, in an included catalog: both loads fail, and have
asked for the same catalogs. -/
theorem texts_and_documents_agree_unread :
    (∃ e e', ((Loader.ofKind .text unreadTexts 2).load ['a']).result = .error e ∧
      ((Loader.ofKind .document unreadDocuments 2).load ['a']).result = .error e' ∧
      e.Matches e') ∧
    ((Loader.ofKind .document unreadDocuments 2).load ['a']).trace.opened = [['a'], ['b']] := by
  have htexts : unreadTexts.HoldsTexts unreadFamily := fun _ => rfl
  obtain ⟨hresult, hopened, -, -⟩ := texts_and_documents_agree unreadFamily_isPlain htexts
    unreadDocuments_holds 2 ['a']
  have hfails : ((Loader.ofKind .text unreadTexts 2).load ['a']).error?.isSome = true := by
    decide +kernel
  have hasked : ((Loader.ofKind .text unreadTexts 2).load ['a']).trace.opened =
      [['a'], ['b']] := by
    decide +kernel
  refine ⟨hresult.resolve_left ?_, hopened.symm.trans hasked⟩
  rintro ⟨rules, hrules, -⟩
  rw [Walk.error?, hrules] at hfails
  cases hfails

end PhoneticCatalog.Catalog
