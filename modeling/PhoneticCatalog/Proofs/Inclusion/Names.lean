import PhoneticCatalog.Proofs.Documents.Compile
import PhoneticCatalog.Proofs.Inclusion.Requests
import PhoneticCatalog.Proofs.Lines.Grammar

/-!
# Names of included catalogs

What is requested because of an include is named in some text, on a line or in an entry
(`Loader.includes_of_requested`), and neither format takes every name: a line is malformed whose
name is empty or holds a separator (`isCleanName_of_derives`), and an entry has to match an
expression (`isName_of_denotes`).

The expression ends with a sign that also stands before a line feed at the end, so that it lets one
line feed through. All names that are requested because of includes are clean but for that
(`included_names_clean_up_to_feed`, `feed_included`).
-/

namespace PhoneticCatalog.Catalog

open Document (Value)

/-- A name is clean if it is not empty and holds no separator. -/
structure IsCleanName (name : List Char) : Prop where
  ne_nil : name ≠ []
  separators : ∀ c ∈ name, Text.isSeparator c = false

instance (name : List Char) : Decidable (IsCleanName name) :=
  decidable_of_iff (name ≠ [] ∧ name.all (!Text.isSeparator ·) = true)
    ⟨fun h => ⟨h.1, by simpa using h.2⟩, fun h => ⟨h.ne_nil, by simpa using h.separators⟩⟩

/-! ## Names in texts -/

section Names

variable {kind : Journal.LoaderKind} {raw text name : List Char}

/-- The name on a line of an include is clean. -/
theorem isCleanName_of_derives (h : Derives raw (.include name)) : IsCleanName name := by
  cases h with
  | inclusion hcode h => exact ⟨h.ne_nil, h.separators⟩

/-- The name in an entry of an include matches the expression for names. -/
theorem isName_of_denotes {v : Value} (h : Entry.Denotes v (.include name)) :
    Context.IsName name := by
  obtain _ | ⟨h, hname⟩ := h
  obtain ⟨name', hname', hoccurs⟩ := h.name
  obtain rfl := Value.text.inj (Option.some.inj (hname.symm.trans hname'))
  exact Context.occursIn_namePattern.1 hoccurs

/-- What is read of some items is denoted by one of them. -/
theorem exists_denotes_of_mem {items : List Value} {es : List Entry} {e : Entry}
    (h : List.Forall₂ Entry.Denotes items es) (he : e ∈ es) :
    ∃ item ∈ items, Entry.Denotes item e := by
  induction h with
  | nil => exact absurd he List.not_mem_nil
  | cons hfirst _ ih =>
    rcases List.mem_cons.1 he with rfl | he
    · exact ⟨_, List.mem_cons_self, hfirst⟩
    · obtain ⟨item, hitem, hdenotes⟩ := ih he
      exact ⟨item, List.mem_cons_of_mem _ hitem, hdenotes⟩

/-- What matches the expression is clean, but for a line feed at its end. -/
theorem exists_clean_of_isName (h : Context.IsName name) :
    ∃ body, IsCleanName body ∧ (name = body ∨ name = body ++ ['\n']) := by
  obtain ⟨body, hbody, hvisible, hname⟩ := h
  refine ⟨body, ⟨hbody, fun c hc => ?_⟩, hname⟩
  by_contra hseparator
  have hspace := isSpace_of_isSeparator (Bool.not_eq_false _ ▸ hseparator)
  rw [hvisible c hc] at hspace
  cases hspace

/-- A text includes clean names only, unless it is a document, where a line feed may follow. -/
theorem clean_or_feed_of_textIncludes (h : TextIncludes kind text name) :
    IsCleanName name ∨
      kind = .document ∧ ∃ body, IsCleanName body ∧ name = body ++ ['\n'] := by
  cases kind with
  | text =>
    obtain ⟨before, raw, after, -, -, hraw⟩ := h
    exact Or.inl (isCleanName_of_derives (derives_iff.2 hraw))
  | document =>
    obtain ⟨v, entries, -, hentries, hmem⟩ := h
    obtain ⟨members, items, -, -, hitems⟩ := entriesOf_eq_ok.1 hentries
    obtain ⟨item, -, hitem⟩ := exists_denotes_of_mem hitems hmem
    obtain ⟨body, hbody, rfl | rfl⟩ := exists_clean_of_isName (isName_of_denotes hitem)
    · exact Or.inl hbody
    · exact Or.inr ⟨rfl, body, hbody, rfl⟩

end Names

/-! ## Requests because of includes -/

/-- What is requested because of includes, of all that a call requests: a load requests its own
catalog first. -/
def Call.included (opened : List (List Char)) : Call → List (List Char)
  | .load _ => opened.tail
  | .parse .. => opened

section Requests

variable {kind : Journal.LoaderKind} {source : Source} {depth : ℕ+} {name x : List Char}

/-- A catalog on a path is the first one or is included by another. -/
theorem Source.IncludePath.includes_of_mem {path : List (List Char)}
    (h : source.IncludePath kind name path) (hx : x ∈ path) :
    x = name ∨ ∃ a, source.Includes kind a x := by
  induction path generalizing name with
  | nil => exact absurd hx List.not_mem_nil
  | cons a rest ih =>
    obtain hstop | ⟨b, rest', heq, hedge, hrest⟩ := h.cases
    · rw [hstop] at hx
      exact Or.inl (List.mem_singleton.1 hx)
    · obtain ⟨rfl, rfl⟩ := List.cons.inj heq
      rcases List.mem_cons.1 hx with rfl | hx
      · exact Or.inl rfl
      · rcases ih hrest hx with rfl | hincluded
        · exact Or.inr ⟨a, hedge⟩
        · exact Or.inr hincluded

namespace Loader

/-- What a text makes a loader request is included by the text, or by a catalog of the source. -/
theorem includes_of_runSteps {room : Nat} {stack : List (List Char)} {text : List Char}
    (h : x ∈ ((ofKind kind source depth).runSteps ((ofKind kind source depth).visit room stack)
      ((Format.ofKind kind).steps name text)).trace.opened) :
    TextIncludes kind text x ∨ ∃ a, source.Includes kind a x := by
  obtain ⟨b, hb, hx⟩ := mem_opened_runSteps h
  obtain ⟨path, hpath, hx⟩ := includePath_of_visit hx
  rcases hpath.includes_of_mem hx with rfl | hincluded
  · exact Or.inl (textIncludes_of_splice_mem hb)
  · exact Or.inr hincluded

/-- What is requested because of an include is included by the text that is parsed, or by a catalog
of the source. -/
theorem includes_of_requested {call : Call}
    (h : x ∈ call.included ((ofKind kind source depth).answer call).trace.opened) :
    (∃ text, call = .parse text call.name ∧ TextIncludes kind text x) ∨
      ∃ a, source.Includes kind a x := by
  cases call with
  | parse text name =>
    have hopened : x ∈ ((ofKind kind source depth).parse text name).trace.opened := h
    rw [(parse_alike kind source depth text name).opened] at hopened
    exact (includes_of_runSteps hopened).imp_left fun hincludes => ⟨text, rfl, hincludes⟩
  | load name =>
    -- The first request of a load is that of its own catalog, which nothing includes.
    have htail : x ∈ ((ofKind kind source depth).load name).trace.opened.tail := h
    have hroom : (depth : ℕ) = depth - 1 + 1 := (Nat.sub_add_cancel depth.pos).symm
    rw [(load_alike kind source depth name).opened, hroom, visit_succ _ List.not_mem_nil] at htail
    cases hread : (source.read name).result with
    | error fault =>
      rw [Walk.bind_of_error (openCatalog_of_fault _ hread)] at htail
      exact absurd htail List.not_mem_nil
    | ok text =>
      rw [Walk.bind_of_ok (openCatalog_of_read _ hread), Walk.leave_bind] at htail
      rcases includes_of_runSteps htail with hincludes | hincluded
      · exact Or.inr ⟨name, text, hread, hincludes⟩
      · exact Or.inr hincluded

end Loader

end Requests

/-- Every name that is requested because of an include is clean, whatever the source holds and
however deep the include stands, unless it comes from a document: there a single line feed may
follow a clean name. -/
theorem included_names_clean_up_to_feed (kind : Journal.LoaderKind) (source : Source) (depth : ℕ+)
    (call : Call) :
    ∀ x ∈ call.included ((Loader.ofKind kind source depth).answer call).trace.opened,
      IsCleanName x ∨ kind = .document ∧ ∃ body, IsCleanName body ∧ x = body ++ ['\n'] := by
  intro x hx
  rcases Loader.includes_of_requested hx with ⟨text, -, hincludes⟩ | ⟨a, text, -, hincludes⟩
  · exact clean_or_feed_of_textIncludes hincludes
  · exact clean_or_feed_of_textIncludes hincludes

/-- Two catalogs that include each other by clean names. -/
theorem included_names_clean_up_to_feed_circle :
    ['b'] ∈ Call.included ((Loader.ofKind .text circleSource 2).answer (.load ['a'])).trace.opened
      (.load ['a']) ∧
    (IsCleanName ['b'] ∨
      Journal.LoaderKind.text = .document ∧ ∃ body, IsCleanName body ∧ ['b'] = body ++ ['\n']) := by
  have hb : ['b'] ∈ Call.included
      ((Loader.ofKind .text circleSource 2).answer (.load ['a'])).trace.opened (.load ['a']) := by
    decide +kernel
  exact ⟨hb, included_names_clean_up_to_feed .text circleSource 2 (.load ['a']) ['b'] hb⟩

/-- A document that includes a name with a line feed at its end. -/
def feedDocument : List Char := "\"rules\":\n- \"include\": \"b\\n\"\n".toList

/-- The document includes a catalog whose name ends in a line feed. -/
theorem read_feedDocument :
    Document.read feedDocument =
      .ok (catalogValue [.mapping [(.text "include".toList, .text ['b', '\n'])]]) := by
  have htokens : Document.tokens feedDocument =
      [.blockMappingStart, .key, .scalar false "rules".toList, .value, .blockEntry,
        .blockMappingStart, .key, .scalar false "include".toList, .value,
        .scalar false ['b', '\n'], .blockEnd, .blockEnd] := by decide +kernel
  exact read_of_texts [[("include".toList, ['b', '\n'])]] htokens rfl

/-- A document with an include of a catalog that is not held requests that catalog. -/
theorem Loader.opened_of_refused_include {source : Source} {depth : ℕ+} (hdepth : 1 < depth)
    {text catalog name : List Char} {v : Value} {fault : OpenFault}
    (hread : Document.read text = .ok v) (hes : entriesOf v = .ok [.include name])
    (hname : name ≠ catalog) (hrefused : (source.read name).result = .error fault) :
    ((ofKind .document source depth).parse text catalog).trace.opened = [name] := by
  obtain ⟨room, hroom⟩ : ∃ room, (depth : ℕ) - 1 = room + 1 := by
    have hdepth : 1 < (depth : ℕ) := hdepth
    exact ⟨depth - 2, by omega⟩
  have hformat : (Format.ofKind .document).steps catalog text = documentSteps catalog text := rfl
  have hmem : name ∉ [catalog] := mt List.mem_singleton.1 hname
  rw [(parse_alike .document source depth text catalog).opened, hformat,
    documentSteps_of_entries hread hes, entrySteps, entrySteps, hroom, runSteps, runSteps,
    visit_succ _ hmem, Walk.bind_of_error (openCatalog_of_fault _ hrefused)]
  rfl

/-- The document is accepted, and the name is requested with its line feed. -/
theorem feed_included :
    Call.included ((Loader.ofKind .document (.ofList []) 2).answer
        (.parse feedDocument "<string>".toList)).trace.opened
      (.parse feedDocument "<string>".toList) = [['b', '\n']] ∧
    ¬ IsCleanName ['b', '\n'] := by
  have hopened : ((Loader.ofKind .document (.ofList []) 2).parse feedDocument
      "<string>".toList).trace.opened = [['b', '\n']] :=
    Loader.opened_of_refused_include (by decide) read_feedDocument rfl (by decide) rfl
  rw [Call.included, Loader.answer]
  exact ⟨hopened, by decide⟩

end PhoneticCatalog.Catalog
