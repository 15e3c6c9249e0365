import PhoneticCatalog.Assembly
import PhoneticCatalog.Proofs.Building.Registry
import PhoneticCatalog.Proofs.Inclusion.Requests
import PhoneticCatalog.Proofs.Text.Encoding
import PhoneticCatalog.Proofs.Writing.Agreement

/-!
# Catalogs in folders and in memory

Catalogs that a folder stores in UTF-8 are read from there line by line as they were written
(`FileTree.Stores.sameLines`), though not character by character. Everything that is built from
catalogs in the text format and from lists of languages depends on nothing but their lines, so that
a build with a result has the same result over the folder (`build_from_folder`).
-/

namespace PhoneticCatalog

open Catalog

/-! ## Paths of files -/

namespace Storage.Path

/-- Text between separators comes from one of them or from a part. -/
theorem mem_of_mem_intercalate {c : Char} {separator : List Char} {parts : List (List Char)}
    (h : c ∈ separator.intercalate parts) : c ∈ separator ∨ ∃ part ∈ parts, c ∈ part := by
  rw [List.intercalate, List.mem_flatten] at h
  obtain ⟨part, hpart, hc⟩ := h
  induction parts with
  | nil => cases hpart
  | cons first rest ih =>
    cases rest with
    | nil => exact Or.inr ⟨part, hpart, hc⟩
    | cons second rest =>
      rw [List.intersperse_cons_cons, List.mem_cons, List.mem_cons] at hpart
      rcases hpart with rfl | rfl | hpart
      · exact Or.inr ⟨part, List.mem_cons_self, hc⟩
      · exact Or.inl hc
      · rcases ih hpart with hsep | ⟨part', hmem, hc'⟩
        · exact Or.inl hsep
        · exact Or.inr ⟨part', List.mem_cons_of_mem first hmem, hc'⟩

/-- A part is still there in a text that is put together from it. -/
theorem subset_intercalate {separator part : List Char} {parts : List (List Char)}
    (h : part ∈ parts) : part ⊆ separator.intercalate parts := by
  induction parts with
  | nil => cases h
  | cons first rest ih =>
    cases rest with
    | nil =>
      rw [List.mem_singleton.1 h, List.intercalate_singleton]
      exact List.Subset.refl first
    | cons second rest =>
      rw [List.intercalate_cons_cons]
      rcases List.mem_cons.1 h with rfl | h
      · exact fun c hc => List.mem_append_left _ (List.mem_append_left _ hc)
      · exact fun c hc => List.mem_append_right _ (ih h hc)

/-- The text of a path holds slashes, points and what its steps hold. -/
theorem mem_of_mem_toText {c : Char} {p : Path} (h : c ∈ p.toText) :
    c = '/' ∨ c = '.' ∨ ∃ step ∈ p.steps, c ∈ step := by
  have hsteps : c ∈ (['/'] : List Char).intercalate p.steps →
      c = '/' ∨ c = '.' ∨ ∃ step ∈ p.steps, c ∈ step := by
    intro hc
    rcases mem_of_mem_intercalate hc with hc | hc
    · exact Or.inl (List.mem_singleton.1 hc)
    · exact Or.inr (Or.inr hc)
  -- The cases are those of the start of a path, which is written before its steps.
  unfold toText at h
  split at h
  · split at h
    · exact Or.inr (Or.inl (List.mem_singleton.1 h))
    · exact hsteps h
  · rcases List.mem_cons.1 h with rfl | h
    · exact Or.inl rfl
    · exact hsteps h
  · rcases List.mem_cons.1 h with rfl | h
    · exact Or.inl rfl
    rcases List.mem_cons.1 h with rfl | h
    · exact Or.inl rfl
    · exact hsteps h

/-- A path has nothing in its steps that its text does not have. -/
theorem mem_of_mem_ofText {c : Char} {text step : List Char} (h : step ∈ (ofText text).steps)
    (hc : c ∈ step) : c ∈ text := by
  have hstep : step ⊆ (['/'] : List Char).intercalate (text.splitOn '/') :=
    subset_intercalate (List.mem_filter.1 h).1
  rw [List.intercalate_splitOn] at hstep
  exact hstep hc

/-- A text without slashes is a single step. -/
theorem ofText_of_not_mem {text : List Char} (h : '/' ∉ text) (hempty : text ≠ [])
    (hpoint : text ≠ ['.']) : ofText text = ⟨.current, [text]⟩ := by
  have hstart : startOf text = .current := by
    unfold startOf
    split
    · exact absurd List.mem_cons_self h
    · exact absurd List.mem_cons_self h
    · exact absurd List.mem_cons_self h
    · rfl
  rw [ofText, List.splitOn_eq_singleton h, hstart, List.filter_cons_of_pos, List.filter_nil]
  simp [hempty, hpoint]

end Storage.Path

/-- The file of a catalog stands right in the folder. -/
theorem Catalog.FileStyle.path_txt {style : FileStyle} (hsuffix : style.suffix = ".txt".toList)
    (folder : Storage.Path) {name : List Char} (h : '/' ∉ name) :
    style.path folder name = ⟨folder.start, folder.steps ++ [name ++ ".txt".toList]⟩ := by
  have hslash : '/' ∉ name ++ ".txt".toList := by
    rw [List.mem_append, not_or]
    exact ⟨h, by decide⟩
  -- With its ending the name is too long for the steps that a path drops.
  have hlength : 4 ≤ (name ++ ".txt".toList).length := by
    rw [List.length_append]
    exact Nat.le_add_left 4 name.length
  rw [FileStyle.path, hsuffix, Storage.Path.ofText_of_not_mem hslash ?_ ?_]
  · rfl
  · intro hnil
    rw [hnil] at hlength
    exact absurd hlength (by decide)
  · intro hpoint
    rw [hpoint] at hlength
    exact absurd hlength (by decide)

/-! ## Stored catalogs -/

namespace Storage

/-- The folder has a file for each of the named texts, which holds the text in UTF-8. -/
structure FileTree.Stores (tree : FileTree) (folder : Path)
    (catalogs : List (List Char × List Char)) : Prop where
  /-- Names of catalogs can be names of files. -/
  names : ∀ c ∈ catalogs, '/' ∉ c.1 ∧ '\x00' ∉ c.1
  /-- Of two texts with one name the file holds the last. -/
  files : ∀ name text, catalogs.reverse.lookup name = some text →
    tree.read ⟨folder.start, folder.steps ++ [name ++ ".txt".toList]⟩ =
      .ok (Text.encodeUtf8 text)

end Storage

namespace Catalog

/-- What is looked up is one of the catalogs. -/
theorem Source.mem_of_lookup {catalogs : List (List Char × List Char)} {name text : List Char}
    (h : catalogs.reverse.lookup name = some text) : (name, text) ∈ catalogs := by
  obtain ⟨before, after, heq, -⟩ := List.lookup_eq_some_iff.1 h
  rw [← List.mem_reverse, heq]
  exact List.mem_append_right _ List.mem_cons_self

/-- Wherever the first source holds a text, the second one holds a text with the same lines. -/
def Source.SameLines (source source' : Source) : Prop :=
  ∀ name text, (source.read name).result = .ok text →
    ∃ text', (source'.read name).result = .ok text' ∧
      Text.splitLines text' = Text.splitLines text

/-- A text stored in UTF-8 is read with its newlines unified. -/
theorem decodeText_encodeUtf8 (text : List Char) :
    decodeText "utf-8".toList (Text.encodeUtf8 text) = .ok (Text.unifyNewlines text) := by
  have hname : Text.Encoding.ofName? "utf-8".toList = some (.utf8 false) := by decide +kernel
  simp only [decodeText, hname, Text.Encoding.decode_encodeUtf8]

/-- What a folder of catalogs answers is the text of the file. -/
theorem Source.result_ofFolder {tree : Storage.FileTree} {folder : Storage.Path}
    {style : FileStyle} {name text : List Char}
    (h : readFile tree style (style.path folder name) = .ok text) :
    ((Source.ofFolder tree folder style).read name).result = .ok text := by
  show (Source.folderReading _ _ _).result = _
  rw [h]
  rfl

end Catalog

/-- Catalogs that a folder stores have the same lines there. -/
theorem Storage.FileTree.Stores.sameLines {tree : FileTree} {folder : Path}
    {catalogs : List (List Char × List Char)} (h : tree.Stores folder catalogs)
    (hfolder : ∀ step ∈ folder.steps, '\x00' ∉ step) {style : FileStyle}
    (hsuffix : style.suffix = ".txt".toList) (hencoding : style.encoding = "utf-8".toList) :
    (Source.ofList catalogs).SameLines (.ofFolder tree folder style) := by
  intro name text htext
  have hlookup := Source.result_ofList.1 htext
  obtain ⟨hslash, hzero⟩ := h.names (name, text) (Source.mem_of_lookup hlookup)
  have hpath := FileStyle.path_txt hsuffix folder hslash
  refine ⟨Text.unifyNewlines text, Source.result_ofFolder ?_, Text.splitLines_unifyNewlines text⟩
  -- There is no zero character on the way to the file.
  have hclean : (style.path folder name).toText.contains '\x00' = false := by
    rw [List.contains_eq_mem, decide_eq_false_iff_not]
    intro hmem
    rcases Path.mem_of_mem_toText hmem with heq | heq | ⟨step, hstep, hc⟩
    · exact absurd heq (by decide)
    · exact absurd heq (by decide)
    rw [hpath] at hstep
    rcases List.mem_append.1 hstep with hstep | hstep
    · exact hfolder step hstep hc
    rw [List.mem_singleton.1 hstep] at hc
    rcases List.mem_append.1 hc with hc | hc
    · exact hzero hc
    · exact absurd hc (by decide)
  rw [readFile, hencoding, if_neg (by decide), hclean, if_neg Bool.false_ne_true, hpath,
    h.files name text hlookup]
  exact decodeText_encodeUtf8 text

/-! ## Loads by lines -/

namespace Catalog

namespace Walk

variable {α β : Type}

/-- A result of the first walk is one of the second as well, with the same diagnostics. -/
def PreservedBy (v w : Walk α) : Prop :=
  ∀ a, v.result = .ok a → w.result = .ok a ∧ w.trace.diagnostics = v.trace.diagnostics

namespace PreservedBy

variable {v w : Walk α}

theorem refl (v : Walk α) : PreservedBy v v := fun _ h => ⟨h, rfl⟩

/-- A walk without a result has nothing to preserve. -/
theorem of_error {e : LoadError} (h : v.result = .error e) : PreservedBy v w :=
  fun _ ha => nomatch h.symm.trans ha

/-- What comes after preserved results is preserved. -/
theorem bind {f g : α → Walk β} (h : PreservedBy v w) (hf : ∀ a, PreservedBy (f a) (g a)) :
    PreservedBy (v >>= f) (w >>= g) := by
  intro b hb
  obtain ⟨a, ha, hfa⟩ := exists_of_bind hb
  obtain ⟨ha', hdiagnostics⟩ := h a ha
  obtain ⟨hga, hdiagnostics'⟩ := hf a b hfa
  rw [bind_of_ok ha', bind_of_ok ha]
  refine ⟨hga, ?_⟩
  rw [Trace.diagnostics_append, Trace.diagnostics_append, hdiagnostics, hdiagnostics']

end PreservedBy

end Walk

/-- Texts with the same lines are read in the same steps. -/
theorem textSteps_eq_of_lines {text text' : List Char}
    (h : Text.splitLines text' = Text.splitLines text) (catalog : List Char) :
    textSteps catalog text' = textSteps catalog text :=
  congrArg (linesSteps catalog false 1) h

namespace Loader

variable {L : Loader Rule} {source : Source}

/-- Steps keep their result if the catalogs that they splice in keep theirs. -/
theorem runSteps_preserved {splice splice' : List Char → Walk (List Rule)}
    (h : ∀ b, (splice b).PreservedBy (splice' b)) (steps : List (Step Rule)) :
    (L.runSteps splice steps).PreservedBy ((L.withSource source).runSteps splice' steps) := by
  induction steps with
  | nil => exact .refl _
  | cons step rest ih =>
    rw [runSteps_cons, runSteps_cons]
    refine .bind ?_ fun first => .bind ih fun others => .refl _
    cases step with
    | splice b => exact .bind (.refl _) fun _ => h b
    | tally lines comments => exact .refl _
    | rule r => exact .refl _
    | skip d => exact .refl _
    | abort e => exact .refl _

/-- A catalog that can be opened is opened in the other source with the same lines. -/
theorem openCatalog_preserved {name : List Char} (h : L.source.SameLines source)
    {f g : List Char → Walk (List Rule)}
    (hf : ∀ text text', Text.splitLines text' = Text.splitLines text →
      (f text).PreservedBy (g text')) :
    (L.openCatalog name >>= f).PreservedBy ((L.withSource source).openCatalog name >>= g) := by
  cases hread : (L.source.read name).result with
  | error fault => exact .of_error (by rw [Walk.bind_of_error (L.openCatalog_of_fault hread)])
  | ok text =>
    obtain ⟨text', hread', hlines⟩ := h name text hread
    rw [L.openCatalog_bind_of_read hread, (L.withSource source).openCatalog_bind_of_read hread']
    intro rules hrules
    exact hf text text' hlines rules hrules

/-- A visit with a result has the same result over a source with the same lines. -/
theorem visit_preserved (hformat : L.format = textFormat) (h : L.source.SameLines source)
    (room : Nat) (stack : List (List Char)) (name : List Char) :
    (L.visit room stack name).PreservedBy ((L.withSource source).visit room stack name) := by
  -- A visit of an open catalog and one without room fail in both, so that nothing is to be kept.
  induction room generalizing stack name with
  | zero =>
    by_cases hmem : name ∈ stack
    · exact .of_error (by rw [visit_of_mem _ hmem]; rfl)
    · exact .of_error (by rw [visit_zero _ hmem]; rfl)
  | succ room ih =>
    by_cases hmem : name ∈ stack
    · exact .of_error (by rw [visit_of_mem _ hmem]; rfl)
    rw [visit_succ _ hmem, visit_succ _ hmem]
    refine openCatalog_preserved h fun text text' hlines => .bind (.refl _) fun _ => ?_
    have hsteps : (L.withSource source).format.steps name text' = L.format.steps name text := by
      show L.format.steps name text' = _
      rw [hformat]
      exact textSteps_eq_of_lines hlines name
    rw [hsteps]
    exact runSteps_preserved (fun b => ih (stack ++ [name]) b) _

/-- A load with a result has the same result over a source with the same lines. -/
theorem load_preserved (hformat : L.format = textFormat) (h : L.source.SameLines source)
    (name : List Char) : (L.load name).PreservedBy ((L.withSource source).load name) := by
  intro rules hrules
  have hload := finish_alike L name (L.visit L.maxDepth [] name)
  have hload' := finish_alike (L.withSource source) name
    ((L.withSource source).visit L.maxDepth [] name)
  obtain ⟨hresult, hdiagnostics⟩ := visit_preserved hformat h L.maxDepth [] name rules
    (hload.result.symm.trans hrules)
  exact ⟨hload'.result.trans hresult,
    hload'.diagnostics.trans (hdiagnostics.trans hload.diagnostics.symm)⟩

end Loader

/-- A list of languages depends on the lines of its text. -/
theorem LanguageRegistry.languages_preserved {lists lists' : Source} (h : lists.SameLines lists')
    (shelf : Shelf) (n : NameType) :
    ((catalogs lists).languages shelf n).PreservedBy ((catalogs lists').languages shelf n) := by
  cases hshelf : shelf.lookup n with
  | some held =>
    rw [languages_of_held hshelf, languages_of_held hshelf]
    exact .refl _
  | none =>
    rw [languages_of_unread hshelf, languages_of_unread hshelf]
    refine .bind ?_ fun declared => .refl _
    intro declared hdeclared
    rw [readLanguages_eq] at hdeclared ⊢
    rw [readLanguages_eq]
    cases hread : (lists.read n.languagesCatalog).result with
    | error fault =>
      rw [hread] at hdeclared
      cases hdeclared
    | ok text =>
      -- Lists of languages are read line by line, so that the same lines list the same.
      obtain ⟨text', hread', hlines⟩ := h _ text hread
      have hsame : parseLanguages text' = parseLanguages text := by
        rw [parseLanguages, parseLanguages, hlines]
      rw [hread] at hdeclared
      rw [hread']
      exact ⟨(congrArg Except.ok hsame).trans hdeclared, rfl⟩

end Catalog

/-! ## Builds by lines -/

namespace Repository

variable {L : Loader Rule} {source lists lists' : Source}

/-- The end of a build keeps the result. -/
theorem complete_preserved
    {v w : Walk (List (NameType × List (RuleType × List (List Char × List Rule))))}
    (h : v.PreservedBy w) : (complete v).PreservedBy (complete w) := by
  intro r hr
  cases hv : v.result with
  | error e =>
    rw [complete, hv] at hr
    cases hr
  | ok loaded =>
    obtain ⟨hw, hdiagnostics⟩ := h loaded hv
    rw [complete, hv] at hr
    rw [complete, complete, hv, hw, hdiagnostics]
    refine ⟨hr, ?_⟩
    rw [Trace.diagnostics_append, Trace.diagnostics_append, hdiagnostics]

section Levels

variable (hformat : L.format = textFormat) (h : L.source.SameLines source)

include hformat h

/-- The catalogs of some languages keep their results. -/
theorem loadLanguages_preserved (n : NameType) (t : RuleType) (languages : List (List Char)) :
    (loadLanguages L n t languages).PreservedBy
      (loadLanguages (L.withSource source) n t languages) := by
  induction languages with
  | nil => exact .refl _
  | cons language rest ih =>
    exact .bind (Loader.load_preserved hformat h _) fun rules => .bind ih fun others => .refl _

/-- The catalogs of some rule types keep their results. -/
theorem loadRuleTypes_preserved (n : NameType) (declared : LanguageSet)
    (ruleTypes : List RuleType) :
    (loadRuleTypes L n declared ruleTypes).PreservedBy
      (loadRuleTypes (L.withSource source) n declared ruleTypes) := by
  induction ruleTypes with
  | nil => exact .refl _
  | cons t rest ih =>
    exact .bind (loadLanguages_preserved hformat h n t _) fun loaded => .bind ih fun others =>
      .refl _

/-- The catalogs of some name types keep their results, and so do the lists of their languages. -/
theorem loadNameTypes_preserved (hlists : lists.SameLines lists') (ruleTypes : List RuleType)
    (shelf : Shelf) (nameTypes : List NameType) :
    (loadNameTypes L (.catalogs lists) ruleTypes shelf nameTypes).PreservedBy
      (loadNameTypes (L.withSource source) (.catalogs lists') ruleTypes shelf nameTypes) := by
  induction nameTypes generalizing shelf with
  | nil => exact .refl _
  | cons n rest ih =>
    exact .bind (LanguageRegistry.languages_preserved hlists shelf n) fun ⟨declared, shelf'⟩ =>
      .bind (loadRuleTypes_preserved hformat h n declared ruleTypes) fun loaded =>
        .bind (ih shelf') fun others => .refl _

/-- A build with a result has the same result over sources with the same lines. -/
theorem build_preserved (hlists : lists.SameLines lists') (nameTypes : List NameType)
    (ruleTypes : List RuleType) :
    (build L (.catalogs lists) nameTypes ruleTypes).PreservedBy
      (build (L.withSource source) (.catalogs lists') nameTypes ruleTypes) :=
  complete_preserved <| .bind (.refl _) fun _ =>
    loadNameTypes_preserved hformat h hlists ruleTypes [] nameTypes

end Levels

end Repository

/-- Catalogs in the text format and lists of languages that a folder stores in UTF-8 build the same
repository there as in memory: if a build from memory has a result, the build from the folder that
is configured has the same one, with the same keys, rules and diagnostics. Line endings are free,
in each text and from line to line. -/
theorem build_from_folder {c : Configuration} {root : List Char} {tree elsewhere : Storage.FileTree}
    {catalogs : List (List Char × List Char)} {w : Walk Repository} {r : Repository}
    (hformat : c.catalogFormat = .text) (hencoding : c.catalogEncoding = some "utf-8".toList)
    (hpath : c.catalogPath = some root) (hroot : '\x00' ∉ root)
    (hstores : tree.Stores (.ofText root) catalogs)
    (hbuild : c.buildRepository elsewhere (some (.ofList catalogs)) none = .ok w)
    (hr : w.result = .ok r) :
    ∃ w', c.buildRepository tree none none = .ok w' ∧ w'.result = .ok r := by
  have hsame : (Source.ofList catalogs).SameLines
      (.ofFolder tree (.ofText root) (c.style ".txt".toList)) := by
    refine hstores.sameLines (fun step hstep hc => hroot ?_) rfl ?_
    · exact Storage.Path.mem_of_mem_ofText hstep hc
    · rw [Configuration.style, hencoding]
      rfl
  have hsources : c.sources tree none =
      .ok (.ofFolder tree (.ofText root) (c.style ".txt".toList),
        .ofFolder tree (.ofText root) (c.style ".txt".toList)) := by
    rw [Configuration.sources, Configuration.folder, hpath]
    simp only [Configuration.source, hformat]
    rfl
  have hloaderFormat : c.format = textFormat := by
    rw [Configuration.format, hformat]
  by_cases hdepth : 0 < c.maxIncludeDepth
  · let L : Loader Rule := ⟨c.format, .ofList catalogs, c.maxIncludeDepth.toNat, by omega⟩
    have hmemory : c.buildRepository elsewhere (some (.ofList catalogs)) none =
        .ok (Repository.build L (.catalogs (.ofList catalogs)) NameType.all RuleType.all) := by
      simp only [Configuration.buildRepository, Configuration.sources, Configuration.loader,
        Loader.ofDepth, dif_pos hdepth]
      rfl
    have hfolder : c.buildRepository tree none none =
        .ok (Repository.build (L.withSource (.ofFolder tree (.ofText root)
          (c.style ".txt".toList))) (.catalogs (.ofFolder tree (.ofText root)
            (c.style ".txt".toList))) NameType.all RuleType.all) := by
      simp only [Configuration.buildRepository, hsources, Configuration.loader, Loader.ofDepth,
        dif_pos hdepth]
      rfl
    obtain rfl := Except.ok.inj (hmemory.symm.trans hbuild)
    exact ⟨_, hfolder, (Repository.build_preserved hloaderFormat hsame hsame NameType.all
      RuleType.all r hr).1⟩
  · -- With such a depth nothing is built at all.
    simp only [Configuration.buildRepository, Configuration.sources, Configuration.loader,
      Loader.ofDepth, dif_neg hdepth] at hbuild
    cases hbuild

/-- Catalogs and lists of languages with line endings of several kinds, and a line that is skipped.
-/
def mixedCatalogs : List (List Char × List Char) :=
  [("gen_languages".toList, "polish\r\n\r// none\n".toList),
    ("gen_approx_polish".toList, "x '' '' x\rbroken\r\n\ny '' '' y\u2028z '' '' z".toList),
    ("gen_exact_polish".toList, "#include gen_approx_polish\r\r".toList),
    ("gen_rules_polish".toList, "\r\n".toList),
    ("ash_languages".toList, []), ("sep_languages".toList, []),
    ("gen_approx_common".toList, "é '' '' e\r".toList), ("gen_exact_common".toList, []),
    ("ash_approx_common".toList, []), ("ash_exact_common".toList, []),
    ("sep_approx_common".toList, []), ("sep_exact_common".toList, [])]

/-- A folder with a file for each of these catalogs. -/
def mixedTree : Storage.FileTree :=
  ⟨mixedCatalogs.map fun (name, text) =>
    (["catalogs".toList, name ++ ".txt".toList], .file (Text.encodeUtf8 text))⟩

/-- The folder stores these catalogs. -/
theorem mixedTree_stores : mixedTree.Stores (.ofText "catalogs".toList) mixedCatalogs := by
  have hpath : Storage.Path.ofText "catalogs".toList = ⟨.current, ["catalogs".toList]⟩ :=
    Storage.Path.ofText_of_not_mem (by decide) (by decide) (by decide)
  have hfiles : ∀ c ∈ mixedCatalogs,
      mixedTree.read ⟨.current, ["catalogs".toList, c.1 ++ ".txt".toList]⟩ =
        .ok (Text.encodeUtf8 c.2) := by
    decide +kernel
  rw [hpath]
  exact ⟨by decide +kernel, fun name text h => hfiles (name, text) (Source.mem_of_lookup h)⟩

/-- The configuration of this folder. -/
def mixedConfiguration : Configuration where
  environment := .development
  catalogPath := some "catalogs".toList
  catalogFormat := .text
  catalogEncoding := some "utf-8".toList
  maxIncludeDepth := 2
  logLevel := "INFO".toList
  logFormat := .json

/-- A build from this folder has the result that it has from memory. -/
theorem build_from_folder_mixed :
    ∃ w w' r, mixedConfiguration.buildRepository ⟨[]⟩ (some (.ofList mixedCatalogs)) none = .ok w ∧
      w.result = .ok r ∧
      mixedConfiguration.buildRepository mixedTree none none = .ok w' ∧ w'.result = .ok r := by
  let L : Loader Rule := ⟨textFormat, .ofList mixedCatalogs, 2, by decide⟩
  have hbuild : mixedConfiguration.buildRepository ⟨[]⟩ (some (.ofList mixedCatalogs)) none =
      .ok (Repository.build L (.catalogs (.ofList mixedCatalogs)) NameType.all RuleType.all) := rfl
  obtain ⟨r, hr⟩ : (Repository.build L (.catalogs (.ofList mixedCatalogs)) NameType.all
      RuleType.all).Succeeds := Walk.error?_eq_none.1 (by decide +kernel)
  obtain ⟨w', hfolder, hr'⟩ := build_from_folder rfl rfl rfl (by decide) mixedTree_stores hbuild hr
  exact ⟨_, w', r, hbuild, hr, hfolder, hr'⟩

end PhoneticCatalog
