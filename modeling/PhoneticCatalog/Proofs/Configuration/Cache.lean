import Mathlib.Data.List.Induction
import PhoneticCatalog.Assembly
import PhoneticCatalog.Configuration.Cache

/-!
# The configuration that a process keeps

What a process is told, and what it keeps, over every history of calls. A history starts with
nothing kept; `ConfigurationCache.afterAll` is what is kept at its end, and
`ConfigurationCache.answer` what the next call is answered.

A configuration is kept as soon as it is read. If it is then refused because it is not valid, the
call fails, but later calls are answered with it (`refused_configuration_kept`). This is the only
way to an answer that is not valid, and the only way in which a call that fails changes what is kept
(`kept_is_valid_unless_refused`). All other histories keep one valid configuration at a time: that
of the first call that succeeds.
-/

namespace PhoneticCatalog

/-! ## Valid configurations -/

namespace Configuration

variable {c : Configuration}

/-- What `validate` asks of a configuration: a depth that allows a catalog, a level that is known,
and a folder of catalogs in production. -/
structure IsValid (c : Configuration) : Prop where
  depth : 1 ≤ c.maxIncludeDepth
  level : (Journal.Level.ofCapitals? c.logLevel).isSome
  folder : c.environment = .production → c.catalogPath.isSome

/-- A configuration passes its validation if it is valid. -/
theorem validate_eq_ok : c.validate = .ok () ↔ c.IsValid := by
  unfold validate
  -- The conditions are checked in turn, and the first one that is missed refuses.
  by_cases hdepth : c.maxIncludeDepth < 1
  · rw [if_pos hdepth]
    exact iff_of_false nofun fun h => absurd h.depth (by omega)
  rw [if_neg hdepth]
  by_cases hlevel : (Journal.Level.ofCapitals? c.logLevel).isNone
  · rw [if_pos hlevel]
    exact iff_of_false nofun fun h => absurd h.level (by simpa using hlevel)
  rw [if_neg hlevel]
  by_cases hfolder : c.environment = .production && c.catalogPath.isNone
  · rw [if_pos hfolder]
    obtain ⟨henvironment, hnone⟩ : c.environment = .production ∧ c.catalogPath = none := by
      simpa using hfolder
    exact iff_of_false nofun fun h => absurd (h.folder henvironment) (by simp [hnone])
  · rw [if_neg hfolder]
    refine iff_of_true rfl ⟨by omega, ?_, ?_⟩
    · simpa [Option.isSome_iff_ne_none] using hlevel
    · intro henvironment
      simpa [henvironment, Option.isSome_iff_ne_none] using hfolder

/-- A configuration that is validated is given back if it is valid, and refused otherwise. -/
theorem validated_cases (c : Configuration) :
    (c.validate.map fun _ => c) = .ok c ∧ c.IsValid ∨
      ∃ e, (c.validate.map fun _ => c) = .error e ∧ c.validate = .error e := by
  cases hvalidate : c.validate with
  | ok u => exact Or.inl ⟨rfl, validate_eq_ok.1 hvalidate⟩
  | error e => exact Or.inr ⟨e, rfl, rfl⟩

/-- A valid configuration has a loader for every source. -/
theorem IsValid.exists_loader (h : c.IsValid) (source : Catalog.Source) :
    ∃ L, c.loader source = .ok L := by
  have hdepth : 0 < c.maxIncludeDepth := h.depth
  exact ⟨_, dif_pos hdepth⟩

end Configuration

namespace ConfigurationCache

/-! ## One call -/

/-- The settings are read as a configuration that is then refused. -/
structure Refuses (settings? : Option Settings) (c : Configuration) (e : ConfigurationError) :
    Prop where
  read : ∃ settings, settings? = some settings ∧ Configuration.ofSettings settings = .ok c
  refused : c.validate = .error e

/-- All that a call can do. What is kept is answered and stays; where nothing is kept, either
nothing can be read, or a configuration is read and kept, and answered if it is valid. -/
theorem obtain_cases (cache : ConfigurationCache) (settings? : Option Settings) :
    (∃ c, cache = some c ∧ cache.obtain settings? = (.ok c, some c)) ∨
    (cache = none ∧ ∃ e, cache.obtain settings? = (.error e, none)) ∨
    (cache = none ∧ ∃ settings c, settings? = some settings ∧
      Configuration.ofSettings settings = .ok c ∧
      cache.obtain settings? = (c.validate.map fun _ => c, some c)) := by
  cases cache with
  | some c => exact Or.inl ⟨c, rfl, rfl⟩
  | none =>
    cases settings? with
    | none => exact Or.inr (Or.inl ⟨rfl, .noSettings, rfl⟩)
    | some settings =>
      cases hread : Configuration.ofSettings settings with
      | error e => exact Or.inr (Or.inl ⟨rfl, e, by rw [obtain, hread]⟩)
      | ok c => exact Or.inr (Or.inr ⟨rfl, settings, c, rfl, hread, by rw [obtain, hread]⟩)

/-- A configuration that is answered is kept. -/
theorem kept_of_answer {cache : ConfigurationCache} {settings? : Option Settings}
    {c : Configuration} (h : (cache.obtain settings?).1 = .ok c) :
    (cache.obtain settings?).2 = some c := by
  rcases obtain_cases cache settings? with ⟨c', -, hobtain⟩ | ⟨-, e, hobtain⟩ |
    ⟨-, settings, c', -, -, hobtain⟩
  · rw [hobtain] at h ⊢
    obtain rfl := Except.ok.inj h
    rfl
  · rw [hobtain] at h
    cases h
  · rw [hobtain] at h ⊢
    rcases c'.validated_cases with ⟨hgiven, -⟩ | ⟨e, hrefused, -⟩
    · obtain rfl := Except.ok.inj (hgiven.symm.trans h)
      rfl
    · cases hrefused.symm.trans h

/-- A call that fails changes nothing, unless it refuses the configuration that it has read. -/
theorem unchanged_of_error {cache : ConfigurationCache} {settings? : Option Settings}
    {e : ConfigurationError} (h : (cache.obtain settings?).1 = .error e) :
    (cache.obtain settings?).2 = cache ∨
      cache = none ∧ ∃ c, Refuses settings? c e ∧ (cache.obtain settings?).2 = some c := by
  rcases obtain_cases cache settings? with ⟨c, -, hobtain⟩ | ⟨hnone, e', hobtain⟩ |
    ⟨hnone, settings, c, hsettings, hread, hobtain⟩
  · rw [hobtain] at h
    cases h
  · exact Or.inl (by rw [hobtain, hnone])
  · rw [hobtain] at h ⊢
    rcases c.validated_cases with ⟨hgiven, -⟩ | ⟨e', hrefused, hvalidate⟩
    · cases hgiven.symm.trans h
    · obtain rfl := Except.error.inj (hrefused.symm.trans h)
      exact Or.inr ⟨hnone, c, ⟨⟨settings, hsettings, hread⟩, hvalidate⟩, rfl⟩

/-! ## Histories of calls -/

/-- What is kept after some calls. -/
def afterAll (cache : ConfigurationCache) (calls : List ConfigurationCall) : ConfigurationCache :=
  calls.foldl after cache

/-- The last of some calls comes after all others. -/
theorem afterAll_concat (cache : ConfigurationCache) (calls : List ConfigurationCall)
    (call : ConfigurationCall) :
    cache.afterAll (calls ++ [call]) = (cache.afterAll calls).after call := by
  rw [afterAll, List.foldl_append]
  rfl

/-- Calls in two parts come one part after the other. -/
theorem afterAll_append (cache : ConfigurationCache) (calls more : List ConfigurationCall) :
    cache.afterAll (calls ++ more) = (cache.afterAll calls).afterAll more :=
  List.foldl_append

/-- What a process is answered that has made some calls before. -/
def answer (calls : List ConfigurationCall) (settings? : Option Settings) :
    Except ConfigurationError Configuration :=
  ((afterAll none calls).obtain settings?).1

/-- What is kept stays until it is forgotten. -/
theorem afterAll_of_kept (c : Configuration) {calls : List ConfigurationCall}
    (h : .forget ∉ calls) : afterAll (some c) calls = some c := by
  induction calls with
  | nil => rfl
  | cons call rest ih =>
    cases call with
    | forget => exact absurd List.mem_cons_self h
    | obtain settings? => exact ih fun hmem => h (List.mem_cons_of_mem _ hmem)

/-- A configuration that is kept was read by a call which found nothing kept, and after which
nothing was forgotten. -/
theorem exists_reading {calls : List ConfigurationCall} {c : Configuration}
    (h : afterAll none calls = some c) :
    ∃ before settings rest, calls = before ++ .obtain (some settings) :: rest ∧
      .forget ∉ rest ∧ afterAll none before = none ∧
      Configuration.ofSettings settings = .ok c := by
  induction calls using List.reverseRecOn generalizing c with
  | nil => cases h
  | append_singleton calls call ih =>
    rw [afterAll_concat] at h
    cases call with
    | forget => cases h
    | obtain settings? =>
      change ((afterAll none calls).obtain settings?).2 = some c at h
      rcases obtain_cases (afterAll none calls) settings? with ⟨c', hkept, hobtain⟩ |
        ⟨-, e, hobtain⟩ | ⟨hnone, settings, c', rfl, hread, hobtain⟩
      · -- It was kept before the call, and the call read nothing.
        rw [hobtain] at h
        obtain rfl := Option.some.inj h
        obtain ⟨before, settings, rest, rfl, hrest, hbefore, hread⟩ := ih hkept
        refine ⟨before, settings, rest ++ [.obtain settings?], ?_, ?_, hbefore, hread⟩
        · rw [List.append_assoc, List.cons_append]
        · simpa using hrest
      · rw [hobtain] at h
        cases h
      · rw [hobtain] at h
        obtain rfl := Option.some.inj h
        exact ⟨calls, settings, [], rfl, List.not_mem_nil, hnone, hread⟩

/-- From a call that succeeds on all calls are answered with its configuration, until it is
forgotten. -/
theorem kept_after_answer {calls more : List ConfigurationCall} {settings? : Option Settings}
    {c : Configuration} (h : answer calls settings? = .ok c) (hmore : .forget ∉ more) :
    afterAll none (calls ++ .obtain settings? :: more) = some c := by
  have hnext : (afterAll none calls).after (.obtain settings?) = some c := kept_of_answer h
  have hsplit : calls ++ .obtain settings? :: more = calls ++ [.obtain settings?] ++ more := by simp
  rw [hsplit, afterAll_append, afterAll_concat, hnext, afterAll_of_kept c hmore]

/-- The call that reads a configuration is answered with it if it is valid, and refuses it
otherwise. -/
theorem answer_of_reading {calls : List ConfigurationCall} {settings : Settings}
    {c : Configuration} (hnone : afterAll none calls = none)
    (hread : Configuration.ofSettings settings = .ok c) :
    answer calls (some settings) = .ok c ∧ c.IsValid ∨
      ∃ e, answer calls (some settings) = .error e ∧ Refuses (some settings) c e := by
  have hanswer : answer calls (some settings) = c.validate.map fun _ => c := by
    rw [answer, hnone, obtain, hread]
  rw [hanswer]
  rcases c.validated_cases with hvalid | ⟨e, hrefused, hvalidate⟩
  · exact Or.inl hvalid
  · exact Or.inr ⟨e, hrefused, ⟨settings, rfl, hread⟩, hvalidate⟩

/-- Over every history of calls: a call that fails changes nothing, unless it refuses the
configuration that it has read, which is then kept. A call that succeeds is answered with the
configuration of the first settings that could be read since anything was forgotten. Either the call
that read them was the first one to succeed, and then the configuration is valid and has a loader
for every source, or it refused the configuration. All later calls are answered with the same
configuration, until it is forgotten. -/
theorem kept_is_valid_unless_refused (calls : List ConfigurationCall)
    (settings? : Option Settings) :
    (∀ e, answer calls settings? = .error e →
      afterAll none (calls ++ [.obtain settings?]) = afterAll none calls ∨
      afterAll none calls = none ∧ ∃ c, Refuses settings? c e ∧
        afterAll none (calls ++ [.obtain settings?]) = some c) ∧
    ∀ c, answer calls settings? = .ok c →
      (∃ before settings rest,
        calls ++ [.obtain settings?] = before ++ .obtain (some settings) :: rest ∧
        .forget ∉ rest ∧
        (∀ earlier s later, before = earlier ++ .obtain s :: later → .forget ∉ later →
          ∃ e, answer earlier s = .error e) ∧
        Configuration.ofSettings settings = .ok c ∧
        (answer before (some settings) = .ok c ∧ c.IsValid ∧
            (∀ source, ∃ L, c.loader source = .ok L) ∨
          ∃ e, answer before (some settings) = .error e ∧ Refuses (some settings) c e)) ∧
      ∀ more s, .forget ∉ more → answer (calls ++ .obtain settings? :: more) s = .ok c := by
  constructor
  · intro e he
    rw [afterAll_concat]
    exact unchanged_of_error he
  intro c hc
  constructor
  · -- What is answered is kept, and what is kept was read at some call, from which it stems.
    have hkept : afterAll none (calls ++ [.obtain settings?]) = some c :=
      kept_after_answer hc List.not_mem_nil
    obtain ⟨before, settings, rest, hcalls, hrest, hnone, hread⟩ := exists_reading hkept
    refine ⟨before, settings, rest, hcalls, hrest, ?_, hread, ?_⟩
    · rintro earlier s later rfl hlater
      cases hanswer : answer earlier s with
      | error e => exact ⟨e, rfl⟩
      | ok c' =>
        rw [kept_after_answer hanswer hlater] at hnone
        cases hnone
    · refine (answer_of_reading hnone hread).imp_left ?_
      rintro ⟨hanswer, hvalid⟩
      exact ⟨hanswer, hvalid, hvalid.exists_loader⟩
  · intro more s hmore
    rw [answer, kept_after_answer hc hmore]
    rfl

/-- Settings for production that name no folder of catalogs. -/
def folderless : Settings := [(Setting.environment.key.toList, some "production".toList)]

/-- The defaults are kept, and not replaced by a production configuration without a folder. -/
theorem kept_is_valid_unless_refused_defaults :
    ∃ c, answer [.obtain none] (some []) = .ok c ∧
      answer [.obtain none, .obtain (some []), .obtain none] (some folderless) = .ok c := by
  have hsome : (answer [.obtain none] (some [])).toOption.isSome = true := by decide +kernel
  cases hc : answer [.obtain none] (some []) with
  | error e =>
    rw [hc] at hsome
    cases hsome
  | ok c =>
    obtain ⟨-, hkept⟩ := (kept_is_valid_unless_refused [.obtain none] (some [])).2 c hc
    exact ⟨c, rfl, hkept [.obtain none] (some folderless) (by simp)⟩

/-- A configuration that was refused is kept by the call that fails, and is what the next call is
answered with. -/
theorem refused_configuration_kept :
    answer [] (some folderless) = .error (.setting .catalogPath .missingInProduction) ∧
    afterAll none [.obtain (some folderless)] ≠ afterAll none [] ∧
    ∃ c, answer [.obtain (some folderless)] none = .ok c ∧ ¬ c.IsValid := by
  have hrefused : answer [] (some folderless) =
      .error (.setting .catalogPath .missingInProduction) := by decide +kernel
  have hchanged : afterAll none [.obtain (some folderless)] ≠ afterAll none [] := by
    decide +kernel
  obtain ⟨-, c, ⟨-, hinvalid⟩, hkept⟩ := (unchanged_of_error hrefused).resolve_left hchanged
  refine ⟨hrefused, hchanged, c, ?_, ?_⟩
  · have hkept : afterAll none [.obtain (some folderless)] = some c := hkept
    rw [answer, hkept]
    rfl
  · intro hvalid
    rw [Configuration.validate_eq_ok.2 hvalid] at hinvalid
    cases hinvalid

end ConfigurationCache

end PhoneticCatalog
