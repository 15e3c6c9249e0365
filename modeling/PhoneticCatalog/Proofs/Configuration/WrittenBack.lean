import PhoneticCatalog.Proofs.Building.Tables
import PhoneticCatalog.Proofs.Configuration.Cache
import PhoneticCatalog.Proofs.Text.Number

/-!
# Writing a configuration down

A valid configuration that was read from settings can be written down as settings
(`Configuration.written`), and is read back from them as it was, whatever the spelling in which it
was given at first (`written_reads_alike`). `Configuration.IsReadFrom` says field by field what it
means to be read from settings, and each way of reading a field takes back what is written for it:
`choice_of_label` for choices by name, `depthOf_of_decimal` for the depth, `levelOf_of_capitals` for
the level.
-/

namespace PhoneticCatalog

/-- Settings are told apart by their keys. -/
theorem Setting.key_injective {a b : Setting} (h : a.key = b.key) : a = b := by
  revert h
  cases a <;> cases b <;> simp [Setting.key]

/-- Two keys are the same if their settings are. -/
theorem Setting.key_beq (a b : Setting) : (a.key.toList == b.key.toList) = decide (a = b) := by
  rw [Bool.eq_iff_iff, beq_iff_eq, decide_eq_true_eq]
  exact ⟨fun h => Setting.key_injective (String.toList_inj.1 h), fun h => h ▸ rfl⟩

namespace Configuration

variable {settings : Settings} {c : Configuration}

/-! ## Reading field by field -/

/-- Every field of the configuration is what the settings say about it. -/
structure IsReadFrom (c : Configuration) (settings : Settings) : Prop where
  environment :
    choice settings .environment Environment.all Environment.label .development = .ok c.environment
  catalogPath : settings.text? .catalogPath = c.catalogPath
  catalogFormat :
    choice settings .catalogFormat CatalogFormat.all CatalogFormat.label .text = .ok c.catalogFormat
  catalogEncoding :
    (settings.value? .catalogEncoding).getD (some "utf-8".toList) = c.catalogEncoding
  maxIncludeDepth : depthOf settings = .ok c.maxIncludeDepth
  logLevel : levelOf settings = .ok c.logLevel
  logFormat :
    choice settings .logFormat Journal.LineFormat.all Journal.LineFormat.label .json =
      .ok c.logFormat

/-- Two steps in turn succeed if both do. -/
theorem bind_eq_ok_iff {ε α β : Type} {x : Except ε α} {f : α → Except ε β} {b : β} :
    (x >>= f) = .ok b ↔ ∃ a, x = .ok a ∧ f a = .ok b := by
  cases x with
  | error e => exact iff_of_false nofun nofun
  | ok a => exact ⟨fun h => ⟨a, rfl, h⟩, fun ⟨a', ha, h⟩ => Except.ok.inj ha ▸ h⟩

/-- Settings are accepted if every field of the configuration is read off them. -/
theorem ofSettings_eq_ok_iff : ofSettings settings = .ok c ↔ c.IsReadFrom settings := by
  simp only [ofSettings, bind_eq_ok_iff]
  constructor
  · rintro ⟨environment, henvironment, format, hformat, depth, hdepth, level, hlevel, lines, hlines,
      hc⟩
    obtain rfl := Except.ok.inj hc
    exact ⟨henvironment, rfl, hformat, rfl, hdepth, hlevel, hlines⟩
  · intro h
    refine ⟨_, h.environment, _, h.catalogFormat, _, h.maxIncludeDepth, _, h.logLevel, _,
      h.logFormat, ?_⟩
    rw [h.catalogPath, h.catalogEncoding]
    rfl

/-! ## Writing and reading back -/

/-- What is written for a setting: a text, nothing, or not even the key. -/
def written (c : Configuration) : Setting → Option (Option (List Char))
  | .environment => some (some c.environment.label.toList)
  | .catalogPath => c.catalogPath.map some
  | .catalogFormat => some (some c.catalogFormat.label.toList)
  | .catalogEncoding => some c.catalogEncoding
  | .maxIncludeDepth => some (some (toString c.maxIncludeDepth).toList)
  | .logLevel => some (some c.logLevel)
  | .logFormat => some (some c.logFormat.label.toList)

/-- A setting with a text that is not empty has that text. -/
theorem text?_of_value {s : Setting} {text : List Char} (h : settings.value? s = some (some text))
    (hne : text ≠ []) : settings.text? s = some text := by
  rw [Settings.text?, h]
  cases text with
  | nil => exact absurd rfl hne
  | cons d rest => rfl

/-- A label of a choice is read as the first choice that has this label, in small letters and
without blanks. -/
theorem choice_of_label {α : Type} {s : Setting} {choices : List α} {label : α → String}
    {default a : α} (h : settings.value? s = some (some (label a).toList))
    (hne : (label a).toList ≠ [])
    (hfirst : choices.find? (fun b => (label b).toList =
      Text.toSmall (Text.strip (label a).toList)) = some a) :
    choice settings s choices label default = .ok a := by
  simp only [choice, text?_of_value h hne, hfirst]

/-- Every depth that was read has few enough digits to be read again. -/
theorem natAbs_lt_of_depthOf {depth : Int} (h : depthOf settings = .ok depth) :
    depth.natAbs < 10 ^ Text.maxDigits := by
  rw [depthOf] at h
  split at h
  · obtain rfl := Except.ok.inj h
    have hdefault : (Catalog.defaultMaxDepth : Int).natAbs < 10 ^ 2 := by decide
    exact Nat.lt_of_lt_of_le hdefault (Nat.pow_le_pow_right (by decide) (by decide))
  · split at h
    · obtain rfl := Except.ok.inj h
      exact Text.natAbs_lt_of_readInt? ‹_›
    · cases h

/-- A depth written in decimal digits is read back, unless it has too many of them. -/
theorem depthOf_of_decimal {depth : Int} (hpositive : 1 ≤ depth)
    (hdigits : depth.natAbs < 10 ^ Text.maxDigits)
    (h : settings.value? .maxIncludeDepth = some (some (toString depth).toList)) :
    depthOf settings = .ok depth := by
  obtain ⟨n, rfl⟩ : ∃ n : Nat, depth = n := Int.eq_ofNat_of_zero_le (by omega)
  have htext : (toString (n : Int)).toList = Nat.toDigits 10 n := Nat.toList_repr
  rw [htext] at h
  rw [depthOf, text?_of_value h Nat.toDigits_ne_nil]
  have hn : n < 10 ^ Text.maxDigits := by simpa using hdigits
  simp only [Text.readInt?_toDigits hn]

/-- The name of a level is in capitals already. -/
theorem toCapitals_of_isSome {name : List Char}
    (h : (Journal.Level.ofCapitals? name).isSome) : Text.toCapitals name = name := by
  obtain ⟨l, hl⟩ := Option.isSome_iff_exists.1 h
  have hname : l.capitals = name := by simpa using List.find?_some hl
  rw [← hname]
  cases l <;> decide +kernel

/-- A level written in capitals is read back. -/
theorem levelOf_of_capitals {name : List Char} (hlevel : (Journal.Level.ofCapitals? name).isSome)
    (h : settings.value? .logLevel = some (some name)) : levelOf settings = .ok name := by
  simp only [levelOf, h, toCapitals_of_isSome hlevel]

/-- A folder that was read from settings is not the empty text. -/
theorem IsReadFrom.ne_nil (h : c.IsReadFrom settings) {path : List Char}
    (hpath : c.catalogPath = some path) : path ≠ [] := by
  have htext := h.catalogPath.trans hpath
  rw [Settings.text?, Option.filter_eq_some_iff] at htext
  rintro rfl
  exact absurd htext.2 (by decide)

/-- Field by field, what is written of a valid configuration is read as the configuration. -/
theorem IsReadFrom.of_written (h : c.IsReadFrom settings) (hvalid : c.IsValid) {w : Settings}
    (hw : ∀ s, w.value? s = c.written s) : c.IsReadFrom w where
  environment :=
    choice_of_label (hw .environment) (by cases c.environment <;> decide)
      (by cases c.environment <;> decide +kernel)
  catalogPath := by
    -- Without a folder its key is not written, so that no text is read for it.
    cases hpath : c.catalogPath with
    | none =>
      have hmissing : w.value? .catalogPath = none := by rw [hw, written, hpath]; rfl
      rw [Settings.text?, hmissing]
      rfl
    | some path =>
      have hvalue : w.value? .catalogPath = some (some path) := by rw [hw, written, hpath]; rfl
      exact text?_of_value hvalue (h.ne_nil hpath)
  catalogFormat :=
    choice_of_label (hw .catalogFormat) (by cases c.catalogFormat <;> decide)
      (by cases c.catalogFormat <;> decide +kernel)
  catalogEncoding := by
    rw [hw]
    rfl
  maxIncludeDepth :=
    depthOf_of_decimal hvalid.depth (natAbs_lt_of_depthOf h.maxIncludeDepth) (hw .maxIncludeDepth)
  logLevel := levelOf_of_capitals hvalid.level (hw .logLevel)
  logFormat :=
    choice_of_label (hw .logFormat) (by cases c.logFormat <;> decide)
      (by cases c.logFormat <;> decide +kernel)

/-- The settings written for a configuration hold what is written for each field. -/
theorem value?_toSettings (c : Configuration) (s : Setting) :
    c.toSettings.value? s = c.written s := by
  rw [toSettings, Settings.value?, Table.find?_ofEntries]
  cases hpath : c.catalogPath <;> cases s <;>
    simp [Table.find?_cons, Table.find?_nil, Setting.key_beq, -beq_iff_eq, written, hpath]

end Configuration

/-- A valid configuration that was read from settings is read again, as it was, from what is written
down of it, wherever the settings come from: from the settings that write it down, and from all
others that say the same. -/
theorem written_reads_alike (p : SettingsProvider) (c : Configuration)
    (hread : Configuration.ofSettings p.settings = .ok c) (hvalid : c.validate = .ok ()) :
    (∀ q : SettingsProvider, (∀ s, q.settings.value? s = c.written s) →
      Configuration.ofSettings q.settings = .ok c) ∧
    ∀ s, c.toSettings.value? s = c.written s := by
  have hfields := Configuration.ofSettings_eq_ok_iff.1 hread
  refine ⟨fun q hq => ?_, c.value?_toSettings⟩
  exact Configuration.ofSettings_eq_ok_iff.2
    (hfields.of_written (Configuration.validate_eq_ok.1 hvalid) hq)

/-- Settings that spell a name, a depth and a level in their own way. -/
theorem written_reads_alike_respelled :
    let given : Settings :=
      [(Setting.environment.key.toList, some " Production\n".toList),
       (Setting.catalogPath.key.toList, some "rules".toList),
       (Setting.catalogFormat.key.toList, some []),
       (Setting.maxIncludeDepth.key.toList, some " +0_12 ".toList),
       (Setting.logLevel.key.toList, some "debug".toList)]
    let c : Configuration :=
      ⟨.production, some "rules".toList, .text, some "utf-8".toList, 12, "DEBUG".toList, .json⟩
    Configuration.ofSettings given = .ok c ∧ c.validate = .ok () ∧
      Configuration.ofSettings c.toSettings = .ok c := by
  intro given c
  have hread : Configuration.ofSettings given = .ok c := by rfl
  have hvalid : c.validate = .ok () := by rfl
  obtain ⟨hagain, hwritten⟩ := written_reads_alike (.environment none given) c hread hvalid
  exact ⟨hread, hvalid, hagain (.mapping c.toSettings) hwritten⟩

end PhoneticCatalog
