import Mathlib.Data.List.Infix
import Mathlib.Data.List.TakeWhile
import PhoneticCatalog.Text.Line

/-!
# Cutting text up and putting it together

What the functions on lines and fields do to a text that was put together from lines or fields, and
what is known of their results. Lines that hold no terminator come back from a text in which each of
them is terminated (`splitLines_flatMap`); fields that hold no separator come back from a line in
which they are separated by a space (`splitFields_append`); a quoted field comes back without its
quotes (`stripQuotes_quoted`).

In the other direction all results are parts of the text without the characters it was cut at:
`not_isTerminator_of_mem_splitLines`, `not_isSeparator_of_mem_splitFields`, `not_infix_of_before?`.
-/

namespace PhoneticCatalog.Text

/-! ## Lines -/

/-- There is always at least one piece. -/
theorem splitPieces_ne_nil (text : List Char) : splitPieces text ≠ [] := by
  fun_induction splitPieces text with
  | case1 => simp
  | case2 rest ih => simp
  | case3 c rest hne hc ih => simp
  | case4 c rest hne hc hnil ih => simp
  | case5 c rest hne hc piece pieces hpieces ih => simp

/-- A character that is no terminator belongs to the first piece. -/
theorem splitPieces_cons {c : Char} (hc : isTerminator c = false) (rest : List Char) :
    ∃ piece pieces, splitPieces rest = piece :: pieces ∧
      splitPieces (c :: rest) = (c :: piece) :: pieces := by
  -- A carriage return with a line feed is a case of its own in the recursion.
  have hreturn : ∀ rest', c = '\r' → rest = '\n' :: rest' → False := by
    rintro rest' rfl -
    exact absurd hc (by decide)
  obtain ⟨piece, pieces, hpieces⟩ := List.exists_cons_of_ne_nil (splitPieces_ne_nil rest)
  refine ⟨piece, pieces, hpieces, ?_⟩
  rw [splitPieces.eq_3 c rest hreturn, hpieces]
  simp [hc]

/-- A terminator that is no carriage return before a line feed ends the first piece by itself. -/
theorem splitPieces_terminator {c : Char} {rest : List Char} (hc : isTerminator c = true)
    (h : ∀ rest', c = '\r' → rest = '\n' :: rest' → False) :
    splitPieces (c :: rest) = [] :: splitPieces rest := by
  rw [splitPieces.eq_3 c rest h, if_pos hc]

/-- A line feed ends the first piece. -/
theorem splitPieces_append {line : List Char} (hline : ∀ c ∈ line, isTerminator c = false)
    (rest : List Char) : splitPieces (line ++ '\n' :: rest) = line :: splitPieces rest := by
  induction line with
  | nil =>
    have hfeed : ∀ rest', '\n' = '\r' → rest = '\n' :: rest' → False := by
      intro rest' h
      exact absurd h (by decide)
    show splitPieces ('\n' :: rest) = [] :: splitPieces rest
    rw [splitPieces.eq_3 '\n' rest hfeed]
    rfl
  | cons c line ih =>
    have hc : isTerminator c = false := hline c List.mem_cons_self
    obtain ⟨piece, pieces, hpieces, hcons⟩ := splitPieces_cons hc (line ++ '\n' :: rest)
    rw [ih fun d hd => hline d (List.mem_cons_of_mem c hd)] at hpieces
    obtain ⟨rfl, rfl⟩ := List.cons.inj hpieces
    exact hcons

/-- A line feed ends the first line. -/
theorem splitLines_append {line : List Char} (hline : ∀ c ∈ line, isTerminator c = false)
    (rest : List Char) : splitLines (line ++ '\n' :: rest) = line :: splitLines rest := by
  obtain ⟨piece, pieces, hpieces⟩ := List.exists_cons_of_ne_nil (splitPieces_ne_nil rest)
  rw [splitLines, splitLines, splitPieces_append hline, hpieces]
  rfl

/-- Terminated lines come back from their text. -/
theorem splitLines_flatMap {lines : List (List Char)}
    (h : ∀ line ∈ lines, ∀ c ∈ line, isTerminator c = false) :
    splitLines (lines.flatMap (· ++ ['\n'])) = lines := by
  induction lines with
  | nil => rfl
  | cons line rest ih =>
    have hrest := ih fun other hother => h other (List.mem_cons_of_mem line hother)
    rw [List.flatMap_cons, List.append_assoc, List.singleton_append,
      splitLines_append (h line List.mem_cons_self), hrest]

/-- Only the last of some pieces can be dropped. -/
theorem dropFinalEmpty_append (pieces : List (List Char)) {more : List (List Char)}
    (h : more ≠ []) : dropFinalEmpty (pieces ++ more) = pieces ++ dropFinalEmpty more := by
  induction pieces with
  | nil => rfl
  | cons piece rest ih =>
    have hne : rest ++ more ≠ [] := List.append_ne_nil_of_right_ne_nil rest h
    obtain ⟨next, others, hcons⟩ := List.exists_cons_of_ne_nil hne
    rw [List.cons_append, List.cons_append, ← ih, hcons, dropFinalEmpty]

/-- A terminator stands at the end of the text, unless the text is empty. -/
def IsTerminated (text : List Char) : Prop := ∀ c ∈ text.getLast?, isTerminator c = true

instance (text : List Char) : Decidable (IsTerminated text) :=
  decidable_of_iff (text.getLast?.all isTerminator = true) (Option.all_eq_true _ _)

/-- A carriage return at the end of one text and a line feed at the start of the other one, which
are one terminator when the texts are put together. -/
def MeetInTerminator (first second : List Char) : Prop :=
  first.getLast? = some '\r' ∧ second.head? = some '\n'

instance (first second : List Char) : Decidable (MeetInTerminator first second) :=
  inferInstanceAs (Decidable (_ ∧ _))

/-- A last character is also the last one behind one more at the start. -/
theorem mem_getLast?_cons {c d : Char} {rest : List Char} (h : d ∈ rest.getLast?) :
    d ∈ (c :: rest).getLast? := by
  rw [List.getLast?_cons, Option.mem_def.1 h]
  rfl

/-- The rest of a terminated text is terminated. -/
theorem IsTerminated.of_cons {c : Char} {rest : List Char} (h : IsTerminated (c :: rest)) :
    IsTerminated rest := fun d hd => h d (mem_getLast?_cons hd)

/-- Texts that meet within a terminator still do with one more character before them. -/
theorem MeetInTerminator.cons {first second : List Char} (h : MeetInTerminator first second)
    (c : Char) : MeetInTerminator (c :: first) second := ⟨mem_getLast?_cons h.1, h.2⟩

/-- All pieces of a terminated text but the last one, which is empty, are pieces of the text that
goes on. -/
theorem splitPieces_append_of_isTerminated {first second : List Char} (h : IsTerminated first)
    (hseam : ¬ MeetInTerminator first second) :
    ∃ pieces, splitPieces first = pieces ++ [[]] ∧
      splitPieces (first ++ second) = pieces ++ splitPieces second ∧
      (first ≠ [] → pieces ≠ []) := by
  fun_induction splitPieces first with
  | case1 => exact ⟨[], rfl, rfl, fun hne => absurd rfl hne⟩
  | case2 rest ih =>
    obtain ⟨pieces, hfirst, hboth, -⟩ := ih h.of_cons.of_cons fun hmeet =>
      hseam ((hmeet.cons _).cons _)
    refine ⟨[] :: pieces, by rw [hfirst, List.cons_append], ?_, fun _ => List.cons_ne_nil _ _⟩
    rw [List.cons_append, List.cons_append, splitPieces, hboth, List.cons_append]
  | case3 c rest hne hc ih =>
    obtain ⟨pieces, hfirst, hboth, -⟩ := ih h.of_cons fun hmeet => hseam (hmeet.cons _)
    refine ⟨[] :: pieces, by rw [hfirst, List.cons_append], ?_, fun _ => List.cons_ne_nil _ _⟩
    rw [List.cons_append, splitPieces_terminator hc, hboth, List.cons_append]
    -- The terminator does not run on into the second text.
    rintro rest' rfl hfeed
    rcases List.append_eq_cons_iff.1 hfeed with ⟨rfl, hsecond⟩ | ⟨others, rfl, -⟩
    · exact hseam ⟨rfl, by rw [hsecond]; rfl⟩
    · exact hne others rfl rfl
  | case4 c rest hne hc hnil ih => exact absurd hnil (splitPieces_ne_nil rest)
  | case5 c rest hne hc piece others hpieces ih =>
    have hc : isTerminator c = false := by simpa using hc
    have hrest : rest ≠ [] := by
      rintro rfl
      exact absurd (h c rfl) (by rw [hc]; decide)
    obtain ⟨pieces, hfirst, hboth, hpieces_ne⟩ := ih h.of_cons fun hmeet => hseam (hmeet.cons _)
    obtain ⟨first', pieces', rfl⟩ := List.exists_cons_of_ne_nil (hpieces_ne hrest)
    obtain ⟨rfl, rfl⟩ := List.cons.inj (hpieces.symm.trans hfirst)
    refine ⟨(c :: piece) :: pieces', rfl, ?_, fun _ => List.cons_ne_nil _ _⟩
    obtain ⟨piece', others', hsplit, hcons⟩ := splitPieces_cons hc (rest ++ second)
    obtain ⟨rfl, rfl⟩ := List.cons.inj (hsplit.symm.trans hboth)
    exact hcons

/-- The lines of a terminated text are followed by those of the text that goes on. -/
theorem splitLines_append_of_isTerminated {first second : List Char} (h : IsTerminated first)
    (hseam : ¬ MeetInTerminator first second) :
    splitLines (first ++ second) = splitLines first ++ splitLines second := by
  obtain ⟨pieces, hfirst, hboth, -⟩ := splitPieces_append_of_isTerminated h hseam
  rw [splitLines, splitLines, splitLines, hfirst, hboth,
    dropFinalEmpty_append _ (splitPieces_ne_nil second), dropFinalEmpty_append _ (by decide)]
  exact congrArg (· ++ _) (List.append_nil pieces).symm

/-- No piece holds a terminator. -/
theorem not_isTerminator_of_mem_splitPieces {text piece : List Char}
    (h : piece ∈ splitPieces text) : ∀ c ∈ piece, isTerminator c = false := by
  -- A character is added to a piece only if it is no terminator.
  fun_induction splitPieces text generalizing piece with
  | case1 =>
    obtain rfl := List.mem_singleton.1 h
    simp
  | case2 rest ih =>
    rcases List.mem_cons.1 h with rfl | h
    · simp
    · exact ih h
  | case3 c rest hne hc ih =>
    rcases List.mem_cons.1 h with rfl | h
    · simp
    · exact ih h
  | case4 c rest hne hc hnil ih => exact absurd hnil (splitPieces_ne_nil rest)
  | case5 c rest hne hc first pieces hpieces ih =>
    have hfirst : ∀ d ∈ first, isTerminator d = false := ih (hpieces ▸ List.mem_cons_self)
    rcases List.mem_cons.1 h with rfl | h
    · intro d hd
      rcases List.mem_cons.1 hd with rfl | hd
      · simpa using hc
      · exact hfirst d hd
    · exact ih (hpieces ▸ List.mem_cons_of_mem first h)

/-- Dropping an empty last piece adds none. -/
theorem mem_of_mem_dropFinalEmpty {p : List Char} {pieces : List (List Char)}
    (h : p ∈ dropFinalEmpty pieces) : p ∈ pieces := by
  fun_induction dropFinalEmpty pieces with
  | case1 => exact h
  | case2 q hq => exact absurd h List.not_mem_nil
  | case3 q hq => exact h
  | case4 q r rest ih =>
    rcases List.mem_cons.1 h with rfl | h
    · exact List.mem_cons_self
    · exact List.mem_cons_of_mem q (ih h)

/-- No line holds a terminator. -/
theorem not_isTerminator_of_mem_splitLines {text line : List Char} (h : line ∈ splitLines text) :
    ∀ c ∈ line, isTerminator c = false :=
  not_isTerminator_of_mem_splitPieces (mem_of_mem_dropFinalEmpty h)

/-- A mark at the start of a text ends before a character that is not in it, since it cannot run
over it. -/
theorem prefix_of_prefix_append_cons {mark before after : List Char} {c : Char} (hc : c ∉ mark)
    (h : mark <+: before ++ c :: after) : mark <+: before := by
  have hbefore : before ++ [c] <+: before ++ c :: after := by simp
  rcases List.prefix_or_prefix_of_prefix h hbefore with hshort | hlong
  · rcases List.prefix_concat_iff.1 hshort with rfl | hshort
    · exact absurd (by simp) hc
    · exact hshort
  · exact absurd (hlong.subset (by simp)) hc

/-- A mark that stands somewhere around a character which is not in it stands on one side. -/
theorem infix_append_cons {mark before after : List Char} {c : Char} (hc : c ∉ mark)
    (h : mark <:+: before ++ c :: after) : mark <:+: before ∨ mark <:+: after := by
  induction before with
  | nil =>
    rcases List.infix_cons_iff.1 h with hmark | hmark
    · have hstart : mark <+: [] := prefix_of_prefix_append_cons hc hmark
      exact Or.inl hstart.isInfix
    · exact Or.inr hmark
  | cons d before ih =>
    rcases List.infix_cons_iff.1 h with hmark | hmark
    · exact Or.inl (prefix_of_prefix_append_cons hc hmark).isInfix
    · exact (ih hmark).imp_left List.infix_cons

/-- Nothing is cut off exactly where the mark does not occur. -/
theorem before?_eq_none_iff {mark : List Char} (hmark : mark ≠ []) {text : List Char} :
    before? mark text = none ↔ ¬ mark <:+: text := by
  induction text with
  | nil => simp [before?, hmark]
  | cons c rest ih =>
    rw [before?, List.infix_cons_iff, ← List.isPrefixOf_iff_prefix]
    by_cases hstart : mark.isPrefixOf (c :: rest) = true
    · simp [hstart]
    · rw [if_neg hstart, Option.map_eq_none_iff, ih]
      simp [hstart]

/-- What stands before a mark is the start of the text. -/
theorem prefix_of_before? {mark text start : List Char} (h : before? mark text = some start) :
    start <+: text := by
  induction text generalizing start with
  | nil =>
    rw [before?] at h
    split at h
    · obtain rfl := Option.some.inj h
      exact List.prefix_refl []
    · cases h
  | cons c rest ih =>
    rw [before?] at h
    split at h
    · obtain rfl := Option.some.inj h
      exact List.nil_prefix
    · obtain ⟨start', hstart, rfl⟩ := Option.map_eq_some_iff.1 h
      exact List.cons_prefix_cons.2 ⟨rfl, ih hstart⟩

/-- The mark does not stand in what stands before its first occurrence. -/
theorem not_infix_of_before? {mark text start : List Char} (hmark : mark ≠ [])
    (h : before? mark text = some start) : ¬ mark <:+: start := by
  have hnil : ¬ mark <:+: [] := fun hinfix => hmark (List.infix_nil.1 hinfix)
  induction text generalizing start with
  | nil =>
    rw [before?, if_neg (by simpa using hmark)] at h
    cases h
  | cons c rest ih =>
    rw [before?] at h
    split at h
    · obtain rfl := Option.some.inj h
      exact hnil
    · rename_i hmiss
      obtain ⟨start', hstart, rfl⟩ := Option.map_eq_some_iff.1 h
      intro hinfix
      -- A mark at the very start would have been found there first.
      rcases List.infix_cons_iff.1 hinfix with hfirst | hlater
      · have hstart' : c :: start' <+: c :: rest :=
          List.cons_prefix_cons.2 ⟨rfl, prefix_of_before? hstart⟩
        exact hmiss (List.isPrefixOf_iff_prefix.2 (hfirst.trans hstart'))
      · exact ih hstart hlater

/-- Whether something is cut off or not, no mark is left. -/
theorem not_infix_getD_before? {mark text : List Char} (hmark : mark ≠ []) :
    ¬ mark <:+: (before? mark text).getD text := by
  cases hbefore : before? mark text with
  | some start => exact not_infix_of_before? hmark hbefore
  | none => exact (before?_eq_none_iff hmark).1 hbefore

/-- What stands before a mark, or all of the text, is part of the text. -/
theorem infix_getD_before? (mark text : List Char) :
    (before? mark text).getD text <:+: text := by
  cases hbefore : before? mark text with
  | some start => exact (prefix_of_before? hbefore).isInfix
  | none => exact List.infix_refl text

/-! ## Ends of a text -/

/-- A stripped text is part of the text. -/
theorem stripWhile_infix (p : Char → Bool) (text : List Char) : stripWhile p text <:+: text := by
  have hleft : text.dropWhile p <:+ text := List.dropWhile_suffix p
  have hright : (text.dropWhile p).reverse.dropWhile p <:+ (text.dropWhile p).reverse :=
    List.dropWhile_suffix p
  rw [← List.reverse_prefix, List.reverse_reverse] at hright
  exact hright.isInfix.trans hleft.isInfix

/-- A text is left alone whose ends are none of the characters to strip. -/
theorem stripWhile_eq_self {p : Char → Bool} {text : List Char}
    (hhead : ∀ c ∈ text.head?, p c = false) (hlast : ∀ c ∈ text.getLast?, p c = false) :
    stripWhile p text = text := by
  have hdrop : ∀ s : List Char, (∀ c ∈ s.head?, p c = false) → s.dropWhile p = s := by
    intro s hs
    cases s with
    | nil => rfl
    | cons c rest => rw [List.dropWhile_cons_of_neg (by simp [hs c rfl])]
  have hreverse : ∀ c ∈ text.reverse.head?, p c = false := by
    intro c hc
    rw [List.head?_reverse] at hc
    exact hlast c hc
  rw [stripWhile, hdrop text hhead, hdrop _ hreverse, List.reverse_reverse]

/-- A character to be stripped makes no difference at the start. -/
theorem stripWhile_cons {p : Char → Bool} {c : Char} (hc : p c = true) (text : List Char) :
    stripWhile p (c :: text) = stripWhile p text := by
  rw [stripWhile, List.dropWhile_cons_of_pos hc]
  rfl

/-! ## Fields -/

/-- A character that is no separator belongs to the first field. -/
theorem splitFields_cons {c : Char} {rest field : List Char} {fields : List (List Char)}
    (hc : isSeparator c = false) (h : splitFields rest = field :: fields) :
    splitFields (c :: rest) = (c :: field) :: fields := by
  unfold splitFields
  simp [h, hc]

/-- A separator ends the first field, unless the next character does. -/
theorem splitFields_cons_separator {c : Char} {rest field : List Char} {fields : List (List Char)}
    (hc : isSeparator c = true) (h : splitFields rest = field :: fields) :
    splitFields (c :: rest) =
      if rest.head?.any isSeparator then field :: fields else [] :: field :: fields := by
  unfold splitFields
  rw [h]
  simp only [hc, if_true]
  cases rest <;> rfl

/-- The first field ends where the first separator stands, and no field holds a separator. -/
theorem splitFields_eq_cons (line : List Char) :
    ∃ fields, splitFields line = line.takeWhile (!isSeparator ·) :: fields ∧
      ∀ f ∈ fields, f <:+: line ∧ ∀ c ∈ f, isSeparator c = false := by
  induction line with
  | nil => exact ⟨[], rfl, by simp⟩
  | cons c rest ih =>
    obtain ⟨fields, hfields, hparts⟩ := ih
    have hlater : ∀ f ∈ fields, f <:+: c :: rest ∧ ∀ d ∈ f, isSeparator d = false :=
      fun f hf => ⟨List.infix_cons (hparts f hf).1, (hparts f hf).2⟩
    by_cases hc : isSeparator c = true
    · rw [splitFields_cons_separator hc hfields, List.takeWhile_cons_of_neg (by simp [hc])]
      split
      · rename_i hnext
        -- Of two separators in a row the second one ends the same, empty field.
        have hempty : rest.takeWhile (!isSeparator ·) = [] := by
          cases rest with
          | nil => rfl
          | cons d tail => exact List.takeWhile_cons_of_neg (by simpa using hnext)
        exact ⟨fields, by rw [hempty], hlater⟩
      · refine ⟨rest.takeWhile (!isSeparator ·) :: fields, rfl, ?_⟩
        intro f hf
        rcases List.mem_cons.1 hf with rfl | hf
        · refine ⟨List.infix_cons (List.takeWhile_prefix _).isInfix, ?_⟩
          intro d hd
          simpa using List.mem_takeWhile_imp hd
        · exact hlater f hf
    · have hc : isSeparator c = false := by simpa using hc
      rw [splitFields_cons hc hfields, List.takeWhile_cons_of_pos (by simp [hc])]
      exact ⟨fields, rfl, hlater⟩

/-- A field is a part of its line. -/
theorem infix_of_mem_splitFields {line f : List Char} (h : f ∈ splitFields line) : f <:+: line := by
  obtain ⟨fields, hfields, hparts⟩ := splitFields_eq_cons line
  rw [hfields] at h
  rcases List.mem_cons.1 h with rfl | h
  · exact (List.takeWhile_prefix _).isInfix
  · exact (hparts f h).1

/-- No field holds a separator. -/
theorem not_isSeparator_of_mem_splitFields {line f : List Char} (h : f ∈ splitFields line) :
    ∀ c ∈ f, isSeparator c = false := by
  obtain ⟨fields, hfields, hparts⟩ := splitFields_eq_cons line
  rw [hfields] at h
  rcases List.mem_cons.1 h with rfl | h
  · intro c hc
    simpa using List.mem_takeWhile_imp hc
  · exact (hparts f h).2

/-- Without a separator there is one field. -/
theorem splitFields_eq_singleton {f : List Char} (h : ∀ c ∈ f, isSeparator c = false) :
    splitFields f = [f] := by
  induction f with
  | nil => rfl
  | cons c rest ih =>
    have hc : isSeparator c = false := h c List.mem_cons_self
    exact splitFields_cons hc (ih fun d hd => h d (List.mem_cons_of_mem c hd))

/-- A single space ends the first field. -/
theorem splitFields_append {f rest : List Char} {d : Char} (h : ∀ c ∈ f, isSeparator c = false)
    (hd : isSeparator d = false) :
    splitFields (f ++ ' ' :: d :: rest) = f :: splitFields (d :: rest) := by
  induction f with
  | nil =>
    obtain ⟨fields, hfields, -⟩ := splitFields_eq_cons (d :: rest)
    have hspace : isSeparator ' ' = true := rfl
    rw [List.nil_append, splitFields_cons_separator hspace hfields, hfields]
    simp [hd]
  | cons c f ih =>
    have hc : isSeparator c = false := h c List.mem_cons_self
    exact splitFields_cons hc (ih fun e he => h e (List.mem_cons_of_mem c he))

/-! ## Quotes -/

/-- A field between double quotes. -/
def quoted (field : List Char) : List Char := '"' :: (field ++ ['"'])

/-- Quotes that were put around a field are what is stripped, whatever the field holds. -/
theorem stripQuotes_quoted (field : List Char) : stripQuotes (quoted field) = field := by
  simp [stripQuotes, quoted]

/-- A field without its quotes is part of the field. -/
theorem stripQuotes_infix (field : List Char) : stripQuotes field <:+: field := by
  have hlast : ∀ rest : List Char,
      (if rest.getLast? = some '"' then rest.dropLast else rest) <:+: rest := by
    intro rest
    split
    · exact (List.dropLast_prefix rest).isInfix
    · exact List.infix_refl rest
  unfold stripQuotes
  simp only
  split
  · exact (hlast _).trans (List.suffix_cons _ _).isInfix
  · exact hlast _

end PhoneticCatalog.Text
