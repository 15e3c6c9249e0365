import Mathlib.Data.List.Chain
import PhoneticCatalog.Proofs.Text.Encoding
import PhoneticCatalog.Proofs.Text.Terminators

/-!
# Texts as lines with terminators

A text consists of lines that are ended by terminators, and of a rest that none of them ends. It
does so in exactly one way if the lines are separate (`existsUnique_linedText`). They are not if an
empty line stands between a carriage return and a line feed, for nothing is written there and the
two are the one terminator of one line (`EndedLine.RunsInto`).

`splitLines` takes the terminators off again: lines come back from their text exactly if they are
separate (`splitLines_written_iff`). So an empty line between a carriage return and a line feed is
all that can get lost. Of which kind a terminator is makes no difference to the lines, and
`unifyNewlines` changes nothing but the kinds (`unifyNewlines_written`).
-/

namespace PhoneticCatalog.Text

/-! ## Terminators -/

namespace Terminator

variable {t u : Terminator} {rest rest' : List Char}

/-- Only the two terminators with a carriage return start with the same character. -/
theorem eq_or_of_head?_text (h : t.text.head? = u.text.head?) :
    t = u ∨ t = .returnFeed ∧ u = .carriageReturn ∨ t = .carriageReturn ∧ u = .returnFeed := by
  cases t <;> cases u <;> simp [text] at h ⊢

/-- No terminator is written without a character. -/
theorem text_ne_nil (t : Terminator) : t.text ≠ [] := by
  cases t <;> exact List.cons_ne_nil _ _

/-- Every character of a written terminator ends a line. -/
theorem isTerminator_of_mem_text {c : Char} (h : c ∈ t.text) : isTerminator c = true := by
  cases t with
  | returnFeed => rcases List.mem_pair.1 h with rfl | rfl <;> rfl
  | feed | carriageReturn | nextLine | lineSeparator | paragraphSeparator =>
    rw [List.mem_singleton.1 h]
    rfl

/-- What a terminator may run into is a line feed behind a carriage return. -/
theorem meetInTerminator_text :
    MeetInTerminator t.text rest ↔ t = .carriageReturn ∧ rest.head? = some '\n' := by
  cases t <;> simp [MeetInTerminator, text]

/-- A terminator is read off in one way, unless it runs into what follows it. -/
theorem text_append_inj (ht : ¬ MeetInTerminator t.text rest)
    (hu : ¬ MeetInTerminator u.text rest') (h : t.text ++ rest = u.text ++ rest') :
    t = u ∧ rest = rest' := by
  have hhead : t.text.head? = u.text.head? := by
    rw [← List.head?_append_of_ne_nil _ t.text_ne_nil, h,
      List.head?_append_of_ne_nil _ u.text_ne_nil]
  rcases eq_or_of_head?_text hhead with rfl | ⟨rfl, rfl⟩ | ⟨rfl, rfl⟩
  · exact ⟨rfl, List.append_cancel_left h⟩
  · obtain rfl : '\n' :: rest = rest' := (List.cons.inj h).2
    exact absurd (meetInTerminator_text.2 ⟨rfl, rfl⟩) hu
  · obtain rfl : rest = '\n' :: rest' := (List.cons.inj h).2
    exact absurd (meetInTerminator_text.2 ⟨rfl, rfl⟩) ht

/-- A line feed in place of a carriage return, whether a line feed follows it or not. -/
def unified : Terminator → Terminator
  | returnFeed | carriageReturn => feed
  | t => t

end Terminator

/-! ## Lines with their terminators -/

/-- A line and what ends it. No terminator stands in the line. -/
@[ext]
structure EndedLine where
  line : List Char
  terminator : Terminator
  unbroken : ∀ c ∈ line, isTerminator c = false
  deriving DecidableEq

namespace EndedLine

/-- The characters of the line and of its terminator. -/
def text (l : EndedLine) : List Char := l.line ++ l.terminator.text

/-- Nothing stands between the carriage return that ends the first line and the line feed that ends
the second one. -/
def RunsInto (first second : EndedLine) : Prop :=
  first.terminator = .carriageReturn ∧ second.line = [] ∧ second.terminator = .feed

instance (first second : EndedLine) : Decidable (first.RunsInto second) :=
  inferInstanceAs (Decidable (_ ∧ _))

/-- The line with a line feed in place of a carriage return. -/
def unified (l : EndedLine) : EndedLine := { l with terminator := l.terminator.unified }

/-- An ended line ends as its terminator does. -/
theorem getLast?_text (l : EndedLine) : l.text.getLast? = l.terminator.text.getLast? :=
  List.getLast?_append_of_ne_nil _ l.terminator.text_ne_nil

/-- What follows a line meets its terminator. -/
theorem meetInTerminator_iff {l : EndedLine} {rest : List Char} :
    MeetInTerminator l.text rest ↔ MeetInTerminator l.terminator.text rest := by
  rw [MeetInTerminator, MeetInTerminator, getLast?_text]

/-- An ended line runs together with what follows if a carriage return meets a line feed. -/
theorem meetInTerminator_text {l : EndedLine} {rest : List Char} :
    MeetInTerminator l.text rest ↔ l.terminator = .carriageReturn ∧ rest.head? = some '\n' :=
  meetInTerminator_iff.trans Terminator.meetInTerminator_text

end EndedLine

/-- No line runs into the next one. -/
def AreSeparate (lines : List EndedLine) : Prop :=
  lines.IsChain fun first second => ¬ first.RunsInto second

instance (lines : List EndedLine) : Decidable (AreSeparate lines) :=
  inferInstanceAs (Decidable (lines.IsChain _))

/-- The text of some lines. -/
def written (lines : List EndedLine) : List Char := lines.flatMap EndedLine.text

/-- Separate lines, and what stands behind the last terminator. There is nothing if the text ends in
a terminator. -/
@[ext]
structure LinedText where
  ended : List EndedLine
  rest : List Char
  unbroken : ∀ c ∈ rest, isTerminator c = false
  separate : AreSeparate ended

/-- The text of the lines with the rest. -/
def LinedText.text (t : LinedText) : List Char := written t.ended ++ t.rest

section Lines

variable {l : EndedLine} {lines : List EndedLine} {rest : List Char}

/-- Lines are written one after another. -/
theorem written_cons_append (l : EndedLine) (lines : List EndedLine) (rest : List Char) :
    written (l :: lines) ++ rest = l.text ++ (written lines ++ rest) := by
  rw [written, List.flatMap_cons, ← written, List.append_assoc]

/-- A text starts with a line feed if its first line is empty and ended by one. -/
theorem head?_written_append (hrest : ∀ c ∈ rest, isTerminator c = false) :
    (written lines ++ rest).head? = some '\n' ↔
      ∃ l ∈ lines.head?, l.line = [] ∧ l.terminator = .feed := by
  have hfeed : isTerminator '\n' = true := rfl
  -- A text starts with a line feed only if its first line is empty and ends with it.
  cases lines with
  | nil =>
    refine iff_of_false (fun h => ?_) (by simp)
    have hmem : '\n' ∈ rest := List.mem_of_mem_head? h
    rw [hrest _ hmem] at hfeed
    cases hfeed
  | cons l lines =>
    obtain ⟨line, t, hline⟩ := l
    rw [written_cons_append, EndedLine.text]
    cases line with
    | nil => cases t <;> simp [Terminator.text]
    | cons c line =>
      have hc : c ≠ '\n' := by
        rintro rfl
        rw [hline _ List.mem_cons_self] at hfeed
        cases hfeed
      simp [hc]

/-- A line runs into the text that follows if it runs into the first line of that. -/
theorem meetInTerminator_written (hrest : ∀ c ∈ rest, isTerminator c = false) :
    MeetInTerminator l.text (written lines ++ rest) ↔ ∃ next ∈ lines.head?, l.RunsInto next := by
  rw [EndedLine.meetInTerminator_text, head?_written_append hrest]
  simp only [EndedLine.RunsInto, exists_and_left, and_left_comm]

/-- Lines are separate if the first one does not run together with what follows, and the others are
separate. -/
theorem areSeparate_cons (hrest : ∀ c ∈ rest, isTerminator c = false) :
    AreSeparate (l :: lines) ↔
      ¬ MeetInTerminator l.text (written lines ++ rest) ∧ AreSeparate lines := by
  rw [meetInTerminator_written hrest, AreSeparate, List.isChain_cons, ← AreSeparate]
  simp only [not_exists, not_and]

/-! ## Lines from texts -/

/-- A line comes back before the lines of the text that follows, unless it runs into that. -/
theorem splitLines_text_append (h : ¬ MeetInTerminator l.text rest) :
    splitLines (l.text ++ rest) = l.line :: splitLines rest := by
  have hterminated : IsTerminated l.text := by
    intro c hc
    rw [l.getLast?_text] at hc
    exact Terminator.isTerminator_of_mem_text (List.mem_of_mem_getLast? hc)
  have hline : splitLines l.text = [l.line] := by
    obtain ⟨others, hsplit, hothers⟩ := splitLines_ended l.unbroken l.terminator []
    rw [List.append_nil] at hsplit
    rcases hothers with rfl | hnil
    · exact hsplit
    · cases hnil
  rw [splitLines_append_of_isTerminated hterminated h, hline]
  rfl

/-- A line that runs into the text that follows takes up the empty line at the start of it. -/
theorem splitLines_text_append_of_meet (h : MeetInTerminator l.text rest) :
    ∃ others, splitLines rest = [] :: others ∧ splitLines (l.text ++ rest) = l.line :: others := by
  obtain ⟨line, t, hline⟩ := l
  obtain ⟨hreturn, hhead⟩ := EndedLine.meetInTerminator_text.1 h
  obtain rfl : t = .carriageReturn := hreturn
  obtain ⟨rest, rfl⟩ := List.head?_eq_some_iff.1 hhead
  -- The line is ended by the carriage return and the line feed together.
  let both : EndedLine := ⟨line, .returnFeed, hline⟩
  have hboth : ¬ MeetInTerminator both.text rest := fun hmeet =>
    Terminator.noConfusion (EndedLine.meetInTerminator_text.1 hmeet).1
  have hsplit : splitLines (both.text ++ rest) = line :: splitLines rest :=
    splitLines_text_append hboth
  have htext : both.text ++ rest = (line ++ ['\r']) ++ '\n' :: rest := by
    simp [both, EndedLine.text, Terminator.text]
  rw [htext] at hsplit
  have hempty : ∀ c ∈ ([] : List Char), isTerminator c = false := by simp
  exact ⟨splitLines rest, splitLines_append hempty rest, hsplit⟩

/-- A text has at most as many lines as have been written, and those of the rest. -/
theorem length_splitLines_written_append (lines : List EndedLine) (rest : List Char) :
    (splitLines (written lines ++ rest)).length ≤ lines.length + (splitLines rest).length := by
  induction lines with
  | nil => exact Nat.le_of_eq (Nat.zero_add _).symm
  | cons l lines ih =>
    rw [written_cons_append, List.length_cons]
    by_cases h : MeetInTerminator l.text (written lines ++ rest)
    · obtain ⟨others, hothers, hsplit⟩ := splitLines_text_append_of_meet h
      rw [hothers, List.length_cons] at ih
      rw [hsplit, List.length_cons]
      omega
    · rw [splitLines_text_append h, List.length_cons]
      omega

/-- Lines come back from their text exactly if they are separate. -/
theorem splitLines_written_iff (hrest : ∀ c ∈ rest, isTerminator c = false) :
    splitLines (written lines ++ rest) = lines.map (·.line) ++ splitLines rest ↔
      AreSeparate lines := by
  induction lines with
  | nil => exact iff_of_true rfl List.IsChain.nil
  | cons l lines ih =>
    rw [areSeparate_cons hrest, ← ih, written_cons_append, List.map_cons, List.cons_append]
    by_cases h : MeetInTerminator l.text (written lines ++ rest)
    · -- One line less comes back of those after the first one.
      obtain ⟨others, hothers, hsplit⟩ := splitLines_text_append_of_meet h
      have hlength := length_splitLines_written_append lines rest
      refine iff_of_false (fun heq => ?_) fun hboth => hboth.1 h
      rw [hsplit] at heq
      rw [hothers, (List.cons.inj heq).2, List.length_cons, List.length_append,
        List.length_map] at hlength
      omega
    · rw [splitLines_text_append h, List.cons_inj_right]
      exact (and_iff_right h).symm

/-! ## Texts as lines -/

/-- Whatever follows it, a first line is read off in one way. -/
theorem EndedLine.text_append_inj {l m : EndedLine} {rest rest' : List Char}
    (hl : ¬ MeetInTerminator l.text rest) (hm : ¬ MeetInTerminator m.text rest')
    (h : l.text ++ rest = m.text ++ rest') : l = m ∧ rest = rest' := by
  have hsplit := congrArg splitLines h
  rw [splitLines_text_append hl, splitLines_text_append hm] at hsplit
  have hline : l.line = m.line := (List.cons.inj hsplit).1
  rw [text, text, hline, List.append_assoc, List.append_assoc] at h
  rw [meetInTerminator_iff] at hl hm
  obtain ⟨hterminator, hrest⟩ := Terminator.text_append_inj hl hm (List.append_cancel_left h)
  exact ⟨EndedLine.ext hline hterminator, hrest⟩

/-- A rest without terminators holds no ended line. -/
theorem EndedLine.ne_text_append (hrest : ∀ c ∈ rest, isTerminator c = false) (l : EndedLine)
    (rest' : List Char) : rest ≠ l.text ++ rest' := by
  rintro rfl
  obtain ⟨c, hc⟩ := List.exists_mem_of_ne_nil _ l.terminator.text_ne_nil
  have hmem : c ∈ l.text ++ rest' := List.mem_append_left _ (List.mem_append_right _ hc)
  exact absurd (hrest c hmem) (by rw [Terminator.isTerminator_of_mem_text hc]; decide)

/-- Ended lines and an unended rest can be told from the text that they are written as. -/
theorem written_append_inj {lines lines' : List EndedLine} {rest rest' : List Char}
    (hrest : ∀ c ∈ rest, isTerminator c = false) (hrest' : ∀ c ∈ rest', isTerminator c = false)
    (hlines : AreSeparate lines) (hlines' : AreSeparate lines')
    (h : written lines ++ rest = written lines' ++ rest') : lines = lines' ∧ rest = rest' := by
  induction lines generalizing lines' with
  | nil =>
    cases lines' with
    | nil => exact ⟨rfl, h⟩
    | cons l' lines' =>
      rw [written_cons_append] at h
      exact absurd h (EndedLine.ne_text_append hrest l' _)
  | cons l lines ih =>
    rw [written_cons_append] at h
    cases lines' with
    | nil => exact absurd h.symm (EndedLine.ne_text_append hrest' l _)
    | cons l' lines' =>
      rw [written_cons_append] at h
      obtain ⟨hl, hothers⟩ := (areSeparate_cons hrest).1 hlines
      obtain ⟨hl', hothers'⟩ := (areSeparate_cons hrest').1 hlines'
      -- Reading off the first line of both leaves the same text.
      obtain ⟨rfl, hafter⟩ := EndedLine.text_append_inj hl hl' h
      obtain ⟨rfl, rfl⟩ := ih hothers hothers' hafter
      exact ⟨rfl, rfl⟩

/-- No two ways to put lines together give the same text. -/
theorem LinedText.text_injective : Function.Injective LinedText.text := by
  intro t u h
  obtain ⟨hended, hrest⟩ :=
    written_append_inj t.unbroken u.unbroken t.separate u.separate h
  exact LinedText.ext hended hrest

/-- The terminator that a character is by itself. -/
theorem exists_terminator {c : Char} (hc : isTerminator c = true) :
    ∃ t : Terminator, t.text = [c] := by
  simp only [isTerminator, Bool.or_eq_true, decide_eq_true_eq] at hc
  rcases hc with (((rfl | rfl) | rfl) | rfl) | rfl
  · exact ⟨.feed, rfl⟩
  · exact ⟨.carriageReturn, rfl⟩
  · exact ⟨.nextLine, rfl⟩
  · exact ⟨.lineSeparator, rfl⟩
  · exact ⟨.paragraphSeparator, rfl⟩

/-- A terminator in front of a text ends an empty line. Only a carriage return in front of a line
feed that does so is joined with it. -/
theorem LinedText.exists_cons_terminator {c : Char} (hc : isTerminator c = true) (t : LinedText) :
    ∃ u : LinedText, u.text = c :: t.text := by
  obtain ⟨ended, rest, hrest, hended⟩ := t
  obtain ⟨terminator, hterminator⟩ := exists_terminator hc
  let first : EndedLine := ⟨[], terminator, by simp⟩
  -- The terminator ends an empty line, unless it is a carriage return that runs into a line feed.
  by_cases h : AreSeparate (first :: ended)
  · refine ⟨⟨first :: ended, rest, hrest, h⟩, ?_⟩
    rw [text, written_cons_append, EndedLine.text, hterminator]
    rfl
  cases ended with
  | nil => exact absurd (.singleton first) h
  | cons next lines =>
    obtain ⟨hreturn, hline, hfeed⟩ : first.RunsInto next :=
      by_contra fun hinto => h (.cons_cons hinto hended)
    let both : EndedLine := ⟨[], .returnFeed, by simp⟩
    have hboth : AreSeparate (both :: lines) :=
      hended.imp_head fun _ (hinto : both.RunsInto _) => Terminator.noConfusion hinto.1
    obtain rfl : terminator = .carriageReturn := hreturn
    obtain rfl : '\r' = c := (List.cons.inj hterminator).1
    refine ⟨⟨both :: lines, rest, hrest, hboth⟩, ?_⟩
    rw [text, text, written_cons_append, written_cons_append, EndedLine.text, EndedLine.text, hline,
      hfeed]
    rfl

/-- A character that ends no line belongs to the first line of the text it is put in front of. -/
theorem LinedText.exists_cons_of_not_isTerminator {c : Char} (hc : isTerminator c = false)
    (t : LinedText) : ∃ u : LinedText, u.text = c :: t.text := by
  obtain ⟨ended, rest, hrest, hended⟩ := t
  cases ended with
  | nil => exact ⟨⟨[], c :: rest, List.forall_mem_cons.2 ⟨hc, hrest⟩, hended⟩, rfl⟩
  | cons l lines =>
    let longer : EndedLine := ⟨c :: l.line, l.terminator, List.forall_mem_cons.2 ⟨hc, l.unbroken⟩⟩
    have hlonger : AreSeparate (longer :: lines) := hended.imp_head fun hne hinto => hne hinto
    exact ⟨⟨longer :: lines, rest, hrest, hlonger⟩, rfl⟩

/-- Every text consists of separate lines and a rest, in one way. -/
theorem existsUnique_linedText (text : List Char) : ∃! t : LinedText, t.text = text := by
  refine existsUnique_of_exists_of_unique ?_ fun t u ht hu =>
    LinedText.text_injective (ht.trans hu.symm)
  induction text with
  | nil => exact ⟨⟨[], [], by simp, .nil⟩, rfl⟩
  | cons c text ih =>
    obtain ⟨t, rfl⟩ := ih
    cases hc : isTerminator c with
    | true => exact t.exists_cons_terminator hc
    | false => exact t.exists_cons_of_not_isTerminator hc

/-! ## Kinds of terminators -/

/-- Unifying newlines leaves the characters of a line as they are. -/
theorem unifyNewlines_append {line : List Char} (hline : ∀ c ∈ line, isTerminator c = false)
    (rest : List Char) : unifyNewlines (line ++ rest) = line ++ unifyNewlines rest := by
  induction line with
  | nil => rfl
  | cons c line ih =>
    obtain ⟨hc, hothers⟩ := List.forall_mem_cons.1 hline
    have hreturn : c ≠ '\r' := by
      rintro rfl
      cases hc
    rw [List.cons_append, unifyNewlines.eq_3 c _ fun _ h => absurd h hreturn, if_neg hreturn,
      ih hothers, List.cons_append]

/-- Unifying newlines turns a terminator into its unified form, unless it runs together with what
follows. -/
theorem Terminator.unifyNewlines_text_append {t : Terminator}
    (h : ¬ MeetInTerminator t.text rest) :
    unifyNewlines (t.text ++ rest) = t.unified.text ++ unifyNewlines rest := by
  cases t with
  | returnFeed => exact unifyNewlines.eq_2 rest
  | carriageReturn =>
    refine unifyNewlines.eq_3 '\r' rest ?_
    rintro rest' - rfl
    exact h (meetInTerminator_text.2 ⟨rfl, rfl⟩)
  | feed | nextLine | lineSeparator | paragraphSeparator =>
    exact unifyNewlines.eq_3 _ rest fun _ hreturn => absurd hreturn (by decide)

/-- With line feeds in place of carriage returns a text has the same lines, ended by other
terminators. -/
theorem unifyNewlines_written (hrest : ∀ c ∈ rest, isTerminator c = false)
    (hlines : AreSeparate lines) :
    unifyNewlines (written lines ++ rest) = written (lines.map EndedLine.unified) ++ rest := by
  induction lines with
  | nil => simpa [written, unifyNewlines] using unifyNewlines_append hrest []
  | cons l lines ih =>
    obtain ⟨hl, hothers⟩ := (areSeparate_cons hrest).1 hlines
    rw [EndedLine.meetInTerminator_iff] at hl
    rw [List.map_cons, written_cons_append, written_cons_append, ← ih hothers, EndedLine.text,
      EndedLine.text, List.append_assoc, unifyNewlines_append l.unbroken,
      Terminator.unifyNewlines_text_append hl, List.append_assoc]
    rfl

end Lines

/-- Texts are taken apart into lines and put together from them without loss. Lines that are written
with any terminators come back from their text exactly if they are separate, also where the last
line is not empty and has no terminator. Every text is written in this way from separate lines, and
from no others, and no line of a text holds a terminator. Line feeds in place of all carriage
returns, with or without a line feed, leave the lines as they are. -/
theorem lines_of_written_text :
    (∀ lines : List EndedLine,
      (splitLines (written lines) = lines.map (·.line) ↔ AreSeparate lines) ∧
      ∀ last, last ≠ [] → (∀ c ∈ last, isTerminator c = false) →
        (splitLines (written lines ++ last) = lines.map (·.line) ++ [last] ↔
          AreSeparate lines)) ∧
    (∀ text, (∃! t : LinedText, t.text = text) ∧
      ∀ line ∈ splitLines text, ∀ c ∈ line, isTerminator c = false) ∧
    (∀ t : LinedText, unifyNewlines t.text = written (t.ended.map EndedLine.unified) ++ t.rest) ∧
    ∀ text, splitLines (unifyNewlines text) = splitLines text := by
  refine ⟨fun lines => ⟨?_, fun last hne hlast => ?_⟩, fun text => ⟨existsUnique_linedText text,
    fun line hline => not_isTerminator_of_mem_splitLines hline⟩,
    fun t => unifyNewlines_written t.unbroken t.separate, splitLines_unifyNewlines⟩
  · have hended : splitLines (written lines ++ []) = lines.map (·.line) ++ splitLines [] ↔
        AreSeparate lines := splitLines_written_iff (by simp)
    have hnone : splitLines [] = [] := rfl
    rwa [List.append_nil, hnone, List.append_nil] at hended
  · have hunended : splitLines (written lines ++ last) = lines.map (·.line) ++ splitLines last ↔
        AreSeparate lines := splitLines_written_iff hlast
    rwa [splitLines_unended hlast, if_neg (by simpa using hne)] at hunended

/-- Lines with all terminators. After a carriage return there is an empty line with a terminator of
two characters, and one with a line feed that is not empty. -/
def mixedLines : List EndedLine :=
  [⟨['a'], .carriageReturn, by simp [isTerminator]⟩, ⟨[], .returnFeed, by simp⟩,
    ⟨['b', ' '], .carriageReturn, by simp [isTerminator]⟩,
    ⟨['\x0c'], .feed, by simp [isTerminator]⟩, ⟨[], .feed, by simp⟩,
    ⟨[], .lineSeparator, by simp⟩, ⟨['c'], .nextLine, by simp [isTerminator]⟩,
    ⟨[], .paragraphSeparator, by simp⟩]

/-- A text with every kind of terminator, empty lines and an unended last line. -/
theorem lines_of_written_text_mixed :
    AreSeparate mixedLines ∧ "end".toList ≠ [] ∧
    (∀ c ∈ "end".toList, isTerminator c = false) ∧
    splitLines "a\r\r\nb \r\x0c\n\n\u2028c\u0085\u2029end".toList =
      ["a".toList, [], "b ".toList, ['\x0c'], [], [], "c".toList, [], "end".toList] := by
  have hseparate : AreSeparate mixedLines := by decide
  have hne : "end".toList ≠ [] := by decide
  have hend : ∀ c ∈ "end".toList, isTerminator c = false := by simp [isTerminator]
  exact ⟨hseparate, hne, hend,
    ((lines_of_written_text.1 mixedLines).2 "end".toList hne hend).2 hseparate⟩

end PhoneticCatalog.Text
