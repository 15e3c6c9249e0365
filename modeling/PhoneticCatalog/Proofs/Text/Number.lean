import Mathlib.Tactic.IntervalCases
import Mathlib.Tactic.Ring
import PhoneticCatalog.Proofs.Text.Line
import PhoneticCatalog.Text.Number

/-!
# Whole numbers that are written out

A whole number that was read has no more digits than may be read (`natAbs_lt_of_readInt?`), however
it was written: with blanks, a sign, leading zeros, underscores or digits of other scripts. So it is
read back when it is written with plain decimal digits (`readInt?_toDigits`).
-/

namespace PhoneticCatalog.Text

namespace Number

/-! ## Digits and their values -/

/-- The digits of a decimal number are decimal digits. -/
theorem digitValue?_ten {c : Char} {d : Nat} (h : digitValue? 10 c = some d) :
    decimalValue? c.toNat = some d ∧ d < 10 := by
  rw [digitValue?, Option.filter_eq_some_iff, decide_eq_true_eq] at h
  obtain ⟨hvalue, hd⟩ := h
  refine ⟨?_, hd⟩
  cases hdecimal : decimalValue? c.toNat with
  | some e =>
    rw [hdecimal] at hvalue
    exact hvalue
  | none =>
    -- Letters stand for ten and more.
    rw [hdecimal] at hvalue
    simp only at hvalue
    split at hvalue
    · obtain rfl := Option.some.inj hvalue
      omega
    · split at hvalue
      · obtain rfl := Option.some.inj hvalue
        omega
      · cases hvalue

/-- The value of an ASCII digit as a digit of any script. -/
theorem decimalValue?_of_isDigit {c : Char} (h : c.isDigit = true) :
    decimalValue? c.toNat = some (c.toNat - '0'.toNat) := by
  obtain ⟨hlow, hhigh⟩ : 48 ≤ c.toNat ∧ c.toNat ≤ 57 := Char.isDigit_iff_toNat.1 h
  generalize c.toNat = code at hlow hhigh
  interval_cases code <;> decide

/-- The value of an ASCII digit in a decimal number. -/
theorem digitValue?_of_isDigit {c : Char} (h : c.isDigit = true) :
    digitValue? 10 c = some (c.toNat - '0'.toNat) := by
  obtain ⟨-, hhigh⟩ : 48 ≤ c.toNat ∧ c.toNat ≤ 57 := Char.isDigit_iff_toNat.1 h
  rw [digitValue?, decimalValue?_of_isDigit h, Option.filter_some, if_pos]
  exact decide_eq_true (by show c.toNat - 48 < 10; omega)

/-- The digits of a number have values below ten, one for each digit, and nothing but underscores
stands between them. -/
structure AreDigits (digits : List Char) (values : List Nat) : Prop where
  length : values.length = (digits.filter (· ≠ '_')).length
  lt_ten : ∀ d ∈ values, d < 10
  decimal : ∀ c ∈ digits, c = '_' ∨ (decimalValue? c.toNat).isSome

theorem AreDigits.nil : AreDigits [] [] := ⟨rfl, by simp, by simp⟩

/-- An underscore writes no digit. -/
theorem AreDigits.underscore {digits : List Char} {values : List Nat}
    (h : AreDigits digits values) : AreDigits ('_' :: digits) values where
  length := h.length
  lt_ten := h.lt_ten
  decimal c hc := (List.mem_cons.1 hc).elim Or.inl (h.decimal c)

/-- One more digit is counted once. -/
theorem AreDigits.cons {c : Char} {d : Nat} {digits : List Char} {values : List Nat}
    (hc : digitValue? 10 c = some d) (h : AreDigits digits values) :
    AreDigits (c :: digits) (d :: values) := by
  obtain ⟨hdecimal, hd⟩ := digitValue?_ten hc
  have hne : c ≠ '_' := by
    rintro rfl
    exact absurd hdecimal (by decide +revert)
  refine ⟨?_, ?_, ?_⟩
  · rw [List.filter_cons_of_pos (by simpa using hne), List.length_cons, List.length_cons, h.length]
  · exact List.forall_mem_cons.2 ⟨hd, h.lt_ten⟩
  · refine List.forall_mem_cons.2 ⟨Or.inr ?_, h.decimal⟩
    rw [hdecimal]
    rfl

/-- The values that are read are those of the digits, apart from underscores. -/
theorem areDigits_of_digitValues? {digits : List Char} {values : List Nat}
    (h : digitValues? 10 digits = some values) : AreDigits digits values := by
  fun_induction digitValues? 10 digits generalizing values with
  | case1 => cases h
  | case2 c =>
    obtain ⟨d, hd, rfl⟩ := Option.map_eq_some_iff.1 h
    exact .cons hd .nil
  | case3 c rest ih =>
    obtain ⟨d, hd, h⟩ := Option.bind_eq_some_iff.1 h
    obtain ⟨ds, hds, h⟩ := Option.bind_eq_some_iff.1 h
    obtain rfl := Option.some.inj h
    exact .cons hd (ih hds).underscore
  | case4 c rest hne hunderscore ih =>
    obtain ⟨d, hd, h⟩ := Option.bind_eq_some_iff.1 h
    obtain ⟨ds, hds, h⟩ := Option.bind_eq_some_iff.1 h
    obtain rfl := Option.some.inj h
    exact .cons hd (ih hds)

/-- An ASCII digit is no padding. -/
theorem isPadding_of_isDigit {c : Char} (h : c.isDigit = true) : isPadding c = false := by
  obtain ⟨hlow, hhigh⟩ : 48 ≤ c.toNat ∧ c.toNat ≤ 57 := Char.isDigit_iff_toNat.1 h
  have hspace : isSpace c.toNat = false := by
    simp only [isSpace, Bool.or_eq_false_iff, Bool.and_eq_false_iff, decide_eq_false_iff_not]
    omega
  rw [isPadding, hspace, Bool.false_and]

/-- ASCII digits have no padding around them. -/
theorem unpad_of_isDigit {digits : List Char} (h : ∀ c ∈ digits, c.isDigit = true) :
    unpad digits = digits :=
  stripWhile_eq_self (fun c hc => isPadding_of_isDigit (h c (List.mem_of_mem_head? hc)))
    fun c hc => isPadding_of_isDigit (h c (List.mem_of_mem_getLast? hc))

/-- ASCII digits have no sign before them. -/
theorem splitSign_of_isDigit {digits : List Char} (h : ∀ c ∈ digits, c.isDigit = true) :
    splitSign digits = (false, digits) := by
  unfold splitSign
  split
  · exact absurd (h '-' List.mem_cons_self) (by decide)
  · exact absurd (h '+' List.mem_cons_self) (by decide)
  · rfl

/-- Digits alone are read as what they stand for. -/
theorem digitValues?_of_isDigit {digits : List Char} (hne : digits ≠ [])
    (h : ∀ c ∈ digits, c.isDigit = true) :
    digitValues? 10 digits = some (digits.map fun c => c.toNat - '0'.toNat) := by
  fun_induction digitValues? 10 digits with
  | case1 => exact absurd rfl hne
  | case2 c => rw [digitValue?_of_isDigit (h c List.mem_cons_self)]; rfl
  | case3 c rest ih =>
    have hunderscore : '_'.isDigit = true := h '_' (List.mem_cons_of_mem c List.mem_cons_self)
    exact absurd hunderscore (by decide)
  | case4 c rest hne' hunderscore ih =>
    rw [digitValue?_of_isDigit (h c List.mem_cons_self),
      ih hne' fun d hd => h d (List.mem_cons_of_mem c hd)]
    rfl

/-! ## The size of a number -/

/-- A number lies below the power of its base that has one more digit. -/
theorem ofDigits_lt {base : Nat} {ds : List Nat} (h : ∀ d ∈ ds, d < base) :
    ofDigits base ds < base ^ ds.length := by
  -- The digits so far count once more for each digit that follows.
  have hfold : ∀ n, ds.foldl (fun n d => base * n + d) n < (n + 1) * base ^ ds.length := by
    induction ds with
    | nil => simp
    | cons d ds ih =>
      intro n
      obtain ⟨hd, hds⟩ := List.forall_mem_cons.1 h
      calc
        (d :: ds).foldl (fun n d => base * n + d) n
          = ds.foldl (fun n d => base * n + d) (base * n + d) := rfl
        _ < (base * n + d + 1) * base ^ ds.length := ih hds _
        _ ≤ (base * n + base) * base ^ ds.length := Nat.mul_le_mul_right _ (by omega)
        _ = (n + 1) * base ^ (ds.length + 1) := by ring
  simpa [ofDigits] using hfold 0

/-- Where nothing but digits follows the sign, all of them are counted. -/
theorem decimalCount_eq {text digits : List Char} {values : List Nat}
    (htext : (splitSign (unpad text)).2 = digits) (h : AreDigits digits values) :
    decimalCount text = values.length := by
  have hall : (digits.takeWhile fun c => c = '_' || (decimalValue? c.toNat).isSome) = digits :=
    List.takeWhile_eq_self_iff.2 fun c hc => by simpa using h.decimal c hc
  rw [decimalCount, htext, hall, h.length]

/-- Decimal digits are announced by nothing. -/
theorem unannounced_ten (digits : List Char) : unannounced 10 digits = digits := by
  unfold unannounced
  split
  · exact if_neg (by simp [baseLetters])
  · rfl

end Number

open Number

/-- What can be read has no more digits than may be read. -/
theorem natAbs_lt_of_readInt? {text : List Char} {n : Int} (h : readInt? text = some n) :
    n.natAbs < 10 ^ maxDigits := by
  rw [readInt?] at h
  split at h
  · cases h
  rename_i hcount
  obtain ⟨values, hvalues, hn⟩ := Option.bind_eq_some_iff.1 h
  rw [unannounced_ten] at hvalues
  have hdigits := areDigits_of_digitValues? hvalues
  -- Every value has its digit, and the number of digits is bounded.
  have hlength : values.length ≤ maxDigits := by
    rw [← decimalCount_eq rfl hdigits]
    exact Nat.le_of_not_lt hcount
  have habs : n.natAbs = ofDigits 10 values := by
    obtain rfl := Option.some.inj hn
    split <;> simp
  rw [habs]
  exact Nat.lt_of_lt_of_le (ofDigits_lt hdigits.lt_ten) (Nat.pow_le_pow_right (by decide) hlength)

/-- A number that is written with plain digits is read back, if it has no more of them than may be
read. -/
theorem readInt?_toDigits {n : Nat} (h : n < 10 ^ maxDigits) :
    readInt? (Nat.toDigits 10 n) = some (n : Int) := by
  have hdigit : ∀ c ∈ Nat.toDigits 10 n, c.isDigit = true := fun c hc =>
    Nat.isDigit_of_mem_toDigits (by decide) (by decide) hc
  -- Digits need no padding and no sign to be taken off.
  have hsplit : splitSign (unpad (Nat.toDigits 10 n)) = (false, Nat.toDigits 10 n) := by
    rw [unpad_of_isDigit hdigit, splitSign_of_isDigit hdigit]
  have hvalues := digitValues?_of_isDigit Nat.toDigits_ne_nil hdigit
  have hcount : decimalCount (Nat.toDigits 10 n) ≤ maxDigits := by
    have hdigits := areDigits_of_digitValues? hvalues
    rw [decimalCount_eq (congrArg Prod.snd hsplit) hdigits, List.length_map]
    exact (Nat.length_toDigits_le_iff (by decide) (by decide)).2 h
  have hn : ofDigits 10 ((Nat.toDigits 10 n).map fun c => c.toNat - '0'.toNat) = n := by
    rw [ofDigits, List.foldl_map, ← Nat.ofDigitChars_eq_foldl, Nat.ofDigitChars_ten_toDigits]
  rw [readInt?, if_neg (Nat.not_lt.2 hcount), readIntTo?, hsplit]
  simp only [unannounced_ten, hvalues, Option.bind_eq_bind, Option.bind_some, hn]
  rfl

end PhoneticCatalog.Text
