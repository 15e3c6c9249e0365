import Mathlib.Data.Nat.Basic
import PhoneticCatalog.Proofs.Text.Line
import PhoneticCatalog.Text.Encoding

/-!
# Texts in files

A text that is written to a file in UTF-8 is read back with every line ending as a line feed, and
with all of its characters otherwise (`decode_encodeUtf8`). Its lines stay what they were
(`splitLines_unifyNewlines`): a carriage return with a line feed is one terminator before and after,
and no other terminator comes into being.
-/

namespace PhoneticCatalog.Text

namespace Encoding

/-! ## Characters in UTF-8 -/

/-- A byte after the first one carries six bits. -/
def laterByte (n : Nat) : UInt8 := UInt8.ofNat (n % 64 + 128)

/-- A byte holds every number below 256. -/
theorem toNat_ofNat_of_lt {n : Nat} (h : n < 256) : (UInt8.ofNat n).toNat = n := by
  rw [UInt8.toNat_ofNat', Nat.mod_eq_of_lt h]

/-- A later byte of a character is marked by its first two bits. -/
theorem toNat_laterByte (n : Nat) : (laterByte n).toNat = n % 64 + 128 :=
  toNat_ofNat_of_lt (by omega)

/-- Later bytes are recognized as such. -/
theorem continues_laterByte (n : Nat) : continues (laterByte n) = true := by
  simp only [continues, toNat_laterByte, Bool.and_eq_true, decide_eq_true_eq]
  omega

/-- Further bytes append their six bits each. -/
theorem join_laterBytes (first : Nat) (more : List Nat) :
    join first (more.map laterByte) =
      Char.ofNat (more.foldl (fun n m => n * 64 + m % 64) first) := by
  rw [join, List.foldl_map]
  refine congrArg Char.ofNat (congrArg (List.foldl · first more) ?_)
  funext n m
  rw [toNat_laterByte]
  omega

/-- A second byte is allowed unless the first one needs it to be in a narrower range. -/
theorem secondAllowed_laterByte {a : UInt8} {n : Nat}
    (h : (a.toNat = 0xe0 → 32 ≤ n % 64) ∧ (a.toNat = 0xed → n % 64 < 32) ∧
      (a.toNat = 0xf0 → 16 ≤ n % 64) ∧ (a.toNat = 0xf4 → n % 64 < 16)) :
    secondAllowed a (laterByte n) = true := by
  simp only [secondAllowed, continues_laterByte, toNat_laterByte, Bool.and_eq_true,
    Bool.or_eq_true, decide_eq_true_eq, Bool.true_and, ne_eq]
  omega

/-- A first byte of more than one that some character has. -/
theorem not_badStart {n : Nat} (h : 0xc2 ≤ n) (h' : n ≤ 0xf4) :
    ¬ (decide (n < 0xc2) || decide (n > 0xf4)) = true := by
  rw [Bool.or_eq_true, decide_eq_true_eq, decide_eq_true_eq]
  omega

/-- A byte without the mark of a longer form stands for its character. -/
theorem utf8Char_one {a : UInt8} (ha : a.toNat < 0x80) (rest : List UInt8) :
    utf8Char (a :: rest) = .ok (Char.ofNat a.toNat, 1) := by
  simp only [utf8Char, if_pos ha]

/-- Two bytes give a character with five bits of the first one. -/
theorem utf8Char_two {a : UInt8} {first : Nat} (second : Nat) (ha : a.toNat = first + 0xc0)
    (h : 2 ≤ first ∧ first < 32) (rest : List UInt8) :
    utf8Char (a :: laterByte second :: rest) =
      .ok (Char.ofNat (first * 64 + second % 64), 2) := by
  have hfirst : a.toNat % 0x20 = first := by omega
  have hjoin := join_laterBytes first [second]
  simp only [utf8Char, hfirst]
  rw [if_neg (by omega), if_neg (not_badStart (by omega) (by omega)), if_pos (by omega),
    if_pos (continues_laterByte _)]
  exact congrArg (fun c => Except.ok (c, 2)) hjoin

/-- Three bytes give a character, where the second byte rules out longer forms than needed and
surrogates. -/
theorem utf8Char_three {a : UInt8} {first : Nat} (second third : Nat)
    (ha : a.toNat = first + 0xe0) (h : first < 16)
    (hsecond : (first = 0 → 32 ≤ second % 64) ∧ (first = 13 → second % 64 < 32))
    (rest : List UInt8) :
    utf8Char (a :: laterByte second :: laterByte third :: rest) =
      .ok (Char.ofNat ((first * 64 + second % 64) * 64 + third % 64), 3) := by
  have hfirst : a.toNat % 0x10 = first := by omega
  have hallowed : secondAllowed a (laterByte second) = true :=
    secondAllowed_laterByte (by omega)
  have hjoin := join_laterBytes first [second, third]
  simp only [utf8Char, hfirst, hallowed, continues_laterByte]
  rw [if_neg (by omega), if_neg (not_badStart (by omega) (by omega)), if_neg (by omega),
    if_neg (by decide), if_neg (by decide), if_pos (by omega)]
  exact congrArg (fun c => Except.ok (c, 3)) hjoin

/-- Four bytes give a character, where the second byte rules out longer forms than needed and
numbers beyond the last code point. -/
theorem utf8Char_four {a : UInt8} {first : Nat} (second third fourth : Nat)
    (ha : a.toNat = first + 0xf0) (h : first < 5)
    (hsecond : (first = 0 → 16 ≤ second % 64) ∧ (first = 4 → second % 64 < 16))
    (rest : List UInt8) :
    utf8Char (a :: laterByte second :: laterByte third :: laterByte fourth :: rest) =
      .ok (Char.ofNat (((first * 64 + second % 64) * 64 + third % 64) * 64 + fourth % 64), 4) := by
  have hfirst : a.toNat % 0x8 = first := by omega
  have hallowed : secondAllowed a (laterByte second) = true :=
    secondAllowed_laterByte (by omega)
  have hjoin := join_laterBytes first [second, third, fourth]
  simp only [utf8Char, hfirst, hallowed, continues_laterByte]
  rw [if_neg (by omega), if_neg (not_badStart (by omega) (by omega)), if_neg (by omega),
    if_neg (by decide), if_neg (by decide), if_neg (by omega), if_pos trivial]
  exact congrArg (fun c => Except.ok (c, 4)) hjoin

/-- The bytes of a character are decoded to it, whatever follows them. -/
theorem utf8Char_utf8EncodeChar (c : Char) (rest : List UInt8) :
    utf8Char (String.utf8EncodeChar c ++ rest) = .ok (c, (String.utf8EncodeChar c).length) := by
  have hvalid : c.toNat < 0xd800 ∨ 0xdfff < c.toNat ∧ c.toNat < 0x110000 := c.valid
  have hchar : Char.ofNat c.toNat = c := Char.ofNat_toNat c
  have hval : c.val.toNat = c.toNat := rfl
  unfold String.utf8EncodeChar
  simp only [hval]
  generalize c.toNat = v at *
  -- One case for each number of bytes; the code point is put together from its digits to base 64.
  split_ifs with h1 h2 h3
  · have hv : (UInt8.ofNat v).toNat = v := toNat_ofNat_of_lt (by omega)
    have hone := utf8Char_one (a := UInt8.ofNat v) (by omega) rest
    rw [hv, hchar] at hone
    exact hone
  · have htwo := utf8Char_two v (toNat_ofNat_of_lt (n := v / 64 % 32 + 0xc0) (by omega)) (by omega)
      rest
    have hv : v / 64 % 32 * 64 + v % 64 = v := by omega
    rw [hv, hchar] at htwo
    exact htwo
  · have hthree := utf8Char_three (v / 64) v
      (toNat_ofNat_of_lt (n := v / 4096 % 16 + 0xe0) (by omega)) (by omega) (by omega) rest
    have hv : (v / 4096 % 16 * 64 + v / 64 % 64) * 64 + v % 64 = v := by omega
    rw [hv, hchar] at hthree
    exact hthree
  · have hfour := utf8Char_four (v / 4096) (v / 64) v
      (toNat_ofNat_of_lt (n := v / 262144 % 8 + 0xf0) (by omega)) (by omega) (by omega) rest
    have hv : ((v / 262144 % 8 * 64 + v / 4096 % 64) * 64 + v / 64 % 64) * 64 + v % 64 = v := by
      omega
    rw [hv, hchar] at hfour
    exact hfour

/-! ## Texts in UTF-8 -/

/-- Decoding goes on behind the bytes of a first character. -/
theorem decodeAll_append {step : List UInt8 → Decoded} {bytes rest : List UInt8} {c : Char}
    (h : step (bytes ++ rest) = .ok (c, bytes.length)) (hbytes : bytes ≠ []) (codec : String)
    (bound start : Nat) :
    decodeAll codec step (bound + 1) start (bytes ++ rest) =
      match decodeAll codec step bound (start + bytes.length) rest with
      | .ok cs => .ok (c :: cs)
      | .error f => .error f := by
  obtain ⟨b, bs, rfl⟩ := List.exists_cons_of_ne_nil hbytes
  have hrest : (b :: bs ++ rest).drop (b :: bs).length = rest := List.drop_left
  rw [List.cons_append] at h hrest ⊢
  rw [decodeAll, h]
  exact congrArg
    (fun later => match decodeAll codec step bound (start + (b :: bs).length) later with
      | .ok cs => Except.ok (c :: cs)
      | .error f => .error f) hrest

/-- Characters written as bytes are read back one by one. -/
theorem decodeAll_encodeUtf8 (codec : String) (text : List Char) {bound : Nat} (start : Nat)
    (h : (encodeUtf8 text).length ≤ bound) :
    decodeAll codec utf8Char bound start (encodeUtf8 text) = .ok text := by
  induction text generalizing bound start with
  | nil => cases bound <;> rfl
  | cons c rest ih =>
    have hbytes : encodeUtf8 (c :: rest) = String.utf8EncodeChar c ++ encodeUtf8 rest :=
      List.flatMap_cons
    have hlength : 0 < (String.utf8EncodeChar c).length := by
      rw [String.length_utf8EncodeChar]
      exact c.utf8Size_pos
    rw [hbytes] at h ⊢
    rw [List.length_append] at h
    obtain ⟨bound, rfl⟩ : ∃ n, bound = n + 1 := ⟨bound - 1, by omega⟩
    rw [decodeAll_append (utf8Char_utf8EncodeChar c _) (List.ne_nil_of_length_pos hlength),
      ih _ (by omega)]

/-- A text comes back from its bytes. -/
theorem decode_encodeUtf8 (text : List Char) :
    (utf8 false).decode (encodeUtf8 text) = .ok text :=
  congrArg (Except.mapError DecodeError.fault)
    (decodeAll_encodeUtf8 "utf-8" text 0 (Nat.le_refl _))

end Encoding

/-! ## Line endings -/

/-- Line endings that are written as line feeds end the same pieces. -/
theorem splitPieces_unifyNewlines (text : List Char) :
    splitPieces (unifyNewlines text) = splitPieces text := by
  have hfeed : ∀ rest : List Char, splitPieces ('\n' :: rest) = [] :: splitPieces rest :=
    fun rest => splitPieces_terminator rfl fun _ h => absurd h (by decide)
  -- By induction along the replacement: both line ends with a carriage return become a feed.
  fun_induction unifyNewlines text with
  | case1 => rfl
  | case2 rest ih => rw [hfeed, ih, splitPieces]
  | case3 c rest hne ih =>
    by_cases hreturn : c = '\r'
    · rw [if_pos hreturn, hfeed, ih, splitPieces_terminator (by rw [hreturn]; rfl) hne]
    rw [if_neg hreturn]
    by_cases hc : isTerminator c = true
    · rw [splitPieces_terminator hc fun _ h => absurd h hreturn, ih,
        splitPieces_terminator hc hne]
    · have hc : isTerminator c = false := by simpa using hc
      obtain ⟨piece, pieces, hpieces, hcons⟩ := splitPieces_cons hc rest
      obtain ⟨piece', pieces', hpieces', hcons'⟩ := splitPieces_cons hc (unifyNewlines rest)
      obtain ⟨rfl, rfl⟩ := List.cons.inj (hpieces'.symm.trans (ih.trans hpieces))
      rw [hcons, hcons']

/-- A text has the same lines when its line endings are written as line feeds. -/
theorem splitLines_unifyNewlines (text : List Char) :
    splitLines (unifyNewlines text) = splitLines text :=
  congrArg dropFinalEmpty (splitPieces_unifyNewlines text)

end PhoneticCatalog.Text
