import Mathlib.Algebra.GroupWithZero.Nat
import Mathlib.Data.List.Induction
import PhoneticCatalog.Table

/-!
# Tables

Tables that are made from entries have distinct keys (`Table.nodup_keys_ofEntries`), and their own
entries are among the given ones (`Table.mem_of_mem_ofEntries`): for every key the last one
(`Table.find?_ofEntries`). In a table with distinct keys a look-up finds exactly its entries
(`Table.find?_eq_some_iff`).

Where the value of an entry is computed from its key, it does not matter that a table keeps the
last of several entries for a key. The table of such entries has every key once, at the place of its
first entry (`Table.ofEntries_map`). Then a look-up computes the value of a key that is there
(`Table.find?_map`), and the total is a sum over the keys (`Table.total_map`).
-/

namespace PhoneticCatalog

/-! ## First occurrences -/

section EraseDups

variable {κ : Type} [BEq κ] [LawfulBEq κ]

/-- A last member is kept if it has not occurred before. -/
theorem eraseDups_concat (l : List κ) (a : κ) :
    (l ++ [a]).eraseDups = l.eraseDups ++ if l.contains a then [] else [a] := by
  have hremove : [a].removeAll l = if l.contains a then [] else [a] := by
    rw [List.removeAll, List.filter_cons, List.elem_eq_contains]
    cases l.contains a <;> rfl
  rw [List.eraseDups_append, hremove]
  split
  · rfl
  · rw [List.eraseDups_cons]
    rfl

omit [BEq κ] [LawfulBEq κ] in
/-- A list without repetitions takes up what is not in it. -/
theorem nodup_concat_of_not_mem {l : List κ} {a : κ} (h : l.Nodup) (ha : a ∉ l) :
    (l ++ [a]).Nodup := by
  refine List.nodup_append.2 ⟨h, List.pairwise_singleton _ a, ?_⟩
  rintro b hb c hc rfl
  obtain rfl := List.mem_singleton.1 hc
  exact ha hb

/-- Without its repetitions no key comes twice. -/
theorem nodup_eraseDups (l : List κ) : l.eraseDups.Nodup := by
  induction l using List.reverseRecOn with
  | nil => exact List.nodup_nil
  | append_singleton l a ih =>
    rw [eraseDups_concat]
    split
    · rwa [List.append_nil]
    · rename_i hnew
      exact nodup_concat_of_not_mem ih fun hmem =>
        hnew (List.contains_iff_mem.2 (List.mem_eraseDups.1 hmem))

/-- A list without repetitions stays as it is. -/
theorem eraseDups_of_nodup {l : List κ} (h : l.Nodup) : l.eraseDups = l := by
  induction l using List.reverseRecOn with
  | nil => rfl
  | append_singleton l a ih =>
    obtain ⟨hl, -, hnew⟩ := List.nodup_append.1 h
    have hfresh : ¬ l.contains a = true := fun hmem =>
      hnew a (List.contains_iff_mem.1 hmem) a List.mem_cons_self rfl
    rw [eraseDups_concat, ih hl, if_neg hfresh]

end EraseDups

/-! ## Tables -/

namespace Table

variable {κ α : Type}

/-- A total is the sum over the values. -/
theorem total_eq_sum (t : Table κ α) (number : α → Nat) :
    t.total number = (t.map fun entry => number entry.2).sum := by
  rw [total, List.sum, List.foldr_map]

/-- The keys of a table that is made of some keys. -/
theorem keys_map (f : κ → α) (l : List κ) : keys (l.map fun a => (a, f a)) = l := by
  rw [keys, List.map_map]
  exact List.map_id l

/-- The total of a table that is made of some keys. -/
theorem total_map (f : κ → α) (number : α → Nat) (l : List κ) :
    total (l.map fun a => (a, f a)) number = (l.map fun a => number (f a)).sum := by
  rw [total_eq_sum, List.map_map]
  rfl

variable [BEq κ] [LawfulBEq κ]

/-! ### Repeated keys -/

omit [LawfulBEq κ] in
theorem find?_nil (k : κ) : Table.find? ([] : Table κ α) k = none := rfl

omit [LawfulBEq κ] in
/-- Two tables in a row are searched one after the other. -/
theorem find?_append (t u : Table κ α) (k : κ) :
    Table.find? (t ++ u) k = (t.find? k).or (u.find? k) :=
  List.lookup_append

/-- Of several entries for a key a table keeps the last one. -/
theorem find?_ofEntries (entries : List (κ × α)) (k : κ) :
    (ofEntries entries).find? k = Table.find? entries.reverse k := by
  induction entries using List.reverseRecOn with
  | nil => rfl
  | append_singleton entries entry ih =>
    rw [ofEntries, List.foldl_append, ← ofEntries, List.reverse_append, List.reverse_singleton,
      List.singleton_append, find?_cons, ← ih]
    exact find?_put entry.1 entry.2 (ofEntries entries) k

/-! ### Distinct keys -/

section DistinctKeys

variable {t : Table κ α} {k : κ} {v : α}

/-- Keys stay distinct when something is put under a key. -/
theorem nodup_keys_put (h : t.keys.Nodup) (k : κ) (v : α) : (put k v t).keys.Nodup := by
  rw [keys_put]
  split
  · exact h
  · rename_i hnew
    exact nodup_concat_of_not_mem h fun hmem => hnew (List.contains_iff_mem.2 hmem)

/-- A table of entries has distinct keys. -/
theorem nodup_keys_ofEntries (entries : List (κ × α)) : (ofEntries entries).keys.Nodup := by
  -- By induction from the end, where a table takes up its next entry.
  induction entries using List.reverseRecOn with
  | nil => exact List.nodup_nil
  | append_singleton entries entry ih =>
    rw [ofEntries, List.foldl_append, ← ofEntries]
    exact nodup_keys_put ih entry.1 entry.2

/-- Only the entry that is put is new. -/
theorem eq_or_mem_of_mem_put {entry : κ × α} (h : entry ∈ put k v t) :
    entry = (k, v) ∨ entry ∈ t := by
  induction t with
  | nil => exact Or.inl (List.mem_singleton.1 h)
  | cons first rest ih =>
    rw [put] at h
    split at h
    · rename_i hfirst
      rw [eq_of_beq hfirst] at h
      exact (List.mem_cons.1 h).imp_right (List.mem_cons_of_mem first)
    · rcases List.mem_cons.1 h with rfl | hrest
      · exact Or.inr List.mem_cons_self
      · exact (ih hrest).imp_right (List.mem_cons_of_mem first)

/-- A table holds nothing but the entries that it was made of. -/
theorem mem_of_mem_ofEntries {entry : κ × α} {entries : List (κ × α)}
    (h : entry ∈ ofEntries entries) : entry ∈ entries := by
  induction entries using List.reverseRecOn with
  | nil => exact absurd h List.not_mem_nil
  | append_singleton entries last ih =>
    rw [ofEntries, List.foldl_append, ← ofEntries] at h
    rcases eq_or_mem_of_mem_put h with rfl | hold
    · exact List.mem_append_right entries List.mem_cons_self
    · exact List.mem_append_left [last] (ih hold)

/-- In a table with distinct keys what is found for a key is the entry of the key. -/
theorem find?_eq_some_iff (h : t.keys.Nodup) : t.find? k = some v ↔ (k, v) ∈ t := by
  induction t with
  | nil => exact ⟨fun hfound => (Option.some_ne_none v hfound.symm).elim,
      fun hmem => absurd hmem List.not_mem_nil⟩
  | cons entry rest ih =>
    obtain ⟨e, u⟩ := entry
    obtain ⟨hnew, hrest⟩ := List.nodup_cons.1 h
    rw [find?_cons, List.mem_cons]
    by_cases hk : k = e
    · subst hk
      have hother : (k, v) ∉ rest := fun hmem => hnew (List.mem_map.2 ⟨(k, v), hmem, rfl⟩)
      simp only [beq_self_eq_true, if_true, Option.some.injEq, Prod.mk.injEq, true_and, hother,
        or_false, eq_comm]
    · simp only [beq_iff_eq, hk, if_false, Prod.mk.injEq, false_and, false_or, ih hrest]

/-- Where keys are distinct the order of the entries does not matter. -/
theorem find?_reverse (h : t.keys.Nodup) (k : κ) : Table.find? t.reverse k = t.find? k := by
  have hreverse : (keys t.reverse).Nodup := by
    rw [keys, List.map_reverse]
    exact List.pairwise_reverse.2 (h.imp Ne.symm)
  refine Option.ext fun v => ?_
  rw [find?_eq_some_iff hreverse, find?_eq_some_iff h, List.mem_reverse]

end DistinctKeys

/-! ### Computed values -/

/-- The value of a key is computed from it, if the key is there. -/
theorem find?_map (f : κ → α) (l : List κ) (k : κ) :
    find? (l.map fun a => (a, f a)) k = if l.contains k then some (f k) else none := by
  induction l with
  | nil => rfl
  | cons a rest ih =>
    rw [List.map_cons, find?_cons, ih, List.contains_cons]
    by_cases h : k == a
    · rw [if_pos h, h, eq_of_beq h]
      rfl
    · rw [if_neg h, eq_false_of_ne_true h, Bool.false_or]

/-- A computed value changes nothing where it is already, and is added where it is not. -/
theorem put_map (f : κ → α) (l : List κ) (k : κ) :
    put k (f k) (l.map fun a => (a, f a)) =
      (l ++ if l.contains k then [] else [k]).map fun a => (a, f a) := by
  induction l with
  | nil => rfl
  | cons a rest ih =>
    rw [List.map_cons, put, List.contains_cons]
    by_cases h : a == k
    · obtain rfl := eq_of_beq h
      rw [if_pos h, h, Bool.true_or, if_pos rfl, List.append_nil]
      rfl
    · have hk : (k == a) = false := by
        rw [BEq.comm]
        exact eq_false_of_ne_true h
      rw [if_neg h, hk, Bool.false_or, ih]
      rfl

/-- The table of entries with computed values has every key once, in the order in which the keys
first occur. -/
theorem ofEntries_map (f : κ → α) (l : List κ) :
    ofEntries (l.map fun a => (a, f a)) = l.eraseDups.map fun a => (a, f a) := by
  -- By induction from the end, where a table takes up its next entry.
  induction l using List.reverseRecOn with
  | nil => rfl
  | append_singleton l a ih =>
    have hcontains : l.eraseDups.contains a = l.contains a := by
      rw [Bool.eq_iff_iff, List.contains_iff_mem, List.contains_iff_mem, List.mem_eraseDups]
    rw [ofEntries, List.map_append, List.foldl_append, ← ofEntries, ih, eraseDups_concat,
      ← hcontains]
    exact put_map f l.eraseDups a

end Table

end PhoneticCatalog
