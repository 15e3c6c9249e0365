/-!
# Tables

A table is a list of keyed entries, in the order in which the keys were first put. `put` keeps every
key at most once: a key that is there already stays at its place and gets the new value.
`lookup_put` says what is found after a `put`, and `keys_put` which keys there are.
-/

namespace PhoneticCatalog

/-- Keyed entries in the order in which their keys were first put. -/
abbrev Table (κ α : Type) := List (κ × α)

namespace Table

variable {κ α : Type}

/-- The keys of a table, in its order. -/
def keys (t : Table κ α) : List κ := t.map (·.1)

theorem keys_cons (entry : κ × α) (t : Table κ α) : keys (entry :: t) = entry.1 :: keys t := rfl

/-- The sum of a number over the values of a table. -/
def total (t : Table κ α) (number : α → Nat) : Nat :=
  t.foldr (fun entry sum => number entry.2 + sum) 0

variable [BEq κ]

/-- The table with a value for a key. -/
def put (key : κ) (value : α) : Table κ α → Table κ α
  | [] => [(key, value)]
  | entry :: rest =>
    if entry.1 == key then (entry.1, value) :: rest else entry :: put key value rest

/-- The table in which entries are put one after the other. -/
def ofEntries (entries : List (κ × α)) : Table κ α :=
  entries.foldl (fun t entry => put entry.1 entry.2 t) []

/-- The value of a key. -/
def find? (t : Table κ α) (key : κ) : Option α := List.lookup key t

/-- A look-up tries the first entry, then the others. -/
theorem find?_cons (entry : κ × α) (t : Table κ α) (k : κ) :
    Table.find? (entry :: t) k = if k == entry.1 then some entry.2 else t.find? k := by
  obtain ⟨e, v⟩ := entry
  rw [find?, List.lookup_cons, find?]
  cases k == e <;> rfl

variable [LawfulBEq κ]

/-- What is put under a key is found there, and nowhere else. -/
theorem find?_put (key : κ) (value : α) (t : Table κ α) (k : κ) :
    (put key value t).find? k = if k == key then some value else t.find? k := by
  induction t with
  | nil => exact find?_cons (key, value) [] k
  | cons entry rest ih =>
    -- The key is replaced where it stands, or looked for in the rest.
    by_cases h : entry.1 == key
    · have e := eq_of_beq h
      rw [put, if_pos h, find?_cons, find?_cons, e]
      cases k == key <;> rfl
    · rw [put, if_neg h, find?_cons, find?_cons, ih]
      by_cases hk : k == entry.1
      · have ne : (k == key) = false := by
          rw [eq_of_beq hk]
          exact eq_false_of_ne_true h
        rw [if_pos hk, if_pos hk, ne]
        rfl
      · rw [if_neg hk, if_neg hk]

/-- A new key comes last, and a known one keeps its place. -/
theorem keys_put (key : κ) (value : α) (t : Table κ α) :
    (put key value t).keys = if t.keys.contains key then t.keys else t.keys ++ [key] := by
  induction t with
  | nil => rfl
  | cons entry rest ih =>
    by_cases h : entry.1 == key
    · have e := eq_of_beq h
      simp [put, keys_cons, e]
    · have h' : (key == entry.1) = false := by
        cases hk : key == entry.1
        · rfl
        · exact absurd (eq_of_beq hk ▸ beq_self_eq_true entry.1) h
      rw [put, if_neg h, keys_cons, keys_cons, ih, List.contains_cons, h', Bool.false_or]
      by_cases hc : (keys rest).contains key = true
      · rw [if_pos hc, if_pos hc]
      · rw [if_neg hc, if_neg hc, List.cons_append]

end Table

end PhoneticCatalog
