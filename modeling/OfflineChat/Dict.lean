/-! # Dictionaries

A finite map from texts, kept as a list of entries with strictly increasing
keys, so that two dictionaries with the same entries are equal.  `find?_insert`
says what a write does to every later read.
-/
namespace OfflineChat

/-- A finite map from texts to `α`. -/
structure Dict (α : Type) where
  entries : List (String × α)
  /-- Keys increase strictly, by code point. -/
  increasing : (entries.map Prod.fst).Pairwise (· < ·)

namespace Dict

variable {α β : Type}

/-- The dictionary with no entry. -/
def empty : Dict α := ⟨[], List.Pairwise.nil⟩

instance : Inhabited (Dict α) := ⟨empty⟩
instance : EmptyCollection (Dict α) := ⟨empty⟩

theorem ext {d e : Dict α} (h : d.entries = e.entries) : d = e := by
  cases d; cases e; cases h; rfl

instance [DecidableEq α] : DecidableEq (Dict α) := fun d e =>
  if h : d.entries = e.entries then isTrue (ext h) else isFalse (fun he => h (he ▸ rfl))

/-- The entries with `key` bound to `value`, in place of what it was bound to before. -/
def insertEntry (key : String) (value : α) : List (String × α) → List (String × α)
  | [] => [(key, value)]
  | (k, v) :: rest =>
    if key < k then (key, value) :: (k, v) :: rest
    else if key = k then (key, value) :: rest
    else (k, v) :: insertEntry key value rest

theorem fst_mem_insertEntry {key k : String} {value : α} {es : List (String × α)}
    (h : k ∈ (insertEntry key value es).map Prod.fst) : k = key ∨ k ∈ es.map Prod.fst := by
  induction es with
  | nil => simpa [insertEntry] using h
  | cons e rest ih =>
    obtain ⟨k', v⟩ := e
    simp only [insertEntry] at h
    split at h
    · simpa using h
    · split at h
      · rename_i hk
        subst hk
        simp only [List.map_cons, List.mem_cons] at h ⊢
        rcases h with h | h
        · exact .inl h
        · exact .inr (.inr h)
      · simp only [List.map_cons, List.mem_cons] at h ⊢
        rcases h with h | h
        · exact .inr (.inl h)
        · rcases ih h with h | h
          · exact .inl h
          · exact .inr (.inr h)

theorem lt_of_not_lt_of_ne {a b : String} (h : ¬ a < b) (hne : a ≠ b) : b < a :=
  Decidable.byContradiction fun hb =>
    hne (String.le_antisymm (String.not_lt.mp hb) (String.not_lt.mp h))

theorem insertEntry_increasing (key : String) (value : α) (es : List (String × α))
    (h : (es.map Prod.fst).Pairwise (· < ·)) :
    ((insertEntry key value es).map Prod.fst).Pairwise (· < ·) := by
  induction es with
  | nil => simp [insertEntry]
  | cons e rest ih =>
    obtain ⟨k, v⟩ := e
    simp only [List.map_cons, List.pairwise_cons] at h
    simp only [insertEntry]
    split
    · rename_i hlt
      simp only [List.map_cons, List.pairwise_cons]
      refine ⟨?_, h.1, h.2⟩
      intro a ha
      rcases List.mem_cons.mp ha with rfl | ha
      · exact hlt
      · exact String.lt_trans hlt (h.1 a ha)
    · split
      · rename_i hk
        subst hk
        simpa using h
      · rename_i hlt hne
        simp only [List.map_cons, List.pairwise_cons]
        refine ⟨?_, ih h.2⟩
        intro a ha
        rcases fst_mem_insertEntry ha with rfl | ha
        · exact lt_of_not_lt_of_ne hlt hne
        · exact h.1 a ha

/-- Bind a key, in place of what it was bound to before. -/
def insert (d : Dict α) (key : String) (value : α) : Dict α :=
  ⟨insertEntry key value d.entries, insertEntry_increasing key value d.entries d.increasing⟩

/-- What a key is bound to. -/
def find? (d : Dict α) (key : String) : Option α := d.entries.lookup key

/-- The keys, in increasing order. -/
def keys (d : Dict α) : List String := d.entries.map Prod.fst

/-- The values, by increasing key. -/
def values (d : Dict α) : List α := d.entries.map Prod.snd

/-- How many keys are bound. -/
def size (d : Dict α) : Nat := d.entries.length

/-- The dictionary of a list of bindings, the last one of a key counting. -/
def ofList (es : List (String × α)) : Dict α :=
  es.foldl (fun d e => d.insert e.1 e.2) empty

theorem erase_increasing (key : String) (d : Dict α) :
    ((d.entries.filter (fun e => e.1 != key)).map Prod.fst).Pairwise (· < ·) :=
  d.increasing.sublist (List.Sublist.map _ (List.filter_sublist ..))

/-- Unbind a key. -/
def erase (d : Dict α) (key : String) : Dict α :=
  ⟨d.entries.filter (fun e => e.1 != key), erase_increasing key d⟩

theorem map_increasing (f : α → β) (d : Dict α) :
    ((d.entries.map (fun e => (e.1, f e.2))).map Prod.fst).Pairwise (· < ·) := by
  have : (d.entries.map (fun e => (e.1, f e.2))).map Prod.fst = d.entries.map Prod.fst := by
    simp [List.map_map, Function.comp_def]
  exact this ▸ d.increasing

/-- Change every value. -/
def map (f : α → β) (d : Dict α) : Dict β :=
  ⟨d.entries.map (fun e => (e.1, f e.2)), map_increasing f d⟩

@[simp] theorem find?_empty (k : String) : (empty : Dict α).find? k = none := rfl

theorem lookup_cons_ite (k k' : String) (v : α) (es : List (String × α)) :
    ((k', v) :: es).lookup k = if k = k' then some v else es.lookup k := by
  rw [List.lookup_cons]
  by_cases h : k = k'
  · simp [h]
  · simp [h, beq_eq_false_iff_ne.mpr h]

theorem lookup_insertEntry (key k : String) (value : α) (es : List (String × α)) :
    (insertEntry key value es).lookup k = if k = key then some value else es.lookup k := by
  induction es with
  | nil => rw [insertEntry, lookup_cons_ite]
  | cons e rest ih =>
    obtain ⟨k', v⟩ := e
    simp only [insertEntry]
    split
    · rw [lookup_cons_ite]
    · split
      · rename_i hk
        subst hk
        rw [lookup_cons_ite, lookup_cons_ite]
        by_cases h : k = key <;> simp [h]
      · rename_i hne
        rw [lookup_cons_ite, ih, lookup_cons_ite]
        by_cases h : k = k'
        · subst h; simp [Ne.symm hne]
        · simp [h]

/-- A read after a write gives what was written under that key, and under every other key what
was there before. -/
@[simp] theorem find?_insert (d : Dict α) (key k : String) (value : α) :
    (d.insert key value).find? k = if k = key then some value else d.find? k :=
  lookup_insertEntry key k value d.entries

end Dict
end OfflineChat
