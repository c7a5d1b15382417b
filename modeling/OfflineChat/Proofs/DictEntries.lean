import OfflineChat.Dict
import Mathlib.Data.List.Perm.Basic

/-! # The entries of a dictionary

The entries of a dictionary are its bindings, and they stand in the order of their
keys.  So they are known by what each key is bound to (`Dict.ext_find?`), and
entries that stand in order already are put one behind the other.
-/
namespace OfflineChat
namespace Dict

variable {α : Type} {d e : Dict α} {k key : String} {v w value : α} {es : List (String × α)}

/-! ## Bindings -/

theorem mem_entries_of_find? (h : d.find? k = some v) : (k, v) ∈ d.entries := by
  obtain ⟨before, after, hentries, -⟩ := List.lookup_eq_some_iff.mp h
  rw [hentries]
  simp

theorem lookup_of_mem {es : List (String × α)} (hes : (es.map Prod.fst).Nodup)
    (h : (k, v) ∈ es) : es.lookup k = some v := by
  induction es with
  | nil => cases h
  | cons e rest ih =>
    obtain ⟨k', v'⟩ := e
    obtain ⟨hk', hrest⟩ := List.nodup_cons.mp hes
    rw [lookup_cons_ite]
    rcases List.mem_cons.mp h with heq | hin
    · cases heq
      exact if_pos rfl
    · have hne : k ≠ k' := by
        rintro rfl
        exact hk' (List.mem_map.mpr ⟨(k, v), hin, rfl⟩)
      rw [if_neg hne, ih hrest hin]

theorem find?_of_mem_entries (h : (k, v) ∈ d.entries) : d.find? k = some v := by
  refine lookup_of_mem (d.increasing.imp fun hlt heq => ?_) h
  subst heq
  exact String.lt_irrefl _ hlt

theorem mem_insertEntry {key : String} {value : α} {e : String × α} {es : List (String × α)}
    (h : e ∈ insertEntry key value es) : e = (key, value) ∨ e ∈ es := by
  induction es with
  | nil => exact .inl (List.mem_singleton.mp h)
  | cons e' rest ih =>
    obtain ⟨k', v'⟩ := e'
    rw [insertEntry] at h
    split at h
    · rcases List.mem_cons.mp h with h | h
      · exact .inl h
      · exact .inr h
    · split at h
      · rcases List.mem_cons.mp h with h | h
        · exact .inl h
        · exact .inr (List.mem_cons_of_mem _ h)
      · rcases List.mem_cons.mp h with h | h
        · exact .inr (h ▸ List.mem_cons_self ..)
        · exact (ih h).imp id (List.mem_cons_of_mem _)

theorem entries_nodup (d : Dict α) : d.entries.Nodup := by
  refine (List.pairwise_map.mp d.increasing).imp fun hlt heq => ?_
  subst heq
  exact String.lt_irrefl _ hlt

/-- **Dictionaries with the same bindings are equal.** -/
theorem ext_find? (h : ∀ k, d.find? k = e.find? k) : d = e := by
  have hmem : ∀ x, x ∈ d.entries ↔ x ∈ e.entries := by
    rintro ⟨k, v⟩
    constructor
    · intro hd
      exact mem_entries_of_find? ((h k).symm.trans (find?_of_mem_entries hd))
    · intro he
      exact mem_entries_of_find? ((h k).trans (find?_of_mem_entries he))
  have hperm : d.entries.Perm e.entries :=
    (List.perm_ext_iff_of_nodup d.entries_nodup e.entries_nodup).mpr hmem
  -- two keys cannot both come before each other
  refine Dict.ext (hperm.eq_of_pairwise (fun a b _ _ hab hba => ?_)
    (List.pairwise_map.mp d.increasing) (List.pairwise_map.mp e.increasing))
  exact absurd (String.lt_trans hab hba) (String.lt_irrefl _)

theorem insert_insert (d : Dict α) (k : String) (v w : α) :
    (d.insert k v).insert k w = d.insert k w := by
  refine ext_find? fun k' => ?_
  by_cases hk : k' = k <;> simp [hk]

theorem insert_of_find? (h : d.find? k = some v) : d.insert k v = d := by
  refine ext_find? fun k' => ?_
  by_cases hk : k' = k
  · subst hk
    simp [h]
  · simp [hk]

theorem find?_map {β : Type} (f : α → β) (d : Dict α) (k : String) :
    (d.map f).find? k = (d.find? k).map f := by
  show (d.entries.map fun e => (e.1, f e.2)).lookup k = (d.entries.lookup k).map f
  induction d.entries with
  | nil => rfl
  | cons e rest ih =>
    rw [List.map_cons, lookup_cons_ite, lookup_cons_ite, ih]
    split <;> rfl

theorem map_insert {β : Type} (f : α → β) (d : Dict α) (k : String) (v : α) :
    (d.insert k v).map f = (d.map f).insert k (f v) := by
  refine ext_find? fun k' => ?_
  rw [find?_map, find?_insert, find?_insert, find?_map, apply_ite (Option.map f)]
  rfl

/-- Dictionaries that bind the same keys have one size. -/
theorem size_eq_of_isSome {β : Type} {d : Dict α} {e : Dict β}
    (h : ∀ k, (d.find? k).isSome = (e.find? k).isSome) : d.size = e.size := by
  have hkeys : (d.map fun _ => ()) = e.map fun _ => () := by
    refine ext_find? fun k => ?_
    have hk := h k
    rw [find?_map, find?_map]
    cases hd : d.find? k <;> cases he : e.find? k <;> simp_all
  have hsize := congrArg (·.entries.length) hkeys
  simpa [map, size] using hsize

/-! ## Entries in order -/

/-- An entry behind all others is put at the end. -/
theorem insertEntry_of_lt (h : ∀ k ∈ es.map Prod.fst, k < key) :
    insertEntry key value es = es ++ [(key, value)] := by
  induction es with
  | nil => rfl
  | cons e rest ih =>
    obtain ⟨k, v⟩ := e
    have hlt : k < key := h k (List.mem_cons_self ..)
    have hgt : ¬ key < k := fun hgt => String.lt_irrefl _ (String.lt_trans hlt hgt)
    have hne : ¬ key = k := by
      rintro rfl
      exact String.lt_irrefl _ hlt
    rw [insertEntry, if_neg hgt, if_neg hne, ih fun k hk => h k (List.mem_cons_of_mem _ hk)]
    rfl

/-- Entries that stand in order are put one behind the other. -/
theorem insertEntry_of_increasing {rest : List (String × α)}
    (h : ((es ++ (key, value) :: rest).map Prod.fst).Pairwise (· < ·)) :
    insertEntry key value es = es ++ [(key, value)] := by
  refine insertEntry_of_lt fun k hk => ?_
  rw [List.map_append, List.map_cons] at h
  exact (List.pairwise_append.mp h).2.2 k hk key (List.mem_cons_self ..)

end Dict
end OfflineChat
