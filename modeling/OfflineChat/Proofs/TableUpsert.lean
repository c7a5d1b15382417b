import OfflineChat.Cache.Write

/-! # Tables under upserts

What `upsert` does to a table, said through keys: the keys of the table gain the
new key at the end unless it is there already (`map_key_upsert`), so keys stay
unique; and a selection of rows by their keys either takes part in the upsert or
does not notice it (`filter_upsert`).  What replaces a row makes all earlier
changes of it forgotten (`upsert_map_upsert`).  Each table of the cache merges rows in
its own way, but none of them moves a row to another key (`KeepsKey`).
-/
namespace OfflineChat

section Upsert

variable {α κ : Type} [DecidableEq κ] {key : α → κ} {merge : α → α → α}

/-- Merging leaves a row under its key. -/
def KeepsKey (key : α → κ) (merge : α → α → α) : Prop :=
  ∀ old new, key old = key new → key (merge old new) = key new

omit [DecidableEq κ] in
theorem keepsKey_replace (key : α → κ) : KeepsKey key fun _ new => new := fun _ _ _ => rfl

omit [DecidableEq κ] in
/-- A step that leaves every row as it was leaves the table as it was. -/
theorem map_eq_self {step : α → α} {rows : List α} (h : ∀ a ∈ rows, step a = a) :
    rows.map step = rows :=
  (List.map_congr_left h).trans (List.map_id' rows)

theorem upsert_of_new {new : α} {rows : List α} (h : key new ∉ rows.map key) :
    upsert key merge new rows = rows ++ [new] := by
  induction rows with
  | nil => rfl
  | cons old rest ih =>
    simp only [List.map_cons, List.mem_cons, not_or] at h
    rw [upsert, if_neg (Ne.symm h.1), ih h.2, List.cons_append]

theorem map_key_upsert (hk : KeepsKey key merge) (new : α) (rows : List α) :
    (upsert key merge new rows).map key =
      if key new ∈ rows.map key then rows.map key else rows.map key ++ [key new] := by
  induction rows with
  | nil => simp [upsert]
  | cons old rest ih =>
    by_cases hold : key old = key new
    · simp [upsert, hold, hk old new hold]
    · have hne : key new ≠ key old := Ne.symm hold
      rw [upsert, if_neg hold, List.map_cons, ih]
      by_cases hin : key new ∈ rest.map key <;> simp [hin, hne]

theorem mem_map_key_upsert (hk : KeepsKey key merge) {new : α} {rows : List α} {k : κ} :
    k ∈ (upsert key merge new rows).map key ↔ k ∈ rows.map key ∨ k = key new := by
  rw [map_key_upsert hk]
  split
  · rename_i hin
    exact ⟨Or.inl, fun h => h.elim id fun he => he ▸ hin⟩
  · rw [List.mem_append, List.mem_singleton]

/-- What holds of every key of a table and of the new key holds of every key after an upsert. -/
theorem forall_mem_upsert (hk : KeepsKey key merge) {new : α} {rows : List α} {P : κ → Prop}
    (h : ∀ a ∈ rows, P (key a)) (hnew : P (key new)) :
    ∀ a ∈ upsert key merge new rows, P (key a) := by
  intro a ha
  rcases (mem_map_key_upsert hk).mp (List.mem_map_of_mem ha) with hold | hkey
  · obtain ⟨b, hb, hba⟩ := List.mem_map.mp hold
    exact hba ▸ h b hb
  · exact hkey ▸ hnew

/-- What holds of every row and of a new one, and of a row that the new one is merged into, holds of
every row after an upsert. -/
theorem forall_mem_upsert_of_merge {new : α} {rows : List α} {P : α → Prop} (h : ∀ a ∈ rows, P a)
    (hnew : P new) (hmerge : ∀ old, key old = key new → P old → P (merge old new)) :
    ∀ a ∈ upsert key merge new rows, P a := by
  induction rows with
  | nil => exact fun a ha => List.mem_singleton.mp ha ▸ hnew
  | cons old rest ih =>
    obtain ⟨hold, hrest⟩ := List.forall_mem_cons.mp h
    rw [upsert]
    split
    · rename_i hkey
      exact List.forall_mem_cons.mpr ⟨hmerge old hkey hold, hrest⟩
    · exact List.forall_mem_cons.mpr ⟨hold, ih hrest⟩

/-- Keys that are unique stay unique. -/
theorem nodup_upsert (hk : KeepsKey key merge) {new : α} {rows : List α}
    (h : (rows.map key).Nodup) : ((upsert key merge new rows).map key).Nodup := by
  rw [map_key_upsert hk]
  split
  · exact h
  · rename_i hin
    exact List.nodup_append.mpr ⟨h, List.pairwise_singleton _ _,
      fun a ha b hb he => hin (List.mem_singleton.mp hb ▸ he ▸ ha)⟩

/-- Selecting rows by their keys goes together with an upsert: a new row that is selected is put
among the selected rows, and one that is not leaves them as they are. -/
theorem filter_upsert (hk : KeepsKey key merge) {p : α → Bool}
    (hp : ∀ a b, key a = key b → p a = p b) (new : α) (rows : List α) :
    (upsert key merge new rows).filter p =
      if p new then upsert key merge new (rows.filter p) else rows.filter p := by
  induction rows with
  | nil => cases h : p new <;> simp [upsert, h]
  | cons old rest ih =>
    by_cases hold : key old = key new
    · have hpo : p old = p new := hp _ _ hold
      have hpm : p (merge old new) = p new := hp _ _ (hk old new hold)
      cases h : p new <;> simp [upsert, hold, hpo, hpm, h]
    · rw [upsert, if_neg hold, List.filter_cons, ih]
      cases ho : p old <;> cases h : p new <;> simp [upsert, hold, ho]

/-- A row that is put is found under its key. -/
theorem find?_upsert_replace (new : α) (rows : List α) :
    (upsert key (fun _ new => new) new rows).find? (key · == key new) = some new := by
  induction rows with
  | nil => simp [upsert]
  | cons old rest ih =>
    by_cases hold : key old = key new
    · simp [upsert, hold]
    · simp [upsert, hold, ih]

/-- A row that is put over another makes it forgotten, also if rows were changed in between. -/
theorem upsert_map_upsert {new newer : α} {step : α → α} (hstep : ∀ a, key (step a) = key a)
    (hkey : key newer = key new) (rows : List α) :
    upsert key (fun _ new => new) newer ((upsert key (fun _ new => new) new rows).map step) =
      upsert key (fun _ new => new) newer (rows.map step) := by
  induction rows with
  | nil => simp [upsert, hstep, hkey]
  | cons old rest ih =>
    by_cases hold : key old = key new
    · simp [upsert, hold, hstep, hkey]
    · simp [upsert, hold, hstep, hkey, ih]

end Upsert

theorem ChatRow.keepsKey_withSummary : KeepsKey ChatRow.id ChatRow.withSummary :=
  fun _ _ h => h

theorem CachedAttachment.keepsKey_keepingPath :
    KeepsKey CachedAttachment.key CachedAttachment.keepingPath := fun _ _ _ => rfl

end OfflineChat
