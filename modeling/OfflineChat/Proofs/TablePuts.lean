import Mathlib.Data.List.Induction
import Mathlib.Data.List.Nodup
import OfflineChat.Proofs.TableUpsert

/-! # Tables after many puts

What a table holds after rows were put into it one after the other
(`HoldsPuts`): under the key of a row there is one row, made of the last row put
under that key and of what the table held there at first; under every other key
the table is as it was; rows that were there keep their places, and new ones
follow in the order in which their keys were first put.  Every way of merging
rows that the cache uses has this effect (`holdsPuts_upsertAll`), because a row
that is put covers one that was put before it (`Covers`).
-/
namespace OfflineChat

variable {α κ : Type} [DecidableEq κ] {key : α → κ} {merge : α → α → α}
  {stored : α → Option α → α} {news rows : List α}

/-- Put rows into a table one after the other. -/
def upsertAll (key : α → κ) (merge : α → α → α) (news rows : List α) : List α :=
  news.foldl (fun rows new => upsert key merge new rows) rows

/-- What a table is after rows were put into it, `stored new old?` being what is stored for a row
`new` if the table held `old?` under its key at first. -/
structure HoldsPuts (key : α → κ) (stored : α → Option α → α) (news old table : List α) :
    Prop where
  /-- Under the key of a row that was put there is one row, that of the last one put there. -/
  last : ∀ before new after, news = before ++ new :: after → key new ∉ after.map key →
    table.filter (key · == key new) = [stored new (old.find? (key · == key new))]
  /-- The rows under other keys are as they were. -/
  others : table.filter (key · ∉ news.map key) = old.filter (key · ∉ news.map key)
  /-- The keys that were there come first and in their order, then the new ones in theirs. -/
  order : table.map key = old.map key ++ ((news.map key).removeAll (old.map key)).eraseDups

/-- What is stored for a row depends on what was there before any row was put, and not on the rows
put under its key in between. -/
structure Covers (key : α → κ) (merge : α → α → α) (stored : α → Option α → α) (news : List α) :
    Prop where
  first : ∀ a ∈ news, stored a none = a
  again : ∀ a ∈ news, ∀ old, key old = key a → merge old a = stored a (some old)
  covers : ∀ a ∈ news, ∀ b ∈ news, key a = key b → ∀ old?, merge (stored a old?) b = stored b old?

omit [DecidableEq κ] in
/-- A row that replaces another covers it. -/
theorem covers_replace (key : α → κ) (news : List α) :
    Covers key (fun _ new => new) (fun new _ => new) news :=
  ⟨fun _ _ => rfl, fun _ _ _ _ => rfl, fun _ _ _ _ _ _ => rfl⟩

/-! ## The order of the keys -/

theorem map_key_upsertAll (hk : KeepsKey key merge) (news rows : List α) :
    (upsertAll key merge news rows).map key =
      rows.map key ++ ((news.map key).removeAll (rows.map key)).eraseDups := by
  induction news generalizing rows with
  | nil => simp [upsertAll, List.removeAll]
  | cons new rest ih =>
    show (upsertAll key merge rest (upsert key merge new rows)).map key = _
    rw [ih, map_key_upsert hk, List.map_cons]
    by_cases hin : key new ∈ rows.map key
    · rw [if_pos hin, List.removeAll, List.removeAll, List.filter_cons_of_neg (by simpa using hin)]
    · -- the new key comes next, and is passed over from then on
      have hpass : (rest.map key).removeAll (rows.map key ++ [key new]) =
          ((rest.map key).removeAll (rows.map key)).filter fun k => !k == key new := by
        rw [List.removeAll, List.removeAll, List.filter_filter]
        refine List.filter_congr fun k _ => ?_
        by_cases hk : k = key new <;> simp [hk]
      rw [if_neg hin, hpass, List.removeAll, List.removeAll,
        List.filter_cons_of_pos (by simpa using hin), List.eraseDups_cons, List.append_assoc,
        List.singleton_append]

/-! ## The rows under some keys -/

/-- Selecting rows by their keys goes together with puts. -/
theorem filter_upsertAll (hk : KeepsKey key merge) {p : α → Bool}
    (hp : ∀ a b, key a = key b → p a = p b) (news rows : List α) :
    (upsertAll key merge news rows).filter p =
      upsertAll key merge (news.filter p) (rows.filter p) := by
  induction news generalizing rows with
  | nil => rfl
  | cons new rest ih =>
    show (upsertAll key merge rest (upsert key merge new rows)).filter p = _
    rw [ih, filter_upsert hk hp]
    cases hnew : p new <;> simp [hnew, upsertAll]

theorem filter_key_eq_nil {k : κ} (h : k ∉ rows.map key) : rows.filter (key · == k) = [] := by
  refine List.filter_eq_nil_iff.mpr fun a ha hak => h ?_
  rw [← eq_of_beq hak]
  exact List.mem_map_of_mem ha

theorem filter_key_eq_toList_find? (hrows : (rows.map key).Nodup) (k : κ) :
    rows.filter (key · == k) = (rows.find? (key · == k)).toList := by
  induction rows with
  | nil => rfl
  | cons r rest ih =>
    obtain ⟨hr, hrest⟩ := List.nodup_cons.mp hrows
    by_cases hkey : key r = k
    · rw [List.filter_cons_of_pos (by simpa using hkey), filter_key_eq_nil (hkey ▸ hr),
        List.find?_cons_of_pos (by simpa using hkey)]
      rfl
    · rw [List.filter_cons_of_neg (by simpa using hkey),
        List.find?_cons_of_neg (by simpa using hkey), ih hrest]

omit [DecidableEq κ] in
theorem Covers.key_stored (hc : Covers key merge stored news) (hk : KeepsKey key merge) {a : α}
    (ha : a ∈ news) {old? : Option α} (hold : ∀ old ∈ old?, key old = key a) :
    key (stored a old?) = key a := by
  cases old? with
  | none => rw [hc.first a ha]
  | some old =>
    have hkey := hold old rfl
    rw [← hc.again a ha old hkey, hk old a hkey]

/-- Rows put under one key leave there what is stored for the last of them. -/
theorem Covers.upsertAll_toList (hc : Covers key merge stored news) (hk : KeepsKey key merge)
    {k : κ} {l : List α} (hl : ∀ a ∈ l, a ∈ news ∧ key a = k) {old? : Option α}
    (hold : ∀ old ∈ old?, key old = k) :
    upsertAll key merge l old?.toList =
      ((l.getLast?.map (stored · old?)).or old?).toList := by
  induction l using List.reverseRecOn with
  | nil => rfl
  | append_singleton l a ih =>
    obtain ⟨ha, hkey⟩ := hl a (by simp)
    have hl' : ∀ b ∈ l, b ∈ news ∧ key b = k := fun b hb => hl b (List.mem_append_left _ hb)
    have hlast : upsertAll key merge (l ++ [a]) old?.toList =
        upsert key merge a (upsertAll key merge l old?.toList) := by
      simp [upsertAll, List.foldl_append]
    rw [hlast, ih hl', List.getLast?_concat]
    cases hb : l.getLast? with
    | none =>
      cases old? with
      | none => simp [upsert, hc.first a ha]
      | some old =>
        have hsame : key old = key a := (hold old rfl).trans hkey.symm
        simp [upsert, hsame, hc.again a ha old hsame]
    | some b =>
      obtain ⟨hb, hbk⟩ := hl' b (List.mem_of_getLast? hb)
      have hsame : key (stored b old?) = key a :=
        (hc.key_stored hk hb fun old h => (hold old h).trans hbk.symm).trans (hbk.trans hkey.symm)
      simp [upsert, hsame, hc.covers b hb a ha (hbk.trans hkey.symm)]

/-- **Putting rows into a table one after the other** stores for each key the last row put under
it, and leaves everything else as it was. -/
theorem holdsPuts_upsertAll (hk : KeepsKey key merge) (hc : Covers key merge stored news)
    (hrows : (rows.map key).Nodup) :
    HoldsPuts key stored news rows (upsertAll key merge news rows) where
  last := by
    rintro before new after rfl hlast
    have hput : ∀ a ∈ before.filter (key · == key new) ++ [new],
        a ∈ before ++ new :: after ∧ key a = key new := by
      intro a ha
      rcases List.mem_append.mp ha with ha | ha
      · obtain ⟨ha, hak⟩ := List.mem_filter.mp ha
        exact ⟨List.mem_append_left _ ha, eq_of_beq hak⟩
      · obtain rfl := List.mem_singleton.mp ha
        exact ⟨by simp, rfl⟩
    have hold : ∀ old ∈ rows.find? (key · == key new), key old = key new :=
      fun old h => eq_of_beq (List.find?_some (p := (key · == key new)) h)
    rw [filter_upsertAll hk fun a b hab => by rw [hab], List.filter_append,
      List.filter_cons_of_pos (by simp), filter_key_eq_nil hlast,
      filter_key_eq_toList_find? hrows, hc.upsertAll_toList hk hput hold, List.getLast?_concat]
    rfl
  others := by
    have hnone : news.filter (key · ∉ news.map key) = [] := by
      refine List.filter_eq_nil_iff.mpr fun a ha hnot => ?_
      exact of_decide_eq_true hnot (List.mem_map_of_mem ha)
    rw [filter_upsertAll hk fun a b hab => by rw [hab], hnone]
    rfl
  order := map_key_upsertAll hk news rows

theorem nodup_upsertAll (hk : KeepsKey key merge) (news : List α) (hrows : (rows.map key).Nodup) :
    ((upsertAll key merge news rows).map key).Nodup := by
  induction news generalizing rows with
  | nil => exact hrows
  | cons new rest ih => exact ih (nodup_upsert hk hrows)

/-- A row under none of the keys was there before. -/
theorem HoldsPuts.mem_of_notMem {old table : List α} {r : α}
    (h : HoldsPuts key stored news old table) (hr : r ∈ table) (hkey : key r ∉ news.map key) :
    r ∈ old := by
  have hkept : r ∈ table.filter (key · ∉ news.map key) :=
    List.mem_filter.mpr ⟨hr, decide_eq_true hkey⟩
  rw [h.others] at hkept
  exact (List.mem_filter.mp hkept).1

/-- What holds of every row and of the new ones, and of a row that a new one is merged into, holds
of every row after puts. -/
theorem forall_mem_upsertAll {P : α → Prop} (h : ∀ a ∈ rows, P a) (hnews : ∀ a ∈ news, P a)
    (hmerge : ∀ new ∈ news, ∀ old, key old = key new → P old → P (merge old new)) :
    ∀ a ∈ upsertAll key merge news rows, P a := by
  induction news generalizing rows with
  | nil => exact h
  | cons new rest ih =>
    obtain ⟨hnew, hrest⟩ := List.forall_mem_cons.mp hnews
    obtain ⟨hmergeNew, hmergeRest⟩ := List.forall_mem_cons.mp hmerge
    exact ih (forall_mem_upsert_of_merge h hnew hmergeNew) hrest hmergeRest

/-- Of rows that replace others and have different keys, each is the row under its key. -/
theorem HoldsPuts.filter_key {old table : List α} {new : α}
    (h : HoldsPuts key (fun new _ => new) news old table) (hnews : (news.map key).Nodup)
    (hnew : new ∈ news) : table.filter (key · == key new) = [new] := by
  obtain ⟨before, after, rfl⟩ := List.append_of_mem hnew
  rw [List.map_append, List.map_cons] at hnews
  exact h.last before new after rfl (List.nodup_cons.mp (List.nodup_append.mp hnews).2.1).1

/-- Rows that replace others and have different keys are the rows under their keys. -/
theorem HoldsPuts.filter_perm {old table : List α}
    (h : HoldsPuts key (fun new _ => new) news old table) (hnews : (news.map key).Nodup)
    (htable : (table.map key).Nodup) : (table.filter (key · ∈ news.map key)).Perm news := by
  have hlast : ∀ new ∈ news, table.filter (key · == key new) = [new] :=
    fun new hnew => h.filter_key hnews hnew
  refine (List.perm_ext_iff_of_nodup ((List.Nodup.of_map key htable).filter _)
    (List.Nodup.of_map key hnews)).mpr fun r => ?_
  constructor
  · intro hr
    obtain ⟨hr, hkey⟩ := List.mem_filter.mp hr
    obtain ⟨new, hnew, hkey⟩ := List.mem_map.mp (of_decide_eq_true hkey)
    have hin : r ∈ table.filter (key · == key new) := List.mem_filter.mpr ⟨hr, by simp [hkey]⟩
    rw [hlast new hnew, List.mem_singleton] at hin
    exact hin ▸ hnew
  · intro hr
    have hin : r ∈ table.filter (key · == key r) := hlast r hr ▸ List.mem_singleton_self r
    exact List.mem_filter.mpr
      ⟨(List.mem_filter.mp hin).1, decide_eq_true (List.mem_map_of_mem hr)⟩

/-- Rows with keys of their own are put at the end. -/
theorem upsertAll_of_new (hnew : ((rows ++ news).map key).Nodup) :
    upsertAll key merge news rows = rows ++ news := by
  induction news generalizing rows with
  | nil => simp [upsertAll]
  | cons new rest ih =>
    have hput : upsert key merge new rows = rows ++ [new] := by
      refine upsert_of_new fun hin => ?_
      rw [List.map_append, List.map_cons] at hnew
      exact (List.nodup_append.mp hnew).2.2 _ hin _ (List.mem_cons_self ..) rfl
    have hrest : ((rows ++ [new] ++ rest).map key).Nodup := by
      rwa [List.append_assoc, List.singleton_append]
    show upsertAll key merge rest (upsert key merge new rows) = _
    rw [hput, ih hrest, List.append_assoc, List.singleton_append]

end OfflineChat
