import Mathlib.Data.List.Dedup
import Mathlib.Data.List.Perm.Basic
import OfflineChat.Proofs.TablePuts

/-! # Puts that are repeated or change places

Two puts under one key are one put (`upsert_upsert`), so of rows that are put
under one key only the last one counts (`upsertAll_of_key`).  Rows of many keys
do not come to that so directly, since new rows follow in the order of their
puts.  But a table is known if the order of its keys and the rows under each key
are known (`eq_of_filter_key`), and both are the same if all the rows are put
again (`upsertAll_upsertAll`).

Steps that may change places and may be repeated lead to what depends on the
steps alone (`foldl_eq_of_mem_iff`).
-/
namespace OfflineChat

/-! ## Steps in any order -/

section Steps

variable {α β : Type} {step : β → α → β} {l l' : List α}

/-- A step that is taken later may as well be taken now. -/
theorem foldl_step_of_mem (hcomm : ∀ b x y, step (step b x) y = step (step b y) x)
    (hidem : ∀ b x, step (step b x) x = step b x) {x : α} (hx : x ∈ l) (b : β) :
    l.foldl step (step b x) = l.foldl step b := by
  induction l generalizing b with
  | nil => cases hx
  | cons y rest ih =>
    rw [List.foldl_cons, List.foldl_cons]
    rcases List.mem_cons.mp hx with rfl | hx
    · rw [hidem]
    · rw [hcomm, ih hx]

/-- **Steps that may change places and may be repeated** lead to what depends on the steps alone. -/
theorem foldl_eq_of_mem_iff
    (hcomm : ∀ b x y, step (step b x) y = step (step b y) x)
    (hidem : ∀ b x, step (step b x) x = step b x) (h : ∀ x, x ∈ l ↔ x ∈ l') (b : β) :
    l.foldl step b = l'.foldl step b := by
  classical
  -- a step that is repeated later can be left out, and what remains is the same but for its order
  have hdedup (l : List α) (b : β) : l.dedup.foldl step b = l.foldl step b := by
    induction l generalizing b with
    | nil => rfl
    | cons x rest ih =>
      rw [List.foldl_cons]
      by_cases hx : x ∈ rest
      · rw [List.dedup_cons_of_mem hx, ih, foldl_step_of_mem hcomm hidem hx]
      · rw [List.dedup_cons_of_notMem hx, List.foldl_cons, ih]
  have hperm : l.dedup.Perm l'.dedup :=
    (List.perm_ext_iff_of_nodup l.nodup_dedup l'.nodup_dedup).mpr fun x => by
      rw [List.mem_dedup, List.mem_dedup, h]
  have hcommutes : RightCommutative step := ⟨hcomm⟩
  rw [← hdedup l, ← hdedup l', hperm.foldl_eq b]

end Steps

/-! ## Puts under one key -/

variable {α κ : Type} [DecidableEq κ] {key : α → κ} {merge : α → α → α}
  {stored : α → Option α → α} {news : List α}

/-- **Two puts under one key are one put**, of a row that covers both. -/
theorem upsert_upsert {first second both : α → α → α} {a b n : α} (hk : KeepsKey key first)
    (ha : key a = key b) (hn : key n = key b)
    (hold : ∀ old, key old = key b → second (first old a) b = both old n)
    (hnew : second a b = n) (rows : List α) :
    upsert key second b (upsert key first a rows) = upsert key both n rows := by
  induction rows with
  | nil => simp [upsert, ha, hnew]
  | cons old rest ih =>
    by_cases hkey : key old = key b
    · have hput : key (first old a) = key b := (hk old a (hkey.trans ha.symm)).trans ha
      rw [upsert, if_pos (hkey.trans ha.symm), upsert, if_pos hput, upsert,
        if_pos (hkey.trans hn.symm), hold old hkey]
    · have hne : key old ≠ key a := fun h => hkey (h.trans ha)
      have hne' : key old ≠ key n := fun h => hkey (h.trans hn)
      rw [upsert, if_neg hne, upsert, if_neg hkey, upsert, if_neg hne', ih]

/-- A row covers one that was put under its key before it. -/
theorem Covers.upsert_upsert (hc : Covers key merge stored news) (hk : KeepsKey key merge)
    {a b : α} (ha : a ∈ news) (hb : b ∈ news) (hkey : key a = key b) (rows : List α) :
    upsert key merge b (upsert key merge a rows) = upsert key merge b rows := by
  refine OfflineChat.upsert_upsert hk hkey rfl (fun old hold => ?_) ?_ rows
  · rw [hc.again a ha old (hold.trans hkey.symm), hc.covers a ha b hb hkey, hc.again b hb old hold]
  · have hcovers := hc.covers a ha b hb hkey none
    rwa [hc.first a ha, hc.first b hb] at hcovers

/-- **Of rows put under one key, the last one counts.** -/
theorem Covers.upsertAll_of_key (hc : Covers key merge stored news) (hk : KeepsKey key merge)
    {k : κ} {l : List α} {b : α} (hl : ∀ a ∈ l ++ [b], a ∈ news ∧ key a = k) (rows : List α) :
    upsertAll key merge (l ++ [b]) rows = upsert key merge b rows := by
  obtain ⟨hb, hbk⟩ := hl b (by simp)
  induction l generalizing rows with
  | nil => rfl
  | cons a rest ih =>
    obtain ⟨ha, hak⟩ := hl a (by simp)
    have hrest := ih (fun a ha => hl a (List.mem_cons_of_mem _ ha)) (upsert key merge a rows)
    show upsertAll key merge (rest ++ [b]) (upsert key merge a rows) = _
    rw [hrest, hc.upsert_upsert hk ha hb (hak.trans hbk.symm)]

/-- A row that replaces others makes the puts under its key before it forgotten. -/
theorem upsert_upsertAll_of_key (hk : KeepsKey key merge) {l : List α} {r : α}
    (hl : ∀ a ∈ l, key a = key r) (rows : List α) :
    upsert key (fun _ new => new) r (upsertAll key merge l rows) =
      upsert key (fun _ new => new) r rows := by
  induction l generalizing rows with
  | nil => rfl
  | cons a rest ih =>
    have hrest := ih (fun a ha => hl a (List.mem_cons_of_mem _ ha)) (upsert key merge a rows)
    show upsert key _ r (upsertAll key merge rest (upsert key merge a rows)) = _
    rw [hrest, upsert_upsert hk (hl a (List.mem_cons_self ..)) rfl (fun _ _ => rfl) rfl]

/-! ## Tables by their keys -/

/-- **A table is known by the order of its keys and the rows under each key.** -/
theorem eq_of_filter_key (key : α → κ) {rows rows' : List α}
    (hkeys : rows.map key = rows'.map key)
    (hrows : ∀ k, rows.filter (key · == k) = rows'.filter (key · == k)) : rows = rows' := by
  induction rows generalizing rows' with
  | nil => exact (List.map_eq_nil_iff.mp hkeys.symm).symm
  | cons a rest ih =>
    cases rows' with
    | nil => cases hkeys
    | cons a' rest' =>
      obtain ⟨hkey, hrest⟩ := List.cons_eq_cons.mp hkeys
      -- the first rows have one key, so they come first among the rows under it
      have hhead := hrows (key a)
      rw [List.filter_cons_of_pos (p := (key · == key a)) (beq_self_eq_true (key a)),
        List.filter_cons_of_pos (p := (key · == key a)) (beq_iff_eq.mpr hkey.symm)] at hhead
      obtain ⟨rfl, hsame⟩ := List.cons_eq_cons.mp hhead
      refine congrArg (List.cons a) (ih hrest fun k => ?_)
      by_cases hk : key a = k
      · exact hk ▸ hsame
      · have htail := hrows k
        rwa [List.filter_cons_of_neg (by simpa using hk),
          List.filter_cons_of_neg (by simpa using hk)] at htail

/-- Tables with the same rows under each key have the same rows. -/
theorem perm_of_filter_key [DecidableEq α] {rows rows' : List α}
    (hrows : ∀ k, rows.filter (key · == k) = rows'.filter (key · == k)) : rows.Perm rows' := by
  refine List.perm_iff_count.mpr fun a => ?_
  have hcount (l : List α) : (l.filter (key · == key a)).count a = l.count a :=
    List.count_filter (beq_self_eq_true _)
  rw [← hcount rows, hrows (key a), hcount rows']

theorem key_mem_upsertAll (hk : KeepsKey key merge) {k : κ} (h : k ∈ news.map key)
    (rows : List α) : k ∈ (upsertAll key merge news rows).map key := by
  rw [map_key_upsertAll hk, List.mem_append, List.mem_eraseDups, List.removeAll, List.mem_filter]
  by_cases hin : k ∈ rows.map key
  · exact .inl hin
  · exact .inr ⟨h, by simpa using hin⟩

/-- Rows under keys that are there already keep the order of the keys. -/
theorem map_key_upsertAll_of_mem (hk : KeepsKey key merge) {rows : List α}
    (h : ∀ k ∈ news.map key, k ∈ rows.map key) :
    (upsertAll key merge news rows).map key = rows.map key := by
  have hnone : (news.map key).removeAll (rows.map key) = [] := by
    rw [List.removeAll, List.filter_eq_nil_iff]
    intro k hin hnew
    exact absurd (h k hin) (by simpa using hnew)
  rw [map_key_upsertAll hk, hnone, List.eraseDups_nil, List.append_nil]

/-- **Rows that are put again change nothing.** -/
theorem upsertAll_upsertAll (hk : KeepsKey key merge) (hc : Covers key merge stored news)
    (rows : List α) :
    upsertAll key merge news (upsertAll key merge news rows) = upsertAll key merge news rows := by
  refine eq_of_filter_key key ?_ fun k => ?_
  · exact map_key_upsertAll_of_mem hk fun k hin => key_mem_upsertAll hk hin rows
  · have hp (a b : α) (hab : key a = key b) : (key a == k) = (key b == k) := by rw [hab]
    rw [filter_upsertAll hk hp, filter_upsertAll hk hp]
    have hmem : ∀ a ∈ news.filter (key · == k), a ∈ news ∧ key a = k := fun a ha =>
      ⟨(List.mem_filter.mp ha).1, eq_of_beq (List.mem_filter.mp ha).2⟩
    generalize news.filter (key · == k) = l at hmem
    rcases l.eq_nil_or_concat' with rfl | ⟨before, b, rfl⟩
    · rfl
    · have hb := (hmem b (by simp)).1
      rw [hc.upsertAll_of_key hk hmem, hc.upsertAll_of_key hk hmem, hc.upsert_upsert hk hb hb rfl]

/-! ## Rows that are changed by being put again -/

omit [DecidableEq κ] in
/-- Tables with the same keys in the same order are related row by row if rows under one key are. -/
theorem forall₂_of_map_key {R : α → α → Prop} {rows rows' : List α}
    (hkeys : rows.map key = rows'.map key)
    (h : ∀ r ∈ rows, ∀ r' ∈ rows', key r = key r' → R r r') : List.Forall₂ R rows rows' := by
  induction rows generalizing rows' with
  | nil =>
    obtain rfl : rows' = [] := List.map_eq_nil_iff.mp hkeys.symm
    exact .nil
  | cons a rest ih =>
    cases rows' with
    | nil => cases hkeys
    | cons a' rest' =>
      obtain ⟨hkey, hrest⟩ := List.cons_eq_cons.mp hkeys
      refine .cons (h a (List.mem_cons_self ..) a' (List.mem_cons_self ..) hkey) (ih hrest ?_)
      exact fun r hr r' hr' => h r (List.mem_cons_of_mem _ hr) r' (List.mem_cons_of_mem _ hr')

/-- Rows that are put over a table with their keys, in the same order, become the table. -/
theorem upsertAll_of_map_key {rows : List α} (hkeys : rows.map key = news.map key)
    (hnews : (news.map key).Nodup) : upsertAll key (fun _ new => new) news rows = news := by
  have hreplace := keepsKey_replace key
  have hputs := holdsPuts_upsertAll hreplace (covers_replace key news) (hkeys ▸ hnews)
  have hsame : (upsertAll key (fun _ new => new) news rows).map key = news.map key := by
    rw [map_key_upsertAll_of_mem hreplace fun k hk => hkeys ▸ hk, hkeys]
  rw [← List.forall₂_eq_eq_eq]
  refine forall₂_of_map_key hsame fun r hr r' hr' hkey => ?_
  have hin : r ∈ [r'] :=
    hputs.filter_key hnews hr' ▸ List.mem_filter.mpr ⟨hr, beq_iff_eq.mpr hkey⟩
  exact List.mem_singleton.mp hin

/-- **Rows that are put again in another form** change their places in the table, and nothing else
of it. -/
theorem forall₂_upsertAll {β : Type} {R : α → α → Prop} {xs : List β} {first again : β → α}
    {rows : List α} (hkey : ∀ x ∈ xs, key (again x) = key (first x))
    (hfirst : ((xs.map first).map key).Nodup) (hrows : (rows.map key).Nodup)
    (hput : ∀ x ∈ xs, R (first x) (again x))
    (hother : ∀ r ∈ rows, key r ∉ (xs.map first).map key → R r r) :
    List.Forall₂ R (upsertAll key (fun _ new => new) (xs.map first) rows)
      (upsertAll key (fun _ new => new) (xs.map again)
        (upsertAll key (fun _ new => new) (xs.map first) rows)) := by
  have hreplace := keepsKey_replace key
  have hsame : (xs.map again).map key = (xs.map first).map key := by
    rw [List.map_map, List.map_map]
    exact List.map_congr_left hkey
  have honce := holdsPuts_upsertAll hreplace (covers_replace key (xs.map first)) hrows
  have htable := nodup_upsertAll hreplace (xs.map first) hrows
  have htwice := holdsPuts_upsertAll hreplace (covers_replace key (xs.map again)) htable
  refine forall₂_of_map_key (map_key_upsertAll_of_mem hreplace fun k hk => ?_).symm ?_
  · exact key_mem_upsertAll hreplace (hsame ▸ hk) rows
  intro r hr r' hr' hrr'
  by_cases hin : key r ∈ (xs.map first).map key
  · -- under a key of the rows there is what was put last
    obtain ⟨_, hmem, hkeyr⟩ := List.mem_map.mp hin
    obtain ⟨x, hx, rfl⟩ := List.mem_map.mp hmem
    have hr₁ : r ∈ [first x] :=
      honce.filter_key hfirst hmem ▸ List.mem_filter.mpr ⟨hr, beq_iff_eq.mpr hkeyr.symm⟩
    have hr₂ : r' ∈ [again x] := by
      rw [← htwice.filter_key (hsame ▸ hfirst) (List.mem_map_of_mem hx)]
      exact List.mem_filter.mpr
        ⟨hr', beq_iff_eq.mpr (hrr'.symm.trans (hkeyr.symm.trans (hkey x hx).symm))⟩
    rw [List.mem_singleton.mp hr₁, List.mem_singleton.mp hr₂]
    exact hput x hx
  · -- the other rows are as they were both times
    have hr₂ := htwice.mem_of_notMem hr' (hsame ▸ hrr' ▸ hin)
    rw [List.inj_on_of_nodup_map htable hr₂ hr hrr'.symm]
    exact hother r (honce.mem_of_notMem hr hin) hin

end OfflineChat
