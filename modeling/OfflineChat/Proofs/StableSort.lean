import Mathlib.Data.List.Basic

/-! # Stable sorting

The lists that the cache answers are sorted, and rows that the order does not
tell apart stay as they were.  Said of one row: it comes behind the sorted rows that
are strictly before it, and in front of the others (`mergeSort_cons_eq`).  Hence
selecting rows goes together with sorting them (`filter_mergeSort`), and what holds
of rows in their order before holds after of those that are not told apart
(`pairwise_mergeSort_of_pairwise`).
-/
namespace OfflineChat

variable {α : Type} {le : α → α → Bool}
  (htrans : ∀ a b c, le a b = true → le b c = true → le a c = true)
  (htotal : ∀ a b, (le a b || le b a) = true)

include htrans htotal

/-- **The first row is put behind the sorted rows that are strictly before it.** -/
theorem mergeSort_cons_eq (a : α) (l : List α) :
    (a :: l).mergeSort le =
      (l.mergeSort le).filter (!le a ·) ++ a :: (l.mergeSort le).filter (le a ·) := by
  obtain ⟨before, after, hsort, hrest, hbefore⟩ := List.mergeSort_cons htrans htotal a l
  have hsorted := List.pairwise_mergeSort htrans htotal (a :: l)
  rw [hsort] at hsorted
  have hafter : ∀ b ∈ after, le a b = true :=
    (List.pairwise_cons.mp (List.pairwise_append.mp hsorted).2.1).1
  rw [hsort, hrest, List.filter_append, List.filter_append, List.filter_eq_self.mpr hbefore,
    List.filter_eq_nil_iff.mpr (fun b hb => by simp [hafter b hb]),
    List.filter_eq_nil_iff.mpr (fun b hb => by simpa using hbefore b hb),
    List.filter_eq_self.mpr hafter, List.append_nil, List.nil_append]

/-- **Selecting rows goes together with sorting them.** -/
theorem filter_mergeSort (p : α → Bool) (l : List α) :
    (l.mergeSort le).filter p = (l.filter p).mergeSort le := by
  induction l with
  | nil => simp
  | cons a rest ih =>
    cases ha : p a with
    | false =>
      obtain ⟨before, after, hsort, hrest, -⟩ := List.mergeSort_cons htrans htotal a rest
      rw [hsort, List.filter_append, List.filter_cons_of_neg (by simp [ha]), ← List.filter_append,
        ← hrest, ih, List.filter_cons_of_neg (by simp [ha])]
    | true =>
      rw [mergeSort_cons_eq htrans htotal, List.filter_append, List.filter_cons_of_pos ha,
        List.filter_comm, ih, List.filter_comm, ih, List.filter_cons_of_pos ha,
        mergeSort_cons_eq htrans htotal]

/-- **Rows that the order does not tell apart stay in the order in which they were.** -/
theorem pairwise_mergeSort_of_pairwise {R : α → α → Prop} {l : List α} (h : l.Pairwise R) :
    (l.mergeSort le).Pairwise fun a b => le a b = true ∧ (le b a = true → R a b) := by
  induction l with
  | nil => simp
  | cons a rest ih =>
    obtain ⟨ha, hrest⟩ := List.pairwise_cons.mp h
    rw [mergeSort_cons_eq htrans htotal]
    refine List.pairwise_append.mpr ⟨(ih hrest).filter _, ?_, ?_⟩
    · refine List.pairwise_cons.mpr ⟨fun b hb => ?_, (ih hrest).filter _⟩
      obtain ⟨hb, hab⟩ := List.mem_filter.mp hb
      exact ⟨hab, fun _ => ha b ((List.mergeSort_perm rest le).mem_iff.mp hb)⟩
    · intro b hb x hx
      obtain ⟨hb, hab⟩ := List.mem_filter.mp hb
      have hab : le a b = false := by simpa using hab
      have hba : le b a = true := by simpa [hab] using htotal a b
      rcases List.mem_cons.mp hx with rfl | hx
      · exact ⟨hba, fun hle => absurd hle (by simp [hab])⟩
      · -- the new row parts the rows before it from the rows behind it
        obtain ⟨hx, hax⟩ := List.mem_filter.mp hx
        refine ⟨htrans b a x hba hax, fun hxb => ?_⟩
        exact absurd (htrans a x b hax hxb) (by simp [hab])

end OfflineChat
