import Mathlib.Data.List.Basic
import Mathlib.Data.List.TakeWhile
import OfflineChat.Text.Split

/-! # Texts without blanks at their ends

Stripping a list leaves a part of it that neither begins nor ends with what is
stripped, between two stretches of nothing else (`Text.exists_strip`).  There is only
one such part (`Text.strip_append`).  So what is stripped may be added at either end
without a difference (`Text.strip_append_append`, `Text.trim_append`).
-/
namespace OfflineChat
namespace Text

variable {α : Type} {p : α → Bool} {before after xs : List α}

/-- Neither the first nor the last element satisfies `p`. -/
def EndsWithout (p : α → Bool) (xs : List α) : Prop :=
  (∀ a ∈ xs.head?, p a = false) ∧ ∀ a ∈ xs.getLast?, p a = false

/-- Nothing but blanks. -/
def IsBlankText (s : String) : Prop := ∀ c ∈ s.toList, isBlank c = true

-- the characters of the text are looked through, and not all characters there are
instance (s : String) : Decidable (IsBlankText s) :=
  List.decidableBAll (fun c => isBlank c = true) s.toList

/-- A list that does not begin with what is dropped loses nothing. -/
theorem dropWhile_eq_self (h : ∀ a ∈ xs.head?, p a = false) : xs.dropWhile p = xs := by
  cases xs with
  | nil => rfl
  | cons a rest => exact List.dropWhile_cons_of_neg (Bool.eq_false_iff.mp (h a rfl))

theorem head?_dropWhile (p : α → Bool) (xs : List α) :
    ∀ a ∈ (xs.dropWhile p).head?, p a = false := by
  intro a ha
  have hhead := List.head?_dropWhile_not p xs
  rw [Option.mem_def.mp ha] at hhead
  exact hhead

theorem getLast?_dropEndWhile (p : α → Bool) (xs : List α) :
    ∀ a ∈ (dropEndWhile p xs).getLast?, p a = false := by
  rw [dropEndWhile, List.getLast?_reverse]
  exact head?_dropWhile p xs.reverse

theorem exists_dropEndWhile (p : α → Bool) (xs : List α) :
    ∃ after, (∀ a ∈ after, p a = true) ∧ dropEndWhile p xs ++ after = xs := by
  refine ⟨(xs.reverse.takeWhile p).reverse,
    fun a ha => List.mem_takeWhile_imp (List.mem_reverse.mp ha), ?_⟩
  rw [dropEndWhile, ← List.reverse_append, List.takeWhile_append_dropWhile, List.reverse_reverse]

/-- **What is stripped stands at the two ends**, and what is left has other ends. -/
theorem exists_strip (p : α → Bool) (xs : List α) :
    ∃ before after, (∀ a ∈ before, p a = true) ∧ (∀ a ∈ after, p a = true) ∧
      xs = before ++ (strip p xs ++ after) ∧ EndsWithout p (strip p xs) := by
  obtain ⟨after, hafter, hback⟩ := exists_dropEndWhile p (xs.dropWhile p)
  refine ⟨xs.takeWhile p, after, fun a ha => List.mem_takeWhile_imp ha, hafter, ?_, ?_,
    getLast?_dropEndWhile p _⟩
  · rw [strip, hback, List.takeWhile_append_dropWhile]
  · -- what is left begins as it does before anything is dropped from the end
    intro a ha
    have hfirst := head?_dropWhile p xs
    rw [← hback] at hfirst
    refine hfirst a ?_
    rw [List.head?_append]
    exact Option.mem_def.mpr (by rw [← strip, Option.mem_def.mp ha, Option.some_or])

/-- **A part with other ends is what is left**, if all around it is stripped. -/
theorem strip_append (hbefore : ∀ a ∈ before, p a = true) (hafter : ∀ a ∈ after, p a = true)
    (hxs : EndsWithout p xs) : strip p (before ++ (xs ++ after)) = xs := by
  have hreverse : ∀ a ∈ after.reverse, p a = true := fun a ha => hafter a (List.mem_reverse.mp ha)
  have hlast : ∀ a ∈ xs.reverse.head?, p a = false := by
    rw [List.head?_reverse]
    exact hxs.2
  rw [strip, List.dropWhile_append_of_pos hbefore]
  cases xs with
  | nil =>
    rw [List.nil_append, List.dropWhile_eq_nil_iff.mpr hafter]
    rfl
  | cons a rest =>
    have hfirst : ((a :: rest) ++ after).dropWhile p = (a :: rest) ++ after :=
      dropWhile_eq_self hxs.1
    rw [hfirst, dropEndWhile, List.reverse_append, List.dropWhile_append_of_pos hreverse,
      dropWhile_eq_self hlast, List.reverse_reverse]

/-- What is stripped may be added at either end. -/
theorem strip_append_append (hbefore : ∀ a ∈ before, p a = true)
    (hafter : ∀ a ∈ after, p a = true) :
    strip p (before ++ (xs ++ after)) = strip p xs := by
  obtain ⟨front, back, hfront, hback, hxs, hends⟩ := exists_strip p xs
  have hsplit : before ++ ((front ++ (strip p xs ++ back)) ++ after) =
      (before ++ front) ++ (strip p xs ++ (back ++ after)) := by simp only [List.append_assoc]
  rw [← hxs] at hsplit
  rw [hsplit]
  exact strip_append (List.forall_mem_append.mpr ⟨hbefore, hfront⟩)
    (List.forall_mem_append.mpr ⟨hback, hafter⟩) hends

/-- What stands in front with other ends is kept, and so is everything up to the end. -/
theorem strip_of_front {front : List α} (hne : front ≠ []) (h : EndsWithout p front)
    (xs : List α) : strip p (front ++ xs) = front ++ dropEndWhile p xs := by
  have hfirst : (front ++ xs).dropWhile p = front ++ xs := by
    refine dropWhile_eq_self fun a ha => h.1 a ?_
    rwa [List.head?_append_of_ne_nil _ hne] at ha
  have hlast : front.reverse.dropWhile p = front.reverse := by
    refine dropWhile_eq_self ?_
    rw [List.head?_reverse]
    exact h.2
  rw [strip, hfirst, dropEndWhile, List.reverse_append, List.dropWhile_append, hlast, dropEndWhile]
  split
  · rename_i hempty
    rw [List.isEmpty_iff.mp hempty, List.reverse_nil, List.append_nil, List.reverse_reverse]
  · rw [List.reverse_append, List.reverse_reverse]

theorem strip_dropEndWhile (p : α → Bool) (xs : List α) :
    strip p (dropEndWhile p xs) = strip p xs := by
  obtain ⟨after, hafter, hback⟩ := exists_dropEndWhile p xs
  have hstrip : strip p ([] ++ (dropEndWhile p xs ++ after)) = _ := strip_append_append nofun hafter
  rw [← hstrip, List.nil_append, hback]

/-! ## Texts -/

theorem isBlankText_empty : IsBlankText "" := by
  intro c hc
  exact absurd hc List.not_mem_nil

theorem toList_trim (s : String) : (trim s).toList = strip isBlank s.toList :=
  String.toList_ofList

/-- **A text that is trimmed has no blank at its ends.** -/
theorem endsWithout_trim (s : String) : EndsWithout isBlank (trim s).toList := by
  obtain ⟨-, -, -, -, -, hends⟩ := exists_strip isBlank s.toList
  rwa [toList_trim]

/-- **Blanks at the ends of a text make no difference** where it is trimmed. -/
theorem trim_append {before after : String} (hbefore : IsBlankText before)
    (hafter : IsBlankText after) (s : String) : trim (before ++ s ++ after) = trim s := by
  rw [trim, trim, String.toList_append, String.toList_append, List.append_assoc,
    strip_append_append hbefore hafter]

/-- A text without blanks at its ends is left as it is. -/
theorem trim_eq_self {s : String} (h : EndsWithout isBlank s.toList) : trim s = s := by
  have hstrip : strip isBlank ([] ++ (s.toList ++ [])) = s.toList := strip_append nofun nofun h
  rw [List.nil_append, List.append_nil] at hstrip
  rw [trim, hstrip, String.ofList_toList]

end Text
end OfflineChat
