/-! # Cutting texts

A text cut at a character, the lines of a text, and a text without the blanks at its
two ends.  A text is cut at each separator (`Text.splitOn_append`), and nowhere else
(`Text.splitOn_of_notMem`, `Text.notMem_of_mem_splitOn`).
-/
namespace OfflineChat
namespace Text

/-- Cut a list at each separator. -/
def splitOn (sep : Char) : List Char → List (List Char)
  | [] => [[]]
  | c :: rest =>
    if c = sep then [] :: splitOn sep rest
    else match splitOn sep rest with
      | [] => [[c]]
      | s :: ss => (c :: s) :: ss

variable {sep : Char} {cs : List Char}

theorem splitOn_ne_nil (sep : Char) (cs : List Char) : splitOn sep cs ≠ [] := by
  cases cs with
  | nil => nofun
  | cons c cs =>
    unfold splitOn
    split
    · nofun
    · split <;> nofun

/-- A separator cuts a text in two. -/
theorem splitOn_append (sep : Char) (as bs : List Char) :
    splitOn sep (as ++ sep :: bs) = splitOn sep as ++ splitOn sep bs := by
  induction as with
  | nil => simp [splitOn]
  | cons c as ih =>
    rw [List.cons_append, splitOn, splitOn, ih]
    by_cases hc : c = sep
    · rw [if_pos hc, if_pos hc]
      rfl
    · rw [if_neg hc, if_neg hc]
      cases hparts : splitOn sep as with
      | nil => exact absurd hparts (splitOn_ne_nil sep as)
      | cons s ss => rfl

theorem splitOn_of_notMem (h : sep ∉ cs) : splitOn sep cs = [cs] := by
  induction cs with
  | nil => rfl
  | cons c cs ih =>
    have hc : c ≠ sep := fun heq => h (heq ▸ List.mem_cons_self ..)
    rw [splitOn, if_neg hc, ih fun hmem => h (List.mem_cons_of_mem _ hmem)]

theorem notMem_of_mem_splitOn {part : List Char} (h : part ∈ splitOn sep cs) : sep ∉ part := by
  induction cs generalizing part with
  | nil =>
    obtain rfl : part = [] := List.mem_singleton.mp h
    nofun
  | cons c cs ih =>
    unfold splitOn at h
    split at h
    · rcases List.mem_cons.mp h with rfl | h
      · nofun
      · exact ih h
    · rename_i hc
      cases hparts : splitOn sep cs with
      | nil => exact absurd hparts (splitOn_ne_nil sep cs)
      | cons s ss =>
        rw [hparts] at h ih
        rcases List.mem_cons.mp h with rfl | h
        · intro hmem
          rcases List.mem_cons.mp hmem with heq | hmem
          · exact hc heq.symm
          · exact ih (List.mem_cons_self ..) hmem
        · exact ih (List.mem_cons_of_mem _ h)

/-- A line without a carriage return at its end. -/
def withoutReturn (cs : List Char) : List Char :=
  if cs.getLast? = some '\r' then cs.dropLast else cs

/-- The lines of a text.  One that ends in a line feed has no empty line behind it. -/
def lines (s : String) : List String :=
  let parts := splitOn '\n' s.toList
  (parts.dropLast.map withoutReturn ++ (parts.getLast?.filter (!·.isEmpty)).toList).map
    String.ofList

/-! ## Blank ends -/

/-- The Unicode property `White_Space`. -/
def isBlank (c : Char) : Bool :=
  let n := c.toNat
  (0x09 ≤ n && n ≤ 0x0D) || n == 0x20 || n == 0x85 || n == 0xA0 || n == 0x1680 ||
  (0x2000 ≤ n && n ≤ 0x200A) || n == 0x2028 || n == 0x2029 || n == 0x202F ||
  n == 0x205F || n == 0x3000

/-- Drop the elements from the end for as long as they satisfy `p`. -/
def dropEndWhile {α : Type} (p : α → Bool) (xs : List α) : List α :=
  (xs.reverse.dropWhile p).reverse

/-- Drop the elements at both ends for as long as they satisfy `p`. -/
def strip {α : Type} (p : α → Bool) (xs : List α) : List α :=
  dropEndWhile p (xs.dropWhile p)

/-- A text without the blanks at its two ends. -/
def trim (s : String) : String :=
  String.ofList (strip isBlank s.toList)

end Text
end OfflineChat
