import OfflineChat.Preferences

/-! # The path beside a file

A value is written beside its file before it is moved into its place.  The path
beside a file leads through the same directories and ends in another name
(`Preferences.siblings_beside`), so writing one never touches the other.  A path that
has no name of its own can only be a directory (`Path.namesDirectory_of_name?`), and
there no file can be written at all.
-/
namespace OfflineChat

/-! ## Cut texts -/

namespace Text

/-- A slash between texts cuts them in two. -/
theorem splitOn_slash (a b : String) :
    splitOn '/' (a ++ "/" ++ b).toList = splitOn '/' a.toList ++ splitOn '/' b.toList := by
  rw [← splitOn_append, String.toList_append, String.toList_append, List.append_assoc]
  rfl

end Text

/-! ## Segments -/

namespace Path

variable {p q d : Path} {s : String}

/-- What can stand between two slashes and name something. -/
structure IsSegment (s : String) : Prop where
  slash : '/' ∉ s.toList
  empty : s ≠ ""
  dot : s ≠ "."

theorem isSegment_of_mem (h : s ∈ p.segments) : IsSegment s := by
  obtain ⟨hmem, hnames⟩ := List.mem_filter.mp h
  obtain ⟨part, hpart, rfl⟩ := List.mem_map.mp hmem
  simp only [Bool.and_eq_true, bne_iff_ne] at hnames
  refine ⟨?_, hnames.1, hnames.2⟩
  rw [String.toList_ofList]
  exact Text.notMem_of_mem_splitOn hpart

theorem segments_append (a b : String) :
    segments ⟨a ++ "/" ++ b⟩ = segments ⟨a⟩ ++ segments ⟨b⟩ := by
  unfold segments
  dsimp only
  rw [Text.splitOn_slash, List.map_append, List.filter_append]

theorem segments_of_isSegment (h : IsSegment s) : segments ⟨s⟩ = [s] := by
  unfold segments
  dsimp only
  rw [Text.splitOn_of_notMem h.slash, List.map_singleton, String.ofList_toList]
  simp [h.empty, h.dot]

theorem segments_empty : segments ⟨""⟩ = [] := by decide

theorem segments_intercalate {ss : List String} (h : ∀ s ∈ ss, IsSegment s) :
    segments ⟨String.intercalate "/" ss⟩ = ss := by
  induction ss with
  | nil => exact segments_empty
  | cons s ss ih =>
    have hs := segments_of_isSegment (h s (List.mem_cons_self ..))
    cases ss with
    | nil => exact hs
    | cons t ss =>
      rw [String.intercalate_cons_cons, segments_append, hs,
        ih fun u hu => h u (List.mem_cons_of_mem _ hu)]
      rfl

/-- The path above leads through all segments but the last. -/
theorem segments_of_parent? (h : p.parent? = some d) : d.segments = p.segments.dropLast := by
  have hsegments : ∀ s ∈ p.segments.dropLast, IsSegment s :=
    fun s hs => isSegment_of_mem (List.dropLast_subset _ hs)
  have hbody := segments_intercalate hsegments
  unfold parent? at h
  dsimp only at h
  split at h
  · rename_i hempty
    rw [List.isEmpty_iff] at hempty
    split at h
    · cases h
      rw [hempty]
      exact segments_empty
    · cases h
  · split at h
    · cases h
      have htop := segments_append "" (String.intercalate "/" p.segments.dropLast)
      rw [String.empty_append] at htop
      rw [htop, hbody, segments_empty, List.nil_append]
    · split at h
      · split at h
        · rename_i hnone
          cases h
          rw [hnone, segments_empty] at hbody
          rw [← hbody]
          decide
        · cases h
          have hhere := segments_append "." (String.intercalate "/" p.segments.dropLast)
          rw [show "." ++ "/" = "./" from rfl] at hhere
          rw [hhere, hbody, show segments ⟨"."⟩ = [] by decide, List.nil_append]
      · cases h
        exact hbody

/-- A text that ends in a slash. -/
theorem exists_of_getLast? (h : (s.toList.getLast? == some '/') = true) :
    ∃ front, s = front ++ "/" := by
  obtain ⟨front, hfront⟩ := List.getLast?_eq_some_iff.mp (beq_iff_eq.mp h)
  refine ⟨String.ofList front, String.toList_inj.mp ?_⟩
  rw [String.toList_append, String.toList_ofList, hfront]
  rfl

/-- A path inside another is in front of a slash, or there is nothing in front of it. -/
theorem join_cases (p : Path) (hq : q.isAbsolute = false) :
    (p.text = "" ∧ p.join q = q) ∨
      ∃ front, p.segments = segments ⟨front⟩ ∧ p.join q = ⟨front ++ "/" ++ q.text⟩ := by
  unfold join
  rw [hq, Bool.false_or]
  by_cases hempty : p.text = ""
  · exact .inl ⟨hempty, if_pos (decide_eq_true hempty)⟩
  · right
    rw [if_neg (by simpa using hempty)]
    split
    · rename_i hslash
      obtain ⟨front, hfront⟩ := exists_of_getLast? hslash
      refine ⟨front, ?_, by rw [hfront]⟩
      have hcut := segments_append front ""
      rw [String.append_empty, segments_empty, List.append_nil, ← hfront] at hcut
      exact hcut
    · exact ⟨p.text, rfl, rfl⟩

theorem segments_join (p : Path) (hq : q.isAbsolute = false) :
    (p.join q).segments = p.segments ++ q.segments := by
  obtain ⟨hempty, hjoin⟩ | ⟨front, hfront, hjoin⟩ := join_cases p hq
  · have hnone : p.segments = [] := by
      rw [show p = ⟨""⟩ from congrArg Path.mk hempty]
      exact segments_empty
    rw [hjoin, hnone, List.nil_append]
  · rw [hjoin, segments_append, hfront]

/-! ## Names -/

/-- A path has a name of its own if its last segment does not go up. -/
theorem name?_eq_some {n : String} (h : p.name? = some n) :
    p.segments = p.segments.dropLast ++ [n] ∧ n ≠ ".." := by
  unfold name? at h
  split at h
  · cases h
  · rename_i hup
    refine ⟨?_, fun heq => hup (heq ▸ h)⟩
    obtain ⟨above, habove⟩ := List.getLast?_eq_some_iff.mp h
    rw [habove, List.dropLast_concat]

/-- **A path without a name of its own can only be a directory.** -/
theorem namesDirectory_of_name? (h : p.name? = none) : p.namesDirectory = true := by
  unfold namesDirectory
  split
  · rfl
  · rfl
  · rfl
  · rfl
  · rename_i hempty hdot hup hnone
    -- what follows the last slash is the last segment, and it is a name
    cases hlast : (Text.splitOn '/' p.text.toList).getLast? with
    | none => exact absurd hlast hnone
    | some part =>
      obtain ⟨front, hfront⟩ := List.getLast?_eq_some_iff.mp hlast
      have hne {cs : List Char} (hcs : part ≠ cs) : String.ofList part ≠ String.ofList cs :=
        fun heq => hcs (by
          have hlist := congrArg String.toList heq
          rwa [String.toList_ofList, String.toList_ofList] at hlist)
      have hsegments : p.segments.getLast? = some (String.ofList part) := by
        have hnotEmpty : String.ofList part ≠ "" := hne fun heq => hempty (heq ▸ hlast)
        have hnotDot : String.ofList part ≠ "." := hne fun heq => hdot (heq ▸ hlast)
        unfold segments
        rw [hfront, List.map_append, List.filter_append, List.map_singleton]
        simp [hnotEmpty, hnotDot]
      have hnotUp : String.ofList part ≠ ".." := hne fun heq => hup (heq ▸ hlast)
      unfold name? at h
      rw [hsegments] at h
      split at h
      · rename_i heq
        exact absurd (Option.some.inj heq) hnotUp
      · cases h

end Path

/-! ## Beside a file -/

/-- Two names in one directory. -/
def Path.Siblings (p q : Path) : Prop :=
  ∃ above s t, Disk.resolve p.segments = above ++ [s] ∧ Disk.resolve q.segments = above ++ [t] ∧
    s ≠ t

namespace Disk

/-- A segment that does not go up goes down. -/
theorem resolve_concat {s : String} (hs : s ≠ "..") (above : List String) :
    resolve (above ++ [s]) = resolve above ++ [s] := by
  simp [resolve, hs]

theorem keyOf_concat_inj {above : List String} {s t : String}
    (h : keyOf (above ++ [s]) = keyOf (above ++ [t])) : s = t := by
  unfold keyOf at h
  cases above with
  | nil => simpa using h
  | cons a above =>
    rw [String.intercalate_append_of_ne_nil (List.cons_ne_nil _ _) (List.cons_ne_nil _ _),
      String.intercalate_append_of_ne_nil (List.cons_ne_nil _ _) (List.cons_ne_nil _ _)] at h
    simpa using h

end Disk

namespace Preferences

variable {path : Path} {n : String}

theorem cutName_append (t : String) : (Path.cutName (t ++ ".json.tmp")).1 = t ++ ".json" := by
  have hreverse : (t ++ ".json.tmp").toList.reverse =
      'p' :: 'm' :: 't' :: '.' :: 'n' :: 'o' :: 's' :: 'j' :: '.' :: t.toList.reverse := by
    rw [String.toList_append, List.reverse_append]
    rfl
  unfold Path.cutName
  rw [hreverse]
  simp [String.ofList_append]

theorem toList_cutName (n : String) : ∀ c ∈ (Path.cutName n).1.toList, c ∈ n.toList := by
  intro c hc
  unfold Path.cutName at hc
  dsimp only at hc
  split at hc
  · rename_i stem hstem
    split at hc
    · exact hc
    · rw [String.toList_ofList, List.mem_reverse] at hc
      have hsuffix := List.dropWhile_suffix (· != '.') (l := n.toList.reverse)
      rw [hstem] at hsuffix
      exact List.mem_reverse.mp (hsuffix.subset (List.mem_cons_of_mem _ hc))
  · exact hc

/-- The name beside a name. -/
def nameBeside (n : String) : String := (Path.cutName n).1 ++ "." ++ "json.tmp"

theorem nameBeside_eq (n : String) : nameBeside n = (Path.cutName n).1 ++ ".json.tmp" := by
  rw [nameBeside, String.append_assoc]
  rfl

theorem length_nameBeside (n : String) : 9 ≤ (nameBeside n).length := by
  rw [nameBeside_eq, String.length_append]
  exact Nat.le_add_left _ _

/-- It is another name. -/
theorem nameBeside_ne (n : String) : nameBeside n ≠ n := by
  rw [nameBeside_eq]
  intro h
  have hstem := cutName_append (Path.cutName n).1
  rw [h] at hstem
  have hlength := congrArg String.length hstem
  rw [String.length_append] at hlength
  have hsuffix : (".json" : String).length = 5 := rfl
  omega

theorem isSegment_nameBeside (h : Path.IsSegment n) : Path.IsSegment (nameBeside n) := by
  have hlength := length_nameBeside n
  refine ⟨?_, ?_, ?_⟩
  · rw [nameBeside_eq, String.toList_append]
    intro hmem
    rcases List.mem_append.mp hmem with hmem | hmem
    · exact h.slash (toList_cutName n _ hmem)
    · revert hmem
      decide
  · intro heq
    rw [heq] at hlength
    exact absurd hlength (by decide)
  · intro heq
    rw [heq] at hlength
    exact absurd hlength (by decide)

theorem nameBeside_ne_up (n : String) : nameBeside n ≠ ".." := by
  intro heq
  have hlength := length_nameBeside n
  rw [heq] at hlength
  exact absurd hlength (by decide)

/-- Beside a file there is no file for a path without a name. -/
theorem beside_of_name?_none (h : path.name? = none) : beside path = path := by
  unfold beside Path.withExtension
  rw [h]

/-- A path with a name has a directory, and beside it is another name in it. -/
theorem beside_of_name? (h : path.name? = some n) :
    ∃ d, path.parent? = some d ∧ beside path = d.join ⟨nameBeside n⟩ := by
  have hsegments : path.segments.isEmpty = false := by
    rw [(Path.name?_eq_some h).1]
    simp
  have hparent : ∃ d, path.parent? = some d := by
    unfold Path.parent?
    rw [hsegments]
    dsimp only
    split
    · contradiction
    · split
      · exact ⟨_, rfl⟩
      · split <;> exact ⟨_, rfl⟩
  obtain ⟨d, hd⟩ := hparent
  refine ⟨d, hd, ?_⟩
  unfold beside Path.withExtension
  rw [h, hd]
  rfl

theorem isAbsolute_of_isSegment (h : Path.IsSegment n) : Path.isAbsolute ⟨n⟩ = false := by
  unfold Path.isAbsolute
  cases hn : n.toList with
  | nil => rfl
  | cons c cs =>
    have hc : c ≠ '/' := fun heq => h.slash (by rw [hn, heq]; exact List.mem_cons_self ..)
    simpa using hc

/-- **Beside a file is another name in its directory.** -/
theorem siblings_beside (h : path.name? = some n) : (beside path).Siblings path := by
  obtain ⟨d, hd, hbeside⟩ := beside_of_name? h
  obtain ⟨hlast, hup⟩ := Path.name?_eq_some h
  have hn : n ∈ path.segments := by
    rw [hlast]
    exact List.mem_append_right _ (List.mem_singleton_self n)
  have hsegment := isSegment_nameBeside (Path.isSegment_of_mem hn)
  have habsolute := isAbsolute_of_isSegment hsegment
  have hsegments : (beside path).segments = path.segments.dropLast ++ [nameBeside n] := by
    rw [hbeside, Path.segments_join d habsolute, Path.segments_of_parent? hd,
      Path.segments_of_isSegment hsegment]
  refine ⟨Disk.resolve path.segments.dropLast, nameBeside n, n, ?_, ?_, nameBeside_ne n⟩
  · rw [hsegments, Disk.resolve_concat (nameBeside_ne_up n)]
  · rw [hlast, Disk.resolve_concat hup, List.dropLast_concat]

end Preferences
end OfflineChat
