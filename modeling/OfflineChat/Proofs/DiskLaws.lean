import OfflineChat.Proofs.SiblingPaths

/-! # What the file system keeps

A file that is written, moved or removed changes what is at its own path and
nothing else (`Disk.SameBut`), and no directory on the way to another file is lost
(`Disk.SameBut.keepsDirectories`).  So what is at one path is told apart from what is at
another by the two names alone (`Disk.SameBut.look`).
-/
namespace OfflineChat

theorem Dict.find?_erase {α : Type} (d : Dict α) (key k : String) :
    (d.erase key).find? k = if k = key then none else d.find? k := by
  unfold Dict.find? Dict.erase
  dsimp only
  generalize d.entries = es
  induction es with
  | nil => simp
  | cons e es ih =>
    obtain ⟨k', v⟩ := e
    by_cases hkey : k' = key
    · subst hkey
      rw [List.filter_cons_of_neg (by simp), ih, lookup_cons_ite]
      by_cases hk : k = k' <;> simp [hk]
    · rw [List.filter_cons_of_pos (by simpa using hkey), lookup_cons_ite, lookup_cons_ite, ih]
      by_cases hk : k = k'
      · subst hk
        simp [hkey]
      · simp [hk]

namespace Disk

variable {d d' : Disk} {p q : Path} {n : DiskNode} {segments above : List String} {s : String}

/-- The key of what is at a path. -/
def keyAt (p : Path) : String := keyOf (resolve p.segments)

/-- Every directory down to the given segments is there. -/
def Reaches (d : Disk) (segments : List String) : Prop :=
  ∀ front, front <+: segments → d.at? front = some .directory

/-- The file systems differ at most in what is at a path. -/
def SameBut (p : Path) (d d' : Disk) : Prop :=
  ∀ segments, keyOf segments ≠ keyAt p → d'.at? segments = d.at? segments

/-- Every directory of the one file system is one of the other. -/
def KeepsDirectories (d d' : Disk) : Prop := ∀ segments, d.Reaches segments → d'.Reaches segments

theorem KeepsDirectories.refl (d : Disk) : d.KeepsDirectories d := fun _ h => h

theorem KeepsDirectories.trans {d'' : Disk} (h : d.KeepsDirectories d')
    (h' : d'.KeepsDirectories d'') : d.KeepsDirectories d'' := fun _ hd => h' _ (h _ hd)

/-! ## The root -/

theorem reaches_nil : d.Reaches [] := by
  intro front hfront
  rw [List.prefix_nil.mp hfront]
  rfl

theorem at?_of_ne_nil (h : segments ≠ []) : d.at? segments = d.nodes.find? (keyOf segments) :=
  if_neg (by simpa using h)

theorem resolve_ne_nil (h : d.isDirectory p = false) : resolve p.segments ≠ [] := by
  intro hroot
  unfold isDirectory node? at h
  rw [hroot] at h
  cases h

theorem node?_ne_directory (h : d.isDirectory p = false) : d.node? p ≠ some .directory := by
  intro hnode
  unfold isDirectory at h
  rw [hnode] at h
  cases h

/-! ## The way to a file -/

theorem obstacle?_cons_concat (above segments : List String) (a s : String) :
    d.obstacle? above (a :: segments ++ [s]) =
      match d.at? (above ++ [a]) with
      | some .directory => d.obstacle? (above ++ [a]) (segments ++ [s])
      | some _ => some .notDirectory
      | none => some .notFound := by
  cases segments <;> rfl

theorem obstacle?_concat :
    ∀ {above segments : List String}, d.obstacle? above (segments ++ [s]) = none ↔
      ∀ front, front <+: segments → front ≠ [] → d.at? (above ++ front) = some .directory
  | above, [] => by
    refine ⟨fun _ front hfront hne => ?_, fun _ => rfl⟩
    exact absurd (List.prefix_nil.mp hfront) hne
  | above, a :: segments => by
    rw [obstacle?_cons_concat]
    constructor
    · intro h front hfront hne
      cases front with
      | nil => exact absurd rfl hne
      | cons b front =>
        obtain ⟨rfl, htail⟩ := List.cons_prefix_cons.mp hfront
        split at h
        · rename_i hdir
          cases front with
          | nil => exact hdir
          | cons c front =>
            have hbelow := obstacle?_concat.mp h (c :: front) htail (List.cons_ne_nil _ _)
            rwa [List.append_assoc] at hbelow
        · cases h
        · cases h
    · intro h
      have hdir := h [a] (List.cons_prefix_cons.mpr ⟨rfl, List.nil_prefix⟩) (List.cons_ne_nil _ _)
      rw [hdir]
      refine obstacle?_concat.mpr fun front hfront hne => ?_
      rw [List.append_assoc]
      exact h (a :: front) (List.cons_prefix_cons.mpr ⟨rfl, hfront⟩) (List.cons_ne_nil _ _)

/-- Nothing is in the way of an entry if the directory it goes into is there. -/
theorem obstacle?_eq_none : d.obstacle? [] (above ++ [s]) = none ↔ d.Reaches above := by
  rw [obstacle?_concat]
  constructor
  · intro h front hfront
    cases front with
    | nil => rfl
    | cons a front => exact h (a :: front) hfront (List.cons_ne_nil _ _)
  · intro h front hfront _
    exact h front hfront

end Disk

/-! ## Names in one directory -/

namespace Path.Siblings

variable {d : Disk} {p q : Path}

theorem symm (h : p.Siblings q) : q.Siblings p := by
  obtain ⟨above, s, t, hp, hq, hne⟩ := h
  exact ⟨above, t, s, hq, hp, hne.symm⟩

theorem keyAt_ne (h : p.Siblings q) : Disk.keyAt p ≠ Disk.keyAt q := by
  obtain ⟨above, s, t, hp, hq, hne⟩ := h
  unfold Disk.keyAt
  rw [hp, hq]
  exact fun hkey => hne (Disk.keyOf_concat_inj hkey)

/-- The way to a name is free if the way to another one in its directory is. -/
theorem obstacle? (h : p.Siblings q) (hp : d.obstacle? [] (Disk.resolve p.segments) = none) :
    d.obstacle? [] (Disk.resolve q.segments) = none := by
  obtain ⟨above, s, t, hps, hqs, -⟩ := h
  rw [hps] at hp
  rw [hqs]
  exact Disk.obstacle?_eq_none.mpr (Disk.obstacle?_eq_none.mp hp)

end Path.Siblings

namespace Disk

variable {d d' : Disk} {p q : Path} {n : DiskNode} {segments above : List String} {s : String}

/-! ## Directories that are made -/

theorem makeDirectories_go (h : d.Reaches (above ++ segments)) :
    makeDirectories.go d above segments = .ok d := by
  induction segments generalizing above with
  | nil => rfl
  | cons s segments ih =>
    have hdir : d.at? (above ++ [s]) = some .directory :=
      h _ (List.prefix_append_right_inj above |>.mpr
        (List.cons_prefix_cons.mpr ⟨rfl, List.nil_prefix⟩))
    rw [makeDirectories.go, hdir]
    refine ih ?_
    rwa [List.append_assoc]

/-- Where the directories are there, none is made. -/
theorem makeDirectories_of_reaches (h : d.Reaches (resolve p.segments)) :
    d.makeDirectories p = .ok d := makeDirectories_go h

/-- Once the directories are made, they are there. -/
theorem reaches_of_go (habove : d.Reaches above)
    (h : makeDirectories.go d above segments = .ok d') : d'.Reaches (above ++ segments) := by
  induction segments generalizing d above with
  | nil =>
    cases h
    rwa [List.append_nil]
  | cons s segments ih =>
    have hnext {e : Disk} (he : e.Reaches above) (hdir : e.at? (above ++ [s]) = some .directory) :
        e.Reaches (above ++ [s]) := by
      intro front hfront
      rcases List.prefix_concat_iff.mp hfront with rfl | hfront
      · exact hdir
      · exact he front hfront
    rw [List.append_cons]
    rw [makeDirectories.go] at h
    split at h
    · rename_i hdir
      exact ih (hnext habove hdir) h
    · cases h
    · rename_i hfree
      refine ih (hnext (fun front hfront => ?_) ?_) h
      · cases front with
        | nil => rfl
        | cons a front =>
          rw [at?_of_ne_nil (List.cons_ne_nil _ _), Dict.find?_insert]
          split
          · rfl
          · rw [← at?_of_ne_nil (List.cons_ne_nil _ _)]
            exact habove _ hfront
      · rw [at?_of_ne_nil (by simp), Dict.find?_insert, if_pos rfl]

/-! ## What changes at one path -/

theorem sameBut_put (d : Disk) (p : Path) (n : DiskNode) : SameBut p d (d.put p n) := by
  intro segments hkey
  cases segments with
  | nil => rfl
  | cons s segments =>
    rw [at?_of_ne_nil (List.cons_ne_nil _ _), at?_of_ne_nil (List.cons_ne_nil _ _)]
    exact (Dict.find?_insert ..).trans (if_neg hkey)

theorem sameBut_drop (d : Disk) (p : Path) : SameBut p d (d.drop p) := by
  intro segments hkey
  cases segments with
  | nil => rfl
  | cons s segments =>
    rw [at?_of_ne_nil (List.cons_ne_nil _ _), at?_of_ne_nil (List.cons_ne_nil _ _)]
    exact (Dict.find?_erase ..).trans (if_neg hkey)

theorem node?_put (h : d.isDirectory p = false) : (d.put p n).node? p = some n := by
  rw [node?, at?_of_ne_nil (resolve_ne_nil h)]
  exact (Dict.find?_insert ..).trans (if_pos rfl)

theorem node?_drop (h : d.isDirectory p = false) : (d.drop p).node? p = none := by
  rw [node?, at?_of_ne_nil (resolve_ne_nil h)]
  exact (Dict.find?_erase ..).trans (if_pos rfl)

/-- **No directory is lost** by what changes at a path where there is none. -/
theorem SameBut.keepsDirectories (h : SameBut p d d') (hp : d.isDirectory p = false) :
    d.KeepsDirectories d' := by
  intro segments hd front hfront
  cases front with
  | nil => rfl
  | cons a front =>
    have hdir := hd _ hfront
    refine (h _ fun hkey => node?_ne_directory hp ?_).trans hdir
    rw [node?, at?_of_ne_nil (resolve_ne_nil hp)]
    rw [at?_of_ne_nil (List.cons_ne_nil _ _), hkey] at hdir
    exact hdir

/-- What was not in the way of an entry still is not. -/
theorem SameBut.obstacle? (h : SameBut p d d') (hp : d.isDirectory p = false)
    (hfree : d.obstacle? [] segments = none) : d'.obstacle? [] segments = none := by
  rcases List.eq_nil_or_concat segments with rfl | ⟨above, s, rfl⟩
  · rfl
  · rw [List.concat_eq_append] at hfree ⊢
    exact obstacle?_eq_none.mpr (h.keepsDirectories hp _ (obstacle?_eq_none.mp hfree))

/-- **What is at another path is as before**, if the way to it is free. -/
theorem SameBut.look (h : SameBut p d d') (hp : d.isDirectory p = false)
    (hfree : d.obstacle? [] (resolve q.segments) = none) (hkey : keyAt q ≠ keyAt p) :
    d'.look q = d.look q := by
  have hnode : d'.node? q = d.node? q := h _ hkey
  unfold Disk.look
  rw [hfree, h.obstacle? hp hfree, hnode]

/-! ## Files -/

theorem refusal?_eq_none {misfit : DiskError} (h : d.refusal? p misfit = none) :
    p.text ≠ "" ∧ d.obstacle? [] (resolve p.segments) = none ∧ d.isDirectory p = false ∧
      p.namesDirectory = false := by
  unfold refusal? at h
  split at h
  · cases h
  · rename_i htext
    split at h
    · cases h
    · rename_i hfree
      split at h
      · cases h
      · rename_i hdir
        split at h
        · cases h
        · rename_i hname
          exact ⟨htext, hfree, by simpa using hdir, by simpa using hname⟩

/-- Where a file could be put, one still can. -/
theorem SameBut.refusal? {misfit : DiskError} (h : SameBut p d d') (hp : d.isDirectory p = false)
    (hkey : keyAt q ≠ keyAt p) (hq : d.refusal? q misfit = none) : d'.refusal? q misfit = none := by
  obtain ⟨htext, hfree, hdir, hname⟩ := refusal?_eq_none hq
  have hdir' : d'.isDirectory q = false := by
    have hnode : d'.node? q = d.node? q := h _ hkey
    unfold isDirectory at hdir ⊢
    rwa [hnode]
  unfold Disk.refusal?
  rw [if_neg htext, h.obstacle? hp hfree, hdir', hname]
  rfl

/-- What is put at a path where a file can be is found there. -/
theorem look_put {misfit : DiskError} {content : ByteArray}
    (h : d.refusal? p misfit = none) : (d.put p (.file content)).look p = .ok (.file content) := by
  obtain ⟨htext, hfree, hdir, hname⟩ := refusal?_eq_none h
  unfold Disk.look
  rw [if_neg htext, (sameBut_put d p _).obstacle? hdir hfree, node?_put hdir, hname]
  rfl

/-- **A file is written, or the file system says why not**; then at most a part of it is written. -/
theorem write_cases (d : Disk) (p : Path) (content : ByteArray) (mishap : Option Mishap) :
    (∃ e, d.write p content mishap = (.error e, d)) ∨
      d.refusal? p .isDirectory = none ∧
        ((∃ e part, d.write p content mishap = (.error e, d.put p (.file part))) ∨
          d.write p content mishap = (.ok (), d.put p (.file content))) := by
  unfold write
  cases hrefusal : d.refusal? p .isDirectory with
  | some e => exact .inl ⟨e, rfl⟩
  | none =>
    cases mishap with
    | none => exact .inr ⟨rfl, .inr rfl⟩
    | some m =>
      obtain ⟨reason, written⟩ := m
      cases written with
      | none => exact .inl ⟨_, rfl⟩
      | some n => exact .inr ⟨rfl, .inl ⟨_, _, rfl⟩⟩

/-- A file that is there is moved, or the file system says why not and leaves it. -/
theorem rename_cases {content : ByteArray} (h : d.look p = .ok (.file content)) (q : Path)
    (mishap : Option String) :
    (∃ e, d.rename p q mishap = .error e) ∨
      d.refusal? q .notDirectory = none ∧
        d.rename p q mishap = .ok ((d.drop p).put q (.file content)) := by
  unfold rename
  rw [h]
  dsimp only
  cases hrefusal : d.refusal? q .notDirectory with
  | some e => exact .inl ⟨e, rfl⟩
  | none =>
    cases mishap with
    | none => exact .inr ⟨rfl, rfl⟩
    | some reason => exact .inl ⟨_, rfl⟩

/-- What is found at a path is there, and the way to it is free. -/
theorem of_look (h : d.look p = .ok n) :
    p.text ≠ "" ∧ d.obstacle? [] (resolve p.segments) = none ∧ d.node? p = some n := by
  unfold Disk.look at h
  split at h
  · cases h
  · rename_i htext
    split at h
    · cases h
    · rename_i hfree
      refine ⟨htext, hfree, ?_⟩
      split at h
      · cases h
      · rename_i hnode
        cases h
        exact hnode
      · rename_i hnode
        split at h
        · cases h
        · cases h
          exact hnode

theorem isDirectory_of_look (h : d.look p = .ok n) (hn : n ≠ .directory) :
    d.isDirectory p = false := by
  unfold isDirectory
  rw [(of_look h).2.2]
  cases n with
  | directory => exact absurd rfl hn
  | _ => rfl

/-- What is dropped is not found. -/
theorem look_drop (h : d.look p = .ok n) (hn : n ≠ .directory) :
    (d.drop p).look p = .error .notFound := by
  obtain ⟨htext, hfree, -⟩ := of_look h
  have hdir := isDirectory_of_look h hn
  unfold Disk.look
  rw [if_neg htext, (sameBut_drop d p).obstacle? hdir hfree, node?_drop hdir]

/-- **A file is removed, or the file system says why not** and leaves it. -/
theorem remove_cases (d : Disk) (p : Path) (mishap : Option String) :
    (∃ e, d.remove p mishap = .error e ∧ (e = .notFound → d.look p = .error .notFound)) ∨
      (d.remove p mishap = .ok (d.drop p) ∧ ∃ n, d.look p = .ok n ∧ n ≠ .directory) := by
  unfold remove
  cases hlook : d.look p with
  | error e => exact .inl ⟨e, rfl, fun he => congrArg Except.error he⟩
  | ok n =>
    cases n with
    | directory => exact .inl ⟨_, rfl, nofun⟩
    | file _ | database _ =>
      cases mishap with
      | some reason => exact .inl ⟨_, rfl, nofun⟩
      | none => exact .inr ⟨rfl, _, rfl, nofun⟩

end Disk
end OfflineChat
