import OfflineChat.Proofs.DiskLaws
import OfflineChat.Proofs.KeptValues
import OfflineChat.Proofs.Utf8Reading

/-! # Preferences and their files

What one operation of a store of preferences does to its file.  A value is written
beside the file before it takes its place, so an operation that fails leaves the
file, and what opening the store again would give, as they were
(`Preferences.update_cases`, `Preferences.reset_cases`).  One that does not fail leaves
the file from which the new value is loaded.
-/
namespace OfflineChat
namespace Preferences

variable {α : Type} {k : PreferenceKind α} {d d' : Disk} {path : Path} {p : Preferences α} {a : α}

/-! ## Opening -/

/-- The directories above a file are there. -/
def Housed (d : Disk) (path : Path) : Prop :=
  ∀ parent, path.parent? = some parent → d.Reaches (Disk.resolve parent.segments)

theorem Housed.keep (h : Housed d path) (hkeep : d.KeepsDirectories d') : Housed d' path :=
  fun parent hparent => hkeep _ (h parent hparent)

theorem housed_of_rootless (h : path.parent? = none) : Housed d path := by
  intro parent hparent
  rw [h] at hparent
  cases hparent

/-- Once the directories above a file are made, they are there. -/
theorem housed_of_made {parent : Path} (hparent : path.parent? = some parent)
    (hmade : d.makeDirectories parent = .ok d') : Housed d' path := by
  intro parent' heq
  rw [hparent] at heq
  cases heq
  have hreaches := Disk.reaches_of_go Disk.reaches_nil hmade
  rwa [List.nil_append] at hreaches

/-- **A store whose directories are there is opened without a change to the disk.** -/
theorem openAt_of_housed (h : Housed d path) :
    openAt k d path = .ok (d, ⟨path, load k d path, 0⟩) := by
  unfold openAt
  cases hparent : path.parent? with
  | none => rfl
  | some parent =>
    dsimp only
    rw [Disk.makeDirectories_of_reaches (h parent hparent)]

theorem of_openAt (h : openAt k d path = .ok (d', p)) :
    Housed d' path ∧ p = ⟨path, load k d' path, 0⟩ := by
  unfold openAt at h
  cases hparent : path.parent? with
  | none =>
    rw [hparent] at h
    cases h
    exact ⟨housed_of_rootless hparent, rfl⟩
  | some parent =>
    rw [hparent] at h
    dsimp only at h
    split at h
    · cases h
    · rename_i hmade
      cases h
      exact ⟨housed_of_made hparent hmade, rfl⟩

/-- What is loaded is up to what is found at the path. -/
theorem load_congr (h : d'.look path = d.look path) : load k d' path = load k d path := by
  unfold load Disk.readText Disk.read
  rw [h]

theorem load_of_absent {e : DiskError} (h : d.look path = .error e) :
    load k d path = k.initial := by
  unfold load Disk.readText Disk.read
  rw [h]

/-- A value is loaded from its text. -/
theorem load_of_text (h : d.look path = .ok (.file (fileText k a).toUTF8))
    (hback : k.codec.decode (fileText k a) = .ok a) : load k d path = a := by
  have htext : d.readText path = .ok (fileText k a) := by
    unfold Disk.readText Disk.read
    rw [h]
    dsimp only
    rw [Text.decode?_toUTF8]
  unfold load
  rw [htext]
  dsimp only
  rw [hback]

/-- What is loaded is the initial value, or was read from a text. -/
theorem load_cases (k : PreferenceKind α) (d : Disk) (path : Path) :
    load k d path = k.initial ∨ ∃ text, k.codec.decode text = .ok (load k d path) := by
  unfold load
  split
  · exact .inl rfl
  · rename_i text _
    split
    · rename_i hread
      exact .inr ⟨text, hread⟩
    · exact .inl rfl

/-! ## Writing -/

/-- Where a file can be written beside a path, the path has a name of its own, and the way to it is
free. -/
theorem siblings_of_free {misfit : DiskError} (h : d.refusal? (beside path) misfit = none) :
    (beside path).Siblings path ∧ d.obstacle? [] (Disk.resolve path.segments) = none := by
  obtain ⟨-, hway, -, hfile⟩ := Disk.refusal?_eq_none h
  cases hn : path.name? with
  | none =>
    rw [beside_of_name?_none hn, Path.namesDirectory_of_name? hn] at hfile
    cases hfile
  | some n =>
    have hsiblings := siblings_beside hn
    exact ⟨hsiblings, hsiblings.obstacle? hway⟩

/-- What is written beside a file leaves it. -/
theorem look_put_beside {misfit : DiskError} (h : d.refusal? (beside path) misfit = none)
    (n : DiskNode) : (d.put (beside path) n).look path = d.look path := by
  obtain ⟨hsiblings, hpath⟩ := siblings_of_free h
  exact (Disk.sameBut_put _ _ _).look (Disk.refusal?_eq_none h).2.2.1 hpath hsiblings.symm.keyAt_ne

/-- **A value takes the place of the file, or the file stays** as it was; no directory is lost. -/
theorem persist_cases (k : PreferenceKind α) (d : Disk) (path : Path) (a : α) (t : Trouble) :
    ∃ d', d.KeepsDirectories d' ∧
      ((∃ e, persist k d path a t = (.error e, d')) ∧ d'.look path = d.look path ∨
        persist k d path a t = (.ok (), d') ∧
          d'.look path = .ok (.file (fileText k a).toUTF8)) := by
  unfold persist
  obtain ⟨e, hwrite⟩ | ⟨hfree, hwrite⟩ :=
    Disk.write_cases d (beside path) (fileText k a).toUTF8 t.writing
  · rw [hwrite]
    exact ⟨d, .refl d, .inl ⟨⟨e, rfl⟩, rfl⟩⟩
  · have hdir := (Disk.refusal?_eq_none hfree).2.2.1
    have hkeep (part : ByteArray) : d.KeepsDirectories (d.put (beside path) (.file part)) :=
      (Disk.sameBut_put _ _ _).keepsDirectories hdir
    have hsame (part : ByteArray) : (d.put (beside path) (.file part)).look path = d.look path :=
      look_put_beside hfree _
    obtain ⟨e, part, hwrite⟩ | hwrite := hwrite
    · rw [hwrite]
      exact ⟨_, hkeep part, .inl ⟨⟨e, rfl⟩, hsame part⟩⟩
    · rw [hwrite]
      dsimp only
      have hbeside : (d.put (beside path) (.file (fileText k a).toUTF8)).look (beside path) =
          .ok (.file (fileText k a).toUTF8) := Disk.look_put hfree
      obtain ⟨e, hrename⟩ | ⟨hplace, hrename⟩ := Disk.rename_cases hbeside path t.moving
      · rw [hrename]
        exact ⟨_, hkeep _, .inl ⟨⟨e, rfl⟩, hsame _⟩⟩
      · -- the new file is dropped beside the path and put in its place
        rw [hrename]
        have hdropped := Disk.sameBut_drop (d.put (beside path) (.file (fileText k a).toUTF8))
          (beside path)
        have hfound := Disk.isDirectory_of_look hbeside nofun
        have hplace' := hdropped.refusal? hfound (siblings_of_free hfree).1.symm.keyAt_ne hplace
        have hlast := (Disk.sameBut_put _ path (.file (fileText k a).toUTF8)).keepsDirectories
          (Disk.refusal?_eq_none hplace').2.2.1
        exact ⟨_, ((hkeep _).trans (hdropped.keepsDirectories hfound)).trans hlast,
          .inr ⟨rfl, Disk.look_put hplace'⟩⟩

/-- **A change that succeeds is published and loaded from the file.**  One that fails leaves the
store, and what is found at the path. -/
theorem update_cases (k : PreferenceKind α) (d : Disk) (p : Preferences α) (edit : α → α)
    (t : Trouble) :
    ∃ d', d.KeepsDirectories d' ∧
      ((∃ e, p.update k d edit t = (.error e, p, d')) ∧ d'.look p.path = d.look p.path ∨
        p.update k d edit t = (.ok (edit p.value), p.publish (edit p.value), d') ∧
          d'.look p.path = .ok (.file (fileText k (edit p.value)).toUTF8)) := by
  obtain ⟨d', hkeep, ⟨⟨e, hpersist⟩, hlook⟩ | ⟨hpersist, hlook⟩⟩ :=
    persist_cases k d p.path (edit p.value) t
  · refine ⟨d', hkeep, .inl ⟨⟨e.failure, ?_⟩, hlook⟩⟩
    unfold update
    rw [hpersist]
  · refine ⟨d', hkeep, .inr ⟨?_, hlook⟩⟩
    unfold update
    rw [hpersist]

/-- **A store that is reset has no file**, and one that cannot be reset stays as it is, with its
file. -/
theorem reset_cases (k : PreferenceKind α) (d : Disk) (p : Preferences α) (t : Trouble) :
    ∃ d', d.KeepsDirectories d' ∧
      ((∃ e, p.reset k d t = (.error e, p, d')) ∧ d'.look p.path = d.look p.path ∨
        p.reset k d t = (.ok (), p.publish k.initial, d') ∧
          d'.look p.path = .error .notFound) := by
  unfold reset
  obtain ⟨e, hremove, hgone⟩ | ⟨hremove, n, hlook, hfile⟩ := Disk.remove_cases d p.path t.removing
  · rw [hremove]
    refine ⟨d, .refl d, ?_⟩
    cases e with
    | notFound => exact .inr ⟨rfl, hgone rfl⟩
    | _ => exact .inl ⟨⟨_, rfl⟩, rfl⟩
  · rw [hremove]
    have hdir := Disk.isDirectory_of_look hlook hfile
    exact ⟨_, (Disk.sameBut_drop d p.path).keepsDirectories hdir,
      .inr ⟨rfl, Disk.look_drop hlook hfile⟩⟩

end Preferences
end OfflineChat
