import OfflineChat.Desk
import OfflineChat.Proofs.PreferenceFiles

/-! # Memory, disk and subscribers agree

A run of operations on one of the two preferences, any of which the file system may
refuse.  What a step can do is said once (`Preference.Held.Agrees.apply_cases`).  It
preserves `Preference.Held.Agrees`: the value in memory can be kept, and it is the value
that opening the file again would give (`Preference.Held.Agrees.apply`).  So that holds
after every run (`Preference.Held.Agrees.after`), and what opening the file gives is at
every moment the value in memory, which is the last value that a change succeeded to set
(`Preference.Held.Agrees.value_after`).  A change that fails changes nothing in memory, and
every other one is published, so subscribers are told of exactly these
(`Preference.Held.hasChanged_after`).
-/
namespace OfflineChat

/-- The two preferences. -/
inductive Preference where
  | settings
  | session
deriving DecidableEq, Repr

namespace Preference

/-- What is preferred. -/
@[reducible] def Value : Preference → Type
  | settings => AppSettings
  | session => AuthSession

/-- How it is kept. -/
def kind : (n : Preference) → PreferenceKind n.Value
  | settings => AppSettings.kind
  | session => AuthSession.kind

/-- Its numbers fit their fields, and one with a fraction is read back from its digits. -/
def Fits : (n : Preference) → n.Value → Prop
  | settings => AppSettings.Fits
  | session => AuthSession.Fits

/-- A number with a fraction in it is read back from its digits. -/
def Printable : (n : Preference) → n.Value → Prop
  | settings => fun (s : AppSettings) => s.temperature.PrintsBack
  | session => fun _ => True

variable {n : Preference}

theorem fits_initial (n : Preference) : n.Fits n.kind.initial :=
  match n with
  | settings => AppSettings.fits_initial
  | session => AuthSession.fits_initial

/-- **What fits is read back** from the text it is kept as. -/
theorem decode_fileText {a : n.Value} (h : n.Fits a) :
    n.kind.codec.decode (Preferences.fileText n.kind a) = .ok a :=
  match n with
  | settings => AppSettings.decode_fileText h
  | session => AuthSession.decode_fileText h

/-- What is loaded fits, but for the digits of a number with a fraction. -/
theorem fits_load {d : Disk} {path : Path} (h : n.Printable (Preferences.load n.kind d path)) :
    n.Fits (Preferences.load n.kind d path) := by
  obtain hload | ⟨text, hload⟩ := Preferences.load_cases n.kind d path
  · rw [hload]
    exact fits_initial n
  · cases n with
    | settings => exact ⟨AppSettings.maxTokens_le_of_decode hload, h⟩
    | session => exact AuthSession.fits_of_decode hload

/-! ## Steps -/

/-- A store of preferences and the disk its file is on. -/
structure Held (n : Preference) where
  disk : Disk
  store : Preferences n.Value

/-- An operation on a store, with what goes wrong at it. -/
inductive Step : Preference → Type where
  | update {n : Preference} (edit : n.Value → n.Value) (t : Trouble) : Step n
  /-- Change a setting, by key and text. -/
  | set (key text : String) (t : Trouble) : Step settings
  | reset {n : Preference} (t : Trouble) : Step n
  /-- Open the file again, and go on with the new store. -/
  | reopen {n : Preference} : Step n

/-- What an operation answers, and what it leaves. -/
def Step.apply : {n : Preference} → Step n → Held n → Except Failure n.Value × Held n
  | n, .update edit t, s =>
    let (r, store, disk) := s.store.update n.kind s.disk edit t
    (r, ⟨disk, store⟩)
  | _, .set key text t, s =>
    match AppSettings.set s.store.value key text with
    | (.error e, _) => (.error e, s)
    | (.ok _, changed) =>
      let (r, store, disk) := s.store.update AppSettings.kind s.disk (fun _ => changed) t
      (r, ⟨disk, store⟩)
  | n, .reset t, s =>
    let (r, store, disk) := s.store.reset n.kind s.disk t
    (r.map fun _ => store.value, ⟨disk, store⟩)
  | n, .reopen, s =>
    match Preferences.openAt n.kind s.disk s.store.path with
    | .error e => (.error e, s)
    | .ok (d, p) => (.ok p.value, ⟨d, p⟩)

namespace Step

/-- What the operation makes of values that fit still fits. -/
def Fits : {n : Preference} → Step n → Prop
  | n, .update edit _ => ∀ a, n.Fits a → n.Fits (edit a)
  | _, .set key text _ => key = "temperature" → ∀ x, Decimal.binary? .single text = some x →
      x.isBetweenZeroAnd 2 = true → x.PrintsBack
  | _, .reset _ => True
  | _, .reopen => True

/-- Whether the operation is a change. -/
def isChange : Step n → Bool
  | .reopen => false
  | _ => true

end Step

namespace Held

/-- What is left after operations. -/
def after (s : Held n) : List (Step n) → Held n
  | [] => s
  | step :: steps => (step.apply s).2.after steps

/-- The value that a step succeeds to set. -/
def change? (s : Held n) (step : Step n) : Option n.Value :=
  if step.isChange then (step.apply s).1.toOption else none

/-- The values that steps succeed to set, in their order. -/
def changes (s : Held n) : List (Step n) → List n.Value
  | [] => []
  | step :: steps =>
    (s.change? step).toList ++ (step.apply s).2.changes steps

/-- What opening the file again gives. -/
def reopened (s : Held n) : Except Failure (Disk × Preferences n.Value) :=
  Preferences.openAt n.kind s.disk s.store.path

end Held

/-! ## One step -/

/-- What a change to a value does: the value is published and loaded from the file, or the change
fails and leaves the store and the file. -/
structure Held.Changed (s s' : Held n) (answer : Except Failure n.Value) (v : n.Value) :
    Prop where
  keeps : s.disk.KeepsDirectories s'.disk
  outcome :
    (∃ e, answer = .error e) ∧ s'.store = s.store ∧
        s'.disk.look s.store.path = s.disk.look s.store.path ∨
      answer = .ok v ∧ s'.store = s.store.publish v ∧
        (n.Fits v → Preferences.load n.kind s'.disk s.store.path = v)

namespace Step

theorem changed_update (s : Held n) (edit : n.Value → n.Value) (t : Trouble) :
    s.Changed ((update edit t).apply s).2 ((update edit t).apply s).1 (edit s.store.value) := by
  obtain ⟨d, hkeep, ⟨⟨e, hupdate⟩, hlook⟩ | ⟨hupdate, hlook⟩⟩ :=
    Preferences.update_cases n.kind s.disk s.store edit t
  · rw [apply, hupdate]
    exact ⟨hkeep, .inl ⟨⟨e, rfl⟩, rfl, hlook⟩⟩
  · rw [apply, hupdate]
    exact ⟨hkeep, .inr ⟨rfl, rfl, fun hfits =>
      Preferences.load_of_text hlook (decode_fileText hfits)⟩⟩

theorem changed_reset (s : Held n) (t : Trouble) :
    s.Changed ((reset t).apply s).2 ((reset t).apply s).1 n.kind.initial := by
  obtain ⟨d, hkeep, ⟨⟨e, hreset⟩, hlook⟩ | ⟨hreset, hlook⟩⟩ :=
    Preferences.reset_cases n.kind s.disk s.store t
  · rw [apply, hreset]
    exact ⟨hkeep, .inl ⟨⟨e, rfl⟩, rfl, hlook⟩⟩
  · rw [apply, hreset]
    exact ⟨hkeep, .inr ⟨rfl, rfl, fun _ => Preferences.load_of_absent hlook⟩⟩

/-- A setting is changed as an update is, once its text says what to. -/
theorem apply_set (key text : String) (t : Trouble) (s : Held settings) :
    (∃ e, (set key text t).apply s = (.error e, s)) ∨
      ∃ changed, AppSettings.set s.store.value key text = (.ok (), changed) ∧
        (set key text t).apply s = (update (n := settings) (fun _ => changed) t).apply s := by
  have happly : (set key text t).apply s =
      match AppSettings.set s.store.value key text with
      | (.error e, _) => (.error e, s)
      | (.ok _, changed) => (update (n := settings) (fun _ => changed) t).apply s := rfl
  rw [happly]
  obtain ⟨changed, hset, -⟩ | ⟨message, hset⟩ := AppSettings.set_cases s.store.value key text
  · rw [hset]
    exact .inr ⟨changed, rfl, rfl⟩
  · rw [hset]
    exact .inl ⟨_, rfl⟩

/-- **A change sets a value that fits, or fails and leaves everything.** -/
theorem changed {step : Step n} (h : step.isChange = true) (s : Held n) :
    ∃ v, (step.Fits → n.Fits s.store.value → n.Fits v) ∧
      s.Changed (step.apply s).2 (step.apply s).1 v := by
  cases step with
  | update edit t => exact ⟨_, fun hstep hs => hstep _ hs, changed_update s edit t⟩
  | reset t => exact ⟨_, fun _ _ => fits_initial n, changed_reset s t⟩
  | reopen => cases h
  | set key text t =>
    obtain ⟨e, happly⟩ | ⟨changed, hset, happly⟩ := apply_set key text t s
    · rw [happly]
      exact ⟨s.store.value, fun _ hs => hs, .refl _, .inl ⟨⟨e, rfl⟩, rfl, rfl⟩⟩
    · rw [happly]
      exact ⟨changed, fun hstep hs => AppSettings.Fits.set hs hstep hset, changed_update s _ t⟩

end Step

namespace Held

/-- **Memory and disk agree**: the value fits, and it is loaded from the file. -/
structure Agrees (s : Held n) : Prop where
  housed : Preferences.Housed s.disk s.store.path
  loaded : Preferences.load n.kind s.disk s.store.path = s.store.value
  fits : n.Fits s.store.value

variable {s : Held n} {step : Step n}

/-- Opening the file again gives the value in memory, and leaves the disk. -/
theorem Agrees.reopened (h : s.Agrees) :
    s.reopened = .ok (s.disk, ⟨s.store.path, s.store.value, 0⟩) := by
  unfold Held.reopened
  rw [Preferences.openAt_of_housed h.housed, h.loaded]

theorem Agrees.apply_reopen (h : s.Agrees) :
    Step.reopen.apply s = (.ok s.store.value, ⟨s.disk, ⟨s.store.path, s.store.value, 0⟩⟩) := by
  have hopen := h.reopened
  unfold Held.reopened at hopen
  rw [Step.apply, hopen]

/-- **What a step does**: a change sets a value that fits or fails, and any other step leaves the
value and the disk. -/
theorem Agrees.apply_cases (h : s.Agrees) (step : Step n) :
    step.isChange = true ∧ (∃ v, (step.Fits → n.Fits v) ∧
        s.Changed (step.apply s).2 (step.apply s).1 v) ∨
      step.isChange = false ∧
        step.apply s = (.ok s.store.value, ⟨s.disk, ⟨s.store.path, s.store.value, 0⟩⟩) := by
  by_cases hchange : step.isChange = true
  · obtain ⟨v, hfits, hchanged⟩ := Step.changed hchange s
    exact .inl ⟨hchange, v, fun hstep => hfits hstep h.fits, hchanged⟩
  · cases step with
    | reopen => exact .inr ⟨rfl, h.apply_reopen⟩
    | _ => exact absurd rfl hchange

/-- A step goes on with the same file. -/
theorem Agrees.path_apply (h : s.Agrees) (step : Step n) :
    (step.apply s).2.store.path = s.store.path := by
  obtain ⟨-, v, -, -, ⟨-, hstore, -⟩ | ⟨-, hstore, -⟩⟩ | ⟨-, happly⟩ := h.apply_cases step
  · rw [hstore]
  · rw [hstore]
    rfl
  · rw [happly]

/-- **One step preserves the agreement.** -/
theorem Agrees.apply (h : s.Agrees) (hstep : step.Fits) : (step.apply s).2.Agrees := by
  have hpath := h.path_apply step
  obtain ⟨-, v, hfits, hkeeps, houtcome⟩ | ⟨-, happly⟩ := h.apply_cases step
  · have hhoused : Preferences.Housed (step.apply s).2.disk (step.apply s).2.store.path :=
      hpath ▸ h.housed.keep hkeeps
    obtain ⟨-, hstore, hlook⟩ | ⟨-, hstore, hload⟩ := houtcome
    · refine ⟨hhoused, ?_, ?_⟩
      · rw [hstore, Preferences.load_congr hlook, h.loaded]
      · rw [hstore]
        exact h.fits
    · refine ⟨hhoused, ?_, ?_⟩
      · rw [hpath, hload (hfits hstep), hstore]
        rfl
      · rw [hstore]
        exact hfits hstep
  · rw [happly]
    exact ⟨h.housed, h.loaded, h.fits⟩

/-- A step that fails leaves the store and what is found at its path. -/
theorem Agrees.of_error (h : s.Agrees) {e : Failure} (herror : (step.apply s).1 = .error e) :
    (step.apply s).2.store = s.store ∧
      (step.apply s).2.disk.look s.store.path = s.disk.look s.store.path := by
  obtain ⟨-, v, -, -, ⟨-, hstore, hlook⟩ | ⟨hok, -⟩⟩ | ⟨-, happly⟩ := h.apply_cases step
  · exact ⟨hstore, hlook⟩
  · cases hok.symm.trans herror
  · rw [happly] at herror
    cases herror

/-- What a step leaves is the value it sets, if it sets one. -/
theorem Agrees.value_apply (h : s.Agrees) (step : Step n) :
    (step.apply s).2.store.value = (s.change? step).getD s.store.value := by
  unfold change?
  obtain ⟨hchange, v, -, -, houtcome⟩ | ⟨hchange, happly⟩ := h.apply_cases step
  · rw [if_pos hchange]
    obtain ⟨⟨e, herror⟩, hstore, -⟩ | ⟨hok, hstore, -⟩ := houtcome
    · rw [herror, hstore]
      rfl
    · rw [hok, hstore]
      rfl
  · rw [hchange, happly]
    rfl

/-- A step that succeeds answers the value it leaves. -/
theorem Agrees.value_apply_of_ok (h : s.Agrees) {v : n.Value} (hv : (step.apply s).1 = .ok v) :
    (step.apply s).2.store.value = v := by
  obtain ⟨hchange, -⟩ | ⟨-, happly⟩ := h.apply_cases step
  · rw [h.value_apply, change?, if_pos hchange, hv]
    rfl
  · rw [happly] at hv ⊢
    exact Except.ok.inj hv

/-! ## Runs -/

theorem Agrees.after (h : s.Agrees) {steps : List (Step n)} (hsteps : ∀ step ∈ steps, step.Fits) :
    (s.after steps).Agrees := by
  induction steps generalizing s with
  | nil => exact h
  | cons step steps ih =>
    exact ih (h.apply (hsteps step (List.mem_cons_self ..)))
      fun step hstep => hsteps step (List.mem_cons_of_mem _ hstep)

theorem Agrees.path_after (h : s.Agrees) {steps : List (Step n)}
    (hsteps : ∀ step ∈ steps, step.Fits) : (s.after steps).store.path = s.store.path := by
  induction steps generalizing s with
  | nil => rfl
  | cons step steps ih =>
    exact (ih (h.apply (hsteps step (List.mem_cons_self ..)))
      fun step hstep => hsteps step (List.mem_cons_of_mem _ hstep)).trans (h.path_apply step)

/-- **The value is the one that was set last.** -/
theorem Agrees.value_after (h : s.Agrees) {steps : List (Step n)}
    (hsteps : ∀ step ∈ steps, step.Fits) :
    (s.after steps).store.value = (s.changes steps).getLast?.getD s.store.value := by
  induction steps generalizing s with
  | nil => rfl
  | cons step steps ih =>
    have hnext := ih (h.apply (hsteps step (List.mem_cons_self ..)))
      fun step hstep => hsteps step (List.mem_cons_of_mem _ hstep)
    have hvalue := h.value_apply step
    rw [changes, List.getLast?_append]
    refine hnext.trans ?_
    rw [hvalue]
    cases ((step.apply s).2.changes steps).getLast? with
    | some v => rfl
    | none => cases s.change? step <;> rfl

/-- Each change that succeeds is published, and no other. -/
theorem published_after {steps : List (Step n)} (hsteps : ∀ step ∈ steps, step.isChange = true) :
    (s.after steps).store.published = s.store.published + (s.changes steps).length := by
  induction steps generalizing s with
  | nil => rfl
  | cons step steps ih =>
    have hchange := hsteps step (List.mem_cons_self ..)
    have hnext := ih (s := (step.apply s).2) fun step hstep =>
      hsteps step (List.mem_cons_of_mem _ hstep)
    refine hnext.trans ?_
    rw [changes, List.length_append, change?, if_pos hchange]
    obtain ⟨v, -, -, ⟨⟨e, herror⟩, hstore, -⟩ | ⟨hok, hstore, -⟩⟩ := Step.changed hchange s
    · rw [herror, hstore]
      simp [Except.toOption]
    · rw [hok, hstore]
      simp [Except.toOption, Preferences.publish]
      omega

/-- **A subscriber sees a change exactly if one has succeeded** since it looked. -/
theorem hasChanged_after {steps : List (Step n)} (hsteps : ∀ step ∈ steps, step.isChange = true) :
    (s.after steps).store.hasChanged s.store.look = true ↔ s.changes steps ≠ [] := by
  unfold Preferences.hasChanged Preferences.look
  rw [published_after hsteps, decide_eq_true_iff, ← List.length_pos_iff]
  exact Nat.lt_add_right_iff_pos

end Held

/-- A store that was opened agrees with its file. -/
theorem agrees_of_openAt {d d' : Disk} {path : Path} {store : Preferences n.Value}
    (hopen : Preferences.openAt n.kind d path = .ok (d', store)) (h : n.Printable store.value) :
    (⟨d', store⟩ : Held n).Agrees := by
  obtain ⟨hhoused, rfl⟩ := Preferences.of_openAt hopen
  exact ⟨hhoused, rfl, fits_load h⟩

/-- **Memory, disk and subscribers agree** after every run on a store that was opened, whatever goes
wrong with its file: the value is the one set last, opening the file again gives it, a step that
fails changes nothing and is not published, and a subscriber sees exactly the changes that have
succeeded since it looked. -/
theorem memory_disk_and_subscribers_agree {d₀ d : Disk} {path : Path} {store : Preferences n.Value}
    (hopen : Preferences.openAt n.kind d₀ path = .ok (d, store)) (hstore : n.Printable store.value)
    (steps : List (Step n)) (hsteps : ∀ step ∈ steps, step.Fits) (step : Step n) (hstep : step.Fits)
    (later : List (Step n)) (hlater : ∀ step ∈ later, step.Fits ∧ step.isChange = true) :
    let opened : Held n := ⟨d, store⟩
    let s := opened.after steps
    let s' := (step.apply s).2
    s.store.value = (opened.changes steps).getLast?.getD store.value ∧
    s.reopened = .ok (s.disk, ⟨path, s.store.value, 0⟩) ∧
    (∀ v, (step.apply s).1 = .ok v →
      s'.store.value = v ∧ s'.reopened = .ok (s'.disk, ⟨path, v, 0⟩)) ∧
    (∀ t v, ((Step.reset t).apply s).1 = .ok v → v = n.kind.initial) ∧
    (∀ e, (step.apply s).1 = .error e →
      s'.store = s.store ∧ s'.disk.look path = s.disk.look path ∧
        s'.reopened = .ok (s'.disk, ⟨path, s.store.value, 0⟩)) ∧
    ((s.after later).store.hasChanged s.store.look = true ↔ s.changes later ≠ []) ∧
    (s.after later).store.value = (s.changes later).getLast?.getD s.store.value := by
  intro opened s s'
  have hopened : opened.Agrees := agrees_of_openAt hopen hstore
  have hs : s.Agrees := hopened.after hsteps
  have hs' : s'.Agrees := hs.apply hstep
  have hpath : s.store.path = path := by
    rw [show s.store.path = opened.store.path from hopened.path_after hsteps]
    exact congrArg Preferences.path (Preferences.of_openAt hopen).2
  have hpath' : s'.store.path = path := (hs.path_apply step).trans hpath
  have hreopened := hs.reopened
  have hreopened' := hs'.reopened
  rw [hpath] at hreopened
  rw [hpath'] at hreopened'
  refine ⟨hopened.value_after hsteps, hreopened, ?_, ?_, ?_,
    Held.hasChanged_after fun step h => (hlater step h).2,
    hs.value_after fun step h => (hlater step h).1⟩
  · intro v hv
    have hvalue := hs.value_apply_of_ok hv
    rw [show s'.store.value = v from hvalue] at hreopened'
    exact ⟨hvalue, hreopened'⟩
  · intro t v hv
    obtain ⟨⟨e, herror⟩, -⟩ | ⟨hok, -⟩ := (Step.changed_reset s t).outcome
    · rw [herror] at hv
      cases hv
    · rw [hok] at hv
      exact (Except.ok.inj hv).symm
  · intro e he
    obtain ⟨hsame, hlook⟩ := hs.of_error he
    rw [hpath] at hlook
    rw [show s'.store.value = s.store.value from congrArg Preferences.value hsame] at hreopened'
    exact ⟨hsame, hlook, hreopened'⟩

/-- Settings that nobody has changed. -/
def fresh : Held settings :=
  ⟨⟨Dict.empty.insert "cfg" .directory⟩, ⟨⟨"cfg/settings.json"⟩, AppSettings.initial, 0⟩⟩

/-- The single number nearest to a fifth. -/
def fifth : Binary := .finite false 13421773 (-26)

/-- Settings in which only the temperature is changed, to a fifth. -/
def cooler : settings.Value := { AppSettings.initial with temperature := fifth }

/-- A run in which the disk is full when a setting is moved into its place. -/
def fullDisk : List (Step settings) :=
  [.set "temperature" "0.2" .none,
    .set "max_tokens" "256" { Trouble.none with moving := some "No space left on device" },
    .reopen]

theorem memory_disk_and_subscribers_agree_fullDisk :
    Preferences.openAt AppSettings.kind ⟨.empty⟩ ⟨"cfg/settings.json"⟩ =
      .ok (fresh.disk, fresh.store) ∧
    settings.Printable fresh.store.value ∧ (∀ step ∈ fullDisk, step.Fits) ∧
    let s := fresh.after fullDisk
    let busy : Step settings := .reset { Trouble.none with removing := some "Device busy" }
    s.store.value = cooler ∧ s.reopened = .ok (s.disk, ⟨⟨"cfg/settings.json"⟩, cooler, 0⟩) ∧
    (busy.apply s).1 = .error (.disk "Device busy") ∧ (busy.apply s).2.store = s.store ∧
    (s.after [.set "telemetry" "on" .none, busy]).store.hasChanged s.store.look = true := by
  have hopen : Preferences.openAt AppSettings.kind ⟨.empty⟩ ⟨"cfg/settings.json"⟩ =
      .ok (fresh.disk, fresh.store) := rfl
  have hprints : settings.Printable fresh.store.value := AppSettings.fits_initial.temperature
  have hfits : ∀ step ∈ fullDisk, step.Fits := by
    have hfifth : Decimal.binary? .single "0.2" = some fifth := by decide +kernel
    intro step hstep
    rcases (by simpa [fullDisk] using hstep : step = _ ∨ step = _ ∨ step = _) with rfl | rfl | rfl
    · intro _ x hx _
      rw [hfifth] at hx
      cases hx
      show fifth.PrintsBack
      decide +kernel
    · exact fun h => absurd h (by decide)
    · exact trivial
  let busy : Step settings := .reset { Trouble.none with removing := some "Device busy" }
  have hlater : ∀ step ∈ [Step.set "telemetry" "on" .none, busy],
      step.Fits ∧ step.isChange = true := by
    intro step hstep
    rcases (by simpa using hstep : step = _ ∨ step = _) with rfl | rfl
    · exact ⟨fun h => absurd h (by decide), rfl⟩
    · exact ⟨trivial, rfl⟩
  have hchanges : fresh.changes fullDisk = [cooler] := by decide +kernel
  have hbusy : (busy.apply (fresh.after fullDisk)).1 = .error (.disk "Device busy") := by
    decide +kernel
  have hseen : (fresh.after fullDisk).changes [.set "telemetry" "on" .none, busy] ≠ [] := by
    decide +kernel
  obtain ⟨hvalue, hreopened, -, -, herror, hchanged, -⟩ :=
    memory_disk_and_subscribers_agree (n := settings) hopen hprints fullDisk hfits busy trivial
      [.set "telemetry" "on" .none, busy] hlater
  have hfresh : (⟨fresh.disk, fresh.store⟩ : Held settings) = fresh := rfl
  rw [hfresh] at hvalue hreopened herror hchanged
  have hkept : (fresh.after fullDisk).store.value = cooler := by
    rw [hvalue, hchanges, List.getLast?_singleton, Option.getD_some]
  refine ⟨hopen, hprints, hfits, hkept, ?_, hbusy, (herror _ hbusy).1, hchanged.mpr hseen⟩
  rw [← hkept]
  exact hreopened

/-! ## The program's own operations -/

section Desk

variable {σ : Type} (d : Desk σ)

/-- A command changes a setting by a step on the settings of the desk. -/
theorem changeSetting_eq (key text : String) (t : Trouble) :
    let r := (Step.set key text t).apply ⟨d.disk, d.settings⟩
    Desk.changeSetting key text t d =
      (r.1, { d with disk := r.2.disk, settings := r.2.store }) := by
  unfold Desk.changeSetting
  rw [Step.apply]
  obtain ⟨changed, hset, -⟩ | ⟨message, hset⟩ := AppSettings.set_cases d.settings.value key text
  · dsimp only
    rw [hset]
  · dsimp only
    rw [hset]

/-- And so it resets them. -/
theorem resetSettings_eq (t : Trouble) :
    let r := (Step.reset t).apply (⟨d.disk, d.settings⟩ : Held settings)
    Desk.resetSettings t d =
      (r.1.map fun _ => (), { d with disk := r.2.disk, settings := r.2.store }) := by
  unfold Desk.resetSettings
  rw [Step.apply, show kind settings = AppSettings.kind from rfl]
  dsimp only
  cases (d.settings.reset AppSettings.kind d.disk t).1 <;> rfl

end Desk

end Preference
end OfflineChat
