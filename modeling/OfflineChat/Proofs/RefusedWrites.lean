import OfflineChat.Cache.Attempt
import OfflineChat.Proofs.CacheIntegrity

/-! # What a refused write leaves behind

A write is carried out step by step, and any step may be refused.  Until it has
committed, or made the one change that it makes at once, the rows it would leave
behind are those it found, and it has announced nothing; afterwards it only
announces, which cannot fail.  So a write does all that it does, or nothing.  There
is one exception: a flag is flipped first and then read back, and if the reading
is refused, the flip stays and is not announced (`CacheWrite.attempt_cases`).

If nothing is refused, a write does what `CacheWrite.run` says
(`CacheWrite.attempt_unrefused`).
-/
namespace OfflineChat

/-- A database that refuses nothing. -/
def nothingRefused : Nat → Option String := fun _ => none

theorem Cache.toggle_events (c : Cache) (f : ChatFlag) (chatId : String) :
    (c.toggle f chatId).events = if c.hasChat chatId then [.chats] else [] := by
  have hrow : (c.chats.find? (·.id == chatId)).isSome = c.hasChat chatId := List.isSome_find?
  unfold toggle
  split
  · rename_i r hr
    rw [hr] at hrow
    rw [← hrow]
    rfl
  · rename_i hnone
    rw [hnone] at hrow
    rw [← hrow]
    rfl

theorem ChatRow.flip_ne (r : ChatRow) (f : ChatFlag) : r.flip f ≠ r := by
  have hflag (n : Int) : flag (n == 0) ≠ n := by
    by_cases h : n = 0
    · subst h
      decide
    · simpa [flag, h] using Ne.symm h
  intro h
  cases f with
  | pinned => exact hflag r.pinned (congrArg ChatRow.pinned h)
  | archived => exact hflag r.archived (congrArg ChatRow.archived h)

/-- A flip of a cached chat is a change. -/
theorem Cache.toggle_ne {c : Cache} {f : ChatFlag} {chatId : String}
    (h : c.hasChat chatId = true) : (c.toggle f chatId).cache ≠ c := by
  obtain ⟨r, hr⟩ := Option.isSome_iff_exists.mp ((List.isSome_find? ..).trans h)
  intro hsame
  rw [toggle, hr] at hsame
  have hrows : c.chats.map (fun r => if r.id = chatId then r.flip f else r) = c.chats.map id :=
    (congrArg Cache.chats hsame).trans (List.map_id _).symm
  have hrow := List.map_inj_left.mp hrows r (List.mem_of_find?_eq_some hr)
  have hid : (r.id == chatId) = true := List.find?_some (p := fun r : ChatRow => r.id == chatId) hr
  rw [if_pos (eq_of_beq hid)] at hrow
  exact r.flip_ne f hrow

namespace CacheWrite

open WriteStep

variable {refusals : Nat → Option String} {s : Underway} {c d e : Cache}
  {steps changes rest : List WriteStep} {events : List CacheEvent} {w : CacheWrite}

/-! ## Refusals -/

/-- **A write that does not fail is carried out as if nothing were refused.** -/
theorem carryOut_of_ok (h : (carryOut refusals s steps).outcome = .ok ()) :
    carryOut refusals s steps = carryOut nothingRefused s steps := by
  induction steps generalizing refusals s with
  | nil => rfl
  | cons x rest ih =>
    rw [carryOut] at h ⊢
    cases htake : x.take (refusals 0) s with
    | error e => rw [htake] at h; cases h
    | ok t =>
      rw [htake] at h
      have hsame : x.take none s = .ok t := by
        cases hrefusal : refusals 0 with
        | none => rwa [hrefusal] at htake
        | some reason =>
          rw [hrefusal] at htake
          cases x <;> first | exact htake | cases htake
      rw [carryOut, show x.take (nothingRefused 0) s = .ok t from hsame]
      exact ih h

/-- A step that fails ends the write. -/
theorem carryOut_of_error {x : WriteStep} {f : Failure} (h : x.take (refusals 0) s = .error f)
    (rest : List WriteStep) : carryOut refusals s (x :: rest) = s.finish (.error f) := by
  rw [carryOut, h]

/-- Announcements are made whatever the database refuses. -/
theorem carryOut_announce (refusals : Nat → Option String) (s : Underway)
    (events : List CacheEvent) :
    carryOut refusals s (events.map .announce) =
      { s with events := s.events ++ events }.finish (.ok ()) := by
  induction events generalizing refusals s with
  | nil => rw [List.append_nil]; rfl
  | cons e rest ih =>
    rw [List.map_cons, carryOut]
    dsimp only [WriteStep.take]
    rw [ih, List.append_assoc, List.singleton_append]

/-- What is asked without changing a row is granted, or the write ends. -/
theorem carryOut_ask (refusals : Nat → Option String) (s : Underway) (doing : String)
    (rest : List WriteStep) :
    (∃ reason, refusals 0 = some reason ∧ carryOut refusals s (.ask doing :: rest) =
      s.finish (.error (.storage (doing ++ ": " ++ reason)))) ∨
    refusals 0 = none ∧ carryOut refusals s (.ask doing :: rest) =
      carryOut (fun n => refusals (n + 1)) s rest := by
  rw [carryOut]
  cases refusals 0 with
  | none => exact .inr ⟨rfl, rfl⟩
  | some reason => exact .inl ⟨reason, rfl, rfl⟩

/-- Opening the database takes three steps and changes nothing. -/
theorem carryOut_connect (refusals : Nat → Option String) (s : Underway) (rest : List WriteStep) :
    (∃ reason, (∃ n < 3, refusals n ≠ none) ∧
      carryOut refusals s (connect ++ rest) = s.finish (.error (.storage reason))) ∨
    (∀ n < 3, refusals n = none) ∧
      carryOut refusals s (connect ++ rest) = carryOut (fun n => refusals (n + 3)) s rest := by
  have hopen := carryOut_ask refusals s "Failed to open database"
    (.ask "Failed to set busy timeout" :: .ask "Failed to enable foreign keys" :: rest)
  have hwait := carryOut_ask (fun n => refusals (n + 1)) s "Failed to set busy timeout"
    (.ask "Failed to enable foreign keys" :: rest)
  have hkeys := carryOut_ask (fun n => refusals (n + 2)) s "Failed to enable foreign keys" rest
  rw [connect, List.cons_append, List.cons_append, List.singleton_append]
  obtain ⟨reason, h0, hopen⟩ | ⟨h0, hopen⟩ := hopen
  · exact .inl ⟨_, ⟨0, by decide, by simp [h0]⟩, hopen⟩
  rw [hopen]
  obtain ⟨reason, h1, hwait⟩ | ⟨h1, hwait⟩ := hwait
  · exact .inl ⟨_, ⟨1, by decide, by simp [h1]⟩, hwait⟩
  rw [hwait]
  obtain ⟨reason, h2, hkeys⟩ | ⟨h2, hkeys⟩ := hkeys
  · exact .inl ⟨_, ⟨2, by decide, by simp [h2]⟩, hkeys⟩
  refine .inr ⟨fun n hn => ?_, hkeys⟩
  obtain rfl | rfl | rfl : n = 0 ∨ n = 1 ∨ n = 2 := by omega
  · exact h0
  · exact h1
  · exact h2

/-- A change of rows. -/
def IsChange (x : WriteStep) : Prop := ∃ doing f, x = .change doing f

/-- A change is made, or the write ends. -/
theorem carryOut_change {x : WriteStep} (hx : IsChange x) (refusals : Nat → Option String)
    (s : Underway) (rest : List WriteStep) :
    (∃ reason, carryOut refusals s (x :: rest) = s.finish (.error (.storage reason))) ∨
    ∃ d, refusals 0 = none ∧ carryOut refusals s (x :: rest) =
      carryOut (fun n => refusals (n + 1)) { s with cache := d } rest := by
  obtain ⟨doing, f, rfl⟩ := hx
  rw [carryOut]
  cases refusals 0 with
  | some reason => exact .inl ⟨_, rfl⟩
  | none =>
    rw [WriteStep.take]
    cases f s.cache with
    | error reason => exact .inl ⟨_, rfl⟩
    | ok d => exact .inr ⟨d, rfl, rfl⟩

/-- **What is changed in a transaction is taken back if a change fails.** -/
theorem carryOut_changes (hchanges : ∀ x ∈ changes, IsChange x) (hbefore : s.before = some c)
    (refusals : Nat → Option String) (rest : List WriteStep) :
    (∃ reason, carryOut refusals s (changes ++ rest) = ⟨.error (.storage reason), c, s.events⟩) ∨
    ∃ refusals' d, carryOut refusals s (changes ++ rest) =
      carryOut refusals' { s with cache := d } rest := by
  induction changes generalizing refusals s with
  | nil => exact .inr ⟨refusals, s.cache, rfl⟩
  | cons x xs ih =>
    rw [List.cons_append]
    obtain ⟨reason, h⟩ | ⟨d, -, h⟩ :=
      carryOut_change (hchanges x (List.mem_cons_self ..)) refusals s (xs ++ rest)
    · refine .inl ⟨reason, h.trans ?_⟩
      rw [Underway.finish, hbefore, Option.getD_some]
    · rw [h]
      exact ih (s := { s with cache := d }) (fun y hy => hchanges y (List.mem_cons_of_mem _ hy))
        hbefore _

/-- The transaction is committed and what it changed announced, or it is taken back. -/
theorem carryOut_commit (hbefore : s.before = some c) (refusals : Nat → Option String)
    (events : List CacheEvent) :
    (∃ reason, carryOut refusals s (.commit :: events.map .announce) =
      ⟨.error (.storage reason), c, s.events⟩) ∨
    (carryOut refusals s (.commit :: events.map .announce)).outcome = .ok () := by
  rw [carryOut]
  cases refusals 0 with
  | some reason =>
    refine .inl ⟨"Failed to commit transaction" ++ ": " ++ reason, ?_⟩
    show s.finish _ = _
    rw [Underway.finish, hbefore, Option.getD_some]
  | none => exact .inr (congrArg Aftermath.outcome (carryOut_announce _ _ events))

/-- **Changes that are made together are all made, or none is.** -/
theorem carryOut_together (hchanges : ∀ x ∈ changes, IsChange x) (refusals : Nat → Option String)
    (c : Cache) (events : List CacheEvent) :
    (∃ reason, carryOut refusals ⟨c, none, []⟩ (together changes events) =
      ⟨.error (.storage reason), c, []⟩) ∨
    (carryOut refusals ⟨c, none, []⟩ (together changes events)).outcome = .ok () := by
  rw [together, List.append_assoc]
  obtain ⟨reason, -, h⟩ | ⟨-, h⟩ := carryOut_connect refusals ⟨c, none, []⟩
    (.transaction :: changes ++ .commit :: events.map .announce)
  · exact .inl ⟨reason, h⟩
  rw [h, List.cons_append, carryOut]
  cases refusals 3 with
  | some reason => exact .inl ⟨_, rfl⟩
  | none =>
    show (∃ reason, carryOut _ ⟨c, some c, []⟩ _ = _) ∨ (carryOut _ ⟨c, some c, []⟩ _).outcome = _
    obtain ⟨reason, h⟩ | ⟨refusals', d, h⟩ := carryOut_changes (s := ⟨c, some c, []⟩) hchanges rfl
      (fun n => refusals (n + 1 + 3)) (.commit :: events.map .announce)
    · exact .inl ⟨reason, h⟩
    · rw [h]
      exact carryOut_commit rfl refusals' events

/-- **A change that is made alone is made, or it is not.** -/
theorem carryOut_alone {x : WriteStep} (hx : IsChange x) (refusals : Nat → Option String)
    (c : Cache) (events : List CacheEvent) :
    (∃ reason, carryOut refusals ⟨c, none, []⟩ (alone x events) =
      ⟨.error (.storage reason), c, []⟩) ∨
    (carryOut refusals ⟨c, none, []⟩ (alone x events)).outcome = .ok () := by
  rw [alone]
  obtain ⟨reason, -, h⟩ | ⟨-, h⟩ := carryOut_connect refusals ⟨c, none, []⟩
    (x :: events.map .announce)
  · exact .inl ⟨reason, h⟩
  rw [h]
  obtain ⟨reason, h⟩ | ⟨d, -, h⟩ := carryOut_change hx (fun n => refusals (n + 3)) ⟨c, none, []⟩
    (events.map .announce)
  · exact .inl ⟨reason, h⟩
  · rw [h, carryOut_announce]
    exact .inr rfl

/-- **A flag is flipped and read back, or nothing changes**; if the flip succeeds and reading it
back does not, the flip stays and is not announced. -/
theorem carryOut_toggle (refusals : Nat → Option String) (c : Cache) (f : ChatFlag)
    (chatId : String) :
    let a := (toggle f chatId).attempt refusals c
    (∃ reason, a = ⟨.error (.storage reason), c, []⟩ ∧
      ¬ (toggle f chatId).LosesReadBack refusals c) ∨
    a.outcome = .ok () ∨
    (toggle f chatId).LosesReadBack refusals c ∧ ∃ reason, a =
      ⟨.error (.storage ("Failed to query chat: " ++ reason)), (c.toggle f chatId).cache, []⟩ := by
  dsimp only [attempt, CacheWrite.steps]
  obtain ⟨reason, ⟨n, hn, hrefused⟩, h⟩ | ⟨hopened, h⟩ := carryOut_connect refusals ⟨c, none, []⟩
    (.change "Failed to update chat" (fun c => .ok (c.toggle f chatId).cache) ::
      if c.hasChat chatId then [.ask "Failed to query chat", .announce .chats] else [])
  · exact .inl ⟨reason, h, fun hlost => hrefused (hlost.2.1 n (by omega))⟩
  rw [h, carryOut]
  cases hflip : refusals 3 with
  | some reason =>
    exact .inl ⟨_, rfl, fun hlost => by simpa [hflip] using hlost.2.1 3 (by decide)⟩
  | none =>
    refine .inr ?_
    show (carryOut _ ⟨(c.toggle f chatId).cache, none, []⟩ _).outcome = _ ∨ _ ∧ ∃ reason,
      carryOut _ ⟨(c.toggle f chatId).cache, none, []⟩ _ = _
    split
    · rename_i hcached
      obtain ⟨reason, hlost, h⟩ | ⟨-, h⟩ := carryOut_ask (fun n => refusals (n + 1 + 3))
        ⟨(c.toggle f chatId).cache, none, []⟩ "Failed to query chat" [.announce .chats]
      · refine .inr ⟨⟨hcached, fun n hn => ?_, by simp [hlost]⟩, reason, h⟩
        obtain hn | rfl : n < 3 ∨ n = 3 := by omega
        · exact hopened n hn
        · exact hflip
      · exact .inl (congrArg Aftermath.outcome h)
    · exact .inl rfl

/-! ## Nothing refused -/

/-- Changes that lead from one cache to another if nothing is refused. -/
def Leads (changes : List WriteStep) (c d : Cache) : Prop :=
  ∀ (s : Underway) (rest : List WriteStep), s.cache = c →
    carryOut nothingRefused s (changes ++ rest) =
      carryOut nothingRefused { s with cache := d } rest

theorem Leads.nil (c : Cache) : Leads [] c c := by
  rintro s rest rfl
  rfl

theorem Leads.append {more : List WriteStep} (h : Leads changes c d) (hmore : Leads more d e) :
    Leads (changes ++ more) c e := by
  intro s rest hs
  rw [List.append_assoc, h s _ hs]
  exact hmore { s with cache := d } rest rfl

theorem Leads.change {doing : String} {f : Cache → Except String Cache} (h : f c = .ok d) :
    Leads [.change doing f] c d := by
  rintro s rest rfl
  have htake : (WriteStep.change doing f).take none s = .ok { s with cache := d } := by
    rw [take, h]
    rfl
  rw [List.singleton_append, carryOut, nothingRefused, htake]
  rfl

/-- Changes for one value after the other lead where the values lead, if each of them does where
`P` holds, which it does all the way. -/
theorem Leads.flatMap {α : Type} {P : Cache → Prop} {change : α → List WriteStep}
    {put : Cache → α → Cache} {as : List α}
    (hchange : ∀ a ∈ as, ∀ c, P c → Leads (change a) c (put c a))
    (hkeep : ∀ a c, P c → P (put c a)) (hc : P c) :
    Leads (as.flatMap change) c (as.foldl put c) := by
  induction as generalizing c with
  | nil => exact .nil c
  | cons a rest ih =>
    rw [List.flatMap_cons, List.foldl_cons]
    exact (hchange a (List.mem_cons_self ..) c hc).append
      (ih (fun b hb => hchange b (List.mem_cons_of_mem _ hb)) (hkeep a c hc))

theorem leads_putSummary (ss : List ChatSummary) (c : Cache) :
    Leads (ss.map WriteStep.putSummary) c (ss.foldl Cache.putSummary c) := by
  rw [List.map_eq_flatMap]
  exact .flatMap (P := fun _ => True) (fun s _ c _ => .change rfl) (fun _ _ _ => trivial) trivial

/-- The attachments of a message that is there can be put. -/
theorem leads_putAttachment {k : String × String} {rows : List CachedAttachment}
    (howner : ∀ a ∈ rows, a.owner = k) (hc : c.messages.any (·.key == k) = true) :
    Leads (rows.map WriteStep.putAttachment) c (rows.foldl Cache.putAttachment c) := by
  rw [List.map_eq_flatMap]
  refine .flatMap (P := fun c => c.messages.any (·.key == k) = true) (fun a ha c hc => ?_)
    (fun a c hc => hc) hc
  refine .change ?_
  rw [howner a ha, referring, if_pos hc]

/-- A message of the server can be put into a chat that is there. -/
theorem leads_putServerMessage {chatId : String} (m : Message) (hc : c.hasChat chatId = true) :
    Leads (putServerMessage chatId m) c (Cache.putServerMessage chatId c m) := by
  let row : CachedMessage := .ofMessage chatId m .sent
  have hrow : Leads [WriteStep.putMessage row] c (c.putMessage (.ofMessage row)) := by
    refine .change ?_
    rw [referring, if_pos]
    exact hc
  have hthere : (c.putMessage (.ofMessage row)).messages.any (·.key == (chatId, m.id)) = true := by
    have hmem : (chatId, m.id) ∈ (c.putMessage (.ofMessage row)).messages.map MessageRow.key :=
      (mem_map_key_upsert (keepsKey_replace MessageRow.key)).mpr (.inr rfl)
    simpa using hmem
  refine hrow.append (leads_putAttachment (fun a ha => ?_) hthere)
  obtain ⟨i, hi, rfl⟩ := List.mem_mapIdx.mp ha
  rfl

/-- The messages of a thread can be put into a chat that is there. -/
theorem leads_thread {chatId : String} (thread : List Message) (hc : c.hasChat chatId = true) :
    Leads (thread.flatMap (putServerMessage chatId)) c
      (thread.foldl (Cache.putServerMessage chatId) c) := by
  refine .flatMap (P := fun c => c.hasChat chatId = true)
    (fun m _ c hc => leads_putServerMessage m hc) (fun m c hc => ?_) hc
  rw [Cache.hasChat, Cache.putServerMessage_chats]
  exact hc

theorem together_unrefused (h : Leads changes c d) (events : List CacheEvent) :
    carryOut nothingRefused ⟨c, none, []⟩ (together changes events) = ⟨.ok (), d, events⟩ := by
  rw [together, List.append_assoc]
  show carryOut nothingRefused ⟨c, some c, []⟩ (changes ++ .commit :: events.map .announce) = _
  rw [h ⟨c, some c, []⟩ _ rfl]
  exact carryOut_announce _ ⟨d, none, []⟩ events

theorem alone_unrefused {x : WriteStep} (h : Leads [x] c d) (events : List CacheEvent) :
    carryOut nothingRefused ⟨c, none, []⟩ (alone x events) = ⟨.ok (), d, events⟩ := by
  show carryOut nothingRefused ⟨c, none, []⟩ ([x] ++ events.map .announce) = _
  rw [h ⟨c, none, []⟩ _ rfl]
  exact carryOut_announce _ ⟨d, none, []⟩ events

/-- **If nothing is refused, a write does what `run` says**, and one that breaks a rule of the
tables changes nothing. -/
theorem attempt_unrefused (c : Cache) (w : CacheWrite) :
    w.attempt nothingRefused c = match w.run c with
      | .ok (d, events) => ⟨.ok (), d, events⟩
      | .error e => ⟨.error e, c, []⟩ := by
  cases w with
  | upsertSummaries ss => exact together_unrefused (leads_putSummary ss c) _
  | upsertChat chat => rfl
  | applySnapshot chat thread =>
    have hchat : Leads [WriteStep.putChat (.ofChat chat)] c (c.putChat (.ofChat (.ofChat chat))) :=
      .change rfl
    refine together_unrefused (hchat.append (leads_thread thread ?_)) _
    rw [Cache.hasChat_iff]
    exact (mem_map_key_upsert (keepsKey_replace ChatRow.id)).mpr (.inr rfl)
  | upsertMessage m =>
    by_cases hchat : c.hasChat m.chatId = true
    · have hput : Leads [WriteStep.putMessage m] c (c.putMessage (.ofMessage m)) :=
        .change (if_pos hchat)
      rw [run, Cache.upsertMessage, if_pos hchat]
      exact alone_unrefused hput _
    · have htake : (WriteStep.putMessage m).take none ⟨c, none, []⟩ =
          .error (.storage "Failed to upsert message: FOREIGN KEY constraint failed") := by
        rw [WriteStep.putMessage, take, referring, if_neg hchat]
        rfl
      rw [run, Cache.upsertMessage, if_neg hchat]
      show carryOut nothingRefused ⟨c, none, []⟩ (WriteStep.putMessage m :: _) = _
      exact carryOut_of_error htake _
  | setMessageStatus chatId id status =>
    have hset : Leads [.change "Failed to update message status" fun c =>
        .ok (c.setMessageStatus chatId id status).cache] c
        (c.setMessageStatus chatId id status).cache := .change rfl
    exact alone_unrefused hset _
  | deleteChat chatId => rfl
  | toggle f chatId =>
    show carryOut nothingRefused ⟨(c.toggle f chatId).cache, none, []⟩
      (if c.hasChat chatId then [.ask "Failed to query chat", .announce .chats] else []) =
        ⟨.ok (), (c.toggle f chatId).cache, (c.toggle f chatId).events⟩
    rw [Cache.toggle_events]
    split <;> rfl
  | clearAll => rfl

/-! ## All writes -/

/-- A write that does not fail did what `run` says. -/
theorem run_of_attempt (h : (w.attempt refusals c).outcome = .ok ()) :
    w.run c = .ok ((w.attempt refusals c).cache, (w.attempt refusals c).events) := by
  have hsame : w.attempt refusals c = w.attempt nothingRefused c := carryOut_of_ok h
  rw [hsame, attempt_unrefused] at h ⊢
  cases hrun : w.run c with
  | ok r => rfl
  | error e => rw [hrun] at h; cases h

theorem isChange_putServerMessage {chatId : String} {m : Message} :
    ∀ x ∈ WriteStep.putServerMessage chatId m, IsChange x := by
  rw [WriteStep.putServerMessage, List.forall_mem_cons, List.forall_mem_map]
  exact ⟨⟨_, _, rfl⟩, fun a _ => ⟨_, _, rfl⟩⟩

/-- A write that is not a flip either does not fail, or leaves everything as it was. -/
theorem attempt_of_not_toggle (hw : ∀ f chatId, w ≠ .toggle f chatId)
    (refusals : Nat → Option String) (c : Cache) :
    (∃ reason, w.attempt refusals c = ⟨.error (.storage reason), c, []⟩) ∨
      (w.attempt refusals c).outcome = .ok () := by
  cases w with
  | upsertSummaries ss =>
    exact carryOut_together (List.forall_mem_map.mpr fun s _ => ⟨_, _, rfl⟩) refusals c _
  | upsertChat chat => exact carryOut_alone ⟨_, _, rfl⟩ refusals c _
  | applySnapshot chat thread =>
    refine carryOut_together (List.forall_mem_cons.mpr ⟨⟨_, _, rfl⟩, fun x hx => ?_⟩) refusals c _
    obtain ⟨m, -, hm⟩ := List.mem_flatMap.mp hx
    exact isChange_putServerMessage x hm
  | upsertMessage m => exact carryOut_alone ⟨_, _, rfl⟩ refusals c _
  | setMessageStatus chatId id status => exact carryOut_alone ⟨_, _, rfl⟩ refusals c _
  | deleteChat chatId => exact carryOut_alone ⟨_, _, rfl⟩ refusals c _
  | toggle f chatId => exact absurd rfl (hw f chatId)
  | clearAll =>
    refine carryOut_together ?_ refusals c _
    simp only [List.forall_mem_cons]
    exact ⟨⟨_, _, rfl⟩, ⟨_, _, rfl⟩, ⟨_, _, rfl⟩, nofun⟩

/-- **A write that may be refused** does what `run` says, or fails and leaves everything as it was,
or it is a flip that could not be read back, which stays and is not announced. -/
theorem attempt_cases (refusals : Nat → Option String) (c : Cache) (w : CacheWrite) :
    let a := w.attempt refusals c
    (a.outcome = .ok () ∧ w.run c = .ok (a.cache, a.events)) ∨
    (¬ w.LosesReadBack refusals c ∧ ∃ reason, a = ⟨.error (.storage reason), c, []⟩) ∨
    (w.LosesReadBack refusals c ∧ ∃ f chatId reason, w = .toggle f chatId ∧ a =
      ⟨.error (.storage ("Failed to query chat: " ++ reason)), (c.toggle f chatId).cache, []⟩) := by
  by_cases hw : ∃ f chatId, w = .toggle f chatId
  · obtain ⟨f, chatId, rfl⟩ := hw
    obtain ⟨reason, hsame, hkept⟩ | hok | ⟨hlost, reason, h⟩ := carryOut_toggle refusals c f chatId
    · exact .inr (.inl ⟨hkept, reason, hsame⟩)
    · exact .inl ⟨hok, run_of_attempt hok⟩
    · exact .inr (.inr ⟨hlost, f, chatId, reason, rfl, h⟩)
  · have hnot : ¬ w.LosesReadBack refusals c := by
      cases w with
      | toggle f chatId => exact absurd ⟨f, chatId, rfl⟩ hw
      | _ => exact id
    obtain ⟨reason, h⟩ | hok :=
      attempt_of_not_toggle (fun f chatId h => hw ⟨f, chatId, h⟩) refusals c
    · exact .inr (.inl ⟨hnot, reason, h⟩)
    · exact .inl ⟨hok, run_of_attempt hok⟩

end CacheWrite
end OfflineChat
