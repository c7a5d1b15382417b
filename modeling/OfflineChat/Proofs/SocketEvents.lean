import Mathlib.Data.List.TakeWhile
import OfflineChat.Socket.Basic

/-! # What a socket tells its listener

The task behind a socket handles one thing at a time: the end of the attempt to
connect, a frame it reads, a wish it meets (`SocketTurn`).  What the listener is
told is a function of these turns alone (`Socket.account`), however the other
side, the holder and the listener came to move: a listener who stays has been
told the account of the turns so far, but for the event that waits for room, and
one who leaves has been told a beginning of it (`Socket.Accounts`).

The frames among the turns are the frames that arrived, in their order, and the
wishes among them are the wishes of the holder in theirs, so the account is a
function of what reached the task and of the order in which it chose between the
two queues.
-/
namespace OfflineChat

/-! ## Turns -/

/-- Something that the task behind a socket handles. -/
inductive SocketTurn where
  /-- The attempt to connect is over. -/
  | attempted (result : Except String Unit)
  | read (a : Arrival)
  /-- A wish is met; `failure` is why a text could not be sent. -/
  | served (c : SocketCommand) (failure : Option String)
  /-- The holder has let go, and no wish is left. -/
  | abandoned

variable {turns : List SocketTurn} {t : SocketTurn} {e : SocketEvent}

namespace SocketTurn

/-- The frame that is read. -/
def arrival? : SocketTurn → Option Arrival
  | read a => some a
  | _ => none

/-- The text of the frame that is read. -/
def text? (t : SocketTurn) : Option String := t.arrival?.bind Arrival.text?

/-- The wish that is met. -/
def command? : SocketTurn → Option SocketCommand
  | served c _ => some c
  | _ => none

/-- The last event of a connection that ends with the turn. -/
def ending? : SocketTurn → Option SocketEvent
  | read .close | read .ended => some .disconnected
  | read (.fault reason) => some (.failed reason)
  | served .close _ => some .disconnected
  | served (.send _) (some reason) => some (.failed reason)
  | abandoned => some .disconnected
  | _ => none

theorem isLast_ending (h : t.ending? = some e) :
    e.isLast = true := by
  unfold ending? at h
  split at h <;> cases h <;> rfl

end SocketTurn

namespace SocketStep

/-- What comes from the other side. -/
def arrival? : SocketStep → Option Arrival
  | .arrives a => some a
  | _ => none

/-- What the holder asks for. -/
def command? : SocketStep → Option SocketCommand
  | .asks c => some c
  | _ => none

end SocketStep

namespace Socket

/-- The turn of the task that a step is, if it is one. -/
def turn? (s : Socket) : SocketStep → Option SocketTurn
  | .answered result =>
    if s.phase = .opening then some (.attempted (s.outcome result)) else none
  | .reads =>
    if s.phase = .open ∨ s.phase = .closing then s.arrived.head?.map .read else none
  | .serves failure =>
    if s.phase = .open then
      match s.queue with
      | c :: _ => some (.served c failure)
      | [] => if s.held then none else some .abandoned
    else none
  | _ => none

/-- What the task handles in a run. -/
def handles (s : Socket) : List SocketStep → List SocketTurn
  | [] => []
  | step :: rest => (s.turn? step).toList ++ (s.step step).handles rest

/-! ## The account of the turns -/

/-- What a listener is told of turns: that a connection is attempted, then why it failed, or that
it is open, then the texts read before the turn that ends it, then the end. -/
def account : List SocketTurn → List SocketEvent
  | [] => [.connecting]
  | .attempted (.error reason) :: _ => [.connecting, .failed reason]
  | _ :: turns =>
    [.connecting, .connected] ++
      (turns.takeWhile (·.ending?.isNone)).filterMap (·.text?.map .message) ++
      (turns.findSome? (·.ending?)).toList

/-- The turns opened the connection, and none ends it. -/
def Opened (turns : List SocketTurn) : Prop :=
  ∃ rest, turns = .attempted (.ok ()) :: rest ∧ ∀ t ∈ rest, t.ending? = none

/-- The account ends with an event. -/
def EndsWith (turns : List SocketTurn) (e : SocketEvent) : Prop :=
  (∃ reason rest, turns = .attempted (.error reason) :: rest ∧ e = .failed reason) ∨
    ∃ before t after, Opened before ∧ t.ending? = some e ∧ turns = before ++ t :: after

theorem opened_singleton : Opened [.attempted (.ok ())] := ⟨[], rfl, by simp⟩

theorem Opened.goOn (h : Opened turns) (ht : t.ending? = none) : Opened (turns ++ [t]) := by
  obtain ⟨rest, rfl, hrest⟩ := h
  refine ⟨rest ++ [t], rfl, fun u hu => ?_⟩
  rcases List.mem_append.mp hu with hu | hu
  · exact hrest u hu
  · rwa [List.mem_singleton.mp hu]

theorem Opened.endsWith (h : Opened turns) (ht : t.ending? = some e) :
    EndsWith (turns ++ [t]) e := .inr ⟨turns, t, [], h, ht, rfl⟩

theorem EndsWith.append (h : EndsWith turns e) (more : List SocketTurn) :
    EndsWith (turns ++ more) e := by
  rcases h with ⟨reason, rest, rfl, rfl⟩ | ⟨before, t, after, ho, ht, rfl⟩
  · exact .inl ⟨reason, rest ++ more, rfl, rfl⟩
  · exact .inr ⟨before, t, after ++ more, ho, ht, by simp⟩

/-- What is told of an open connection. -/
theorem account_of_opened (h : Opened turns) :
    account turns = [.connecting, .connected] ++ turns.filterMap (·.text?.map .message) := by
  obtain ⟨rest, rfl, hrest⟩ := h
  have htake : rest.takeWhile (·.ending?.isNone) = rest :=
    List.takeWhile_eq_self_iff.mpr fun u hu => by simp [hrest u hu]
  have hfind : rest.findSome? (·.ending?) = none := List.findSome?_eq_none_iff.mpr hrest
  have htext : (SocketTurn.attempted (.ok ())).text? = none := rfl
  simp [account, htake, hfind, htext]

/-- **The turn that ends a connection closes the account**, whatever comes after it. -/
theorem account_of_end (h : Opened turns) (ht : t.ending? = some e) (more : List SocketTurn) :
    account (turns ++ t :: more) = account turns ++ [e] := by
  rw [account_of_opened h]
  obtain ⟨rest, rfl, hrest⟩ := h
  have htake : (rest ++ t :: more).takeWhile (·.ending?.isNone) = rest := by
    rw [List.takeWhile_append_of_pos fun u hu => by simp [hrest u hu]]
    simp [ht]
  have hfind : rest.findSome? (·.ending?) = none := List.findSome?_eq_none_iff.mpr hrest
  have htext : (SocketTurn.attempted (.ok ())).text? = none := rfl
  simp [account, htake, hfind, ht, htext]

/-- **A turn that ends nothing adds its text to the account.** -/
theorem account_goOn (h : Opened turns) (ht : t.ending? = none) :
    account (turns ++ [t]) = account turns ++ (t.text?.map .message).toList := by
  rw [account_of_opened h, account_of_opened (h.goOn ht), List.filterMap_append,
    List.append_assoc]
  cases htext : t.text? <;> simp [htext]

theorem account_append_of_endsWith (h : EndsWith turns e) (more : List SocketTurn) :
    account (turns ++ more) = account turns := by
  rcases h with ⟨reason, rest, rfl, rfl⟩ | ⟨before, t, after, ho, ht, rfl⟩
  · rfl
  · rw [List.append_assoc, List.cons_append, account_of_end ho ht, account_of_end ho ht]

theorem isLast_of_nil (he : e ∈ account []) : e.isLast = false := by
  rw [List.mem_singleton.mp he]; rfl

/-- No event of an open connection is the last. -/
theorem isLast_of_opened (h : Opened turns) (he : e ∈ account turns) : e.isLast = false := by
  rw [account_of_opened h] at he
  simp only [List.mem_append, List.mem_cons, List.not_mem_nil, or_false, List.mem_filterMap,
    Option.map_eq_some_iff] at he
  rcases he with (rfl | rfl) | ⟨t, -, text, -, rfl⟩ <;> rfl

/-- **The last event of an ended connection stands at the end of its account, and nowhere
else.** -/
theorem account_of_endsWith (h : EndsWith turns e) :
    e.isLast = true ∧ ∃ before, account turns = before ++ [e] ∧ ∀ x ∈ before, x.isLast = false := by
  rcases h with ⟨reason, rest, rfl, rfl⟩ | ⟨before, t, after, ho, ht, rfl⟩
  · exact ⟨rfl, [.connecting], rfl, by simp [SocketEvent.isLast]⟩
  · exact ⟨SocketTurn.isLast_ending ht, account before, account_of_end ho ht after,
      fun x => isLast_of_opened ho⟩

/-! ## The task keeps its account -/

/-- The event that the listener is still to be told of the turns so far. -/
def owed (s : Socket) : List SocketEvent :=
  match s.phase with
  | .telling e => [e]
  | .closing => [.disconnected]
  | _ => []

/-- The turns make an account: there are none yet, or they left the connection open, or they
ended it. -/
def Whole (turns : List SocketTurn) : Prop :=
  turns = [] ∨ Opened turns ∨ ∃ e, EndsWith turns e

/-- Only the event in the last place of an account is a last event. -/
theorem Whole.isLast_dropLast (h : Whole turns) (he : e ∈ (account turns).dropLast) :
    e.isLast = false := by
  rcases h with rfl | h | ⟨e', h⟩
  · cases he
  · exact isLast_of_opened h (List.dropLast_subset _ he)
  · obtain ⟨-, before, haccount, hbefore⟩ := account_of_endsWith h
    exact hbefore e (by simpa [haccount] using he)

end Socket

namespace SocketPhase

/-- What the turns so far are in a phase. -/
def Handled (turns : List SocketTurn) : SocketPhase → Prop
  | .telling .connecting | .opening => turns = []
  | .telling .connected | .telling (.message _) | .open | .leaving => Socket.Opened turns
  | .telling e => Socket.EndsWith turns e
  | .closing => Socket.EndsWith turns .disconnected
  | .finished => Socket.Whole turns

/-- Whether texts can be sent in a phase. -/
def isLive : SocketPhase → Bool
  | .telling .connected | .telling (.message _) | .open | .leaving => true
  | _ => false

variable {phase : SocketPhase}

theorem Handled.whole (h : phase.Handled turns) : Socket.Whole turns := by
  unfold Handled at h
  split at h
  · exact .inl h
  · exact .inl h
  · exact .inr (.inl h)
  · exact .inr (.inl h)
  · exact .inr (.inl h)
  · exact .inr (.inl h)
  · exact .inr (.inr ⟨_, h⟩)
  · exact .inr (.inr ⟨_, h⟩)
  · exact h

theorem Handled.opened (h : phase.Handled turns) (hlive : phase.isLive = true) :
    Socket.Opened turns := by
  unfold isLive at hlive
  split at hlive <;> first | exact h | cases hlive

end SocketPhase

namespace Socket

/-- The socket stands where the turns so far have brought it, and has told the account of them
but for what it owes.  Only a task that ends because nobody listens leaves the account at a
beginning. -/
structure Accounts (s : Socket) (turns : List SocketTurn) : Prop where
  handled : s.phase.Handled turns
  live : s.isConnected = s.phase.isLive
  told : s.events ++ s.owed = account turns ∨
    s.phase = .finished ∧ s.heard = false ∧ s.events <+: account turns
  left : s.phase = .leaving → s.heard = false
  done : s.phase = .finished → s.heard = true → ∃ e, EndsWith turns e

namespace Accounts

variable {s : Socket}

theorem of_eq (h : s.Accounts turns) {s' : Socket} (hphase : s'.phase = s.phase)
    (hlive : s'.isConnected = s.isConnected) (hheard : s'.heard = s.heard)
    (hevents : s'.events = s.events) : s'.Accounts turns where
  handled := hphase ▸ h.handled
  live := by rw [hlive, hphase, h.live]
  told := by
    have howed : s'.owed = s.owed := by simp only [owed, hphase]
    rw [howed, hphase, hheard, hevents]
    exact h.told
  left := by rw [hphase, hheard]; exact h.left
  done := by rw [hphase, hheard]; exact h.done

theorem told_of_ne (h : s.Accounts turns) (hp : s.phase ≠ .finished) :
    s.events ++ s.owed = account turns :=
  h.told.resolve_right fun hend => hp hend.1

theorem told_of_heard (h : s.Accounts turns) (hh : s.heard = true) :
    s.events ++ s.owed = account turns :=
  h.told.resolve_right fun hend => by rw [hh] at hend; cases hend.2.1

theorem prefix_account (h : s.Accounts turns) : s.events <+: account turns := by
  rcases h.told with h | ⟨-, -, h⟩
  · exact h ▸ List.prefix_append _ _
  · exact h

/-! ### Steps that are no turn -/

/-- A listener who leaves changes nothing of the account. -/
theorem unheard (h : s.Accounts turns) : { s with heard := false }.Accounts turns where
  handled := h.handled
  live := h.live
  told := h.told.imp id fun ⟨hp, _, hcut⟩ => ⟨hp, rfl, hcut⟩
  left _ := rfl
  done _ := nofun

theorem quit (h : s.Accounts turns) (hheard : s.heard = false) : s.quit.Accounts turns where
  handled := h.handled.whole
  live := rfl
  told := .inr ⟨rfl, hheard, h.prefix_account⟩
  left := nofun
  done _ hh := absurd hh (by simp [Socket.quit, hheard])

/-- The event that the task has for the listener is the next of the account. -/
theorem handOver (h : s.Accounts turns) (hp : s.phase = .telling e) :
    (s.handOver e).Accounts turns := by
  have hhandled := h.handled
  have hlive := h.live
  have htold : s.events ++ [e] = account turns := by
    simpa only [owed, hp] using h.told_of_ne (by simp [hp])
  rw [hp] at hhandled hlive
  unfold Socket.handOver
  split
  · next hh => exact h.quit (by simpa using hh)
  · split
    · cases e with
      | connecting | connected | message =>
        exact ⟨hhandled, hlive, .inl (by simpa [owed, SocketEvent.next] using htold), nofun, nofun⟩
      | disconnected | failed =>
        exact ⟨.inr (.inr ⟨_, hhandled⟩), hlive,
          .inl (by simpa [owed, SocketEvent.next] using htold), nofun, fun _ _ => ⟨_, hhandled⟩⟩
    · exact h

/-- The close is agreed, or need not be waited for any more. -/
theorem tell_of_closing (h : s.Accounts turns) (hp : s.phase = .closing) :
    (s.tell .disconnected).Accounts turns := by
  have hhandled : EndsWith turns .disconnected := by
    simpa only [hp, SocketPhase.Handled] using h.handled
  have hlive : s.isConnected = false := by rw [h.live, hp]; rfl
  have htold : s.events ++ [.disconnected] = account turns := by
    simpa only [owed, hp] using h.told_of_ne (by simp [hp])
  exact ⟨hhandled, hlive, .inl htold, nofun, nofun⟩

/-- The task of an open socket notices that nobody listens. -/
theorem leave (h : s.Accounts turns) (hp : s.phase = .open) (hh : s.heard = false) :
    { s with phase := .leaving }.Accounts turns := by
  have hhandled : Opened turns := by simpa only [hp, SocketPhase.Handled] using h.handled
  have hlive : s.isConnected = true := by rw [h.live, hp]; rfl
  have htold : s.events ++ [] = account turns := by
    simpa only [owed, hp] using h.told_of_ne (by simp [hp])
  exact ⟨hhandled, hlive, .inl htold, fun _ => hh, nofun⟩

/-! ### Turns -/

/-- The end of the attempt decides between the two ways to go on. -/
theorem attempt (h : s.Accounts turns) (hp : s.phase = .opening) (result : Except String Unit) :
    (s.attempt result).Accounts (turns ++ [.attempted (s.outcome result)]) := by
  have hnone : turns = [] := by simpa only [hp, SocketPhase.Handled] using h.handled
  subst hnone
  have htold : s.events = [.connecting] := by
    simpa [owed, hp, account] using h.told_of_ne (by simp [hp])
  unfold Socket.attempt
  cases s.outcome result with
  | error reason =>
    exact ⟨.inl ⟨reason, [], rfl, rfl⟩, rfl,
      .inl (by simp [Socket.finish, Socket.tell, owed, account, htold]), nofun, nofun⟩
  | ok _ =>
    exact ⟨opened_singleton, rfl, .inl (by simp [Socket.tell, owed, account, htold]), nofun, nofun⟩

theorem opened (h : s.Accounts turns) (hp : s.phase = .open) : Opened turns := by
  simpa only [hp, SocketPhase.Handled] using h.handled

theorem told_of_open (h : s.Accounts turns) (hp : s.phase = .open) : s.events = account turns := by
  simpa only [owed, hp, List.append_nil] using h.told_of_ne (by simp [hp])

/-- A turn that tells nothing and ends nothing leaves an open socket as it is. -/
theorem silent (h : s.Accounts turns) (hp : s.phase = .open) (ht : t.ending? = none)
    (htext : t.text? = none) : s.Accounts (turns ++ [t]) := by
  have haccount : account (turns ++ [t]) = account turns := by
    simp [account_goOn (h.opened hp) ht, htext]
  exact ⟨by rw [hp]; exact (h.opened hp).goOn ht, h.live, haccount ▸ h.told, h.left, by simp [hp]⟩

/-- A turn that reads a text has it told. -/
theorem tell (h : s.Accounts turns) (hp : s.phase = .open) (ht : t.ending? = none)
    {text : String} (htext : t.text? = some text) :
    (s.tell (.message text)).Accounts (turns ++ [t]) := by
  have haccount : account (turns ++ [t]) = account turns ++ [.message text] := by
    simp [account_goOn (h.opened hp) ht, htext]
  have hlive : s.isConnected = true := by rw [h.live, hp]; rfl
  have htold : s.events ++ [.message text] = account (turns ++ [t]) := by
    rw [haccount, h.told_of_open hp]
  exact ⟨(h.opened hp).goOn ht, hlive, .inl htold, nofun, nofun⟩

/-- A turn that ends the connection has the last event told, at once or when the close is
agreed. -/
theorem ends (h : s.Accounts turns) (hp : s.phase = .open) (ht : t.ending? = some e)
    {s' : Socket} (hevents : s'.events = s.events) (hlive : s'.isConnected = false)
    (hphase : s'.phase = .telling e ∨ s'.phase = .closing ∧ e = .disconnected) :
    s'.Accounts (turns ++ [t]) := by
  have hends : EndsWith (turns ++ [t]) e := (h.opened hp).endsWith ht
  have htold : s'.events ++ [e] = account (turns ++ [t]) := by
    rw [account_of_end (h.opened hp) ht, hevents, h.told_of_open hp]
  rcases hphase with hphase | ⟨hphase, rfl⟩
  · have howed : s'.owed = [e] := by simp only [owed, hphase]
    have hhandled : s'.phase.Handled (turns ++ [t]) ∧ s'.phase.isLive = false := by
      rw [hphase]
      have hlast := SocketTurn.isLast_ending ht
      cases e with
      | connecting | connected | message => cases hlast
      | disconnected | failed => exact ⟨hends, rfl⟩
    exact ⟨hhandled.1, hlive.trans hhandled.2.symm, .inl (howed ▸ htold), by simp [hphase],
      by simp [hphase]⟩
  · have howed : s'.owed = [.disconnected] := by simp only [owed, hphase]
    exact ⟨hphase ▸ hends, hlive.trans (by rw [hphase]; rfl), .inl (howed ▸ htold),
      by simp [hphase], by simp [hphase]⟩

/-- What comes from the other side of an open socket is a turn. -/
theorem receive (h : s.Accounts turns) (hp : s.phase = .open) (a : Arrival) :
    (s.receive a).Accounts (turns ++ [.read a]) := by
  cases a with
  | text text => exact h.tell hp rfl rfl
  | binary octets => exact h.tell hp rfl rfl
  | keepAlive => exact h.silent hp rfl rfl
  | close => exact h.ends hp rfl rfl rfl (.inl rfl)
  | fault reason => exact h.ends hp rfl rfl rfl (.inl rfl)
  | ended => exact h.ends hp rfl rfl rfl (.inl rfl)

/-- What comes while the close is waited for is a turn, and is told to nobody. -/
theorem discard (h : s.Accounts turns) (hp : s.phase = .closing) (a : Arrival) :
    (s.discard a).Accounts (turns ++ [.read a]) := by
  have hends : EndsWith turns .disconnected := by
    simpa only [hp, SocketPhase.Handled] using h.handled
  have haccount := account_append_of_endsWith hends [.read a]
  have h : s.Accounts (turns ++ [.read a]) :=
    ⟨hp ▸ hends.append [.read a], h.live, haccount ▸ h.told, h.left, by simp [hp]⟩
  unfold Socket.discard
  split
  · exact h.tell_of_closing hp
  · exact h.tell_of_closing hp
  · exact h

theorem read (h : s.Accounts turns) : s.read.Accounts (turns ++ (s.turn? .reads).toList) := by
  unfold Socket.read turn?
  cases harrived : s.arrived with
  | nil => simpa using h
  | cons a rest =>
    have h' : ({ s with arrived := rest } : Socket).Accounts turns := h.of_eq rfl rfl rfl rfl
    dsimp only
    split
    · next hp => simpa [hp] using h'.receive hp a
    · next hp => simpa [hp] using h'.discard hp a
    · next hopen hclosing =>
      rw [if_neg (not_or.mpr ⟨hopen, hclosing⟩)]
      simpa using h

theorem serve (h : s.Accounts turns) (hp : s.phase = .open) (failure : Option String) :
    (s.serve failure).Accounts (turns ++ (s.turn? (.serves failure)).toList) := by
  unfold Socket.serve turn?
  dsimp only
  rw [if_pos hp]
  cases hqueue : s.queue with
  | nil =>
    dsimp only
    split
    · simpa using h
    · exact h.ends (t := .abandoned) hp rfl rfl rfl (.inr ⟨rfl, rfl⟩)
  | cons c rest =>
    have h' : ({ s with queue := rest } : Socket).Accounts turns := h.of_eq rfl rfl rfl rfl
    cases c with
    | close => exact h'.ends (t := .served .close failure) hp rfl rfl rfl (.inr ⟨rfl, rfl⟩)
    | send text =>
      cases failure with
      | none =>
        exact (h'.silent (t := .served (.send text) none) hp rfl rfl).of_eq rfl rfl rfl rfl
      | some reason =>
        exact h'.ends (t := .served (.send text) (some reason)) hp rfl rfl rfl (.inl rfl)

/-! ### Steps and runs -/

/-- A step that is no turn leaves the account as it is. -/
theorem step_of_turn?_eq_none (h : s.Accounts turns) {step : SocketStep}
    (hnone : s.turn? step = none) : (s.step step).Accounts turns := by
  cases step with
  | tells =>
    simp only [Socket.step]
    split
    · next e hp => exact h.handOver hp
    · exact h
  | takes =>
    simp only [Socket.step]
    split
    · exact h.of_eq rfl rfl rfl rfl
    · exact h
  | answered result =>
    by_cases hp : s.phase = .opening
    · simp [turn?, hp] at hnone
    · simpa only [Socket.step, if_neg hp] using h
  | arrives a => exact h.of_eq rfl rfl rfl rfl
  | reads =>
    have hread := h.read
    rwa [hnone, Option.toList_none, List.append_nil] at hread
  | serves failure =>
    by_cases hp : s.phase = .open
    · simpa only [Socket.step, if_pos hp, hnone, Option.toList_none, List.append_nil]
        using h.serve hp failure
    · simpa only [Socket.step, if_neg hp] using h
  | drained =>
    simp only [Socket.step]
    split
    · next hp => exact h.tell_of_closing hp
    · exact h
  | asks c =>
    simp only [Socket.step]
    split
    · exact h
    · exact h.of_eq rfl rfl rfl rfl
  | released => exact h.of_eq rfl rfl rfl rfl
  | unheard => exact h.unheard
  | noticed =>
    simp only [Socket.step]
    split
    · next hnotice =>
      obtain ⟨hp, hh⟩ : s.phase = .open ∧ s.heard = false := by simpa using hnotice
      exact h.leave hp hh
    · exact h
  | left =>
    simp only [Socket.step]
    split
    · next hp => exact h.quit (h.left hp)
    · exact h

/-- **Every step keeps the account of the turns.** -/
theorem step (h : s.Accounts turns) (step : SocketStep) :
    (s.step step).Accounts (turns ++ (s.turn? step).toList) := by
  cases hturn : s.turn? step with
  | none => simpa using h.step_of_turn?_eq_none hturn
  | some t =>
    rw [← hturn]
    unfold turn? at hturn
    split at hturn
    · next result =>
      by_cases hp : s.phase = .opening
      · simpa only [Socket.step, turn?, if_pos hp, Option.toList_some] using h.attempt hp result
      · rw [if_neg hp] at hturn; cases hturn
    · exact h.read
    · next failure =>
      by_cases hp : s.phase = .open
      · simpa only [Socket.step, if_pos hp] using h.serve hp failure
      · rw [if_neg hp] at hturn; cases hturn
    · cases hturn

/-- **Every run keeps the account of what the task handles.** -/
theorem run (h : s.Accounts turns) (steps : List SocketStep) :
    (s.run steps).Accounts (turns ++ s.handles steps) := by
  induction steps generalizing s turns with
  | nil => simpa [Socket.handles, Socket.run] using h
  | cons step rest ih =>
    simpa [Socket.handles, Socket.run] using ih (h.step step)

/-- A last event is told when the task has finished, not before. -/
theorem finished_of_isLast (h : s.Accounts turns) (he : e ∈ s.events) (hlast : e.isLast = true) :
    s.phase = .finished := by
  have hne : e.isLast ≠ false := by simp [hlast]
  have hhandled := h.handled
  -- what is owed stands behind the events in the account
  have howes (x : SocketEvent) (hp : s.phase ≠ .finished) (howed : s.owed = [x]) : False := by
    have htold : s.events ++ [x] = account turns := howed ▸ h.told_of_ne hp
    exact hne (h.handled.whole.isLast_dropLast (by simpa [← htold] using he))
  cases hphase : s.phase with
  | finished => rfl
  | telling x => exact (howes x (by simp [hphase]) (by simp only [owed, hphase])).elim
  | closing => exact (howes .disconnected (by simp [hphase]) (by simp only [owed, hphase])).elim
  | «open» | leaving =>
    rw [hphase] at hhandled
    exact absurd (isLast_of_opened hhandled (h.prefix_account.subset he)) hne
  | opening =>
    rw [hphase] at hhandled
    subst hhandled
    exact absurd (isLast_of_nil (h.prefix_account.subset he)) hne

end Accounts

theorem accounts_start (obstacle : Option String) : (start obstacle).Accounts [] :=
  ⟨rfl, rfl, .inl rfl, nofun, nofun⟩

/-- The run of a new socket keeps its account. -/
theorem accounts_connect (url : String) (token : Option String) (steps : List SocketStep) :
    ((connect url token).run steps).Accounts ((connect url token).handles steps) :=
  (accounts_start (obstacle? url token)).run steps

/-! ## What waits for the task -/

/-- A turn, if there is one, takes what it handles from what waits, and nothing else changes
there. -/
structure Takes (s : Socket) (t : Option SocketTurn) (s' : Socket) : Prop where
  obstacle : s'.obstacle = s.obstacle
  arrived : (t.bind (·.arrival?)).toList ++ s'.arrived = s.arrived
  queue : (t.bind (·.command?)).toList ++ s'.queue = s.queue

variable {s : Socket}

theorem takes_handOver (s : Socket) (e : SocketEvent) : s.Takes none (s.handOver e) := by
  unfold handOver
  split
  · exact ⟨rfl, rfl, rfl⟩
  · split <;> exact ⟨rfl, rfl, rfl⟩

theorem takes_attempt (s : Socket) (result : Except String Unit) :
    s.Takes (some (.attempted (s.outcome result))) (s.attempt result) := by
  unfold attempt
  split <;> exact ⟨rfl, rfl, rfl⟩

theorem takes_receive {a : Arrival} {rest : List Arrival} (harrived : s.arrived = a :: rest) :
    s.Takes (some (.read a)) ({ s with arrived := rest }.receive a) := by
  cases a <;> exact ⟨rfl, harrived.symm, rfl⟩

theorem takes_discard {a : Arrival} {rest : List Arrival} (harrived : s.arrived = a :: rest) :
    s.Takes (some (.read a)) ({ s with arrived := rest }.discard a) := by
  cases a <;> exact ⟨rfl, harrived.symm, rfl⟩

theorem takes_read (s : Socket) : s.Takes (s.turn? .reads) s.read := by
  unfold read turn?
  cases harrived : s.arrived with
  | nil => simpa using (⟨rfl, rfl, rfl⟩ : s.Takes none s)
  | cons a rest =>
    dsimp only
    split
    · split
      · exact takes_receive harrived
      · exact takes_discard harrived
      · next hopen hclosing => exact (‹_ ∨ _›.elim hopen hclosing).elim
    · next hphase =>
      split
      · next hopen => exact absurd (.inl hopen) hphase
      · next hclosing => exact absurd (.inr hclosing) hphase
      · exact ⟨rfl, rfl, rfl⟩

theorem takes_serve (hp : s.phase = .open) (failure : Option String) :
    s.Takes (s.turn? (.serves failure)) (s.serve failure) := by
  unfold serve turn?
  dsimp only
  rw [if_pos hp]
  cases hqueue : s.queue with
  | nil =>
    dsimp only
    split <;> exact ⟨rfl, rfl, rfl⟩
  | cons c rest =>
    cases c with
    | close => exact ⟨rfl, rfl, hqueue.symm⟩
    | send text => cases failure <;> exact ⟨rfl, rfl, hqueue.symm⟩

/-- A step by which nothing comes and nothing is asked takes what its turn handles. -/
theorem takes_step (s : Socket) {step : SocketStep} (harrival : step.arrival? = none)
    (hcommand : step.command? = none) : s.Takes (s.turn? step) (s.step step) := by
  have hsame : s.Takes none s := ⟨rfl, rfl, rfl⟩
  cases step with
  | tells =>
    simp only [Socket.step]
    split
    · next e hp => exact s.takes_handOver e
    · exact hsame
  | takes =>
    simp only [Socket.step]
    split <;> exact ⟨rfl, rfl, rfl⟩
  | answered result =>
    simp only [Socket.step, turn?]
    split
    · exact s.takes_attempt result
    · exact hsame
  | arrives a => cases harrival
  | reads => exact s.takes_read
  | serves failure =>
    by_cases hp : s.phase = .open
    · simpa only [Socket.step, if_pos hp] using s.takes_serve hp failure
    · simpa only [Socket.step, turn?, if_neg hp] using hsame
  | drained =>
    simp only [Socket.step]
    split <;> exact ⟨rfl, rfl, rfl⟩
  | asks c => cases hcommand
  | released => exact ⟨rfl, rfl, rfl⟩
  | unheard => exact ⟨rfl, rfl, rfl⟩
  | noticed =>
    simp only [Socket.step]
    split <;> exact ⟨rfl, rfl, rfl⟩
  | left =>
    simp only [Socket.step]
    split <;> exact ⟨rfl, rfl, rfl⟩

theorem filterMap_toList {α β : Type} (f : α → Option β) (o : Option α) :
    o.toList.filterMap f = (o.bind f).toList := by
  cases o with
  | none => rfl
  | some a => cases hf : f a <;> simp [hf]

/-- The obstacle to a connection stays. -/
theorem obstacle_step (s : Socket) (step : SocketStep) :
    (s.step step).obstacle = s.obstacle := by
  cases step with
  | asks c => simp only [Socket.step]; split <;> rfl
  | arrives a => rfl
  | _ => exact (s.takes_step rfl rfl).obstacle

theorem obstacle_run (s : Socket) (steps : List SocketStep) :
    (s.run steps).obstacle = s.obstacle := by
  induction steps generalizing s with
  | nil => rfl
  | cons step rest ih => exact (ih (s.step step)).trans (s.obstacle_step step)

/-- What comes waits at the end, and the frame that is handled is the eldest. -/
theorem arrived_step (s : Socket) (step : SocketStep) :
    ((s.turn? step).bind (·.arrival?)).toList ++ (s.step step).arrived =
      s.arrived ++ step.arrival?.toList := by
  cases step with
  | asks c => simp only [Socket.step]; split <;> exact (List.append_nil _).symm
  | arrives a => rfl
  | _ => exact (s.takes_step rfl rfl).arrived.trans (List.append_nil _).symm

/-- **Frames are handled in the order in which they come, and none is lost or repeated.** -/
theorem arrived_run (s : Socket) (steps : List SocketStep) :
    (s.handles steps).filterMap (·.arrival?) ++ (s.run steps).arrived =
      s.arrived ++ steps.filterMap (·.arrival?) := by
  induction steps generalizing s with
  | nil => simp [handles, Socket.run]
  | cons step rest ih =>
    have hrun : (s.run (step :: rest)).arrived = ((s.step step).run rest).arrived := rfl
    have hcome : (step :: rest).filterMap (·.arrival?) =
        step.arrival?.toList ++ rest.filterMap (·.arrival?) := by
      cases harrival : step.arrival? <;> simp [harrival]
    rw [handles, List.filterMap_append, List.append_assoc, hrun, ih, filterMap_toList, hcome,
      ← List.append_assoc, ← List.append_assoc, arrived_step]

/-- A wish waits at the end, unless the task has finished, and the one that is met is the
eldest. -/
theorem queue_step (s : Socket) (step : SocketStep) :
    (((s.turn? step).bind (·.command?)).toList ++ (s.step step).queue).Sublist
      (s.queue ++ step.command?.toList) := by
  have htakes (harrival : step.arrival? = none) (hcommand : step.command? = none) :
      (((s.turn? step).bind (·.command?)).toList ++ (s.step step).queue).Sublist
        (s.queue ++ step.command?.toList) := by
    rw [(s.takes_step harrival hcommand).queue]
    exact List.sublist_append_left _ _
  cases step with
  | asks c =>
    simp only [Socket.step, turn?]
    split
    · exact List.sublist_append_left _ _
    · exact .refl _
  | arrives a => exact List.sublist_append_left _ _
  | _ => exact htakes rfl rfl

/-- **Wishes are met in the order in which they are asked, each at most once.** -/
theorem queue_run (s : Socket) (steps : List SocketStep) :
    ((s.handles steps).filterMap (·.command?) ++ (s.run steps).queue).Sublist
      (s.queue ++ steps.filterMap (·.command?)) := by
  induction steps generalizing s with
  | nil => simp [handles, Socket.run]
  | cons step rest ih =>
    have hrun : (s.run (step :: rest)).queue = ((s.step step).run rest).queue := rfl
    have hask : (step :: rest).filterMap (·.command?) =
        step.command?.toList ++ rest.filterMap (·.command?) := by
      cases hcommand : step.command? <;> simp [hcommand]
    rw [handles, List.filterMap_append, List.append_assoc, hrun, filterMap_toList, hask,
      ← List.append_assoc s.queue]
    refine ((ih (s.step step)).append_left _).trans ?_
    rw [← List.append_assoc]
    exact (s.queue_step step).append_right _

/-! ## The protocol -/

/-- What is handled is handled in a step of the run. -/
theorem mem_handles {steps : List SocketStep} (ht : t ∈ s.handles steps) :
    ∃ before, ∃ step ∈ steps, (s.run before).turn? step = some t := by
  induction steps generalizing s with
  | nil => cases ht
  | cons step rest ih =>
    rcases List.mem_append.mp ht with ht | ht
    · exact ⟨[], step, List.mem_cons_self, Option.mem_toList.mp ht⟩
    · obtain ⟨before, later, hmem, hturn⟩ := ih ht
      exact ⟨step :: before, later, List.mem_cons_of_mem _ hmem, hturn⟩

/-- A connection that was opened met no obstacle, and the other side answered. -/
theorem answered_of_attempted {steps : List SocketStep}
    (ht : .attempted (.ok ()) ∈ s.handles steps) :
    s.obstacle = none ∧ .answered (.ok ()) ∈ steps := by
  obtain ⟨before, step, hmem, hturn⟩ := mem_handles ht
  unfold turn? at hturn
  split at hturn
  · next result =>
    split at hturn
    · have hout : (s.run before).outcome result = .ok () := by simpa using hturn
      unfold outcome at hout
      rw [obstacle_run] at hout
      split at hout
      · cases hout
      · next hnone => exact ⟨hnone, hout ▸ hmem⟩
    · cases hturn
  · split at hturn
    · simp at hturn
    · cases hturn
  · split at hturn
    · split at hturn
      · cases hturn
      · split at hturn <;> cases hturn
    · cases hturn
  · cases hturn

/-- Nothing is told once the task has finished. -/
theorem step_of_finished (hp : s.phase = .finished) (step : SocketStep) :
    (s.step step).phase = .finished ∧ (s.step step).events = s.events := by
  cases step with
  | reads =>
    simp only [Socket.step, Socket.read]
    split
    · exact ⟨hp, rfl⟩
    · rw [hp]; exact ⟨hp, rfl⟩
  | takes => simp only [Socket.step]; split <;> exact ⟨hp, rfl⟩
  | _ => simp [Socket.step, hp]

theorem run_of_finished (hp : s.phase = .finished) (steps : List SocketStep) :
    (s.run steps).events = s.events := by
  induction steps generalizing s with
  | nil => rfl
  | cons step rest ih =>
    obtain ⟨hp', hevents⟩ := step_of_finished hp step
    exact (ih hp').trans hevents

/-- **A socket follows its protocol**, whatever order the other side, the holder and the listener
move in.  What the listener has been told is the account of what the task has handled, but for
one event that waits, and it can only fall short of that when the task ends because nobody
listens; of the frames that came, the task has handled the eldest, each once, and of the wishes
too.  A last event ends all telling, and it is told by the time a task with a listener finishes.
Texts can be sent only while the connection is open: after the other side has answered, and
before the last event. -/
theorem follows_protocol (url : String) (token : Option String) (steps more : List SocketStep) :
    let fresh := connect url token
    let s := fresh.run steps
    let turns := fresh.handles steps
    (s.events ++ s.owed = account turns ∨
      s.phase = .finished ∧ s.heard = false ∧ s.events <+: account turns) ∧
    turns.filterMap (·.arrival?) ++ s.arrived = steps.filterMap (·.arrival?) ∧
    (turns.filterMap (·.command?) ++ s.queue).Sublist (steps.filterMap (·.command?)) ∧
    (∀ e ∈ s.events.dropLast, e.isLast = false) ∧
    (s.phase = .finished → s.heard = true → ∃ e ∈ s.events.getLast?, e.isLast = true) ∧
    (∀ e ∈ s.events, e.isLast = true → (s.run more).events = s.events) ∧
    (s.isConnected = true → .answered (.ok ()) ∈ steps ∧ obstacle? url token = none ∧
      turns.head? = some (.attempted (.ok ())) ∧ ∀ e ∈ s.events, e.isLast = false) ∧
    ∀ text, (∃ s', s.sendText text = .ok s') ↔ s.isConnected = true := by
  intro fresh s turns
  have h : s.Accounts turns := accounts_connect url token steps
  refine ⟨h.told, arrived_run fresh steps, queue_run fresh steps, ?_, ?_, ?_, ?_, ?_⟩
  · intro e he
    obtain ⟨rest, hrest⟩ := h.prefix_account
    refine h.handled.whole.isLast_dropLast (hrest ▸ ?_)
    rw [List.dropLast_append]
    split
    · exact he
    · exact List.mem_append_left _ (List.dropLast_subset _ he)
  · intro hp hh
    obtain ⟨e, hends⟩ := h.done hp hh
    obtain ⟨hlast, before, haccount, -⟩ := account_of_endsWith hends
    have htold : s.events ++ [] = account turns := by
      simpa only [owed, hp] using h.told_of_heard hh
    refine ⟨e, ?_, hlast⟩
    rw [← List.append_nil s.events, htold, haccount]
    simp
  · exact fun e he hlast => run_of_finished (h.finished_of_isLast he hlast) more
  · intro hlive
    have hopened : Opened turns := h.handled.opened (h.live ▸ hlive)
    obtain ⟨rest, hturns, hrest⟩ := hopened
    have hmem : .attempted (.ok ()) ∈ fresh.handles steps := by
      rw [show fresh.handles steps = _ from hturns]
      exact List.mem_cons_self
    have hanswered := answered_of_attempted hmem
    exact ⟨hanswered.2, hanswered.1, by rw [hturns]; rfl,
      fun e he => isLast_of_opened ⟨rest, hturns, hrest⟩ (h.prefix_account.subset he)⟩
  · intro text
    have hstopped (hlive : s.isConnected = true) : s.phase ≠ .finished := fun hp => by
      rw [h.live, hp] at hlive; cases hlive
    unfold sendText
    cases hlive : s.isConnected with
    | false => simp
    | true => simp [hstopped hlive]

/-- A run in which a close is asked for while a frame waits to be read. -/
def talkative : List SocketStep :=
  [.tells, .answered (.ok ()), .tells, .arrives (.text "Hi"), .asks (.send "Hello"),
    .arrives (.binary [0xFF]), .reads, .takes, .tells, .serves none, .asks .close]

theorem follows_protocol_talkative :
    let fresh := connect "ws://[::1]:9/ws" (some "key")
    let s := fresh.run talkative
    let last := fresh.run (talkative ++ [.serves none, .reads, .drained, .tells])
    s.isConnected = true ∧ (∃ s', s.sendText "Hello" = .ok s') ∧ (∀ e ∈ s.events, e.isLast = false) ∧
    s.arrived = [.binary [0xFF]] ∧
    last.events = [.connecting, .connected, .message "Hi", .disconnected] ∧
    (last.run [.arrives (.text "Bye"), .reads, .tells]).events = last.events := by
  intro fresh s last
  have hlive : s.isConnected = true := by decide
  have hevents : last.events = [.connecting, .connected, .message "Hi", .disconnected] := by decide
  obtain ⟨-, -, -, -, -, -, hopen, hsend⟩ :=
    follows_protocol "ws://[::1]:9/ws" (some "key") talkative []
  obtain ⟨-, -, -, -, -, hend, -⟩ := follows_protocol "ws://[::1]:9/ws" (some "key")
    (talkative ++ [.serves none, .reads, .drained, .tells])
    [.arrives (.text "Bye"), .reads, .tells]
  exact ⟨hlive, (hsend "Hello").mpr hlive, (hopen hlive).2.2.2, by decide, hevents,
    hend .disconnected (by rw [hevents]; decide) rfl⟩

end Socket
end OfflineChat
