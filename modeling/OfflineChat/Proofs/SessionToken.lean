import OfflineChat.Account
import OfflineChat.Http.Wire
import OfflineChat.Proofs.PreferenceFiles
import OfflineChat.Proofs.ResourceAddresses

/-! # The token follows the session

The token of a user is in three places: in the file of the session, in the session
in memory, and in the client that all its clones share.  A run puts operations on the
account and calls of the client one after the other (`Account.Step`); a login counts
as two steps, since others can come between its request and the answer to it.  One
step preserves `Account.InStep`: the client has no token or that of the session
(`Account.Busy.InStep.apply`).  So it holds after every run, and from there an
operation changes all three places or none of them (`Account.Settles`), and a request
shows the token that the client has when it is sent.
-/
namespace OfflineChat

/-! ## The head of a request -/

namespace HttpRequest

/-- The line of a head that vouches for the sender. -/
def authorization (token : String) : String := "authorization: Bearer " ++ token

theorem authorization_inj {t t' : String} (h : authorization t = authorization t') : t = t' := by
  unfold authorization at h
  simpa using h

/-- No other line of a head begins as that one does. -/
theorem authorization_ne {line : String} {t : String} (h : line.toList.take 2 ≠ ['a', 'u']) :
    authorization t ≠ line := by
  intro heq
  rw [← heq] at h
  unfold authorization at h
  simp at h

/-- The lines about the content do not vouch for anyone. -/
theorem authorization_notMem_content (r : HttpRequest) (content : Option (String × ByteArray))
    (t : String) : authorization t ∉ (match content with
      | some (kind, octets) =>
        ["content-type: " ++ kind, "content-length: " ++ toString octets.size]
      | none => if r.method = HttpMethod.post then ["content-length: 0"] else []) := by
  cases content with
  | some c =>
    obtain ⟨kind, octets⟩ := c
    simp only [List.mem_cons, List.not_mem_nil, or_false, not_or]
    exact ⟨authorization_ne (by simp), authorization_ne (by simp)⟩
  | none =>
    dsimp only
    split
    · rw [List.mem_singleton]
      exact authorization_ne (by simp)
    · exact List.not_mem_nil

/-- **A request shows a token exactly if it bears it.** -/
theorem authorization_mem_headLines (r : HttpRequest) (content : Option (String × ByteArray))
    (t : String) : authorization t ∈ r.headLines content ↔ r.bearer = some t := by
  have hmethod : authorization t ≠ r.method.name ++ " " ++ r.url.target ++ " HTTP/1.1" := by
    refine authorization_ne ?_
    cases r.method <;> simp [HttpMethod.name]
  have hfixed : authorization t ∉ [r.method.name ++ " " ++ r.url.target ++ " HTTP/1.1",
      "host: " ++ r.hostText, "user-agent: " ++ r.userAgent, "accept: */*", "connection: close"] := by
    simp only [List.mem_cons, List.not_mem_nil, or_false, not_or]
    exact ⟨hmethod, authorization_ne (by simp), authorization_ne (by simp),
      authorization_ne (by simp), authorization_ne (by simp)⟩
  have hbearer : authorization t ∈ (r.bearer.map authorization).toList ↔ r.bearer = some t := by
    rw [Option.mem_toList, Option.map_eq_some_iff]
    exact ⟨fun ⟨t', ht, heq⟩ => authorization_inj heq ▸ ht, fun h => ⟨t, h, rfl⟩⟩
  unfold headLines
  rw [List.mem_append, List.mem_append]
  constructor
  · rintro ((h | h) | h)
    · exact absurd h hfixed
    · exact hbearer.mp h
    · exact absurd h (authorization_notMem_content r content t)
  · exact fun h => .inl (.inr (hbearer.mpr h))

end HttpRequest

/-! ## Steps -/

/-- A link that notes the requests it is given. -/
def Link.noted {σ : Type} (link : Link σ) : Link (σ × List HttpRequest) := fun r s =>
  ((link r s.1).1, (link r s.1).2, s.2 ++ [r])

/-- A call of the client, or of a clone of it. -/
inductive ApiCall where
  /-- A request about one chat or one file; what is downloaded goes to a path. -/
  | about (k : ResourceRequest) (id : String) (path : Path)
  | general (g : GeneralRequest)

namespace Account

variable {σ α : Type}

/-- The token of the client. -/
def token (a : Account σ) : Option String := a.connection.client.token

/-- The account after a call at a time. -/
def afterCall (link : Link σ) (now : Int) (a : Account σ) : ApiCall → Account σ
  | .about .downloadFile id path =>
    let (_, d, c) := Connection.downloadFile link a.disk id path a.connection
    { a with connection := c, disk := d }
  | .about k id path => { a with connection := k.after link now a.disk path id a.connection }
  | .general g => { a with connection := g.after link now a.disk a.connection }

/-- A step of a run. -/
inductive Step where
  | restore (now : Int)
  /-- A login asks the server. -/
  | asks (email password : String)
  /-- A login takes up the answer to it, one of those that have come. -/
  | concludes (i : Nat) (t : Trouble)
  | logout (t : Trouble)
  | calls (now : Int) (call : ApiCall)

/-- An account whose link notes the requests, and the answers that no login has taken up yet. -/
structure Busy (σ : Type) where
  account : Account (σ × List HttpRequest)
  answers : List (Except Failure SignIn)

namespace Busy

/-- The requests that were sent. -/
def requests (s : Busy σ) : List HttpRequest := s.account.connection.link.2

/-- What a step leaves. -/
def apply (link : Link σ) (s : Busy σ) : Step → Busy σ
  | .restore now => { s with account := (s.account.restore now).2 }
  | .asks email password =>
    let (answer, c) := Connection.signIn link.noted email password s.account.connection
    ⟨{ s.account with connection := c }, s.answers ++ [answer]⟩
  | .concludes i t => match s.answers[i]? with
    | none => s
    | some answer => ⟨(conclude answer t s.account).2, s.answers.eraseIdx i⟩
  | .logout t => { s with account := (logout t s.account).2 }
  | .calls now call => { s with account := s.account.afterCall link.noted now call }

/-- What steps leave. -/
def after (link : Link σ) (s : Busy σ) (steps : List Step) : Busy σ := steps.foldl (apply link) s

end Busy
end Account

/-! ## What a sign-in and a download do -/

namespace Connection

variable {σ : Type} {link : Link σ} {p : Url → Prop}

theorem signIn_sends (link : Link σ) (c : Connection σ) (email password : String) :
    c.Sends link (fun url => c.client.endpoint ["auths", "signin"] = .ok url)
      (signIn link email password c).2 := by
  have hsent := fetch_sends link c SignIn.codec "Sign in" .post ["auths", "signin"]
    (.json (signInForm email password))
  exact hsent

/-- The answer to a sign-in is read from a text. -/
theorem decode_of_signIn {c : Connection σ} {email password : String} {answer : SignIn}
    (h : (signIn link email password c).1 = .ok answer) :
    ∃ text, SignIn.codec.decode text = .ok answer := by
  have hfetch : (fetch link SignIn.codec "Sign in" .post ["auths", "signin"]
      (.json (signInForm email password)) c).1 = .ok answer := by
    unfold signIn at h
    dsimp only at h
    cases hr : (fetch link SignIn.codec "Sign in" .post ["auths", "signin"]
      (.json (signInForm email password)) c).1 with
    | error e =>
      rw [hr] at h
      cases h
    | ok a =>
      rw [hr] at h
      exact h
  unfold fetch at hfetch
  split at hfetch
  · cases hfetch
  · split at hfetch
    · cases hfetch
    · rename_i content _ _
      unfold readContent at hfetch
      dsimp only at hfetch
      split at hfetch
      · cases hfetch
      · split at hfetch
        · rename_i hdecode
          cases hfetch
          exact ⟨_, hdecode⟩
        · cases hfetch

/-- What is noted of an operation has the token of the client. -/
theorem Sends.noted {c c' : Connection (σ × List HttpRequest)} (h : Sends link.noted p c c') :
    ∃ new, c'.link.2 = c.link.2 ++ new ∧ ∀ r ∈ new, r.bearer = c.client.token := by
  obtain rfl | ⟨r, -, hbearer, rfl⟩ := h
  · exact ⟨[], (List.append_nil _).symm, List.forall_mem_nil _⟩
  · refine ⟨[r], rfl, fun r' hr' => ?_⟩
    obtain rfl := List.mem_singleton.mp hr'
    exact hbearer

/-- A download loses no directory. -/
theorem downloadFile_keepsDirectories (link : Link σ) (d : Disk) (fileId : String) (path : Path)
    (c : Connection σ) : d.KeepsDirectories (downloadFile link d fileId path c).2.1 := by
  unfold downloadFile
  split
  · exact .refl d
  · rename_i content _ _
    show d.KeepsDirectories (saveContent d path content).2
    have hput (part : ByteArray) (h : d.refusal? path .isDirectory = none) :
        d.KeepsDirectories (d.put path (.file part)) :=
      (Disk.sameBut_put d path _).keepsDirectories (Disk.refusal?_eq_none h).2.2.1
    unfold saveContent
    obtain ⟨e, hwrite⟩ | ⟨hfree, ⟨e, part, hwrite⟩ | hwrite⟩ :=
      Disk.write_cases d path content.octets none
    · rw [hwrite]
      exact .refl d
    · rw [hwrite]
      exact hput part hfree
    · rw [hwrite]
      dsimp only
      split <;> exact hput _ hfree

end Connection

/-! ## What one operation does -/

namespace Account

open Preferences (Housed openAt fileText)

variable {σ α : Type} {path : Path} {a : Account σ}

/-- **The client has no token or that of the session**, and the session has its file where it was
opened. -/
structure InStep (path : Path) (a : Account σ) : Prop where
  token : a.token = none ∨ a.token = a.session.value.token
  place : a.session.path = path
  housed : Housed a.disk path

/-- An operation on an account is done, and the file holds the session; or it fails, and the token,
the session and its file are as they were. -/
structure Settles (path : Path) (a : Account σ) (r : Except Failure α × Account σ) : Prop where
  done : ∀ x, r.1 = .ok x → r.2.token = r.2.session.value.token ∧
    openAt AuthSession.kind r.2.disk path = .ok (r.2.disk, ⟨path, r.2.session.value, 0⟩)
  failed : ∀ e, r.1 = .error e → r.2.token = a.token ∧ r.2.session = a.session ∧
    r.2.disk.look path = a.disk.look path

/-- Another link makes no difference. -/
theorem InStep.withConnection (h : a.InStep path) {c : Connection σ}
    (hclient : c.client = a.connection.client) :
    ({ a with connection := c } : Account σ).InStep path where
  token := by
    show c.client.token = none ∨ c.client.token = a.session.value.token
    rw [hclient]
    exact h.token
  place := h.place
  housed := h.housed

theorem InStep.withDisk (h : a.InStep path) {d : Disk} (hd : a.disk.KeepsDirectories d) :
    ({ a with disk := d } : Account σ).InStep path :=
  ⟨h.token, h.place, h.housed.keep hd⟩

/-- **The answer to a sign-in is taken up in all places, or in none.** -/
theorem InStep.conclude (h : a.InStep path) {answer : Except Failure SignIn}
    (hfits : ∀ x, answer = .ok x → (AuthSession.ofSignIn x).Fits) (t : Trouble) :
    a.Settles path (conclude answer t a) ∧ (conclude answer t a).2.InStep path := by
  cases answer with
  | error e => exact ⟨⟨nofun, fun _ _ => ⟨rfl, rfl, rfl⟩⟩, h⟩
  | ok x =>
    unfold Account.conclude
    dsimp only
    obtain ⟨d, hkeep, ⟨⟨e, hupdate⟩, hlook⟩ | ⟨hupdate, hlook⟩⟩ :=
      Preferences.update_cases AuthSession.kind a.disk a.session (fun _ => .ofSignIn x) t
    · rw [hupdate]
      rw [h.place] at hlook
      exact ⟨⟨nofun, fun _ _ => ⟨rfl, rfl, hlook⟩⟩, h.withDisk hkeep⟩
    · rw [hupdate]
      rw [h.place] at hlook
      have hhoused := h.housed.keep hkeep
      have hload := Preferences.load_of_text hlook (AuthSession.decode_fileText (hfits x rfl))
      refine ⟨⟨fun _ _ => ⟨rfl, ?_⟩, nofun⟩, ⟨.inr rfl, h.place, hhoused⟩⟩
      refine (Preferences.openAt_of_housed hhoused).trans ?_
      rw [hload]
      rfl

/-- **A session is forgotten in all places, or in none.** -/
theorem InStep.logout (h : a.InStep path) (t : Trouble) :
    a.Settles path (logout t a) ∧ (logout t a).2.InStep path := by
  unfold Account.logout
  obtain ⟨d, hkeep, ⟨⟨e, hreset⟩, hlook⟩ | ⟨hreset, hlook⟩⟩ :=
    Preferences.reset_cases AuthSession.kind a.disk a.session t
  · rw [hreset]
    rw [h.place] at hlook
    exact ⟨⟨nofun, fun _ _ => ⟨rfl, rfl, hlook⟩⟩, h.withDisk hkeep⟩
  · rw [hreset]
    rw [h.place] at hlook
    have hhoused := h.housed.keep hkeep
    refine ⟨⟨fun _ _ => ⟨rfl, ?_⟩, nofun⟩, ⟨.inl rfl, h.place, hhoused⟩⟩
    refine (Preferences.openAt_of_housed hhoused).trans ?_
    rw [Preferences.load_of_absent hlook]
    rfl

/-- **A login settles**, whatever the server answers. -/
theorem InStep.login (h : a.InStep path) (link : Link σ) (email password : String) (t : Trouble) :
    a.Settles path (login link email password t a) := by
  have hsent := Connection.signIn_sends link a.connection email password
  have hnext := h.withConnection hsent.client_eq
  have hfits : ∀ x, (Connection.signIn link email password a.connection).1 = .ok x →
      (AuthSession.ofSignIn x).Fits := by
    intro x hx
    obtain ⟨text, htext⟩ := Connection.decode_of_signIn hx
    exact AuthSession.fits_ofSignIn htext
  obtain ⟨hdone, hfailed⟩ := (hnext.conclude hfits t).1
  refine ⟨hdone, fun e he => ?_⟩
  obtain ⟨htoken, hsame⟩ := hfailed e he
  refine ⟨htoken.trans ?_, hsame⟩
  show (Connection.signIn link email password a.connection).2.client.token = a.token
  rw [hsent.client_eq]
  rfl

/-- **A session is taken up if it has a token that has not run out**, and else nothing is done. -/
theorem restore_cases (now : Int) (a : Account σ) :
    (∃ t, a.session.value.token = some t ∧ t ≠ "" ∧ (∀ e ∈ a.session.value.expiresAt, now < e) ∧
        a.restore now = (true, a.withToken (some t))) ∨
      a.restore now = (false, a) := by
  unfold restore
  dsimp only
  split
  · rename_i husable
    left
    obtain ⟨hsigned, hfresh⟩ := Bool.and_eq_true_iff.mp husable
    obtain ⟨t, ht⟩ := Option.isSome_iff_exists.mp hsigned
    obtain ⟨htoken, hne⟩ := Option.filter_eq_some_iff.mp ht
    refine ⟨t, htoken, of_decide_eq_true hne, fun e he => ?_, by rw [htoken]⟩
    unfold AuthSession.isExpired at hfresh
    rw [he] at hfresh
    simpa using hfresh
  · exact .inr rfl

theorem InStep.restore (h : a.InStep path) (now : Int) : (a.restore now).2.InStep path := by
  obtain ⟨t, htoken, -, -, hrestore⟩ | hrestore := restore_cases now a
  · rw [hrestore]
    exact ⟨.inr htoken.symm, h.place, h.housed⟩
  · rw [hrestore]
    exact h

theorem afterCall_sends (link : Link σ) (now : Int) (a : Account σ) (call : ApiCall) :
    ∃ p, a.connection.Sends link p (a.afterCall link now call).connection := by
  cases call with
  | about k id path =>
    refine ⟨fun url => a.connection.client.endpoint (k.segments id) = .ok url, ?_⟩
    have hsent := k.after_sends link now a.disk path id a.connection
    cases k <;> exact hsent
  | general g => exact ⟨_, g.after_sends link now a.disk a.connection⟩

theorem InStep.afterCall (h : a.InStep path) (link : Link σ) (now : Int) (call : ApiCall) :
    (a.afterCall link now call).InStep path := by
  obtain ⟨p, hsent⟩ := afterCall_sends link now a call
  cases call with
  | about k id target =>
    cases k with
    | downloadFile =>
      have hdisk := Connection.downloadFile_keepsDirectories link a.disk id target a.connection
      exact (h.withConnection hsent.client_eq).withDisk hdisk
    | _ => exact h.withConnection hsent.client_eq
  | general g => exact h.withConnection hsent.client_eq

/-! ## Runs -/

namespace Busy

variable {s : Busy σ} {step : Step}

/-- The account is in step, and what the server answered can be kept. -/
structure InStep (path : Path) (s : Busy σ) : Prop where
  account : s.account.InStep path
  answers : ∀ x, .ok x ∈ s.answers → (AuthSession.ofSignIn x).Fits

/-- **One step preserves that the token and the session are in step.** -/
theorem InStep.apply (h : s.InStep path) (link : Link σ) (step : Step) :
    (s.apply link step).InStep path := by
  cases step with
  | restore now => exact ⟨h.account.restore now, h.answers⟩
  | asks email password =>
    have hsent := Connection.signIn_sends link.noted s.account.connection email password
    refine ⟨h.account.withConnection hsent.client_eq, fun x hx => ?_⟩
    rcases List.mem_append.mp hx with hx | hx
    · exact h.answers x hx
    · obtain ⟨text, htext⟩ := Connection.decode_of_signIn (List.mem_singleton.mp hx).symm
      exact AuthSession.fits_ofSignIn htext
  | concludes i t =>
    unfold Busy.apply
    dsimp only
    split
    · exact h
    · rename_i answer hanswer
      have hmem := List.mem_of_getElem? hanswer
      exact ⟨(h.account.conclude (fun x hx => h.answers x (hx ▸ hmem)) t).2,
        fun x hx => h.answers x (List.mem_of_mem_eraseIdx hx)⟩
  | logout t => exact ⟨(h.account.logout t).2, h.answers⟩
  | calls now call => exact ⟨h.account.afterCall link.noted now call, h.answers⟩

/-- A login that nothing comes between is its two steps. -/
theorem login_eq (link : Link σ) (email password : String) (t : Trouble) (s : Busy σ) :
    s.after link [.asks email password, .concludes s.answers.length t] =
      { s with account := (login link.noted email password t s.account).2 } := by
  show Busy.apply link (s.apply link (.asks email password)) (.concludes s.answers.length t) = _
  unfold Busy.apply
  dsimp only
  rw [List.getElem?_concat_length]
  dsimp only
  rw [List.eraseIdx_append_of_length_le (Nat.le_refl _), Nat.sub_self]
  show (⟨_, s.answers ++ []⟩ : Busy σ) = _
  rw [List.append_nil]
  rfl

theorem InStep.after (h : s.InStep path) (link : Link σ) (steps : List Step) :
    (s.after link steps).InStep path := by
  induction steps generalizing s with
  | nil => exact h
  | cons step steps ih => exact ih (h.apply link step)

/-- What is done with the answer to a sign-in sends nothing. -/
theorem link_conclude (answer : Except Failure SignIn) (t : Trouble) (a : Account σ) :
    (conclude answer t a).2.connection.link = a.connection.link := by
  cases answer with
  | error e => rfl
  | ok x =>
    unfold conclude
    dsimp only
    split <;> rfl

theorem link_logout (t : Trouble) (a : Account σ) :
    (logout t a).2.connection.link = a.connection.link := by
  unfold logout
  split <;> rfl

theorem link_restore (now : Int) (a : Account σ) :
    (a.restore now).2.connection.link = a.connection.link := by
  unfold restore
  dsimp only
  split <;> rfl

/-- **The requests of a step have the token of the client.** -/
theorem requests_apply (link : Link σ) (s : Busy σ) (step : Step) :
    ∃ new, (s.apply link step).requests = s.requests ++ new ∧
      ∀ r ∈ new, r.bearer = s.account.token := by
  have hnone {s' : Busy σ} (h : s'.account.connection.link = s.account.connection.link) :
      ∃ new, s'.requests = s.requests ++ new ∧ ∀ r ∈ new, r.bearer = s.account.token :=
    ⟨[], (congrArg Prod.snd h).trans (List.append_nil _).symm, List.forall_mem_nil _⟩
  cases step with
  | restore now => exact hnone (link_restore now s.account)
  | asks email password =>
    exact (Connection.signIn_sends link.noted s.account.connection email password).noted
  | concludes i t =>
    unfold Busy.apply
    dsimp only
    split
    · exact hnone rfl
    · exact hnone (link_conclude _ t s.account)
  | logout t => exact hnone (link_logout t s.account)
  | calls now call =>
    obtain ⟨p, hsent⟩ := afterCall_sends link.noted now s.account call
    exact hsent.noted

end Busy

/-- **The token follows the session** through every run on an account that starts without a token,
whatever the file of the session holds, the server answers and goes wrong with the file. -/
theorem token_follows_session (link : Link σ) {client : HttpClient} (state : σ) {d₀ d : Disk}
    {session : Preferences AuthSession} (htoken : client.token = none)
    (hopen : openAt AuthSession.kind d₀ path = .ok (d, session)) (steps : List Step) :
    let s := Busy.after link ⟨⟨⟨client, (state, [])⟩, session, d⟩, []⟩ steps
    let a := s.account
    (a.token = none ∨ a.token = a.session.value.token) ∧
    (∀ now, (∃ t, a.session.value.token = some t ∧ t ≠ "" ∧
        (∀ e ∈ a.session.value.expiresAt, now < e) ∧
        a.restore now = (true, a.withToken (some t))) ∨ a.restore now = (false, a)) ∧
    (∀ email password t, a.Settles path (login link.noted email password t a)) ∧
    (∀ answer ∈ s.answers, ∀ t, a.Settles path (conclude answer t a)) ∧
    (∀ t, a.Settles path (logout t a)) ∧
    ∀ step, ∃ new, (s.apply link step).requests = s.requests ++ new ∧
      ∀ r ∈ new, ∀ content t, HttpRequest.authorization t ∈ r.headLines content ↔
        a.token = some t := by
  intro s a
  obtain ⟨hhoused, hsession⟩ := Preferences.of_openAt hopen
  have hstart : Busy.InStep path (⟨⟨⟨client, (state, [])⟩, session, d⟩, []⟩ : Busy σ) :=
    ⟨⟨.inl htoken, by rw [hsession], hhoused⟩, nofun⟩
  have hs : s.InStep path := hstart.after link steps
  refine ⟨hs.account.token, fun now => restore_cases now a, hs.account.login link.noted, ?_,
    fun t => (hs.account.logout t).1, fun step => ?_⟩
  · exact fun answer hanswer t =>
      (hs.account.conclude (fun x hx => hs.answers x (hx ▸ hanswer)) t).1
  · obtain ⟨new, hnew, hbearer⟩ := Busy.requests_apply link s step
    refine ⟨new, hnew, fun r hr content t => ?_⟩
    rw [HttpRequest.authorization_mem_headLines, hbearer r hr]

/-- A link to a server that answers every sign-in with the same token. -/
def hospitable : Link Unit := fun _ s =>
  (.answer 200 (.ofUtf8 "\x7b\"token\":\"t\",\"id\":\"u\",\"email\":\"a@b\"\x7d".toUTF8 none), s)

/-- A session that no one has signed in to. -/
def unsigned : Preferences AuthSession := ⟨⟨"cfg/session.json"⟩, AuthSession.initial, 0⟩

/-- A run in which a login is answered after another call. -/
def slowLogin : List Step :=
  [.asks "a@b" "pass", .calls 20 (.general .fetchChats), .concludes 0 .none]

theorem token_follows_session_slowLogin :
    let d : Disk := ⟨Dict.empty.insert "cfg" .directory⟩
    let s := Busy.after hospitable
      ⟨⟨⟨ResourceRequest.localClient, ((), [])⟩, unsigned, d⟩, []⟩ slowLogin
    let busy := { Trouble.none with removing := some "Device busy" }
    openAt AuthSession.kind ⟨.empty⟩ ⟨"cfg/session.json"⟩ = .ok (d, unsigned) ∧
    s.account.session.value.token = some "t" ∧ s.account.token = some "t" ∧
    (logout busy s.account).1 = .error (.disk "Device busy") ∧
    (logout busy s.account).2.token = some "t" ∧
    (logout busy s.account).2.session = s.account.session ∧
    ∃ new, (s.apply hospitable (.calls 30 (.general .fetchChats))).requests = s.requests ++ new ∧
      ∀ r ∈ new, HttpRequest.authorization "t" ∈ r.headLines none := by
  intro d s busy
  have hopen : openAt AuthSession.kind ⟨.empty⟩ ⟨"cfg/session.json"⟩ = .ok (d, unsigned) := rfl
  have hsession : s.account.session.value.token = some "t" := by decide +kernel
  have htoken : s.account.token = some "t" := by decide +kernel
  have hbusy : (logout busy s.account).1 = .error (.disk "Device busy") := by decide +kernel
  have hclient : ResourceRequest.localClient.token = none := rfl
  obtain ⟨-, -, -, -, hlogout, hsent⟩ :=
    token_follows_session hospitable () hclient hopen slowLogin
  obtain ⟨hsame, hkept, -⟩ := (hlogout busy).failed _ hbusy
  obtain ⟨new, hnew, hshown⟩ := hsent (.calls 30 (.general .fetchChats))
  exact ⟨hopen, hsession, htoken, hbusy, hsame.trans htoken, hkept, new, hnew,
    fun r hr => (hshown r hr none "t").mpr htoken⟩

end Account
end OfflineChat
