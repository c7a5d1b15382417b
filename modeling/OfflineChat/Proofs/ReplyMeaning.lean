import OfflineChat.Proofs.FailureTraces
import OfflineChat.Proofs.ResourceAddresses
import OfflineChat.Proofs.SnapshotEffect

/-! # What replies mean

Whatever comes back for a request has one meaning (`HttpReply.Means`).  Silence, and
content that breaks off, are a failure of the network; a status of refusal is the
failure that the request has for it; and of the rest, a text that holds an answer is
that answer, and any other text has the wrong shape.  The requests differ in two
things only: which statuses stand for something else, and which texts hold an answer.

All exchanges are made of one, whose outcome is `Connection.exchange_outcome`, and
what is done to its result afterwards changes those two things and nothing else
(`HttpReply.Means.mapError`, `HttpReply.Means.bind`).  A client of the web sends its
requests or cannot for its token, so its failures are all remote, and the store always
has a chat to show for a creation.  The main statement is
`Connection.replies_classified`.
-/
namespace OfflineChat

/-! ## The meaning of a reply -/

namespace HttpReply

/-- What a reply means, where `refused` says what a status of refusal stands for with the text
that follows it, and `holds` which texts hold which answers. -/
inductive Means {α : Type} (refused : Nat → String → Failure) (holds : String → α → Prop) :
    HttpReply → Except Failure α → Prop
  | silence (activity reason : String) :
      Means refused holds (.nothing reason) (.error (.network (activity ++ ": " ++ reason)))
  | refusal {status : Nat} (content : Content) (hstatus : isSuccess status = false) :
      Means refused holds (.answer status content) (.error (refused status content.refusalText))
  | interruption {status : Nat} {content : Content} (activity reason : String)
      (hstatus : isSuccess status = true) (hbroken : content.broken = some reason) :
      Means refused holds (.answer status content) (.error (.network (activity ++ ": " ++ reason)))
  | nonsense {status : Nat} {content : Content} (text : String)
      (hstatus : isSuccess status = true) (hwhole : content.broken = none)
      (hnone : ∀ a, ¬ holds content.text a) :
      Means refused holds (.answer status content) (.error (.payload text))
  | answer {status : Nat} {content : Content} {a : α} (hstatus : isSuccess status = true)
      (hwhole : content.broken = none) (hholds : holds content.text a) :
      Means refused holds (.answer status content) (.ok a)

namespace Means

variable {α β : Type} {refused : Nat → String → Failure} {holds : String → α → Prop}
  {reply : HttpReply} {result : Except Failure α}

/-- Putting other failures in the place of refusals changes the meaning of refusals only. -/
theorem mapError {g : Failure → Failure} (hnetwork : ∀ text, g (.network text) = .network text)
    (hpayload : ∀ text, g (.payload text) = .payload text) (h : reply.Means refused holds result) :
    reply.Means (fun status text => g (refused status text)) holds (result.mapError g) := by
  cases h with
  | silence activity reason =>
    rw [Except.mapError, hnetwork]
    exact .silence activity reason
  | refusal content hstatus => exact .refusal content hstatus
  | interruption activity reason hstatus hbroken =>
    rw [Except.mapError, hnetwork]
    exact .interruption activity reason hstatus hbroken
  | nonsense text hstatus hwhole hnone =>
    rw [Except.mapError, hpayload]
    exact .nonsense text hstatus hwhole hnone
  | answer hstatus hwhole hholds => exact .answer hstatus hwhole hholds

/-- A further step on the answer, which finds fault with its shape or goes on. -/
theorem bind {read : String → Except Reject α} {g : α → Except Failure β}
    (hg : ∀ a e, g a = .error e → ∃ text, e = .payload text)
    (h : reply.Means refused (fun text a => read text = .ok a) result) :
    reply.Means refused (fun text b => ∃ a, read text = .ok a ∧ g a = .ok b) (result.bind g) := by
  cases h with
  | silence activity reason => exact .silence activity reason
  | refusal content hstatus => exact .refusal content hstatus
  | interruption activity reason hstatus hbroken =>
    exact .interruption activity reason hstatus hbroken
  | nonsense text hstatus hwhole hnone =>
    exact .nonsense text hstatus hwhole fun b ⟨a, hread, _⟩ => hnone a hread
  | @answer status content a hstatus hwhole hread =>
    cases hnext : g a with
    | error e =>
      obtain ⟨text, rfl⟩ := hg a e hnext
      rw [Except.bind, hnext]
      refine .nonsense text hstatus hwhole fun b ⟨a', hread', hb⟩ => ?_
      -- the text is read as one value only
      cases hread.symm.trans hread'
      cases hnext.symm.trans hb
    | ok b =>
      rw [Except.bind, hnext]
      exact .answer hstatus hwhole ⟨a, hread, hnext⟩

/-- If refusals stand for remote failures, every failure is remote. -/
theorem isRemote {e : Failure} (hrefused : ∀ status text, (refused status text).isRemote = true)
    (h : reply.Means refused holds (.error e)) : e.isRemote = true := by
  cases h with
  | silence activity reason => rfl
  | refusal content hstatus => exact hrefused _ _
  | interruption activity reason hstatus hbroken => rfl
  | nonsense text hstatus hwhole hnone => rfl

/-- A status of refusal has no other meaning. -/
theorem eq_of_refusal {status : Nat} {content : Content} (hstatus : isSuccess status = false)
    (h : (HttpReply.answer status content).Means refused holds result) :
    result = .error (refused status content.refusalText) := by
  cases h with
  | refusal content _ => rfl
  | interruption activity reason hsuccess hbroken => exact nomatch hstatus.symm.trans hsuccess
  | nonsense text hsuccess hwhole hnone => exact nomatch hstatus.symm.trans hsuccess
  | answer hsuccess hwhole hholds => exact nomatch hstatus.symm.trans hsuccess

end Means
end HttpReply

/-! ## The outcome of an exchange -/

namespace Connection

/-- The outcome of an exchange: a token that fits no head leaves it unsent; else a request goes
out with the token, and the result is what the reply to it means. -/
inductive Outcome {σ α : Type} (link : Link σ) (refused : Nat → String → Failure)
    (holds : String → α → Prop) (c : Connection σ) : Except Failure α × Connection σ → Prop
  | unsent (text : String) (htoken : ¬ ∀ t ∈ c.client.token, fitsHead t = true) :
      Outcome link refused holds c (.error (.network text), c)
  | sent {result : Except Failure α} {r : HttpRequest} {reply : HttpReply} {s : σ}
      (htoken : ∀ t ∈ c.client.token, fitsHead t = true) (hbearer : r.bearer = c.client.token)
      (hreply : link r c.link = (reply, s)) (hmeans : reply.Means refused holds result) :
      Outcome link refused holds c (result, { c with link := s })

namespace Outcome

variable {σ α β : Type} {link : Link σ} {refused refused' : Nat → String → Failure}
  {holds : String → α → Prop} {holds' : String → β → Prop} {c : Connection σ}
  {run : Except Failure α × Connection σ}

/-- What is done to the result is done to the meaning of the reply. -/
theorem map {f : Except Failure α → Except Failure β}
    (hnetwork : ∀ text, f (.error (.network text)) = .error (.network text))
    (hmeans : ∀ reply result, HttpReply.Means refused holds reply result →
      HttpReply.Means refused' holds' reply (f result))
    (h : Outcome link refused holds c run) :
    Outcome link refused' holds' c (f run.1, run.2) := by
  cases h with
  | unsent text htoken =>
    rw [hnetwork]
    exact .unsent text htoken
  | sent htoken hbearer hreply h => exact .sent htoken hbearer hreply (hmeans _ _ h)

theorem mapError {g : Failure → Failure} (hnetwork : ∀ text, g (.network text) = .network text)
    (hpayload : ∀ text, g (.payload text) = .payload text) (h : Outcome link refused holds c run) :
    Outcome link (fun status text => g (refused status text)) holds c
      (run.1.mapError g, run.2) := by
  refine h.map (fun text => ?_) fun _ _ hmeans => hmeans.mapError hnetwork hpayload
  rw [Except.mapError, hnetwork]

theorem bind {read : String → Except Reject α} {g : α → Except Failure β}
    (hg : ∀ a e, g a = .error e → ∃ text, e = .payload text)
    (h : Outcome link refused (fun text a => read text = .ok a) c run) :
    Outcome link refused (fun text b => ∃ a, read text = .ok a ∧ g a = .ok b) c
      (run.1.bind g, run.2) :=
  h.map (fun _ => rfl) fun _ _ hmeans => hmeans.bind hg

/-- If refusals stand for remote failures, every failure is remote. -/
theorem isRemote {e : Failure} (hrefused : ∀ status text, (refused status text).isRemote = true)
    (h : Outcome link refused holds c run) (he : run.1 = .error e) : e.isRemote = true := by
  cases h with
  | unsent text htoken =>
    cases he
    rfl
  | sent htoken hbearer hreply hmeans =>
    cases he
    exact hmeans.isRemote hrefused

end Outcome

variable {σ α : Type} {link : Link σ} {c : Connection σ} {r : HttpRequest}

/-- A request to the web can be sent unless its token fits no head. -/
theorem unsendable?_eq_none_iff (hscheme : r.url.scheme ∈ ["http", "https"]) :
    HttpClient.unsendable? r = none ↔ ∀ t ∈ r.bearer, fitsHead t = true := by
  rw [HttpClient.unsendable?, if_pos hscheme]
  cases r.bearer with
  | none => simp
  | some t => cases h : fitsHead t <;> simp [h]

/-- What a reply of success holds is read from its text. -/
theorem readContent_means {refused : Nat → String → Failure} {status : Nat} (codec : Codec α)
    (activity : String) (content : Content) (hstatus : isSuccess status = true) :
    (HttpReply.answer status content).Means refused (fun text a => codec.decode text = .ok a)
      (readContent codec activity content) := by
  unfold readContent
  cases hbroken : content.broken with
  | some reason => exact .interruption activity reason hstatus hbroken
  | none =>
    dsimp only
    cases hdecode : codec.decode content.text with
    | ok a => exact .answer hstatus hbroken hdecode
    | error cause => exact .nonsense _ hstatus hbroken fun a ha => nomatch hdecode.symm.trans ha

/-- **An exchange whose reply is read**: every exchange is made of it. -/
theorem exchange_outcome (codec : Codec α) (activity : String)
    (hscheme : r.url.scheme ∈ ["http", "https"]) (hbearer : r.bearer = c.client.token) :
    Outcome link .status (fun text a => codec.decode text = .ok a) c
      (match exchange link activity r c with
        | (.error e, c) => (.error e, c)
        | (.ok content, c) => (readContent codec activity content, c)) := by
  have hsendable := unsendable?_eq_none_iff hscheme
  rw [hbearer] at hsendable
  unfold exchange
  cases hreason : HttpClient.unsendable? r with
  | some reason =>
    rw [hreason] at hsendable
    exact .unsent _ fun htoken => nomatch hsendable.mpr htoken
  | none =>
    have htoken := hsendable.mp hreason
    cases hreply : link r c.link with
    | mk reply s =>
      cases reply with
      | nothing reason => exact .sent htoken hbearer hreply (.silence activity reason)
      | answer status content =>
        dsimp only
        by_cases hstatus : isSuccess status = true
        · rw [if_pos hstatus]
          exact .sent htoken hbearer hreply
            (readContent_means codec activity content hstatus)
        · rw [if_neg hstatus]
          exact .sent htoken hbearer hreply
            (.refusal content (Bool.eq_false_iff.mpr hstatus))

end Connection

/-- A text holds a completion whose first choice has an answer. -/
def Completion.Holds (text a : String) : Prop :=
  ∃ completion, Completion.codec.decode text = .ok completion ∧
    completion.choices.head?.map (·.message.content) = some a

/-! ## Below a base on the web -/

namespace HttpClient

variable {client : HttpClient} {top : String}

/-- A client whose addresses are on the web. -/
structure OnWeb (client : HttpClient) : Prop where
  scheme : client.baseUrl.scheme ∈ ["http", "https"]
  path : ∃ dirs, client.baseUrl.path = .rooted (dirs ++ [""])

theorem onWeb_of_readBase {raw : String} (hbase : readBase raw = .ok client.baseUrl)
    (hscheme : client.baseUrl.scheme ∈ ["http", "https"]) : client.OnWeb :=
  ⟨hscheme, path_of_readBase hbase (Url.kind_of_scheme hscheme)⟩

/-- Every address below a name exists, and is on the web. -/
theorem OnWeb.endpoint (h : client.OnWeb) (htop : Url.IsName top) (rest : List String) :
    ∃ url, client.endpoint (top :: rest) = .ok url ∧ url.scheme ∈ ["http", "https"] := by
  obtain ⟨dirs, hpath⟩ := h.path
  exact ⟨_, endpoint_of_isName (Url.kind_of_scheme h.scheme) hpath htop rest, h.scheme⟩

end HttpClient

namespace Connection

variable {σ α : Type} {link : Link σ} {c : Connection σ}

theorem fetch_outcome (link : Link σ) (hweb : c.client.OnWeb) (codec : Codec α)
    (activity : String) (method : HttpMethod) {top : String} (htop : Url.IsName top)
    (rest : List String) (body : HttpBody) :
    Outcome link .status (fun text a => codec.decode text = .ok a) c
      (fetch link codec activity method (top :: rest) body c) := by
  obtain ⟨url, hurl, hscheme⟩ := hweb.endpoint htop rest
  rw [fetch, request_eq hurl]
  exact exchange_outcome codec activity hscheme rfl

/-- The parameter of a search does not change where it goes. -/
theorem search_outcome (hweb : c.client.OnWeb) (text : String) :
    Outcome link .status (fun text a => (Codec.list ChatSummary.codec).decode text = .ok a) c
      (search link text c) := by
  obtain ⟨url, hurl, hscheme⟩ := hweb.endpoint (show Url.IsName "chats" by decide) ["search"]
  rw [search, request_eq hurl]
  exact exchange_outcome _ _ hscheme rfl

/-- What a status of refusal stands for where something was asked for by its id. -/
def refusedAbout (what : String) (status : Nat) (text : String) : Failure :=
  if status = 404 then .notFound what else .status status text

theorem missing_status (what : String) (status : Nat) (text : String) :
    missing what (.status status text) = refusedAbout what status text := by
  unfold missing refusedAbout
  split
  · rename_i heq
    cases heq
    rfl
  · rename_i hother
    rw [if_neg fun h => hother text (by rw [h])]

theorem about_outcome (what : String) {holds : String → α → Prop} {op : ClientOp σ α}
    (h : Outcome link .status holds c (op c)) :
    Outcome link (refusedAbout what) holds c (about what op c) := by
  have hmissing := h.mapError (g := missing what) (fun _ => rfl) fun _ => rfl
  simp only [missing_status] at hmissing
  exact hmissing

theorem firstAnswer_eq_ok_iff {completion : Completion} {text : String} :
    firstAnswer completion = .ok text ↔
      completion.choices.head?.map (·.message.content) = some text := by
  unfold firstAnswer
  split <;> rename_i h <;> simp [h]

theorem complete_outcome (hweb : c.client.OnWeb) (chatId content : String) :
    Outcome link .status Completion.Holds c (complete link chatId content c) := by
  have hfetch := fetch_outcome link hweb Completion.codec "Chat completion" .post
    (show Url.IsName "chat" by decide) ["completions"]
    (.json (CompletionRequest.codec.write (completionRequest c.client.completion chatId content)))
  have hfirst := hfetch.bind (g := firstAnswer) fun completion e he => ?_
  · simp only [firstAnswer_eq_ok_iff] at hfirst
    exact hfirst
  · unfold firstAnswer at he
    split at he <;> cases he
    exact ⟨_, rfl⟩

end Connection

/-! ## The requests of the store -/

namespace ChatRequest

/-- What a status of refusal stands for: where a chat is asked for, its status may say that there
is no such chat. -/
def refused : ChatRequest → Nat → String → Failure
  | .getChat id | .toggle _ id => Connection.refusedAbout ("chat " ++ id)
  | _ => .status

/-- Which texts hold which answers. -/
def Holds (now : Int) : (r : ChatRequest) → String → r.Answer → Prop
  | .sendMessage _ _, text, a => Completion.Holds text a
  | .listModels, text, a => Model.listCodec.decode text = .ok a
  | r, text, a => (r.answerCodec now).decode text = .ok a

theorem isRemote_refused (r : ChatRequest) (status : Nat) (text : String) :
    (r.refused status text).isRemote = true := by
  have habout (what : String) : (Connection.refusedAbout what status text).isRemote = true := by
    unfold Connection.refusedAbout
    split <;> rfl
  cases r with
  | getChat id | toggle f id => exact habout _
  | _ => rfl

end ChatRequest

namespace Connection

variable {σ : Type} {link : Link σ} {c : Connection σ}

/-- **What becomes of a request of the store.** -/
theorem answer_outcome (hweb : c.client.OnWeb) (now : Int) (r : ChatRequest) :
    Outcome link r.refused (r.Holds now) c (answer link now r c) := by
  -- the last segments are of no account: every address below the first one exists
  cases r with
  | getChat id => exact about_outcome _ (fetch_outcome link hweb _ _ _ (by decide) _ _)
  | toggle f id => exact about_outcome _ (fetch_outcome link hweb _ _ _ (by decide) _ _)
  | sendMessage id content => exact complete_outcome hweb id content
  | searchChats text => exact search_outcome hweb text
  | _ => exact fetch_outcome link hweb _ _ _ (by decide) _ _

/-- What a status of refusal says of credentials. -/
def refusedCredentials (status : Nat) (text : String) : Failure :=
  if status ∈ [400, 401, 403] then
    .authentication (if text = "" then "sign in rejected with status " ++ toString status else text)
  else .status status text

theorem isRemote_refusedCredentials (status : Nat) (text : String) :
    (refusedCredentials status text).isRemote = true := by
  unfold refusedCredentials
  split <;> rfl

theorem signIn_outcome (link : Link σ) (hweb : c.client.OnWeb) (email password : String) :
    Outcome link refusedCredentials (fun text a => SignIn.codec.decode text = .ok a) c
      (signIn link email password c) := by
  have hfetch := fetch_outcome link hweb SignIn.codec "Sign in" .post
    (show Url.IsName "auths" by decide) ["signin"] (.json (signInForm email password))
  exact hfetch.mapError (g := refusedSignIn) (fun _ => rfl) fun _ => rfl

/-- Only a status that is about credentials makes a failed sign-in one of authentication. -/
theorem Outcome.status_of_authentication {holds : String → SignIn → Prop}
    {run : Except Failure SignIn × Connection σ} {text : String}
    (h : Outcome link refusedCredentials holds c run)
    (hrun : run.1 = .error (.authentication text)) :
    ∃ r status content, (link r c.link).1 = .answer status content ∧
      status ∈ [400, 401, 403] := by
  cases h with
  | unsent text htoken => cases hrun
  | @sent result r reply s htoken hbearer hreply hmeans =>
    cases hmeans with
    | @refusal status content hstatus =>
      refine ⟨r, status, content, congrArg Prod.fst hreply, ?_⟩
      by_contra hother
      rw [refusedCredentials, if_neg hother] at hrun
      cases hrun
    | _ => cases hrun

end Connection

/-! ## Creating a chat -/

namespace Store

variable {σ : Type} {api : ServerApi σ} {s : Store σ} {title : Option String}

/-- A chat that the server creates is cached. -/
theorem createChat_eq_of_answer {chat : Chat}
    (h : s.ask api (.createChat (s.chosenTitle title)) =
      (.ok chat, (s.ask api (.createChat (s.chosenTitle title))).2)) :
    s.createChat api title = (.ok (.ofChat chat),
      (s.ask api (.createChat (s.chosenTitle title))).2.commit
        (s.cache.upsertChat (.ofChat chat))) := by
  unfold createChat
  dsimp only
  rw [h]
  rfl

/-- **A creation ends with a chat in the cache**, the server's or one of this device, if the server
fails remotely only. -/
theorem createChat_caches
    (hremote : ∀ e, s.Fails api (.createChat (s.chosenTitle title)) e → e.isRemote = true) :
    let request := ChatRequest.createChat (s.chosenTitle title)
    let run := s.createChat api title
    (∃ chat, (api.answer request s.server s.surroundings).1 = .ok chat ∧
      run.1 = .ok (.ofChat chat) ∧
      run.2.cache = s.cache.putChat (.ofChat (.ofChat chat)) ∧
      run.2.cache.chat? chat.id = some (.ofChat chat)) ∨
    ∃ e, s.Fails api request e ∧
      let world := s.worldAfter api request
      let row := CachedChat.onDevice world.draw.1 (s.chosenTitle title) world.now
      run.1 = .error (.offlineFallback row.id e.message) ∧
      run.2.cache = s.cache.putChat (.ofChat row) ∧
      run.2.cache.chat? row.id = some row := by
  intro request run
  cases hanswer : (api.answer request s.server s.surroundings).1 with
  | ok chat =>
    have hrun : run = _ := createChat_eq_of_answer (Prod.ext hanswer rfl)
    rw [hrun]
    exact .inl ⟨chat, rfl, rfl, rfl, Cache.chat?_putChat _ (.ofChat chat)⟩
  | error e =>
    have hrun : run = _ := createChat_eq_of_remote hanswer (hremote e hanswer)
    rw [hrun]
    exact .inr ⟨e, hanswer, rfl, rfl, Cache.chat?_putChat _ _⟩

end Store

/-! ## The main result -/

namespace Connection

/-- **Replies are classified by what they are.**  Over every link, a client below a base on the web
either cannot send a request for its token, which is a failure of the network, or the result is
what the reply to the request means: for the requests of the store, 404 says that a chat is not
found if the chat is asked for or one of its flags is flipped; for a sign-in, 400, 401 and 403 are
failures of authentication, and nothing else is.  All failures are remote.  So a store that creates
a chat over the connection caches the server's chat, or caches one of this device and names it. -/
theorem replies_classified {raw : String} {σ : Type} {c : Connection σ}
    (hbase : HttpClient.readBase raw = .ok c.client.baseUrl)
    (hscheme : c.client.baseUrl.scheme ∈ ["http", "https"]) (link : Link σ) :
    (∀ (now : Int) (r : ChatRequest),
      Outcome link r.refused (r.Holds now) c (answer link now r c)) ∧
    (∀ (now : Int) (r : ChatRequest) (e : Failure),
      (answer link now r c).1 = .error e → e.isRemote = true) ∧
    (∀ (s : Store (Connection σ)) (title : Option String), s.server = c →
      let request := ChatRequest.createChat (s.chosenTitle title)
      let run := s.createChat (api link) title
      (∃ chat, (answer link s.surroundings.now request c).1 = .ok chat ∧
        run.1 = .ok (.ofChat chat) ∧
        run.2.cache = s.cache.putChat (.ofChat (.ofChat chat)) ∧
        run.2.cache.chat? chat.id = some (.ofChat chat)) ∨
      ∃ e, (answer link s.surroundings.now request c).1 = .error e ∧
        let row := CachedChat.onDevice s.surroundings.draw.1 (s.chosenTitle title)
          s.surroundings.now
        run.1 = .error (.offlineFallback row.id e.message) ∧
        run.2.cache = s.cache.putChat (.ofChat row) ∧
        run.2.cache.chat? row.id = some row) ∧
    ∀ email password : String,
      Outcome link refusedCredentials (fun text a => SignIn.codec.decode text = .ok a) c
        (signIn link email password c) ∧
      (∀ e, (signIn link email password c).1 = .error e → e.isRemote = true) ∧
      ∀ text, (signIn link email password c).1 = .error (.authentication text) →
        ∃ r status content, (link r c.link).1 = .answer status content ∧
          status ∈ [400, 401, 403] := by
  have hweb := HttpClient.onWeb_of_readBase hbase hscheme
  have hremote (now : Int) (r : ChatRequest) (e : Failure) :
      (answer link now r c).1 = .error e → e.isRemote = true :=
    (answer_outcome hweb now r).isRemote r.isRemote_refused
  refine ⟨answer_outcome hweb, hremote, ?_, fun email password => ?_⟩
  · rintro s title rfl
    -- the store meets the failures of its server only, and these are remote
    have hfails (e : Failure)
        (he : s.Fails (api link) (.createChat (s.chosenTitle title)) e) : e.isRemote = true :=
      hremote s.surroundings.now (.createChat (s.chosenTitle title)) e he
    exact Store.createChat_caches hfails
  · have houtcome := signIn_outcome link hweb email password
    exact ⟨houtcome, fun e => houtcome.isRemote isRemote_refusedCredentials,
      fun text => houtcome.status_of_authentication⟩

/-- A link to a server that has nothing, and breaks off after saying so. -/
def emptyHanded : Link Unit := fun _ s =>
  (.answer 404 (.ofUtf8 .empty (some "connection closed")), s)

/-- A connection over it, and a store with the connection. -/
def emptyHandedConnection : Connection Unit := ⟨ResourceRequest.localClient, ()⟩

def emptyHandedStore : Store (Connection Unit) where
  cache := .fresh
  server := emptyHandedConnection
  surroundings := ⟨20, fun _ => "new", 0⟩
  defaultTitle := Store.usualTitle
  trace := []

theorem Outcome.of_emptyHanded {α : Type} {refused : Nat → String → Failure}
    {holds : String → α → Prop} {run : Except Failure α × Connection Unit}
    (h : Outcome emptyHanded refused holds emptyHandedConnection run) :
    run.1 = .error (refused 404 "") := by
  cases h with
  | unsent text htoken => exact absurd (by decide) htoken
  | sent htoken hbearer hreply hmeans =>
    cases hreply
    exact hmeans.eq_of_refusal (by decide)

theorem replies_classified_emptyHanded :
    HttpClient.readBase "http://[::1]/api/v1" = .ok emptyHandedConnection.client.baseUrl ∧
    emptyHandedConnection.client.baseUrl.scheme ∈ ["http", "https"] ∧
    (answer emptyHanded 20 (.toggle .pinned "a") emptyHandedConnection).1 =
      .error (.notFound "chat a") ∧
    (answer emptyHanded 20 (.deleteChat "a") emptyHandedConnection).1 = .error (.status 404 "") ∧
    (signIn emptyHanded "a@b" "pass" emptyHandedConnection).1 = .error (.status 404 "") ∧
    let run := emptyHandedStore.createChat (api emptyHanded) (some " Winds ")
    run.1 = .error (.offlineFallback "new" (Failure.status 404 "").message) ∧
    run.2.cache.chat? "new" = some (.onDevice "new" "Winds" 20) := by
  have hscheme : emptyHandedConnection.client.baseUrl.scheme ∈ ["http", "https"] :=
    List.mem_cons_self ..
  obtain ⟨hanswer, -, hcreate, hsignIn⟩ :=
    replies_classified (c := emptyHandedConnection) ResourceRequest.readBase_local hscheme
      emptyHanded
  have hcreation := (hanswer 20 (.createChat "Winds")).of_emptyHanded
  refine ⟨ResourceRequest.readBase_local, hscheme,
    (hanswer 20 (.toggle .pinned "a")).of_emptyHanded,
    (hanswer 20 (.deleteChat "a")).of_emptyHanded, (hsignIn "a@b" "pass").1.of_emptyHanded, ?_⟩
  obtain ⟨chat, hchat, -⟩ | ⟨e, he, hfallback, -, hcached⟩ :=
    hcreate emptyHandedStore (some " Winds ") rfl
  · cases hcreation.symm.trans hchat
  · cases hcreation.symm.trans he
    exact ⟨hfallback, hcached⟩

end Connection
end OfflineChat
