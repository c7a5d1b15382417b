import OfflineChat.Config
import OfflineChat.Http.Exchange
import OfflineChat.Settings

/-! # The client of a server

A client knows the base of a server's addresses, the token of the user who is
signed in, and what it asks models for.  `HttpClient.request` makes a request of
it, `Connection.exchange` sends one over a link and sorts the replies, and
`Connection.fetch` reads what a reply holds.
-/
namespace OfflineChat

/-- What models are asked for. -/
structure CompletionSettings where
  model : String
  temperature : Option Binary
  maxTokens : Option Nat
deriving DecidableEq, Repr

namespace CompletionSettings

/-- What models are asked for by a client that is told nothing. -/
def initial : CompletionSettings := ⟨ChatConfig.initial.defaultModel, none, none⟩

/-- What models are asked for by the user's settings; the configuration names the model if the
settings do not. -/
def ofSettings (config : Config) (s : AppSettings) : CompletionSettings :=
  ⟨s.defaultModel.getD config.chat.defaultModel, some s.temperature, some s.maxTokens⟩

/-- How completion settings are written. -/
def codec : Codec CompletionSettings :=
  .record "CompletionSettings"
    (.cons (.required "model" .string) <|
     .cons (.nullable "temperature" .single) <|
     .cons (.nullable "max_tokens" .nat32) .nil)
    (fun (model, temperature, maxTokens, _) => ⟨model, temperature, maxTokens⟩)
    (fun s => (s.model, s.temperature, s.maxTokens, ()))

end CompletionSettings

/-- A client. -/
structure HttpClient where
  /-- What every address starts with. -/
  baseUrl : Url
  userAgent : String
  token : Option String
  completion : CompletionSettings

namespace HttpClient

/-- The base of the addresses of a server: its URL with a slash at the end of the path. -/
def readBase (raw : String) : Except Failure Url :=
  match Url.ofText raw with
  | .ok u => .ok u.closed
  | .error e => .error (.config ("Invalid server URL '" ++ raw ++ "': " ++ e.message))

/-- The client of a configured server, with no one signed in. -/
def ofConfig (c : ServerConfig) : Except Failure HttpClient := do
  let base ← readBase c.baseUrl
  if fitsHead c.userAgent then pure ⟨base, c.userAgent, none, .initial⟩
  else throw (.config ("Failed to create HTTP client: builder error: " ++ badHead))

/-- The address of something below the base. -/
def endpoint (c : HttpClient) (segments : List String) : Except Failure Url :=
  match c.baseUrl.below? segments with
  | some u => .ok u
  | none => .error (.config ("Base URL cannot be a base: " ++ c.baseUrl.text))

/-- A request about something below the base. -/
def request (c : HttpClient) (method : HttpMethod) (segments : List String)
    (body : HttpBody) : Except Failure HttpRequest :=
  (c.endpoint segments).map fun url => ⟨method, url, c.token, c.userAgent, body⟩

/-- Why a request cannot be sent at all, if it cannot. -/
def unsendable? (r : HttpRequest) : Option String :=
  if r.bearer.any (!fitsHead ·) then some ("builder error: " ++ badHead)
  else if r.url.scheme ∈ ["http", "https"] then none
  else some ("builder error for url (" ++ r.url.text ++ "): URL scheme is not allowed")

end HttpClient

/-- A client and its link to the server. -/
structure Connection (σ : Type) where
  client : HttpClient
  link : σ

/-- An exchange with a server: it answers or fails, and moves the link either way. -/
abbrev ClientOp (σ α : Type) := Connection σ → Except Failure α × Connection σ

namespace Connection

variable {σ α : Type}

/-- Send a request, in the course of some activity. -/
def exchange (link : Link σ) (activity : String) (r : HttpRequest) : ClientOp σ Content := fun c =>
  match HttpClient.unsendable? r with
  | some reason => (.error (.network (activity ++ ": " ++ reason)), c)
  | none =>
    let (reply, s) := link r c.link
    let c := { c with link := s }
    match reply with
    | .nothing reason => (.error (.network (activity ++ ": " ++ reason)), c)
    | .answer status content =>
      if isSuccess status then (.ok content, c)
      else (.error (.status status content.refusalText), c)

/-- Read what a reply holds. -/
def readContent (codec : Codec α) (activity : String) (content : Content) : Except Failure α :=
  match content.broken with
  | some reason => .error (.network (activity ++ ": " ++ reason))
  | none => match codec.decode content.text with
    | .ok a => .ok a
    | .error cause => .error (.payload (activity ++ ": " ++ cause.message))

/-- Send a request and read the reply. -/
def fetch (link : Link σ) (codec : Codec α) (activity : String) (method : HttpMethod)
    (segments : List String) (body : HttpBody) : ClientOp σ α := fun c =>
  match c.client.request method segments body with
  | .error e => (.error e, c)
  | .ok r => match exchange link activity r c with
    | (.error e, c) => (.error e, c)
    | (.ok content, c) => (readContent codec activity content, c)

/-- What a status of refusal means where something was asked for by its id. -/
def missing (what : String) : Failure → Failure
  | .status 404 _ => .notFound what
  | e => e

/-- A failed exchange about something with an id. -/
def about (what : String) (op : ClientOp σ α) : ClientOp σ α := fun c =>
  let (r, c) := op c
  (r.mapError (missing what), c)

end Connection
end OfflineChat
