import OfflineChat.Json.Value
import OfflineChat.Text.Utf8
import OfflineChat.Url.Basic

/-! # Requests and replies

What goes over the wire: a request with everything it says, and the reply to
it, which may fail to come or break off.

A `Link` is the way to a server: it takes one request at a time and moves from one
state to the next.  It stands for all that is done to get a reply to a request.
Redirects are followed on the way, so the reply is that of the last server
asked; and the text of a reply is the one its octets are read as, by the
character set that its head names and by a byte order mark.  Whatever is proved
about a client holds for every link.
-/
namespace OfflineChat

/-- What a request does at its URL. -/
inductive HttpMethod where
  | get
  | post
  | delete
deriving DecidableEq, Repr

namespace HttpMethod

/-- The written name of a method. -/
def name : HttpMethod → String
  | .get => "GET"
  | .post => "POST"
  | .delete => "DELETE"

end HttpMethod

/-- What a request carries. -/
inductive HttpBody where
  | none
  | json (value : Json)
  /-- A form with one file. -/
  | file (name contentType : String) (content : ByteArray)

/-- A request. -/
structure HttpRequest where
  method : HttpMethod
  url : Url
  /-- The token that vouches for the sender. -/
  bearer : Option String
  userAgent : String
  body : HttpBody

/-- What a reply holds. -/
structure Content where
  octets : ByteArray
  /-- What the octets are read as. -/
  text : String
  /-- The reason for which the content ends too early, if it does. -/
  broken : Option String

namespace Content

/-- Content that is read as UTF-8; a byte order mark is no part of the text. -/
def ofUtf8 (octets : ByteArray) (broken : Option String) : Content :=
  let unmarked := match octets.toList with
    | 0xEF :: 0xBB :: 0xBF :: rest => rest
    | bs => bs
  ⟨octets, Text.decodeLossy unmarked, broken⟩

/-- The text of a refusal: its content, unless that breaks off. -/
def refusalText (c : Content) : String :=
  match c.broken with
  | some _ => ""
  | none => c.text

end Content

/-- What comes back for a request. -/
inductive HttpReply where
  /-- No answer, for a reason. -/
  | nothing (reason : String)
  /-- A status and what follows it. -/
  | answer (status : Nat) (content : Content)

/-- The way to a server and back, over states `σ`. -/
abbrev Link (σ : Type) := HttpRequest → σ → HttpReply × σ

/-- Whether a status tells of success. -/
def isSuccess (status : Nat) : Bool := decide (200 ≤ status) && decide (status < 300)

/-- Whether a text can stand in the head of a request: it has no control character but the tab. -/
def fitsHead (s : String) : Bool :=
  s.toList.all fun c => c == '\t' || (decide (0x20 ≤ c.toNat) && decide (c.toNat ≠ 0x7F))

/-- What is said of a text that cannot stand in the head of a request. -/
def badHead : String := "failed to parse header value"

/-- What is known of an exchange: the replies that came, and the first request they leave
unanswered. -/
structure Recording where
  replies : List HttpReply
  unanswered : Option HttpRequest

namespace Link

/-- A link that reaches nobody. -/
def unreachable (reason : String) : Link Unit := fun _ s => (.nothing reason, s)

/-- A link that answers as it was recorded, and after that notes what it is asked. -/
def recorded : Link Recording := fun r s =>
  match s.replies with
  | reply :: rest => (reply, { s with replies := rest })
  | [] => (.nothing "no reply is recorded", { s with unanswered := s.unanswered.or (some r) })

end Link

end OfflineChat
