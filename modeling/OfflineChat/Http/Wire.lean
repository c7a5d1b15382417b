import OfflineChat.Http.Exchange
import OfflineChat.Text.Split
import OfflineChat.Text.Case
import OfflineChat.Url.Encoding

/-! # Requests and replies as octets

How a request is written for a server that hangs up after one reply, and how the
octets that came back are read.  `HttpReply.ofOctets` takes everything that came
until the server hung up: a head, and content that is counted, cut into chunks,
or goes on to the end.  Content that lacks octets it announced breaks off.  Its text
is read as UTF-8.
-/
namespace OfflineChat

/-! ## Writing a request -/

namespace HttpBody

/-- A quoted parameter of a part's head; a value with characters that could be taken for something
else is written in percent triples, under a starred name. -/
def parameter (name value : String) : String :=
  let shielded := value.toList.flatMap fun c =>
    if ['\\', '"', '\r', '\n'].contains c then ['\\', c] else [c]
  let encoded := Url.percentEncode Url.inSegment shielded
  if encoded = shielded then name ++ "=\"" ++ String.ofList shielded ++ "\""
  else name ++ "*=utf-8''" ++ String.ofList encoded

/-- The content of a form with one file, between marks of the given boundary. -/
def formOctets (boundary name contentType : String) (content : ByteArray) : ByteArray :=
  let opening := "--" ++ boundary ++ "\r\nContent-Disposition: form-data; name=\"file\"; " ++
    parameter "filename" name ++ "\r\nContent-Type: " ++ contentType ++ "\r\n\r\n"
  opening.toUTF8 ++ content ++ ("\r\n--" ++ boundary ++ "--\r\n").toUTF8

/-- What kind of content a body is, and its octets. -/
def content? (boundary : String) : HttpBody → Option (String × ByteArray)
  | .none => Option.none
  | .json value => some ("application/json", value.render.toUTF8)
  | .file name contentType content =>
    some ("multipart/form-data; boundary=" ++ boundary,
      formOctets boundary name contentType content)

end HttpBody

namespace HttpRequest

/-- The host a request is for, with its port if that is not the usual one. -/
def hostText (r : HttpRequest) : String :=
  ((r.url.host.map UrlHost.text).getD "") ++ (r.url.port.map fun p => ":" ++ toString p).getD ""

/-- The lines of the head of a request. -/
def headLines (r : HttpRequest) (content : Option (String × ByteArray)) : List String :=
  [r.method.name ++ " " ++ r.url.target ++ " HTTP/1.1",
    "host: " ++ r.hostText, "user-agent: " ++ r.userAgent, "accept: */*", "connection: close"] ++
  (r.bearer.map fun token => "authorization: Bearer " ++ token).toList ++
  match content with
  | some (kind, octets) =>
    ["content-type: " ++ kind, "content-length: " ++ toString octets.size]
  | none => if r.method = .post then ["content-length: 0"] else []

/-- A request as octets; `boundary` separates the parts of a form. -/
def octets (r : HttpRequest) (boundary : String) : ByteArray :=
  let content := r.body.content? boundary
  let head := String.join ((r.headLines content).map (· ++ "\r\n")) ++ "\r\n"
  head.toUTF8 ++ (content.map Prod.snd).getD ByteArray.empty

end HttpRequest

/-! ## Reading a reply -/

namespace Wire

/-- A line and what follows its line feed, if there is one. -/
def takeLine? (bs : List UInt8) : Option (String × List UInt8) :=
  match bs.dropWhile (· != 10) with
  | [] => none
  | _ :: rest =>
    some (Text.decodeLossy (Text.dropEndWhile (· == 13) (bs.takeWhile (· != 10))), rest)

theorem takeLine?_length {bs rest : List UInt8} {line : String}
    (h : takeLine? bs = some (line, rest)) : rest.length < bs.length := by
  unfold takeLine? at h
  split at h
  · simp at h
  · rename_i b tail heq
    have hle := (List.dropWhile_sublist (· != 10) (l := bs)).length_le
    rw [heq, List.length_cons] at hle
    obtain ⟨-, rfl⟩ := Prod.mk.injEq .. ▸ Option.some.inj h
    omega

/-- The name of a field, in small letters, and its value. -/
def field? (line : String) : Option (String × String) :=
  match line.toList.dropWhile (· != ':') with
  | [] => none
  | _ :: value => some (Text.asciiLower (String.ofList (line.toList.takeWhile (· != ':'))),
      Text.trim (String.ofList value))

/-- The fields of a head up to the empty line that ends it, and what follows. -/
def takeFields? (bs : List UInt8) : Option (List (String × String) × List UInt8) :=
  match h : takeLine? bs with
  | none => none
  | some (line, rest) =>
    have _shorter := takeLine?_length h
    if line = "" then some ([], rest)
    else match field? line, takeFields? rest with
      | some f, some (fs, rest) => some (f :: fs, rest)
      | _, _ => none
termination_by bs.length

/-- The status of a status line. -/
def status? (line : String) : Option Nat :=
  match line.splitOn " " with
  | version :: code :: _ =>
    if ["HTTP/1.0", "HTTP/1.1"].contains version && code.length == 3 then code.toNat? else none
  | _ => none

/-- The head of a reply. -/
structure Head where
  status : Nat
  fields : List (String × String)

/-- The head of a reply and what follows. -/
def takeHead? (bs : List UInt8) : Option (Head × List UInt8) := do
  let (line, rest) ← takeLine? bs
  let status ← status? line
  let (fields, rest) ← takeFields? rest
  some (⟨status, fields⟩, rest)

/-- The number a chunk starts with. -/
def chunkSize? (line : String) : Option Nat :=
  let digits := (line.toList.takeWhile fun c => (Url.hexValue? c).isSome).filterMap Url.hexValue?
  if digits.isEmpty then none else some (digits.foldl (fun n d => 16 * n + d) 0)

/-- The content of chunks, and whether the last one came. -/
def takeChunks (bs : List UInt8) : List UInt8 × Bool :=
  match h : takeLine? bs with
  | none => ([], false)
  | some (line, rest) =>
    have _shorter := takeLine?_length h
    match chunkSize? line with
    | none => ([], false)
    | some 0 => ([], true)
    | some n =>
      if rest.length < n then (rest, false)
      else
        let (content, complete) := takeChunks (rest.drop (n + 2))
        (rest.take n ++ content, complete)
termination_by bs.length
decreasing_by
  simp only [List.length_drop]
  omega

/-- The content that follows a head, and whether all of it came. -/
def takeContent (head : Head) (bs : List UInt8) : List UInt8 × Bool :=
  if head.status = 204 ∨ head.status = 304 then ([], true)
  else if (head.fields.lookup "transfer-encoding").any (Text.asciiLower · == "chunked") then
    takeChunks bs
  else match (head.fields.lookup "content-length").bind String.toNat? with
    | some n => (bs.take n, decide (n ≤ bs.length))
    | none => (bs, true)

end Wire

namespace HttpReply

/-- What is said of content that breaks off. -/
def brokenOff : String := "error decoding response body"

/-- The reply in what came until the server hung up. -/
def ofOctets (octets : ByteArray) : HttpReply :=
  match Wire.takeHead? octets.toList with
  | none => .nothing "the connection was closed before a reply came"
  | some (head, rest) =>
    let (content, complete) := Wire.takeContent head rest
    .answer head.status (.ofUtf8 ⟨content.toArray⟩ (if complete then none else some brokenOff))

end HttpReply
end OfflineChat
