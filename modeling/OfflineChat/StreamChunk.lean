import OfflineChat.Completion
import OfflineChat.Failure
import OfflineChat.Text.Split

/-! # Streamed completions

A completion that arrives in pieces.  Each frame holds a chunk, bare or on a
line that starts with `data:`, or the mark that ends the stream;
`StreamChunk.ofFrame` reads one.  The requests that ask for such a stream are
here as well.
-/
namespace OfflineChat

/-- What is asked of a model that is to answer in pieces. -/
structure StreamRequest where
  model : String
  messages : List CompletionMessage
  stream : Bool
  temperature : Option Binary
  maxTokens : Option Nat

namespace StreamRequest

/-- How requests for a stream are written and read. -/
def codec : Codec StreamRequest :=
  .record "ChatStreamRequest"
    (.cons (.required "model" .string) <|
     .cons (.required "messages" (.list CompletionMessage.codec)) <|
     .cons (.defaulted "stream" .bool true) <|
     .cons (.omitted "temperature" (.option .single) none Option.isNone) <|
     .cons (.omitted "max_tokens" (.option .nat32) none Option.isNone) .nil)
    (fun (model, messages, stream, temperature, maxTokens, _) =>
      ⟨model, messages, stream, temperature, maxTokens⟩)
    (fun r => (r.model, r.messages, r.stream, r.temperature, r.maxTokens, ()))

/-- A request that carries one message of the user. -/
def ofUser (model content : String) : StreamRequest :=
  ⟨model, [⟨.user, content⟩], true, none, none⟩

end StreamRequest

/-- What a piece adds to a message. -/
structure StreamDelta where
  role : Option Role
  content : Option String
deriving DecidableEq, Repr

/-- How additions are written and read. -/
def StreamDelta.codec : Codec StreamDelta :=
  .record "StreamDelta"
    (.cons (.defaulted "role" (.option Role.codec) none) <|
     .cons (.defaulted "content" (.option .string) none) .nil)
    (fun (role, content, _) => ⟨role, content⟩) (fun d => (d.role, d.content, ()))

/-- What a chunk adds to one answer. -/
structure StreamChoice where
  index : Nat
  delta : StreamDelta
  finishReason : Option String
deriving DecidableEq, Repr

/-- How pieces of answers are written and read. -/
def StreamChoice.codec : Codec StreamChoice :=
  .record "StreamChoice"
    (.cons (.defaulted "index" .nat32 0) <|
     .cons (.defaulted "delta" StreamDelta.codec ⟨none, none⟩) <|
     .cons (.defaulted "finish_reason" (.option .string) none) .nil)
    (fun (index, delta, finishReason, _) => ⟨index, delta, finishReason⟩)
    (fun c => (c.index, c.delta, c.finishReason, ()))

/-- A piece of a completion. -/
structure StreamChunk where
  id : String
  object : String
  created : Int
  model : String
  choices : List StreamChoice
deriving DecidableEq, Repr

namespace StreamChunk

/-- How chunks are written and read. -/
def codec : Codec StreamChunk :=
  .record "ChatStreamChunk"
    (.cons (.defaulted "id" .string "") <|
     .cons (.defaulted "object" .string "") <|
     .cons (.defaulted "created" .int64 0) <|
     .cons (.defaulted "model" .string "") <|
     .cons (.defaulted "choices" (.list StreamChoice.codec) []) .nil)
    (fun (id, object, created, model, choices, _) => ⟨id, object, created, model, choices⟩)
    (fun c => (c.id, c.object, c.created, c.model, c.choices, ()))

/-- The text that a chunk adds, of all answers together. -/
def text (c : StreamChunk) : String :=
  String.join (c.choices.filterMap (·.delta.content))

/-- Whether some answer is finished. -/
def isFinished (c : StreamChunk) : Bool := c.choices.any (·.finishReason.isSome)

/-- The mark that ends a stream. -/
def endMark : String := "[DONE]"

/-- The payload of a frame: what follows `data:`, or the frame itself, without blanks around it. -/
def payload (frame : String) : String :=
  let s := Text.trim frame
  match "data:".toList.isPrefixOf? s.toList with
  | some rest => Text.trim (String.ofList rest)
  | none => s

/-- Read a frame: a chunk, or `none` for the mark that ends the stream. -/
def ofFrame (frame : String) : Except Failure (Option StreamChunk) :=
  let p := payload frame
  if p = endMark then .ok none
  else match codec.decode p with
    | .ok c => .ok (some c)
    | .error e => .error (.payload ("Invalid stream chunk: " ++ e.message))

end StreamChunk
end OfflineChat
