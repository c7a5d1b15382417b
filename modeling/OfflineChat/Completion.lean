import OfflineChat.Chat

/-! # Completions, models, sign-in and server files

The remaining records exchanged with the server: what is asked of a model and
what it answers, whole or in pieces, the models on offer, the answer to a
sign-in, and the files kept on the server.
-/
namespace OfflineChat

/-- A turn of a conversation as a model is shown it. -/
structure CompletionMessage where
  role : Role
  content : String
deriving DecidableEq, Repr

/-- How turns are written and read. -/
def CompletionMessage.codec : Codec CompletionMessage :=
  .record "CompletionMessage"
    (.cons (.required "role" Role.codec) <| .cons (.defaulted "content" .string "") .nil)
    (fun (role, content, _) => ⟨role, content⟩) (fun m => (m.role, m.content, ()))

/-- What is asked of a model. -/
structure CompletionRequest where
  model : String
  messages : List CompletionMessage
  stream : Bool
  chatId : Option String
  temperature : Option Binary
  maxTokens : Option Nat

/-- How requests to a model are written. -/
def CompletionRequest.codec : Codec CompletionRequest :=
  .record "ChatCompletionRequest"
    (.cons (.required "model" .string) <|
     .cons (.required "messages" (.list CompletionMessage.codec)) <|
     .cons (.required "stream" .bool) <|
     .cons (.omitted "chat_id" (.option .string) none Option.isNone) <|
     .cons (.omitted "temperature" (.option .single) none Option.isNone) <|
     .cons (.omitted "max_tokens" (.option .nat32) none Option.isNone) .nil)
    (fun (model, messages, stream, chatId, temperature, maxTokens, _) =>
      ⟨model, messages, stream, chatId, temperature, maxTokens⟩)
    (fun r => (r.model, r.messages, r.stream, r.chatId, r.temperature, r.maxTokens, ()))

/-- One answer of a model. -/
structure CompletionChoice where
  index : Nat
  message : CompletionMessage
  finishReason : Option String
deriving DecidableEq, Repr

/-- How answers are written and read. -/
def CompletionChoice.codec : Codec CompletionChoice :=
  .record "CompletionChoice"
    (.cons (.defaulted "index" .nat32 0) <|
     .cons (.required "message" CompletionMessage.codec) <|
     .cons (.defaulted "finish_reason" (.option .string) none) .nil)
    (fun (index, message, finishReason, _) => ⟨index, message, finishReason⟩)
    (fun c => (c.index, c.message, c.finishReason, ()))

/-- The tokens a completion took. -/
structure Usage where
  promptTokens : Nat
  completionTokens : Nat
  totalTokens : Nat
deriving DecidableEq, Repr

/-- How token counts are written and read. -/
def Usage.codec : Codec Usage :=
  .record "Usage"
    (.cons (.required "prompt_tokens" .nat32) <|
     .cons (.required "completion_tokens" .nat32) <|
     .cons (.required "total_tokens" .nat32) .nil)
    (fun (prompt, completion, total, _) => ⟨prompt, completion, total⟩)
    (fun u => (u.promptTokens, u.completionTokens, u.totalTokens, ()))

/-- A whole completion. -/
structure Completion where
  id : String
  model : String
  choices : List CompletionChoice
  usage : Option Usage
deriving DecidableEq, Repr

/-- How completions are written and read. -/
def Completion.codec : Codec Completion :=
  .record "ChatCompletionResponse"
    (.cons (.defaulted "id" .string "") <|
     .cons (.defaulted "model" .string "") <|
     .cons (.required "choices" (.list CompletionChoice.codec)) <|
     .cons (.defaulted "usage" (.option Usage.codec) none) .nil)
    (fun (id, model, choices, usage, _) => ⟨id, model, choices, usage⟩)
    (fun c => (c.id, c.model, c.choices, c.usage, ()))

/-- What a model says about itself. -/
structure ModelMeta where
  description : Option String
  capabilities : Dict Json

/-- How the data about a model is written and read. -/
def ModelMeta.codec : Codec ModelMeta :=
  .record "ModelMeta"
    (.cons (.defaulted "description" (.option .string) none) <|
     .cons (.defaulted "capabilities" (.dict .any) .empty) .nil)
    (fun (description, capabilities, _) => ⟨description, capabilities⟩)
    (fun m => (m.description, m.capabilities, ()))

/-- The details of a model. -/
structure ModelDetails where
  about : Option ModelMeta

/-- How the details of a model are written and read. -/
def ModelDetails.codec : Codec ModelDetails :=
  .record "ModelInfoDetails"
    (.cons (.defaulted "meta" (.option ModelMeta.codec) none) .nil)
    (fun (about, _) => ⟨about⟩) (fun d => (d.about, ()))

/-- A model on offer. -/
structure Model where
  id : String
  name : Option String
  ownedBy : Option String
  info : Option ModelDetails

namespace Model

/-- How models are written and read. -/
def codec : Codec Model :=
  .record "ModelInfo"
    (.cons (.required "id" .string) <|
     .cons (.defaulted "name" (.option .string) none) <|
     .cons (.defaulted "owned_by" (.option .string) none) <|
     .cons (.defaulted "info" (.option ModelDetails.codec) none) .nil)
    (fun (id, name, ownedBy, info, _) => ⟨id, name, ownedBy, info⟩)
    (fun m => (m.id, m.name, m.ownedBy, m.info, ()))

/-- The description of a model, if it has one. -/
def description (m : Model) : Option String :=
  m.info.bind (·.about) |>.bind (·.description)

/-- How the server's list of models is read. -/
def listCodec : Codec (List Model) :=
  .record "ModelsResponse" (.cons (.defaulted "data" (.list codec) []) .nil)
    (fun (data, _) => data) (fun data => (data, ()))

end Model

/-- What the server answers to a sign-in. -/
structure SignIn where
  token : String
  tokenType : String
  /-- Seconds since the epoch. -/
  expiresAt : Option Int
  id : String
  email : String
  name : Option String
  role : Option String
  profileImageUrl : Option String
deriving DecidableEq, Repr

/-- The fields of an answer to a sign-in. -/
def SignIn.fields : Fields Codec
    [String, String, Option Int, String, String, Option String, Option String, Option String] :=
  .cons (.required "token" .string) <|
  .cons (.defaulted "token_type" .string "") <|
  .cons (.defaulted "expires_at" (.option .int64) none) <|
  .cons (.required "id" .string) <|
  .cons (.required "email" .string) <|
  .cons (.defaulted "name" (.option .string) none) <|
  .cons (.defaulted "role" (.option .string) none) <|
  .cons (.defaulted "profile_image_url" (.option .string) none) .nil

/-- How answers to a sign-in are written and read. -/
def SignIn.codec : Codec SignIn :=
  .record "SignInResponse" SignIn.fields
    (fun (token, tokenType, expiresAt, id, email, name, role, image, _) =>
      ⟨token, tokenType, expiresAt, id, email, name, role, image⟩)
    (fun s => (s.token, s.tokenType, s.expiresAt, s.id, s.email, s.name, s.role,
      s.profileImageUrl, ()))

/-- The form of a sign-in. -/
def signInForm (email password : String) : Json :=
  .obj [("email", .str email), ("password", .str password)]

/-- What the server says about a file. -/
structure FileMeta where
  contentType : Option String
  size : Int
  name : String
deriving DecidableEq, Repr

/-- How the data about a file is written and read. -/
def FileMeta.codec : Codec FileMeta :=
  .record "FileMetadata"
    (.cons (.defaulted "content_type" (.option .string) none) <|
     .cons (.defaulted "size" .int64 0) <|
     .cons (.defaulted "name" .string "") .nil)
    (fun (contentType, size, name, _) => ⟨contentType, size, name⟩)
    (fun m => (m.contentType, m.size, m.name, ()))

/-- What the server answers to an upload. -/
structure UploadedFile where
  id : String
  filename : String
  about : FileMeta
deriving DecidableEq, Repr

/-- How answers to an upload are written and read. -/
def UploadedFile.codec : Codec UploadedFile :=
  .record "FileUploadResponse"
    (.cons (.required "id" .string) <|
     .cons (.required "filename" .string) <|
     .cons (.required "meta" FileMeta.codec) .nil)
    (fun (id, filename, about, _) => ⟨id, filename, about⟩)
    (fun f => (f.id, f.filename, f.about, ()))

/-- A file kept on the server. -/
structure ServerFile where
  id : String
  filename : String
  about : FileMeta
  userId : String
  createdAt : Int
  updatedAt : Int
deriving DecidableEq, Repr

/-- How files on the server are written and read. -/
def ServerFile.codec : Codec ServerFile :=
  .record "FileInfo"
    (.cons (.required "id" .string) <|
     .cons (.required "filename" .string) <|
     .cons (.required "meta" FileMeta.codec) <|
     .cons (.defaulted "user_id" .string "") <|
     .cons (.defaulted "created_at" .int64 0) <|
     .cons (.defaulted "updated_at" .int64 0) .nil)
    (fun (id, filename, about, userId, createdAt, updatedAt, _) =>
      ⟨id, filename, about, userId, createdAt, updatedAt⟩)
    (fun f => (f.id, f.filename, f.about, f.userId, f.createdAt, f.updatedAt, ()))

end OfflineChat
