import OfflineChat.Client.Basic
import OfflineChat.Files.Disk
import OfflineChat.Http.MediaType

/-! # Sign-in and files over a connection

The exchanges that the store has no part in: signing in, and the files kept on
the server.  Uploads and downloads read and write the file system.
-/
namespace OfflineChat
namespace Connection

variable {σ : Type}

/-- What a failed sign-in means: a refusal is about the credentials. -/
def refusedSignIn : Failure → Failure
  | .status code body =>
    if code ∈ [400, 401, 403] then
      .authentication
        (if body = "" then "sign in rejected with status " ++ toString code else body)
    else .status code body
  | e => e

/-- Sign in. -/
def signIn (link : Link σ) (email password : String) : ClientOp σ SignIn := fun c =>
  let (r, c) := fetch link SignIn.codec "Sign in" .post ["auths", "signin"]
    (.json (signInForm email password)) c
  (r.mapError refusedSignIn, c)

/-- What a failure about a file names. -/
def fileNamed (fileId : String) : String := "file " ++ fileId

/-- The body that uploads a file. -/
def uploadBody (d : Disk) (path : Path) (contentType : String) : Except Failure HttpBody :=
  match d.read path with
  | .error e => .error e.failure
  | .ok content => match MediaType.check contentType with
    | .ok _ => .ok (.file (path.name?.getD "upload") contentType content)
    | .error e => .error (.file ("Invalid content type " ++ contentType ++
        ": builder error: mime parse error: " ++ e.message))

/-- Upload a file. -/
def uploadFile (link : Link σ) (d : Disk) (path : Path) (contentType : String) :
    ClientOp σ UploadedFile := fun c =>
  match uploadBody d path contentType with
  | .error e => (.error e, c)
  | .ok body => fetch link UploadedFile.codec "Upload file" .post ["files", ""] body c

/-- The files of the user. -/
def listFiles (link : Link σ) : ClientOp σ (List ServerFile) :=
  fetch link (.list ServerFile.codec) "List files" .get ["files", ""] .none

/-- What the server says about a file. -/
def getFile (link : Link σ) (fileId : String) : ClientOp σ ServerFile :=
  about (fileNamed fileId) (fetch link ServerFile.codec "Get file" .get ["files", fileId] .none)

/-- Send a request about something below the base. -/
def ask (link : Link σ) (activity : String) (method : HttpMethod) (segments : List String) :
    ClientOp σ Content := fun c =>
  match c.client.request method segments .none with
  | .error e => (.error e, c)
  | .ok r => exchange link activity r c

/-- Delete a file, whatever the server has to say about it. -/
def deleteFile (link : Link σ) (fileId : String) : ClientOp σ Unit := fun c =>
  let (r, c) := ask link "Delete file" .delete ["files", fileId] c
  (r.map fun _ => (), c)

/-- Keep what a reply holds as a file; how many octets it has.  Of content that breaks off, the
file keeps what came. -/
def saveContent (d : Disk) (path : Path) (content : Content) : Except Failure Nat × Disk :=
  match d.write path content.octets with
  | (.error e, d) => (.error e.failure, d)
  | (.ok _, d) => match content.broken with
    | some reason => (.error (.network ("Download interrupted: " ++ reason)), d)
    | none => (.ok content.octets.size, d)

/-- Download the content of a file to a path. -/
def downloadFile (link : Link σ) (d : Disk) (fileId : String) (path : Path) (c : Connection σ) :
    Except Failure Nat × Disk × Connection σ :=
  match about (fileNamed fileId) (ask link "Download file" .get ["files", fileId, "content"]) c with
  | (.error e, c) => (.error e, d, c)
  | (.ok content, c) =>
    let (r, d) := saveContent d path content
    (r, d, c)

end Connection
end OfflineChat
