import OfflineChat.Account
import OfflineChat.Media

/-! # Uploads and downloads

An upload tells how far it has come; a file that cannot be uploaded is found out
before anything goes over the wire.  A download makes the directories its file
goes into.
-/
namespace OfflineChat

/-- How far an upload has come. -/
inductive UploadStep where
  | starting
  | uploading (percent : Nat)
  | done (file : UploadedFile)
  | failed (reason : String)

namespace UploadStep

/-- Whether no step follows. -/
def isLast : UploadStep → Bool
  | .done _ | .failed _ => true
  | _ => false

end UploadStep

namespace Transfer

variable {σ : Type}

/-- What keeps a file from being uploaded: it cannot be read, or it has more megabytes than
allowed. -/
def check (d : Disk) (path : Path) (megabytes : Nat) : Except Failure Unit :=
  match d.look path with
  | .error e => .error (.file ("Cannot read " ++ path.text ++ ": " ++ e.message))
  | .ok (.file content) =>
    if fitsMegabytes content.size megabytes then .ok ()
    else .error (.file ("File size " ++ formatSize content.size ++ " exceeds the " ++
      toString megabytes ++ " MB limit"))
  | .ok (.database _) => .ok ()
  | .ok .directory => .error (.file (path.text ++ " is not a regular file"))

/-- The last step of an upload. -/
def lastStep : Except Failure UploadedFile → UploadStep
  | .ok file => .done file
  | .error e => .failed e.message

/-- Upload a file: every step. -/
def upload (link : Link σ) (path : Path) (megabytes : Nat) (a : Account σ) :
    List UploadStep × Account σ :=
  match check a.disk path megabytes with
  | .error e => ([.starting, lastStep (.error e)], a)
  | .ok _ =>
    let (r, c) := Connection.uploadFile link a.disk path (Media.ofPath path) a.connection
    ([.starting, .uploading 0, lastStep r], { a with connection := c })

/-- Make the directories a file goes into. -/
def makeRoom (d : Disk) (path : Path) : Except Failure Disk :=
  match path.parent? with
  | none => .ok d
  | some parent => match d.makeDirectories parent with
    | .ok d => .ok d
    | .error e => .error e.failure

/-- Download the content of a file to a path whose directory is there. -/
def save (link : Link σ) (fileId : String) (path : Path) : AccountOp σ Nat := fun a =>
  let (r, disk, c) := Connection.downloadFile link a.disk fileId path a.connection
  (r, { a with disk := disk, connection := c })

/-- Download the content of a file to a path; how many octets it has. -/
def download (link : Link σ) (fileId : String) (path : Path) : AccountOp σ Nat := fun a =>
  match makeRoom a.disk path with
  | .error e => (.error e, a)
  | .ok d => save link fileId path { a with disk := d }

end Transfer
end OfflineChat
