import OfflineChat.Json.Reject

/-! # Failures

Why an operation fails, and the wording of each cause.  A failure is remote if
it started on the server's side of the connection; the store treats all remote
failures alike.
-/
namespace OfflineChat

/-- Why an operation fails. -/
inductive Failure where
  /-- The configuration or a setting is wrong. -/
  | config (reason : String)
  /-- The server gave no answer. -/
  | network (reason : String)
  /-- The server answered with a status of refusal. -/
  | status (code : Nat) (body : String)
  /-- The server's answer has another shape than wanted. -/
  | payload (reason : String)
  /-- The credentials are wrong. -/
  | authentication (reason : String)
  /-- There is no such chat, message or file. -/
  | notFound (what : String)
  /-- The cache cannot be read or written. -/
  | storage (reason : String)
  /-- A chat was created on this device only, with the given id. -/
  | offlineFallback (localId reason : String)
  /-- The socket is not open. -/
  | webSocket (reason : String)
  /-- A file cannot be used. -/
  | file (reason : String)
  /-- The file system refuses. -/
  | disk (reason : String)
  /-- A JSON text does not read as a value. -/
  | serialization (cause : Reject)
  /-- A YAML text does not read as a value. -/
  | yaml (reason : String)
deriving DecidableEq, Repr

namespace Failure

/-- The wording of a failure. -/
def message : Failure → String
  | .config reason => "Configuration error: " ++ reason
  | .network reason => "Network error: " ++ reason
  | .status code body => "API error " ++ toString code ++ ": " ++ body
  | .payload reason => "Payload error: " ++ reason
  | .authentication reason => "Authentication error: " ++ reason
  | .notFound what => "Not found: " ++ what
  | .storage reason => "Storage error: " ++ reason
  | .offlineFallback localId reason => "Created local-only chat " ++ localId ++ ": " ++ reason
  | .webSocket reason => "WebSocket error: " ++ reason
  | .file reason => "File error: " ++ reason
  | .disk reason => "IO error: " ++ reason
  | .serialization cause => "Serialization error: " ++ cause.message
  | .yaml reason => "YAML error: " ++ reason

/-- Whether the failure started on the server's side. -/
def isRemote : Failure → Bool
  | .network _ | .status .. | .payload _ | .notFound _ | .authentication _ => true
  | _ => false

end Failure
end OfflineChat
