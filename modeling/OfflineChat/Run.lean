import OfflineChat.Cache.Saved
import OfflineChat.Program

/-! # A run of the program

One command from the configuration to the last line printed, as a function of
everything it depends on.  The disk holds what the machine has at `Run.places`.
Replies of the server are given in advance; a run that needs one more than there
are says which request it is for, and is taken up again from the start once the
reply is known.
-/
namespace OfflineChat

namespace Command

/-- The paths that the user names in a command. -/
def paths : Command → List Path
  | .uploadFile path => [⟨path⟩]
  | .downloadFile _ output => [⟨output⟩]
  | _ => []

/-- Whether a command reads what the user types. -/
def asksPassword : Command → Bool
  | .login _ none => true
  | _ => false

end Command

/-- What a run depends on. -/
structure Occasion where
  env : Environment
  disk : Disk
  surroundings : Surroundings
  typed : String

/-- What a run leaves. -/
structure RunResult where
  printed : String
  failure : Option Failure
  disk : Disk
  /-- The request that more replies are needed for. -/
  unanswered : Option HttpRequest

namespace Run

/-- The variables of the environment that count. -/
def variableNames : List String :=
  ["HOME", "XDG_CONFIG_HOME", "XDG_DATA_HOME", "CHATDROID_DB", "CHATDROID_PASSWORD",
    "CHATDROID_SERVER_URL", "CHATDROID_WS_URL", "CHATDROID_TIMEOUT_SECONDS",
    "CHATDROID_PREFERENCES_DIR", "CHATDROID_DEFAULT_MODEL"]

/-- The configuration of a run. -/
def configOf (o : Occasion) (i : Invocation) : Except Failure Config := do
  let config ← Config.load o.disk o.env ⟨i.config⟩ i.server i.cachePath
  config.check
  pure config

/-- The paths where a run may read or write. -/
def places (env : Environment) (config : Config) (c : Command) : Except Failure (List Path) := do
  let dir ← config.storage.preferencesPath env
  let kept := [AppSettings.fileName, AuthSession.fileName].map fun name => dir.join ⟨name⟩
  let cache ← config.storage.cacheFile env
  pure (kept ++ kept.map Preferences.beside ++ [cache] ++ c.paths)

/-- Take a file that holds a saved cache for that cache. -/
def unpackCache (d : Disk) (path : Path) : Disk :=
  match d.readText path with
  | .error _ => d
  | .ok text => match Cache.ofSaved? text with
    | some cache => d.put path (.database cache)
    | none => d

/-- Save a cache in a file. -/
def packCache (d : Disk) (path : Path) (cache : Cache) : Disk :=
  d.put path (.file cache.saved.toUTF8)

/-- Lay out the desk of a run. -/
def deskOf (o : Occasion) (config : Config) (replies : List HttpReply) :
    Except Failure (Desk (Connection Recording)) := do
  let disk := unpackCache o.disk (← config.storage.cacheFile o.env)
  let desk ← Desk.ofConfig config o.env o.surroundings disk ⟨replies, none⟩
  pure { desk with typed := o.typed }

/-- Why nothing comes over a socket: the program has no way to open one. -/
def noSocket : String := "IO error: no web socket can be opened"

/-- What comes over a socket. -/
def dial (url : String) (token : Option String) : List SocketEvent :=
  (Socket.unreachable url token noSocket).events

/-- Carry out a command, given the replies of the server so far. -/
def carryOut (o : Occasion) (config : Config) (c : Command) (replies : List HttpReply) :
    RunResult :=
  match deskOf o config replies with
  | .error e => ⟨"", some e, o.disk, none⟩
  | .ok desk =>
    let (r, desk) := (Program.run .recorded dial ⟨""⟩ c).run desk
    { printed := desk.printed
      failure := match r with
        | .ok _ => none
        | .error e => some e
      disk := packCache desk.disk desk.cachePath desk.store.cache
      unanswered := desk.store.server.link.unanswered }

end Run
end OfflineChat
