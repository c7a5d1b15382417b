import OfflineChat.Files.Disk
import OfflineChat.Url.Edit
import OfflineChat.Yaml.Reading

/-! # Configuration

What the program reads before it does anything: the server, the places where
things are kept, and what new chats get.  A configuration comes from a file, the
environment and the command line, the later ones counting; `Config.check` says
what is wrong with one.
-/
namespace OfflineChat

/-- How the values of a type are read from JSON and from YAML. -/
structure ConfigKind (α : Type) where
  json : Codec α
  yaml : YamlKind α

namespace ConfigKind

/-- A text. -/
def string : ConfigKind String := ⟨.string, .string⟩

/-- A natural of sixty-four bits. -/
def nat64 : ConfigKind Nat := ⟨.nat64, .nat64⟩

/-- A value, or nothing. -/
def option {α : Type} (k : ConfigKind α) : ConfigKind (Option α) := ⟨k.json.option, k.yaml.option⟩

/-- A record. -/
def record {ts : List Type} {α : Type} (name : String) (fields : Fields ConfigKind ts)
    (build : Values ts → α) (split : α → Values ts) : ConfigKind α :=
  ⟨.record name (fields.map ConfigKind.json) build split,
    .record name (fields.map ConfigKind.yaml) build⟩

end ConfigKind

/-- The configuration of the connection to the server. -/
structure ServerConfig where
  baseUrl : String
  /-- The address of the socket; without one, it is derived from the base. -/
  socketUrl : Option String
  timeoutSeconds : Option Nat
  userAgent : String
deriving DecidableEq, Repr

/-- The configuration of the places where things are kept. -/
structure StorageConfig where
  cachePath : Option String
  preferencesDirectory : Option String
deriving DecidableEq, Repr

/-- The configuration of what new chats get. -/
structure ChatConfig where
  defaultModel : String
  defaultTitle : String
deriving DecidableEq, Repr

/-- The configuration. -/
structure Config where
  server : ServerConfig
  storage : StorageConfig
  chat : ChatConfig
deriving DecidableEq, Repr

/-- The variables of the environment. -/
abbrev Environment := String → Option String

namespace Environment

/-- The directory for configurations: the one named for it if that is absolute, else one below the
user's own. -/
def configDirectory? (env : Environment) : Option Path :=
  match (env "XDG_CONFIG_HOME").filter (Path.isAbsolute ⟨·⟩) with
  | some dir => some ⟨dir⟩
  | none => ((env "HOME").filter (· ≠ "")).map fun home => (Path.mk home).join ⟨".config"⟩

/-- The directory for data: the one named for it if that is absolute, else one below the user's
own. -/
def dataDirectory? (env : Environment) : Option Path :=
  match (env "XDG_DATA_HOME").filter (Path.isAbsolute ⟨·⟩) with
  | some dir => some ⟨dir⟩
  | none => ((env "HOME").filter (· ≠ "")).map fun home => (Path.mk home).join ⟨".local/share"⟩

end Environment

namespace ServerConfig

/-- The server of a program that is told of none. -/
def initial : ServerConfig :=
  ⟨"http://localhost:8080/api/v1/", none, none, "chatdroid/0.2.0"⟩

/-- How the configuration of a server is read. -/
def kind : ConfigKind ServerConfig :=
  .record "ServerConfig"
    (.cons (.defaulted "base_url" .string initial.baseUrl) <|
     .cons (.defaulted "websocket_url" (.option .string) none) <|
     .cons (.defaulted "timeout_seconds" (.option .nat64) none) <|
     .cons (.defaulted "user_agent" .string initial.userAgent) .nil)
    (fun (baseUrl, socketUrl, timeoutSeconds, userAgent, _) =>
      ⟨baseUrl, socketUrl, timeoutSeconds, userAgent⟩)
    (fun s => (s.baseUrl, s.socketUrl, s.timeoutSeconds, s.userAgent, ()))

/-- The scheme of the socket that goes with a base of some scheme. -/
def socketScheme (base : String) : String := if base = "https" then "wss" else "ws"

/-- The address of the socket: the configured one, or the socket's place on the host of the
base. -/
def socketAddress (s : ServerConfig) : Except Failure String :=
  match s.socketUrl with
  | some url => .ok url
  | none => match Url.ofText s.baseUrl with
    | .error e => .error (.config ("Invalid server.base_url: " ++ e.message))
    | .ok base => match base.withWebScheme? (socketScheme base.scheme) with
      | none => .error (.config ("Cannot derive WebSocket URL from " ++ s.baseUrl))
      | some u => .ok { u with
          path := .rooted ["ws", "socket.io", ""]
          query := some "EIO=4&transport=websocket" : Url }.text

end ServerConfig

namespace StorageConfig

/-- The places of a program that is told of none. -/
def initial : StorageConfig := ⟨none, none⟩

/-- How the configuration of places is read. -/
def kind : ConfigKind StorageConfig :=
  .record "StorageConfig"
    (.cons (.defaulted "database_path" (.option .string) none) <|
     .cons (.defaulted "preferences_dir" (.option .string) none) .nil)
    (fun (cachePath, preferencesDirectory, _) => ⟨cachePath, preferencesDirectory⟩)
    (fun s => (s.cachePath, s.preferencesDirectory, ()))

/-- The directory of the preferences. -/
def preferencesPath (s : StorageConfig) (env : Environment) : Except Failure Path :=
  match s.preferencesDirectory with
  | some dir => .ok ⟨dir⟩
  | none => match env.configDirectory? with
    | some dir => .ok (dir.join ⟨"chatdroid"⟩)
    | none => .error (.config "Could not determine config directory")

/-- The path of the cache: the configured one, the one of the environment, or one in the directory
for data. -/
def cacheFile (s : StorageConfig) (env : Environment) : Except Failure Path :=
  match s.cachePath.or (env "CHATDROID_DB") with
  | some p => .ok ⟨p⟩
  | none => match env.dataDirectory? with
    | some dir => .ok (dir.join ⟨"chatdroid/chatdroid.db"⟩)
    | none => .error (.storage "Could not determine data directory")

end StorageConfig

namespace ChatConfig

/-- What new chats get from a program that is told nothing. -/
def initial : ChatConfig := ⟨"gpt-3.5-turbo", "New Chat"⟩

/-- How the configuration of new chats is read. -/
def kind : ConfigKind ChatConfig :=
  .record "ChatConfig"
    (.cons (.defaulted "default_model" .string initial.defaultModel) <|
     .cons (.defaulted "default_title" .string initial.defaultTitle) .nil)
    (fun (defaultModel, defaultTitle, _) => ⟨defaultModel, defaultTitle⟩)
    (fun c => (c.defaultModel, c.defaultTitle, ()))

end ChatConfig

namespace Config

/-- The configuration of a program that is told nothing. -/
def initial : Config := ⟨.initial, .initial, .initial⟩

/-- How configurations are read. -/
def kind : ConfigKind Config :=
  .record "Config"
    (.cons (.defaulted "server" ServerConfig.kind .initial) <|
     .cons (.defaulted "storage" StorageConfig.kind .initial) <|
     .cons (.defaulted "chat" ChatConfig.kind .initial) .nil)
    (fun (server, storage, chat, _) => ⟨server, storage, chat⟩)
    (fun c => (c.server, c.storage, c.chat, ()))

/-- How configurations are written and read as JSON. -/
def codec : Codec Config := kind.json

/-- Read the text of a configuration file. -/
def ofYaml (text : String) : Except YamlError Config := kind.yaml.decode text

/-- Read a configuration file.  Without one everything is as in the initial configuration. -/
def ofFile (d : Disk) (path : Path) : Except Failure Config :=
  match d.node? path with
  | none => .ok initial
  | some _ => match d.readText path with
    | .error e => .error (.config ("Failed to read config file: " ++ e.message))
    | .ok text => match ofYaml text with
      | .ok c => .ok c
      | .error e => .error (.config ("Failed to parse config: " ++ e.message))

/-- What the environment says instead. -/
def withEnvironment (c : Config) (env : Environment) : Config :=
  { server := { c.server with
      baseUrl := (env "CHATDROID_SERVER_URL").getD c.server.baseUrl
      socketUrl := (env "CHATDROID_WS_URL").or c.server.socketUrl
      timeoutSeconds :=
        ((env "CHATDROID_TIMEOUT_SECONDS").bind (Decimal.natural? 0xFFFFFFFFFFFFFFFF)).or
          c.server.timeoutSeconds }
    storage := { c.storage with
      preferencesDirectory := (env "CHATDROID_PREFERENCES_DIR").or c.storage.preferencesDirectory }
    chat := { c.chat with
      defaultModel := (env "CHATDROID_DEFAULT_MODEL").getD c.chat.defaultModel } }

/-- What the command line says instead. -/
def withChoices (c : Config) (server cachePath : Option String) : Config :=
  { c with
    server := { c.server with baseUrl := server.getD c.server.baseUrl }
    storage := { c.storage with cachePath := cachePath.or c.storage.cachePath } }

/-- The configuration of a run: the file, then the environment, then the command line. -/
def load (d : Disk) (env : Environment) (path : Path) (server cachePath : Option String) :
    Except Failure Config :=
  (ofFile d path).map fun c => (c.withEnvironment env).withChoices server cachePath

/-- What is wrong with the address of the socket. -/
def checkSocket (url : String) : Except Failure Unit :=
  match Url.ofText url with
  | .error e => .error (.config ("server.websocket_url is not a valid URL: " ++ e.message))
  | .ok u =>
    if u.scheme ∈ ["ws", "wss"] then .ok ()
    else .error (.config "server.websocket_url must use ws or wss")

/-- What is wrong with the address of the server. -/
def checkBase (url : String) : Except Failure Unit :=
  match Url.ofText url with
  | .error e =>
    .error (.config ("server.base_url is not a valid URL (" ++ url ++ "): " ++ e.message))
  | .ok u =>
    if u.scheme ∈ ["http", "https"] then .ok ()
    else .error (.config ("server.base_url must use http or https, got " ++ u.scheme))

/-- The first thing that is wrong with a configuration. -/
def check (c : Config) : Except Failure Unit := do
  checkBase c.server.baseUrl
  match c.server.socketUrl with
  | some url => checkSocket url
  | none => pure ()
  if c.server.timeoutSeconds = some 0 then
    throw (.config "server.timeout_seconds must be greater than 0")
  if Text.trim c.chat.defaultModel = "" then
    throw (.config "chat.default_model cannot be empty")
  if Text.trim c.chat.defaultTitle = "" then
    throw (.config "chat.default_title cannot be empty")

end Config
end OfflineChat
