import OfflineChat.CommandLine.Grammar

/-! # Commands

What the program can be asked to do, and the grammar of its command line.
-/
namespace OfflineChat

/-- What the program is asked to do. -/
inductive Command where
  | login (email : String) (password : Option String)
  | logout
  | listChats (json : Bool)
  | showChat (id : String) (watch : Bool)
  | newChat (title : Option String)
  | deleteChat (id : String)
  | searchChats (query : String)
  | pinChat (id : String)
  | archiveChat (id : String)
  | failedMessages (id : String)
  | send (chatId text : String)
  | sync
  | listModels (json : Bool)
  | uploadFile (path : String)
  | listFiles (json : Bool)
  | fileInfo (id : String)
  | deleteFile (id : String)
  | downloadFile (id output : String)
  | showSettings
  | setSetting (key value : String)
  | cacheStats
  | clearCache
  | listen (url : Option String)
deriving DecidableEq, Repr

/-- A command with the choices made in front of it. -/
structure Invocation where
  /-- The path of the configuration. -/
  config : String
  verbose : Bool
  /-- The path of the cache, in place of the configured one. -/
  cachePath : Option String
  /-- The server, in place of the configured one. -/
  server : Option String
  command : Command
deriving DecidableEq, Repr

namespace Invocation

/-- The path of the configuration, unless another one is given. -/
def usualConfig : String := "config/config.yaml"

/-- The command of a program that is given none. -/
def initial : Invocation := ⟨usualConfig, false, none, none, .sync⟩

/-- The variable that names the cache. -/
def cacheVariable : String := "CHATDROID_DB"

/-- A command with no options of its own. -/
def plain (operands : List String) (build : Given → Command) : Grammar Command :=
  .command [.help] (operands.map (⟨·, false⟩)) build

/-- A command with the switch for JSON. -/
def listing (build : Bool → Command) : Grammar Command :=
  .command [.switch "json" (some 'j'), .help] [] fun g => build (g.has "json")

/-- The commands about chats. -/
def chats : Grammar Command := .choice [.help] [
  ("list", listing .listChats),
  ("show", .command [.switch "watch" (some 'w'), .help] [⟨"id", false⟩] fun g =>
    .showChat (g.value "id") (g.has "watch")),
  ("new", .command [.valued "title" (some 't') false false, .help] [] fun g =>
    .newChat (g.value? "title")),
  ("delete", plain ["id"] fun g => .deleteChat (g.value "id")),
  ("search", plain ["query"] fun g => .searchChats (g.value "query")),
  ("pin", plain ["id"] fun g => .pinChat (g.value "id")),
  ("archive", plain ["id"] fun g => .archiveChat (g.value "id")),
  ("failed", plain ["id"] fun g => .failedMessages (g.value "id"))]

/-- The commands about files. -/
def files : Grammar Command := .choice [.help] [
  ("upload", .command [.help] [⟨"path", true⟩] fun g => .uploadFile (g.value "path")),
  ("list", listing .listFiles),
  ("info", plain ["id"] fun g => .fileInfo (g.value "id")),
  ("delete", plain ["id"] fun g => .deleteFile (g.value "id")),
  ("download", .command [.valued "output" (some 'o') true true, .help] [⟨"id", false⟩] fun g =>
    .downloadFile (g.value "id") (g.value "output"))]

/-- The commands of the program. -/
def grammar : Grammar Command := .choice
  [.valued "config" (some 'c') false false, .switch "verbose" (some 'v'),
    (OptionRule.valued "storage-path" none false false).orVariable cacheVariable,
    .valued "server" none false false, .help, .version] [
  ("login", .command [.valued "email" (some 'e') true false,
      (OptionRule.valued "password" (some 'p') false false).orVariable "CHATDROID_PASSWORD",
      .help] []
    fun g => .login (g.value "email") (g.value? "password")),
  ("logout", plain [] fun _ => .logout),
  ("chats", chats),
  ("send", plain ["chat-id", "text"] fun g => .send (g.value "chat-id") (g.value "text")),
  ("sync", plain [] fun _ => .sync),
  ("models", .choice [.help] [("list", listing .listModels)]),
  ("files", files),
  ("settings", .choice [.help] [
    ("show", plain [] fun _ => .showSettings),
    ("set", plain ["key", "value"] fun g => .setSetting (g.value "key") (g.value "value"))]),
  ("cache", .choice [.help] [
    ("stats", plain [] fun _ => .cacheStats),
    ("clear", plain [] fun _ => .clearCache)]),
  ("listen", .command [.valued "url" none false false, .help] [] fun g => .listen (g.value? "url"))]

/-- Read the words of a command line. -/
def ofWords (env : String → Option String) (words : List String) :
    Except UsageError Invocation :=
  (grammar.read env words).map fun (g, command) =>
    { config := (g.value? "config").getD usualConfig
      verbose := g.has "verbose"
      cachePath := g.value? "storage-path"
      server := g.value? "server"
      command := command }

end Invocation
end OfflineChat
