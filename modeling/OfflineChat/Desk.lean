import OfflineChat.Account
import OfflineChat.Client.Chats
import OfflineChat.Files.Transfer
import OfflineChat.Store.Basic

/-! # The desk

What the commands of the program work on: the configuration, the disk, the
settings and the session kept on it, the store, and what was typed and printed.
`Desk.ofConfig` lays everything out for a configuration.
-/
namespace OfflineChat

/-- What commands work on, over the states of a server. -/
structure Desk (σ : Type) where
  config : Config
  disk : Disk
  settings : Preferences AppSettings
  session : Preferences AuthSession
  cachePath : Path
  store : Store σ
  /-- What the user has typed and no command has read. -/
  typed : String
  /-- What was printed. -/
  printed : String

/-- A part of a command: it answers or fails, and leaves a desk behind either way. -/
abbrev DeskOp (σ : Type) := ExceptT Failure (StateM (Desk σ))

namespace Desk

variable {σ α : Type}

/-- Print a text. -/
def print (s : String) : DeskOp σ Unit := modify fun d => { d with printed := d.printed ++ s }

/-- Print a line. -/
def say (line : String) : DeskOp σ Unit := print (line ++ "\n")

/-- Print lines. -/
def sayAll (lines : List String) : DeskOp σ Unit := lines.forM say

/-- An operation of the store. -/
def onStore (op : StoreOp σ α) : DeskOp σ α := fun d =>
  let (r, s) := op d.store
  (r, { d with store := s })

/-- The outcome of a part, which does not end the command if it fails. -/
def outcome (op : DeskOp σ α) : DeskOp σ (Except Failure α) := fun d =>
  let (r, d) := op.run d
  (.ok r, d)

/-- A request put to the server without the store. -/
def ask (api : ServerApi σ) (r : ChatRequest) : DeskOp σ r.Answer :=
  onStore fun s => s.ask api r

/-- An operation on the account of a desk with a connection. -/
def onAccount (op : AccountOp σ α) : DeskOp (Connection σ) α := fun d =>
  let (r, a) := op ⟨d.store.server, d.session, d.disk⟩
  (r, { d with
    store := { d.store with server := a.connection }, session := a.session, disk := a.disk })

/-- An exchange over the connection of a desk. -/
def onConnection (op : ClientOp σ α) : DeskOp (Connection σ) α := fun d =>
  let (r, c) := op d.store.server
  (r, { d with store := { d.store with server := c } })

/-- Read the line that was typed, without the marks of its end. -/
def readLine : DeskOp σ String := fun d =>
  let line := d.typed.toList.takeWhile (· != '\n')
  let bare := (line.reverse.dropWhile (· == '\r')).reverse
  let rest := d.typed.toList.drop (line.length + 1)
  (.ok (String.ofList bare), { d with typed := String.ofList rest })

/-- Change a setting in a copy of the settings, and keep the copy if the text is taken; the settings
after it. -/
def changeSetting (key value : String) (t : Trouble := .none) : DeskOp σ AppSettings := fun d =>
  match d.settings.value.set key value with
  | (.error e, _) => (.error e, d)
  | (.ok _, changed) =>
    let (r, settings, disk) := d.settings.update AppSettings.kind d.disk (fun _ => changed) t
    (r, { d with disk := disk, settings := settings })

/-- Go back to the initial settings. -/
def resetSettings (t : Trouble := .none) : DeskOp σ Unit := fun d =>
  let (r, settings, disk) := d.settings.reset AppSettings.kind d.disk t
  (r, { d with disk := disk, settings := settings })

/-- Open the cache at a path beside the one in use. -/
def openCache (path : Path) : DeskOp σ Cache := fun d =>
  let saved := d.disk.put d.cachePath (.database d.store.cache)
  match Cache.openAt saved path with
  | .error e => (.error e, d)
  | .ok (disk, cache) => (.ok cache, { d with disk := disk })

/-- Open the cache in use again. -/
def reopenCache : DeskOp σ Unit := do
  let cache ← openCache (← get).cachePath
  modify fun d => { d with
    store := { d.store with cache := cache, defaultTitle := Store.usualTitle } }

/-- Lay out a desk for a configuration: the session on the disk is taken up, and the settings say
what models are asked for. -/
def ofConfig (config : Config) (env : Environment) (surroundings : Surroundings) (d : Disk)
    (link : σ) : Except Failure (Desk (Connection σ)) := do
  let client ← HttpClient.ofConfig config.server
  let dir ← config.storage.preferencesPath env
  let (d, settings) ← Preferences.openAt AppSettings.kind d (dir.join ⟨AppSettings.fileName⟩)
  let (d, session) ← Preferences.openAt AuthSession.kind d (dir.join ⟨AuthSession.fileName⟩)
  let client := { client with completion := .ofSettings config settings.value }
  let (_, account) := Account.restore surroundings.now ⟨⟨client, link⟩, session, d⟩
  let cachePath ← config.storage.cacheFile env
  let (d, cache) ← Cache.openAt d cachePath
  pure {
    config := config
    disk := d
    settings := settings
    session := session
    cachePath := cachePath
    store := ⟨cache, account.connection, surroundings, config.chat.defaultTitle, []⟩
    typed := ""
    printed := "" }

end Desk
end OfflineChat
