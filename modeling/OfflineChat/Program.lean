import OfflineChat.CommandLine.Command
import OfflineChat.Desk
import OfflineChat.Report.Records
import OfflineChat.Socket.Basic
import OfflineChat.StreamChunk

/-! # The program

What each command does at a desk.  `Program.onStore?` has the commands that any
server will do for, and `Program.run` has all of them.  A command that cannot
reach the server shows what is cached wherever that serves.
-/
namespace OfflineChat

/-! ## What a listener prints -/

namespace Report

/-- What is printed of a frame. -/
def frame (text : String) : String :=
  match StreamChunk.ofFrame text with
  | .ok (some chunk) => chunk.text ++ (if chunk.isFinished then "\n" else "")
  | .ok none => "\n"
  | .error _ => text ++ "\n"

/-- What is printed of an event. -/
def socketEvent (url : String) : SocketEvent → String
  | .connecting => "Connecting to " ++ url ++ "\n"
  | .connected => "Connected\n"
  | .message text => frame text
  | .disconnected => "Disconnected\n"
  | .failed reason => "WebSocket error: " ++ reason ++ "\n"

/-- What is printed of the events of a socket, up to the last. -/
def listening (url : String) : List SocketEvent → String
  | [] => ""
  | e :: rest => socketEvent url e ++ (if e.isLast then "" else listening url rest)

end Report

namespace Program

open Desk

variable {σ : Type}

/-! ## Chats -/

/-- List the chats, after a try to refresh them. -/
def listChats (api : ServerApi σ) (json : Bool) : DeskOp σ Unit := do
  match ← outcome (onStore (Store.refreshChats api)) with
  | .error e =>
    if !json then say ("Offline, showing cached chats (" ++ e.message ++ ")")
  | .ok _ => pure ()
  let entries ← onStore Store.cachedChats
  if json then say ((Codec.list ChatListEntry.codec).write entries).pretty
  else sayAll (Report.chatList entries)

/-- Show the thread of a chat, from the cache if the server cannot be asked. -/
def showChat (api : ServerApi σ) (chatId : String) : DeskOp σ Unit := do
  let showTimes := (← get).settings.value.showTimestamps
  match ← outcome (onStore (Store.refreshMessages api chatId)) with
  | .ok thread => sayAll (Report.thread showTimes thread)
  | .error (.notFound what) => throw (.notFound what)
  | .error e =>
    if !e.isRemote then throw e
    say ("Offline, showing cached messages (" ++ e.message ++ ")")
    sayAll (Report.cachedThread showTimes (← onStore (Store.cachedMessages chatId)))

/-- Show what a live view of a chat shows first. -/
def watchChat (chatId : String) : DeskOp σ Unit := do
  let showTimes := (← get).settings.value.showTimestamps
  say ("Watching chat " ++ chatId ++ " (Ctrl-C to stop)")
  say (TextTable.fill 40 '-')
  sayAll (Report.cachedThread showTimes (← onStore (Store.cachedMessages chatId)))

/-- Create a chat, if need be on this device only. -/
def newChat (api : ServerApi σ) (title : Option String) : DeskOp σ Unit := do
  match ← outcome (onStore (Store.createChat api title)) with
  | .ok chat => say ("Created chat " ++ chat.id ++ " (" ++ chat.title ++ ")")
  | .error (.offlineFallback localId reason) =>
    say ("Server unreachable (" ++ reason ++ "); created local chat " ++ localId)
  | .error e => throw e

/-- Delete a chat. -/
def deleteChat (api : ServerApi σ) (chatId : String) : DeskOp σ Unit := do
  let _ ← onStore (Store.deleteChat api chatId)
  say ("Deleted chat " ++ chatId)

/-- Look for chats by title. -/
def searchChats (query : String) : DeskOp σ Unit := do
  sayAll (Report.foundChats query (← onStore (Store.searchChats query)))

/-- Flip a flag of a chat. -/
def toggle (api : ServerApi σ) (f : ChatFlag) (chatId : String) : DeskOp σ Unit := do
  let chat ← onStore (Store.toggle api f chatId)
  say (match f with
    | .pinned => Report.flagLine chat.id "pinned" chat.pinned
    | .archived => Report.flagLine chat.id "archived" chat.archived)

/-- Show the messages of a chat that did not reach the server. -/
def failedMessages (chatId : String) : DeskOp σ Unit := do
  sayAll (Report.failedMessages (← onStore (Store.failedMessages chatId)))

/-- Send a text to a chat. -/
def send (api : ServerApi σ) (chatId text : String) : DeskOp σ Unit := do
  match ← outcome (onStore (Store.sendMessage api chatId text)) with
  | .ok reply => say reply
  | .error e =>
    say "Message kept locally and marked as failed. See `chatdroid chats failed`."
    throw e

/-- Refresh the list of chats. -/
def sync (api : ServerApi σ) : DeskOp σ Unit := do
  let count ← onStore (Store.refreshChats api)
  say ("Synced " ++ toString count ++ " chats")

/-! ## Models, settings and the cache -/

/-- List the models. -/
def listModels (api : ServerApi σ) (json : Bool) : DeskOp σ Unit := do
  let models : List Model ← ask api .listModels
  if json then say ((Codec.list Model.codec).write models).pretty
  else sayAll (Report.modelList models)

/-- Show the settings. -/
def showSettings : DeskOp σ Unit := do
  let d ← get
  sayAll (Report.settings d.config d.settings.value d.settings.path)

/-- Change a setting. -/
def setSetting (key value : String) : DeskOp σ Unit := do
  let _ ← changeSetting key value
  say ("Set " ++ key ++ " = " ++ value)

/-- Show how many rows are cached. -/
def cacheStats : DeskOp σ Unit := do
  let stats ← onStore Store.stats
  sayAll (Report.cacheStats (← get).cachePath stats)

/-- Remove every cached row. -/
def clearCache : DeskOp σ Unit := do
  onStore Store.clearAll
  say "Local cache cleared"

/-- What a command does, if any server will do for it. -/
def onStore? (api : ServerApi σ) : Command → Option (DeskOp σ Unit)
  | .listChats json => some (listChats api json)
  | .showChat id watch => some (if watch then watchChat id else showChat api id)
  | .newChat title => some (newChat api title)
  | .deleteChat id => some (deleteChat api id)
  | .searchChats query => some (searchChats query)
  | .pinChat id => some (toggle api .pinned id)
  | .archiveChat id => some (toggle api .archived id)
  | .failedMessages id => some (failedMessages id)
  | .send chatId text => some (send api chatId text)
  | .sync => some (sync api)
  | .listModels json => some (listModels api json)
  | .showSettings => some showSettings
  | .setSetting key value => some (setSetting key value)
  | .cacheStats => some cacheStats
  | .clearCache => some clearCache
  | _ => none

/-! ## The account -/

/-- What a password is asked for with. -/
def passwordPrompt : String := "Password: "

/-- Sign in; the password is asked for if it is not given. -/
def login (link : Link σ) (email : String) (password : Option String) :
    DeskOp (Connection σ) Unit := do
  let password ← match password with
    | some p => pure p
    | none =>
      print passwordPrompt
      readLine
  if password = "" then throw (.authentication "Password must not be empty")
  let answer ← onAccount (Account.login link email password)
  say ("Signed in as " ++ answer.name.getD answer.email)

/-- Sign out. -/
def logout : DeskOp (Connection σ) Unit := do
  onAccount Account.logout
  say "Signed out"

/-! ## Files -/

/-- Print a step of an upload; its failure ends the command. -/
def showStep (path : Path) : UploadStep → DeskOp (Connection σ) Unit
  | .starting => say ("Preparing " ++ path.text)
  | .uploading percent => say ("Uploading... " ++ toString percent ++ "%")
  | .done file => say (Report.uploaded file)
  | .failed reason => throw (.file reason)

/-- Upload a file. -/
def uploadFile (link : Link σ) (path : Path) : DeskOp (Connection σ) Unit := do
  let steps ← onAccount fun a =>
    let (steps, a) := Transfer.upload link path defaultUploadLimit a
    (.ok steps, a)
  steps.forM (showStep path)

/-- List the files. -/
def listFiles (link : Link σ) (json : Bool) : DeskOp (Connection σ) Unit := do
  let files ← onConnection (Connection.listFiles link)
  if json then say ((Codec.list ServerFile.codec).write files).pretty
  else sayAll (Report.fileList files)

/-- Show what is known of a file. -/
def fileInfo (link : Link σ) (fileId : String) : DeskOp (Connection σ) Unit := do
  sayAll (Report.fileDetails (← onConnection (Connection.getFile link fileId)))

/-- Delete a file. -/
def deleteFile (link : Link σ) (fileId : String) : DeskOp (Connection σ) Unit := do
  onConnection (Connection.deleteFile link fileId)
  say ("Deleted file " ++ fileId)

/-- Download a file to a path. -/
def downloadFile (link : Link σ) (fileId : String) (path : Path) : DeskOp (Connection σ) Unit := do
  let size ← onAccount (Transfer.download link fileId path)
  say ("Saved " ++ formatSize size ++ " to " ++ path.text)

/-! ## Listening -/

/-- Listen to a socket whose events are given by `dial`. -/
def listen (dial : String → Option String → List SocketEvent) (url : Option String) :
    DeskOp (Connection σ) Unit := do
  let d ← get
  let address ← match url with
    | some u => pure u
    | none => match d.config.server.socketAddress with
      | .ok u => pure u
      | .error e => throw e
  print (Report.listening address (dial address d.store.server.client.token))

/-- Carry out a command.  Files are looked for below the directory `here`. -/
def run (link : Link σ) (dial : String → Option String → List SocketEvent) (here : Path)
    (c : Command) : DeskOp (Connection σ) Unit :=
  match onStore? (Connection.api link) c with
  | some op => op
  | none => match c with
    | .login email password => login link email password
    | .logout => logout
    | .uploadFile path => uploadFile link (here.join ⟨path⟩)
    | .listFiles json => listFiles link json
    | .fileInfo id => fileInfo link id
    | .deleteFile id => deleteFile link id
    | .downloadFile id output => downloadFile link id (here.join ⟨output⟩)
    | .listen url => listen dial url
    | _ => pure ()

end Program
end OfflineChat
