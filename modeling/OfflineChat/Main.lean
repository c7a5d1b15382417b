import OfflineChat.CommandLine.Usage
import OfflineChat.Http.Wire
import OfflineChat.Run
import Std.Async.DNS
import Std.Async.TCP
import Std.Time.DateTime.Timestamp

/-! # The command line

Reads what a run depends on from the machine, lets the library carry the command
out, passes its requests on, and writes back what it changed.
-/
namespace OfflineChat
namespace Machine

open Std.Async

/-! ## The disk -/

/-- Whether a system call failed because there is a directory. -/
def isDirectoryError : IO.Error → Bool
  | .illegalOperation code _ | .inappropriateType _ code _ => code == 21
  | _ => false

/-- Take a path of the machine over to a disk. -/
def look (d : Disk) (path : Path) : IO Disk := do
  match ← (IO.FS.readBinFile path.text).toBaseIO with
  | .ok content => pure (d.put path (.file content))
  | .error e => pure (if isDirectoryError e then d.put path .directory else d)

/-- Take paths over to a disk, each with the directories it goes through. -/
def lookAll (d : Disk) (paths : List Path) : IO Disk :=
  (paths.flatMap Path.lineage).eraseDups.foldlM look d

/-- Do at a path what turned one disk into another. -/
def settle (old new : Disk) (path : Path) : IO Unit :=
  match old.node? path, new.node? path with
  | none, some .directory => IO.FS.createDir path.text
  | some (.file a), some (.file b) => if a == b then pure () else IO.FS.writeBinFile path.text b
  | none, some (.file b) => IO.FS.writeBinFile path.text b
  | some (.file _), none => IO.FS.removeFile path.text
  | _, _ => pure ()

/-- Do at paths what turned one disk into another. -/
def settleAll (old new : Disk) (paths : List Path) : IO Unit :=
  (paths.flatMap Path.lineage).eraseDups.forM (settle old new)

/-! ## The server -/

/-- The address of a port. -/
def socketAddress (port : UInt16) : Std.Net.IPAddr → Std.Net.SocketAddress
  | .v4 a => .v4 ⟨a, port⟩
  | .v6 a => .v6 ⟨a, port⟩

/-- Send octets to the first of some addresses that takes them; what comes until the other side
hangs up. -/
def talk (octets : ByteArray) : List Std.Net.SocketAddress → Async ByteArray
  | [] => throw (IO.userError "no address answers")
  | address :: rest => do
    let socket ← TCP.Socket.Client.mk
    let connected ← try
        socket.connect address
        pure true
      catch e => if rest.isEmpty then throw e else pure false
    if !connected then return ← talk octets rest
    socket.send octets
    let mut received := ByteArray.empty
    repeat
      match ← socket.recv? 65536 with
      | some piece => received := received ++ piece
      | none => break
    return received

/-- The name of a host, as it is looked up. -/
def hostName : UrlHost → String
  | .groups gs => Url.addressOfGroupsText gs
  | h => h.text

/-- Send a request over a connection of its own; the reply to it. -/
def exchange (boundary : String) (r : HttpRequest) : IO HttpReply := do
  match r.url.host, r.url.port.or (Url.usualPort? r.url.scheme) with
  | some host, some port =>
    if r.url.scheme ≠ "http" then return .nothing "no encrypted connection can be opened"
    let conversation : Async ByteArray := do
      let addresses ← DNS.getAddrInfo (hostName host) (toString port)
      talk (r.octets boundary) (addresses.toList.map (socketAddress port.toUInt16))
    match ← conversation.block.toBaseIO with
    | .ok octets => return .ofOctets octets
    | .error e => return .nothing (toString e)
  | _, _ => return .nothing "there is no host"

/-! ## The run -/

/-- The environment, as far as it counts. -/
def environment : IO Environment := do
  let values ← Run.variableNames.filterMapM fun name => do
    return (← IO.getEnv name).map (name, ·)
  return fun name => values.lookup name

/-- A random number of sixteen octets. -/
def randomNumber : IO Nat := do
  return (← IO.getRandomBytes 16).toList.foldl (fun n b => 256 * n + b.toNat) 0

/-- The clock and a supply of fresh ids. -/
def surroundings : IO Surroundings := do
  let now ← Std.Time.Timestamp.now
  let seed ← randomNumber
  return ⟨now.toSecondsSinceUnixEpoch.val, fun n => Uuid.text (seed + n), 0⟩

/-- Carry out a run, putting its requests to the server one after the other. -/
partial def converse (boundary : String) (run : List HttpReply → RunResult)
    (replies : List HttpReply) : IO RunResult := do
  let result := run replies
  match result.unanswered with
  | none => return result
  | some request => converse boundary run (replies ++ [← exchange boundary request])

/-- What the user types for a command.  The prompt is printed first. -/
def typedFor (c : Command) : IO String := do
  if !c.asksPassword then return ""
  IO.print Program.passwordPrompt
  (← IO.getStdout).flush
  (← IO.getStdin).getLine

/-- Tell of a failure. -/
def complain (e : Failure) : IO UInt32 := do
  IO.eprintln ("Error: " ++ e.message)
  return 1

/-- Carry out an invocation. -/
def carryOut (env : Environment) (i : Invocation) : IO UInt32 := do
  let empty : Disk := ⟨Dict.empty⟩
  let occasion : Occasion := ⟨env, ← lookAll empty [⟨i.config⟩], ← surroundings, ""⟩
  let config ← match Run.configOf occasion i with
    | .ok config => pure config
    | .error e => return ← complain e
  let places ← match Run.places env config i.command with
    | .ok places => pure places
    | .error e => return ← complain e
  let disk ← lookAll occasion.disk places
  let typed ← typedFor i.command
  let run := Run.carryOut { occasion with disk := disk, typed := typed } config i.command
  let result ← converse (Uuid.text (← randomNumber)) run []
  settleAll disk result.disk places
  let prompt := if i.command.asksPassword then Program.passwordPrompt.length else 0
  IO.print (result.printed.drop prompt)
  (← IO.getStdout).flush
  match result.failure with
  | none => return 0
  | some e => complain e

end Machine
end OfflineChat

/-- The program. -/
def main (args : List String) : IO UInt32 := do
  let env ← OfflineChat.Machine.environment
  match OfflineChat.Invocation.ofWords env args with
  | .ok invocation => OfflineChat.Machine.carryOut env invocation
  | .error e =>
    let lines := OfflineChat.Invocation.rejection e
    if e.isAsked then
      lines.forM IO.println
      return 0
    else
      lines.forM IO.eprintln
      return 2
