import OfflineChat.Failure
import OfflineChat.Socket.Address

/-! # The socket

A socket as a machine.  Its holder asks it to send texts and to close; the other
side sends frames, or breaks off; a listener takes the events it is told.  Between
them stands a task, which does one thing at a time: what the others do in the
meantime waits for it.  Who moves next is nobody's choice: a run is any list of
`SocketStep`s, and `Socket.step` says what each does.

A listener is told `connecting` first, then of one failure, or `connected`,
messages, and one end.
-/
namespace OfflineChat

/-- What a listener is told. -/
inductive SocketEvent where
  | connecting
  | connected
  | message (text : String)
  | disconnected
  | failed (reason : String)
deriving DecidableEq, Repr

namespace SocketEvent

/-- Whether nothing is told after the event. -/
def isLast : SocketEvent → Bool
  | .disconnected | .failed _ => true
  | _ => false

end SocketEvent

/-- What comes from the other side. -/
inductive Arrival where
  | text (s : String)
  | binary (octets : List UInt8)
  /-- A frame that keeps the connection alive. -/
  | keepAlive
  | close
  /-- The connection fails. -/
  | fault (reason : String)
  /-- Nothing comes any more. -/
  | ended
deriving DecidableEq, Repr

namespace Arrival

/-- The text a frame carries. -/
def text? : Arrival → Option String
  | .text s => some s
  | .binary octets => some (Text.decodeLossy octets)
  | _ => none

end Arrival

/-- What the holder of a socket asks for. -/
inductive SocketCommand where
  | send (text : String)
  | close
deriving DecidableEq, Repr

/-- How far the task behind a socket has come. -/
inductive SocketPhase where
  /-- It has an event for the listener. -/
  | telling (e : SocketEvent)
  /-- The other side has not answered yet. -/
  | opening
  | open
  /-- Nobody listens, and it closes the connection. -/
  | leaving
  /-- It was asked to close, and waits for the other side to agree. -/
  | closing
  | finished
deriving DecidableEq, Repr

namespace SocketEvent

/-- What the task goes on to once the event is told. -/
def next : SocketEvent → SocketPhase
  | .connecting => .opening
  | .connected | .message _ => .open
  | .disconnected | .failed _ => .finished

end SocketEvent

/-- A socket. -/
structure Socket where
  /-- Why no connection can be asked for, if so. -/
  obstacle : Option String
  phase : SocketPhase
  /-- Whether texts can be sent. -/
  isConnected : Bool
  /-- What came from the other side and is not read yet. -/
  arrived : List Arrival
  /-- What the holder asked for and is not done yet. -/
  queue : List SocketCommand
  /-- Whether someone holds the socket. -/
  held : Bool
  /-- Whether someone listens. -/
  heard : Bool
  /-- What the listener was told. -/
  events : List SocketEvent
  /-- How much of it the listener took. -/
  taken : Nat
  /-- The texts sent. -/
  sent : List String
deriving DecidableEq, Repr

/-- A step of a run. -/
inductive SocketStep where
  /-- The listener is told the event that the task has for it, once there is room. -/
  | tells
  /-- The listener takes an event. -/
  | takes
  /-- The other side answers, or cannot be reached. -/
  | answered (result : Except String Unit)
  /-- Something comes from the other side. -/
  | arrives (a : Arrival)
  /-- The eldest of what came is read. -/
  | reads
  /-- The eldest wish of the holder is met; `failure` is why a text could not be sent. -/
  | serves (failure : Option String)
  /-- The other side has had its time to agree to the close. -/
  | drained
  | asks (c : SocketCommand)
  /-- The holder lets go. -/
  | released
  /-- The listener goes away. -/
  | unheard
  /-- The task notices that nobody listens. -/
  | noticed
  /-- The connection is closed because nobody listens. -/
  | left

namespace Socket

/-- The most events that wait for a listener. -/
def eventRoom : Nat := 64

/-- A socket that has just been made. -/
def start (obstacle : Option String) : Socket :=
  ⟨obstacle, .telling .connecting, false, [], [], true, true, [], 0, []⟩

/-- Have something to tell the listener. -/
def tell (s : Socket) (e : SocketEvent) : Socket := { s with phase := .telling e }

/-- Have the last thing to tell the listener. -/
def finish (s : Socket) (e : SocketEvent) : Socket := { s with isConnected := false }.tell e

/-- End without telling anything. -/
def quit (s : Socket) : Socket := { s with isConnected := false, phase := .finished }

/-- Tell the listener something, once there is room.  Without a listener the task ends. -/
def handOver (s : Socket) (e : SocketEvent) : Socket :=
  if !s.heard then s.quit
  else if s.events.length < s.taken + eventRoom then
    { s with events := s.events ++ [e], phase := e.next }
  else s

/-- How an attempt to open a connection ends. -/
def outcome (s : Socket) (result : Except String Unit) : Except String Unit :=
  match s.obstacle with
  | some reason => .error reason
  | none => result

/-- The attempt to open a connection is over. -/
def attempt (s : Socket) (result : Except String Unit) : Socket :=
  match s.outcome result with
  | .ok _ => { s with isConnected := true }.tell .connected
  | .error reason => s.finish (.failed reason)

/-- Something comes from the other side of an open socket. -/
def receive (s : Socket) (a : Arrival) : Socket :=
  match a.text? with
  | some text => s.tell (.message text)
  | none => match a with
    | .close | .ended => s.finish .disconnected
    | .fault reason => s.finish (.failed reason)
    | _ => s

/-- Something comes from the other side of a socket that waits to be closed. -/
def discard (s : Socket) : Arrival → Socket
  | .fault _ | .ended => s.tell .disconnected
  | _ => s

/-- Read the eldest of what came. -/
def read (s : Socket) : Socket :=
  match s.arrived with
  | [] => s
  | a :: rest =>
    match s.phase with
    | .open => { s with arrived := rest }.receive a
    | .closing => { s with arrived := rest }.discard a
    | _ => s

/-- Wait for the other side to agree to the close. -/
def close (s : Socket) : Socket := { s with isConnected := false, phase := .closing }

/-- Meet the eldest wish of the holder.  A holder who has let go wishes to close. -/
def serve (s : Socket) (failure : Option String) : Socket :=
  match s.queue with
  | .send text :: rest =>
    let s := { s with queue := rest }
    match failure with
    | some reason => s.finish (.failed reason)
    | none => { s with sent := s.sent ++ [text] }
  | .close :: rest => { s with queue := rest }.close
  | [] => if s.held then s else s.close

/-- Take one step.  A step that cannot happen changes nothing. -/
def step (s : Socket) : SocketStep → Socket
  | .tells => match s.phase with
    | .telling e => s.handOver e
    | _ => s
  | .takes => if s.taken < s.events.length then { s with taken := s.taken + 1 } else s
  | .answered result => if s.phase = .opening then s.attempt result else s
  | .arrives a => { s with arrived := s.arrived ++ [a] }
  | .reads => s.read
  | .serves failure => if s.phase = .open then s.serve failure else s
  | .drained => if s.phase = .closing then s.tell .disconnected else s
  | .asks c => if s.phase = .finished then s else { s with queue := s.queue ++ [c] }
  | .released => { s with held := false }
  | .unheard => { s with heard := false }
  | .noticed => if s.phase = .open && !s.heard then { s with phase := .leaving } else s
  | .left => if s.phase = .leaving then s.quit else s

/-- Take steps one after the other. -/
def run (s : Socket) (steps : List SocketStep) : Socket := steps.foldl step s

/-- Ask for a text to be sent. -/
def sendText (s : Socket) (text : String) : Except Failure Socket :=
  if !s.isConnected then .error (.webSocket "Socket is not connected")
  else if s.phase = .finished then .error (.webSocket "Connection task has stopped")
  else .ok (s.step (.asks (.send text)))

/-- Why no connection to an address can be asked for, if so. -/
def obstacle? (url : String) (token : Option String) : Option String :=
  match SocketAddress.ofText url with
  | .error e => some ("Invalid WebSocket URL: " ++ e.message)
  | .ok a =>
    if token.any (!fitsHead ·) then some ("Invalid token: " ++ badHead)
    else match a.usedPort? with
      | none => some "URL error: URL scheme not supported"
      | some _ => none

/-- A socket for an address, opened in the name of a token. -/
def connect (url : String) (token : Option String) : Socket := start (obstacle? url token)

/-- A socket for an address that nobody answers at, for a reason. -/
def unreachable (url : String) (token : Option String) (reason : String) : Socket :=
  (connect url token).run [.tells, .answered (.error reason), .tells]

end Socket
end OfflineChat
