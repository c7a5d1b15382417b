import OfflineChat.Client.Files
import OfflineChat.Settings

/-! # The account

The user who is signed in, in the two places that know: the token of the client
and the session kept on disk.  Signing in and out change both or neither.
-/
namespace OfflineChat

/-- A connection, the session kept for it, and the disk it is kept on. -/
structure Account (σ : Type) where
  connection : Connection σ
  session : Preferences AuthSession
  disk : Disk

/-- An operation on an account: it answers or fails, and leaves an account behind either way. -/
abbrev AccountOp (σ α : Type) := Account σ → Except Failure α × Account σ

namespace Connection

variable {σ : Type}

/-- The connection with another token. -/
def withToken (c : Connection σ) (token : Option String) : Connection σ :=
  { c with client := { c.client with token := token } }

end Connection

namespace Account

variable {σ : Type}

/-- The account with another token. -/
def withToken (a : Account σ) (token : Option String) : Account σ :=
  { a with connection := a.connection.withToken token }

/-- Take up the session that is kept, unless it has run out; whether there is one. -/
def restore (now : Int) (a : Account σ) : Bool × Account σ :=
  let s := a.session.value
  if s.isSignedIn && !s.isExpired now then (true, a.withToken s.token) else (false, a)

/-- Take up the answer to a sign-in: it is kept as the session before its token is used. -/
def conclude (answer : Except Failure SignIn) (t : Trouble := .none) : AccountOp σ SignIn := fun a =>
  match answer with
  | .error e => (.error e, a)
  | .ok answer =>
    match a.session.update AuthSession.kind a.disk (fun _ => .ofSignIn answer) t with
    | (.error e, p, d) => (.error e, { a with session := p, disk := d })
    | (.ok _, p, d) => (.ok answer, { a with session := p, disk := d }.withToken (some answer.token))

/-- Sign in: ask the server, and take up what it answers. -/
def login (link : Link σ) (email password : String) (t : Trouble := .none) :
    AccountOp σ SignIn := fun a =>
  let (answer, c) := Connection.signIn link email password a.connection
  conclude answer t { a with connection := c }

/-- Sign out: forget the session, then the token. -/
def logout (t : Trouble := .none) : AccountOp σ Unit := fun a =>
  match a.session.reset AuthSession.kind a.disk t with
  | (.error e, p, d) => (.error e, { a with session := p, disk := d })
  | (.ok _, p, d) => (.ok (), { a with session := p, disk := d }.withToken none)

/-- The token of the session. -/
def currentToken (a : Account σ) : Option String := a.session.value.usableToken

end Account
end OfflineChat
