import OfflineChat.Number.Decimal
import OfflineChat.Completion
import OfflineChat.Preferences
import OfflineChat.Text.Split

/-! # Settings and session

The two preferences: the user's settings, changed one at a time by key and
text, and the session of the user who is signed in.
-/
namespace OfflineChat

/-- The user's settings. -/
structure AppSettings where
  /-- The model for new messages; without one, that of the configuration. -/
  defaultModel : Option String
  maxTokens : Nat
  temperature : Binary
  showTimestamps : Bool
  telemetry : Bool
deriving DecidableEq, Repr

namespace AppSettings

/-- The settings of a user who has changed none. -/
def initial : AppSettings :=
  ⟨none, 2048, .ofDecimal .single false 7 (-1), true, false⟩

/-- The fields of settings. -/
def fields : Fields Codec [Option String, Nat, Binary, Bool, Bool] :=
  .cons (.defaulted "default_model" (.option .string) initial.defaultModel) <|
  .cons (.defaulted "max_tokens" .nat32 initial.maxTokens) <|
  .cons (.defaulted "temperature" .single initial.temperature) <|
  .cons (.defaulted "show_timestamps" .bool initial.showTimestamps) <|
  .cons (.defaulted "telemetry_enabled" .bool initial.telemetry) .nil

/-- How settings are written and read. -/
def codec : Codec AppSettings :=
  .record "AppSettings" fields
    (fun (defaultModel, maxTokens, temperature, showTimestamps, telemetry, _) =>
      ⟨defaultModel, maxTokens, temperature, showTimestamps, telemetry⟩)
    (fun s => (s.defaultModel, s.maxTokens, s.temperature, s.showTimestamps, s.telemetry, ()))

/-- Settings as preferences. -/
def kind : PreferenceKind AppSettings := ⟨codec, initial⟩

/-- The name of the file that holds the settings. -/
def fileName : String := "settings.json"

/-- The keys of settings that can be changed. -/
def keys : List String :=
  ["default_model", "max_tokens", "temperature", "show_timestamps", "telemetry"]

/-- The refusal of a value. -/
def invalid (key value reason : String) : Failure :=
  .config ("Invalid value '" ++ value ++ "' for " ++ key ++ ": " ++ reason)

/-- A truth value, by any of its names. -/
def truth? (value : String) : Option Bool :=
  let v := Text.asciiLower value
  if v ∈ ["true", "yes", "on", "1"] then some true
  else if v ∈ ["false", "no", "off", "0"] then some false
  else none

/-- Change the setting of a key to the value of a text; the settings after it, whether the text is
taken or refused. -/
def set (s : AppSettings) (key value : String) : Except Failure Unit × AppSettings :=
  let invalid := invalid key value
  match key with
  | "default_model" =>
    let trimmed := Text.trim value
    (.ok (), { s with defaultModel := if trimmed = "" then none else some trimmed })
  | "max_tokens" => match Decimal.natural? 0xFFFFFFFF value with
    | none => (.error (invalid "expected an integer"), s)
    | some 0 => (.error (invalid "must be greater than 0"), s)
    | some n => (.ok (), { s with maxTokens := n })
  | "temperature" => match Decimal.binary? .single value with
    | none => (.error (invalid "expected a number"), s)
    | some x =>
      if x.isBetweenZeroAnd 2 then (.ok (), { s with temperature := x })
      else (.error (invalid "must be between 0.0 and 2.0"), s)
  | "show_timestamps" => match truth? value with
    | some b => (.ok (), { s with showTimestamps := b })
    | none => (.error (invalid "expected true or false"), s)
  | "telemetry" => match truth? value with
    | some b => (.ok (), { s with telemetry := b })
    | none => (.error (invalid "expected true or false"), s)
  | other => (.error (.config ("Unknown setting '" ++ other ++ "'. Valid keys: " ++
      String.intercalate ", " keys)), s)

end AppSettings

/-- The session of the user who is signed in. -/
structure AuthSession where
  token : Option String
  tokenType : Option String
  /-- Seconds since the epoch. -/
  expiresAt : Option Int
  userId : Option String
  email : Option String
  name : Option String
  role : Option String
deriving DecidableEq, Repr

namespace AuthSession

/-- The session of nobody. -/
def initial : AuthSession := ⟨none, none, none, none, none, none, none⟩

/-- The fields of a session. -/
def fields : Fields Codec
    [Option String, Option String, Option Int, Option String, Option String, Option String,
      Option String] :=
  .cons (.nullable "token" .string) <|
  .cons (.nullable "token_type" .string) <|
  .cons (.nullable "expires_at" .int64) <|
  .cons (.nullable "user_id" .string) <|
  .cons (.nullable "email" .string) <|
  .cons (.nullable "name" .string) <|
  .cons (.nullable "role" .string) .nil

/-- How sessions are written and read. -/
def codec : Codec AuthSession :=
  .record "AuthSession" fields
    (fun (token, tokenType, expiresAt, userId, email, name, role, _) =>
      ⟨token, tokenType, expiresAt, userId, email, name, role⟩)
    (fun s => (s.token, s.tokenType, s.expiresAt, s.userId, s.email, s.name, s.role, ()))

/-- The session as preferences. -/
def kind : PreferenceKind AuthSession := ⟨codec, initial⟩

/-- The name of the file that holds the session. -/
def fileName : String := "session.json"

/-- The token, if there is one that is not empty. -/
def usableToken (s : AuthSession) : Option String := s.token.filter (· ≠ "")

/-- Whether someone is signed in. -/
def isSignedIn (s : AuthSession) : Bool := s.usableToken.isSome

/-- Whether the token has run out at `now`. -/
def isExpired (s : AuthSession) (now : Int) : Bool :=
  match s.expiresAt with
  | some t => decide (t ≤ now)
  | none => false

/-- The session of a sign-in. -/
def ofSignIn (a : SignIn) : AuthSession :=
  ⟨some a.token, some a.tokenType |>.filter (· ≠ ""), a.expiresAt, some a.id, some a.email, a.name,
    a.role⟩

end AuthSession
end OfflineChat
