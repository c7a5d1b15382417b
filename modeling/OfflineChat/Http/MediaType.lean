import OfflineChat.Text.Utf8

/-! # The grammar of media types

A media type is two tokens with a slash between them, and parameters behind
semicolons.  `MediaType.check` finds the first octet at which a text stops being
one.
-/
namespace OfflineChat

/-- Why a text is no media type. -/
inductive MediaTypeError where
  | noSlash
  | noEquals
  | noQuote
  /-- An octet stands where it cannot, so many octets into the text. -/
  | badOctet (octet : UInt8) (place : Nat)
deriving DecidableEq, Repr

namespace MediaTypeError

/-- A number in base sixteen, in upper case. -/
def hexText (n : Nat) : String := String.ofList ((Nat.toDigits 16 n).map Char.toUpper)

/-- The wording of an error. -/
def message : MediaTypeError → String
  | .noSlash => "a slash (/) was missing between the type and subtype"
  | .noEquals => "an equals sign (=) was missing between a parameter and its value"
  | .noQuote => "a quote (\") was missing from a parameter value"
  | .badOctet octet place => "an invalid token was encountered, " ++ hexText octet.toNat ++
      " at position " ++ toString place

end MediaTypeError

namespace MediaType

/-- The octet of a character. -/
def octet (c : Char) : UInt8 := c.toNat.toUInt8

/-- The octets of a token. -/
def isToken (b : UInt8) : Bool :=
  let c := Char.ofNat b.toNat
  c.isAlphanum ||
    ['!', '#', '$', '%', '&', '\'', '*', '+', '-', '.', '^', '_', '`', '|', '~'].contains c

/-- The octets between quotes. -/
def isQuotable (b : UInt8) : Bool := decide (31 < b) && b != 127

/-- What part of a media type is being read. -/
inductive Part where
  | type
  | subtype
  /-- The name of a parameter, before which blanks may stand. -/
  | name
  | value
  /-- A value between quotes. -/
  | quoted
  /-- What follows a value between quotes. -/
  | after
deriving DecidableEq, Repr

/-- Read on in a part that so many octets of have been read, at a place of the text. -/
def run : Part → Nat → Nat → List UInt8 → Except MediaTypeError Unit
  | .type, _, _, [] => .error .noSlash
  | .name, n, _, [] => if n = 0 then .ok () else .error .noEquals
  | .quoted, _, _, [] => .error .noQuote
  | _, _, _, [] => .ok ()
  | part, n, place, b :: rest =>
    let bad := Except.error (.badOctet b place)
    match part with
    | .type =>
      if isToken b then run .type (n + 1) (place + 1) rest
      else if b = octet '/' ∧ 0 < n then run .subtype 0 (place + 1) rest
      else bad
    | .subtype =>
      if b = octet ';' ∧ 0 < n then run .name 0 (place + 1) rest
      else if isToken b then run .subtype (n + 1) (place + 1) rest
      else bad
    | .name =>
      if b = octet ' ' ∧ n = 0 then run .name 0 (place + 1) rest
      else if isToken b then run .name (n + 1) (place + 1) rest
      else if b = octet '=' ∧ 0 < n then run .value 0 (place + 1) rest
      else bad
    | .value =>
      if b = octet '"' ∧ n = 0 then run .quoted 0 (place + 1) rest
      else if isToken b then run .value (n + 1) (place + 1) rest
      else if b = octet ';' ∧ 0 < n then run .name 0 (place + 1) rest
      else bad
    | .quoted =>
      if b = octet '"' ∧ 0 < n then run .after 0 (place + 1) rest
      else if isQuotable b then run .quoted (n + 1) (place + 1) rest
      else bad
    | .after =>
      if b = octet ';' then run .name 0 (place + 1) rest
      else if b = octet ' ' then run .after 0 (place + 1) rest
      else bad

/-- The first fault of a text that is to be a media type. -/
def check (s : String) : Except MediaTypeError Unit := run .type 0 0 (Text.encode s)

end MediaType
end OfflineChat
