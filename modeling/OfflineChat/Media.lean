import OfflineChat.Files.Path
import OfflineChat.Number.Binary
import OfflineChat.Text.Case

/-! # Media types and file sizes

The media type of a file by its extension, and sizes in bytes as people read
them: whole bytes below 1024, else one decimal in the largest unit that is not
greater than the size, a half going to the even digit.
-/
namespace OfflineChat
namespace Media

/-- The type of a file of unknown kind. -/
def octetStream : String := "application/octet-stream"

/-- The media types by extension, in lower case. -/
def byExtension : List (String × String) := [
  ("jpg", "image/jpeg"), ("jpeg", "image/jpeg"), ("png", "image/png"), ("gif", "image/gif"),
  ("webp", "image/webp"), ("pdf", "application/pdf"), ("txt", "text/plain"),
  ("doc", "application/msword"),
  ("docx", "application/vnd.openxmlformats-officedocument.wordprocessingml.document"),
  ("xls", "application/vnd.ms-excel"),
  ("xlsx", "application/vnd.openxmlformats-officedocument.spreadsheetml.sheet"),
  ("mp3", "audio/mpeg"), ("mp4", "video/mp4"), ("avi", "video/x-msvideo"),
  ("mov", "video/quicktime")]

/-- The media type of an extension, whatever its case. -/
def ofExtension? (ext : String) : Option String := byExtension.lookup (Text.asciiLower ext)

/-- The extension of a path, or the empty text. -/
def extensionOf (p : Path) : String := p.extension?.getD ""

/-- The media type of a path. -/
def ofPath (p : Path) : String := (ofExtension? (extensionOf p)).getD octetStream

/-- Whether a media type is of a family such as `image`. -/
def isOf (family : String) (mime : Option String) : Bool :=
  match mime with
  | some m => (family ++ "/").toList.isPrefixOf m.toList
  | none => false

end Media

/-- The unit a size is shown in. -/
inductive SizeUnit where
  | byte
  | kilo
  | mega
  | giga
deriving DecidableEq, Repr

namespace SizeUnit

/-- The bytes of a unit. -/
def bytes : SizeUnit → Nat
  | .byte => 1
  | .kilo => 1024
  | .mega => 1024 * 1024
  | .giga => 1024 * 1024 * 1024

/-- The sign of a unit. -/
def name : SizeUnit → String
  | .byte => "B"
  | .kilo => "KB"
  | .mega => "MB"
  | .giga => "GB"

end SizeUnit

/-- A size as it is shown: a number of tenths of a unit. -/
structure ShownSize where
  tenths : Nat
  unit : SizeUnit
deriving DecidableEq, Repr

namespace ShownSize

/-- A count of bytes to fifty-three bits. -/
def toDouble (bytes : Nat) : Nat :=
  let dropped := Nat.pow 2 (Nat.log2 bytes - 52)
  divNearestEven bytes dropped * dropped

/-- From a unit up the units above it, as long as the size has 1024 or more of the unit. -/
def climb (size : Nat) (unit : SizeUnit) : List SizeUnit → SizeUnit
  | [] => unit
  | next :: above => if 1024 * unit.bytes ≤ size then climb size next above else unit

/-- The unit of a size of at least 1024 bytes.  A double divided by 1024 is a double again, so
nothing is lost where whole bytes are compared. -/
def unitOf (size : Nat) : SizeUnit := climb size .kilo [.mega, .giga]

/-- How a count of bytes is shown. -/
def ofBytes (bytes : Nat) : ShownSize :=
  if bytes < 1024 then ⟨10 * bytes, .byte⟩
  else
    let size := toDouble bytes
    let unit := unitOf size
    ⟨divNearestEven (10 * size) unit.bytes, unit⟩

/-- The text of a shown size. -/
def text (s : ShownSize) : String :=
  match s.unit with
  | .byte => toString (s.tenths / 10) ++ " " ++ s.unit.name
  | unit => toString (s.tenths / 10) ++ "." ++ toString (s.tenths % 10) ++ " " ++ unit.name

end ShownSize

/-- A count of bytes as people read it. -/
def formatSize (bytes : Nat) : String := (ShownSize.ofBytes bytes).text

/-- The most megabytes an upload may have, unless something else is said. -/
def defaultUploadLimit : Nat := 10

/-- Whether a count of bytes fits so many megabytes. -/
def fitsMegabytes (bytes megabytes : Nat) : Bool := decide (bytes ≤ megabytes * 1024 * 1024)

end OfflineChat
