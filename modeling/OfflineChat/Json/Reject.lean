import OfflineChat.Json.Document
import OfflineChat.Text.Visible

/-! # Why a text is refused

The causes for which a text does not read as a value of some type, and the
wording of each.
-/
namespace OfflineChat

namespace Found

/-- The wording of what was found. -/
def describe : Found → String
  | .null => "null"
  | .bool b => "boolean `" ++ (if b then "true" else "false") ++ "`"
  | .int n => "integer `" ++ toString n ++ "`"
  | .float x => "floating point `" ++ Shortest.scientific .double x ++ "`"
  | .str s => "string " ++ Text.quote s
  | .sequence => "sequence"
  | .map => "map"

end Found

/-- Why a text does not read as a value. -/
inductive Reject where
  /-- The text is not well formed. -/
  | malformed
  /-- A value of another kind stands there. -/
  | wrongType (found : Found) (expected : String)
  /-- A value of the right kind stands there that the type does not hold. -/
  | wrongValue (found : Found) (expected : String)
  | missingField (name : String)
  | duplicateField (name : String)
  | unknownVariant (name : String) (known : List String)
  /-- A list of fields by position ends too early. -/
  | tooShort (length : Nat) (expected : String)
deriving DecidableEq, Repr

namespace Reject

/-- The names of variants, between backquotes. -/
def listing (known : List String) : String :=
  String.intercalate ", " (known.map fun n => "`" ++ n ++ "`")

/-- The wording of a cause. -/
def message : Reject → String
  | .malformed => "syntax"
  | .wrongType found expected => "invalid type: " ++ found.describe ++ ", expected " ++ expected
  | .wrongValue found expected => "invalid value: " ++ found.describe ++ ", expected " ++ expected
  | .missingField name => "missing field `" ++ name ++ "`"
  | .duplicateField name => "duplicate field `" ++ name ++ "`"
  | .unknownVariant name known =>
    "unknown variant `" ++ name ++ "`, expected one of " ++ listing known
  | .tooShort length expected =>
    "invalid length " ++ toString length ++ ", expected " ++ expected

end Reject
end OfflineChat
