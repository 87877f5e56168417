import ServiceSpec.Decimal.Shortest
import ServiceSpec.Text.Quoted

/-!
# Problems of content

Why a well-written value is not a value of the type it is read as, with the wording of each cause.

## Main definitions

* `Problem` : the causes.
* `Wording` : what differs between notations in the wording.
* `Problem.message` : the wording of a cause.
-/

namespace ServiceSpec

/-- What was found in place of what was expected. -/
inductive Found where
  | null
  | bool (value : Bool)
  | integer (value : Int)
  | float (value : Float)
  | text (value : String)
  | list
  | map
  /-- An integer beyond 64 bits. -/
  | wideInteger (value : Int)

/-- Why a value is not one of the type it is read as. -/
inductive Problem where
  | invalidType (found : Found) (expected : String)
  | invalidValue (found : Found) (expected : String)
  | invalidLength (length : Nat) (expected : String)
  | unknownVariant (name : String) (known : List String)
  | unknownField (name : String) (known : List String)
  | missingField (name : String)
  | duplicateField (name : String)
  /-- A text that must not be blank is. -/
  | blank (subject : String)
  /-- A value with a tag of its own stands where tags cannot be kept. -/
  | tagNotKept

/-- How a notation words what was found. -/
structure Wording where
  null : String
  float : Float → String

/-- The wording of what was found. -/
def Found.describe (w : Wording) : Found → String
  | null => w.null
  | bool b => "boolean `" ++ toString b ++ "`"
  | integer n => "integer `" ++ toString n ++ "`"
  | float x => "floating point `" ++ w.float x ++ "`"
  | text s => "string " ++ Text.Quoted.encode s
  | list => "sequence"
  | map => "map"
  | wideInteger n =>
    "integer `" ++ toString n ++ (if n < 0 then "` as i128" else "` as u128")

/-- The wording of a choice between names. -/
def alternatives (names : List String) : String :=
  match names with
  | [a] => "`" ++ a ++ "`"
  | [a, b] => "`" ++ a ++ "` or `" ++ b ++ "`"
  | _ => "one of " ++ ", ".intercalate (names.map fun n => "`" ++ n ++ "`")

/-- The wording of a problem. -/
def Problem.message (w : Wording) : Problem → String
  | invalidType found expected =>
    "invalid type: " ++ found.describe w ++ ", expected " ++ expected
  | invalidValue found expected =>
    "invalid value: " ++ found.describe w ++ ", expected " ++ expected
  | invalidLength length expected =>
    "invalid length " ++ toString length ++ ", expected " ++ expected
  | unknownVariant name known =>
    "unknown variant `" ++ name ++ "`, expected " ++ alternatives known
  | unknownField name known =>
    "unknown field `" ++ name ++ "`, expected " ++ alternatives known
  | missingField name => "missing field `" ++ name ++ "`"
  | duplicateField name => "duplicate field `" ++ name ++ "`"
  | blank subject => subject ++ " cannot be empty"
  | tagNotKept => "untagged and internally tagged enums do not support enum input"

end ServiceSpec
