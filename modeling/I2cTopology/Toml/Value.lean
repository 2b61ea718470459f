import I2cTopology.Number.Binary64
import I2cTopology.Text.Quoted

/-!
# TOML values

The tree of values that a TOML text stands for. Tables list their keys in the order in which the text first mentions
them.
-/

namespace I2cTopology.Toml

/-- A TOML value. -/
inductive Value where
  | string (text : String)
  | integer (number : Int)
  | float (number : Binary64)
  | boolean (truth : Bool)
  /-- A date, a time, or both, in canonical form. -/
  | moment (text : String)
  | array (elements : List Value)
  | table (entries : List (String × Value))

namespace Value

/-- What a value is, as told in messages. A date or time counts as a table. -/
def describe : Value → String
  | .string text => s!"string {Quoted.quote text}"
  | .integer number => s!"integer `{number}`"
  | .float number => s!"floating point `{number.text}`"
  | .boolean truth => s!"boolean `{truth}`"
  | .moment _ => "map"
  | .array _ => "sequence"
  | .table _ => "map"

/-- The key under which a date or time stands when it is read as a table. -/
def momentKey : String := "$__toml_private_datetime"

end Value

end I2cTopology.Toml
