import I2cTopology.Topology.Error

/-!
# Why a board has no artifact
-/

namespace I2cTopology

/-- Why a board has no artifact, or an artifact no text or no tables. -/
inductive EmitError where
  /-- Initiator and target setup do not go into one artifact. -/
  | conflictingDispositions
  /-- Target setup is for exactly one target controller. -/
  | targetCount (found : Nat)
  /-- A controller has more ports than a descriptor can count. -/
  | portCount (controller : Controller)
  /-- Two items of one generated scope get the same identifier. -/
  | nameClash (owner other identifier : String)
  /-- A table refers to a row that another table does not have. -/
  | missingRow (table : RowTable) (row : Nat)
  /-- An accessor refers to a row that the artifact's device table does not have. -/
  | missingDevice (row : Nat)
  /-- A validation arm refers to a row that the artifact's device table does not have. -/
  | missingValidated (row : Nat)
  /-- The artifact calls a check for which there is no function at hand. -/
  | unregisteredCheck (kind path : String)
deriving DecidableEq

namespace EmitError

/-- How an inner contradiction is reported. -/
def contradiction (text : String) : String := "internal invariant violated: " ++ text

/-- The text of a failure. -/
def message : EmitError → String
  | .conflictingDispositions => "initiator and target dispositions cannot be emitted together"
  | .targetCount found => s!"found {found} target I2C controller(s); expected exactly one"
  | .portCount controller => contradiction s!"{controller.label} has too many ports"
  | .nameClash owner other identifier => contradiction s!"{owner} and {other} both generate `{identifier}`"
  | .missingRow table row => contradiction s!"the {table.text} table has no row {row}"
  | .missingDevice row => contradiction s!"accessor names device {row}, which does not exist"
  | .missingValidated row => contradiction s!"validation arm for device {row}"
  | .unregisteredCheck kind path => s!"no check registered for {kind} (artifact calls {path})"

end EmitError

end I2cTopology
