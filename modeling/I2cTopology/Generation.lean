import I2cTopology.Artifact.Sections
import I2cTopology.Artifact.Source
import I2cTopology.Document.Reader
import I2cTopology.Topology.Resolution

/-!
# From the text of a document to the text of an artifact
-/

namespace I2cTopology

/-- The text of the artifact of a board. -/
def Topology.emit (t : Topology) (dispositions : List Disposition) (o : EmitOptions) : Except EmitError String := do
  let a ← Artifact.ofTopology t dispositions o
  a.render

/-- What is reported of the emission of an artifact. -/
def Topology.emitLog (t : Topology) (dispositions : List Disposition) (o : EmitOptions) : Log :=
  match Artifact.ofTopology t dispositions o with
  | .ok a => [a.record dispositions]
  | .error _ => []

/-- Why a document has no artifact. -/
inductive GenerationError where
  | schema (error : SchemaError)
  | topology (error : TopologyError)
  | emit (error : EmitError)

/-- The text of a failure. -/
def GenerationError.message : GenerationError → String
  | .schema error => error.message
  | .topology error => error.message
  | .emit error => error.message

/-- The board that a text describes. -/
def resolveText (text : String) : Except GenerationError Topology :=
  match Document.parse text with
  | .error e => .error (.schema e)
  | .ok d => d.resolve.mapError .topology

/-- What is reported of the resolution of a text. -/
def resolveTextLog (text : String) : Log :=
  match Document.parse text with
  | .error _ => []
  | .ok d => d.resolveLog

/-- The text of the artifact of the board that a text describes. -/
def generate (text : String) (dispositions : List Disposition) (o : EmitOptions) : Except GenerationError String := do
  let t ← resolveText text
  (t.emit dispositions o).mapError .emit

/-- What is reported of a generation. -/
def generateLog (text : String) (dispositions : List Disposition) (o : EmitOptions) : Log :=
  resolveTextLog text ++
    match resolveText text with
    | .ok t => t.emitLog dispositions o
    | .error _ => []

end I2cTopology
