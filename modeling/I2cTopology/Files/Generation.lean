import I2cTopology.Files.Job
import I2cTopology.Generation

/-!
# Generation from file to file

A document is read from a file and its artifact written into a directory. Nothing is written unless there is an
artifact.
-/

namespace I2cTopology

/-- Why no artifact was written. -/
inductive BuildError where
  | generation (error : GenerationError)
  /-- A variable that has to be set is not. -/
  | unset (variableName : String)
  | file (path : String) (error : FileError)

/-- The text of a failure. -/
def BuildError.message : BuildError → String
  | .generation error => error.message
  | .unset variableName => s!"environment variable {variableName} is not set"
  | .file path error => s!"{path}: {error.message}"

namespace Job

/-- The name of an artifact in its directory. -/
def artifactFile : String := "i2c_config.rs"

/-- The variable that names the document. -/
def configVariable : String := "I2C_TOPOLOGY_CONFIG"

/-- The variable that names the directory of the artifact. -/
def directoryVariable : String := "OUT_DIR"

/-- Writes a finished artifact. The job ends with the path that was written. -/
def writeArtifact (path text : String) : Job (Except BuildError String) :=
  .writeText path text fun
    | .error e => .done (.error (.file path e))
    | .ok _ => .report [.debug s!"wrote {path}"] (.done (.ok path))

/-- Generates the artifact of the document in file `config` into a directory. -/
def build (config directory : String) (dispositions : List Disposition) (o : EmitOptions) :
    Job (Except BuildError String) :=
  .readText config fun
    | .error e => .done (.error (.file config e))
    | .ok text =>
      .report (generateLog text dispositions o)
        (match generate text dispositions o with
        | .error e => .done (.error (.generation e))
        | .ok artifact => writeArtifact (FileTree.join directory artifactFile) artifact)

/-- Tells the build system when to run again. -/
def announce (config : String) (next : Job α) : Job α :=
  .print s!"cargo:rerun-if-env-changed={configVariable}\n" (.print s!"cargo:rerun-if-changed={config}\n" next)

/-- Generates an artifact as the variables of a build say. -/
def buildFromVariables (dispositions : List Disposition) (o : EmitOptions) : Job (Except BuildError String) :=
  .readVariable configVariable fun
    | none => .done (.error (.unset configVariable))
    | some config => .readVariable directoryVariable fun
      | none => .done (.error (.unset directoryVariable))
      | some directory => announce config (build config directory dispositions o)

end Job

end I2cTopology
