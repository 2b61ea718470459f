import I2cTopology.Files.Tree
import I2cTopology.LogRecord

/-!
# Jobs

A job is what a program asks of its surroundings, one request after the other. `Job.run` answers the requests from a
`World`, which is a value, so that what a job does to files can be stated; an outer layer may answer them by other
means.
-/

namespace I2cTopology

/-- A program that reads and writes files and variables and ends with a value. -/
inductive Job (α : Type) where
  | done (value : α)
  | readVariable (name : String) (next : Option String → Job α)
  | readText (path : String) (next : Except FileError String → Job α)
  | writeText (path text : String) (next : Except FileError Unit → Job α)
  /-- Writes to the output. -/
  | print (text : String) (next : Job α)
  /-- Writes to the error output. -/
  | complain (text : String) (next : Job α)
  | report (log : Log) (next : Job α)

/-- The surroundings of a job. -/
structure World where
  files : FileTree := {}
  environment : OrderedMap String String := {}
  output : String := ""
  errors : String := ""
  log : Log := []

namespace Job

variable {α : Type}

/-- Runs a job in a world. -/
def run : Job α → World → α × World
  | .done value, w => (value, w)
  | .readVariable name next, w => (next (w.environment.get? name)).run w
  | .readText path next, w => (next (w.files.readText path)).run w
  | .writeText path text next, w =>
    let (answer, files) := w.files.writeText path text
    (next answer).run { w with files }
  | .print text next, w => next.run { w with output := w.output ++ text }
  | .complain text next, w => next.run { w with errors := w.errors ++ text }
  | .report log next, w => next.run { w with log := w.log ++ log }

end Job

end I2cTopology
