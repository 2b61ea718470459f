import I2cTopology.Document.Declaration
import I2cTopology.Document.Schema
import I2cTopology.Toml.Reader

/-!
# Reading topology documents

The schema is closed: every table takes its declared keys only, so a misspelled one cannot fall back to a default.
-/

namespace I2cTopology

open Toml (Value)
open ValueReader (text truth byte word list)

/-- A part, by its name or as a table whose single key is the name. -/
def MuxPart.read : ValueReader MuxPart
  | .string name => ofName name
  | .table [(name, v)] =>
    match ofName name, v with
    | .error e, _ => .error e
    | .ok part, .table [] | .ok part, .array [] => .ok part
    | .ok _, _ => .error .noVariant
  | _ => .error .noVariant
where
  /-- The part with a name. -/
  ofName (name : String) : Except SchemaError MuxPart :=
    match MuxPart.all.find? (·.name == name) with
    | some part => .ok part
    | none => .error (.unknownVariant name (MuxPart.all.map (·.name)))

/-- Pin sets. -/
def PinSetDecl.schema : Schema PinSetDecl where
  name := "PinSetDecl"
  blank := {}
  fields := [
    .optional "gpio_port" text fun r x => { r with gpioPort := x },
    .required "pins" (list byte) fun r x => { r with pins := x },
    .required "af" byte fun r x => { r with function := x }]

/-- Multiplexers. -/
def MuxDecl.schema : Schema MuxDecl where
  name := "MuxDecl"
  blank := {}
  fields := [
    .required "driver" MuxPart.read fun r x => { r with part := x },
    .required "address" byte fun r x => { r with address := x },
    .optional "segments" byte fun r x => { r with segments := x },
    .optional "nreset" PinSetDecl.schema.read fun r x => { r with nreset := x }]

/-- Ports. -/
def PortDecl.schema : Schema PortDecl where
  name := "PortDecl"
  blank := {}
  fields := [
    .optional "name" text fun r x => { r with name := x },
    .optional "description" text fun r x => { r with description := x },
    .required "pins" (list PinSetDecl.schema.read) fun r x => { r with pins := x },
    .defaulted "muxes" (list MuxDecl.schema.read) fun r x => { r with muxes := x }]

/-- Ports by their keys. -/
def PortDecl.readAll : ValueReader (OrderedMap String PortDecl) := fun v =>
  (ValueReader.entries PortDecl.schema.read v).map .ofList

/-- Controllers. -/
def ControllerDecl.schema : Schema ControllerDecl where
  name := "ControllerDecl"
  blank := {}
  fields := [
    .required "controller" byte fun r x => { r with controller := x },
    .defaulted "target" truth fun r x => { r with target := x },
    .required "ports" PortDecl.readAll fun r x => { r with ports := x }]

/-- Sensor counts. -/
def SensorDecl.schema : Schema SensorDecl where
  name := "SensorDecl"
  blank := {}
  fields := [
    .defaulted "temperature" word fun r x => { r with temperature := x },
    .defaulted "power" word fun r x => { r with power := x },
    .defaulted "current" word fun r x => { r with current := x },
    .defaulted "voltage" word fun r x => { r with voltage := x },
    .defaulted "input_current" word fun r x => { r with inputCurrent := x },
    .defaulted "input_voltage" word fun r x => { r with inputVoltage := x },
    .defaulted "speed" word fun r x => { r with speed := x }]

/-- Power rails. -/
def PowerDecl.schema : Schema PowerDecl where
  name := "PowerDecl"
  blank := {}
  fields := [
    .defaulted "rails" (list text) fun r x => { r with rails := x },
    .optional "phases" (list (list byte)) fun r x => { r with phases := x },
    .defaulted "pmbus" truth fun r x => { r with pmbus := x },
    .defaulted "multiphase" truth fun r x => { r with multiphase := x }]

/-- The names of a device: one, or a list of them. -/
def DeviceDecl.readNames : ValueReader (List String)
  | .string name => .ok [name]
  | v => (list text v).mapError fun _ => .noShape "OneOrMany"

/-- Devices. -/
def DeviceDecl.schema : Schema DeviceDecl where
  name := "DeviceDecl"
  blank := {}
  fields := [
    .required "device" text fun r x => { r with device := x },
    .defaulted "name" DeviceDecl.readNames fun r x => { r with names := x },
    .optional "description" text fun r x => { r with description := x },
    .optional "bus" text fun r x => { r with bus := x },
    .optional "controller" byte fun r x => { r with controller := x },
    .optional "port" text fun r x => { r with port := x },
    .required "address" byte fun r x => { r with address := x },
    .optional "mux" byte fun r x => { r with mux := x },
    .optional "segment" byte fun r x => { r with segment := x },
    .optional "refdes" text fun r x => { r with refdes := x },
    .defaulted "removable" truth fun r x => { r with removable := x },
    .defaulted "alias" truth fun r x => { r with isAlias := x },
    .defaulted "sensors" SensorDecl.schema.read fun r x => { r with sensors := x },
    .optional "power" PowerDecl.schema.read fun r x => { r with power := x }]

/-- Documents. -/
def Document.schema : Schema Document where
  name := "Document"
  blank := {}
  fields := [
    .defaulted "controllers" (list ControllerDecl.schema.read) fun r x => { r with controllers := x },
    .defaulted "devices" (list DeviceDecl.schema.read) fun r x => { r with devices := x }]

/-- Reads the tree of values of a document. -/
def Document.ofEntries (es : List (String × Value)) : Except SchemaError Document := Document.schema.readTable es

/-- Reads the text of a document. -/
def Document.parse (text : String) : Except SchemaError Document :=
  match Toml.read? text with
  | none => .error .malformed
  | some es => Document.ofEntries es

end I2cTopology
