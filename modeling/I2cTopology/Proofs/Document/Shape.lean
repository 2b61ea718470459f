import I2cTopology.Document.Declaration
import I2cTopology.Toml.Value
import Mathlib.Data.List.Forall2

/-!
# The shape of documents

The closed schema as a specification, apart from how it is read. A `Shape` says of values which ones are of a type, what
they stand for and which ones differ only in the order of keys. The shapes of the types without keys are given one by
one; the shape of a record is made from the names, the presence and the shapes of its fields (`Shape.record`), so each
type of records of a document is a list of `FieldShape`s, up to `Document.shape`.
-/

namespace I2cTopology

open Toml (Value)

/-! ## Shapes -/

/-- What is known of the values of a type in documents. -/
structure Shape (α : Type) where
  /-- The values under consideration: a record is a table, no table has a key twice and a part is given as text. -/
  Plain : Value → Prop
  /-- The values of the type. -/
  Conforms : Value → Prop
  /-- What a value stands for. -/
  Carries : Value → α → Prop
  /-- The values differ only in the order of the keys of records. -/
  Reordered : Value → Value → Prop

/-- A field of a record. -/
structure FieldShape (ρ : Type) where
  name : String
  Content : Type
  shape : Shape Content
  /-- What a record holds of the field. -/
  get : ρ → Content
  /-- What a record holds of the field if the key is absent. There is nothing like that if the key is required. -/
  absent : Option Content

namespace Shape

variable {α ρ : Type}

/-- Values without keys, by what they stand for. -/
def leaf (carries : Value → α → Prop) : Shape α where
  Plain _ := True
  Conforms v := ∃ a, carries v a
  Carries := carries
  Reordered v w := v = w

def text : Shape String := leaf fun v s => v = .string s

def truth : Shape Bool := leaf fun v b => v = .boolean b

/-- Integers from 0 to 255. -/
def byte : Shape UInt8 := leaf fun v n => v = .integer n.toNat

/-- Integers from 0 to 2³² - 1. -/
def word : Shape UInt32 := leaf fun v n => v = .integer n.toNat

/-- One of the names of parts. -/
def part : Shape MuxPart :=
  { leaf fun v p => v = .string p.name with Plain := fun v => ∃ name, v = .string name }

/-- Arrays whose elements are all of one type. -/
def list (element : Shape α) : Shape (List α) where
  Plain
    | .array vs => ∀ v ∈ vs, element.Plain v
    | _ => True
  Conforms
    | .array vs => ∀ v ∈ vs, element.Conforms v
    | _ => False
  Carries
    | .array vs, as => List.Forall₂ element.Carries vs as
    | _, _ => False
  Reordered
    | .array vs, .array ws => List.Forall₂ element.Reordered vs ws
    | v, w => v = w

/-- A name, or an array of names. -/
def names : Shape (List String) :=
  leaf fun v names => (∃ name, v = .string name ∧ names = [name]) ∨ (list text).Carries v names

/-- Tables whose keys are free and whose values are all of one type. Their order counts. -/
def keyed (value : Shape α) : Shape (OrderedMap String α) where
  Plain
    | .table es => (es.map Prod.fst).Nodup ∧ ∀ e ∈ es, value.Plain e.2
    | _ => True
  Conforms
    | .table es => ∀ e ∈ es, value.Conforms e.2
    | _ => False
  Carries
    | .table es, m => List.Forall₂ (fun e f => e.1 = f.1 ∧ value.Carries e.2 f.2) es m.entries
    | _, _ => False
  Reordered
    | .table es, .table es' => List.Forall₂ (fun e f => e.1 = f.1 ∧ value.Reordered e.2 f.2) es es'
    | v, w => v = w

/-- A value that may be absent, when it is there. -/
def given (value : Shape α) : Shape (Option α) where
  Plain := value.Plain
  Conforms := value.Conforms
  Carries v x := ∃ a, x = some a ∧ value.Carries v a
  Reordered := value.Reordered

/-- Tables with the fields of a record and no other keys. -/
def record (fields : List (FieldShape ρ)) : Shape ρ where
  Plain
    | .table es => (es.map Prod.fst).Nodup ∧ ∀ e ∈ es, ∀ f ∈ fields, f.name = e.1 → f.shape.Plain e.2
    | _ => False
  Conforms
    | .table es => (∀ e ∈ es, ∃ f ∈ fields, f.name = e.1 ∧ f.shape.Conforms e.2) ∧
        ∀ f ∈ fields, f.absent = none → f.name ∈ es.map Prod.fst
    | _ => False
  Carries
    | .table es, r => ∀ f ∈ fields, (∃ v, (f.name, v) ∈ es ∧ f.shape.Carries v (f.get r)) ∨
        f.name ∉ es.map Prod.fst ∧ f.absent = some (f.get r)
    | _, _ => False
  Reordered
    | .table es, .table es' => ∃ mid, es.Perm mid ∧ List.Forall₂ (fun e e' => e.1 = e'.1 ∧
        ∀ f ∈ fields, f.name = e.1 → f.shape.Reordered e.2 e'.2) mid es'
    | v, w => v = w

end Shape

namespace FieldShape

variable {α ρ : Type}

/-- A field that has to be there. -/
def required (name : String) (shape : Shape α) (get : ρ → α) : FieldShape ρ := ⟨name, α, shape, get, none⟩

/-- A field that a record may lack. -/
def optional (name : String) (shape : Shape α) (get : ρ → Option α) : FieldShape ρ :=
  ⟨name, Option α, shape.given, get, some none⟩

/-- A field with a value of its own when absent. -/
def defaulted (name : String) (shape : Shape α) (default : α) (get : ρ → α) : FieldShape ρ :=
  ⟨name, α, shape, get, some default⟩

end FieldShape

/-! ## The records of a document -/

open FieldShape (required optional defaulted)

def PinSetDecl.fields : List (FieldShape PinSetDecl) := [
  optional "gpio_port" .text (·.gpioPort),
  required "pins" (.list .byte) (·.pins),
  required "af" .byte (·.function)]

def MuxDecl.fields : List (FieldShape MuxDecl) := [
  required "driver" .part (·.part),
  required "address" .byte (·.address),
  optional "segments" .byte (·.segments),
  optional "nreset" (.record PinSetDecl.fields) (·.nreset)]

def PortDecl.fields : List (FieldShape PortDecl) := [
  optional "name" .text (·.name),
  optional "description" .text (·.description),
  required "pins" (.list (.record PinSetDecl.fields)) (·.pins),
  defaulted "muxes" (.list (.record MuxDecl.fields)) [] (·.muxes)]

def ControllerDecl.fields : List (FieldShape ControllerDecl) := [
  required "controller" .byte (·.controller),
  defaulted "target" .truth false (·.target),
  required "ports" (.keyed (.record PortDecl.fields)) (·.ports)]

def SensorDecl.fields : List (FieldShape SensorDecl) := [
  defaulted "temperature" .word 0 (·.temperature),
  defaulted "power" .word 0 (·.power),
  defaulted "current" .word 0 (·.current),
  defaulted "voltage" .word 0 (·.voltage),
  defaulted "input_current" .word 0 (·.inputCurrent),
  defaulted "input_voltage" .word 0 (·.inputVoltage),
  defaulted "speed" .word 0 (·.speed)]

def PowerDecl.fields : List (FieldShape PowerDecl) := [
  defaulted "rails" (.list .text) [] (·.rails),
  optional "phases" (.list (.list .byte)) (·.phases),
  defaulted "pmbus" .truth false (·.pmbus),
  defaulted "multiphase" .truth false (·.multiphase)]

def DeviceDecl.fields : List (FieldShape DeviceDecl) := [
  required "device" .text (·.device),
  defaulted "name" .names [] (·.names),
  optional "description" .text (·.description),
  optional "bus" .text (·.bus),
  optional "controller" .byte (·.controller),
  optional "port" .text (·.port),
  required "address" .byte (·.address),
  optional "mux" .byte (·.mux),
  optional "segment" .byte (·.segment),
  optional "refdes" .text (·.refdes),
  defaulted "removable" .truth false (·.removable),
  defaulted "alias" .truth false (·.isAlias),
  defaulted "sensors" (.record SensorDecl.fields) {} (·.sensors),
  optional "power" (.record PowerDecl.fields) (·.power)]

def Document.fields : List (FieldShape Document) := [
  defaulted "controllers" (.list (.record ControllerDecl.fields)) [] (·.controllers),
  defaulted "devices" (.list (.record DeviceDecl.fields)) [] (·.devices)]

/-- The shape of a whole document. -/
def Document.shape : Shape Document := .record fields

end I2cTopology
