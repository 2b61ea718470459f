import I2cTopology.Toml.Value

/-!
# Reading typed values

A `Schema` describes a type of records by its fields. Its reader goes through a table in the order of the text and
stops at the first key or value that does not belong; a required field that is missing is found at the end.

- `SchemaError.detail?`: what is told of a violation;
- `Schema.read`: the reader of a schema.
-/

namespace I2cTopology

open Toml (Value)

/-- How a document violates the schema. -/
inductive SchemaError where
  /-- The text is not TOML. -/
  | malformed
  | unknownField (name : String) (expected : List String)
  | missingField (name : String)
  | unknownVariant (name : String) (expected : List String)
  | invalidType (found : Value) (expected : String)
  | invalidValue (found : Int) (expected : String)
  | invalidLength (length : Nat) (expected : String)
  /-- The value fits none of the shapes that the type may have. -/
  | noShape (type : String)
  /-- The value is neither a name nor a table with a single name that holds nothing. -/
  | noVariant

namespace SchemaError

/-- A choice of names. -/
def oneOf : List String → String
  | [] => "nothing"
  | [a] => s!"`{a}`"
  | [a, b] => s!"`{a}` or `{b}`"
  | names => "one of " ++ ", ".intercalate (names.map fun name => s!"`{name}`")

/-- What is told of a violation, where there is more to tell than that the text could not be read. -/
def detail? : SchemaError → Option String
  | .malformed | .noVariant => none
  | .unknownField name expected => some s!"unknown field `{name}`, expected {oneOf expected}"
  | .missingField name => some s!"missing field `{name}`"
  | .unknownVariant name expected => some s!"unknown variant `{name}`, expected {oneOf expected}"
  | .invalidType found expected => some s!"invalid type: {found.describe}, expected {expected}"
  | .invalidValue found expected => some s!"invalid value: integer `{found}`, expected {expected}"
  | .invalidLength length expected => some s!"invalid length {length}, expected {expected}"
  | .noShape type => some s!"data did not match any variant of untagged enum {type}"

/-- The text of a violation. -/
def message (e : SchemaError) : String := "schema violation: " ++ e.detail?.getD "malformed document"

end SchemaError

/-- A reader of values of one type. -/
abbrev ValueReader (α : Type) := Value → Except SchemaError α

namespace ValueReader

/-- Text. -/
def text : ValueReader String
  | .string text => .ok text
  | v => .error (.invalidType v "a string")

/-- A truth value. -/
def truth : ValueReader Bool
  | .boolean b => .ok b
  | v => .error (.invalidType v "a boolean")

/-- A natural number below a bound. -/
def below (bound : Nat) (type : String) : ValueReader Nat
  | .integer n => if 0 ≤ n ∧ n < bound then .ok n.toNat else .error (.invalidValue n type)
  | v => .error (.invalidType v type)

/-- A byte. -/
def byte : ValueReader UInt8 := fun v => (below 0x100 "u8" v).map UInt8.ofNat

/-- A word of 32 bits. -/
def word : ValueReader UInt32 := fun v => (below 0x100000000 "u32" v).map UInt32.ofNat

/-- A list whose elements are all read. -/
def list {α : Type} (element : ValueReader α) : ValueReader (List α)
  | .array vs => vs.mapM element
  | v => .error (.invalidType v "a sequence")

/-- The entries of a table, whose values are all read. -/
def entries {α : Type} (value : ValueReader α) : ValueReader (List (String × α))
  | .table es => es.mapM fun (name, v) => (value v).map (name, ·)
  | .moment text => [(Toml.Value.momentKey, .string text)].mapM fun (name, v) => (value v).map (name, ·)
  | v => .error (.invalidType v "a map")

end ValueReader

/-! ## Records -/

/-- What happens when a field is absent. -/
inductive Presence where
  /-- It has to be there. -/
  | required
  /-- The record then says so. -/
  | optional
  /-- The record then has a value of its own for it. -/
  | defaulted
deriving DecidableEq

/-- A field of a record type `ρ`. -/
structure Field (ρ : Type) where
  name : String
  presence : Presence
  /-- Reads a value and gives the change of the record. -/
  read : ValueReader (ρ → ρ)

namespace Field

variable {ρ α : Type}

/-- A field that has to be there. -/
def required (name : String) (reader : ValueReader α) (set : ρ → α → ρ) : Field ρ :=
  ⟨name, .required, fun v => (reader v).map fun x r => set r x⟩

/-- A field that a record may lack. -/
def optional (name : String) (reader : ValueReader α) (set : ρ → Option α → ρ) : Field ρ :=
  ⟨name, .optional, fun v => (reader v).map fun x r => set r (some x)⟩

/-- A field with a value of its own when absent. -/
def defaulted (name : String) (reader : ValueReader α) (set : ρ → α → ρ) : Field ρ :=
  ⟨name, .defaulted, fun v => (reader v).map fun x r => set r x⟩

end Field

/-- A record type as documents write it. -/
structure Schema (ρ : Type) where
  name : String
  /-- The fields in the order of their declaration. -/
  fields : List (Field ρ)
  /-- The record before any field is set. -/
  blank : ρ

namespace Schema

variable {ρ : Type} (s : Schema ρ)

/-- Sets the fields that a table mentions. -/
def fill (r : ρ) : List (String × Value) → Except SchemaError ρ
  | [] => .ok r
  | (name, v) :: es =>
    match s.fields.find? (·.name == name) with
    | none => .error (.unknownField name (s.fields.map (·.name)))
    | some field =>
      match field.read v with
      | .error e => .error e
      | .ok change => fill (change r) es

/-- Reads a table. -/
def readTable (es : List (String × Value)) : Except SchemaError ρ :=
  match s.fill s.blank es with
  | .error e => .error e
  | .ok r =>
    match s.fields.find? fun field => field.presence == .required && !(es.map Prod.fst).contains field.name with
    | some field => .error (.missingField field.name)
    | none => .ok r

/-- Sets fields in the order of their declaration. -/
def fillInOrder (r : ρ) : List (Field ρ) → List Value → Except SchemaError ρ
  | field :: fields, v :: vs =>
    match field.read v with
    | .error e => .error e
    | .ok change => fillInOrder (change r) fields vs
  | _, _ => .ok r

/-- Reads an array as the fields in the order of their declaration. Only fields with a value of their own may be
missing at its end; elements past the last field do not count. -/
def readArray (vs : List Value) : Except SchemaError ρ :=
  match fillInOrder s.blank s.fields vs with
  | .error e => .error e
  | .ok r =>
    match (s.fields.drop vs.length).findIdx? (·.presence != .defaulted) with
    | some i =>
      .error (.invalidLength (vs.length + i) s!"struct {s.name} with {s.fields.length} elements")
    | none => .ok r

/-- Reads a record. -/
def read : ValueReader ρ
  | .table es => s.readTable es
  | .moment text => s.readTable [(Toml.Value.momentKey, .string text)]
  | .array vs => s.readArray vs
  | v => .error (.invalidType v s!"struct {s.name}")

end Schema

end I2cTopology
