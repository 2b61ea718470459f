import I2cTopology.Proofs.Document.Records

/-!
# Documents are read as their shape says

Each schema of a document describes the fields of its record (`Document.schema_describes` and the like), so documents
are taken exactly if they conform, carry every value that is given and the default of every key that is not, and do not
depend on the order of keys (`Document.ofEntries_faithful`).
-/

namespace I2cTopology

open Toml (Value)
open FieldShape (setAs_required setAs_optional setAs_defaulted)
open Shape (readBy_text readBy_truth readBy_byte readBy_word readBy_part readBy_list readBy_names readBy_keyed)

/-! ## The records -/

theorem PinSetDecl.schema_describes : PinSetDecl.schema.Describes PinSetDecl.fields :=
  Schema.describes_of_sets PinSetDecl.mk (fun _ => rfl)
    (.cons (setAs_optional readBy_text (fun _ _ => rfl) rfl) <|
      .cons (setAs_required (readBy_list readBy_byte) fun _ _ => rfl) <|
      .cons (setAs_required readBy_byte fun _ _ => rfl) <|
      .nil fun _ => rfl)
    (by decide)

theorem MuxDecl.schema_describes : MuxDecl.schema.Describes MuxDecl.fields :=
  Schema.describes_of_sets MuxDecl.mk (fun _ => rfl)
    (.cons (setAs_required readBy_part fun _ _ => rfl) <|
      .cons (setAs_required readBy_byte fun _ _ => rfl) <|
      .cons (setAs_optional readBy_byte (fun _ _ => rfl) rfl) <|
      .cons (setAs_optional PinSetDecl.schema_describes.readBy (fun _ _ => rfl) rfl) <|
      .nil fun _ => rfl)
    (by decide)

theorem PortDecl.schema_describes : PortDecl.schema.Describes PortDecl.fields :=
  Schema.describes_of_sets PortDecl.mk (fun _ => rfl)
    (.cons (setAs_optional readBy_text (fun _ _ => rfl) rfl) <|
      .cons (setAs_optional readBy_text (fun _ _ => rfl) rfl) <|
      .cons (setAs_required (readBy_list PinSetDecl.schema_describes.readBy) fun _ _ => rfl) <|
      .cons (setAs_defaulted (readBy_list MuxDecl.schema_describes.readBy) (fun _ _ => rfl) rfl) <|
      .nil fun _ => rfl)
    (by decide)

theorem PortDecl.readBy_keyed : (Shape.keyed (.record PortDecl.fields)).ReadBy PortDecl.readAll :=
  Shape.readBy_keyed PortDecl.schema_describes.readBy nofun

theorem ControllerDecl.schema_describes : ControllerDecl.schema.Describes ControllerDecl.fields :=
  Schema.describes_of_sets ControllerDecl.mk (fun _ => rfl)
    (.cons (setAs_required readBy_byte fun _ _ => rfl) <|
      .cons (setAs_defaulted readBy_truth (fun _ _ => rfl) rfl) <|
      .cons (setAs_required PortDecl.readBy_keyed fun _ _ => rfl) <|
      .nil fun _ => rfl)
    (by decide)

theorem SensorDecl.schema_describes : SensorDecl.schema.Describes SensorDecl.fields :=
  Schema.describes_of_sets SensorDecl.mk (fun _ => rfl)
    (.cons (setAs_defaulted readBy_word (fun _ _ => rfl) rfl) <|
      .cons (setAs_defaulted readBy_word (fun _ _ => rfl) rfl) <|
      .cons (setAs_defaulted readBy_word (fun _ _ => rfl) rfl) <|
      .cons (setAs_defaulted readBy_word (fun _ _ => rfl) rfl) <|
      .cons (setAs_defaulted readBy_word (fun _ _ => rfl) rfl) <|
      .cons (setAs_defaulted readBy_word (fun _ _ => rfl) rfl) <|
      .cons (setAs_defaulted readBy_word (fun _ _ => rfl) rfl) <|
      .nil fun _ => rfl)
    (by decide)

theorem PowerDecl.schema_describes : PowerDecl.schema.Describes PowerDecl.fields :=
  Schema.describes_of_sets PowerDecl.mk (fun _ => rfl)
    (.cons (setAs_defaulted (readBy_list readBy_text) (fun _ _ => rfl) rfl) <|
      .cons (setAs_optional (readBy_list (readBy_list readBy_byte)) (fun _ _ => rfl) rfl) <|
      .cons (setAs_defaulted readBy_truth (fun _ _ => rfl) rfl) <|
      .cons (setAs_defaulted readBy_truth (fun _ _ => rfl) rfl) <|
      .nil fun _ => rfl)
    (by decide)

theorem DeviceDecl.schema_describes : DeviceDecl.schema.Describes DeviceDecl.fields :=
  Schema.describes_of_sets DeviceDecl.mk (fun _ => rfl)
    (.cons (setAs_required readBy_text fun _ _ => rfl) <|
      .cons (setAs_defaulted readBy_names (fun _ _ => rfl) rfl) <|
      .cons (setAs_optional readBy_text (fun _ _ => rfl) rfl) <|
      .cons (setAs_optional readBy_text (fun _ _ => rfl) rfl) <|
      .cons (setAs_optional readBy_byte (fun _ _ => rfl) rfl) <|
      .cons (setAs_optional readBy_text (fun _ _ => rfl) rfl) <|
      .cons (setAs_required readBy_byte fun _ _ => rfl) <|
      .cons (setAs_optional readBy_byte (fun _ _ => rfl) rfl) <|
      .cons (setAs_optional readBy_byte (fun _ _ => rfl) rfl) <|
      .cons (setAs_optional readBy_text (fun _ _ => rfl) rfl) <|
      .cons (setAs_defaulted readBy_truth (fun _ _ => rfl) rfl) <|
      .cons (setAs_defaulted readBy_truth (fun _ _ => rfl) rfl) <|
      .cons (setAs_defaulted SensorDecl.schema_describes.readBy (fun _ _ => rfl) rfl) <|
      .cons (setAs_optional PowerDecl.schema_describes.readBy (fun _ _ => rfl) rfl) <|
      .nil fun _ => rfl)
    (by decide)

theorem Document.schema_describes : Document.schema.Describes Document.fields :=
  Schema.describes_of_sets Document.mk (fun _ => rfl)
    (.cons (setAs_defaulted (readBy_list ControllerDecl.schema_describes.readBy) (fun _ _ => rfl) rfl) <|
      .cons (setAs_defaulted (readBy_list DeviceDecl.schema_describes.readBy) (fun _ _ => rfl) rfl) <|
      .nil fun _ => rfl)
    (by decide)

/-! ## Documents -/

/-- A text is taken exactly if its tree of values conforms. The document then carries every value that is given and the
default of every key that is not, and it does not depend on the order of keys. -/
theorem Document.ofEntries_faithful {es : List (String × Value)} (h : shape.Plain (.table es)) :
    (∀ text, Toml.read? text = some es → parse text = ofEntries es) ∧
      ((∃ d, ofEntries es = .ok d) ↔ shape.Conforms (.table es)) ∧
      ∀ d, ofEntries es = .ok d → shape.Carries (.table es) d ∧
        ∀ es', shape.Reordered (.table es) (.table es') → ofEntries es' = .ok d := by
  have hread : shape.ReadBy schema.read := schema_describes.readBy
  refine ⟨fun text htext => by rw [parse, htext], hread.exists_ok_iff h, fun d hd => ⟨hread.carries h hd, ?_⟩⟩
  exact fun es' hre => hread.reordered h hre hd

namespace OneMux

def mux : List (String × Value) := [("driver", .string "ltc4306"), ("address", .integer 68)]

/-- A port with a multiplexer. -/
def port (mux : List (String × Value)) : List (String × Value) := [("pins", .array []), ("muxes", .array [.table mux])]

/-- A controller with that port and nothing else. -/
def entries (mux : List (String × Value)) : List (String × Value) :=
  [("controllers", .array [.table [("controller", .integer 1), ("ports", .table [("B", .table (port mux))])]])]

theorem plain : Document.shape.Plain (.table (entries mux)) := by
  simp only [Document.shape, Shape.record, Document.fields, ControllerDecl.fields, PortDecl.fields, MuxDecl.fields,
    FieldShape.required, FieldShape.optional, FieldShape.defaulted, Shape.list, Shape.keyed, Shape.given, Shape.part,
    Shape.leaf, Shape.byte, Shape.text, entries, port, mux, List.forall_mem_cons, List.map_cons]
  simp

/-- The keys of the multiplexer may be swapped. -/
theorem reordered : Document.shape.Reordered (.table (entries mux)) (.table (entries mux.reverse)) := by
  have hmux : (Shape.record MuxDecl.fields).Reordered (.table mux) (.table mux.reverse) := by
    refine ⟨mux.reverse, (List.reverse_perm _).symm, ?_⟩
    simp [mux, MuxDecl.fields, FieldShape.required, FieldShape.optional, Shape.byte, Shape.part, Shape.leaf]
  have hport : (Shape.record PortDecl.fields).Reordered (.table (port mux)) (.table (port mux.reverse)) := by
    refine ⟨port mux, .refl _, ?_⟩
    simp [port, PortDecl.fields, FieldShape.required, FieldShape.optional, FieldShape.defaulted, Shape.list, hmux]
  have hcontroller : (Shape.record ControllerDecl.fields).Reordered
      (.table [("controller", .integer 1), ("ports", .table [("B", .table (port mux))])])
      (.table [("controller", .integer 1), ("ports", .table [("B", .table (port mux.reverse))])]) := by
    refine ⟨_, .refl _, ?_⟩
    simp [ControllerDecl.fields, FieldShape.required, FieldShape.defaulted, Shape.byte, Shape.leaf, Shape.keyed, hport]
  refine ⟨_, .refl _, ?_⟩
  simp [entries, Document.fields, FieldShape.defaulted, Shape.list, hcontroller]

theorem ofEntries_swapped :
    Document.shape.Plain (.table (entries mux)) ∧ Document.shape.Conforms (.table (entries mux)) ∧
      ∃ d, Document.ofEntries (entries mux) = .ok d ∧ Document.shape.Carries (.table (entries mux)) d ∧
        Document.ofEntries (entries mux.reverse) = .ok d := by
  obtain ⟨-, hconforms, hread⟩ := Document.ofEntries_faithful plain
  have hok : ∃ d, Document.ofEntries (entries mux) = .ok d := ⟨_, rfl⟩
  obtain ⟨d, hd⟩ := hok
  exact ⟨plain, hconforms.mp ⟨d, hd⟩, d, hd, (hread d hd).1, (hread d hd).2 _ reordered⟩

end OneMux

end I2cTopology
