import I2cTopology.Document.Reader
import I2cTopology.Proofs.Document.Shape
import I2cTopology.Proofs.KeyedList
import I2cTopology.Proofs.Resolution.Walk

/-!
# Values are read as their shape says

A reader reads a shape if it takes exactly the values that conform, gives what they stand for and does not see the
order of keys (`Shape.ReadBy`). The readers without keys are read off (`Shape.readBy_leaf`), and lists and keyed tables
follow from their elements (`Shape.readBy_list`, `Shape.readBy_keyed`).
-/

namespace I2cTopology

open Toml (Value)

/-! ## Readers of shapes -/

/-- A reader takes exactly the values that conform, gives what they stand for and does not see the order of keys. -/
structure Shape.ReadBy {α : Type} (shape : Shape α) (reader : ValueReader α) : Prop where
  exists_ok_iff : ∀ {v}, shape.Plain v → ((∃ a, reader v = .ok a) ↔ shape.Conforms v)
  carries : ∀ {v a}, shape.Plain v → reader v = .ok a → shape.Carries v a
  reordered : ∀ {v w a}, shape.Plain v → shape.Reordered v w → reader v = .ok a → reader w = .ok a

namespace Shape

variable {α : Type}

/-- A reader without keys that gives exactly what values stand for. -/
theorem readBy_leaf {carries : Value → α → Prop} {reader : ValueReader α}
    (h : ∀ v a, reader v = .ok a ↔ carries v a) : (leaf carries).ReadBy reader where
  exists_ok_iff _ := exists_congr (h _)
  carries _ hv := (h _ _).mp hv
  reordered _ hvw hv := hvw ▸ hv

theorem readBy_text : text.ReadBy ValueReader.text :=
  readBy_leaf fun v s => by cases v <;> simp [ValueReader.text]

theorem readBy_truth : truth.ReadBy ValueReader.truth :=
  readBy_leaf fun v b => by cases v <;> simp [ValueReader.truth]

theorem below_eq_ok_iff {bound n : Nat} {type : String} {v : Value} :
    ValueReader.below bound type v = .ok n ↔ v = .integer n ∧ n < bound := by
  cases v with
  | integer m =>
    simp only [ValueReader.below, Value.integer.injEq]
    split
    · rename_i h
      rw [Except.ok.injEq]
      omega
    · rename_i h
      simp only [reduceCtorEq, false_iff]
      omega
  | _ => simp [ValueReader.below]

theorem readBy_byte : byte.ReadBy ValueReader.byte := by
  refine readBy_leaf fun v n => ?_
  rw [ValueReader.byte, map_eq_ok_iff]
  simp only [below_eq_ok_iff]
  constructor
  · rintro ⟨m, ⟨rfl, hm⟩, rfl⟩
    rw [UInt8.toNat_ofNat_of_lt' hm]
  · rintro rfl
    exact ⟨n.toNat, ⟨rfl, n.toNat_lt_size⟩, UInt8.ofNat_toNat⟩

theorem readBy_word : word.ReadBy ValueReader.word := by
  refine readBy_leaf fun v n => ?_
  rw [ValueReader.word, map_eq_ok_iff]
  simp only [below_eq_ok_iff]
  constructor
  · rintro ⟨m, ⟨rfl, hm⟩, rfl⟩
    rw [UInt32.toNat_ofNat_of_lt' hm]
  · rintro rfl
    exact ⟨n.toNat, ⟨rfl, n.toNat_lt_size⟩, UInt32.ofNat_toNat⟩

theorem read_part_eq_ok_iff (name : String) (p : MuxPart) : MuxPart.read (.string name) = .ok p ↔ name = p.name := by
  have hfind : MuxPart.all.find? (·.name == name) = some p ↔ p ∈ MuxPart.all ∧ p.name = name :=
    KeyedList.find?_eq_some_iff_of_nodup MuxPart.name (fun _ => beq_iff_eq) (by decide)
  have hmem : p ∈ MuxPart.all := by cases p <;> decide
  rw [and_iff_right hmem] at hfind
  rw [eq_comm (a := name), ← hfind, MuxPart.read, MuxPart.read.ofName]
  cases MuxPart.all.find? (·.name == name) <;> simp

theorem readBy_part : part.ReadBy MuxPart.read where
  exists_ok_iff := by
    rintro v ⟨name, rfl⟩
    refine exists_congr fun p => (read_part_eq_ok_iff name p).trans ?_
    exact Value.string.injEq .. ▸ Iff.rfl
  carries := by
    rintro v p ⟨name, rfl⟩ hp
    rw [(read_part_eq_ok_iff name p).mp hp]
    rfl
  reordered _ hvw hv := hvw ▸ hv

/-! ### Lists and keyed tables -/

theorem readBy_list {element : Shape α} {reader : ValueReader α} (h : element.ReadBy reader) :
    (list element).ReadBy (ValueReader.list reader) where
  exists_ok_iff {v} hv := by
    cases v with
    | array vs =>
      refine exists_mapM_iff.trans ?_
      exact forall₂_congr fun v hmem => h.exists_ok_iff (hv v hmem)
    | _ => exact iff_of_false (by rintro ⟨_, ⟨⟩⟩) id
  carries {v as} hv hread := by
    cases v with
    | array vs => exact forall₂_imp_of_mem (fun v hmem a => h.carries (hv v hmem)) (mapM_eq_ok_iff_forall₂.mp hread)
    | _ => cases hread
  reordered {v w as} hv hvw hread := by
    cases v with
    | array vs =>
      cases w with
      | array ws =>
        have hreads : List.Forall₂ (fun v a => reader v = .ok a) vs as := mapM_eq_ok_iff_forall₂.mp hread
        refine mapM_eq_ok_iff_forall₂.mpr (forall₂_join (R := element.Reordered) ?_ hvw hreads)
        exact fun v hmem w a => h.reordered (hv v hmem)
      | _ => cases hvw
    | _ => cases hread

theorem readBy_names : names.ReadBy DeviceDecl.readNames := by
  refine readBy_leaf fun v ns => ?_
  cases v with
  | string name => simp [DeviceDecl.readNames, list, eq_comm]
  | array vs =>
    have hlist : DeviceDecl.readNames (.array vs) = .ok ns ↔ vs.mapM ValueReader.text = .ok ns := by
      show Except.mapError _ (vs.mapM ValueReader.text) = .ok ns ↔ _
      cases vs.mapM ValueReader.text <;> simp [Except.mapError]
    have htext : ∀ v s, ValueReader.text v = .ok s ↔ text.Carries v s := fun v s => by
      cases v <;> simp [ValueReader.text, text, leaf]
    simp only [hlist, mapM_eq_ok_iff_forall₂, htext, list, reduceCtorEq, false_and, exists_false, false_or]
  | _ => simp [DeviceDecl.readNames, ValueReader.list, Except.mapError, list]

theorem readBy_given {value : Shape α} {reader : ValueReader α} (h : value.ReadBy reader) :
    value.given.ReadBy fun v => (reader v).map some where
  exists_ok_iff hv := exists_map_eq_ok_iff.trans (h.exists_ok_iff hv)
  carries {v x} hv hread := by
    obtain ⟨a, ha, rfl⟩ := map_eq_ok_iff.mp hread
    exact ⟨a, rfl, h.carries hv ha⟩
  reordered {v w x} hv hvw hread := by
    obtain ⟨a, ha, rfl⟩ := map_eq_ok_iff.mp hread
    exact map_eq_ok_iff.mpr ⟨a, h.reordered hv hvw ha, rfl⟩

/-- A keyed table is read entry by entry. A date or time would be read as a table whose one value is text. -/
theorem entries_eq_ok_iff {reader : ValueReader α} (hstring : ∀ text a, reader (.string text) ≠ .ok a) {v : Value}
    {ps : List (String × α)} : ValueReader.entries reader v = .ok ps ↔
      ∃ es, v = .table es ∧ List.Forall₂ (fun e p => e.1 = p.1 ∧ reader e.2 = .ok p.2) es ps := by
  have hentry : ∀ (e : String × Value) (p : String × α),
      (reader e.2).map (e.1, ·) = .ok p ↔ e.1 = p.1 ∧ reader e.2 = .ok p.2 := by
    rintro e ⟨name, a⟩
    rw [map_eq_ok_iff]
    constructor
    · rintro ⟨b, hb, heq⟩
      cases heq
      exact ⟨rfl, hb⟩
    · rintro ⟨rfl, ha⟩
      exact ⟨a, ha, rfl⟩
  have hlist : ∀ es : List (String × Value), (es.mapM fun e => (reader e.2).map (e.1, ·)) = .ok ps ↔
      List.Forall₂ (fun e p => e.1 = p.1 ∧ reader e.2 = .ok p.2) es ps := by
    intro es
    rw [mapM_eq_ok_iff_forall₂]
    simp only [hentry]
  cases v with
  | table es =>
    simp only [Value.table.injEq, exists_eq_left']
    exact hlist es
  | moment text =>
    refine iff_of_false (fun hread => ?_) (by rintro ⟨_, ⟨⟩, _⟩)
    have hone := (hlist [(Value.momentKey, .string text)]).mp hread
    cases hone with
    | cons hentry _ => exact hstring _ _ hentry.2
  | _ => exact iff_of_false (by rintro ⟨⟩) (by rintro ⟨_, ⟨⟩, _⟩)

theorem readBy_keyed {value : Shape α} {reader : ValueReader α} (h : value.ReadBy reader)
    (hstring : ∀ text a, reader (.string text) ≠ .ok a) :
    (keyed value).ReadBy fun v => (ValueReader.entries reader v).map .ofList where
  exists_ok_iff {v} hv := by
    cases v with
    | table es =>
      have hentries : (∃ ps, ValueReader.entries reader (.table es) = .ok ps) ↔ ∀ e ∈ es, value.Conforms e.2 := by
        refine exists_mapM_iff.trans (forall₂_congr fun e he => Iff.trans ?_ (h.exists_ok_iff (hv.2 e he)))
        exact exists_map_eq_ok_iff
      exact exists_map_eq_ok_iff.trans hentries
    | moment text =>
      refine iff_of_false ?_ id
      rintro ⟨m, hm⟩
      obtain ⟨ps, hps, -⟩ := map_eq_ok_iff.mp hm
      obtain ⟨es, ⟨⟩, -⟩ := (entries_eq_ok_iff hstring).mp hps
    | _ => exact iff_of_false (by rintro ⟨_, ⟨⟩⟩) id
  carries {v m} hv hread := by
    obtain ⟨ps, hps, rfl⟩ := map_eq_ok_iff.mp hread
    obtain ⟨es, rfl, hall⟩ := (entries_eq_ok_iff hstring).mp hps
    have hkeys : es.map Prod.fst = ps.map Prod.fst := by
      rw [← List.forall₂_eq_eq_eq, List.forall₂_map_left_iff, List.forall₂_map_right_iff]
      exact hall.imp fun _ _ => And.left
    show List.Forall₂ _ es (OrderedMap.ofList ps).entries
    rw [OrderedMap.entries_ofList (hkeys ▸ hv.1)]
    exact forall₂_imp_of_mem (fun e he p hp => ⟨hp.1, h.carries (hv.2 e he) hp.2⟩) hall
  reordered {v w m} hv hvw hread := by
    obtain ⟨ps, hps, rfl⟩ := map_eq_ok_iff.mp hread
    obtain ⟨es, rfl, hall⟩ := (entries_eq_ok_iff hstring).mp hps
    cases w with
    | table es' =>
      refine map_eq_ok_iff.mpr ⟨ps, (entries_eq_ok_iff hstring).mpr ⟨es', rfl, ?_⟩, rfl⟩
      refine forall₂_join ?_ hvw hall
      rintro e he e' p ⟨hkey, hre⟩ ⟨hkey', hp⟩
      exact ⟨hkey.symm.trans hkey', h.reordered (hv.2 e he) hre hp⟩
    | _ => cases hvw

end Shape

end I2cTopology
