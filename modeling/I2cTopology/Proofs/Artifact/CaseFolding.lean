import I2cTopology.Proofs.Artifact.Failures
import I2cTopology.Proofs.Artifact.Spelling

/-!
# Identifiers that differ in case only

Two texts have the same identifier in one case exactly if they have it in the other (`Identifier.snake_eq_iff`,
`Identifier.upper_eq_iff`). So whether two items clash does not depend on the case in which their module writes
identifiers: each item with sensors is in the place of one that has an accessor (`Item.accessor`), and if two of the
former clash, so do the latter (`Item.Clashes.accessor`). Hence sensor ids can be listed for every board that accessors
can be made for (`Document.exists_artifact_of_accessors`).
-/

namespace I2cTopology

namespace Identifier

/-- The runs of a text, whatever the case of their letters. -/
def foldedRuns (text : String) : List (List Char) := (runs text).map (·.map Char.toLower)

theorem snake_eq_iff {a b : String} : snake a = snake b ↔ foldedRuns a = foldedRuns b := by
  rw [foldedRuns, foldedRuns, ← words_eq_runs, ← words_eq_runs]
  exact derive_eq_derive_iff isCase_toLower

theorem upper_eq_iff {a b : String} : upper a = upper b ↔ foldedRuns a = foldedRuns b := by
  rw [foldedRuns, foldedRuns, ← words_eq_runs, ← words_eq_runs]
  exact derive_eq_derive_iff isCase_toUpper

end Identifier

/-! ## Items that have an accessor -/

namespace Item

/-- The item with an accessor that is named after the same text. -/
def accessor : Item → Item
  | sensors k => .kind k
  | sensorName k n => .name k n
  | a => a

theorem eq_of_accessor_eq {a b : Item} (hhome : a.home = b.home) (h : a.accessor = b.accessor) : a = b := by
  cases a <;> cases b <;> simp_all [accessor, home]

/-- Items that clash are named after texts that clash in every case. -/
theorem Clashes.accessor {a b : Item} (h : a.Clashes b) : a.accessor.Clashes b.accessor := by
  obtain ⟨hhome, hidentifier⟩ := h
  cases a with
  | sensors k =>
    cases b with
    | sensors l => exact ⟨rfl, hidentifier⟩
    | _ => cases hhome
  | sensorName k m =>
    cases b with
    | sensorName l n =>
      obtain rfl := Home.sensorNames.inj hhome
      exact ⟨rfl, Identifier.snake_eq_iff.mpr (Identifier.upper_eq_iff.mp hidentifier)⟩
    | _ => cases hhome
  | _ =>
    cases b with
    | sensors _ | sensorName _ _ => cases hhome
    | _ => exact ⟨hhome, hidentifier⟩

end Item

/-! ## Parts that add no clash -/

namespace Document

variable {d : Document} {t : Topology} {dispositions more : List Disposition} {o : EmitOptions}

/-- A full artifact is made exactly if there is one target controller, ports can be counted and no two items clash. -/
theorem exists_artifact_iff (h : d.resolve = .ok t) (hparts : ¬(.initiator ∈ dispositions ∧ .target ∈ dispositions))
    (hfull : o.standalone = false) : (∃ a, Artifact.ofTopology t dispositions o = .ok a) ↔
      (.target ∈ dispositions → (d.controllersIn .target).length = 1) ∧
      (∀ c ∈ d.setUp dispositions, c.ports.size < 256) ∧
      ∀ a b : Item, a.NamedIn d dispositions → b.NamedIn d dispositions → a ≠ b → ¬a.Clashes b := by
  rw [(meets_artifact h hparts hfull).exists_ok_iff, checkAll_demands_iff h hparts]

section Parts

variable (hmore : ∀ part ∈ more, part = .sensors ∨ part ∈ dispositions)
  (hparts : ¬(.initiator ∈ dispositions ∧ .target ∈ dispositions))
include hmore

theorem mem_of_ne_sensors {part : Disposition} (hpart : part ∈ more) (hne : part ≠ .sensors) : part ∈ dispositions :=
  (hmore part hpart).resolve_left hne

include hparts

theorem compatible_of_subset : ¬(.initiator ∈ more ∧ .target ∈ more) := fun h =>
  hparts ⟨mem_of_ne_sensors hmore h.1 (by simp), mem_of_ne_sensors hmore h.2 (by simp)⟩

/-- No other controllers are set up. -/
theorem mem_setUp_of_subset {c : ControllerDecl} (hc : c ∈ d.setUp more) : c ∈ d.setUp dispositions := by
  unfold setUp at hc ⊢
  split at hc
  · rename_i hinitiator
    rwa [if_pos (mem_of_ne_sensors hmore hinitiator (by simp))]
  · split at hc
    · rename_i htarget
      have htarget : .target ∈ dispositions := mem_of_ne_sensors hmore htarget (by simp)
      rwa [if_neg fun hinitiator => hparts ⟨hinitiator, htarget⟩, if_pos htarget]
    · cases hc

/-- Each item that an artifact names is in the place of one that has an accessor. -/
theorem namedIn_accessor (hdevices : .devices ∈ dispositions) {a : Item} (ha : a.NamedIn d more) :
    a.accessor.NamedIn d dispositions := by
  cases a with
  | port controller key =>
    obtain ⟨c, hc, hport⟩ := ha
    exact ⟨c, mem_setUp_of_subset hmore hparts hc, hport⟩
  | sensors k =>
    obtain ⟨-, e, he, hkind, -⟩ := ha
    exact ⟨hdevices, e, he, hkind⟩
  | sensorName k n =>
    obtain ⟨-, e, he, hkind, -, hn⟩ := ha
    exact ⟨hdevices, e, he, hkind, hn⟩
  | kind _ | name _ _ | refdes _ _ | bus _ _ | rail _ => exact ⟨hdevices, ha.2⟩

/-- If there is an artifact with accessors, there is one with sensor ids. -/
theorem exists_artifact_of_accessors (h : d.resolve = .ok t) (hdevices : .devices ∈ dispositions)
    (hmade : ∃ a, Artifact.ofTopology t dispositions o = .ok a) : ∃ a, Artifact.ofTopology t more o = .ok a := by
  have hcompatible := compatible_of_subset hmore hparts
  cases hfull : o.standalone with
  | true => exact exists_artifact_standalone t hcompatible hfull
  | false =>
    obtain ⟨htarget, hcount, hclash⟩ := (exists_artifact_iff h hparts hfull).mp hmade
    refine (exists_artifact_iff h hcompatible hfull).mpr ⟨fun hmem => ?_, fun c hc => ?_, fun a b ha hb hne hab => ?_⟩
    · exact htarget (mem_of_ne_sensors hmore hmem (by simp))
    · exact hcount c (mem_setUp_of_subset hmore hparts hc)
    · -- two items with sensors that clash stand for two with accessors that do
      have hne' : a.accessor ≠ b.accessor := fun heq => hne (Item.eq_of_accessor_eq hab.1 heq)
      exact hclash _ _ (namedIn_accessor hmore hparts hdevices ha) (namedIn_accessor hmore hparts hdevices hb) hne'
        hab.accessor

end Parts

end Document

namespace Identifier

/-- **Identifiers up to case.** Whether two texts have the same identifier is the same in both cases, and depends on
their runs of letters and digits up to case alone; an identifier of an identifier is the one of its text. So an artifact
of a resolved document whose accessors can be made can have its sensor ids besides or in their place. -/
theorem same_up_to_case (a b : String) :
    (snake a = snake b ↔ upper a = upper b) ∧ (snake a = snake b ↔ foldedRuns a = foldedRuns b) ∧
    (snake (snake a) = snake a ∧ upper (upper a) = upper a ∧ snake (upper a) = snake a ∧ upper (snake a) = upper a) ∧
    ∀ {d : Document} {t : Topology} {o : EmitOptions} {dispositions more : List Disposition}, d.resolve = .ok t →
      .devices ∈ dispositions → (∀ part ∈ more, part = .sensors ∨ part ∈ dispositions) →
      (∃ made, Artifact.ofTopology t dispositions o = .ok made) → ∃ made, Artifact.ofTopology t more o = .ok made := by
  refine ⟨snake_eq_iff.trans upper_eq_iff.symm, snake_eq_iff, ⟨?_, ?_, ?_, ?_⟩, ?_⟩
  · exact derive_derive isCase_toLower isCase_toLower a
  · exact derive_derive isCase_toUpper isCase_toUpper a
  · exact derive_derive isCase_toLower isCase_toUpper a
  · exact derive_derive isCase_toUpper isCase_toLower a
  · rintro d t o dispositions more h hdevices hmore ⟨made, hmade⟩
    have hcompatible := (Artifact.ofTopology_eq_ok_iff.mp hmade).compatible
    exact Document.exists_artifact_of_accessors hmore hcompatible h hdevices ⟨made, hmade⟩

end Identifier

namespace FansAndProbe

/-- Devices with sensors whose names have the same identifiers, each within its own kind. -/
def document : Document where
  controllers := [{ controller := 2, ports := .ofList [("A", { name := some "main" })] }]
  devices := [
    { device := "max31790", bus := some "main", address := 0x20, names := ["fan 1"], sensors := { speed := 1 } },
    { device := "tmp117", bus := some "main", address := 0x48, names := ["Fan-1"], sensors := { temperature := 1 } }]

def board : Topology := document.resolve.toOption.getD {}

theorem resolve_document : document.resolve = .ok board := rfl

theorem exists_accessors : ∃ a, Artifact.ofTopology board [.devices] {} = .ok a := ⟨_, rfl⟩

/-- The two names are the same in either case, but apart in their modules: the accessors can be made, and so can the
sensor ids. -/
theorem same_up_to_case_fans :
    (Identifier.snake "fan 1" = Identifier.snake "Fan-1" ↔ Identifier.upper "fan 1" = Identifier.upper "Fan-1") ∧
    document.resolve = .ok board ∧ (∃ a, Artifact.ofTopology board [.devices] {} = .ok a) ∧
    ∃ a, Artifact.ofTopology board [.sensors] {} = .ok a :=
  have h := Identifier.same_up_to_case "fan 1" "Fan-1"
  ⟨h.1, resolve_document, exists_accessors, h.2.2.2 resolve_document (by decide) (by decide) exists_accessors⟩

end FansAndProbe

end I2cTopology
