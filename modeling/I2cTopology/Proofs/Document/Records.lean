import I2cTopology.Proofs.Document.Reading

/-!
# Records are read field by field

`FieldShape.SetBy` says that a field of a schema sets what a field of the shape holds, and `Schema.Describes` that the
fields of a schema are those of a shape, each of which leaves the others alone. That need not be shown for each pair of
fields: `FieldShape.Sets` goes through the fields once and sees a record as the tuple of what they hold, so a schema
describes its fields if its record is made of them by one constructor (`Schema.describes_of_sets`).

- the fields given are set if each key belongs to a field that takes the value (`Schema.Describes.exists_fill_iff`), and
  then each field holds what the value under its key stands for (`Schema.Describes.get_fill`);
- the entries may come in any order (`Schema.Describes.fill_perm`), because changes of two fields commute;
- so a schema is read as its shape says (`Schema.Describes.readBy`).
-/

namespace I2cTopology

open Toml (Value)

variable {α ρ : Type}

/-! ## Fields -/

/-- The shape of a field, whose values stand for the changes that put them into the field. -/
def FieldShape.change (g : FieldShape ρ) : Shape (ρ → ρ) :=
  { g.shape with Carries := fun v change => ∃ x, g.shape.Carries v x ∧ ∀ r, g.get (change r) = x }

/-- The field of a schema reads the values of the shape and puts them where the record holds them. A blank record holds
what is held if the key is absent. -/
structure FieldShape.SetBy (blank : ρ) (g : FieldShape ρ) (f : Field ρ) : Prop where
  name_eq : f.name = g.name
  required_iff : f.presence = .required ↔ g.absent = none
  read : g.change.ReadBy f.read
  get_blank : ∀ x, g.absent = some x → g.get blank = x

/-- No change that the field makes is seen by `get`. -/
def Field.Keeps (f : Field ρ) (get : ρ → α) : Prop := ∀ v change, f.read v = .ok change → ∀ r, get (change r) = get r

namespace FieldShape

variable {blank : ρ} {name : String} {shape : Shape α} {reader : ValueReader α}

/-- The field of a schema reads the values of the shape and puts them into a record by `set`. A blank record holds what
is held if the key is absent. -/
structure SetAs (blank : ρ) (g : FieldShape ρ) (f : Field ρ) (set : ρ → g.Content → ρ) : Prop where
  name_eq : f.name = g.name
  required_iff : f.presence = .required ↔ g.absent = none
  read : ∃ reader, g.shape.ReadBy reader ∧ f.read = fun v => (reader v).map fun x r => set r x
  get_blank : ∀ x, g.absent = some x → g.get blank = x

theorem setAs_required {get : ρ → α} {set set' : ρ → α → ρ} (hread : shape.ReadBy reader)
    (hset : ∀ r x, set r x = set' r x) : (required name shape get).SetAs blank (.required name reader set) set' := by
  obtain rfl : set = set' := funext₂ hset
  exact ⟨rfl, by simp [Field.required, required], ⟨reader, hread, rfl⟩, nofun⟩

theorem setAs_defaulted {default : α} {get : ρ → α} {set set' : ρ → α → ρ} (hread : shape.ReadBy reader)
    (hset : ∀ r x, set r x = set' r x) (hblank : get blank = default) :
    (defaulted name shape default get).SetAs blank (.defaulted name reader set) set' := by
  obtain rfl : set = set' := funext₂ hset
  refine ⟨rfl, by simp [Field.defaulted, defaulted], ⟨reader, hread, rfl⟩, fun x hx => ?_⟩
  exact hblank.trans (Option.some.inj hx)

theorem setAs_optional {get : ρ → Option α} {set set' : ρ → Option α → ρ} (hread : shape.ReadBy reader)
    (hset : ∀ r x, set r x = set' r x) (hblank : get blank = none) :
    (optional name shape get).SetAs blank (.optional name reader set) set' := by
  obtain rfl : set = set' := funext₂ hset
  refine ⟨rfl, by simp [Field.optional, optional], ⟨_, Shape.readBy_given hread, ?_⟩, fun x hx => ?_⟩
  · funext v
    show (reader v).map (fun x r => set r (some x)) = ((reader v).map some).map fun x r => set r x
    cases reader v <;> rfl
  · exact hblank.trans (Option.some.inj hx)

namespace SetAs

variable {g : FieldShape ρ} {f : Field ρ} {set : ρ → g.Content → ρ} (h : g.SetAs blank f set)
include h

theorem setBy (hget : ∀ r x, g.get (set r x) = x) : g.SetBy blank f := by
  obtain ⟨reader, hread, heq⟩ := h.read
  refine ⟨h.name_eq, h.required_iff, ?_, h.get_blank⟩
  rw [heq]
  refine ⟨fun hv => exists_map_eq_ok_iff.trans (hread.exists_ok_iff hv), fun hv hchange => ?_,
    fun hv hvw hchange => ?_⟩
  · obtain ⟨x, hx, rfl⟩ := map_eq_ok_iff.mp hchange
    exact ⟨x, hread.carries hv hx, fun r => hget r x⟩
  · obtain ⟨x, hx, rfl⟩ := map_eq_ok_iff.mp hchange
    exact map_eq_ok_iff.mpr ⟨x, hread.reordered hv hvw hx, rfl⟩

theorem keeps {get : ρ → α} (hget : ∀ r x, get (set r x) = get r) : f.Keeps get := by
  obtain ⟨reader, -, heq⟩ := h.read
  intro v change hread r
  rw [heq] at hread
  obtain ⟨x, -, rfl⟩ := map_eq_ok_iff.mp hread
  exact hget r x

end SetAs

/-! ## Records as tuples -/

/-- What the fields of a record hold, one after the other. -/
def Contents : List (FieldShape ρ) → Type
  | [] => Unit
  | g :: gs => g.Content × Contents gs

/-- What a record holds. -/
def contents : (gs : List (FieldShape ρ)) → ρ → Contents gs
  | [], _ => ()
  | g :: gs, r => (g.get r, contents gs r)

theorem contents_eq_iff {gs : List (FieldShape ρ)} {r r' : ρ} :
    contents gs r = contents gs r' ↔ ∀ g ∈ gs, g.get r = g.get r' := by
  induction gs with
  | nil => exact iff_of_true rfl (by simp)
  | cons g gs ih =>
    show ((g.get r, contents gs r) : g.Content × Contents gs) = (g.get r', contents gs r') ↔ _
    rw [Prod.mk.injEq, ih, List.forall_mem_cons]

/-- A record as a function of what its fields hold. -/
def Maker (ρ : Type) : List (FieldShape ρ) → Type
  | [] => ρ
  | g :: gs => g.Content → Maker ρ gs

/-- The record with these contents. -/
def make : (gs : List (FieldShape ρ)) → Maker ρ gs → Contents gs → ρ
  | [], r, _ => r
  | _ :: gs, build, xs => make gs (build xs.1) xs.2

/-- Each field of a schema sets what one field of a shape holds by way of `put`, which takes what all of them hold. The
remaining fields are set with what the first one holds left as it is. -/
inductive Sets (blank : ρ) : (gs : List (FieldShape ρ)) → List (Field ρ) → (ρ → Contents gs → ρ) → Prop where
  | nil {put : ρ → Contents [] → ρ} : (∀ r, put r () = r) → Sets blank [] [] put
  | cons {g : FieldShape ρ} {gs : List (FieldShape ρ)} {f : Field ρ} {fs : List (Field ρ)}
      {put : ρ → Contents (g :: gs) → ρ} : g.SetAs blank f (fun r x => put r (x, contents gs r)) →
      Sets blank gs fs (fun r xs => put r (g.get r, xs)) → Sets blank (g :: gs) (f :: fs) put

namespace Sets

variable {gs : List (FieldShape ρ)} {fs : List (Field ρ)} {put : ρ → Contents gs → ρ} (h : Sets blank gs fs put)
include h

/-- A record is what it holds. -/
theorem put_contents (r : ρ) : put r (contents gs r) = r := by
  induction h with
  | nil hnil => exact hnil r
  | cons _ _ ih => exact ih

theorem forall₂_setBy (hput : ∀ r xs, contents gs (put r xs) = xs) : List.Forall₂ (FieldShape.SetBy blank) gs fs := by
  induction h with
  | nil => exact .nil
  | @cons g gs f fs put hset _ ih =>
    refine .cons (hset.setBy fun r x => ?_) (ih fun r xs => ?_)
    · exact congrArg Prod.fst (hput r (x, contents gs r))
    · exact congrArg Prod.snd (hput r (g.get r, xs))

/-- What `put` does not touch is not touched by a field. -/
theorem keeps {get : ρ → α} (hget : ∀ r xs, get (put r xs) = get r) : ∀ f ∈ fs, f.Keeps get := by
  induction h with
  | nil => simp
  | cons hset _ ih => exact List.forall_mem_cons.mpr ⟨hset.keeps fun r x => hget r _, ih fun r xs => hget r _⟩

/-- No field touches what another one sets. -/
theorem keeps_of_name_ne (hput : ∀ r xs, contents gs (put r xs) = xs) :
    ∀ g ∈ gs, ∀ f ∈ fs, f.name ≠ g.name → f.Keeps g.get := by
  induction h with
  | nil => simp
  | @cons g gs f fs put hset hsets ih =>
    have hrest : ∀ r xs, contents gs (put r (g.get r, xs)) = xs := fun r xs => congrArg Prod.snd (hput r (g.get r, xs))
    have hhead : ∀ r xs, g.get (put r (g.get r, xs)) = g.get r := fun r xs => congrArg Prod.fst (hput r (g.get r, xs))
    intro g' hg' f' hf' hne
    rcases List.mem_cons.mp hg' with rfl | hg'
    · rcases List.mem_cons.mp hf' with rfl | hf'
      · exact absurd hset.name_eq hne
      · exact hsets.keeps hhead f' hf'
    · rcases List.mem_cons.mp hf' with rfl | hf'
      · refine hset.keeps fun r x => ?_
        exact contents_eq_iff.mp (congrArg Prod.snd (hput r (x, contents gs r))) g' hg'
      · exact ih hrest g' hg' f' hf' hne

end Sets

end FieldShape

/-! ## Records -/

namespace Schema

variable {s : Schema ρ} {fields : List (FieldShape ρ)} {r r' : ρ} {e : String × Value} {es es' : List (String × Value)}

/-- The schema has the fields of a shape, one for one. -/
structure Describes (s : Schema ρ) (fields : List (FieldShape ρ)) : Prop where
  setBy : List.Forall₂ (FieldShape.SetBy s.blank) fields s.fields
  nodup_names : (s.fields.map (·.name)).Nodup
  keeps : ∀ g ∈ fields, ∀ f ∈ s.fields, f.name ≠ g.name → f.Keeps g.get
  /-- A record is what it holds. -/
  ext : ∀ r r', (∀ g ∈ fields, g.get r = g.get r') → r = r'

/-- A schema describes the fields of a shape if they make up its records and each of its fields sets one of them. -/
theorem describes_of_sets (build : FieldShape.Maker ρ fields)
    (hmake : ∀ xs, FieldShape.contents fields (FieldShape.make fields build xs) = xs)
    (h : FieldShape.Sets s.blank fields s.fields fun _ => FieldShape.make fields build)
    (hnames : (s.fields.map (·.name)).Nodup) : s.Describes fields where
  setBy := h.forall₂_setBy fun _ => hmake
  nodup_names := hnames
  keeps := h.keeps_of_name_ne fun _ => hmake
  ext r r' hall := by
    rw [← h.put_contents r, ← h.put_contents r', FieldShape.contents_eq_iff.mpr hall]

/-- Entries of a table with values under consideration. -/
def PlainEntries (fields : List (FieldShape ρ)) (es : List (String × Value)) : Prop :=
  ∀ e ∈ es, ∀ g ∈ fields, g.name = e.1 → g.shape.Plain e.2

theorem fill_cons_eq_ok_iff (hnames : (s.fields.map (·.name)).Nodup) : s.fill r (e :: es) = .ok r' ↔
    ∃ f ∈ s.fields, f.name = e.1 ∧ ∃ change, f.read e.2 = .ok change ∧ s.fill (change r) es = .ok r' := by
  obtain ⟨name, v⟩ := e
  have hfind : ∀ f, s.fields.find? (·.name == name) = some f ↔ f ∈ s.fields ∧ f.name = name := fun f =>
    KeyedList.find?_eq_some_iff_of_nodup Field.name (fun _ => beq_iff_eq) hnames
  rw [Schema.fill]
  constructor
  · intro hok
    split at hok
    · cases hok
    · rename_i f hf
      split at hok
      · cases hok
      · rename_i change hread
        exact ⟨f, ((hfind f).mp hf).1, ((hfind f).mp hf).2, change, hread, hok⟩
  · rintro ⟨f, hf, hname, change, hread, hok⟩
    rw [(hfind f).mpr ⟨hf, hname⟩]
    simp only [hread]
    exact hok

namespace Describes

theorem exists_field (h : s.Describes fields) {g : FieldShape ρ} (hg : g ∈ fields) :
    ∃ f ∈ s.fields, g.SetBy s.blank f :=
  exists_of_forall₂_left h.setBy hg

theorem exists_shape (h : s.Describes fields) {f : Field ρ} (hf : f ∈ s.fields) :
    ∃ g ∈ fields, g.SetBy s.blank f :=
  exists_of_forall₂_right h.setBy hf

/-- The fields of one name belong together. -/
theorem setBy_of_name_eq (h : s.Describes fields) {g : FieldShape ρ} {f : Field ρ} (hg : g ∈ fields)
    (hf : f ∈ s.fields) (hname : f.name = g.name) : g.SetBy s.blank f := by
  obtain ⟨f', hf', hset⟩ := h.exists_field hg
  rwa [List.inj_on_of_nodup_map h.nodup_names hf hf' (hname.trans hset.name_eq.symm)]

/-- The fields given are set if each key belongs to a field that takes the value. -/
theorem exists_fill_iff (h : s.Describes fields) (hplain : PlainEntries fields es) :
    (∃ r', s.fill r es = .ok r') ↔ ∀ e ∈ es, ∃ g ∈ fields, g.name = e.1 ∧ g.shape.Conforms e.2 := by
  induction es generalizing r with
  | nil => exact iff_of_true ⟨r, rfl⟩ (by simp)
  | cons e es ih =>
    have hrest : PlainEntries fields es := fun e he => hplain e (List.mem_cons_of_mem _ he)
    rw [List.forall_mem_cons]
    simp only [fill_cons_eq_ok_iff h.nodup_names]
    constructor
    · rintro ⟨r', f, hf, hname, change, hchange, hok⟩
      obtain ⟨g, hg, hset⟩ := h.exists_shape hf
      have hkey : g.name = e.1 := hset.name_eq.symm.trans hname
      refine ⟨⟨g, hg, hkey, ?_⟩, (ih hrest).mp ⟨r', hok⟩⟩
      exact (hset.read.exists_ok_iff (hplain e List.mem_cons_self g hg hkey)).mp ⟨change, hchange⟩
    · rintro ⟨⟨g, hg, hkey, hconforms⟩, hall⟩
      obtain ⟨f, hf, hset⟩ := h.exists_field hg
      obtain ⟨change, hchange⟩ :=
        (hset.read.exists_ok_iff (hplain e List.mem_cons_self g hg hkey)).mpr hconforms
      obtain ⟨r', hok⟩ := (ih (r := change r) hrest).mpr hall
      exact ⟨r', f, hf, hset.name_eq.trans hkey, change, hchange, hok⟩

/-- A field holds what the value under its key stands for, or what it held if its key is not given. -/
theorem get_fill (h : s.Describes fields) (hplain : PlainEntries fields es) (hkeys : (es.map Prod.fst).Nodup)
    (hok : s.fill r es = .ok r') {g : FieldShape ρ} (hg : g ∈ fields) :
    (∃ v, (g.name, v) ∈ es ∧ g.shape.Carries v (g.get r')) ∨ g.name ∉ es.map Prod.fst ∧ g.get r' = g.get r := by
  induction es generalizing r with
  | nil =>
    cases hok
    exact Or.inr ⟨List.not_mem_nil, rfl⟩
  | cons e es ih =>
    rw [List.map_cons, List.nodup_cons] at hkeys
    obtain ⟨f, hf, hname, change, hchange, hok⟩ := (fill_cons_eq_ok_iff h.nodup_names).mp hok
    rcases ih (fun e he => hplain e (List.mem_cons_of_mem _ he)) hkeys.2 hok with ⟨v, hv, hcarries⟩ | ⟨hno, hget⟩
    · exact Or.inl ⟨v, List.mem_cons_of_mem _ hv, hcarries⟩
    · by_cases hkey : g.name = e.1
      · have hset := h.setBy_of_name_eq hg hf (hname.trans hkey.symm)
        obtain ⟨x, hx, hchange⟩ := hset.read.carries (hplain e List.mem_cons_self g hg hkey) hchange
        exact Or.inl ⟨e.2, hkey ▸ List.mem_cons_self, by rwa [hget, hchange r]⟩
      · refine Or.inr ⟨by simp [hkey, hno], hget.trans ?_⟩
        exact h.keeps g hg f hf (fun heq => hkey (heq.symm.trans hname)) e.2 change hchange r

/-- Changes of two fields commute. -/
theorem change_comm (h : s.Describes fields) {f f' : Field ρ} (hf : f ∈ s.fields) (hf' : f' ∈ s.fields)
    (hne : f.name ≠ f'.name) {v v' : Value} {change change' : ρ → ρ} (hchange : f.read v = .ok change)
    (hchange' : f'.read v' = .ok change') (hplain : PlainEntries fields [(f.name, v), (f'.name, v')]) :
    change (change' r) = change' (change r) := by
  refine h.ext _ _ fun g hg => ?_
  by_cases hname : f.name = g.name
  · have hother : f'.name ≠ g.name := fun heq => hne (hname.trans heq.symm)
    obtain ⟨x, -, hset⟩ := (h.setBy_of_name_eq hg hf hname).read.carries
      (hplain _ List.mem_cons_self g hg hname.symm) hchange
    rw [hset, h.keeps g hg f' hf' hother v' change' hchange', hset]
  · rw [h.keeps g hg f hf hname v change hchange]
    by_cases hname' : f'.name = g.name
    · obtain ⟨x, -, hset⟩ := (h.setBy_of_name_eq hg hf' hname').read.carries
        (hplain _ (List.mem_cons_of_mem _ List.mem_cons_self) g hg hname'.symm) hchange'
      rw [hset, hset]
    · rw [h.keeps g hg f' hf' hname' v' change' hchange', h.keeps g hg f' hf' hname' v' change' hchange',
        h.keeps g hg f hf hname v change hchange]

/-- The entries may come in any order. -/
theorem fill_perm (h : s.Describes fields) (hperm : es.Perm es') (hplain : PlainEntries fields es)
    (hkeys : (es.map Prod.fst).Nodup) (hok : s.fill r es = .ok r') : s.fill r es' = .ok r' := by
  induction hperm generalizing r with
  | nil => exact hok
  | cons e _ ih =>
    obtain ⟨f, hf, hname, change, hchange, hok⟩ := (fill_cons_eq_ok_iff h.nodup_names).mp hok
    rw [List.map_cons, List.nodup_cons] at hkeys
    have hrest := ih (fun e he => hplain e (List.mem_cons_of_mem _ he)) hkeys.2 hok
    exact (fill_cons_eq_ok_iff h.nodup_names).mpr ⟨f, hf, hname, change, hchange, hrest⟩
  | swap e e' es =>
    obtain ⟨f', hf', hname', change', hchange', hok⟩ := (fill_cons_eq_ok_iff h.nodup_names).mp hok
    obtain ⟨f, hf, hname, change, hchange, hok⟩ := (fill_cons_eq_ok_iff h.nodup_names).mp hok
    have hne : f.name ≠ f'.name := by
      rw [hname, hname']
      rintro heq
      simp [heq] at hkeys
    have hpair : PlainEntries fields [(f.name, e.2), (f'.name, e'.2)] := by
      rw [hname, hname']
      intro d hd
      refine hplain d ?_
      rcases List.mem_cons.mp hd with rfl | hd
      · exact List.mem_cons_of_mem _ List.mem_cons_self
      · rw [List.mem_singleton.mp hd]
        exact List.mem_cons_self
    rw [h.change_comm hf hf' hne hchange hchange' hpair] at hok
    have hrest := (fill_cons_eq_ok_iff h.nodup_names).mpr ⟨f', hf', hname', change', hchange', hok⟩
    exact (fill_cons_eq_ok_iff h.nodup_names).mpr ⟨f, hf, hname, change, hchange, hrest⟩
  | trans hperm _ ih ih' =>
    refine ih' (fun e he => hplain e (hperm.mem_iff.mpr he)) ?_ (ih hplain hkeys hok)
    exact (hperm.map Prod.fst).nodup_iff.mp hkeys

/-- The order of keys within the values does not count. -/
theorem fill_reordered (h : s.Describes fields) (hplain : PlainEntries fields es)
    (hre : List.Forall₂ (fun e e' => e.1 = e'.1 ∧ ∀ g ∈ fields, g.name = e.1 → g.shape.Reordered e.2 e'.2) es es')
    (hok : s.fill r es = .ok r') : s.fill r es' = .ok r' := by
  induction hre generalizing r with
  | nil => exact hok
  | @cons e e' es es' hentry _ ih =>
    obtain ⟨f, hf, hname, change, hchange, hok⟩ := (fill_cons_eq_ok_iff h.nodup_names).mp hok
    obtain ⟨g, hg, hset⟩ := h.exists_shape hf
    have hkey : g.name = e.1 := hset.name_eq.symm.trans hname
    have hchange' := hset.read.reordered (hplain e List.mem_cons_self g hg hkey) (hentry.2 g hg hkey) hchange
    have hrest := ih (fun e he => hplain e (List.mem_cons_of_mem _ he)) hok
    exact (fill_cons_eq_ok_iff h.nodup_names).mpr ⟨f, hf, hname.trans hentry.1, change, hchange', hrest⟩

/-- A table is read if its entries are set and no required key is missing. -/
theorem readTable_eq_ok_iff (h : s.Describes fields) : s.readTable es = .ok r ↔
    s.fill s.blank es = .ok r ∧ ∀ g ∈ fields, g.absent = none → g.name ∈ es.map Prod.fst := by
  have hfind : (s.fields.find? fun f => f.presence == .required && !(es.map Prod.fst).contains f.name) = none ↔
      ∀ g ∈ fields, g.absent = none → g.name ∈ es.map Prod.fst := by
    rw [List.find?_eq_none]
    constructor
    · intro hnone g hg habsent
      obtain ⟨f, hf, hset⟩ := h.exists_field hg
      have hgiven := hnone f hf
      rw [hset.required_iff.mpr habsent, hset.name_eq] at hgiven
      simpa using hgiven
    · intro hall f hf hmissing
      obtain ⟨g, hg, hset⟩ := h.exists_shape hf
      rw [Bool.and_eq_true, beq_iff_eq, hset.required_iff, hset.name_eq] at hmissing
      simp [hall g hg hmissing.1] at hmissing
  rw [← hfind, Schema.readTable]
  cases s.fill s.blank es with
  | error e => simp
  | ok r₀ =>
    dsimp only
    split
    · rename_i hsome
      simp only [hsome, reduceCtorEq, and_false]
    · rename_i hnone
      simp only [hnone, and_true]

/-- A schema is read as its shape says. -/
theorem readBy (h : s.Describes fields) : (Shape.record fields).ReadBy s.read where
  exists_ok_iff {v} hv := by
    cases v with
    | table es =>
      have hfill := h.exists_fill_iff (r := s.blank) hv.2
      show (∃ r, s.readTable es = .ok r) ↔ _ ∧ _
      simp only [h.readTable_eq_ok_iff, exists_and_right, hfill]
    | _ => cases hv
  carries {v r} hv hread := by
    cases v with
    | table es =>
      obtain ⟨hfill, hrequired⟩ := h.readTable_eq_ok_iff.mp hread
      intro g hg
      refine (h.get_fill hv.2 hv.1 hfill hg).imp id ?_
      rintro ⟨hno, hget⟩
      refine ⟨hno, ?_⟩
      cases habsent : g.absent with
      | none => exact absurd (hrequired g hg habsent) hno
      | some x =>
        obtain ⟨f, -, hset⟩ := h.exists_field hg
        rw [hget, hset.get_blank x habsent]
    | _ => cases hv
  reordered {v w r} hv hvw hread := by
    cases v with
    | table es =>
      cases w with
      | table es' =>
        obtain ⟨mid, hperm, hre⟩ := hvw
        obtain ⟨hfill, hrequired⟩ := h.readTable_eq_ok_iff.mp hread
        have hmid := h.fill_perm hperm hv.2 hv.1 hfill
        have hkeys : mid.map Prod.fst = es'.map Prod.fst := by
          rw [← List.forall₂_eq_eq_eq, List.forall₂_map_left_iff, List.forall₂_map_right_iff]
          exact hre.imp fun _ _ => And.left
        refine h.readTable_eq_ok_iff.mpr ⟨h.fill_reordered ?_ hre hmid, fun g hg habsent => ?_⟩
        · exact fun e he => hv.2 e (hperm.mem_iff.mpr he)
        · rw [← hkeys, ← (hperm.map Prod.fst).mem_iff]
          exact hrequired g hg habsent
      | _ => cases hvw
    | _ => cases hv

end Describes

end Schema

end I2cTopology
