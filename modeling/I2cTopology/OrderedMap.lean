/-!
# Maps in insertion order

`OrderedMap κ ν` is a finite map that lists its entries in the order in which their keys were first put in.
Distinctness of the keys is part of the type.

- `get?_upsert`: an update is seen at its own key and nowhere else;
- `keys_upsert`: a new key goes to the end, a known key stays where it is;
- `mem_entries_iff`: the entries are exactly what `get?` finds;
- `entries_ofList`: pairs with distinct keys are listed as they are.
-/

namespace I2cTopology

/-! ## Association lists -/

namespace Entries

variable {κ : Type u} {ν : Type v} [DecidableEq κ]

/-- The value listed first under `k`. -/
def find? (k : κ) : List (κ × ν) → Option ν
  | [] => none
  | (k', v) :: l => if k' = k then some v else find? k l

/-- Replaces the first value under `k` by `f` of it, or lists `f none` at the end. -/
def upsert (k : κ) (f : Option ν → ν) : List (κ × ν) → List (κ × ν)
  | [] => [(k, f none)]
  | (k', v) :: l => if k' = k then (k', f (some v)) :: l else (k', v) :: upsert k f l

/-- Nothing is found exactly under the keys that are not listed. -/
theorem find?_eq_none_iff {k : κ} : ∀ {l : List (κ × ν)}, find? k l = none ↔ k ∉ l.map Prod.fst
  | [] => by simp [find?]
  | (k', v) :: l => by
    by_cases h : k' = k
    · simp [find?, h]
    · simp [find?, h, find?_eq_none_iff (l := l), Ne.symm h]

/-- What is found is listed. -/
theorem mem_of_find? {k : κ} {v : ν} : ∀ {l : List (κ × ν)}, find? k l = some v → (k, v) ∈ l
  | [], h => by simp [find?] at h
  | (k', v') :: l, h => by
    by_cases hk : k' = k
    · simp only [find?, hk, if_true, Option.some.injEq] at h
      simp [hk, h]
    · simp only [find?, hk, if_false] at h
      exact List.mem_cons_of_mem _ (mem_of_find? h)

/-- With distinct keys, what is listed is found. -/
theorem find?_of_mem {k : κ} {v : ν} : ∀ {l : List (κ × ν)}, (l.map Prod.fst).Nodup → (k, v) ∈ l →
    find? k l = some v
  | [], _, h => by simp at h
  | (k', v') :: l, hd, h => by
    simp only [List.map_cons, List.nodup_cons] at hd
    rcases List.mem_cons.mp h with h | h
    · obtain ⟨rfl, rfl⟩ := Prod.mk.inj h
      simp [find?]
    · have hk : k' ≠ k := fun e => hd.1 (e ▸ List.mem_map_of_mem (f := Prod.fst) h)
      simp only [find?, hk, if_false]
      exact find?_of_mem hd.2 h

/-- An update is seen at its own key and nowhere else. -/
theorem find?_upsert {k : κ} {f : Option ν → ν} (j : κ) : ∀ {l : List (κ × ν)},
    find? j (upsert k f l) = if j = k then some (f (find? k l)) else find? j l
  | [] => by
    by_cases h : j = k
    · simp [upsert, find?, h]
    · simp [upsert, find?, h, Ne.symm h]
  | (k', v) :: l => by
    by_cases hk : k' = k
    · by_cases h : j = k
      · simp [upsert, find?, hk, h]
      · simp [upsert, find?, hk, h, Ne.symm h]
    · by_cases hj : k' = j
      · have h : j ≠ k := hj ▸ hk
        simp [upsert, find?, hj, h]
      · simp [upsert, find?, hk, hj, find?_upsert (l := l) j]

/-- A new key goes to the end, a known key stays where it is. -/
theorem keys_upsert {k : κ} {f : Option ν → ν} : ∀ {l : List (κ × ν)},
    (upsert k f l).map Prod.fst = if k ∈ l.map Prod.fst then l.map Prod.fst else l.map Prod.fst ++ [k]
  | [] => by simp [upsert]
  | (k', v) :: l => by
    by_cases hk : k' = k
    · simp [upsert, hk]
    · by_cases hm : k ∈ l.map Prod.fst
      · simp only [upsert, hk, if_false, List.map_cons, keys_upsert (l := l), hm, if_true, List.mem_cons, or_true]
      · simp only [upsert, hk, if_false, List.map_cons, keys_upsert (l := l), hm, List.mem_cons, Ne.symm hk,
          or_self, List.cons_append]

/-- A new key goes to the end with its value. -/
theorem upsert_of_notMem {k : κ} {f : Option ν → ν} : ∀ {l : List (κ × ν)}, k ∉ l.map Prod.fst →
    upsert k f l = l ++ [(k, f none)]
  | [], _ => rfl
  | (k', v) :: l, h => by
    simp only [List.map_cons, List.mem_cons, not_or] at h
    simp [upsert, Ne.symm h.1, upsert_of_notMem h.2]

/-- An update keeps the keys distinct. -/
theorem nodup_keys_upsert {k : κ} {f : Option ν → ν} {l : List (κ × ν)} (h : (l.map Prod.fst).Nodup) :
    ((upsert k f l).map Prod.fst).Nodup := by
  rw [keys_upsert]
  split
  · exact h
  · rename_i hm
    exact List.nodup_append.mpr ⟨h, by simp, by
      intro a ha b hb
      simp only [List.mem_singleton] at hb
      exact fun e => hm (hb ▸ e ▸ ha)⟩

end Entries

/-! ## The map -/

/-- A finite map that lists its entries in the order in which their keys were first put in. -/
structure OrderedMap (κ : Type u) (ν : Type v) where
  /-- The entries, oldest key first. -/
  entries : List (κ × ν)
  /-- No key is listed twice. -/
  nodup_keys : (entries.map Prod.fst).Nodup
deriving DecidableEq

namespace OrderedMap

variable {κ : Type u} {ν : Type v}

/-- The map without entries. -/
def empty : OrderedMap κ ν := ⟨[], by simp⟩

instance : Inhabited (OrderedMap κ ν) := ⟨empty⟩

instance : EmptyCollection (OrderedMap κ ν) := ⟨empty⟩

/-- The keys, oldest first. -/
def keys (m : OrderedMap κ ν) : List κ := m.entries.map Prod.fst

/-- The number of entries. -/
def size (m : OrderedMap κ ν) : Nat := m.entries.length

/-- An entry in front of another one has another key. -/
theorem fst_ne_of_split (m : OrderedMap κ ν) {before after : List (κ × ν)} {e : κ × ν}
    (hsplit : m.entries = before ++ e :: after) {d : κ × ν} (hd : d ∈ before) : d.1 ≠ e.1 := by
  have hdistinct := m.nodup_keys
  rw [hsplit, List.map_append, List.nodup_append] at hdistinct
  exact hdistinct.2.2 d.1 (List.mem_map_of_mem hd) e.1 (by simp)

variable [DecidableEq κ]

/-- The value under a key. -/
def get? (m : OrderedMap κ ν) (k : κ) : Option ν := Entries.find? k m.entries

/-- Sets the value under `k` to `f` of the value it had. -/
def upsert (m : OrderedMap κ ν) (k : κ) (f : Option ν → ν) : OrderedMap κ ν :=
  ⟨Entries.upsert k f m.entries, Entries.nodup_keys_upsert m.nodup_keys⟩

/-- Sets the value under `k`. -/
def insert (m : OrderedMap κ ν) (k : κ) (v : ν) : OrderedMap κ ν := m.upsert k fun _ => v

/-- Puts the pairs in one after the other, so the last value given for a key is kept. -/
def ofList (es : List (κ × ν)) : OrderedMap κ ν := es.foldl (fun m e => m.insert e.1 e.2) empty

/-- An update is seen at its own key and nowhere else. -/
@[simp] theorem get?_upsert (m : OrderedMap κ ν) (k : κ) (f : Option ν → ν) (j : κ) :
    (m.upsert k f).get? j = if j = k then some (f (m.get? k)) else m.get? j :=
  Entries.find?_upsert j

/-- An insertion is seen at its own key and nowhere else. -/
@[simp] theorem get?_insert (m : OrderedMap κ ν) (k : κ) (v : ν) (j : κ) :
    (m.insert k v).get? j = if j = k then some v else m.get? j :=
  Entries.find?_upsert j

/-- A new key goes to the end, a known key stays where it is. -/
theorem keys_upsert (m : OrderedMap κ ν) (k : κ) (f : Option ν → ν) :
    (m.upsert k f).keys = if k ∈ m.keys then m.keys else m.keys ++ [k] :=
  Entries.keys_upsert

@[simp] theorem mem_keys_upsert {m : OrderedMap κ ν} {k : κ} {f : Option ν → ν} {j : κ} :
    j ∈ (m.upsert k f).keys ↔ j ∈ m.keys ∨ j = k := by
  rw [keys_upsert]
  split
  · rename_i hk
    exact ⟨Or.inl, fun h => h.elim id fun hj => hj ▸ hk⟩
  · rw [List.mem_append, List.mem_singleton]

@[simp] theorem mem_keys_insert {m : OrderedMap κ ν} {k : κ} {v : ν} {j : κ} :
    j ∈ (m.insert k v).keys ↔ j ∈ m.keys ∨ j = k :=
  mem_keys_upsert

/-- Nothing is found exactly under the keys that are not listed. -/
theorem get?_eq_none_iff {m : OrderedMap κ ν} {k : κ} : m.get? k = none ↔ k ∉ m.keys :=
  Entries.find?_eq_none_iff

/-- The entries are exactly what `get?` finds. -/
@[simp] theorem mem_entries_iff {m : OrderedMap κ ν} {k : κ} {v : ν} : (k, v) ∈ m.entries ↔ m.get? k = some v :=
  ⟨Entries.find?_of_mem m.nodup_keys, Entries.mem_of_find?⟩

/-- A new key goes to the end with its value. -/
theorem entries_insert_of_notMem {m : OrderedMap κ ν} {k : κ} (h : k ∉ m.keys) (v : ν) :
    (m.insert k v).entries = m.entries ++ [(k, v)] :=
  Entries.upsert_of_notMem h

/-- Pairs with distinct keys are listed as they are. -/
theorem entries_ofList {es : List (κ × ν)} (h : (es.map Prod.fst).Nodup) : (ofList es).entries = es := by
  have hfold : ∀ (es : List (κ × ν)) (m : OrderedMap κ ν), (m.keys ++ es.map Prod.fst).Nodup →
      (es.foldl (fun m e => m.insert e.1 e.2) m).entries = m.entries ++ es := by
    intro es
    induction es with
    | nil => simp
    | cons e es ih =>
      intro m hm
      have hnew : e.1 ∉ m.keys := by
        intro hmem
        exact (List.nodup_append.mp hm).2.2 e.1 hmem e.1 (by simp) rfl
      have hentries := entries_insert_of_notMem hnew e.2
      have hkeys : (m.insert e.1 e.2).keys = m.keys ++ [e.1] := by
        simp [keys, hentries]
      rw [List.foldl_cons, ih _ (by rw [hkeys]; simpa using hm), hentries]
      simp
  simpa [ofList, empty, keys] using hfold es empty (by simpa [keys, empty] using h)

/-- The entries are the keys with what `get?` finds under them. -/
theorem entries_eq_map_keys {m : OrderedMap κ ν} {f : κ → ν} (h : ∀ k ∈ m.keys, m.get? k = some (f k)) :
    m.entries = m.keys.map fun k => (k, f k) := by
  rw [keys, List.map_map]
  refine (List.map_id _).symm.trans (List.map_congr_left fun e he => ?_)
  have hfound := h e.1 (List.mem_map_of_mem he)
  rw [mem_entries_iff.mp he, Option.some.injEq] at hfound
  exact Prod.ext rfl hfound

end OrderedMap

end I2cTopology
