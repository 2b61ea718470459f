import Mathlib.Data.List.Nodup

/-!
# Lists whose rows have distinct keys

- `find?_eq_some_iff_of_nodup`: a search by key finds exactly the row with that key;
- `find?_set_of_nodup`: replacing a row by one with the same key is seen at that key only;
- `set_eq_self`: replacing a row by itself changes nothing;
- `getElem?_concat_eq_some_iff`: the rows of a list with one more entry;
- `exists_getElem?_iff`: some row has a property exactly if some entry has it;
- `filter_zipIdx_eq_singleton`: if only one key passes a test, exactly one row does;
- `filter_zipIdx_set`: if only one row passes a test, replacing it by one that passes is seen there and nowhere else;
- `filter_zipIdx_map`: changing the rows that fail a test does not show among those that pass it;
- `perm_cons_eraseP_of_find?`: the row that a search finds is the one that erasing takes out;
- `filter_eraseP`, `filter_eraseP_of_disjoint`: erasing takes the first of the rows that pass, and none that fails;
- `nodup_flatMap_of_tag`: what rows come to has no repeats, if each part of it tells the key of its row;
- `perm_flatMap_filter`: the rows under each of distinct keys, one key after the other, are all rows, up to order;
- `flatMap_filter_of_nil`: rows that come to nothing may be left out;
- `findIdx?_eq_some_iff_of_unique`: if no two rows pass a test, a search finds the place of the one that does.
-/

namespace I2cTopology.KeyedList

variable {α κ : Type}

theorem find?_eq_some_iff_of_nodup (key : α → κ) {l : List α} {p : α → Bool} {k : κ} (hp : ∀ a, p a = true ↔ key a = k)
    (hn : (l.map key).Nodup) {a : α} : l.find? p = some a ↔ a ∈ l ∧ key a = k := by
  constructor
  · intro h
    exact ⟨List.mem_of_find?_eq_some h, (hp a).mp (List.find?_some h)⟩
  · rintro ⟨ha, hk⟩
    cases hf : l.find? p with
    | none => exact absurd ((hp a).mpr hk) (List.find?_eq_none.mp hf a ha)
    | some b =>
      have hb : key b = key a := ((hp b).mp (List.find?_some hf)).trans hk.symm
      rw [List.inj_on_of_nodup_map hn (List.mem_of_find?_eq_some hf) ha hb]

theorem find?_set_of_nodup [DecidableEq κ] {key : α → κ} {a b : α} (hb : key b = key a) (k : κ) {l : List α} {i : Nat}
    (hn : (l.map key).Nodup) (h : l[i]? = some a) :
    (l.set i b).find? (fun x => key x = k) = if k = key a then some b else l.find? fun x => key x = k := by
  induction l generalizing i with
  | nil => cases h
  | cons x l ih =>
    rw [List.map_cons, List.nodup_cons] at hn
    cases i with
    | zero =>
      simp only [List.getElem?_cons_zero, Option.some.injEq] at h
      subst h
      by_cases hk : k = key x
      · simp [hb, hk]
      · simp [hb, hk, Ne.symm hk]
    | succ i =>
      rw [List.getElem?_cons_succ] at h
      rw [List.set_cons_succ, List.find?_cons, List.find?_cons, ih hn.2 h]
      by_cases hx : key x = k
      · have hne : k ≠ key a := fun e => hn.1 (List.mem_map.mpr ⟨a, List.mem_of_getElem? h, by rw [hx, e]⟩)
        simp [hx, hne]
      · simp [hx]

theorem set_eq_self {a : α} {l : List α} {i : Nat} (h : l[i]? = some a) : l.set i a = l := by
  obtain ⟨hi, rfl⟩ := List.getElem?_eq_some_iff.mp h
  exact List.set_getElem_self hi

theorem exists_getElem?_iff {l : List α} {p : α → Prop} :
    (∃ (i : Nat) (a : α), l[i]? = some a ∧ p a) ↔ ∃ a ∈ l, p a := by
  simp only [List.mem_iff_getElem?]
  exact ⟨fun ⟨i, a, hi, ha⟩ => ⟨a, ⟨i, hi⟩, ha⟩, fun ⟨a, ⟨i, hi⟩, ha⟩ => ⟨i, a, hi, ha⟩⟩

theorem getElem?_concat_eq_some_iff {a b : α} {l : List α} {i : Nat} :
    (l ++ [a])[i]? = some b ↔ l[i]? = some b ∨ i = l.length ∧ b = a := by
  rcases Nat.lt_trichotomy i l.length with h | rfl | h
  · rw [List.getElem?_append_left h]
    exact ⟨Or.inl, fun hb => hb.resolve_right fun ⟨e, _⟩ => absurd e (Nat.ne_of_lt h)⟩
  · simp [eq_comm]
  · rw [List.getElem?_eq_none (by rw [List.length_append, List.length_singleton]; omega),
      List.getElem?_eq_none (Nat.le_of_lt h)]
    exact ⟨nofun, fun hb => hb.elim nofun fun ⟨e, _⟩ => absurd e (Nat.ne_of_gt h)⟩

theorem filter_zipIdx_eq_singleton {key : α → κ} {p : α → Bool} {a : α} (ha : p a = true) {l : List α} {i : Nat}
    (n : Nat) (hn : (l.map key).Nodup) (h : l[i]? = some a) (hp : ∀ b ∈ l, p b = true → key b = key a) :
    (l.zipIdx n).filter (fun x => p x.1) = [(a, n + i)] := by
  induction l generalizing i n with
  | nil => cases h
  | cons x l ih =>
    rw [List.map_cons, List.nodup_cons] at hn
    cases i with
    | zero =>
      simp only [List.getElem?_cons_zero, Option.some.injEq] at h
      subst h
      have hrest : (l.zipIdx (n + 1)).filter (fun x => p x.1) = [] := by
        refine List.filter_eq_nil_iff.mpr fun y hy hpy => ?_
        have hm : y.1 ∈ l := List.fst_mem_of_mem_zipIdx hy
        exact hn.1 (List.mem_map.mpr ⟨y.1, hm, hp y.1 (List.mem_cons_of_mem _ hm) hpy⟩)
      rw [List.zipIdx_cons, List.filter_cons, if_pos ha, hrest]
      rfl
    | succ i =>
      rw [List.getElem?_cons_succ] at h
      have hx : ¬p x = true := fun hpx =>
        hn.1 (List.mem_map.mpr ⟨a, List.mem_of_getElem? h, (hp x List.mem_cons_self hpx).symm⟩)
      rw [List.zipIdx_cons, List.filter_cons, if_neg hx, ih (n + 1) hn.2 h fun b hb => hp b (List.mem_cons_of_mem _ hb)]
      rw [Nat.add_right_comm, Nat.add_assoc]

theorem filter_zipIdx_set {p : α → Bool} {a b : α} {l : List α} {n i : Nat}
    (h : (l.zipIdx n).filter (fun x => p x.1) = [(a, n + i)]) (hb : p b = true) :
    ((l.set i b).zipIdx n).filter (fun x => p x.1) = [(b, n + i)] := by
  induction l generalizing n i with
  | nil => cases h
  | cons x l ih =>
    rw [List.zipIdx_cons, List.filter_cons] at h
    by_cases hx : p x = true
    · rw [if_pos hx, List.cons.injEq, Prod.mk.injEq] at h
      obtain ⟨⟨rfl, hi⟩, hrest⟩ := h
      obtain rfl : i = 0 := by omega
      rw [List.set_cons_zero, List.zipIdx_cons, List.filter_cons, if_pos hb, hrest]
      rfl
    · rw [if_neg hx] at h
      -- the row that passes is further on
      obtain ⟨i, rfl⟩ : ∃ k, i = k + 1 := by
        have hmem : (a, n + i) ∈ l.zipIdx (n + 1) :=
          (List.mem_filter.mp (h ▸ List.mem_singleton_self (a, n + i))).1
        have hle := List.le_snd_of_mem_zipIdx hmem
        exact ⟨i - 1, by simp only at hle; omega⟩
      rw [← Nat.add_assoc, Nat.add_right_comm] at h ⊢
      rw [List.set_cons_succ, List.zipIdx_cons, List.filter_cons, if_neg hx, ih h]

theorem filter_zipIdx_map {f : α → α} {p q : α → Bool} {l : List α} (n : Nat) (hp : ∀ a ∈ l, p (f a) = q a)
    (hf : ∀ a ∈ l, q a = true → f a = a) :
    ((l.map f).zipIdx n).filter (fun x => p x.1) = (l.zipIdx n).filter fun x => q x.1 := by
  induction l generalizing n with
  | nil => rfl
  | cons a l ih =>
    have hrest := ih (n + 1) (fun b hb => hp b (List.mem_cons_of_mem _ hb)) fun b hb => hf b (List.mem_cons_of_mem _ hb)
    simp only [List.map_cons, List.zipIdx_cons, List.filter_cons, hp a List.mem_cons_self, hrest]
    split
    · rename_i hq
      rw [hf a List.mem_cons_self hq]
    · rfl

theorem perm_cons_eraseP_of_find? {p : α → Bool} {l : List α} {a : α} (h : l.find? p = some a) :
    l.Perm (a :: l.eraseP p) := by
  obtain ⟨ha, before, after, rfl, hno⟩ := List.find?_eq_some_iff_append.mp h
  rw [List.eraseP_append_right _ fun b hb => by simpa using hno b hb, List.eraseP_cons_of_pos ha]
  exact List.perm_middle

theorem filter_eraseP (p : α → Bool) (l : List α) : (l.eraseP p).filter p = (l.filter p).tail := by
  induction l with
  | nil => rfl
  | cons a l ih =>
    by_cases ha : p a = true
    · rw [List.eraseP_cons_of_pos ha, List.filter_cons_of_pos ha, List.tail_cons]
    · rw [List.eraseP_cons_of_neg ha, List.filter_cons_of_neg ha, List.filter_cons_of_neg ha, ih]

theorem filter_eraseP_of_disjoint {p q : α → Bool} (h : ∀ a, p a = true → q a = false) (l : List α) :
    (l.eraseP p).filter q = l.filter q := by
  induction l with
  | nil => rfl
  | cons a l ih =>
    by_cases ha : p a = true
    · rw [List.eraseP_cons_of_pos ha, List.filter_cons_of_neg (by simp [h a ha])]
    · rw [List.eraseP_cons_of_neg ha, List.filter_cons, List.filter_cons, ih]

theorem findIdx?_eq_some_iff_of_unique {p : α → Bool} {l : List α} {i : Nat}
    (h : l.Pairwise fun a b => p a = true → p b = false) :
    l.findIdx? p = some i ↔ ∃ a, l[i]? = some a ∧ p a = true := by
  induction l generalizing i with
  | nil => simp
  | cons x l ih =>
    rw [List.pairwise_cons] at h
    rw [List.findIdx?_cons]
    cases hx : p x with
    | true =>
      cases i with
      | zero => simp [hx]
      | succ i =>
        rw [if_pos rfl, List.getElem?_cons_succ]
        constructor
        · intro e
          cases e
        · rintro ⟨a, ha, hp⟩
          rw [h.1 a (List.mem_of_getElem? ha) hx] at hp
          cases hp
    | false =>
      cases i with
      | zero => simp [hx]
      | succ i =>
        rw [List.getElem?_cons_succ, ← ih h.2]
        simp

theorem nodup_flatMap_of_tag {β : Type} {key : α → κ} {l : List α} (hn : (l.map key).Nodup) {f : α → List β}
    (hf : ∀ a ∈ l, (f a).Nodup) (tag : β → κ) (htag : ∀ a ∈ l, ∀ b ∈ f a, tag b = key a) : (l.flatMap f).Nodup := by
  refine List.nodup_flatMap.mpr ⟨hf, ?_⟩
  rw [List.Nodup, List.pairwise_map] at hn
  refine hn.imp_of_mem fun {a b} ha hb hne c hca hcb => hne ?_
  rw [← htag a ha c hca, htag b hb c hcb]

theorem perm_flatMap_filter [DecidableEq κ] {key : α → κ} {keys : List κ} (hn : keys.Nodup) {l : List α}
    (h : ∀ a ∈ l, key a ∈ keys) : (keys.flatMap fun k => l.filter fun a => key a == k).Perm l := by
  induction keys generalizing l with
  | nil =>
    cases l with
    | nil => exact .refl _
    | cons a l => cases h a List.mem_cons_self
  | cons k keys ih =>
    rw [List.nodup_cons] at hn
    -- the other keys only meet rows that the first one leaves
    have hrest : (keys.flatMap fun j => l.filter fun a => key a == j) =
        keys.flatMap fun j => (l.filter fun a => !(key a == k)).filter fun a => key a == j := by
      refine List.flatMap_congr fun j hj => ?_
      rw [List.filter_filter]
      refine List.filter_congr fun a _ => ?_
      by_cases ha : key a = j
      · have hne : j ≠ k := fun e => hn.1 (e ▸ hj)
        simp [ha, hne]
      · simp [ha]
    have hleft : ∀ a ∈ l.filter fun a => !(key a == k), key a ∈ keys := by
      intro a ha
      obtain ⟨hmem, hne⟩ := List.mem_filter.mp ha
      exact (List.mem_cons.mp (h a hmem)).resolve_left (by simpa using hne)
    rw [List.flatMap_cons, hrest]
    exact ((ih hn.2 hleft).append_left _).trans (List.filter_append_perm _ l)

theorem flatMap_filter_of_nil {β : Type} {p : α → Bool} {f : α → List β} {l : List α}
    (h : ∀ a ∈ l, p a = false → f a = []) : (l.filter p).flatMap f = l.flatMap f := by
  induction l with
  | nil => rfl
  | cons a l ih =>
    rw [List.forall_mem_cons] at h
    rw [List.filter_cons, List.flatMap_cons, ← ih h.2]
    split
    · rw [List.flatMap_cons]
    · rename_i hp
      rw [h.1 (Bool.eq_false_iff.mpr hp), List.nil_append]

end I2cTopology.KeyedList
