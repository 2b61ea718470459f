import I2cTopology.Topology.Ensure
import Mathlib.Algebra.GroupWithZero.Nat
import Mathlib.Data.List.Basic
import Mathlib.Data.List.Forall2

/-!
# Walks that check as they go

A walk reads a list one by one, checks each entry against what it has made of those before it, and goes on or ends
with an error. `EachAfter good before as` says that each of `as` is good after `before` and those of `as` in front of
it, and `Tracks step knows good` that `good` is what the step of a walk checks, as long as the state knows what has
been read.

- a walk succeeds exactly when each entry is good after those before it (`Tracks.exists_foldlM_iff`), and then its
  state knows them all (`Tracks.keeps_foldlM`, `Tracks.foldlM_eq_ok_iff`);
- conditions on an entry and those before it are conditions on entries, on pairs of them or on a sum
  (`eachAfter_const`, `eachAfter_pairwise`, `eachAfter_sum_le`);
- what is related to an entry of one list is an entry of the other (`exists_of_forall₂_left`, `forall₂_join`);
- a list is translated exactly when each of its entries is, and otherwise the first one that is not is told of
  (`exists_mapM_iff`, `mapM_eq_ok_iff_forall₂`, `mapM_eq_error_iff`).
-/

namespace I2cTopology

variable {α β ε σ : Type}

/-! ## Conditions along a list -/

/-- Each of a list is good after the ones before it, the first of which are given. -/
def EachAfter (good : List α → α → Prop) : List α → List α → Prop
  | _, [] => True
  | before, a :: as => good before a ∧ EachAfter good (before ++ [a]) as

section

variable {good other : List α → α → Prop}

theorem eachAfter_append {before as bs : List α} :
    EachAfter good before (as ++ bs) ↔ EachAfter good before as ∧ EachAfter good (before ++ as) bs := by
  induction as generalizing before with
  | nil => simp [EachAfter]
  | cons a as ih =>
    rw [List.cons_append, EachAfter, EachAfter, ih, List.append_assoc, and_assoc]
    rfl

theorem eachAfter_and {before as : List α} :
    EachAfter (fun b a => good b a ∧ other b a) before as ↔ EachAfter good before as ∧ EachAfter other before as := by
  induction as generalizing before with
  | nil => simp [EachAfter]
  | cons a as ih =>
    rw [EachAfter, EachAfter, EachAfter, ih]
    exact and_and_and_comm

theorem eachAfter_congr (h : ∀ before a, good before a ↔ other before a) {before as : List α} :
    EachAfter good before as ↔ EachAfter other before as := by
  rw [show good = other from funext fun b => funext fun a => propext (h b a)]

theorem EachAfter.imp (h : ∀ before a, good before a → other before a) {before as : List α}
    (hall : EachAfter good before as) : EachAfter other before as := by
  induction as generalizing before with
  | nil => trivial
  | cons a as ih =>
    obtain ⟨ha, has⟩ := hall
    exact ⟨h before a ha, ih has⟩

theorem eachAfter_const {p : α → Prop} {before as : List α} :
    EachAfter (fun _ a => p a) before as ↔ ∀ a ∈ as, p a := by
  induction as generalizing before with
  | nil => simp [EachAfter]
  | cons a as ih => rw [EachAfter, ih, List.forall_mem_cons]

/-- A condition on an entry and each one before it. -/
theorem eachAfter_forall_mem {r : α → α → Prop} {before as : List α} :
    EachAfter (fun before a => ∀ b ∈ before, r b a) before as ↔
      (∀ b ∈ before, ∀ a ∈ as, r b a) ∧ as.Pairwise r := by
  induction as generalizing before with
  | nil => simp [EachAfter]
  | cons a as ih =>
    rw [EachAfter, ih, List.pairwise_cons]
    simp only [List.mem_append, List.mem_cons, List.not_mem_nil, or_false]
    constructor
    · rintro ⟨ha, has, hp⟩
      refine ⟨?_, fun c hc => has a (Or.inr rfl) c hc, hp⟩
      rintro b hb c (rfl | hc)
      · exact ha b hb
      · exact has b (Or.inl hb) c hc
    · rintro ⟨hall, ha, hp⟩
      refine ⟨fun b hb => hall b hb a (Or.inl rfl), ?_, hp⟩
      rintro b (hb | rfl) c hc
      · exact hall b hb c (Or.inr hc)
      · exact ha c hc

theorem eachAfter_pairwise {r : α → α → Prop} {as : List α} :
    EachAfter (fun before a => ∀ b ∈ before, r b a) [] as ↔ as.Pairwise r := by
  rw [eachAfter_forall_mem]
  simp

/-- No entry has the key of one before it. -/
theorem eachAfter_nodup_map {f : α → β} {as : List α} :
    EachAfter (fun before a => ∀ b ∈ before, f b ≠ f a) [] as ↔ (as.map f).Nodup := by
  rw [eachAfter_pairwise, List.Nodup, List.pairwise_map]

/-- A condition along the parts that each entry of a list comes to. -/
theorem eachAfter_flatMap {good : List β → β → Prop} {f : α → List β} {before as : List α} :
    EachAfter (fun before a => EachAfter good (before.flatMap f) (f a)) before as ↔
      EachAfter good (before.flatMap f) (as.flatMap f) := by
  induction as generalizing before with
  | nil => exact Iff.rfl
  | cons a as ih =>
    rw [EachAfter, ih, List.flatMap_cons, eachAfter_append, List.flatMap_append, List.flatMap_singleton]

/-- A bound on the sum of what has been read so far. -/
theorem eachAfter_sum_le {w : α → Nat} {n : Nat} {before as : List α} (h : (before.map w).sum ≤ n) :
    EachAfter (fun before a => ((before ++ [a]).map w).sum ≤ n) before as ↔ ((before ++ as).map w).sum ≤ n := by
  induction as generalizing before with
  | nil => simpa [EachAfter] using h
  | cons a as ih =>
    rw [EachAfter]
    constructor
    · rintro ⟨ha, has⟩
      rw [← List.singleton_append, ← List.append_assoc]
      exact (ih ha).mp has
    · intro hall
      rw [← List.singleton_append, ← List.append_assoc] at hall
      have ha : ((before ++ [a]).map w).sum ≤ n := by
        rw [List.map_append, List.sum_append] at hall
        omega
      exact ⟨ha, (ih ha).mpr hall⟩

end

/-! ## Walks -/

/-- What a step that succeeds keeps, a walk that succeeds keeps. -/
theorem foldlM_keeps {step : σ → α → Except ε σ} (knows : List α → σ → Prop)
    (hstep : ∀ {before s a t}, knows before s → step s a = .ok t → knows (before ++ [a]) t) {as : List α}
    (before : List α) {s t : σ} (hs : knows before s) (h : as.foldlM step s = .ok t) : knows (before ++ as) t := by
  induction as generalizing before s with
  | nil =>
    obtain rfl : s = t := Except.ok.inj h
    rwa [List.append_nil]
  | cons a as ih =>
    rw [List.foldlM_cons, bind_eq_ok_iff] at h
    obtain ⟨u, hu, ht⟩ := h
    have hall : knows (before ++ [a] ++ as) t := ih (before ++ [a]) (hstep hs hu) ht
    rwa [List.append_assoc, List.singleton_append] at hall

/-- `good` is what a step checks while the state knows what has been read, and a step that succeeds gets to know what
it reads. -/
structure Tracks (step : σ → α → Except ε σ) (knows : List α → σ → Prop) (good : List α → α → Prop) : Prop where
  succeeds : ∀ {before s a}, knows before s → good before a → ∃ t, step s a = .ok t
  good_of_ok : ∀ {before s a t}, knows before s → step s a = .ok t → good before a
  keeps : ∀ {before s a t}, knows before s → step s a = .ok t → knows (before ++ [a]) t

namespace Tracks

variable {step : σ → α → Except ε σ} {knows : List α → σ → Prop} {good : List α → α → Prop}

/-- A step that is a condition and an update. -/
theorem of_iff (next : σ → α → σ)
    (h : ∀ {before s a t}, knows before s → (step s a = .ok t ↔ good before a ∧ t = next s a))
    (hnext : ∀ {before s a}, knows before s → good before a → knows (before ++ [a]) (next s a)) :
    Tracks step knows good where
  succeeds hk hg := ⟨_, (h hk).mpr ⟨hg, rfl⟩⟩
  good_of_ok hk ht := ((h hk).mp ht).1
  keeps hk ht := by
    obtain ⟨hg, rfl⟩ := (h hk).mp ht
    exact hnext hk hg

theorem keeps_foldlM (hw : Tracks step knows good) {as before : List α} {s t : σ} (hs : knows before s)
    (h : as.foldlM step s = .ok t) : knows (before ++ as) t :=
  foldlM_keeps knows hw.keeps before hs h

theorem exists_foldlM_iff (hw : Tracks step knows good) {as before : List α} {s : σ} (hs : knows before s) :
    (∃ t, as.foldlM step s = .ok t) ↔ EachAfter good before as := by
  induction as generalizing before s with
  | nil => exact ⟨fun _ => trivial, fun _ => ⟨s, rfl⟩⟩
  | cons a as ih =>
    rw [EachAfter]
    constructor
    · rintro ⟨t, ht⟩
      rw [List.foldlM_cons, bind_eq_ok_iff] at ht
      obtain ⟨u, hu, ht⟩ := ht
      exact ⟨hw.good_of_ok hs hu, (ih (hw.keeps hs hu)).mp ⟨t, ht⟩⟩
    · rintro ⟨ha, has⟩
      obtain ⟨u, hu⟩ := hw.succeeds hs ha
      obtain ⟨t, ht⟩ := (ih (hw.keeps hs hu)).mpr has
      refine ⟨t, ?_⟩
      rw [List.foldlM_cons, bind_eq_ok_iff]
      exact ⟨u, hu, ht⟩

/-- Where only one state knows what has been read, a walk that succeeds ends in that state. -/
theorem foldlM_eq_ok_iff (hw : Tracks step knows good) {final : List α → σ}
    (hfinal : ∀ {before s}, knows before s → s = final before) {as before : List α} {s t : σ} (hs : knows before s) :
    as.foldlM step s = .ok t ↔ EachAfter good before as ∧ t = final (before ++ as) := by
  rw [← hw.exists_foldlM_iff hs]
  constructor
  · intro hok
    exact ⟨⟨t, hok⟩, hfinal (hw.keeps_foldlM hs hok)⟩
  · rintro ⟨⟨u, hu⟩, rfl⟩
    rw [hu, hfinal (hw.keeps_foldlM hs hu)]

end Tracks

/-! ## Lists related entry by entry -/

section

variable {α β γ : Type*} {R S : α → β → Prop} {as : List α} {bs : List β}

theorem forall₂_imp_of_mem (himp : ∀ a ∈ as, ∀ b, R a b → S a b) (h : List.Forall₂ R as bs) :
    List.Forall₂ S as bs := by
  induction h with
  | nil => exact .nil
  | cons hR _ ih => exact .cons (himp _ List.mem_cons_self _ hR) (ih fun a ha => himp a (List.mem_cons_of_mem _ ha))

/-- Lists that are related to the same one are related. -/
theorem forall₂_join {S : α → γ → Prop} {T : β → γ → Prop} {cs : List γ}
    (hjoin : ∀ a ∈ as, ∀ b c, R a b → S a c → T b c) (hR : List.Forall₂ R as bs) (hS : List.Forall₂ S as cs) :
    List.Forall₂ T bs cs := by
  induction hR generalizing cs with
  | nil =>
    cases hS
    exact .nil
  | cons hb _ ih =>
    cases hS with
    | cons hc hcs =>
      exact .cons (hjoin _ List.mem_cons_self _ _ hb hc) (ih (fun a ha => hjoin a (List.mem_cons_of_mem _ ha)) hcs)

theorem exists_of_forall₂_left (h : List.Forall₂ R as bs) {a : α} (ha : a ∈ as) : ∃ b ∈ bs, R a b := by
  induction h with
  | nil => cases ha
  | cons hR _ ih =>
    rcases List.mem_cons.mp ha with rfl | ha
    · exact ⟨_, List.mem_cons_self, hR⟩
    · obtain ⟨b, hb, hab⟩ := ih ha
      exact ⟨b, List.mem_cons_of_mem _ hb, hab⟩

theorem exists_of_forall₂_right (h : List.Forall₂ R as bs) {b : β} (hb : b ∈ bs) : ∃ a ∈ as, R a b :=
  exists_of_forall₂_left (R := flip R) h.flip hb

theorem forall₂_map_map {f : γ → α} {g : γ → β} {cs : List γ} (h : ∀ c ∈ cs, R (f c) (g c)) :
    List.Forall₂ R (cs.map f) (cs.map g) := by
  rw [List.forall₂_map_left_iff, List.forall₂_map_right_iff, List.forall₂_same]
  exact h

/-- What is related has the same values under two functions that agree on it. -/
theorem map_eq_map_of_forall₂ {f : α → γ} {g : β → γ} (h : List.Forall₂ R as bs) (hfg : ∀ a b, R a b → f a = g b) :
    as.map f = bs.map g := by
  rw [← List.forall₂_eq_eq_eq, List.forall₂_map_left_iff, List.forall₂_map_right_iff]
  exact h.imp hfg

end

/-! ## Reading each entry on its own -/

theorem mapM_eq_ok_iff {f : α → Except ε β} {p : α → Prop} {g : α → β} (h : ∀ a b, f a = .ok b ↔ p a ∧ b = g a)
    {as : List α} {bs : List β} : as.mapM f = .ok bs ↔ (∀ a ∈ as, p a) ∧ bs = as.map g := by
  induction as generalizing bs with
  | nil => simp [pure, Except.pure, eq_comm]
  | cons a as ih =>
    rw [List.mapM_cons, bind_eq_ok_iff, List.forall_mem_cons, List.map_cons]
    constructor
    · rintro ⟨b, hb, hbs⟩
      obtain ⟨cs, hcs, hpure⟩ := bind_eq_ok_iff.mp hbs
      obtain ⟨ha, rfl⟩ := (h a b).mp hb
      obtain ⟨has, rfl⟩ := ih.mp hcs
      exact ⟨⟨ha, has⟩, (Except.ok.inj hpure).symm⟩
    · rintro ⟨⟨ha, has⟩, rfl⟩
      refine ⟨g a, (h a _).mpr ⟨ha, rfl⟩, ?_⟩
      rw [bind_eq_ok_iff]
      exact ⟨as.map g, ih.mpr ⟨has, rfl⟩, rfl⟩

/-- Each entry of a list is converted exactly when the list is. -/
theorem exists_mapM_iff {f : α → Except ε β} {as : List α} :
    (∃ bs, as.mapM f = .ok bs) ↔ ∀ a ∈ as, ∃ b, f a = .ok b := by
  induction as with
  | nil => simp [pure, Except.pure]
  | cons a as ih =>
    rw [List.mapM_cons, List.forall_mem_cons, ← ih]
    simp only [bind_eq_ok_iff]
    constructor
    · rintro ⟨_, b, hb, bs, hbs, _⟩
      exact ⟨⟨b, hb⟩, bs, hbs⟩
    · rintro ⟨⟨b, hb⟩, bs, hbs⟩
      exact ⟨_, b, hb, bs, hbs, rfl⟩

theorem mapM_eq_ok_iff_forall₂ {f : α → Except ε β} {as : List α} {bs : List β} :
    as.mapM f = .ok bs ↔ List.Forall₂ (fun a b => f a = .ok b) as bs := by
  induction as generalizing bs with
  | nil => simp [pure, Except.pure, eq_comm]
  | cons a as ih =>
    rw [List.mapM_cons, bind_eq_ok_iff, List.forall₂_cons_left_iff]
    simp only [bind_eq_ok_iff, ih]
    constructor
    · rintro ⟨b, hb, cs, hcs, hpure⟩
      exact ⟨b, cs, hb, hcs, (Except.ok.inj hpure).symm⟩
    · rintro ⟨b, cs, hb, hcs, rfl⟩
      exact ⟨b, hb, cs, hcs, rfl⟩

/-- The results of a list that is converted, one by one. -/
theorem getElem?_of_mapM {f : α → Except ε β} {as : List α} {bs : List β} (h : as.mapM f = .ok bs) :
    bs.length = as.length ∧ ∀ (i : Nat) (a : α), as[i]? = some a → ∃ b, bs[i]? = some b ∧ f a = .ok b := by
  induction as generalizing bs with
  | nil =>
    obtain rfl : [] = bs := Except.ok.inj h
    exact ⟨rfl, by simp⟩
  | cons a as ih =>
    rw [List.mapM_cons, bind_eq_ok_iff] at h
    obtain ⟨b, hb, hrest⟩ := h
    obtain ⟨cs, hcs, hpure⟩ := bind_eq_ok_iff.mp hrest
    obtain rfl := Except.ok.inj hpure
    obtain ⟨hlength, hall⟩ := ih hcs
    refine ⟨by rw [List.length_cons, List.length_cons, hlength], fun i c hc => ?_⟩
    cases i with
    | zero =>
      obtain rfl := Option.some.inj hc
      exact ⟨b, rfl, hb⟩
    | succ i => exact hall i c hc

/-- The error of a list is that of its first entry with one. -/
theorem mapM_eq_error_iff {f : α → Except ε β} {as : List α} {e : ε} : as.mapM f = .error e ↔
    ∃ before a after, as = before ++ a :: after ∧ (∀ b ∈ before, ∃ c, f b = .ok c) ∧ f a = .error e := by
  constructor
  · intro h
    induction as with
    | nil => cases h
    | cons a as ih =>
      rw [List.mapM_cons] at h
      cases ha : f a with
      | error e' =>
        rw [ha] at h
        obtain rfl := Except.error.inj h
        exact ⟨[], a, as, rfl, by simp, ha⟩
      | ok b =>
        rw [ha] at h
        have hrest : as.mapM f = .error e := by
          cases has : as.mapM f with
          | error e' =>
            rw [has] at h
            exact h
          | ok bs =>
            rw [has] at h
            cases h
        obtain ⟨before, c, after, rfl, hbefore, hc⟩ := ih hrest
        exact ⟨a :: before, c, after, rfl, List.forall_mem_cons.mpr ⟨⟨b, ha⟩, hbefore⟩, hc⟩
  · rintro ⟨before, a, after, rfl, hbefore, ha⟩
    obtain ⟨bs, hbs⟩ := exists_mapM_iff.mpr hbefore
    rw [List.mapM_append, hbs, List.mapM_cons, ha]
    rfl

/-- What may be absent is converted exactly when it is absent or converted. -/
theorem option_mapM_eq_ok_iff {f : α → Except ε β} {p : α → Prop} {g : α → β} (h : ∀ a b, f a = .ok b ↔ p a ∧ b = g a)
    {o : Option α} {r : Option β} : o.mapM f = .ok r ↔ (∀ a, o = some a → p a) ∧ r = o.map g := by
  cases o with
  | none =>
    rw [Option.mapM_none]
    simp [pure, Except.pure, eq_comm]
  | some a =>
    show ((f a).map some) = .ok r ↔ _
    simp only [Option.some.injEq, forall_eq', Option.map_some]
    cases hf : f a with
    | error e =>
      have hno : ¬p a := fun ha => by
        rw [(h a (g a)).mpr ⟨ha, rfl⟩] at hf
        cases hf
      simp [Except.map, hno]
    | ok b =>
      obtain ⟨ha, rfl⟩ := (h a b).mp hf
      simp [Except.map, ha, eq_comm]

/-- A test that cannot fail on a list tells whether one of its entries passes. -/
theorem anyM_eq_ok {f : α → Except ε Bool} {p : α → Bool} {as : List α} (h : ∀ a ∈ as, f a = .ok (p a)) :
    as.anyM f = .ok (as.any p) := by
  induction as with
  | nil => rfl
  | cons a as ih =>
    rw [List.forall_mem_cons] at h
    rw [List.anyM, h.1, List.any_cons]
    cases p a with
    | true => rfl
    | false => exact ih h.2

/-- A test that cannot fail on a list finds the first entry that passes. -/
theorem findM?_eq_ok {f : α → Except ε Bool} {p : α → Bool} {as : List α} (h : ∀ a ∈ as, f a = .ok (p a)) :
    as.findM? f = .ok (as.find? p) := by
  induction as with
  | nil => rfl
  | cons a as ih =>
    rw [List.forall_mem_cons] at h
    rw [List.findM?, h.1, List.find?_cons]
    cases p a with
    | true => rfl
    | false => exact ih h.2

end I2cTopology
