import I2cTopology.Artifact.Source
import Mathlib.Data.Nat.Digits.Defs

/-!
# What expressions stand for

The expression for a place is read in one way only, whatever follows it (`DevicePlace.eq_of_text_append`): numbers end
at a bracket, addresses have two digits, and routes begin differently from their absence.
-/

namespace I2cTopology

/-! ## Numbers -/

/-- A number ends where a character follows that is no digit. -/
theorem toDigits_append_cons_inj {m n : Nat} {c : Char} (hc : c.isDigit = false) {x y : List Char}
    (h : Nat.toDigits 10 m ++ c :: x = Nat.toDigits 10 n ++ c :: y) : m = n ∧ x = y := by
  have hdigits : ∀ k, (Nat.toDigits 10 k).all Char.isDigit = true := fun k =>
    List.all_eq_true.mpr fun d hd => Nat.isDigit_of_mem_toDigits (by decide) (by decide) hd
  have htake := congrArg (List.takeWhile Char.isDigit) h
  have hdrop := congrArg (List.dropWhile Char.isDigit) h
  simp only [List.takeWhile_append_of_pos (List.all_eq_true.mp (hdigits _)),
    List.dropWhile_append_of_pos (List.all_eq_true.mp (hdigits _)), List.takeWhile_cons, List.dropWhile_cons, hc,
    Bool.false_eq_true, if_false, List.append_nil] at htake hdrop
  refine ⟨?_, (List.cons.inj hdrop).2⟩
  rw [← Nat.ofDigitChars_toDigits (b := 10) (n := m) (by decide) (by decide), htake,
    Nat.ofDigitChars_toDigits (by decide) (by decide)]

/-- A byte is written with two digits, the high one first. -/
theorem Hex.toList_byte (b : UInt8) :
    (Hex.byte b).toList = ['0', 'x', (b.toNat / 16).digitChar, (b.toNat % 16).digitChar] := by
  have hlt := b.toNat_lt
  have hdigits : Hex.digits 2 b.toNat = [(b.toNat / 16).digitChar, (b.toNat % 16).digitChar] := by
    unfold Hex.digits
    by_cases hsmall : b.toNat < 16
    · rw [Nat.toDigits_of_lt_base hsmall, Nat.div_eq_of_lt hsmall, Nat.mod_eq_of_lt hsmall]
      rfl
    · rw [Nat.toDigits_of_base_le (by decide) (Nat.le_of_not_lt hsmall), Nat.toDigits_of_lt_base (by omega)]
      rfl
  simp only [Hex.byte, Hex.number, String.toList_append, hdigits, String.toList_ofList]
  rfl

theorem Hex.eq_of_byte_append {a b : UInt8} {x y : List Char}
    (h : (Hex.byte a).toList ++ x = (Hex.byte b).toList ++ y) : a = b ∧ x = y := by
  have hdigit : ∀ m n : Fin 16, m.val.digitChar = n.val.digitChar → m = n := by decide
  have ha := a.toNat_lt
  have hb := b.toNat_lt
  simp only [Hex.toList_byte, List.cons_append, List.nil_append, List.cons.injEq, true_and] at h
  obtain ⟨hhigh, hlow, hrest⟩ := h
  have hhigh' := congrArg Fin.val (hdigit ⟨a.toNat / 16, by omega⟩ ⟨b.toNat / 16, by omega⟩ hhigh)
  have hlow' := congrArg Fin.val (hdigit ⟨a.toNat % 16, by omega⟩ ⟨b.toNat % 16, by omega⟩ hlow)
  simp only at hhigh' hlow'
  exact ⟨UInt8.toNat_inj.mp (by omega), hrest⟩

/-! ## Routes and places -/

theorem toList_routeText (r : Route) : (routeText (some r)).toList =
    "Some(Route::new(MuxId(".toList ++ (Nat.toDigits 10 r.mux.number.toNat ++ ')' :: (", SegmentId(".toList ++
      (Nat.toDigits 10 r.segment.number.toNat ++ ')' :: "))".toList))) := by
  have htext : routeText (some r) = "Some(Route::new(MuxId(" ++ Nat.repr r.mux.number.toNat ++ "), SegmentId(" ++
      Nat.repr r.segment.number.toNat ++ ")))" := rfl
  simp only [htext, String.toList_append, Nat.toList_repr, List.append_assoc]
  rfl

theorem eq_of_routeText_append {r s : Option Route} {x y : List Char}
    (h : (routeText r).toList ++ x = (routeText s).toList ++ y) : r = s ∧ x = y := by
  cases r with
  | none =>
    cases s with
    | none => exact ⟨rfl, List.append_cancel_left h⟩
    | some s =>
      rw [toList_routeText] at h
      cases (List.cons.inj h).1
  | some r =>
    cases s with
    | none =>
      rw [toList_routeText] at h
      cases (List.cons.inj h).1
    | some s =>
      simp only [toList_routeText, List.append_assoc, List.cons_append] at h
      obtain ⟨hmux, h⟩ := toDigits_append_cons_inj rfl (List.append_cancel_left h)
      obtain ⟨hsegment, hrest⟩ := toDigits_append_cons_inj rfl (List.append_cancel_left h)
      obtain ⟨⟨mux⟩, ⟨segment⟩⟩ := r
      obtain ⟨⟨mux'⟩, ⟨segment'⟩⟩ := s
      obtain rfl : mux = mux' := UInt8.toNat_inj.mp hmux
      obtain rfl : segment = segment' := UInt8.toNat_inj.mp hsegment
      exact ⟨rfl, List.append_cancel_left hrest⟩

namespace DevicePlace

theorem toList_text (p : DevicePlace) : p.text.toList =
    "DeviceHandle::new(task, Controller(".toList ++ (Nat.toDigits 10 p.controller.number.toNat ++
      ')' :: (", PortIndex(".toList ++ (Nat.toDigits 10 p.port.number.toNat ++
        ')' :: (", ".toList ++ ((routeText p.route).toList ++ (", ".toList ++
          ((Hex.byte p.address).toList ++ ")".toList))))))) := by
  have htext : p.text = "DeviceHandle::new(task, Controller(" ++ Nat.repr p.controller.number.toNat ++
      "), PortIndex(" ++ Nat.repr p.port.number.toNat ++ "), " ++ routeText p.route ++ ", " ++
      (Hex.byte p.address ++ ")") := rfl
  simp only [htext, String.toList_append, Nat.toList_repr, List.append_assoc]
  rfl

/-- The expression for a place is read in one way only. -/
theorem eq_of_text_append {p q : DevicePlace} {x y : List Char} (h : p.text.toList ++ x = q.text.toList ++ y) :
    p = q ∧ x = y := by
  simp only [toList_text, List.append_assoc, List.cons_append] at h
  obtain ⟨hcontroller, h⟩ := toDigits_append_cons_inj rfl (List.append_cancel_left h)
  obtain ⟨hport, h⟩ := toDigits_append_cons_inj rfl (List.append_cancel_left h)
  obtain ⟨hroute, h⟩ := eq_of_routeText_append (List.append_cancel_left h)
  obtain ⟨haddress, hrest⟩ := Hex.eq_of_byte_append (List.append_cancel_left h)
  obtain ⟨⟨controller⟩, ⟨port⟩, route, address⟩ := p
  obtain ⟨⟨controller'⟩, ⟨port'⟩, route', address'⟩ := q
  obtain rfl : controller = controller' := UInt8.toNat_inj.mp hcontroller
  obtain rfl : port = port' := UInt8.toNat_inj.mp hport
  obtain rfl : route = route' := hroute
  obtain rfl : address = address' := haddress
  exact ⟨rfl, List.append_cancel_left hrest⟩

end DevicePlace

/-! ## Arms -/

/-- The expressions for checks tell them apart. -/
theorem Artifact.checkText_inj {check check' : Option String} (h : checkText check = checkText check') :
    check = check' := by
  have hpath : ∀ path, (checkText (some path)).toList = "Some(".toList ++ (path.toList ++ " as CheckFn)".toList) := by
    intro path
    have htext : checkText (some path) = "Some(" ++ path ++ " as CheckFn)" := rfl
    simp only [htext, String.toList_append, List.append_assoc]
  have hlist := congrArg String.toList h
  cases check with
  | none =>
    cases check' with
    | none => rfl
    | some path =>
      rw [hpath] at hlist
      cases (List.cons.inj hlist).1
  | some path =>
    rw [hpath] at hlist
    cases check' with
    | none => cases (List.cons.inj hlist).1
    | some path' =>
      rw [hpath] at hlist
      rw [String.toList_inj.mp (List.append_cancel_right (List.append_cancel_left hlist))]

/-- The arm of a device says which row it is for, where the device is found, and which check it has. -/
theorem Artifact.armText_inj {index index' : Nat} {p q : DevicePlace} {check check' : Option String}
    (h : armText index p check = armText index' q check') : index = index' ∧ p = q ∧ check = check' := by
  have hlist : ∀ (index : Nat) (p : DevicePlace) (check : Option String), (armText index p check).toList =
      Nat.toDigits 10 index ++ ' ' :: ("=> (".toList ++ (p.text.toList ++ (", ".toList ++
        ((checkText check).toList ++ "),".toList)))) := by
    intro index p check
    have htext : armText index p check =
      Nat.repr index ++ " => (" ++ p.text ++ ", " ++ checkText check ++ ")," := rfl
    simp only [htext, String.toList_append, Nat.toList_repr, List.append_assoc]
    rfl
  replace h := congrArg String.toList h
  rw [hlist, hlist] at h
  obtain ⟨hindex, h⟩ := toDigits_append_cons_inj rfl h
  obtain ⟨hplace, h⟩ := DevicePlace.eq_of_text_append (List.append_cancel_left h)
  exact ⟨hindex, hplace, checkText_inj (String.toList_inj.mp (List.append_cancel_right (List.append_cancel_left h)))⟩

end I2cTopology
