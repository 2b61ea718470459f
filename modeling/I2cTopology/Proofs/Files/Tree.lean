import I2cTopology.Files.Tree

/-!
# What writing a file changes

A write under a path leaves everything as it was but the one file that the path leads to, whether it succeeds or not
(`FileTree.TouchesOnly`, `FileTree.touchesOnly_writeText`). If it succeeds, the text is in that file, and it is what is
read under the path from then on (`FileTree.Puts`, `FileTree.puts_of_writeText`): names lead where they led before,
since the file is not a directory on the way (`FileTree.walk_put`). If it fails, nothing is said of that file.
-/

namespace I2cTopology

namespace FileTree

variable {t u : FileTree} {directory names file : List String} {path text : String}

/-- What leads to a file or to a place for one. -/
def LeadsTo (located : Except FileError Located) (file : List String) : Prop :=
  located = .ok (.file file) ∨ located = .ok (.vacant file)

/-! ## Where names lead -/

/-- Names that lead to a file lead to no directory that is gone through as such. -/
theorem isFile_or_not_isDirectory (h : LeadsTo (t.walk directory names) file) :
    (t.files.get? file).isSome = true ∨ t.isDirectory file = false := by
  unfold LeadsTo at h
  fun_induction t.walk directory names with
  | case1 => simp at h
  | case2 _ _ ih => exact ih h
  | case3 _ _ _ ih => exact ih h
  | case4 => simp at h
  | case5 _ _ _ _ _ _ path hfile =>
    obtain rfl : path = file := by simpa using h
    exact Or.inl hfile
  | case6 => simp at h
  | case7 _ _ _ _ _ _ _ _ _ ih => exact ih h
  | case8 _ _ _ _ _ _ path _ hdirectory =>
    obtain rfl : path = file := by simpa using h
    exact Or.inr (Bool.eq_false_iff.mpr hdirectory)
  | case9 => simp at h

theorem isDirectory_put (contents : ByteArray) {path : List String} (h : t.isDirectory path = true) :
    (t.put file contents).isDirectory path = true := by
  unfold isDirectory at h ⊢
  rw [Bool.or_eq_true] at h ⊢
  refine h.imp_right fun hany => ?_
  obtain ⟨other, hother, hbelow⟩ := List.any_eq_true.mp hany
  exact List.any_eq_true.mpr ⟨other, OrderedMap.mem_keys_insert.mpr (Or.inl hother), hbelow⟩

/-- Names lead to the same file after something has been put into it. -/
theorem walk_put (contents : ByteArray) (h : LeadsTo (t.walk directory names) file) :
    (t.put file contents).walk directory names = .ok (.file file) := by
  have hget : ∀ path, (t.put file contents).files.get? path = if path = file then some contents
      else t.files.get? path := fun path => t.files.get?_insert file contents path
  have hkind := isFile_or_not_isDirectory h
  unfold LeadsTo at h
  fun_induction t.walk directory names with
  | case1 => simp at h
  | case2 _ _ ih =>
    rw [walk, if_pos rfl]
    exact ih h
  | case3 _ _ hdot ih =>
    rw [walk, if_neg hdot, if_pos rfl]
    exact ih h
  | case4 => simp at h
  | case5 _ _ _ hdot hup hlong path _ hlast =>
    obtain rfl : path = file := by simpa using h
    rw [walk, if_neg hdot, if_neg hup, if_neg hlong]
    simp [hget, path, hlast]
  | case6 => simp at h
  | case7 directory name names hdot hup hlong path hnone hdirectory ih =>
    -- a directory on the way is not the file
    have hother : path ≠ file := by
      rintro rfl
      rcases hkind with hfile | hno
      · exact hnone hfile
      · rw [hdirectory] at hno
        cases hno
    rw [walk, if_neg hdot, if_neg hup, if_neg hlong]
    simp only [hget]
    rw [if_neg hother, if_neg hnone, if_pos (isDirectory_put contents hdirectory)]
    exact ih h
  | case8 _ _ _ hdot hup hlong path _ _ hlast =>
    obtain rfl : path = file := by simpa using h
    rw [walk, if_neg hdot, if_neg hup, if_neg hlong]
    simp [hget, path, hlast]
  | case9 => simp at h

theorem locate_put (contents : ByteArray) (h : LeadsTo (t.locate path) file) :
    (t.put file contents).locate path = .ok (.file file) := by
  unfold locate at h ⊢
  cases hpath : checkPath path with
  | error e =>
    rw [hpath] at h
    rcases h with h | h <;> cases h
  | ok _ =>
    rw [hpath] at h
    exact walk_put contents h

/-! ## Texts under paths -/

theorem fromUTF8?_toUTF8 (text : String) : String.fromUTF8? text.toUTF8 = some text := by
  unfold String.fromUTF8?
  exact dif_pos text.isValidUTF8

/-- A path leads to one file at most. -/
theorem LeadsTo.unique {located : Except FileError Located} {other : List String} (h : LeadsTo located file)
    (hother : LeadsTo located other) : other = file := by
  rcases h with rfl | rfl <;> rcases hother with h | h <;> cases h <;> rfl

/-- Nothing but the file that a path leads to differs from `t`. -/
structure TouchesOnly (t : FileTree) (path : String) (u : FileTree) : Prop where
  current_eq : u.current = t.current
  directories_eq : u.directories = t.directories
  get?_eq : ∀ file, ¬ LeadsTo (t.locate path) file → u.files.get? file = t.files.get? file

/-- A text is in the file that a path leads to, and nothing else differs from `t`. -/
structure Puts (t : FileTree) (path text : String) (u : FileTree) : Prop extends t.TouchesOnly path u where
  file : ∃ file, LeadsTo (t.locate path) file ∧ u.files.get? file = some text.toUTF8 ∧
    (u.medium.readFailure file = none → u.readText path = .ok text)

theorem Puts.get?_of_leadsTo (h : t.Puts path text u) (hleads : LeadsTo (t.locate path) file) :
    u.files.get? file = some text.toUTF8 := by
  obtain ⟨_, hother, hget, -⟩ := h.file
  exact hother.unique hleads ▸ hget

theorem get?_put (t : FileTree) (file : List String) (contents : ByteArray) (other : List String) :
    (t.put file contents).files.get? other = if other = file then some contents else t.files.get? other :=
  t.files.get?_insert file contents other

theorem touchesOnly_self (t : FileTree) (path : String) : t.TouchesOnly path t := ⟨rfl, rfl, fun _ _ => rfl⟩

theorem touchesOnly_put (h : LeadsTo (t.locate path) file) (contents : ByteArray) :
    t.TouchesOnly path (t.put file contents) := by
  refine ⟨rfl, rfl, fun other hother => ?_⟩
  rw [get?_put, if_neg]
  rintro rfl
  exact hother h

/-- What is written to is what the path leads to. -/
theorem leadsTo_of_target (h : t.target path = .ok file) :
    path.endsWith "/" = false ∧ LeadsTo (t.locate path) file := by
  unfold target at h
  split at h
  · split at h <;> cases h
  · rename_i hslash
    refine ⟨Bool.eq_false_iff.mpr hslash, ?_⟩
    split at h
    · cases h
    · cases h
    · rename_i hfile
      exact Or.inl (Except.ok.inj h ▸ hfile)
    · rename_i hvacant
      exact Or.inr (Except.ok.inj h ▸ hvacant)

theorem writeFile_eq_ok_iff {contents : ByteArray} :
    (t.writeFile file contents).1 = .ok () ↔ t.medium.writeFailure file contents = none := by
  unfold writeFile
  split <;> rename_i hmedium <;> simp [hmedium]

/-- Contents that the medium does not take leave the file as it was or leave something else in it. -/
theorem writeFile_eq_or (t : FileTree) (file : List String) (contents : ByteArray) :
    (t.writeFile file contents).2 = t ∨ ∃ left, (t.writeFile file contents).2 = t.put file left := by
  unfold writeFile
  split
  · exact Or.inr ⟨contents, rfl⟩
  · exact Or.inl rfl
  · exact Or.inr ⟨_, rfl⟩

/-- A text can be written if its path has a target and the medium takes the text there. -/
theorem writeText_eq_ok_iff : (t.writeText path text).1 = .ok () ↔
    ∃ file, t.target path = .ok file ∧ t.medium.writeFailure file text.toUTF8 = none := by
  unfold writeText
  cases htarget : t.target path with
  | error e => simp
  | ok file => simp only [writeFile_eq_ok_iff, Except.ok.injEq, exists_eq_left']

/-- A write, also one that fails, touches nothing but the file that its path leads to. -/
theorem touchesOnly_writeText (t : FileTree) (path text : String) :
    t.TouchesOnly path (t.writeText path text).2 := by
  unfold writeText
  cases htarget : t.target path with
  | error e => exact t.touchesOnly_self path
  | ok file =>
    show t.TouchesOnly path (t.writeFile file text.toUTF8).2
    rcases t.writeFile_eq_or file text.toUTF8 with heq | ⟨left, heq⟩
    · rw [heq]
      exact t.touchesOnly_self path
    · rw [heq]
      exact touchesOnly_put (leadsTo_of_target htarget).2 left

/-- A text that could be written is put under its path. -/
theorem puts_of_writeText (h : (t.writeText path text).1 = .ok ()) : t.Puts path text (t.writeText path text).2 := by
  obtain ⟨file, htarget, hmedium⟩ := writeText_eq_ok_iff.mp h
  obtain ⟨hslash, hleads⟩ := leadsTo_of_target htarget
  have hput : (t.writeText path text).2 = t.put file text.toUTF8 := by
    simp only [writeText, htarget, writeFile, hmedium]
  have hget : (t.put file text.toUTF8).files.get? file = some text.toUTF8 := by rw [get?_put, if_pos rfl]
  refine ⟨t.touchesOnly_writeText path text, file, hleads, ?_⟩
  rw [hput]
  refine ⟨hget, fun hread => ?_⟩
  rw [readText, locate_put _ hleads]
  simp only [hslash, hread, hget, Option.bind_some, fromUTF8?_toUTF8]
  rfl

end FileTree

end I2cTopology
