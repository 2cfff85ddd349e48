import Flowchart.Command.Directory

/-!
# What is written is there, and nothing else is changed

A file is written where its directory is already, and over no directory; so it makes none
and hides none, and at all other steps stands what stood there before.  A path leads
through the same directories as before, unless it leads through the file: there it is cut
short, and there it was cut short before, since at best there was another file.

Main statements: `entryAt_of_write`, `entryAt_of_write_of_ne`.
-/

namespace Flowchart

/-- What lies on the way to the end of one more step, and is not that end, lies on the way
already. -/
theorem prefix_of_prefix_descend {here steps : List Text} {step : Text}
    (h : steps <+: descend here step) (hne : steps ≠ descend here step) : steps <+: here := by
  have happend : ∀ last : Text, steps <+: here ++ [last] → steps ≠ here ++ [last] →
      steps <+: here := by
    intro last hlast hnot
    exact (List.prefix_concat_iff.mp hlast).resolve_left hnot
  unfold descend parentSteps at h hne
  split at h <;> rename_i hstep
  · rw [if_pos hstep] at hne
    split at h <;> rename_i hend
    · rw [if_pos hend] at hne
      exact happend _ h hne
    · rw [if_neg hend] at hne
      split at h
      · exact h
      · exact h.trans (List.dropLast_prefix here)
  · rw [if_neg hstep] at hne
    exact happend _ h hne

namespace Directory

variable {directory after : Directory} {steps : List Text} {content : List UInt8}

/-! ## The directories on the way -/

/-- There is a directory at the steps exactly if they go up only, are the root, or lead to a
directory that is known or towards a file. -/
theorem isFolder_iff {here : List Text} :
    directory.isFolder here = true ↔
      ((∀ step ∈ here, step = upward) ∨ here = [['/']] ∨
          ∃ folder ∈ directory.folders, here <+: folder) ∨
        ∃ file ∈ directory.files, here <+: file.steps := by
  simp only [isFolder, Bool.or_eq_true, List.any_eq_true, List.all_eq_true,
    List.isPrefixOf_iff_prefix, decide_eq_true_eq, or_assoc]

/-- What lies on the way to a directory is one. -/
theorem isFolder_of_prefix {here folder : List Text} (h : directory.isFolder folder = true)
    (hahead : here <+: folder) : directory.isFolder here = true := by
  rw [isFolder_iff] at h ⊢
  obtain (hupward | hroot | ⟨inner, hinner, hwithin⟩) | ⟨file, hfile, hwithin⟩ := h
  · refine Or.inl (Or.inl ?_)
    intro step hstep
    exact hupward step (hahead.subset hstep)
  · rw [hroot] at hahead
    obtain rfl | hwhole := List.prefix_concat_iff.mp (show here <+: [] ++ [['/']] from hahead)
    · exact Or.inl (Or.inr (Or.inl rfl))
    · rw [List.prefix_nil.mp hwhole]
      exact Or.inl (Or.inl (by simp))
  · exact Or.inl (Or.inr (Or.inr ⟨inner, hinner, hahead.trans hwithin⟩))
  · exact Or.inr ⟨file, hfile, hahead.trans hwithin⟩

/-- Where a directory is found, there is one. -/
theorem isFolder_of_entry {here : List Text} (h : directory.entry here = .directory) :
    directory.isFolder here = true := by
  unfold entry at h
  split at h
  · cases h
  · cases hflag : directory.isFolder here with
    | true => rfl
    | false =>
        rw [hflag] at h
        cases h

/-- All that lies on the way to what a path leads to are directories. -/
theorem isFolder_of_follow {here path found : List Text}
    (h : directory.follow here path = .ok found) (hhere : directory.isFolder here = true)
    (hahead : steps <+: found) (hne : steps ≠ found) : directory.isFolder steps = true := by
  induction path generalizing here with
  | nil =>
      obtain rfl := Except.ok.inj h
      exact isFolder_of_prefix hhere hahead
  | cons step rest ih =>
      simp only [follow] at h
      split at h
      · cases h
      · split at h
        · obtain rfl := Except.ok.inj h
          exact isFolder_of_prefix hhere (prefix_of_prefix_descend hahead hne)
        · split at h
          · cases h
          · next hdirectory => exact ih h (isFolder_of_entry hdirectory)
          · cases h

/-- A file may be written at the steps: they lead to no directory, but through directories. -/
structure Free (directory : Directory) (steps : List Text) : Prop where
  /-- They lead to no directory. -/
  entry_ne : directory.entry steps ≠ .directory
  /-- All that lies on the way are directories. -/
  isFolder : ∀ here, here <+: steps → here ≠ steps → directory.isFolder here = true

/-- A path that leads somewhere is followed to its steps. -/
theorem locate_eq_follow {path : Text} (h : directory.locate path = .ok steps) :
    directory.follow [] (pathSteps path) = .ok steps := by
  unfold locate at h
  split at h
  · cases h
  · split at h
    · cases h
    · exact h

/-- Where something is written a file may be written, at the steps that the path leads to. -/
theorem write_eq_ok {path : Text} (h : directory.write path content = .ok after) :
    ∃ steps, directory.locate path = .ok steps ∧ directory.Free steps ∧
      directory.put steps content = after := by
  unfold write at h
  split at h
  · cases h
  · next steps hlocate =>
      split at h
      · cases h
      · next hentry =>
          have hfree : directory.Free steps := by
            refine ⟨hentry, ?_⟩
            intro here hahead hne
            exact isFolder_of_follow (locate_eq_follow hlocate) rfl hahead hne
          exact ⟨steps, hlocate, hfree, Except.ok.inj h⟩

/-! ## What stands at some steps -/

/-- At the steps of a file that is put stands the file. -/
theorem entry_put_self : (directory.put steps content).entry steps = .file content := by
  have hothers : (directory.files.filter fun file => file.steps != steps).find?
      (·.steps = steps) = none := by
    simp [List.find?_eq_none]
  simp [entry, put, List.find?_append, hothers]

/-- The file lies where the one lay that it takes the place of. -/
theorem exists_mem_files_put {here : List Text} :
    (∃ file ∈ (directory.put steps content).files, here <+: file.steps) ↔
      (∃ file ∈ directory.files, here <+: file.steps) ∨ here <+: steps := by
  simp only [put, List.mem_append, List.mem_filter, List.mem_singleton, bne_iff_ne]
  constructor
  · intro h
    obtain ⟨file, ⟨hfile, _⟩ | rfl, hwithin⟩ := h
    · exact Or.inl ⟨file, hfile, hwithin⟩
    · exact Or.inr hwithin
  · intro h
    obtain ⟨file, hfile, hwithin⟩ | hwithin := h
    · by_cases hsteps : file.steps = steps
      · exact ⟨⟨steps, content⟩, Or.inr rfl, hsteps ▸ hwithin⟩
      · exact ⟨file, Or.inl ⟨hfile, hsteps⟩, hwithin⟩
    · exact ⟨⟨steps, content⟩, Or.inr rfl, hwithin⟩

/-- No directory is made, and none is gone: those on the way to the new file are there already. -/
theorem isFolder_put (hfree : directory.Free steps) {here : List Text} (hne : here ≠ steps) :
    (directory.put steps content).isFolder here = directory.isFolder here := by
  have hway : here <+: steps → directory.isFolder here = true := by
    intro hahead
    exact hfree.isFolder here hahead hne
  rw [Bool.eq_iff_iff]
  rw [isFolder_iff] at hway ⊢
  rw [isFolder_iff, exists_mem_files_put, ← or_assoc]
  exact or_iff_left_of_imp hway

/-- At other steps stands what stood there. -/
theorem entry_put_of_ne (hfree : directory.Free steps) {here : List Text} (hne : here ≠ steps) :
    (directory.put steps content).entry here = directory.entry here := by
  have hothers : (directory.files.filter fun file => file.steps != steps).find?
      (·.steps = here) = directory.files.find? (·.steps = here) := by
    rw [List.find?_filter]
    congr 1
    funext file
    by_cases hfile : file.steps = here
    · simp [hfile, hne]
    · simp [hfile]
  have hfind : (directory.put steps content).files.find? (·.steps = here)
      = directory.files.find? (·.steps = here) := by
    rw [put, List.find?_append, hothers]
    simp [hne.symm]
  rw [entry, entry, hfind, isFolder_put hfree hne]

/-- A path leads where it led before, unless it is cut short at the file.  Only the file itself is
another entry than before, and no path leads on from it. -/
theorem follow_put (hfree : directory.Free steps) (here path : List Text) :
    (directory.put steps content).follow here path = directory.follow here path ∨
      (directory.put steps content).follow here path = .error .notDirectory ∧
        directory.follow here path = .error .notFound := by
  induction path generalizing here with
  | nil => exact Or.inl rfl
  | cons step rest ih =>
      simp only [follow]
      by_cases hlong : mostStepBytes < (Utf8.encode step).length
      · simp only [if_pos hlong, true_or]
      · by_cases hlast : rest.isEmpty = true
        · simp only [if_neg hlong, if_pos hlast, true_or]
        · simp only [if_neg hlong, if_neg hlast]
          by_cases hhere : descend here step = steps
          · rw [hhere, entry_put_self]
            cases hentry : directory.entry steps with
            | file _ => exact Or.inl rfl
            | directory => exact absurd hentry hfree.entry_ne
            | nothing => exact Or.inr ⟨rfl, rfl⟩
          · rw [entry_put_of_ne hfree hhere]
            cases directory.entry (descend here step) with
            | file _ => exact Or.inl rfl
            | directory => exact ih _
            | nothing => exact Or.inl rfl

/-- A path leads where it led before the file was put, unless it was cut short before and still is.
-/
theorem locate_put (hfree : directory.Free steps) (path : Text) :
    (directory.put steps content).locate path = directory.locate path ∨
      (directory.put steps content).locate path = .error .notDirectory ∧
        directory.locate path = .error .notFound := by
  unfold locate
  split
  · exact Or.inl rfl
  · split
    · exact Or.inl rfl
    · exact follow_put hfree [] (pathSteps path)

/-! ## What stands at a path -/

/-- **What is written at a path is found there.** -/
theorem entryAt_of_write {path : Text} (h : directory.write path content = .ok after) :
    after.entryAt path = .ok (.file content) := by
  obtain ⟨steps, hlocate, hfree, rfl⟩ := write_eq_ok h
  have hfound : (directory.put steps content).locate path = .ok steps := by
    obtain hsame | ⟨_, hcut⟩ := locate_put hfree path
    · exact hsame.trans hlocate
    · rw [hlocate] at hcut
      cases hcut
  rw [entryAt, hfound]
  exact congrArg Except.ok entry_put_self

/-- **At a path that leads elsewhere stands what stood there.** -/
theorem entryAt_of_write_of_ne {path other : Text} (h : directory.write path content = .ok after)
    (hne : directory.locate other ≠ directory.locate path) :
    after.entryAt other = directory.entryAt other := by
  obtain ⟨steps, hlocate, hfree, rfl⟩ := write_eq_ok h
  rw [hlocate] at hne
  obtain hsame | ⟨hafter, hbefore⟩ := @locate_put _ _ content hfree other
  · rw [entryAt, entryAt, hsame]
    cases hother : directory.locate other with
    | ok found =>
        have hfound : found ≠ steps := by
          intro hsame
          exact hne (hsame ▸ hother)
        exact congrArg Except.ok (entry_put_of_ne hfree hfound)
    | error problem => cases problem <;> rfl
  · rw [entryAt, entryAt, hafter, hbefore]

end Directory

end Flowchart
