import Stepwise.Files

namespace Stepwise.Files

variable {fs : Files} {path done : List String} {content : List UInt8}

-- No file stands where a folder of the path has to be, and no folder where the file has to be.
structure Free (fs : Files) (path : List String) : Prop where
  folders : ∀ front, front <+: path.dropLast → ∀ content, fs.at? front ≠ some (.file content)
  target : fs.at? path ≠ some .folder

theorem at?_nil : fs.at? [] = some .folder := rfl

theorem at?_put (hpath : path ≠ []) (entry : Entry) (other : List String) :
    (fs.put path entry).at? other = if other = path then some entry else fs.at? other := by
  cases other with
  | nil => rw [if_neg hpath.symm]; rfl
  | cons name rest =>
    by_cases h : name :: rest = path
    · subst h
      simp [at?, put]
    · rw [if_neg h]
      simp only [at?, put, List.lookup_cons, beq_false_of_ne h]

theorem makeFolders_ok (hdone : fs.at? done = some .folder)
    (h : ∀ front, front <+: path → ∀ content, fs.at? (done ++ front) ≠ some (.file content)) :
    ∃ fs', fs.makeFolders done path = .ok fs' ∧ fs'.at? (done ++ path) = some .folder ∧
      ∀ other : List String, (done ++ path).length < other.length → fs'.at? other = fs.at? other := by
  induction path generalizing fs done with
  | nil => exact ⟨fs, rfl, by rwa [List.append_nil], fun _ _ => rfl⟩
  | cons name rest ih =>
    have hfile : ∀ content, fs.at? (done ++ [name]) ≠ some (.file content) :=
      h [name] (List.prefix_append [name] rest)
    have hpath : done ++ [name] ++ rest = done ++ name :: rest := by simp
    have hrest : ∀ front, front <+: rest → ∀ content,
        fs.at? (done ++ [name] ++ front) ≠ some (.file content) := by
      intro front hfront
      simpa using h (name :: front) ((List.prefix_cons_inj name).2 hfront)
    rw [makeFolders, ← hpath]
    split
    · next hat => exact ih hat hrest
    · next hat => exact absurd hat (hfile _)
    · -- a folder that is put there takes no place of a file
      have hput (other : List String) : (fs.put (done ++ [name]) .folder).at? other =
          if other = done ++ [name] then some .folder else fs.at? other := at?_put (by simp) ..
      have hdone : (fs.put (done ++ [name]) .folder).at? (done ++ [name]) = some .folder := by
        rw [hput, if_pos rfl]
      have hfree : ∀ front, front <+: rest → ∀ content,
          (fs.put (done ++ [name]) .folder).at? (done ++ [name] ++ front) ≠ some (.file content) := by
        intro front hfront content
        rw [hput]
        split
        · simp
        · exact hrest front hfront content
      obtain ⟨fs', hmake, hlast, hother⟩ := ih hdone hfree
      refine ⟨fs', hmake, hlast, fun other hlength => ?_⟩
      rw [hother other hlength, hput, if_neg]
      rintro rfl
      simp only [List.length_append] at hlength
      omega

theorem makeFolders_error {front : List String} (hfront : front <+: path) (hne : front ≠ [])
    (h : fs.at? (done ++ front) = some (.file content)) :
    ∃ e, fs.makeFolders done path = .error e := by
  induction path generalizing fs done front with
  | nil => exact absurd (List.prefix_nil.1 hfront) hne
  | cons name rest ih =>
    obtain ⟨front, rfl⟩ : ∃ more, front = name :: more := by
      cases front with
      | nil => exact absurd rfl hne
      | cons n more => exact ⟨more, by rw [(List.cons_prefix_cons.1 hfront).1]⟩
    have hrest : front <+: rest := (List.cons_prefix_cons.1 hfront).2
    have hat : fs.at? (done ++ [name] ++ front) = some (.file content) := by simpa using h
    have hmore (hfile : ∀ content, fs.at? (done ++ [name]) ≠ some (.file content)) : front ≠ [] := by
      rintro rfl
      exact hfile content (by simpa using hat)
    rw [makeFolders]
    split
    · next hfolder => exact ih hrest (hmore (by simp [hfolder])) hat
    · exact ⟨_, rfl⟩
    · next hnone =>
      have hne := hmore (by simp [hnone])
      refine ih hrest hne ?_
      rw [at?_put (by simp), if_neg (by simpa using hne)]
      exact hat

theorem length_dropLast_lt (hne : path ≠ []) : ([] ++ path.dropLast).length < path.length := by
  have := List.length_pos_iff.2 hne
  simp only [List.nil_append, List.length_dropLast]
  omega

theorem write_of_folder (h : fs.at? path.dropLast = some .folder) (content : List UInt8) :
    fs.write path content =
      if fs.at? path = some .folder then .error .isFolder else .ok (fs.put path (.file content)) := by
  simp only [write, h]
  split
  · next hat => rw [if_pos hat]
  · next hat => rw [if_neg hat]

-- Once the folders that lead to a free path are made, a file can be put there and read back.
theorem Free.makes (h : fs.Free path) (content : List UInt8) :
    ∃ made fs', fs.makeFolders [] path.dropLast = .ok made ∧ made.write path content = .ok fs' ∧
      fs'.read path = .ok content := by
  have hne : path ≠ [] := by
    rintro rfl
    exact h.target rfl
  obtain ⟨made, hmade, hfolder, hother⟩ := makeFolders_ok at?_nil h.folders
  have hat : made.at? path ≠ some .folder := by
    rw [hother path (length_dropLast_lt hne)]
    exact h.target
  refine ⟨made, made.put path (.file content), hmade, ?_, ?_⟩
  · rw [write_of_folder hfolder, if_neg hat]
  · rw [read, at?_put hne, if_pos rfl]

theorem free_empty (hne : path ≠ []) : empty.Free path where
  folders front _ content := by
    cases front with
    | nil => simp [at?]
    | cons => simp [at?, empty]
  target := by
    obtain ⟨name, rest, rfl⟩ := List.exists_cons_of_ne_nil hne
    simp [at?, empty]

-- On any other path something fails.
theorem error_of_not_free (h : ¬ fs.Free path) (content : List UInt8) :
    (∃ e, fs.makeFolders [] path.dropLast = .error e) ∨
      ∃ made e, fs.makeFolders [] path.dropLast = .ok made ∧ made.write path content = .error e := by
  by_cases hfolders : ∀ front, front <+: path.dropLast → ∀ content, fs.at? front ≠ some (.file content)
  · right
    obtain ⟨made, hmade, hfolder, hother⟩ := makeFolders_ok at?_nil hfolders
    have htarget : fs.at? path = some .folder :=
      Classical.not_not.1 fun htarget => h ⟨hfolders, htarget⟩
    refine ⟨made, .isFolder, hmade, ?_⟩
    rw [write_of_folder hfolder, if_pos]
    by_cases hne : path = []
    · rw [hne]
      rfl
    · rw [hother path (length_dropLast_lt hne), htarget]
  · left
    simp only [Classical.not_forall, Classical.not_not] at hfolders
    obtain ⟨front, hfront, content, hat⟩ := hfolders
    have hne : front ≠ [] := by
      rintro rfl
      cases hat
    exact makeFolders_error hfront hne hat

end Stepwise.Files
