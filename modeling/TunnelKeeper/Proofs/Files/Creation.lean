import TunnelKeeper.Proofs.Files.Storage

/-!
# Creating files and directories

What is left alone when directories and files are created, and when this succeeds: directories can
be created along a way on which there is no file (`make_directories_of_open`), and then a file can
be put at the end of it (`put_file_of_directory`).
-/

namespace TunnelKeeper.FileTree

/-! ## What is left alone -/

/-- Where nothing is, nothing is read, and what is said is not that there is a directory. -/
theorem read_of_item_none {names : List String} {t : FileTree} (ending : PathEnding)
    (h : item? names t = none) : ∃ fault, read ending names t = .error fault ∧
      fault ≠ .isDirectory := by
  induction names generalizing t with
  | nil => cases h
  | cons name names ih =>
      cases t with
      | file content => exact ⟨.notDirectory, rfl, nofun⟩
      | directory entries =>
          rw [item_cons] at h
          unfold read
          by_cases hlong : isLong name = true
          · exact ⟨.nameTooLong, if_pos hlong, nofun⟩
          · rw [if_neg hlong]
            cases hfound : find? name entries with
            | none => exact ⟨.missing, rfl, nofun⟩
            | some t =>
                rw [hfound] at h
                exact ih h

/-- Nothing can be left because it is a directory. -/
theorem leave_fault_ne {names : List String} {t : FileTree} {fault : FileFault}
    (h : leaveFault? names t = some fault) : fault ≠ .isDirectory := by
  rintro rfl
  unfold leaveFault? at h
  split at h
  · cases h
  · cases h
  · next fault hread =>
      cases h
      contradiction

/-- No file comes or goes with directories that are created at several places. -/
theorem content_make_all (places : List (List String)) (names way : List String) (t : FileTree) :
    content? way (makeAll places names t).2 = content? way t := by
  induction places generalizing t with
  | nil => exact (item_make_directories names way t).content_eq
  | cons place places ih =>
      have hopened := (item_make_directories place way t).content_eq
      unfold makeAll
      rcases hmade : makeDirectories place t with ⟨fault | _, opened⟩
      · rw [hmade] at hopened
        cases fault <;> exact hopened
      · rw [hmade] at hopened
        exact (ih opened).trans hopened

/-- An operation that changes no item leaves all files as they are. -/
theorem Touches.content_eq {target : List String} {wanted : Option Item} {t : FileTree}
    {o : Outcome} (h : Touches target wanted t o) {fault : FileFault} (hfailed : o.1 = .error fault)
    (way : List String) : content? way o.2 = content? way t := by
  by_cases hway : way = target
  · rw [hway]
    exact content_congr (h.failed fault hfailed)
  · exact content_congr (h.others way hway)

/-! ## What can be created -/

/-- Whether directories can be created along a way of names: no name is too long, and no file
stands in the way. -/
structure IsOpen (way : List String) (t : FileTree) : Prop where
  short : ∀ name ∈ way, isLong name = false
  no_file : ∀ above, above <+: way → ∀ content, item? above t ≠ some (.file content)

/-- What is open stays open behind its first name. -/
theorem IsOpen.tail {name : String} {way : List String} {entries : List (String × FileTree)}
    (h : IsOpen (name :: way) (.directory entries)) :
    IsOpen way ((find? name entries).getD empty) where
  short other hother := h.short other (List.mem_cons_of_mem name hother)
  no_file above habove content := by
    have hfile := h.no_file (name :: above) (List.cons_prefix_cons.mpr ⟨rfl, habove⟩) content
    rw [item_cons] at hfile
    cases hfound : find? name entries with
    | some t =>
        rw [hfound] at hfile
        exact hfile
    | none =>
        -- The directory that is created there is empty.
        cases above with
        | nil => exact nofun
        | cons other above => exact nofun

theorem IsOpen.of_append {above names : List String} {t : FileTree} (h : IsOpen (above ++ names) t) :
    IsOpen above t where
  short name hname := h.short name (List.mem_append_left names hname)
  no_file place hplace := h.no_file place (hplace.trans (List.prefix_append above names))

/-- Directories can be created along a way that is open. -/
theorem make_directories_of_open {way : List String} {t : FileTree} (h : IsOpen way t) :
    (makeDirectories way t).1 = .ok () ∧
      item? way (makeDirectories way t).2 = some .directory := by
  induction way generalizing t with
  | nil =>
      cases t with
      | file content => exact absurd rfl (h.no_file [] List.nil_prefix content)
      | directory entries => exact ⟨rfl, rfl⟩
  | cons name way ih =>
      cases t with
      | file content => exact absurd rfl (h.no_file [] List.nil_prefix content)
      | directory entries =>
          obtain ⟨hok, hdirectory⟩ := ih h.tail
          have hshort : ¬ isLong name = true := by simp [h.short name List.mem_cons_self]
          unfold makeDirectories
          rw [if_neg hshort]
          refine ⟨hok, ?_⟩
          rw [← hdirectory]
          exact item_put_self

/-- What is at the end of two ways, one behind the other. -/
theorem at_append {above : List String} {t u : FileTree} (h : t.at? above = some u)
    (names : List String) : t.at? (above ++ names) = u.at? names := by
  induction above generalizing t with
  | nil =>
      cases h
      rfl
  | cons name above ih =>
      cases t with
      | file content => cases h
      | directory entries =>
          rw [List.cons_append, at?]
          rw [at?] at h
          cases hfound : find? name entries with
          | none =>
              rw [hfound] at h
              cases h
          | some t =>
              rw [hfound] at h
              exact ih h

/-- What is done in a directory that is there comes to what it comes to for the entries. -/
theorem in_directory_of_at {above : List String} {t : FileTree}
    {entries : List (String × FileTree)} (hshort : ∀ name ∈ above, isLong name = false)
    (h : t.at? above = some (.directory entries)) (missing : FileFault → FileTree → Outcome)
    (f : List (String × FileTree) → Except FileFault Unit × List (String × FileTree)) :
    (inDirectory missing f above t).1 = (f entries).1 := by
  induction above generalizing t with
  | nil =>
      cases h
      rfl
  | cons name above ih =>
      cases t with
      | file content => cases h
      | directory found =>
          have hname : ¬ isLong name = true := by simp [hshort name List.mem_cons_self]
          rw [at?] at h
          rw [inDirectory, if_neg hname]
          cases hfound : find? name found with
          | none =>
              rw [hfound] at h
              cases h
          | some t =>
              rw [hfound] at h
              exact ih (fun other hother => hshort other (List.mem_cons_of_mem name hother)) h

/-- A new file can be put into a directory that is there. -/
theorem put_file_of_directory {above : List String} {name : String} {t : FileTree}
    (hshort : ∀ other ∈ above ++ [name], isLong other = false)
    (habove : item? above t = some .directory) (hnone : item? (above ++ [name]) t = none)
    (missing : FileFault → FileTree → Outcome) (content : List UInt8) :
    (inDirectory missing (putFile ⟨[], name, .none⟩ content) above t).1 = .ok () := by
  obtain ⟨entries, hentries⟩ : ∃ entries, t.at? above = some (.directory entries) := by
    unfold item? at habove
    rcases hfound : t.at? above with _ | (content | entries)
    · rw [hfound] at habove
      cases habove
    · rw [hfound] at habove
      cases habove
    · exact ⟨entries, rfl⟩
  have hfree : find? name entries = none := by
    unfold item? at hnone
    rw [at_append hentries, at?] at hnone
    cases hfound : find? name entries with
    | none => rfl
    | some t =>
        rw [hfound] at hnone
        cases hnone
  have hname : ¬ isLong name = true := by simp [hshort name (List.mem_append_right above (by simp))]
  rw [in_directory_of_at (fun other hother => hshort other (List.mem_append_left [name] hother))
    hentries, putFile]
  simp only [if_neg hname, hfree]

end TunnelKeeper.FileTree
