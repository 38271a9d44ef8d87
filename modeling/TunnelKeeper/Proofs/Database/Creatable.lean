import TunnelKeeper.Database.Host
import TunnelKeeper.Proofs.Files.Creation
import TunnelKeeper.Proofs.Files.Spelling

/-!
# Files that can be created

`Creatable` says when a missing file can be created together with its directory: nothing stands in
the way, and its path ends in a name. Then preparing the file succeeds
(`prepare_file_of_creatable`), since the directories that are created are those that the file is in
(`way_parent_path`).
-/

namespace TunnelKeeper

open Text

namespace FilePath

/-- Names that do not go up lead where they say. -/
theorem settle_of_down {names : List String} (h : upName ∉ names) : settle names = names := by
  have hfold : ∀ place : List String, (names.foldl (fun place name =>
      if name = upName then place.dropLast else place ++ [name]) place) = place ++ names := by
    induction names with
    | nil => simp
    | cons name names ih =>
        rw [List.mem_cons, not_or] at h
        intro place
        rw [List.foldl_cons, if_neg (Ne.symm h.1), ih h.2, List.append_assoc]
        rfl
  exact hfold []

/-- Names that do not go up have no turns. -/
theorem turns_of_down {names : List String} (h : upName ∉ names) (place : List String) :
    turns place names = [] := by
  induction names generalizing place with
  | nil => rfl
  | cons name names ih =>
      rw [List.mem_cons, not_or] at h
      rw [turns, if_neg (Ne.symm h.1), ih h.2]

/-- Where nothing follows the last name, the last piece is a name. -/
theorem name_of_ending {piece : String} {pieces : List String}
    (h : endingOf (piece :: pieces) = .none) : piece ≠ "" ∧ piece ≠ "." := by
  unfold endingOf at h
  constructor
  · rintro rfl
    rw [if_pos rfl] at h
    split at h <;> cases h
  · rintro rfl
    cases h

end FilePath

namespace Host

/-! ## The directory of a path -/

/-- What is dropped at the end of a path has no names. -/
theorem names_drop_ending (s : List Char) : FilePath.names (String.ofList (dropEnding s).reverse) =
    FilePath.names (String.ofList s.reverse) := by
  fun_induction dropEnding s with
  | case1 rest ih =>
      have hsplit : String.ofList ('/' :: rest).reverse = String.ofList rest.reverse ++ "/" ++ "" :=
        String.toList_injective (by simp)
      rw [ih, hsplit, FilePath.names_slash]
      exact (List.append_nil _).symm
  | case2 rest ih =>
      have hsplit : String.ofList ('.' :: '/' :: rest).reverse =
          String.ofList rest.reverse ++ "/" ++ "." := String.toList_injective (by simp)
      rw [ih, hsplit, FilePath.names_slash]
      exact (List.append_nil _).symm
  | case3 s hslash hpoint => rfl

/-- What is dropped at the end of a path leaves its first character, or else this was a slash. -/
theorem last_drop_ending (s : List Char) :
    (dropEnding s).getLast?.getD '/' = s.getLast?.getD '/' := by
  fun_induction dropEnding s with
  | case1 rest ih => rw [ih, List.getLast?_cons, Option.getD_some]
  | case2 rest ih =>
      rw [ih, List.getLast?_cons, List.getLast?_cons, Option.getD_some, Option.getD_some]
  | case3 s hslash hpoint => rfl

/-- Nothing is dropped behind a last name. -/
theorem drop_ending_of_name {last : List Char} (hslash : '/' ∉ last) (hne : last ≠ [])
    (hpoint : last ≠ ['.']) (rest : List Char) :
    dropEnding (last.reverse ++ rest) = last.reverse ++ rest := by
  have hmem : ∀ c ∈ last.reverse, c ≠ '/' := by
    rintro c hc rfl
    exact hslash (List.mem_reverse.mp hc)
  cases hchars : last.reverse with
  | nil => exact absurd (List.reverse_eq_nil_iff.mp hchars) hne
  | cons c chars =>
      rw [hchars] at hmem
      rw [List.cons_append, dropEnding]
      · intro after hafter
        cases hafter
        exact hmem '/' List.mem_cons_self rfl
      · intro after hafter
        cases chars with
        | nil =>
            cases hafter
            exact hpoint (List.reverse_eq_iff.mp hchars)
        | cons d chars =>
            cases hafter
            exact hmem '/' (List.mem_cons_of_mem '.' List.mem_cons_self) rfl

/-- A last name is cut off as a whole. -/
theorem cut_last_name {last : List Char} (hslash : '/' ∉ last) (rest : List Char) :
    (last.reverse ++ rest).dropWhile (fun c => decide (c ≠ '/')) =
      rest.dropWhile (fun c => decide (c ≠ '/')) := by
  apply List.dropWhile_append_of_pos
  intro c hc
  exact decide_eq_true fun h => hslash (h ▸ List.mem_reverse.mp hc)

/-- A path without slashes has no directory in it. -/
theorem parent_path_of_no_slash {path : String} (hslash : '/' ∉ path.toList) (hne : path ≠ "")
    (hpoint : path ≠ ".") : parentPath path = "" := by
  have hkept := drop_ending_of_name hslash (mt String.toList_eq_nil_iff.mp hne)
    (fun h => hpoint (String.toList_injective h)) []
  have hcut := cut_last_name hslash []
  rw [List.append_nil] at hkept hcut
  unfold parentPath
  simp only [hkept, hcut]
  rfl

/-- The path of a directory has the names before the last one, and it begins with a slash exactly
if the path does. -/
theorem parent_path_of_slash {above last : String} (hslash : '/' ∉ last.toList) (hne : last ≠ "")
    (hpoint : last ≠ ".") :
    FilePath.names (parentPath (above ++ "/" ++ last)) = FilePath.names above ∧
      (parentPath (above ++ "/" ++ last)).toList.head? =
        (above ++ "/" ++ last).toList.head? := by
  have hchars : (above ++ "/" ++ last).toList.reverse =
      last.toList.reverse ++ '/' :: above.toList.reverse := by simp
  have hkept := drop_ending_of_name hslash (mt String.toList_eq_nil_iff.mp hne)
    (fun h => hpoint (String.toList_injective h)) ('/' :: above.toList.reverse)
  have hcut : (last.toList.reverse ++ '/' :: above.toList.reverse).dropWhile
      (fun c => decide (c ≠ '/')) = '/' :: above.toList.reverse := cut_last_name hslash _
  have hhead : (above ++ "/" ++ last).toList.head? =
      some ((dropEnding above.toList.reverse).getLast?.getD '/') := by
    rw [last_drop_ending, List.getLast?_reverse]
    cases habove : above.toList <;> simp [habove]
  have hnames := names_drop_ending above.toList.reverse
  rw [List.reverse_reverse, String.ofList_toList] at hnames
  rw [hhead]
  unfold parentPath
  simp only [hchars, hkept, hcut]
  rw [dropEnding]
  cases hdropped : dropEnding above.toList.reverse with
  | nil =>
      rw [hdropped] at hnames
      simp only [List.cons_ne_nil, if_false]
      exact ⟨hnames, rfl⟩
  | cons c s =>
      rw [hdropped] at hnames
      refine ⟨hnames, ?_⟩
      rw [String.toList_ofList, List.head?_reverse, List.getLast?_cons, Option.getD_some]

/-- A path that ends in a name leads to it in the directory of the path. -/
theorem way_parent_path {path : String} (h : Host)
    (hnamed : FilePath.endingOf (FilePath.pieces path).reverse = .none) :
    ∃ last, h.way path = h.way (parentPath path) ++ [last] := by
  rcases FilePath.exists_last_slash path with hslash | ⟨above, last, rfl, hslash⟩
  · rw [FilePath.pieces_of_no_slash hslash] at hnamed
    obtain ⟨hne, hpoint⟩ := FilePath.name_of_ending hnamed
    have hrelative : path.toList.head? ≠ some '/' := fun h => hslash (List.mem_of_head? h)
    rw [parent_path_of_no_slash hslash hne hpoint]
    unfold way
    rw [if_neg hrelative, FilePath.names_of_no_slash hslash,
      if_neg (not_or.mpr ⟨hne, hpoint⟩)]
    exact ⟨path, (congrArg (· ++ [path]) (List.append_nil _)).symm⟩
  · rw [FilePath.pieces_slash, FilePath.pieces_of_no_slash hslash, List.reverse_append] at hnamed
    obtain ⟨hne, hpoint⟩ := FilePath.name_of_ending hnamed
    obtain ⟨hnames, hhead⟩ := @parent_path_of_slash above last hslash hne hpoint
    refine ⟨last, ?_⟩
    unfold way
    rw [hhead, hnames, FilePath.names_slash, FilePath.names_of_no_slash hslash,
      if_neg (not_or.mpr ⟨hne, hpoint⟩)]
    split
    · rfl
    · exact (List.append_assoc _ _ _).symm

/-! ## Files that can be created -/

/-- Whether the missing file of a path can be created together with its directory: nothing is at
the end of the way, no file stands in it, it does not go up, and it ends in a name. -/
structure Creatable (h : Host) (path : String) : Prop where
  named : FilePath.endingOf (FilePath.pieces path).reverse = .none
  down : FilePath.upName ∉ h.way path
  speakable : ∀ name ∈ h.way path, FileTree.isUnspeakable name = false
  passable : FileTree.IsOpen (h.way path) h.files
  missing : FileTree.item? (h.way path) h.files = none
  working : FileTree.item? h.workingDirectory h.files = some .directory

variable {h : Host} {path : String}

theorem Creatable.locate_eq (hcan : h.Creatable path) : h.locate path = h.way path :=
  FilePath.settle_of_down hcan.down

/-- The directory of a file that can be created is created, and nothing at the end of the path. -/
theorem Creatable.directories (hcan : h.Creatable path) {above : List String} {last : String}
    (hway : h.way path = above ++ [last]) (hparent : h.way (parentPath path) = above) :
    ∃ opened, h.createDirectories (parentPath path) = (.ok (), opened) ∧
      FileTree.item? above opened = some .directory ∧
      FileTree.item? (above ++ [last]) opened = none := by
  have hmissing := hcan.missing
  rw [hway] at hmissing
  unfold createDirectories
  by_cases hempty : parentPath path = ""
  · rw [if_pos hempty]
    refine ⟨h.files, rfl, ?_, hmissing⟩
    rw [← hparent, hempty]
    show FileTree.item? (h.workingDirectory ++ []) h.files = some .directory
    rw [List.append_nil]
    exact hcan.working
  · have hdown : FilePath.upName ∉ above := fun hmem =>
      hcan.down (hway ▸ List.mem_append_left [last] hmem)
    have hspeakable : ¬ above.any FileTree.isUnspeakable = true := by
      rw [List.any_eq_true]
      rintro ⟨name, hname, htrue⟩
      rw [hcan.speakable name (hway ▸ List.mem_append_left [last] hname)] at htrue
      cases htrue
    have hopen := hcan.passable
    rw [hway] at hopen
    obtain ⟨hok, hdirectory⟩ := FileTree.make_directories_of_open hopen.of_append
    rw [if_neg hempty, locate, hparent, FilePath.settle_of_down hdown,
      FilePath.turns_of_down hdown]
    simp only [if_neg hspeakable]
    refine ⟨_, Prod.ext hok rfl, hdirectory, ?_⟩
    rcases FileTree.item_make_directories above (above ++ [last]) h.files with
      hsame | ⟨-, -, hprefix⟩
    · exact hsame.trans hmissing
    · have hlength := hprefix.length_le
      rw [List.length_append, List.length_singleton] at hlength
      omega

theorem create_at_append (above : List String) (last : String) (ending : PathEnding)
    (t : FileTree) : createAt (above ++ [last]) ending t =
      if FileTree.isUnspeakable last then (.error .nulInName, t)
      else FileTree.inDirectory (fun fault t => (.error fault, t))
        (FileTree.putFile ⟨[], last, ending⟩ []) above t := by
  unfold createAt
  simp only [List.reverse_append, List.reverse_singleton, List.singleton_append,
    List.reverse_reverse]

/-- Preparing a file that can be created succeeds. -/
theorem prepare_file_of_creatable (hcan : h.Creatable path) : (h.prepareFile path).1 = .ok () := by
  obtain ⟨last, hway⟩ := way_parent_path h hcan.named
  generalize hparent : h.way (parentPath path) = above at hway
  obtain ⟨opened, hopened, hdirectory, hnone⟩ := hcan.directories hway hparent
  have hlast : ¬ FileTree.isUnspeakable last = true := by
    have hmem : last ∈ h.way path := by
      rw [hway]
      exact List.mem_append_right _ List.mem_cons_self
    rw [hcan.speakable last hmem]
    exact Bool.false_ne_true
  have hshort := hcan.passable.short
  rw [hway] at hshort
  have hput := FileTree.put_file_of_directory hshort hdirectory hnone
    (fun fault t => (.error fault, t)) []
  unfold prepareFile
  by_cases hhas : h.has path = true
  · rw [if_pos hhas]
  · rw [if_neg hhas, hopened, hcan.locate_eq, hcan.named, hway]
    simp only [create_at_append, if_neg hlast]
    rcases hcreated : FileTree.inDirectory (fun fault t => (.error fault, t))
      (FileTree.putFile ⟨[], last, .none⟩ []) above opened with ⟨fault | _, files⟩
    · rw [hcreated] at hput
      cases hput
    · rfl

end Host

end TunnelKeeper
