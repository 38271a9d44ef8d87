import TunnelKeeper.Files.Tree

/-!
# What stands where in a file tree

What can be seen at the end of a way of names is nothing, a directory, or a file with its content
(`item?`). Creating directories shows at the ways to them only, and only where nothing was
(`item_make_directories`). Putting or removing a file shows at its own place only, and there only if
it succeeds, and no directory stands there (`Touches`); whatever happens in a directory at the end
of a way happens in the same sense in the whole tree (`touches_in_directory`).
-/

namespace TunnelKeeper.FileTree

/-- What a tree is at its root. -/
inductive Item
  | directory
  | file (content : List UInt8)
  deriving DecidableEq, Repr

/-- The root of a tree. -/
def item : FileTree → Item
  | .file content => .file content
  | .directory _ => .directory

/-- What stands at the end of a way of names. -/
def item? (names : List String) (t : FileTree) : Option Item := (t.at? names).map item

variable {name other : String} {names way : List String} {entries : List (String × FileTree)}
  {t : FileTree}

/-! ## Entries of a directory -/

/-- An entry that was put is found. -/
theorem find_put_self (name : String) (t : FileTree) (entries : List (String × FileTree)) :
    find? name (put name t entries) = some t := by
  induction entries with
  | nil => simp [put, find?]
  | cons entry rest ih =>
      obtain ⟨n, old⟩ := entry
      unfold put
      by_cases hsame : n = name
      · simp [hsame, find?]
      · by_cases hbefore : name < n
        · simp [hsame, hbefore, find?]
        · simp [hsame, hbefore, find?, ih]

/-- The other entries are found as before. -/
theorem find_put_other (hne : other ≠ name) (t : FileTree)
    (entries : List (String × FileTree)) :
    find? other (put name t entries) = find? other entries := by
  induction entries with
  | nil => simp [put, find?, hne.symm]
  | cons entry rest ih =>
      obtain ⟨n, old⟩ := entry
      unfold put
      by_cases hsame : n = name
      · subst hsame
        simp [find?, hne.symm]
      · by_cases hbefore : name < n
        · simp [hsame, hbefore, find?, hne.symm]
        · simp [hsame, hbefore, find?, ih]

/-- An entry that was removed is not found, and the others are found as before. -/
theorem find_remove (name other : String) (entries : List (String × FileTree)) :
    find? other (remove name entries) = if other = name then none else find? other entries := by
  induction entries with
  | nil => simp [remove, find?]
  | cons entry rest ih =>
      obtain ⟨n, old⟩ := entry
      unfold remove at ih ⊢
      by_cases hsame : n = name
      · rw [List.filter_cons_of_neg (by simp [hsame]), ih]
        by_cases hother : other = name
        · rw [if_pos hother, if_pos hother]
        · rw [if_neg hother, if_neg hother, find?, if_neg (hsame ▸ Ne.symm hother)]
      · rw [List.filter_cons_of_pos (by simp [hsame]), find?, find?, ih]
        by_cases hfirst : n = other
        · rw [if_pos hfirst, if_pos hfirst, if_neg (hfirst ▸ hsame)]
        · rw [if_neg hfirst, if_neg hfirst]

/-! ## Items -/

@[simp]
theorem item_nil (t : FileTree) : item? [] t = some t.item := rfl

@[simp]
theorem item_below_file (name : String) (names : List String) (content : List UInt8) :
    item? (name :: names) (.file content) = none := rfl

/-- Whatever is below a directory is reached through the entry of its first name. -/
theorem item_cons (name : String) (names : List String) (entries : List (String × FileTree)) :
    item? (name :: names) (.directory entries) = (find? name entries).bind (item? names) := by
  unfold item?
  rw [at?]
  cases find? name entries with
  | none => rfl
  | some t => rfl

theorem item_put_self :
    item? (name :: names) (.directory (put name t entries)) = item? names t := by
  rw [item_cons, find_put_self]
  rfl

theorem item_put_other (hne : other ≠ name) :
    item? (other :: names) (.directory (put name t entries)) =
      item? (other :: names) (.directory entries) := by
  rw [item_cons, find_put_other hne, item_cons]

/-- What is below an entry that is put in place of one is what is seen of it there, if it differs
from the former one only there. -/
theorem item_put_at (hfound : find? name entries = some t) {t' : FileTree}
    (h : ∀ rest, names = name :: rest → item? rest t' = item? rest t) :
    item? names (.directory (put name t' entries)) = item? names (.directory entries) := by
  cases names with
  | nil => rfl
  | cons first rest =>
      by_cases hsame : first = name
      · subst hsame
        rw [item_put_self, h rest rfl, item_cons, hfound]
        rfl
      · exact item_put_other hsame

/-! ## Creating directories -/

/-- A place stays as it is, or nothing was there and it becomes a directory on a way. -/
def Opened (way names : List String) (t t' : FileTree) : Prop :=
  item? names t' = item? names t ∨
    (item? names t = none ∧ item? names t' = some .directory ∧ names <+: way)

/-- What became a directory stays one. -/
theorem Opened.trans {t t' t'' : FileTree} (h : Opened way names t t')
    (h' : Opened way names t' t'') : Opened way names t t'' := by
  rcases h with hsame | ⟨hnone, hdirectory, hway⟩
  · unfold Opened
    rw [← hsame]
    exact h'
  · rcases h' with hsame | ⟨hnone', -, -⟩
    · exact .inr ⟨hnone, hsame.trans hdirectory, hway⟩
    · rw [hnone'] at hdirectory
      cases hdirectory

/-- Directories are created at the places of a way where nothing is, and nowhere else. -/
theorem item_make_directories (way names : List String) (t : FileTree) :
    Opened way names t (makeDirectories way t).2 := by
  induction way generalizing names t with
  | nil =>
      cases t with
      | file content => exact .inl rfl
      | directory entries => exact .inl rfl
  | cons name way ih =>
      cases t with
      | file content => exact .inl rfl
      | directory entries =>
          unfold makeDirectories
          by_cases hlong : isLong name = true
          · rw [if_pos hlong]
            exact .inl rfl
          · rw [if_neg hlong]
            cases names with
            | nil => exact .inl rfl
            | cons first rest =>
                by_cases hsame : first = name
                · subst hsame
                  -- Where there was no entry, an empty directory is gone on from.
                  show Opened (first :: way) (first :: rest) (.directory entries)
                    (.directory (put first (makeDirectories way _).2 entries))
                  unfold Opened
                  rw [item_put_self, item_cons, List.cons_prefix_cons]
                  rcases ih rest ((find? first entries).getD empty) with
                    hsame | ⟨hnone, hdirectory, hway⟩
                  · rw [hsame]
                    cases hfound : find? first entries with
                    | some t => exact .inl rfl
                    | none =>
                        cases rest with
                        | nil => exact .inr ⟨rfl, rfl, rfl, List.nil_prefix⟩
                        | cons name names => exact .inl rfl
                  · refine .inr ⟨?_, hdirectory, rfl, hway⟩
                    cases hfound : find? first entries with
                    | some t =>
                        rw [hfound] at hnone
                        exact hnone
                    | none => rfl
                · exact .inl (item_put_other hsame)

/-! ## Changing one place -/

/-- An operation changes one place at most, at the end of a way. It does so only if it succeeds, no
directory is there, and then what is there is what was wanted. -/
structure Touches (target : List String) (wanted : Option Item) (t : FileTree) (o : Outcome) :
    Prop where
  others : ∀ names, names ≠ target → item? names o.2 = item? names t
  done : o.1 = .ok () → item? target t ≠ some .directory ∧ item? target o.2 = wanted
  failed : ∀ fault, o.1 = .error fault → item? target o.2 = item? target t

variable {target : List String} {wanted : Option Item}

/-- An operation that stops at once. -/
theorem Touches.error (fault : FileFault) (t : FileTree) :
    Touches target wanted t (.error fault, t) where
  others _ _ := rfl
  done h := by cases h
  failed _ _ := rfl

/-- An operation that there is nothing to do for. -/
theorem Touches.nothing (h : item? target t = none) : Touches target none t (.ok (), t) where
  others _ _ := rfl
  done _ := ⟨by simp [h], h⟩
  failed fault h := by cases h

/-- What happens in a directory of a tree happens in the tree. -/
theorem Touches.below {o : Outcome} (h : Touches target wanted t o)
    (hfound : find? name entries = some t) :
    Touches (name :: target) wanted (.directory entries)
      (o.1, .directory (put name o.2 entries)) where
  others names hne := item_put_at hfound fun rest hrest => h.others rest fun heq => hne (by
    rw [hrest, heq])
  done hok := by
    obtain ⟨hfree, hwanted⟩ := h.done hok
    rw [item_cons, hfound, item_put_self]
    exact ⟨hfree, hwanted⟩
  failed fault herror := by
    rw [item_put_self, item_cons, hfound]
    exact h.failed fault herror

/-- What happens in the directory at the end of a way happens in the tree. -/
theorem touches_in_directory {missing : FileFault → FileTree → Outcome}
    {f : List (String × FileTree) → Except FileFault Unit × List (String × FileTree)}
    (hmissing : ∀ target t, item? target t = none → Touches target wanted t (missing .missing t))
    (hf : ∀ entries, Touches [name] wanted (.directory entries)
      ((f entries).1, .directory (f entries).2)) (way : List String) (t : FileTree) :
    Touches (way ++ [name]) wanted t (inDirectory missing f way t) := by
  induction way generalizing t with
  | nil =>
      cases t with
      | file content => exact .error _ _
      | directory entries => exact hf entries
  | cons first way ih =>
      cases t with
      | file content => exact .error _ _
      | directory entries =>
          unfold inDirectory
          by_cases hlong : isLong first = true
          · rw [if_pos hlong]
            exact .error _ _
          · rw [if_neg hlong]
            cases hfound : find? first entries with
            | none =>
                refine hmissing _ _ ?_
                rw [List.cons_append, item_cons, hfound]
                rfl
            | some t => exact (ih t).below hfound

/-- A file is put into a directory, in place of a file or of nothing. -/
theorem touches_put_file (path : FilePath) (content : List UInt8)
    (entries : List (String × FileTree)) :
    Touches [path.name] (some (.file content)) (.directory entries)
      ((putFile path content entries).1, .directory (putFile path content entries).2) := by
  have hput : (∀ below, find? path.name entries ≠ some (.directory below)) →
      Touches [path.name] (some (.file content)) (.directory entries)
        (.ok (), .directory (put path.name (.file content) entries)) := fun hfree => {
    others := by
      intro names hne
      cases names with
      | nil => rfl
      | cons first rest =>
          by_cases hsame : first = path.name
          · -- What the entry was before is a file or nothing, so nothing was below it.
            subst hsame
            obtain ⟨below, rest', rfl⟩ := List.exists_cons_of_ne_nil
              fun hnil : rest = [] => hne (by rw [hnil])
            rw [item_put_self, item_cons]
            rcases hfound : find? path.name entries with _ | (old | lower)
            · rfl
            · rfl
            · exact absurd hfound (hfree lower)
          · exact item_put_other hsame
    done := by
      intro _
      rw [item_put_self, item_cons]
      refine ⟨?_, rfl⟩
      rcases hfound : find? path.name entries with _ | (old | lower)
      · simp
      · simp [item]
      · exact absurd hfound (hfree lower)
    failed := fun fault h => by cases h }
  unfold putFile
  cases path.ending with
  | slash => exact .error _ _
  | point =>
      by_cases hlong : isLong path.name = true
      · simp only [if_pos hlong]
        exact .error _ _
      · simp only [if_neg hlong]
        rcases find? path.name entries with _ | (_ | _)
        · exact .error _ _
        · exact .error _ _
        · exact .error _ _
  | none =>
      by_cases hlong : isLong path.name = true
      · simp only [if_pos hlong]
        exact .error _ _
      · simp only [if_neg hlong]
        rcases hfound : find? path.name entries with _ | (old | below)
        · exact hput (by simp [hfound])
        · exact hput (by simp [hfound])
        · exact .error _ _

/-- A file is removed from a directory, or there is none. -/
theorem touches_remove_file (path : FilePath) (entries : List (String × FileTree)) :
    Touches [path.name] none (.directory entries)
      ((removeFile path entries).1, .directory (removeFile path entries).2) := by
  unfold removeFile
  by_cases hlong : isLong path.name = true
  · simp only [if_pos hlong]
    exact .error _ _
  · simp only [if_neg hlong]
    rcases hfound : find? path.name entries with _ | (content | below)
    · refine .nothing ?_
      rw [item_cons, hfound]
      rfl
    · by_cases hending : path.ending = .none
      · simp only [if_pos hending]
        exact {
          others := by
            intro names hne
            cases names with
            | nil => rfl
            | cons first rest =>
                rw [item_cons, item_cons, find_remove]
                by_cases hsame : first = path.name
                · -- There was a file, so nothing was below it.
                  subst hsame
                  obtain ⟨lower, rest', rfl⟩ := List.exists_cons_of_ne_nil
                    fun hnil : rest = [] => hne (by rw [hnil])
                  rw [if_pos rfl, hfound]
                  rfl
                · rw [if_neg hsame]
          done := by
            intro _
            rw [item_cons, item_cons, find_remove, if_pos rfl, hfound]
            exact ⟨by simp [item], rfl⟩
          failed := fun fault h => by cases h }
      · simp only [if_neg hending]
        exact .error _ _
    · exact .error _ _

/-! ## Writing and removing files -/

variable (base : List String) (path : FilePath)

/-- Writing a file opens the way to it and then puts the file there, or stops. -/
theorem touches_write (content : List UInt8) (t : FileTree) :
    ∃ opened, (∀ names, Opened (base ++ path.parents) names t opened) ∧
      Touches (base ++ path.parents ++ [path.name]) (some (.file content)) opened
        (write base path content t) := by
  unfold write
  by_cases hparents : path.parents.any isUnspeakable = true
  · rw [if_pos hparents]
    exact ⟨t, fun _ => .inl rfl, .error _ _⟩
  · rw [if_neg hparents]
    have hopened := fun names => item_make_directories (base ++ path.parents) names t
    rcases hmade : makeDirectories (base ++ path.parents) t with ⟨fault | _, made⟩
    · rw [hmade] at hopened
      exact ⟨made, hopened, .error _ _⟩
    · rw [hmade] at hopened
      refine ⟨made, hopened, ?_⟩
      by_cases hname : isUnspeakable path.name = true
      · simp only [if_pos hname]
        exact .error _ _
      · simp only [if_neg hname]
        exact touches_in_directory (fun _ _ _ => .error _ _) (touches_put_file path content) _ _

/-- Removing a file changes its place at most. -/
theorem touches_delete (t : FileTree) :
    Touches (base ++ path.parents ++ [path.name]) none t (delete base path t) := by
  unfold delete
  by_cases hnames : (path.name :: path.parents).any isUnspeakable = true
  · rw [if_pos hnames]
    exact .error _ _
  · rw [if_neg hnames]
    exact touches_in_directory (fun _ _ hnone => .nothing hnone) (touches_remove_file path) _ _

end TunnelKeeper.FileTree
