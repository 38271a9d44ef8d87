import TunnelKeeper.Files.Storage
import TunnelKeeper.Proofs.Files.Tree

/-!
# What a storage shows

A file that was written holds what was written, and a write leaves the files apart from it as they
are, whether it succeeds or not (`Storage.Shows`). Which files are apart from each other is up to
the storage. In a file tree it is not the texts of the paths that have to differ but the names in
them (`Storage.below_shows`): repeated slashes lead to the same file.
-/

namespace TunnelKeeper

/-- What is read from a storage, given which paths lead to files that are apart. -/
structure Storage.Shows {σ : Type} (st : Storage σ)
    (content? : σ → String → Option (List UInt8)) (Apart : String → String → Prop) : Prop where
  written : ∀ path content files, (st.write path content files).1 = .ok () →
    content? (st.write path content files).2 path = some content
  others : ∀ path other content files, Apart path other →
    content? (st.write path content files).2 other = content? files other

namespace FileTree

/-- The content of the file at the end of a way of names. -/
def content? (names : List String) (t : FileTree) : Option (List UInt8) :=
  match t.at? names with
  | some (.file content) => some content
  | _ => none

/-- There is content where a file is. -/
theorem content_eq_some_iff {names : List String} {t : FileTree} {content : List UInt8} :
    content? names t = some content ↔ item? names t = some (.file content) := by
  unfold content? item?
  rcases t.at? names with _ | (_ | _)
  · simp
  · simp [item]
  · simp [item]

/-- Where the same stands, there is the same content. -/
theorem content_congr {names : List String} {t t' : FileTree} (h : item? names t' = item? names t) :
    content? names t' = content? names t := by
  apply Option.ext
  intro content
  rw [content_eq_some_iff, content_eq_some_iff, h]

/-- No file comes or goes with directories that are created. -/
theorem Opened.content_eq {way names : List String} {t t' : FileTree} (h : Opened way names t t') :
    content? names t' = content? names t := by
  rcases h with hsame | ⟨hnone, hdirectory, -⟩
  · exact content_congr hsame
  · apply Option.ext
    intro content
    rw [content_eq_some_iff, content_eq_some_iff, hnone, hdirectory]
    simp

end FileTree

/-- The names of a path that can be read are those of its directories and its last one. -/
theorem FilePath.names_of_parse {text : String} {path : FilePath} (h : parse? text = some path) :
    names text = path.parents ++ [path.name] := by
  unfold parse? at h
  by_cases hplain : isPlain text = true
  · rw [if_pos hplain] at h
    cases hnames : (names text).reverse with
    | nil =>
        rw [hnames] at h
        cases h
    | cons name above =>
        rw [hnames] at h
        cases h
        rw [← List.reverse_reverse (names text), hnames, List.reverse_cons]
  · rw [if_neg hplain] at h
    cases h

namespace Storage

open FileTree

variable {text : String} {f : FilePath → FileTree → FileTree.Outcome}

/-- What is done at a path that can be read, with faults of the file system as errors. -/
theorem at_path_of_parse {path : FilePath} (h : FilePath.parse? text = some path) (t : FileTree) :
    atPath text f t = ((f path t).1.mapError .file, (f path t).2) := by
  unfold atPath
  rw [h]

/-- Nothing is done at a path that cannot be read. -/
theorem at_path_of_none (h : FilePath.parse? text = none) (t : FileTree) :
    atPath text f t = (.error (.precondition (.plainPath text)), t) := by
  unfold atPath
  rw [h]

/-- Below a directory of a file tree, paths with different names lead to files that are apart. -/
theorem below_shows (base : List String) :
    (below base).Shows (fun t path => t.content? (base ++ FilePath.names path))
      fun path other => FilePath.names path ≠ FilePath.names other where
  written text content t hwritten := by
    simp only [below] at hwritten ⊢
    cases hpath : FilePath.parse? text with
    | none =>
        rw [at_path_of_none hpath] at hwritten
        cases hwritten
    | some path =>
        rw [at_path_of_parse hpath] at hwritten ⊢
        obtain ⟨opened, -, htouches⟩ := touches_write base path content t
        rw [FilePath.names_of_parse hpath, ← List.append_assoc, content_eq_some_iff]
        cases hwrite : (FileTree.write base path content t).1 with
        | error fault =>
            rw [hwrite] at hwritten
            cases hwritten
        | ok _ => exact (htouches.done hwrite).2
  others text other content t hapart := by
    simp only [below]
    cases hpath : FilePath.parse? text with
    | none => rw [at_path_of_none hpath]
    | some path =>
        rw [at_path_of_parse hpath]
        obtain ⟨opened, hopened, htouches⟩ := touches_write base path content t
        rw [FilePath.names_of_parse hpath] at hapart
        refine (content_congr (htouches.others _ fun heq => hapart ?_)).trans (hopened _).content_eq
        rw [List.append_assoc] at heq
        exact (List.append_cancel_left heq).symm

end Storage

end TunnelKeeper
