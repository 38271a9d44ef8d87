import TunnelKeeper.Proofs.Files.Spelling
import TunnelKeeper.Proofs.Keeper.BootstrapFiles
import TunnelKeeper.Proofs.Keeper.NameLine
import TunnelKeeper.Proofs.Store.Snapshot

/-!
# Files of different interfaces

File names are paths, so it is the names in them that lead to a file. Two interfaces have the same
file exactly if their identifiers are spellings of one path (`file_place_eq_iff`), and in no other
case does writing or removing the file of one touch the file of the other (`files_apart`).
-/

namespace TunnelKeeper

open Text

namespace Act

open FileTree

variable {α β : Type} {place : List String} {s : Services FileTree} {w : World FileTree}

/-! ## Acts that spare a file -/

/-- An act that leaves the content of a place as it is, whether it fails or not. -/
def Spares (place : List String) (s : Services FileTree) (w : World FileTree) (x : Act FileTree α) :
    Prop :=
  content? place (x s w).2.files = content? place w.files

/-- A sequence spares what its first act and the acts behind each of its results spare. -/
theorem Spares.bind {x : Act FileTree α} {f : α → Act FileTree β} (hx : Spares place s w x)
    (hf : ∀ a w', x s w = (.ok a, w') → Spares place s w' (f a)) : Spares place s w (x >>= f) := by
  unfold Spares at hx ⊢
  rcases heq : x s w with ⟨e | a, w'⟩
  · rw [bind_error heq, ← hx, heq]
  · rw [bind_ok heq, hf a w' heq, ← hx, heq]

theorem Spares.within {x : Act FileTree α} (hx : Spares place s w x) (doing : String) :
    Spares place s w (within doing x) := hx

theorem spares_checkpoint (r : Request) : Spares place s w (checkpoint r) := rfl

/-- A call spares what it spares if it does not fail. -/
theorem spares_call {c : Call} {run : Services FileTree → World FileTree →
    Except Error α × World FileTree}
    (hrun : content? place (run s w).2.files = content? place w.files) :
    Spares place s w (call c run) := by
  unfold Spares
  cases hfault : s.fault? w.calls.length c with
  | some e => rw [call_of_fault hfault]
  | none =>
      rw [call_of_none hfault]
      exact hrun

theorem spares_query {c : Call} {r : Request} {read : Store → Bool → Except Error α} :
    Spares place s w (query c r read) := spares_call rfl

end Act

namespace Keeper

open Act FileTree FilePath

variable {base : List String} {id other : InterfaceId}

/-! ## Places of files -/

/-- An interface whose file name the storage below a directory takes. -/
def HasFile (id : InterfaceId) : Prop := ∃ path, parse? (filePath id) = some path

/-- Where the file of an interface is, for a storage below a directory. -/
def filePlace (base : List String) (id : InterfaceId) : List String := base ++ names (filePath id)

/-- What ends as file names do is a name. -/
theorem names_file_path_of_no_slash (h : '/' ∉ id.toList) : names (filePath id) = [filePath id] := by
  have hslash : '/' ∉ (filePath id).toList := by simp [filePath, h]
  have hlength : 5 ≤ (filePath id).length := by
    rw [filePath, String.length_append]
    exact Nat.le_add_left 5 _
  have hname : ¬ (filePath id = "" ∨ filePath id = ".") := by
    rintro (hid | hid)
    · exact absurd (hid ▸ hlength) (by decide)
    · exact absurd (hid ▸ hlength) (by decide)
  rw [names_of_no_slash hslash, if_neg hname]

/-- The names that lead to a file determine the identifier, up to its spelling. -/
theorem exists_way (h : HasFile id) : ∃ above last,
    names (filePath id) = above ++ [filePath last] ∧ Respelled id (way above last) := by
  rcases exists_last_slash id with hslash | ⟨above, last, rfl, hslash⟩
  · exact ⟨[], id, names_file_path_of_no_slash hslash, .refl _⟩
  · have hpath : filePath (above ++ "/" ++ last) = above ++ "/" ++ filePath last :=
      String.append_assoc
    have hplain : ¬ Strays (above ++ "/" ++ filePath last) := by
      obtain ⟨path, hparse⟩ := h
      intro hstrays
      rw [hpath, parse_eq_none_iff.mpr hstrays] at hparse
      cases hparse
    refine ⟨names above, last, ?_, respelled_way above last (begins_with_name hplain).of_slash⟩
    rw [hpath, names_slash, names_file_path_of_no_slash hslash]

/-- Two interfaces have the same file exactly if their identifiers are spellings of one path. -/
theorem file_place_eq_iff (hid : HasFile id) (hother : HasFile other) :
    filePlace base id = filePlace base other ↔ Respelled id other := by
  constructor
  · intro h
    obtain ⟨above, last, hnames, hspelled⟩ := exists_way hid
    obtain ⟨above', last', hnames', hspelled'⟩ := exists_way hother
    have hsame : above ++ [filePath last] = above' ++ [filePath last'] := by
      rw [← hnames, ← hnames']
      exact List.append_cancel_left h
    obtain ⟨rfl, hlast⟩ := List.append_inj' hsame rfl
    obtain rfl := file_path_inj.mp (List.singleton_inj.mp hlast)
    exact hspelled.trans _ _ _ (hspelled'.symm _ _)
  · exact fun h => congrArg (base ++ ·) (names_append_of_respelled h ".conf")

/-- Identifiers without slashes have one spelling. -/
theorem eq_of_file_place_eq (hid : '/' ∉ id.toList) (hother : '/' ∉ other.toList)
    (h : filePlace base id = filePlace base other) : id = other := by
  have hnames := List.append_cancel_left h
  rw [names_file_path_of_no_slash hid, names_file_path_of_no_slash hother] at hnames
  exact file_path_inj.mp (List.singleton_inj.mp hnames)

/-! ## Calls on the files of other interfaces -/

/-- A call on the file of an interface leaves alone all files at other places. -/
theorem content_other_call {c : FileCall} {place : List String} (hpath : c.path = filePath id)
    (h : filePlace base id ≠ place) (t : FileTree) :
    content? place (c.run base t).2 = content? place t := by
  refine Decidable.byContradiction fun hchanged => h ?_
  obtain ⟨hplace, -⟩ := (FileCall.confined base c t).content_eq hchanged
  rw [hplace, FileCall.target, hpath]
  rfl

section

variable {r : Request} {s : Services FileTree} {w : World FileTree} {place : List String}
  (hstorage : s.storage = .below base)
include hstorage

/-- Removing the file of an interface leaves alone all files at other places. -/
theorem spares_unpersist (h : filePlace base id ≠ place) :
    Spares place s w (unpersist r (filePath id)) := by
  refine (spares_checkpoint r).bind fun _ checked _ => Spares.within (spares_call ?_) _
  rw [hstorage]
  exact content_other_call (c := .delete (filePath id)) rfl h _

/-- So does writing it, since an interface is stored under its identifier. -/
theorem spares_persist (hstore : w.store.Consistent) (h : filePlace base id ≠ place) :
    Spares place s w (persist r id) := by
  refine (spares_checkpoint r).bind fun _ checked hchecked => ?_
  obtain rfl := (Prod.mk.inj hchecked).2
  refine (spares_query.within _).bind fun read fetched hfetched => ?_
  obtain ⟨i, peers⟩ := read
  obtain ⟨hread, -⟩ := of_query_ok (of_within_ok hfetched)
  obtain ⟨hinterface, -⟩ := Store.interface_and_peers_eq_ok_iff.mp hread
  obtain rfl := identifier_of_interface hstore (Store.interface_of_ok hinterface)
  refine (spares_checkpoint r).bind fun _ _ _ => ?_
  refine (Spares.within (spares_call rfl) _).bind fun config _ _ => ?_
  refine (spares_checkpoint r).bind fun _ _ _ => Spares.within (spares_call ?_) _
  rw [hstorage]
  exact content_other_call (c := .write i.fileName (encodeUtf8 config.toList)) rfl h _

/-- There is no file at its place when it was removed. -/
theorem content_unpersist {w' : World FileTree}
    (h : unpersist r (filePath id) s w = (.ok (), w')) :
    content? (filePlace base id) w'.files = none := by
  obtain ⟨after, hdelete, rfl⟩ := of_call_ok (of_within_ok (of_checkpoint_bind h))
  rw [hstorage] at hdelete
  obtain ⟨hresult, rfl⟩ := Prod.mk.inj hdelete
  have hgone := ((FileCall.confined base (.delete (filePath id)) w.files).done hresult).2
  refine Option.eq_none_iff_forall_ne_some.mpr fun content hcontent => ?_
  rw [content_eq_some_iff] at hcontent
  exact nomatch hgone.symm.trans hcontent

/-- There is a file at its place when it was written, with the rendered configuration. -/
theorem content_persist (hstore : w.store.Consistent) {w' : World FileTree}
    (h : persist r id s w = (.ok (), w')) :
    ∃ i peers, w.store.interface false id = .ok i ∧
      content? (filePlace base id) w'.files =
        some (encodeUtf8 (s.renderInterface i peers).toList) := by
  obtain ⟨⟨i, peers⟩, fetched, hfetched, hrest⟩ := of_bind_ok (of_checkpoint_bind h)
  obtain ⟨hread, -⟩ := of_query_ok (of_within_ok hfetched)
  obtain ⟨hinterface, -⟩ := Store.interface_and_peers_eq_ok_iff.mp hread
  have hstored := Store.interface_of_ok hinterface
  obtain rfl := identifier_of_interface hstore hstored
  obtain ⟨config, rendered, hrendered, hlast⟩ := of_bind_ok (of_checkpoint_bind hrest)
  obtain ⟨after, hrender, -⟩ := of_call_ok (of_within_ok hrendered)
  obtain rfl := Except.ok.inj (Prod.mk.inj hrender).1
  obtain ⟨written, hwrite, rfl⟩ := of_call_ok (of_within_ok (of_checkpoint_bind hlast))
  rw [hstorage] at hwrite
  obtain ⟨hresult, rfl⟩ := Prod.mk.inj hwrite
  refine ⟨i, peers, hstored, content_eq_some_iff.mpr ?_⟩
  exact ((FileCall.confined base (.write i.fileName _) _).done hresult).2

end

/-- Below a directory, what was persisted stands at the place of the interface, and nothing does
when it was removed. Two interfaces have the same place exactly if their identifiers are spellings
of one path, which those without slashes never are. If they are not, persisting and removing the
file of one leaves the file of the other as it is, whatever the tree holds and whichever calls
fail. -/
theorem files_apart (base : List String) (r : Request) (s : Services FileTree)
    (w : World FileTree) (writes : List Store.Write) (hstorage : s.storage = .below base)
    (hstore : w.store = Store.after writes) (id other : InterfaceId) (hid : HasFile id)
    (hother : HasFile other) :
    (∀ w', persist r id s w = (.ok (), w') → ∃ i peers, w.store.interface false id = .ok i ∧
        content? (filePlace base id) w'.files =
          some (encodeUtf8 (s.renderInterface i peers).toList)) ∧
      (∀ w', unpersist r (filePath id) s w = (.ok (), w') →
        content? (filePlace base id) w'.files = none) ∧
      (filePlace base id = filePlace base other ↔ Respelled id other) ∧
      ('/' ∉ id.toList → '/' ∉ other.toList → Respelled id other → id = other) ∧
      (¬ Respelled id other →
        content? (filePlace base other) (persist r id s w).2.files =
            content? (filePlace base other) w.files ∧
          content? (filePlace base other) (unpersist r (filePath id) s w).2.files =
            content? (filePlace base other) w.files) := by
  have hconsistent : w.store.Consistent := by
    rw [hstore]
    exact Store.consistent_after writes
  have hplaces : filePlace base id = filePlace base other ↔ Respelled id other :=
    file_place_eq_iff hid hother
  refine ⟨fun _ => content_persist hstorage hconsistent, fun _ => content_unpersist hstorage,
    hplaces, fun hslash hslash' h => eq_of_file_place_eq hslash hslash' (hplaces.mpr h), ?_⟩
  intro hspelled
  have hapart : filePlace base id ≠ filePlace base other := fun h => hspelled (hplaces.mp h)
  exact ⟨spares_persist hstorage hconsistent hapart, spares_unpersist hstorage hapart⟩

/-- A world in which two interfaces of one directory have files. -/
def officeFiles : World FileTree :=
  { emptyWorld with
    files := .directory
      [("office", .directory [("wg0.conf", .file [0x30]), ("wg1.conf", .file [0x31])])] }

/-- Removing the file of one of them leaves the other one. -/
theorem files_apart_neighbours :
    officeFiles.store = Store.after [] ∧ HasFile "office/wg0" ∧ HasFile "office/wg1" ∧
      ¬ Respelled "office/wg0" "office/wg1" ∧
      content? (filePlace [] "office/wg1")
          (unpersist .system (filePath "office/wg0") treeKeeper officeFiles).2.files =
        content? (filePlace [] "office/wg1") officeFiles.files := by
  have hfirst : HasFile "office/wg0" := ⟨⟨["office"], "wg0.conf", .none⟩, by decide +kernel⟩
  have hsecond : HasFile "office/wg1" := ⟨⟨["office"], "wg1.conf", .none⟩, by decide +kernel⟩
  obtain ⟨-, -, hplaces, -, hspared⟩ := files_apart [] .system treeKeeper officeFiles [] rfl rfl
    "office/wg0" "office/wg1" hfirst hsecond
  have hspelled : ¬ Respelled "office/wg0" "office/wg1" := fun h =>
    absurd (hplaces.mpr h) (by decide +kernel)
  exact ⟨rfl, hfirst, hsecond, hspelled, (hspared hspelled).2⟩

/-- Two different identifiers have the same file, and removing the file of the one interface takes
the file of the other. -/
theorem repeated_slash_removes_file :
    "office//wg0" ≠ "office/wg0" ∧ HasFile "office//wg0" ∧ HasFile "office/wg0" ∧
      filePlace [] "office//wg0" = filePlace [] "office/wg0" ∧
      content? (filePlace [] "office/wg0") officeFiles.files = some [0x30] ∧
      content? (filePlace [] "office/wg0")
        (unpersist .system (filePath "office//wg0") treeKeeper officeFiles).2.files = none := by
  refine ⟨by decide, ⟨⟨["office"], "wg0.conf", .none⟩, by decide +kernel⟩,
    ⟨⟨["office"], "wg0.conf", .none⟩, by decide +kernel⟩, ?_, ?_, ?_⟩
  · decide +kernel
  · decide +kernel
  · decide +kernel

end Keeper

end TunnelKeeper
