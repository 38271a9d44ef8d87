import TunnelKeeper.Proofs.Database.Creatable
import TunnelKeeper.Proofs.Database.Target

/-!
# Prepared database files

Before the engine reads a connection URL, the file is created that the URL seems to name, and the
two readings are independent of each other. `Prepares` says what the first one does to the files and
`Opens` what the second one does. A file that was created is opened exactly if the engine reads the
URL as the same place (`connects`). Plain names are read alike (`of_url_plain`), but not all URLs are:
the database may be in memory, or in a file whose name is encoded, and then an empty file stays
behind (`created_file_not_opened`).
-/

namespace TunnelKeeper

open Text

namespace Host

open FileTree

/-! ## The file that a URL seems to name -/

/-- Creating a file changes its place at most. -/
theorem touches_create_at (place : List String) (ending : PathEnding) (t : FileTree) :
    Touches place (some (.file [])) t (createAt place ending t) := by
  rcases List.eq_nil_or_concat place with rfl | ⟨above, name, rfl⟩
  · exact .error _ _
  · rw [List.concat_eq_append, create_at_append]
    by_cases hname : isUnspeakable name = true
    · rw [if_pos hname]
      exact .error _ _
    · rw [if_neg hname]
      exact touches_in_directory (fun _ _ _ => .error _ _)
        (touches_put_file ⟨[], name, ending⟩ []) above t

/-- Creating directories leaves all files as they are. -/
theorem content_create_directories (h : Host) (path : String) (way : List String) :
    content? way (h.createDirectories path).2 = content? way h.files := by
  unfold createDirectories
  by_cases hempty : path = ""
  · rw [if_pos hempty]
  · rw [if_neg hempty]
    by_cases hnames : (h.way path).any isUnspeakable = true
    · simp only [if_pos hnames]
    · simp only [if_neg hnames]
      exact content_make_all (FilePath.turns [] (h.way path)) (h.locate path) way h.files

/-- What becomes of a host when the file is prepared that a URL seems to name: nothing if something
is there, no file if it fails, and otherwise an empty file at the place of its path and no other
one. -/
inductive Prepares (h : Host) (url : String) : Except DatabaseFault Unit × Host → Prop
  | found : (∀ path ∈ filePath? url, h.has path = true) → Prepares h url (.ok (), h)
  | failed (fault : DatabaseFault) (files : FileTree) :
      (∀ way, content? way files = content? way h.files) →
      Prepares h url (.error fault, { h with files := files })
  | created (path : String) (files : FileTree) : filePath? url = some path →
      content? (h.locate path) files = some [] →
      (∀ way, way ≠ h.locate path → content? way files = content? way h.files) →
      Prepares h url (.ok (), { h with files := files })

theorem prepares_file {h : Host} {url path : String} (hpath : filePath? url = some path) :
    Prepares h url (h.prepareFile path) := by
  unfold prepareFile
  by_cases hhas : h.has path = true
  · rw [if_pos hhas]
    refine .found fun other hother => ?_
    rw [hpath, Option.mem_some_iff] at hother
    rwa [← hother]
  · rw [if_neg hhas]
    have hopened := content_create_directories h (parentPath path)
    rcases hdirectories : h.createDirectories (parentPath path) with ⟨fault | _, opened⟩
    · rw [hdirectories] at hopened
      exact .failed _ opened hopened
    · rw [hdirectories] at hopened
      have htouches := touches_create_at (h.locate path)
        (FilePath.endingOf (FilePath.pieces path).reverse) opened
      simp only
      rcases hcreated : createAt (h.locate path)
        (FilePath.endingOf (FilePath.pieces path).reverse) opened with ⟨fault | _, files⟩
      · rw [hcreated] at htouches
        exact .failed _ files fun way => (htouches.content_eq rfl way).trans (hopened way)
      · rw [hcreated] at htouches
        have hfile := content_eq_some_iff.mpr (htouches.done rfl).2
        refine .created path files hpath hfile fun way hway => ?_
        exact (content_congr (htouches.others way hway)).trans (hopened way)

theorem prepares (h : Host) (url : String) : Prepares h url (h.prepare url) := by
  unfold prepare
  cases hpath : filePath? url with
  | none => exact .found (by simp [hpath])
  | some path => exact prepares_file hpath

/-! ## The file that the engine opens -/

/-- Whether the engine can open a target and keeps it in the file at a place. -/
structure Reaches (h : Host) (t : Target) (place : List String) : Prop where
  filed : t.isUnfiled = false
  known : ∀ name ∈ t.backend, name ∈ Target.backends
  place_eq : h.locate t.name = place

/-- What becomes of a host when the engine opens a target: it fails, or the target is in no file, or
it is in a file that is there or that is created, empty, if the target says so. -/
inductive Opens (h : Host) (t : Target) : Except ConnectionFault Connection × Host → Prop
  | failed (fault : ConnectionFault) : Opens h t (.error fault, h)
  | unfiled : t.isUnfiled = true → Opens h t (.ok ⟨none, t.isReadOnly⟩, h)
  | found (place : List String) (content : List UInt8) : h.Reaches t place →
      content? place h.files = some content →
      Opens h t (.ok ⟨some place, t.isReadOnly⟩, h)
  | created (place : List String) (files : FileTree) : h.Reaches t place → t.createsFile = true →
      content? place h.files = none → content? place files = some [] →
      (∀ way, way ≠ place → content? way files = content? way h.files) →
      Opens h t (.ok ⟨some place, t.isReadOnly⟩, { h with files := files })

theorem filter_unknown_eq_none_iff {t : Target} :
    (t.backend.filter fun name => name ∉ Target.backends) = none ↔
      ∀ name ∈ t.backend, name ∈ Target.backends := by
  rw [Option.filter_eq_none_iff]
  simp

theorem opens (h : Host) (t : Target) : Opens h t (h.openTarget t) := by
  unfold openTarget
  cases hunknown : t.backend.filter fun name => name ∉ Target.backends with
  | some name => exact .failed _
  | none =>
      have hknown := filter_unknown_eq_none_iff.mp hunknown
      by_cases hunfiled : t.isUnfiled = true
      · simp only [if_pos hunfiled]
        exact .unfiled hunfiled
      · simp only [if_neg hunfiled]
        have hreaches : h.Reaches t (h.locate t.name) :=
          ⟨Bool.eq_false_iff.mpr hunfiled, hknown, rfl⟩
        have htouches := touches_create_at (h.locate t.name) .none h.files
        rcases hfound : h.files.at? (h.locate t.name) with _ | (content | entries)
        · by_cases hcreates : t.createsFile = true ∧ (!t.readOnly) = true
          · simp only [if_pos hcreates]
            rcases hcreated : createAt (h.locate t.name) .none h.files with ⟨fault | _, files⟩
            · exact .failed _
            · rw [hcreated] at htouches
              refine .created _ files hreaches hcreates.1 (by rw [content?, hfound])
                (content_eq_some_iff.mpr (htouches.done rfl).2) fun way hway => ?_
              exact content_congr (htouches.others way hway)
          · simp only [if_neg hcreates]
            exact .failed _
        · exact .found _ content hreaches (by rw [content?, hfound])
        · exact .failed _

/-- A file that is there is opened. -/
theorem open_target_of_content {h : Host} {t : Target} {place : List String} {content : List UInt8}
    (hreaches : h.Reaches t place) (hcontent : content? place h.files = some content) :
    h.openTarget t = (.ok ⟨some place, t.isReadOnly⟩, h) := by
  have hfile : h.files.at? place = some (.file content) := by
    unfold content? at hcontent
    split at hcontent
    · next found hfound =>
        cases hcontent
        exact hfound
    · cases hcontent
  unfold openTarget
  rw [filter_unknown_eq_none_iff.mpr hreaches.known]
  simp only [hreaches.filed, Bool.false_eq_true, if_false, hreaches.place_eq, hfile]

/-- Opening a target takes no file away. -/
theorem content_open_target {h : Host} {place : List String} {content : List UInt8}
    (hcontent : content? place h.files = some content) (t : Target) :
    content? place (h.openTarget t).2.files = some content := by
  have hopens := opens h t
  generalize h.openTarget t = opened at hopens
  cases hopens with
  | failed fault => exact hcontent
  | unfiled hunfiled => exact hcontent
  | found other content hreaches hfound => exact hcontent
  | created other files hreaches hcreates hnone hfile hothers =>
      have hne : place ≠ other := by
        rintro rfl
        rw [hcontent] at hnone
        cases hnone
      rwa [hothers place hne]

/-- A file that is there after a target was opened is the one that was opened exactly if the target
is kept in it. -/
theorem opened_iff_reaches {h : Host} {t : Target} {place : List String} {content : List UInt8}
    (hcontent : content? place (h.openTarget t).2.files = some content) :
    (∃ c, (h.openTarget t).1 = .ok c ∧ c.place = some place) ↔ h.Reaches t place := by
  have hopens := opens h t
  constructor
  · rintro ⟨c, hok, hplace⟩
    generalize h.openTarget t = opened at hopens hok
    cases hopens with
    | failed fault => cases hok
    | unfiled hunfiled =>
        cases hok
        cases hplace
    | found other content hreaches hfound =>
        cases hok
        cases hplace
        exact hreaches
    | created other files hreaches hcreates hnone hfile hothers =>
        cases hok
        cases hplace
        exact hreaches
  · intro hreaches
    generalize hopened : h.openTarget t = opened at hopens hcontent ⊢
    cases hopens with
    | failed fault =>
        -- The file was there before, and then opening it cannot fail.
        rw [open_target_of_content hreaches hcontent] at hopened
        cases hopened
    | unfiled hunfiled =>
        rw [hreaches.filed] at hunfiled
        cases hunfiled
    | found other content hfound hfile =>
        exact ⟨_, rfl, congrArg some (hfound.place_eq.symm.trans hreaches.place_eq)⟩
    | created other files hfound hcreates hnone hfile hothers =>
        exact ⟨_, rfl, congrArg some (hfound.place_eq.symm.trans hreaches.place_eq)⟩

/-- A target that is opened and that is kept at a place is a file there. -/
theorem opened_at_of_reaches {h : Host} {t : Target} {place : List String} {c : Connection}
    (hreaches : h.Reaches t place) (hok : (h.openTarget t).1 = .ok c) :
    ∃ content, content? place (h.openTarget t).2.files = some content := by
  have hopens := opens h t
  generalize h.openTarget t = opened at hopens hok
  cases hopens with
  | failed fault => cases hok
  | unfiled hunfiled =>
      rw [hreaches.filed] at hunfiled
      cases hunfiled
  | found other content hfound hfile =>
      exact ⟨content, by rwa [← hreaches.place_eq, hfound.place_eq]⟩
  | created other files hfound hcreates hnone hfile hothers =>
      exact ⟨[], by rwa [← hreaches.place_eq, hfound.place_eq]⟩

/-- A file that comes with opening a target is empty, and the target asks for it. -/
theorem asked_of_opened {h : Host} {t : Target} {place : List String} {content : List UInt8}
    (hnone : content? place h.files = none)
    (hcontent : content? place (h.openTarget t).2.files = some content) :
    content = [] ∧ h.Reaches t place ∧ t.createsFile = true := by
  have hopens := opens h t
  generalize h.openTarget t = opened at hopens hcontent
  cases hopens with
  | failed fault | unfiled hunfiled | found other content hfound hfile =>
      rw [hnone] at hcontent
      cases hcontent
  | created other files hreaches hcreates hmissing hfile hothers =>
      by_cases hplace : place = other
      · rw [hplace] at hcontent ⊢
        exact ⟨Option.some.inj (hcontent.symm.trans hfile), hreaches, hcreates⟩
      · rw [hothers place hplace, hnone] at hcontent
        cases hcontent

/-! ## Connections -/

variable {h h' : Host} {url : String} {t : Target} {place : List String}

/-- Connecting to the database of a URL creates a file at a place. -/
def Creates (h : Host) (url : String) (place : List String) : Prop :=
  content? place h.files = none ∧ ∃ content, content? place (h.connect url).2.files = some content

/-- Connecting to the database of a URL opens the file at a place. -/
def ConnectsTo (h : Host) (url : String) (place : List String) : Prop :=
  ∃ c, (h.connect url).1 = .ok c ∧ c.place = some place

theorem connect_of_failed {fault : DatabaseFault} (hprepare : h.prepare url = (.error fault, h')) :
    h.connect url = (.error fault, h') := by
  unfold connect
  rw [hprepare]

theorem connect_of_unread {fault : ConnectionFault} (hprepare : h.prepare url = (.ok (), h'))
    (hurl : Target.ofUrl url = .error fault) :
    h.connect url = (.error (.connection fault), h') := by
  unfold connect
  rw [hprepare]
  simp only [hurl]

theorem connect_of_read (hprepare : h.prepare url = (.ok (), h'))
    (hurl : Target.ofUrl url = .ok t) :
    h.connect url = ((h'.openTarget t).1.mapError .connection, (h'.openTarget t).2) := by
  unfold connect
  rw [hprepare]
  simp only [hurl]

theorem connect_eq_ok_iff (hprepare : h.prepare url = (.ok (), h'))
    (hurl : Target.ofUrl url = .ok t) (c : Connection) :
    (h.connect url).1 = .ok c ↔ (h'.openTarget t).1 = .ok c := by
  rw [connect_of_read hprepare hurl]
  cases (h'.openTarget t).1 with
  | error fault => exact ⟨nofun, nofun⟩
  | ok opened => simp [Except.mapError]

/-- Where paths lead is not changed when a file is prepared. -/
theorem reaches_prepared_iff (hprepare : h.prepare url = (.ok (), h')) :
    h'.Reaches t place ↔ h.Reaches t place := by
  have hprepares := prepares h url
  rw [hprepare] at hprepares
  cases hprepares with
  | found hfound => exact Iff.rfl
  | created path files hpath hfile hothers =>
      exact ⟨fun r => ⟨r.filed, r.known, r.place_eq⟩, fun r => ⟨r.filed, r.known, r.place_eq⟩⟩

/-- No file is created when preparing fails. -/
theorem prepared_of_creates (hcreates : h.Creates url place) :
    ∃ h', h.prepare url = (.ok (), h') := by
  obtain ⟨hnone, content, hcontent⟩ := hcreates
  have hprepares := prepares h url
  rcases hprepare : h.prepare url with ⟨fault | _, h'⟩
  · rw [connect_of_failed hprepare] at hcontent
    rw [hprepare] at hprepares
    cases hprepares with
    | failed _ files hsame =>
        rw [hsame, hnone] at hcontent
        cases hcontent
  · exact ⟨h', rfl⟩

/-- A file that was prepared is there after connecting, whatever is opened. -/
theorem content_connect {content : List UInt8} (hprepare : h.prepare url = (.ok (), h'))
    (hcontent : content? place h'.files = some content) :
    content? place (h.connect url).2.files = some content := by
  cases hurl : Target.ofUrl url with
  | error fault => rwa [connect_of_unread hprepare hurl]
  | ok t =>
      rw [connect_of_read hprepare hurl]
      exact content_open_target hcontent t

/-- A file that is created is opened exactly if the engine reads the URL as its place. -/
theorem connects_to_iff (hcreates : h.Creates url place) :
    h.ConnectsTo url place ↔ ∃ t, Target.ofUrl url = .ok t ∧ h.Reaches t place := by
  obtain ⟨h', hprepare⟩ := prepared_of_creates hcreates
  obtain ⟨hnone, content, hcontent⟩ := hcreates
  cases hurl : Target.ofUrl url with
  | error fault =>
      rw [ConnectsTo, connect_of_unread hprepare hurl]
      exact ⟨nofun, nofun⟩
  | ok t =>
      rw [connect_of_read hprepare hurl] at hcontent
      simp only [ConnectsTo, connect_eq_ok_iff hprepare hurl, opened_iff_reaches hcontent,
        reaches_prepared_iff hprepare, Except.ok.injEq, exists_eq_left']

/-- A missing file that the engine reads a URL as is opened exactly if it is created. -/
theorem connects_iff_creates (hurl : Target.ofUrl url = .ok t) (hreaches : h.Reaches t place)
    (hnone : content? place h.files = none) :
    (∃ c, (h.connect url).1 = .ok c) ↔ h.Creates url place := by
  constructor
  · rintro ⟨c, hok⟩
    rcases hprepare : h.prepare url with ⟨fault | _, h'⟩
    · rw [connect_of_failed hprepare] at hok
      cases hok
    · rw [connect_eq_ok_iff hprepare hurl] at hok
      refine ⟨hnone, ?_⟩
      rw [connect_of_read hprepare hurl]
      exact opened_at_of_reaches ((reaches_prepared_iff hprepare).mpr hreaches) hok
  · intro hcreates
    obtain ⟨c, hok, -⟩ := (connects_to_iff hcreates).mpr ⟨t, hurl, hreaches⟩
    exact ⟨c, hok⟩

/-- Whose file a created one is. -/
inductive Origin (h : Host) (url : String) (place : List String) : Prop
  | prepared (path : String) : filePath? url = some path → h.locate path = place → Origin h url place
  | asked (t : Target) : Target.ofUrl url = .ok t → h.Reaches t place → t.createsFile = true →
      Origin h url place

/-- A file that is created is empty, and either the URL seems to name it or the engine is asked to
create it. -/
theorem origin_of_creates (hcreates : h.Creates url place) :
    content? place (h.connect url).2.files = some [] ∧ h.Origin url place := by
  obtain ⟨h', hprepare⟩ := prepared_of_creates hcreates
  obtain ⟨hnone, content, hcontent⟩ := hcreates
  cases hbefore : content? place h'.files with
  | some found =>
      -- The file was prepared.
      have hprepares := prepares h url
      rw [hprepare] at hprepares
      cases hprepares with
      | found hfound =>
          rw [hnone] at hbefore
          cases hbefore
      | created path files hpath hfile hothers =>
          by_cases hplace : place = h.locate path
          · rw [hplace]
            exact ⟨content_connect hprepare hfile, .prepared path hpath rfl⟩
          · rw [hothers place hplace, hnone] at hbefore
            cases hbefore
  | none =>
      cases hurl : Target.ofUrl url with
      | error fault =>
          rw [connect_of_unread hprepare hurl, hbefore] at hcontent
          cases hcontent
      | ok t =>
          rw [connect_of_read hprepare hurl] at hcontent ⊢
          obtain ⟨rfl, hreaches, hcreates⟩ := asked_of_opened hbefore hcontent
          exact ⟨hcontent, .asked t hurl ((reaches_prepared_iff hprepare).mp hreaches) hcreates⟩

/-- Where nothing is, there is nothing at the end of the path. -/
theorem has_eq_false_of_item_none {path : String} (h : Host)
    (hnone : item? (h.locate path) h.files = none) : h.has path = false := by
  unfold has Host.read
  by_cases hempty : path = ""
  · rw [if_pos hempty]
    rfl
  · rw [if_neg hempty]
    by_cases hnames : (h.way path).any isUnspeakable = true
    · simp only [if_pos hnames]
      rfl
    · simp only [if_neg hnames]
      cases hleft : (FilePath.turns [] (h.way path)).findSome? fun place =>
          h.files.leaveFault? place with
      | some fault =>
          obtain ⟨place, -, hfault⟩ := List.exists_of_findSome?_eq_some hleft
          simp only [leave_fault_ne hfault, decide_false]
      | none =>
          obtain ⟨fault, hread, hfault⟩ :=
            read_of_item_none (FilePath.endingOf (FilePath.pieces path).reverse) hnone
          simp only [hread, hfault, decide_false]

/-- The missing file that a URL seems to name is created if it can be, whatever the engine reads. -/
theorem creates_of_missing {path : String} (hpath : filePath? url = some path)
    (hnone : item? (h.locate path) h.files = none) (hok : (h.prepare url).1 = .ok ()) :
    h.Creates url (h.locate path) := by
  have hmissing : content? (h.locate path) h.files = none := by
    apply Option.eq_none_iff_forall_ne_some.mpr
    intro content hcontent
    rw [content_eq_some_iff, hnone] at hcontent
    cases hcontent
  rcases hprepare : h.prepare url with ⟨r, h'⟩
  rw [hprepare] at hok
  cases hok
  have hprepares := prepares h url
  rw [hprepare] at hprepares
  cases hprepares with
  | found hfound =>
      have hhas := hfound path hpath
      rw [has_eq_false_of_item_none h hnone] at hhas
      cases hhas
  | created other files hother hfile hothers =>
      cases hother.symm.trans hpath
      exact ⟨hmissing, [], content_connect hprepare hfile⟩

/-- Preparing the file that a URL seems to name succeeds if it can be created. -/
theorem prepared_of_creatable {path : String} (hpath : filePath? url = some path)
    (hcan : h.Creatable path) :
    item? (h.locate path) h.files = none ∧ (h.prepare url).1 = .ok () := by
  constructor
  · rw [hcan.locate_eq]
    exact hcan.missing
  · unfold prepare
    rw [hpath]
    exact prepare_file_of_creatable hcan

/-- A plain name that can be created is created and opened, if the target of its URL is kept in a
file. -/
theorem connects_plain {name query : String} (hname : PlainName name) (hquery : IsQuery query)
    (hurl : Target.ofUrl ("sqlite://" ++ name ++ query) = .ok t) (hfiled : t.isUnfiled = false)
    (hknown : ∀ backend ∈ t.backend, backend ∈ Target.backends) (hcan : h.Creatable name) :
    h.Creates ("sqlite://" ++ name ++ query) (h.locate name) ∧
      h.ConnectsTo ("sqlite://" ++ name ++ query) (h.locate name) := by
  have hpath := hname.file_path hquery
  obtain ⟨hnone, hok⟩ := prepared_of_creatable hpath hcan
  have hcreates := creates_of_missing hpath hnone hok
  have hplace := congrArg h.locate (Target.of_url_plain hname hquery hurl)
  exact ⟨hcreates, (connects_to_iff hcreates).mpr ⟨t, hurl, hfiled, hknown, hplace⟩⟩

/-- A name that begins with a slash is the one of a file. -/
theorem is_unfiled_of_absolute {name : String} (hslash : name.toList.head? = some '/') :
    (Target.ofName name).isUnfiled = false := by
  have hne : name ≠ "" := by
    rintro rfl
    cases hslash
  have hmemory : name ≠ Target.memoryName := by
    rintro rfl
    exact absurd hslash (by decide)
  simp [Target.isUnfiled, Target.ofName, hmemory, hne]

/-- What connecting to the database of a URL does to the files, and which file it opens. -/
structure Connects (h : Host) (url : String) : Prop where
  /-- A file that is created is empty, and it is one that the URL seems to name or one that the
  engine is asked to create. -/
  created : ∀ place, h.Creates url place →
    content? place (h.connect url).2.files = some [] ∧ h.Origin url place
  /-- A file that is created is the one that is opened exactly if the engine reads the URL as it. -/
  opened : ∀ place, h.Creates url place →
    (h.ConnectsTo url place ↔ ∃ t, Target.ofUrl url = .ok t ∧ h.Reaches t place)
  /-- Beside a database that is in no file, a file is created only if the URL seems to name it, and
  it is not opened. -/
  unfiled : ∀ t place, Target.ofUrl url = .ok t → t.isUnfiled = true → h.Creates url place →
    (∃ path, filePath? url = some path ∧ h.locate path = place) ∧ ¬ h.ConnectsTo url place
  /-- The file that the URL seems to name is created if it is missing and preparing it succeeds,
  whether the engine reads the URL as it or not. -/
  prepared : ∀ path, filePath? url = some path → item? (h.locate path) h.files = none →
    (h.prepare url).1 = .ok () → h.Creates url (h.locate path)
  /-- Preparing a missing file succeeds if it can be created together with its directory. -/
  creatable : ∀ path, filePath? url = some path → h.Creatable path →
    item? (h.locate path) h.files = none ∧ (h.prepare url).1 = .ok ()
  /-- If the engine reads the URL as a missing file, it connects exactly if that one is created. -/
  missing : ∀ t place, Target.ofUrl url = .ok t → h.Reaches t place →
    content? place h.files = none → ((∃ c, (h.connect url).1 = .ok c) ↔ h.Creates url place)
  /-- Both readings find the same name in a plain URL. If its target is kept in a file that can be
  created, then this file is created and opened. -/
  plain : ∀ name query t, url = "sqlite://" ++ name ++ query → PlainName name → IsQuery query →
    Target.ofUrl url = .ok t → filePath? url = some name ∧ t.name = name ∧
      (t.isUnfiled = false → (∀ backend ∈ t.backend, backend ∈ Target.backends) →
        h.Creatable name → h.Creates url (h.locate name) ∧ h.ConnectsTo url (h.locate name))
  /-- The file of a plain name that begins with a slash is created and opened if it can be
  created. -/
  absolute : ∀ name, url = "sqlite://" ++ name → PlainName name → name.toList.head? = some '/' →
    h.Creatable name → h.Creates url (h.locate name) ∧ h.ConnectsTo url (h.locate name)

/-- A file that is created is opened exactly if both readings of the URL agree, and they agree on
plain names. -/
theorem connects (h : Host) (url : String) : h.Connects url where
  created place hcreates := origin_of_creates hcreates
  opened place hcreates := connects_to_iff hcreates
  unfiled t place hurl hunfiled hcreates := by
    have hunreached : ¬ ∃ t, Target.ofUrl url = .ok t ∧ h.Reaches t place := by
      rintro ⟨other, hother, hreaches⟩
      cases hother.symm.trans hurl
      exact absurd hunfiled (by simp [hreaches.filed])
    refine ⟨?_, fun hopened => hunreached ((connects_to_iff hcreates).mp hopened)⟩
    cases (origin_of_creates hcreates).2 with
    | prepared path hpath hplace => exact ⟨path, hpath, hplace⟩
    | asked other hother hreaches hasked => exact absurd ⟨other, hother, hreaches⟩ hunreached
  prepared path hpath hnone hok := creates_of_missing hpath hnone hok
  creatable path hpath hcan := prepared_of_creatable hpath hcan
  missing t place hurl hreaches hnone := connects_iff_creates hurl hreaches hnone
  plain name query t hurl hname hquery hread := by
    subst hurl
    exact ⟨hname.file_path hquery, Target.of_url_plain hname hquery hread,
      fun hfiled hknown hcan => connects_plain hname hquery hread hfiled hknown hcan⟩
  absolute name hurl hname hslash hcan := by
    have hread : Target.ofUrl ("sqlite://" ++ name ++ "") = .ok (Target.ofName name) := by
      rw [String.append_empty, Target.of_url_absolute hname hslash]
    have hboth := connects_plain hname (.inl rfl) hread (is_unfiled_of_absolute hslash) nofun hcan
    rwa [String.append_empty, ← hurl] at hboth

/-- A host without files. -/
def bare : Host := ⟨.empty, [], []⟩

example : (bare.connect "sqlite:///var/peers.db?mode=rw").1.toOption =
    some ⟨some ["var", "peers.db"], false⟩ := by decide +kernel

/-- A file may stay behind that is not opened: the database is in memory, or in a file whose name
is encoded in the URL, and then that one is missing. -/
theorem created_file_not_opened :
    bare.Creates "sqlite:///peers.db?mode=memory" ["peers.db"] ∧
    (bare.connect "sqlite:///peers.db?mode=memory").1.toOption = some ⟨none, false⟩ ∧
    bare.Creates "sqlite:///my%20peers.db" ["my%20peers.db"] ∧
    (bare.connect "sqlite:///my%20peers.db").1.toOption = none := by
  refine ⟨⟨?_, [], ?_⟩, ?_, ⟨?_, [], ?_⟩, ?_⟩ <;> decide +kernel

end Host

end TunnelKeeper
