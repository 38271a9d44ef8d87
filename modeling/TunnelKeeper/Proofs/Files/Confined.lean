import Mathlib.Tactic.ByContra
import TunnelKeeper.Proofs.Files.Storage
import TunnelKeeper.Proofs.Text.Lines

/-!
# Storages that keep to their directory

A call on the storage below a directory changes one place of the tree at most, which is below the
directory and is named by the path; beside that, a write creates directories on the way there
(`FileCall.confined`). Paths that might lead elsewhere are refused, and these are all that cannot be
read (`FilePath.parse_eq_none_iff`). `confined_after` says what follows for any number of calls.
-/

namespace TunnelKeeper

open Text

/-! ## Paths that might lead elsewhere -/

namespace FilePath

/-- A text that is empty or begins with a slash, or that has a single point as its first piece, or
two points as any piece. -/
def Strays (text : String) : Prop :=
  text = "" ∨ text.toList.head? = some '/' ∨ (pieces text).head? = some "." ∨ ".." ∈ pieces text

/-- The first piece of a text is empty if nothing comes before the first slash. -/
theorem head_pieces_eq_empty_iff {text : String} :
    (pieces text).head? = some "" ↔ text = "" ∨ text.toList.head? = some '/' := by
  rw [← String.toList_eq_nil_iff]
  unfold pieces
  cases text.toList with
  | nil => simp [splitOn]
  | cons c cs =>
      unfold splitOn
      by_cases hslash : c = '/'
      · simp [hslash]
      · rw [if_neg hslash]
        cases splitOn '/' cs with
        | nil => simp [hslash, ← String.toList_eq_nil_iff]
        | cons piece rest => simp [hslash, ← String.toList_eq_nil_iff]

theorem is_plain_iff {text : String} : isPlain text = true ↔ ¬ Strays text := by
  unfold isPlain Strays
  rw [decide_eq_true_iff, ← or_assoc, ← head_pieces_eq_empty_iff]
  simp only [not_or, ne_eq]

/-- A text that keeps to its directory has a name. -/
theorem names_ne_nil {text : String} (h : ¬ Strays text) : names text ≠ [] := by
  have hfirst : ∃ first rest, pieces text = first :: rest := by
    refine List.exists_cons_of_ne_nil fun hnil => split_on_ne_nil '/' text.toList ?_
    exact List.map_eq_nil_iff.mp hnil
  obtain ⟨first, rest, hpieces⟩ := hfirst
  have hplain := is_plain_iff.mpr h
  unfold isPlain at hplain
  simp only [hpieces, List.head?_cons, decide_eq_true_iff] at hplain
  obtain ⟨hempty, hpoint, -⟩ := hplain
  refine List.ne_nil_of_mem (a := first) (List.mem_filter.mpr ⟨?_, ?_⟩)
  · rw [hpieces]
    exact List.mem_cons_self
  · rw [decide_eq_true_iff]
    exact ⟨fun heq => hempty (congrArg some heq), fun heq => hpoint (congrArg some heq)⟩

/-- The texts that cannot be read as paths are those that might lead elsewhere. -/
theorem parse_eq_none_iff {text : String} : parse? text = none ↔ Strays text := by
  unfold parse?
  by_cases hstrays : Strays text
  · rw [if_neg fun hplain => is_plain_iff.mp hplain hstrays]
    simp [hstrays]
  · rw [if_pos (is_plain_iff.mpr hstrays)]
    cases hnames : (names text).reverse with
    | nil => exact absurd (List.reverse_eq_nil_iff.mp hnames) (names_ne_nil hstrays)
    | cons name above => simp [hstrays]

end FilePath

/-! ## One call -/

/-- A call on a storage. -/
inductive FileCall
  | write (path : String) (content : List UInt8)
  | delete (path : String)

namespace FileCall

open FileTree FilePath

/-- The path that a call is given. -/
def path : FileCall → String
  | write path _ => path
  | delete path => path

/-- What a call wants to stand at its path. -/
def wanted : FileCall → Option Item
  | write _ content => some (.file content)
  | delete _ => none

/-- Makes a call on the storage below a directory. -/
def run (base : List String) : FileCall → FileTree → Except Error Unit × FileTree
  | write path content => (Storage.below base).write path content
  | delete path => (Storage.below base).delete path

/-- What a call does at a path that can be read. -/
def operation (base : List String) : FileCall → FilePath → FileTree → FileTree.Outcome
  | write _ content => fun p => FileTree.write base p content
  | delete _ => FileTree.delete base

/-- A call does what it does at its path. -/
theorem run_eq (base : List String) (c : FileCall) (t : FileTree) :
    c.run base t = Storage.atPath c.path (c.operation base) t := by
  cases c with
  | write path content => rfl
  | delete path => rfl

/-- The place that a call is about. -/
def target (base : List String) (c : FileCall) : List String := base ++ names c.path

/-- A directory is created by a write, on the way to its file. -/
def Opens (base : List String) (c : FileCall) (way : List String) (t t' : FileTree) : Prop :=
  (∃ path content, c = write path content) ∧ item? way t = none ∧
    item? way t' = some .directory ∧ way <+: target base c

/-- What a call on the storage below a directory does to the whole tree, and what it leaves. -/
structure Confined (base : List String) (c : FileCall) (t : FileTree) : Prop where
  /-- A path that might lead elsewhere is refused, and no other one. -/
  refused : (c.run base t).1 = .error (.precondition (.plainPath c.path)) ↔ Strays c.path
  /-- Then nothing happens. -/
  untouched : Strays c.path → (c.run base t).2 = t
  /-- Otherwise the call is about a place below the directory. -/
  named : ¬ Strays c.path → names c.path ≠ []
  /-- Outside of the directory nothing happens, but the directory and those above it are created if
  they are missing. -/
  outside : ∀ way, ¬ base <+: way → item? way (c.run base t).2 = item? way t ∨
    (Opens base c way t (c.run base t).2 ∧ way <+: base)
  /-- In the directory as well, a call is about one place. -/
  others : ∀ way, way ≠ c.target base → item? way (c.run base t).2 = item? way t ∨
    Opens base c way t (c.run base t).2
  /-- A call that succeeds has what it wants. No directory was there. -/
  done : (c.run base t).1 = .ok () → item? (c.target base) t ≠ some .directory ∧
    item? (c.target base) (c.run base t).2 = c.wanted
  /-- A call that fails leaves the place as it is. -/
  failed : ∀ e, (c.run base t).1 = .error e →
    item? (c.target base) (c.run base t).2 = item? (c.target base) t

/-- A call on a path that might lead elsewhere. -/
theorem confined_of_strays {base : List String} {c : FileCall} (hstrays : Strays c.path)
    (t : FileTree) : Confined base c t := by
  have hrun : c.run base t = (.error (.precondition (.plainPath c.path)), t) := by
    rw [run_eq]
    exact Storage.at_path_of_none (parse_eq_none_iff.mpr hstrays) t
  exact {
    refused := ⟨fun _ => hstrays, fun _ => congrArg Prod.fst hrun⟩
    untouched := fun _ => congrArg Prod.snd hrun
    named := fun hplain => absurd hstrays hplain
    outside := fun way _ => .inl (by rw [hrun])
    others := fun way _ => .inl (by rw [hrun])
    done := fun hok => by
      rw [hrun] at hok
      cases hok
    failed := fun e _ => by rw [hrun] }

/-- A call that opens the way to its place, if at all, and then touches that place. -/
theorem confined_of_touches {base : List String} {c : FileCall} {t opened : FileTree}
    {o : FileTree.Outcome} (hplain : ¬ Strays c.path)
    (hopened : ∀ way, item? way opened = item? way t ∨
      (Opens base c way t opened ∧ way ≠ c.target base))
    (htouches : Touches (c.target base) c.wanted opened o)
    (hrun : c.run base t = (o.1.mapError .file, o.2)) : Confined base c t := by
  have hothers : ∀ way, way ≠ c.target base →
      item? way o.2 = item? way t ∨ Opens base c way t o.2 := by
    intro way hne
    unfold Opens
    rw [htouches.others way hne]
    exact (hopened way).imp id And.left
  have hplace : item? (c.target base) opened = item? (c.target base) t :=
    (hopened _).resolve_right fun h => h.2 rfl
  have hbelow : base <+: c.target base := List.prefix_append _ _
  refine {
    refused := ⟨fun hrefused => ?_, fun hstrays => absurd hstrays hplain⟩
    untouched := fun hstrays => absurd hstrays hplain
    named := fun _ => names_ne_nil hplain
    outside := fun way hway => ?_
    others := ?_
    done := fun hok => ?_
    failed := fun e herror => ?_ }
  · rw [hrun] at hrefused
    cases hresult : o.1 with
    | error fault =>
        rw [hresult] at hrefused
        cases hrefused
    | ok _ =>
        rw [hresult] at hrefused
        cases hrefused
  · rw [hrun]
    have hne : way ≠ c.target base := fun heq => hway (heq ▸ hbelow)
    refine (hothers way hne).imp id fun hopens => ⟨hopens, ?_⟩
    obtain ⟨-, -, -, hprefix⟩ := hopens
    exact (List.prefix_or_prefix_of_prefix hprefix hbelow).resolve_right hway
  · rw [hrun]
    exact hothers
  · rw [hrun] at hok ⊢
    cases hresult : o.1 with
    | error fault =>
        rw [hresult] at hok
        cases hok
    | ok _ => exact hplace ▸ htouches.done hresult
  · rw [hrun] at herror ⊢
    cases hresult : o.1 with
    | error fault => exact (htouches.failed fault hresult).trans hplace
    | ok _ =>
        rw [hresult] at herror
        cases herror

/-- Every call on the storage below a directory keeps to the directory. -/
theorem confined (base : List String) (c : FileCall) (t : FileTree) : Confined base c t := by
  by_cases hstrays : Strays c.path
  · exact confined_of_strays hstrays t
  obtain ⟨p, hparse⟩ := Option.ne_none_iff_exists'.mp fun h => hstrays (parse_eq_none_iff.mp h)
  have htarget : c.target base = base ++ p.parents ++ [p.name] := by
    unfold target
    rw [names_of_parse hparse, List.append_assoc]
  have hrun := (run_eq base c t).trans (Storage.at_path_of_parse hparse t)
  cases c with
  | write path content =>
      obtain ⟨opened, hopened, htouches⟩ := touches_write base p content t
      rw [← htarget] at htouches
      refine confined_of_touches hstrays (fun way => ?_) htouches hrun
      refine (hopened way).imp id fun ⟨hnone, hdirectory, hway⟩ => ?_
      refine ⟨⟨⟨path, content, rfl⟩, hnone, hdirectory, ?_⟩, ?_⟩
      · rw [htarget]
        exact hway.trans (List.prefix_append _ _)
      · rintro rfl
        rw [htarget] at hway
        have hlength := hway.length_le
        rw [List.length_append, List.length_singleton] at hlength
        omega
  | delete path =>
      have htouches := touches_delete base p t
      rw [← htarget] at htouches
      exact confined_of_touches hstrays (fun way => .inl rfl) htouches hrun

/-! ## Any number of calls -/

/-- The tree that some calls, one after the other, leave behind. -/
def after (base : List String) (calls : List FileCall) (t : FileTree) : FileTree :=
  calls.foldl (fun t c => (c.run base t).2) t

/-- A call that changes a file names its place and succeeds. -/
theorem Confined.content_eq {base : List String} {c : FileCall} {t : FileTree}
    (h : Confined base c t) {way : List String}
    (hchanged : content? way (c.run base t).2 ≠ content? way t) :
    way = c.target base ∧ (c.run base t).1 = .ok () := by
  have hplace : way = c.target base := by
    by_contra hne
    rcases h.others way hne with hsame | ⟨-, hnone, hdirectory, hway⟩
    · exact hchanged (content_congr hsame)
    · exact hchanged (Opened.content_eq (.inr ⟨hnone, hdirectory, hway⟩))
  refine ⟨hplace, ?_⟩
  cases hresult : (c.run base t).1 with
  | error e => exact absurd (content_congr (hplace ▸ h.failed e hresult)) hchanged
  | ok _ => rfl

/-- Any number of calls on the storage below a directory keep to the directory. Each of them touches
no more than its place and the way to it. Outside of the directory everything stays as it was, but
for the directory itself and those above it, which are created if they are missing. Where a file has
come, gone or changed, a call that succeeded names its place. -/
theorem confined_after (base : List String) (calls : List FileCall) (t : FileTree) :
    (∀ earlier c later, calls = earlier ++ c :: later → Confined base c (after base earlier t)) ∧
      (∀ way, ¬ base <+: way → Opened base way t (after base calls t)) ∧
      ∀ way, content? way (after base calls t) ≠ content? way t →
        ∃ earlier c later, calls = earlier ++ c :: later ∧ way = c.target base ∧
          (c.run base (after base earlier t)).1 = .ok () := by
  refine ⟨fun earlier c later _ => confined base c _, fun way hway => ?_, fun way hchanged => ?_⟩
  · induction calls generalizing t with
    | nil => exact .inl rfl
    | cons c calls ih =>
        refine Opened.trans ?_ (ih (c.run base t).2)
        exact ((confined base c t).outside way hway).imp id fun ⟨⟨_, hnone, hdirectory, _⟩, habove⟩ =>
          ⟨hnone, hdirectory, habove⟩
  · induction calls generalizing t with
    | nil => exact absurd rfl hchanged
    | cons c calls ih =>
        -- The first call changed the file, or a later one did.
        by_cases hfirst : content? way (c.run base t).2 = content? way t
        · rw [← hfirst] at hchanged
          obtain ⟨earlier, later, rest, hcalls, hlater⟩ := ih (c.run base t).2 hchanged
          exact ⟨c :: earlier, later, rest, congrArg (c :: ·) hcalls, hlater⟩
        · exact ⟨[], c, calls, rfl, (confined base c t).content_eq hfirst⟩

end FileCall

end TunnelKeeper
