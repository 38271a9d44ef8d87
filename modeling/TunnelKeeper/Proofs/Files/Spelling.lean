import Mathlib.Logic.Relation
import TunnelKeeper.Proofs.Files.Confined

/-!
# Spellings of a path

A path may be spelled in many ways: slashes can be repeated, and single points can stand between
slashes. `Respelled` says when two texts differ in nothing else. Such texts lead to the same file,
whatever is appended to both (`names_append_of_respelled`), and every path that begins with a name
is a spelling of its names with one slash between them (`respelled_way`).
-/

namespace TunnelKeeper.FilePath

open Text

/-! ## Names of a path in two parts -/

theorem pieces_slash (s t : String) : pieces (s ++ "/" ++ t) = pieces s ++ pieces t := by
  have hchars : (s ++ "/" ++ t).toList = s.toList ++ '/' :: t.toList := by simp
  rw [pieces, hchars, split_on_append_sep, List.map_append]
  rfl

theorem names_slash (s t : String) : names (s ++ "/" ++ t) = names s ++ names t := by
  rw [names, pieces_slash, List.filter_append]
  rfl

/-- A text without slashes is one piece. -/
theorem pieces_of_no_slash {s : String} (h : '/' ∉ s.toList) : pieces s = [s] := by
  rw [pieces, split_on_eq_singleton h, List.map_singleton, String.ofList_toList]

/-- A text without slashes is a name, unless it is empty or a single point. -/
theorem names_of_no_slash {s : String} (h : '/' ∉ s.toList) :
    names s = if s = "" ∨ s = "." then [] else [s] := by
  rw [names, pieces_of_no_slash h]
  by_cases hnone : s = "" ∨ s = "."
  · rcases hnone with rfl | rfl <;> rfl
  · rw [if_neg hnone]
    rw [not_or] at hnone
    exact List.filter_cons_of_pos (decide_eq_true hnone)

/-- A text has no slash, or its last slash stands before its last part. -/
theorem exists_last_slash (s : String) : '/' ∉ s.toList ∨
    ∃ above last : String, s = above ++ "/" ++ last ∧ '/' ∉ last.toList := by
  cases hcut : splitLast '/' s.toList with
  | none => exact .inl (split_last_eq_none_iff.mp hcut)
  | some cut =>
      obtain ⟨hchars, hlast⟩ := split_last_eq_some_iff.mp hcut
      refine .inr ⟨.ofList cut.1, .ofList cut.2, String.toList_injective ?_, ?_⟩
      · simp [hchars]
      · rwa [String.toList_ofList]

/-! ## Spellings -/

/-- A slash beside another one is left out, or a single point together with one of the slashes
around it. -/
inductive Shortened : String → String → Prop
  | slash (s t : String) : Shortened (s ++ "//" ++ t) (s ++ "/" ++ t)
  | point (s t : String) : Shortened (s ++ "/./" ++ t) (s ++ "/" ++ t)

/-- Two texts that differ in repeated slashes and in single points between slashes, and in nothing
else. -/
def Respelled : String → String → Prop := Relation.EqvGen Shortened

theorem double_slash (s t : String) : s ++ "/" ++ "" ++ "/" ++ t = s ++ "//" ++ t := by
  apply String.toList_injective
  simp

theorem slash_point_slash (s t : String) : s ++ "/" ++ "." ++ "/" ++ t = s ++ "/./" ++ t := by
  apply String.toList_injective
  simp

/-- What is left out means nothing, whatever follows. -/
theorem names_append_of_respelled {s t : String} (h : Respelled s t) (ending : String) :
    names (s ++ ending) = names (t ++ ending) := by
  induction h with
  | rel s t h =>
      cases h with
      | slash s t =>
          have hshort : s ++ "/" ++ t ++ ending = s ++ "/" ++ (t ++ ending) := String.append_assoc
          rw [String.append_assoc, ← double_slash, hshort, names_slash, names_slash, names_slash]
          exact congrArg (· ++ names (t ++ ending)) (List.append_nil (names s))
      | point s t =>
          have hshort : s ++ "/" ++ t ++ ending = s ++ "/" ++ (t ++ ending) := String.append_assoc
          rw [String.append_assoc, ← slash_point_slash, hshort, names_slash, names_slash, names_slash]
          exact congrArg (· ++ names (t ++ ending)) (List.append_nil (names s))
  | refl s => rfl
  | symm s t _ ih => exact ih.symm
  | trans s t u _ _ ih ih' => exact ih.trans ih'

/-- The path through some directories to a last part. -/
def way (above : List String) (last : String) : String :=
  above.foldr (fun name rest => name ++ "/" ++ rest) last

theorem way_concat (above : List String) (name last : String) :
    way (above ++ [name]) last = way above (name ++ "/" ++ last) := by
  rw [way, List.foldr_append]
  rfl

/-- A text whose first piece is a name. -/
def BeginsWithName (s : String) : Prop :=
  (pieces s).head? ≠ some "" ∧ (pieces s).head? ≠ some "."

theorem BeginsWithName.of_slash {s t : String} (h : BeginsWithName (s ++ "/" ++ t)) :
    BeginsWithName s := by
  obtain ⟨first, rest, hpieces⟩ : ∃ first rest, pieces s = first :: rest :=
    List.exists_cons_of_ne_nil fun hnil =>
      split_on_ne_nil '/' s.toList (List.map_eq_nil_iff.mp hnil)
  rw [BeginsWithName, pieces_slash, hpieces] at h
  rw [BeginsWithName, hpieces]
  exact h

/-- A path that keeps to its directory begins with a name. -/
theorem begins_with_name {s : String} (h : ¬ Strays s) : BeginsWithName s := by
  have hplain := is_plain_iff.mpr h
  unfold isPlain at hplain
  obtain ⟨hempty, hpoint, -⟩ := of_decide_eq_true hplain
  exact ⟨hempty, hpoint⟩

/-- A path is a spelling of the names above its last part, with one slash behind each. -/
theorem respelled_way (above last : String) (h : BeginsWithName above) :
    Respelled (above ++ "/" ++ last) (way (names above) last) := by
  induction hlength : above.length using Nat.strongRecOn generalizing above last with
  | ind n ih =>
      rcases exists_last_slash above with hslash | ⟨front, name, rfl, hslash⟩
      · have hname : ¬ (above = "" ∨ above = ".") := by
          rw [BeginsWithName, pieces_of_no_slash hslash] at h
          rintro (rfl | rfl)
          · exact h.1 rfl
          · exact h.2 rfl
        rw [names_of_no_slash hslash, if_neg hname]
        exact .refl _
      · have hshorter : front.length < n := by
          rw [← hlength, String.length_append, String.length_append]
          exact Nat.lt_of_lt_of_le (Nat.lt_succ_self _) (Nat.le_add_right _ _)
        have hway := fun last => ih front.length hshorter front last h.of_slash rfl
        rw [names_slash, names_of_no_slash hslash]
        split
        · -- The last piece means nothing and is left out.
          next hnone =>
            rw [List.append_nil]
            refine .trans _ _ _ (.rel _ _ ?_) (hway last)
            rcases hnone with rfl | rfl
            · rw [double_slash]
              exact .slash front last
            · rw [slash_point_slash]
              exact .point front last
        · have hinner : front ++ "/" ++ name ++ "/" ++ last = front ++ "/" ++ (name ++ "/" ++ last) := by
            apply String.toList_injective
            simp
          rw [way_concat, hinner]
          exact hway (name ++ "/" ++ last)

end TunnelKeeper.FilePath
