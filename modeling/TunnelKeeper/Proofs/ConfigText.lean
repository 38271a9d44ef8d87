import TunnelKeeper.ConfigText
import TunnelKeeper.Peer
import TunnelKeeper.Proofs.Text.Lines

/-!
# What a name adds to a configuration

Stripping a configuration keeps the lines that mean something (`content_lines_stripped`). A name is
put above a configuration as one comment line, but only its first line becomes one: the lines of the
name behind a line feed stand for themselves (`strayLines`), and those that are no comments come
before the lines of the configuration (`content_lines_name_line_append`).
-/

namespace TunnelKeeper.ConfigText

open Text

/-- The lines of a text, as far as they mean something, before the lines of another one. -/
theorem content_lines_append_feed (s t : String) :
    contentLines (s ++ "\n" ++ t) =
      (((splitOn '\n' s.toList).map trimChars).filter fun line => !isComment line) ++
        contentLines t := by
  have hchars : (s ++ "\n" ++ t).toList = s.toList ++ '\n' :: t.toList := by simp
  have htrim : ((splitOn '\n' s.toList).map dropReturn).map trimChars =
      (splitOn '\n' s.toList).map trimChars := by
    rw [List.map_map]
    exact List.map_congr_left fun line _ => trim_chars_drop_return line
  rw [contentLines, hchars, lines_append_feed, List.map_append, List.filter_append, htrim]
  rfl

/-! ## Stripped configurations -/

/-- The lines that mean something are no comments and have no margins, and no line feed has come into
them. -/
theorem of_mem_content_lines {config : String} {line : List Char} (h : line ∈ contentLines config) :
    '\n' ∉ line ∧ isComment line = false ∧ (∀ c ∈ line.head?, isBlank c = false) ∧
      ∀ c ∈ line.getLast?, isBlank c = false := by
  obtain ⟨hmem, hcomment⟩ := List.mem_filter.mp h
  obtain ⟨raw, hraw, rfl⟩ := List.mem_map.mp hmem
  exact ⟨fun hfeed => feed_not_mem_of_mem_lines hraw (mem_of_mem_trim_chars hfeed),
    by simpa using hcomment, head_trim_chars raw, last_trim_chars raw⟩

/-- Stripping a configuration keeps its lines that mean something. -/
theorem content_lines_stripped (config : String) :
    contentLines (stripped config) = contentLines config := by
  have hlines : lines (stripped config).toList = (contentLines config).map dropReturn := by
    rw [stripped, String.toList_ofList]
    exact lines_flat_map_feed fun line hline => (of_mem_content_lines hline).1
  have htrim : ((contentLines config).map dropReturn).map trimChars = contentLines config := by
    rw [List.map_map]
    refine (List.map_congr_left fun line hline => ?_).trans (List.map_id _)
    obtain ⟨-, -, hhead, hlast⟩ := of_mem_content_lines hline
    exact (trim_chars_drop_return line).trans (trim_chars_eq_self hhead hlast)
  rw [contentLines, hlines, htrim, List.filter_eq_self]
  exact fun line hline => by rw [(of_mem_content_lines hline).2.1]; rfl

/-- Two configurations with the same lines that mean something are stripped alike. -/
theorem stripped_congr {config config' : String} (h : contentLines config = contentLines config') :
    stripped config = stripped config' := by
  rw [stripped, stripped, h]

/-! ## Names -/

/-- The lines of a name behind its first one, as far as they are no comments. -/
def strayLines (name : String) : List (List Char) :=
  ((splitOn '\n' name.toList).tail.map trimChars).filter fun line => !isComment line

/-- What begins with the mark of a name is a comment. -/
theorem is_comment_name_mark (rest : List Char) :
    isComment (trimChars (nameMark.toList ++ rest)) = true := by
  have hmark : nameMark.toList ++ rest = '#' :: (" Name = ".toList ++ rest) := rfl
  rw [hmark, trim_chars_cons (by decide)]
  rfl

/-- The line of a name adds its stray lines to the configuration below it, and nothing else. -/
theorem content_lines_name_line_append (name config : String) :
    contentLines (nameLine name ++ config) = strayLines name ++ contentLines config := by
  by_cases hname : name = ""
  · subst hname
    rfl
  · obtain ⟨first, rest, hsplit⟩ := List.exists_cons_of_ne_nil (split_on_ne_nil '\n' name.toList)
    have hline : splitOn '\n' (nameMark ++ name).toList = (nameMark.toList ++ first) :: rest := by
      rw [String.toList_append]
      exact split_on_append_of_not_mem (by decide) hsplit
    rw [nameLine, if_neg hname, content_lines_append_feed, hline, strayLines, hsplit, List.map_cons,
      List.filter_cons_of_neg (by simp [is_comment_name_mark])]
    rfl

theorem stray_lines_eq_nil_iff (name : String) :
    strayLines name = [] ↔
      ∀ line ∈ (splitOn '\n' name.toList).tail, isComment (trimChars line) = true := by
  simp only [strayLines, List.filter_eq_nil_iff, List.forall_mem_map, Bool.not_eq_true',
    Bool.not_eq_false]

/-- A name on one line adds nothing. -/
theorem stray_lines_of_one_line {name : String} (h : '\n' ∉ name.toList) :
    strayLines name = [] := by
  rw [stray_lines_eq_nil_iff, split_on_eq_singleton h]
  exact fun _ => nofun

/-- The first of some names that is not blank is on one line if they are. -/
theorem feed_not_mem_first_name (names : List String) (h : ∀ name ∈ names, '\n' ∉ name.toList) :
    '\n' ∉ (((names.map trim).find? (· ≠ "")).getD "").toList := by
  cases hfound : (names.map trim).find? (· ≠ "") with
  | none => simp
  | some found =>
      obtain ⟨name, hname, rfl⟩ := List.mem_map.mp (List.mem_of_find?_eq_some hfound)
      rw [Option.getD_some, trim, String.toList_ofList]
      exact fun hfeed => h name hname (mem_of_mem_trim_chars hfeed)

/-- The name of a configuration is on one line if the names are that it can be made of. -/
theorem feed_not_mem_config_name {found : Option Interface} {p : Peer}
    (hinterface : ∀ i, found = some i → '\n' ∉ i.displayName.toList ∧ '\n' ∉ i.identifier.toList)
    (hid : '\n' ∉ p.interfaceId.toList) (hname : '\n' ∉ p.displayName.toList)
    (hidentifier : '\n' ∉ p.identifier.toList) : '\n' ∉ (p.configName found).toList := by
  have hpeer := feed_not_mem_first_name [p.displayName, p.identifier]
    (by simp [hname, hidentifier])
  have htrimmed : '\n' ∉ (trim p.interfaceId).toList := by
    rw [trim, String.toList_ofList]
    exact fun hfeed => hid (mem_of_mem_trim_chars hfeed)
  -- Whatever stands for the interface, the two sides are joined in the same way.
  have hjoined : ∀ side : String, '\n' ∉ side.toList →
      '\n' ∉ (if side = "" then (([p.displayName, p.identifier].map trim).find? (· ≠ "")).getD ""
        else if (([p.displayName, p.identifier].map trim).find? (· ≠ "")).getD "" = "" then side
        else side ++ " - " ++
          (([p.displayName, p.identifier].map trim).find? (· ≠ "")).getD "").toList := by
    intro side hside
    split
    · exact hpeer
    · split
      · exact hside
      · simp only [String.toList_append, List.mem_append, not_or]
        exact ⟨⟨hside, by decide⟩, hpeer⟩
  unfold Peer.configName
  refine hjoined _ ?_
  cases found with
  | none => exact htrimmed
  | some i =>
      have hnames := hinterface i rfl
      have hgiven := feed_not_mem_first_name [i.displayName, i.identifier]
        (by simp [hnames.1, hnames.2])
      simp only
      split
      · exact htrimmed
      · exact hgiven

end TunnelKeeper.ConfigText
