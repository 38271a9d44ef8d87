import TunnelKeeper.Proofs.ConfigText

/-!
# Layouts of configurations

`Lined` says of which lines a text consists, without the reader: each line is ended by a line feed
with or without a carriage return before it, and the end of the last one may be missing. Stripping
depends on the lines alone (`content_lines_of_lined`), and of these only on what stands between their
margins in those that are no comments, so it does not see comments that are inserted nor lines that
are indented anew (`stripped_normal`).
-/

namespace TunnelKeeper

namespace Text

/-! ## Lines of a text -/

/-- A text consists of lines. No line has a line feed in it; each is ended by one, which may follow a
carriage return. The end of the last line may be missing if there is something in that line. -/
inductive Lined : List (List Char) → List Char → Prop
  | nil : Lined [] []
  | unended {line : List Char} : '\n' ∉ line → line ≠ [] → Lined [line] line
  | ended {line text : List Char} {rest : List (List Char)} (ending : List Char) : '\n' ∉ line →
      ending = ['\n'] ∨ ending = ['\r', '\n'] → Lined rest text →
      Lined (line :: rest) (line ++ ending ++ text)

variable {line s : List Char} {ls : List (List Char)}

/-- A text consists of the lines that are cut at its line feeds. -/
theorem exists_lined (s : List Char) : ∃ ls, Lined ls s := by
  induction s with
  | nil => exact ⟨[], .nil⟩
  | cons c s ih =>
      obtain ⟨ls, hlined⟩ := ih
      by_cases hc : c = '\n'
      · subst hc
        exact ⟨[] :: ls, .ended ['\n'] List.not_mem_nil (.inl rfl) hlined⟩
      · -- The character comes to stand before the first line, if there is one.
        have hfeed : ∀ line : List Char, '\n' ∉ line → '\n' ∉ c :: line := by
          intro line hline hmem
          rcases List.mem_cons.mp hmem with rfl | hmem
          · exact hc rfl
          · exact hline hmem
        cases hlined with
        | nil => exact ⟨[[c]], .unended (hfeed [] List.not_mem_nil) (by simp)⟩
        | unended hline hne => exact ⟨[c :: s], .unended (hfeed s hline) (by simp)⟩
        | @ended line text rest ending hline hending hrest =>
            exact ⟨(c :: line) :: rest, .ended ending (hfeed line hline) hending hrest⟩

/-- A carriage return belongs to the margin of a line. -/
theorem trim_chars_append_return (line : List Char) : trimChars (line ++ ['\r']) = trimChars line := by
  have hreturn : ∀ c ∈ ['\r'], isBlank c = true := List.forall_mem_singleton.mpr rfl
  exact @trim_chars_between [] line ['\r'] (by simp) hreturn

/-- The lines that are read are those of the text, up to their margins. -/
theorem Lined.map_trim_chars (h : Lined ls s) : (lines s).map trimChars = ls.map trimChars := by
  induction h with
  | nil => rfl
  | @unended line hline hne =>
      rw [lines, split_on_eq_singleton hline, linesOf, if_neg hne]
  | @ended line text rest ending hline hending _ ih =>
      -- What stands before the line feed is the line, or the line and a carriage return.
      obtain ⟨before, hbefore, htrim, hsplit⟩ : ∃ before : List Char, '\n' ∉ before ∧
          trimChars before = trimChars line ∧ line ++ ending ++ text = before ++ '\n' :: text := by
        rcases hending with rfl | rfl
        · exact ⟨line, hline, rfl, by simp⟩
        · exact ⟨line ++ ['\r'], by simp [hline], trim_chars_append_return line, by simp⟩
      rw [hsplit, lines_append_feed, split_on_eq_singleton hbefore, List.map_append, ih,
        List.map_singleton, List.map_singleton, trim_chars_drop_return, htrim]
      rfl

/-- Lines that are ended by line feeds are the only ones of their text if none of them ends with a
carriage return. -/
theorem Lined.eq_of_flat_map_feed {ls' : List (List Char)}
    (hlines : ∀ line ∈ ls, '\n' ∉ line ∧ line.getLast? ≠ some '\r')
    (h : Lined ls' (ls.flatMap fun line => line ++ ['\n'])) : ls' = ls := by
  induction ls generalizing ls' with
  | nil =>
      rw [List.flatMap_nil] at h
      generalize htext : ([] : List Char) = text at h
      cases h with
      | nil => rfl
      | unended _ hne => exact absurd htext.symm hne
      | @ended line text rest ending _ hending _ =>
          rcases hending with rfl | rfl <;> simp at htext
  | cons first ls ih =>
      rw [List.forall_mem_cons] at hlines
      obtain ⟨⟨hfeed, hreturn⟩, hothers⟩ := hlines
      have hcut : splitFirst '\n' ((first :: ls).flatMap fun line => line ++ ['\n']) =
          some (first, ls.flatMap fun line => line ++ ['\n']) := by
        rw [List.flatMap_cons, List.append_assoc, List.singleton_append]
        exact split_first_append hfeed _
      generalize ((first :: ls).flatMap fun line => line ++ ['\n']) = text at h hcut
      cases h with
      | nil => cases hcut
      | unended hline _ =>
          obtain ⟨rfl, -⟩ := split_first_eq_some_iff.mp hcut
          simp at hline
      | @ended line text rest ending hline hending hrest =>
          rcases hending with rfl | rfl
          · rw [List.append_assoc, List.singleton_append, split_first_append hline] at hcut
            obtain ⟨rfl, rfl⟩ := Prod.mk.inj (Option.some.inj hcut)
            rw [ih hothers hrest]
          · -- A carriage return before the line feed would stand at the end of the first line.
            have hbefore : line ++ ['\r', '\n'] ++ text = (line ++ ['\r']) ++ '\n' :: text := by simp
            rw [hbefore, split_first_append (by simp [hline])] at hcut
            obtain ⟨rfl, -⟩ := Prod.mk.inj (Option.some.inj hcut)
            simp at hreturn

end Text

namespace ConfigText

open Text

variable {config config' : String} {ls ls' : List (List Char)}

/-! ## Stripping by lines -/

/-- The lines that mean something are found among the lines of a configuration. -/
theorem content_lines_of_lined (h : Lined ls config.toList) :
    contentLines config = (ls.map trimChars).filter fun line => !isComment line := by
  rw [contentLines, h.map_trim_chars]

/-- A stripped configuration consists of the lines that mean something, and of no others. -/
theorem lined_stripped (h : Lined ls (stripped config).toList) : ls = contentLines config := by
  rw [stripped, String.toList_ofList] at h
  refine Lined.eq_of_flat_map_feed (fun line hline => ?_) h
  obtain ⟨hfeed, -, -, hlast⟩ := of_mem_content_lines hline
  exact ⟨hfeed, fun hreturn => absurd (hlast '\r' hreturn) (by decide)⟩

/-! ## What stripping does not see -/

/-- A line that is a comment, behind its margin. -/
def CommentLine (line : List Char) : Prop :=
  ∃ margin rest, (∀ c ∈ margin, isBlank c = true) ∧ line = margin ++ '#' :: rest

/-- Two lines that differ in their margins only. -/
def Reindented (line line' : List Char) : Prop :=
  ∃ before body after before' after', (∀ c ∈ before ++ after, isBlank c = true) ∧
    (∀ c ∈ before' ++ after', isBlank c = true) ∧
    line = before ++ body ++ after ∧ line' = before' ++ body ++ after'

/-- Lines among which comments have been inserted and that are indented anew. -/
inductive Edited : List (List Char) → List (List Char) → Prop
  | nil : Edited [] []
  | inserted {line : List Char} {ls ls' : List (List Char)} : CommentLine line → Edited ls ls' →
      Edited ls (line :: ls')
  | indented {line line' : List Char} {ls ls' : List (List Char)} : Reindented line line' →
      Edited ls ls' → Edited (line :: ls) (line' :: ls')

theorem CommentLine.is_comment {line : List Char} (h : CommentLine line) :
    isComment (trimChars line) = true := by
  obtain ⟨margin, rest, hmargin, rfl⟩ := h
  have htrim := @trim_chars_between margin ('#' :: rest) [] hmargin (by simp)
  rw [List.append_nil] at htrim
  rw [htrim, trim_chars_cons (by decide)]
  rfl

theorem Reindented.trim_chars_eq {line line' : List Char} (h : Reindented line line') :
    trimChars line' = trimChars line := by
  obtain ⟨before, body, after, before', after', hblank, hblank', rfl, rfl⟩ := h
  rw [List.forall_mem_append] at hblank hblank'
  rw [trim_chars_between hblank.1 hblank.2, trim_chars_between hblank'.1 hblank'.2]

/-- Among edited lines, the same ones mean something. -/
theorem Edited.content_eq (h : Edited ls ls') :
    ((ls'.map trimChars).filter fun line => !isComment line) =
      (ls.map trimChars).filter fun line => !isComment line := by
  induction h with
  | nil => rfl
  | inserted hcomment _ ih =>
      rw [List.map_cons, List.filter_cons_of_neg (by simp [hcomment.is_comment]), ih]
  | indented hindented _ ih =>
      rw [List.map_cons, List.map_cons, List.filter_cons, List.filter_cons,
        hindented.trim_chars_eq, ih]

/-- A stripped configuration has the lines of the configuration, trimmed and without comments, in
their order and each ended by one line feed. Its lines are no comments and have no margins, and
stripping it again changes nothing. It stays the same when comments are inserted, when lines are
indented anew and when lines are ended in another way. Below a name there is the same text. -/
theorem stripped_normal (config : String) :
    (∃ ls, Lined ls config.toList) ∧
      (∀ ls, Lined ls config.toList → (stripped config).toList =
        ((ls.map trimChars).filter fun line => line.head? ≠ some '#').flatMap
          fun line => line ++ ['\n']) ∧
      (∀ ls, Lined ls (stripped config).toList → ∀ line ∈ ls, line.head? ≠ some '#' ∧
        (∀ c ∈ line.head?, isBlank c = false) ∧ ∀ c ∈ line.getLast?, isBlank c = false) ∧
      stripped (stripped config) = stripped config ∧
      (∀ ls ls' config', Lined ls config.toList → Lined ls' config'.toList → Edited ls ls' →
        stripped config' = stripped config) ∧
      strippedNamed config "" = stripped config ∧
      ∀ name, name ≠ "" →
        strippedNamed config name = "# Name = " ++ name ++ "\n" ++ stripped config := by
  refine ⟨exists_lined _, ?_, ?_, stripped_congr (content_lines_stripped config), ?_, ?_, ?_⟩
  · intro ls hlined
    rw [stripped, String.toList_ofList, content_lines_of_lined hlined, ofLines]
    congr 1
    refine List.filter_congr fun line _ => ?_
    by_cases hcomment : line.head? = some '#' <;> simp [isComment, hcomment]
  · intro ls hlined line hline
    rw [lined_stripped hlined] at hline
    obtain ⟨-, hcomment, hmargins⟩ := of_mem_content_lines hline
    exact ⟨by simpa [isComment] using hcomment, hmargins⟩
  · intro ls ls' config' hlined hlined' hedited
    refine stripped_congr ?_
    rw [content_lines_of_lined hlined, content_lines_of_lined hlined', hedited.content_eq]
  · rw [strippedNamed, nameLine, if_pos rfl, String.empty_append]
  · intro name hname
    rw [strippedNamed, nameLine, if_neg hname]
    rfl

/-- A configuration with other margins, other line ends and a comment more is stripped alike. -/
theorem stripped_normal_reindented :
    (∃ ls ls', Lined ls "[Peer]\r\n\tPort = 1".toList ∧
      Lined ls' "  [Peer]\n # port\nPort = 1\u2028\n".toList ∧ Edited ls ls') ∧
      "office" ≠ "" ∧
      strippedNamed "  [Peer]\n # port\nPort = 1\u2028\n" "office" =
        "# Name = " ++ "office" ++ "\n" ++ stripped "[Peer]\r\n\tPort = 1" := by
  have hlined : Lined ["[Peer]".toList, "\tPort = 1".toList] "[Peer]\r\n\tPort = 1".toList :=
    .ended ['\r', '\n'] (by decide) (.inr rfl) (.unended (by decide) (by decide))
  have hlined' : Lined ["  [Peer]".toList, " # port".toList, "Port = 1\u2028".toList]
      "  [Peer]\n # port\nPort = 1\u2028\n".toList :=
    .ended ['\n'] (by decide) (.inl rfl)
      (.ended ['\n'] (by decide) (.inl rfl)
        (.ended ['\n'] (by decide) (.inl rfl) .nil))
  have hedited : Edited ["[Peer]".toList, "\tPort = 1".toList]
      ["  [Peer]".toList, " # port".toList, "Port = 1\u2028".toList] :=
    .indented ⟨[], "[Peer]".toList, [], "  ".toList, [], List.all_eq_true.mp rfl,
        List.all_eq_true.mp rfl, rfl, rfl⟩
      (.inserted ⟨[' '], " port".toList, List.all_eq_true.mp rfl, rfl⟩
        (.indented ⟨['\t'], "Port = 1".toList, [], [], ['\u2028'], List.all_eq_true.mp rfl,
          List.all_eq_true.mp rfl, rfl, rfl⟩ .nil))
  obtain ⟨-, -, -, -, hsame, -, -⟩ := stripped_normal "[Peer]\r\n\tPort = 1"
  obtain ⟨-, -, -, -, -, -, hnamed⟩ := stripped_normal "  [Peer]\n # port\nPort = 1\u2028\n"
  refine ⟨⟨_, _, hlined, hlined', hedited⟩, by decide, ?_⟩
  rw [hnamed "office" (by decide), hsame _ _ _ hlined hlined' hedited]

end ConfigText

end TunnelKeeper
