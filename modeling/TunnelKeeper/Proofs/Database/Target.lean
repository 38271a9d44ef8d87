import TunnelKeeper.Database.Host
import TunnelKeeper.Proofs.Text.Lines
import TunnelKeeper.Proofs.Text.Utf8

/-!
# Two readings of a connection URL

The file that a URL seems to name is cut out of the URL as it stands, and the engine reads its name
on its own. Both find the same name if it is spelled plainly (`of_url_plain`). A plain name that
begins with a slash always makes a URL that the engine accepts (`of_url_absolute`).
-/

namespace TunnelKeeper

open Text

/-- A text without percent signs stands for itself. -/
theorem Text.percent_decode_plain {s : List Char} (h : '%' ∉ s) : percentDecode s = encodeUtf8 s := by
  induction s with
  | nil => rfl
  | cons c s ih =>
      rw [List.mem_cons, not_or] at h
      rw [percentDecode, ih h.2]
      · exact List.flatMap_append.symm
      · rintro a b rest rfl -
        exact h.1 rfl

/-! ## The check that a text is a URL -/

namespace Url

/-- What a text begins with is left when it is cleaned, if nothing of it can be cleaned away. -/
theorem cleaned_append {front : List Char} (hne : front ≠ []) (hfront : ∀ c ∈ front, 0x20 < c.toNat)
    (rest : List Char) : ∃ kept, cleaned (front ++ rest) = front ++ kept := by
  have hstays : ∀ s : List Char, s ≠ [] → (∀ c ∈ s, 0x20 < c.toNat) → ∀ more,
      (s ++ more).dropWhile (fun c : Char => decide (c.toNat ≤ 0x20)) = s ++ more := by
    intro s hs hkept more
    cases s with
    | nil => exact absurd rfl hs
    | cons c s =>
        have hc := hkept c List.mem_cons_self
        exact List.dropWhile_cons_of_neg (by simpa using hc)
  have hback := hstays front.reverse (mt List.reverse_eq_nil_iff.mp hne)
    (fun c hc => hfront c (List.mem_reverse.mp hc)) []
  rw [List.append_nil] at hback
  have hinside : front.filter (fun c => decide (c ≠ '\t' ∧ c ≠ '\n' ∧ c ≠ '\r')) = front := by
    rw [List.filter_eq_self]
    intro c hc
    have hc := hfront c hc
    refine decide_eq_true ⟨?_, ?_, ?_⟩ <;> rintro rfl <;> exact absurd hc (by decide)
  unfold cleaned
  simp only
  rw [hstays front hne hfront, List.reverse_append, List.dropWhile_append]
  split
  · exact ⟨[], by rw [hback, List.reverse_reverse, hinside, List.append_nil]⟩
  · exact ⟨_, by rw [List.reverse_append, List.reverse_reverse, List.filter_append, hinside]⟩

/-- A text that begins like an engine's URL with an empty authority is a URL, whatever follows. -/
theorem scheme_of_absolute {text : String} (h : "sqlite:///".toList <+: text.toList) :
    scheme? text = some Target.scheme := by
  obtain ⟨rest, hrest⟩ := h
  have hfront : ∀ c ∈ "sqlite:///".toList, 0x20 < c.toNat := by simp
  obtain ⟨kept, hkept⟩ := cleaned_append (by decide) hfront rest
  have hcut : cutScheme ("sqlite:///".toList ++ kept) =
      some ("sqlite".toList, "///".toList ++ kept) := rfl
  unfold scheme?
  rw [← hrest, hkept, hcut]
  rfl

end Url

/-! ## Names that are spelled plainly -/

/-- A name behind `sqlite://` that means itself: without parameters, percent signs and a further
scheme. -/
structure PlainName (name : String) : Prop where
  ne_empty : name ≠ ""
  no_parameters : '?' ∉ name.toList
  no_percent : '%' ∉ name.toList
  no_scheme : ¬ "sqlite:".toList <+: name.toList

/-- What follows a name in a URL: nothing, or parameters. -/
def IsQuery (query : String) : Prop := query = "" ∨ ∃ parameters, query = "?" ++ parameters

/-- A plain name and what follows it are told apart by the mark of the parameters. -/
theorem PlainName.take_name {name query : String} (h : PlainName name) (hquery : IsQuery query) :
    (name.toList ++ query.toList).takeWhile (fun c => decide (c ≠ '?')) = name.toList := by
  have hname : ∀ c ∈ name.toList, decide (c ≠ '?') = true := by
    intro c hc
    simpa using fun hmark : c = '?' => h.no_parameters (hmark ▸ hc)
  have hstop : query.toList.takeWhile (fun c => decide (c ≠ '?')) = [] := by
    rcases hquery with rfl | ⟨parameters, rfl⟩
    · rfl
    · rw [String.toList_append]
      rfl
  rw [List.takeWhile_append_of_pos hname, hstop, List.append_nil]

/-- A plain URL without the engine's scheme. -/
theorem toList_url (name query : String) : ("sqlite://" ++ name ++ query).toList =
    "sqlite://".toList ++ (name.toList ++ query.toList) := by
  rw [String.toList_append, String.toList_append, List.append_assoc]

/-- The file that a plain URL seems to name has the name that stands there. -/
theorem PlainName.file_path {name query : String} (h : PlainName name) (hquery : IsQuery query) :
    Host.filePath? ("sqlite://" ++ name ++ query) = some name := by
  have hne : name.toList ≠ [] := fun hnil => h.ne_empty (String.toList_eq_nil_iff.mp hnil)
  unfold Host.filePath?
  rw [after_leading_eq_some_iff.mpr (toList_url name query)]
  simp only [h.take_name hquery, if_neg hne, String.ofList_toList]

/-- No scheme begins where a plain name does. -/
theorem PlainName.no_scheme_leads {name query : String} (h : PlainName name)
    (hquery : IsQuery query) : ¬ "sqlite:".toList <+: name.toList ++ query.toList := by
  rintro ⟨rest, hrest⟩
  have htaken := h.take_name hquery
  have hscheme : ∀ c ∈ "sqlite:".toList, decide (c ≠ '?') = true := by simp
  rw [← hrest, List.takeWhile_append_of_pos hscheme] at htaken
  exact h.no_scheme ⟨_, htaken⟩

namespace Target

variable {t t' : Target}

theorem drop_leaders_of_not_leading {lead s : List Char} (h : ¬ lead <+: s) (n : Nat) :
    dropLeaders lead n s = s := by
  cases n with
  | zero => rfl
  | succ n => rw [dropLeaders, after_leading_eq_none h]

/-- A parameter says nothing about the name. -/
theorem name_with_parameter {p : String × String} (h : withParameter t p = .ok t') :
    t'.name = t.name := by
  obtain ⟨name, value⟩ := p
  unfold withParameter at h
  dsimp only at h
  -- One case for each parameter that is known, and one for all others.
  split at h
  · split at h <;> cases h <;> rfl
  · split at h
    · cases h
      rfl
    · cases h
  · split at h
    · cases h
      rfl
    · split at h
      · cases h
        rfl
      · cases h
  · cases h
    rfl
  · cases h

theorem name_with_parameters {ps : List (String × String)}
    (h : ps.foldlM withParameter t = .ok t') : t'.name = t.name := by
  induction ps generalizing t with
  | nil =>
      cases h
      rfl
  | cons p ps ih =>
      rw [List.foldlM_cons] at h
      cases hstep : withParameter t p with
      | error fault =>
          rw [hstep] at h
          cases h
      | ok next =>
          rw [hstep] at h
          exact (ih h).trans (name_with_parameter hstep)

/-! ## What the engine reads -/

/-- The scheme in front of a plain name is taken off once. -/
theorem without_scheme_plain {name query : String} (h : PlainName name) (hquery : IsQuery query) :
    withoutScheme ("sqlite://" ++ name ++ query) = name.toList ++ query.toList := by
  have hshort := h.no_scheme_leads hquery
  have hlong : ¬ "sqlite://".toList <+: name.toList ++ query.toList := fun hprefix =>
    hshort ((show "sqlite:".toList <+: "sqlite://".toList by decide).trans hprefix)
  have hsize : ("sqlite://" ++ name ++ query).length = (8 + name.length + query.length) + 1 := by
    rw [String.length_append, String.length_append, show "sqlite://".length = 9 from rfl]
    omega
  rw [withoutScheme, hsize, dropLeaders, after_leading_eq_some_iff.mpr (toList_url name query)]
  simp only [drop_leaders_of_not_leading hlong, drop_leaders_of_not_leading hshort]

theorem of_encoded_name_plain {name : String} (h : PlainName name) :
    ofEncodedName name.toList = .ok (ofName name) := by
  rw [ofEncodedName, percent_decode_plain h.no_percent, decode_utf8_encode_utf8]
  simp only [String.ofList_toList]

/-- A plain URL without parameters asks for the file of its name. -/
theorem of_engine_url_plain {name : String} (h : PlainName name) :
    ofEngineUrl ("sqlite://" ++ name) = .ok (ofName name) := by
  have hread := without_scheme_plain h (Or.inl rfl)
  rw [String.append_empty, String.toList_empty, List.append_nil] at hread
  rw [ofEngineUrl, hread, split_first_eq_none h.no_parameters]
  exact of_encoded_name_plain h

/-- The engine reads a plain name as it stands, whatever the parameters say. -/
theorem of_url_plain {name query : String} (h : PlainName name) (hquery : IsQuery query)
    (hurl : ofUrl ("sqlite://" ++ name ++ query) = .ok t) : t.name = name := by
  have hengine : ofEngineUrl ("sqlite://" ++ name ++ query) = .ok t := by
    unfold ofUrl at hurl
    split at hurl
    · cases hurl
    · split at hurl
      · exact hurl
      · cases hurl
  rcases hquery with rfl | ⟨parameters, rfl⟩
  · rw [String.append_empty, of_engine_url_plain h] at hengine
    cases hengine
    rfl
  · have hcut : splitFirst '?' (name.toList ++ ("?" ++ parameters).toList) =
        some (name.toList, parameters.toList) := by
      rw [String.toList_append]
      exact split_first_append h.no_parameters _
    rw [ofEngineUrl, without_scheme_plain h (Or.inr ⟨parameters, rfl⟩), hcut] at hengine
    simp only [of_encoded_name_plain h] at hengine
    exact name_with_parameters hengine

/-- The engine accepts a plain name that begins with a slash. -/
theorem of_url_absolute {name : String} (h : PlainName name)
    (hslash : name.toList.head? = some '/') :
    ofUrl ("sqlite://" ++ name) = .ok (ofName name) := by
  have hfront : "sqlite:///".toList <+: ("sqlite://" ++ name).toList := by
    obtain ⟨rest, hrest⟩ := List.head?_eq_some_iff.mp hslash
    rw [String.toList_append, hrest]
    exact ⟨rest, rfl⟩
  rw [ofUrl, Url.scheme_of_absolute hfront]
  simp only [if_true, of_engine_url_plain h]

end Target

end TunnelKeeper
