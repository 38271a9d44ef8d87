import TunnelKeeper.Proofs.Settings.ReadBack
import TunnelKeeper.Proofs.Text.Utf8

/-!
# The settings of a start

What is found at the path of the configuration file comes to settings or to an error
(`Configures`). A start has exactly the settings that are merged from these, the overrides and the
command line, if they are acceptable, and the check itself changes nothing but the spelling of the
mode (`load_merged`).
-/

namespace TunnelKeeper

namespace Settings

variable {base s t : Settings} {o : Overrides} {c : CommandLine} {found : Found}

/-- What comes of what is found at the path of a configuration file. -/
inductive Configures : Found → Except Error Settings → Prop
  | nothing : Configures .nothing (.ok usual)
  | text (text : String) : Configures (.content (Text.encodeUtf8 text.toList)) (parse text)
  | bytes {bytes : List UInt8} (hbytes : ∀ text : String, bytes ≠ Text.encodeUtf8 text.toList) :
      Configures (.content bytes) (.error (.settings (.unreadable .notText)))
  | fault (fault : FileFault) :
      Configures (.fault fault) (.error (.settings (.unreadable fault)))

/-- What is found has one outcome. -/
theorem configures_iff {configured : Except Error Settings} :
    Configures found configured ↔ ofFound found = configured := by
  constructor
  · rintro (_ | text | hbytes | fault)
    · rfl
    · simp only [ofFound, Text.of_utf8_eq_some_iff.mpr rfl]
    · have hnone := Option.eq_none_iff_forall_ne_some.mpr fun text h =>
        hbytes text (Text.of_utf8_eq_some_iff.mp h)
      simp only [ofFound, hnone]
    · rfl
  · rintro rfl
    cases found with
    | nothing => exact .nothing
    | fault fault => exact .fault fault
    | content bytes =>
        cases htext : Text.ofUtf8? bytes with
        | none =>
            simp only [ofFound, htext]
            refine .bytes fun text hbytes => ?_
            rw [Text.of_utf8_eq_some_iff.mpr hbytes] at htext
            cases htext
        | some text =>
            simp only [ofFound, htext]
            rw [Text.of_utf8_eq_some_iff.mp htext]
            exact .text text

/-- The settings that the check makes of accepted ones are acceptable. -/
theorem sanitize_eq_iff : t.sanitize.result = .ok () ∧ t.sanitize.settings = s ↔
    s = { t with core := ⟨usualSpelling t.core.wireguardMode⟩ } ∧ Acceptable s := by
  rw [acceptable_iff]
  constructor
  · rintro ⟨hresult, rfl⟩
    obtain ⟨hspelling, hmode⟩ := mode_of_eq_some_iff.mp (sanitize_settings hresult).1
    refine ⟨?_, hmode, ?_⟩
    · rw [← hspelling]
      exact sanitize_changes_mode t
    · rw [sanitize_again hresult]
      exact hresult
  · rintro ⟨rfl, hmode, hresult⟩
    have hspelling : modeOf? t.core.wireguardMode = some (usualSpelling t.core.wireguardMode) :=
      mode_of_eq_some_iff.mpr ⟨rfl, hmode⟩
    rw [sanitize_of_mode (mode_of_mode hmode)] at hresult
    rw [sanitize_of_mode hspelling, check_rest_settings]
    exact ⟨hresult, rfl⟩

/-- A start fails with the error of its file. -/
theorem load_of_error {path : String} {e : Error} (h : ofFound found = .error e) :
    (load found path o c).1 = .error e := by
  rw [load, h]

/-- A start has settings exactly if it has those of a file and the check accepts what is merged. -/
theorem load_eq_ok_iff {path : String} :
    (load found path o c).1 = .ok s ↔ ∃ base, ofFound found = .ok base ∧
      ((base.override o).command c).sanitize.result = .ok () ∧
        ((base.override o).command c).sanitize.settings = s := by
  cases hfound : ofFound found with
  | error e => simp [load, hfound]
  | ok base =>
      simp only [load, hfound, Except.ok.injEq, exists_eq_left']
      generalize ((base.override o).command c).sanitize = checked
      cases checked.result with
      | error e => simp [Except.map]
      | ok done => simp [Except.map]

/-- What is found at the path of the file gives settings or an error. A start fails with the error;
otherwise it has the settings that are merged from those of the file, its overrides and its command
line, if they are acceptable, and it has none otherwise. Settings that are read from a text have
what its document has, and the usual values elsewhere. They are read from every text whose document
has them, and there is such a text for all settings without entries. The check changes the spelling
of the mode at most, whether it accepts settings or not, and says of accepted settings what it said
before. -/
theorem load_merged (found : Found) (path : String) (o : Overrides) (c : CommandLine) :
    (∃ configured, Configures found configured ∧
      (∀ e, configured = .error e → (load found path o c).1 = .error e) ∧
      ∀ s, (load found path o c).1 = .ok s ↔
        ∃ base, configured = .ok base ∧ Merged base o c s ∧ Acceptable s) ∧
    (∀ text base, parse text = .ok base →
      ∃ document, Toml.readDocument text = .ok document ∧ Stated document base) ∧
    (∀ text, Toml.readDocument text = .ok (.object []) → parse text = .ok usual) ∧
    (∀ text s, Toml.readDocument text = .ok s.toData → parse text = .ok s) ∧
    (∀ s : Settings, s.provisioning = [] → s.TimesFit → parse (Toml.write s.tables) = .ok s) ∧
    ∀ t : Settings,
      t.sanitize.settings = { t with core := ⟨t.sanitize.settings.core.wireguardMode⟩ } ∧
      (t.sanitize.result = .ok () → t.sanitize.settings.sanitize = t.sanitize) := by
  refine ⟨⟨ofFound found, configures_iff.mpr rfl, fun e => load_of_error, fun s => ?_⟩,
    fun text base => stated_of_parse, fun text => parse_of_empty, fun text s => parse_of_to_data,
    fun s => parse_write, fun t => ⟨sanitize_changes_mode t, sanitize_again⟩⟩
  rw [load_eq_ok_iff]
  simp only [sanitize_eq_iff, merged_iff]

end Settings

end TunnelKeeper
