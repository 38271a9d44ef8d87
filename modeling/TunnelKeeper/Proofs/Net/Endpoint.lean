import TunnelKeeper.Net.Endpoint
import TunnelKeeper.Proofs.Text.Lines
import TunnelKeeper.Proofs.Text.Numeral

/-!
# Endpoints read back

`Separated` says where the host of an endpoint ends, without the reader: at the bracket that closes
it, or at the only colon of the text. The reader cuts exactly there (`cut_eq_some_iff`). A host and
a port are therefore read back from their text, and the host that is read is never blank
(`endpoint_read_back`).
-/

namespace TunnelKeeper

open Text Number

namespace Number

/-- A numeral below a limit is read as its value, and nothing else is read. -/
theorem decimal_below_eq_some_iff {limit n : Nat} (hlimit : 0 < limit) {s : List Char} :
    decimalBelow? limit s = some n ↔
      ∃ sign ∈ ["", "+"], ∃ ds, s = sign.toList ++ ds ∧ ds ≠ [] ∧ (∀ c ∈ ds, IsDigitOf 10 c) ∧
        digitsValue 10 0 ds = n ∧ n < limit := by
  rw [← read_numeral_eq_ok_iff (by decide) hlimit, decimalBelow?]
  cases readNumeral 10 limit s with
  | error fault => simp [Except.toOption]
  | ok m => simp [Except.toOption]

end Number

namespace Endpoint

/-! ## Where the host ends -/

/-- A text whose host ends at a separator, with what stands behind the separator. -/
inductive Separated : List Char → List Char → List Char → Prop
  | bracketed {host port : List Char} (hhost : ']' ∉ host) :
      Separated ('[' :: (host ++ ']' :: ':' :: port)) host port
  | plain {host port : List Char} (hopen : host.head? ≠ some '[') (hhost : ':' ∉ host)
      (hport : ':' ∉ port) : Separated (host ++ ':' :: port) host port

variable {s host port : List Char}

/-- A text that does not open a bracket is cut at its last colon. -/
theorem cut_plain (hopen : s.head? ≠ some '[') :
    cut s = (splitLast ':' s).bind fun cut => if ':' ∈ cut.1 then none else some cut := by
  unfold cut
  split
  · exact absurd rfl hopen
  · rfl

/-- The reader cuts a text where its host ends. -/
theorem cut_eq_some_iff : cut s = some (host, port) ↔ Separated s host port := by
  constructor
  · intro h
    by_cases hopen : s.head? = some '['
    · obtain ⟨rest, rfl⟩ := List.head?_eq_some_iff.mp hopen
      obtain ⟨⟨first, after⟩, hfirst, hafter⟩ := Option.bind_eq_some_iff.mp h
      obtain ⟨rfl, hhost⟩ := split_first_eq_some_iff.mp hfirst
      simp only at hafter
      split at hafter
      · cases hafter
        exact .bracketed hhost
      · cases hafter
    · rw [cut_plain hopen, Option.bind_eq_some_iff] at h
      obtain ⟨⟨first, after⟩, hlast, hcut⟩ := h
      obtain ⟨rfl, hport⟩ := split_last_eq_some_iff.mp hlast
      split at hcut
      · cases hcut
      · next hhost =>
          cases hcut
          refine .plain (fun hhead => hopen ?_) hhost hport
          rw [List.head?_append, hhead]
          rfl
  · intro h
    cases h with
    | bracketed hhost =>
        show (splitFirst ']' (host ++ ']' :: ':' :: port)).bind _ = some (host, port)
        rw [split_first_append hhost]
        rfl
    | plain hopen hhost hport =>
        have hhead : (host ++ ':' :: port).head? ≠ some '[' := by
          cases host with
          | nil => simp
          | cons c host => exact hopen
        rw [cut_plain hhead, split_last_append hport]
        exact if_neg hhost

/-- A text without brackets is not separated unless it has exactly one colon. -/
theorem not_separated_of_count (hopen : s.head? ≠ some '[') (hcount : s.count ':' ≠ 1) :
    ¬ Separated s host port := by
  intro h
  cases h with
  | bracketed hhost => exact hopen rfl
  | plain hhead hhost hport =>
      refine hcount ?_
      rw [List.count_append, List.count_eq_zero_of_not_mem hhost, List.count_cons_self,
        List.count_eq_zero_of_not_mem hport]

/-! ## Hosts and ports -/

/-- A text names a port: it is made of digits, with or without a plus sign before them. -/
def NamesPort (s : List Char) (port : UInt16) : Prop :=
  ∃ sign ∈ ["", "+"], ∃ ds, s = sign.toList ++ ds ∧ ds ≠ [] ∧ (∀ c ∈ ds, IsDigitOf 10 c) ∧
    digitsValue 10 0 ds = port.toNat

/-- The numeral of a port names it. -/
theorem names_port_decimal (port : UInt16) : NamesPort (decimalChars port.toNat) port :=
  ⟨"", by simp, _, rfl, decimal_chars_ne_nil _, decimal_chars_digits _,
    digits_value_decimal_chars _⟩

/-- A port that is named is read. -/
theorem port_of_names {n : UInt16} (h : NamesPort port n) : portOf port = n := by
  obtain ⟨sign, hsign, ds, hport, hne, hdigits, hvalue⟩ := h
  have hread : decimalBelow? 0x10000 port = some n.toNat :=
    (decimal_below_eq_some_iff (by decide)).mpr
      ⟨sign, hsign, ds, hport, hne, hdigits, hvalue, n.toNat_lt⟩
  rw [portOf, hread]
  exact UInt16.ofNat_toNat

/-- The usual port is read where none is named. -/
theorem port_of_names_none (h : ∀ n, ¬ NamesPort port n) : portOf port = usualPort := by
  cases hread : decimalBelow? 0x10000 port with
  | none => rw [portOf, hread]
  | some n =>
      obtain ⟨sign, hsign, ds, hport, hne, hdigits, hvalue, hlt⟩ :=
        (decimal_below_eq_some_iff (by decide)).mp hread
      have hn : (UInt16.ofNat n).toNat = n := UInt16.toNat_ofNat_of_lt' hlt
      exact absurd ⟨sign, hsign, ds, hport, hne, hdigits, hvalue.trans hn.symm⟩
        (h (UInt16.ofNat n))

/-- A host is no blank text and has no margins. -/
def IsHost (host : String) : Prop := host ≠ "" ∧ trim host = host

theorem IsHost.trim_chars {host : String} (h : IsHost host) :
    trimChars host.toList = host.toList := by
  have hchars := congrArg String.toList h.2
  rwa [trim, String.toList_ofList] at hchars

/-- A host begins with a character that is not blank. -/
theorem IsHost.exists_cons {host : String} (h : IsHost host) :
    ∃ c rest, host.toList = c :: rest ∧ isBlank c = false := by
  cases hchars : host.toList with
  | nil => exact absurd (String.toList_eq_nil_iff.mp hchars) h.1
  | cons c rest =>
      refine ⟨c, rest, rfl, head_trim_chars host.toList c ?_⟩
      rw [h.trim_chars, hchars]
      rfl

/-- A host is read as it is. -/
theorem IsHost.host_of {host : String} (h : IsHost host) : hostOf host.toList = host := by
  unfold hostOf
  split
  · next hnil => exact absurd (String.toList_eq_nil_iff.mp (h.trim_chars.symm.trans hnil)) h.1
  · rw [h.trim_chars, String.ofList_toList]

theorem is_host_local_host : IsHost localHost := by
  constructor <;> decide

/-- What trimming leaves is a host if it leaves anything. -/
theorem is_host_trimmed (h : trimChars s ≠ []) : IsHost (String.ofList (trimChars s)) := by
  refine ⟨fun hempty => h (String.ofList_eq_empty_iff.mp hempty), ?_⟩
  rw [trim, String.toList_ofList, trim_chars_idem]

theorem is_host_host_of (s : List Char) : IsHost (hostOf s) := by
  unfold hostOf
  split
  · exact is_host_local_host
  · next hne => exact is_host_trimmed hne

/-! ## Reading -/

theorem parse_of_blank {s : String} (h : trimChars s.toList = []) :
    parse s = ⟨localHost, usualPort⟩ := by
  unfold parse
  rw [h]

theorem parse_of_separated {s : String} (h : Separated (trimChars s.toList) host port) :
    parse s = ⟨hostOf host, portOf port⟩ := by
  unfold parse
  split
  · next hnil =>
      rw [hnil] at h
      generalize hempty : ([] : List Char) = t at h
      cases h <;> simp at hempty
  · rw [cut_eq_some_iff.mpr h]

theorem parse_of_not_separated {s : String} (hne : trimChars s.toList ≠ [])
    (h : ∀ host port, ¬ Separated (trimChars s.toList) host port) :
    parse s = ⟨String.ofList (trimChars s.toList), usualPort⟩ := by
  have hcut : cut (trimChars s.toList) = none := by
    cases hcut : cut (trimChars s.toList) with
    | none => rfl
    | some parts => exact absurd (cut_eq_some_iff.mp hcut) (h parts.1 parts.2)
  unfold parse
  split
  · next hnil => exact absurd hnil hne
  · rw [hcut]

/-- Blank margins of a text make no difference. -/
theorem parse_between {before s after : String} (hbefore : isBlankText before = true)
    (hafter : isBlankText after = true) : parse (before ++ s ++ after) = parse s := by
  unfold parse
  rw [String.toList_append, String.toList_append,
    trim_chars_between (List.all_eq_true.mp hbefore) (List.all_eq_true.mp hafter)]

/-- A text that ends with a port has no margins if it does not begin with a blank character. -/
theorem trim_chars_port {c : Char} (hc : isBlank c = false) (front : List Char) (port : UInt16) :
    trimChars (c :: (front ++ decimalChars port.toNat)) =
      c :: (front ++ decimalChars port.toNat) := by
  refine trim_chars_eq_self (by simpa using hc) ?_
  intro d hd
  rw [← List.cons_append, List.getLast?_append, List.getLast?_eq_some_getLast
    (decimal_chars_ne_nil _), Option.some_or] at hd
  cases hd
  exact not_blank_of_is_digit_of (decimal_chars_digits _ _ (List.getLast_mem _))

/-- A host without colons and a port are read back. -/
theorem parse_plain {host : String} (hhost : IsHost host) (hcolon : ':' ∉ host.toList)
    (hopen : host.toList.head? ≠ some '[') (port : UInt16) :
    parse (host ++ ":" ++ decimal port.toNat) = ⟨host, port⟩ := by
  obtain ⟨c, rest, hchars, hc⟩ := hhost.exists_cons
  have htext : (host ++ ":" ++ decimal port.toNat).toList =
      c :: ((rest ++ [':']) ++ decimalChars port.toNat) := by
    simp [decimal, hchars]
  have hdigits : ':' ∉ decimalChars port.toNat :=
    fun hmem => absurd (decimal_chars_digits _ _ hmem) (by decide)
  have hseparated : Separated (trimChars (host ++ ":" ++ decimal port.toNat).toList) host.toList
      (decimalChars port.toNat) := by
    rw [htext, trim_chars_port hc, List.append_assoc, ← List.cons_append, ← hchars]
    exact .plain hopen hcolon hdigits
  rw [parse_of_separated hseparated, hhost.host_of, port_of_names (names_port_decimal port)]

/-- A host in brackets and a port are read back. -/
theorem parse_bracketed {host : String} (hhost : IsHost host) (hclose : ']' ∉ host.toList)
    (port : UInt16) : parse ("[" ++ host ++ "]:" ++ decimal port.toNat) = ⟨host, port⟩ := by
  have htext : ("[" ++ host ++ "]:" ++ decimal port.toNat).toList =
      '[' :: ((host.toList ++ [']', ':']) ++ decimalChars port.toNat) := by
    simp [decimal]
  have hseparated : Separated (trimChars ("[" ++ host ++ "]:" ++ decimal port.toNat).toList)
      host.toList (decimalChars port.toNat) := by
    rw [htext, trim_chars_port (by decide), List.append_assoc]
    exact .bracketed hclose
  rw [parse_of_separated hseparated, hhost.host_of, port_of_names (names_port_decimal port)]

/-- A host without brackets that has no colon, or several, is read as a whole. -/
theorem parse_whole {s : String} (h : IsHost s) (hopen : s.toList.head? ≠ some '[')
    (hcount : s.toList.count ':' ≠ 1) : parse s = ⟨s, usualPort⟩ := by
  have hne : trimChars s.toList ≠ [] := by
    rw [h.trim_chars]
    exact fun hnil => h.1 (String.toList_eq_nil_iff.mp hnil)
  rw [parse_of_not_separated hne, h.trim_chars, String.ofList_toList]
  rw [h.trim_chars]
  exact fun host port => not_separated_of_count hopen hcount

/-- What is read of any text: a host, and the port that is named behind the separator or else the
usual one. -/
theorem parse_cases (s : String) :
    IsHost (parse s).host ∧
      ((∃ host port, Separated (trimChars s.toList) host port ∧ NamesPort port (parse s).port) ∨
        (∀ host port, Separated (trimChars s.toList) host port → ∀ n, ¬ NamesPort port n) ∧
          (parse s).port = usualPort) := by
  by_cases hseparated : ∃ host port, Separated (trimChars s.toList) host port
  · obtain ⟨host, port, hseparated⟩ := hseparated
    rw [parse_of_separated hseparated]
    refine ⟨is_host_host_of host, ?_⟩
    by_cases hnames : ∃ n, NamesPort port n
    · obtain ⟨n, hnames⟩ := hnames
      refine .inl ⟨host, port, hseparated, ?_⟩
      rw [port_of_names hnames]
      exact hnames
    · have hnone : ∀ n, ¬ NamesPort port n := fun n hn => hnames ⟨n, hn⟩
      refine .inr ⟨fun host' port' hother => ?_, port_of_names_none hnone⟩
      -- A text is separated in one way only.
      have hcut := (cut_eq_some_iff.mpr hseparated).symm.trans (cut_eq_some_iff.mpr hother)
      cases hcut
      exact hnone
  · have hnone : ∀ host port, ¬ Separated (trimChars s.toList) host port :=
      fun host port h => hseparated ⟨host, port, h⟩
    have hport : (∀ host port, Separated (trimChars s.toList) host port →
        ∀ n, ¬ NamesPort port n) := fun host port h => absurd h (hnone host port)
    by_cases hblank : trimChars s.toList = []
    · rw [parse_of_blank hblank]
      exact ⟨is_host_local_host, .inr ⟨hport, rfl⟩⟩
    · rw [parse_of_not_separated hblank hnone]
      exact ⟨is_host_trimmed hblank, .inr ⟨hport, rfl⟩⟩

/-- A host without colons and a port are read back from their text, also between blank margins, and
so are any host and a port if the host stands in brackets. A host that opens no bracket and has no
colon, or several, is read as a whole, with the usual port. What is read of any text has a host, and
the port is the one that is named behind the separator, or the usual one if none is named there. -/
theorem endpoint_read_back :
    (∀ host : String, IsHost host → ':' ∉ host.toList → host.toList.head? ≠ some '[' →
      ∀ (port : UInt16) (before after : String), isBlankText before = true →
        isBlankText after = true →
        parse (before ++ (host ++ ":" ++ decimal port.toNat) ++ after) = ⟨host, port⟩) ∧
    (∀ host : String, IsHost host → ']' ∉ host.toList → ∀ port : UInt16,
      parse ("[" ++ host ++ "]:" ++ decimal port.toNat) = ⟨host, port⟩) ∧
    (∀ s : String, IsHost s → s.toList.head? ≠ some '[' → s.toList.count ':' ≠ 1 →
      parse s = ⟨s, usualPort⟩) ∧
    ∀ s : String, IsHost (parse s).host ∧
      ((∃ host port, Separated (trimChars s.toList) host port ∧ NamesPort port (parse s).port) ∨
        (∀ host port, Separated (trimChars s.toList) host port → ∀ n, ¬ NamesPort port n) ∧
          (parse s).port = usualPort) := by
  refine ⟨fun host hhost hcolon hopen port before after hbefore hafter => ?_,
    fun host hhost hclose port => parse_bracketed hhost hclose port,
    fun s hs hopen hcount => parse_whole hs hopen hcount, parse_cases⟩
  rw [parse_between hbefore hafter, parse_plain hhost hcolon hopen port]

/-- The host of an endpoint may have blank characters inside, though not at its margins. -/
theorem endpoint_read_back_padded :
    IsHost "vpn example" ∧ parse ("\t" ++ ("vpn example" ++ ":" ++ decimal 443) ++ " \n") =
      ⟨"vpn example", 443⟩ := by
  have hhost : IsHost "vpn example" := ⟨by decide, by decide⟩
  exact ⟨hhost, endpoint_read_back.1 "vpn example" hhost (by decide) (by decide) 443 "\t" " \n"
    (by decide) (by decide)⟩

end Endpoint

end TunnelKeeper
