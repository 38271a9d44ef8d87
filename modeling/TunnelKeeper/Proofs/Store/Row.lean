import TunnelKeeper.Proofs.Obfuscation.NormalForm
import TunnelKeeper.Proofs.Store.Invariant

/-!
# Interfaces in rows

Whatever text a row holds, an interface that is read from it has no block or one that says something
and is in normal form, and it is read again as it is after it was written (`read_settled`). Rows may
hold other spellings and blocks that were never brought into their normal form.
-/

namespace TunnelKeeper

namespace InterfaceRow

variable {r : InterfaceRow} {i : Interface}

/-- The interface of a row is the one of its text, settled. -/
theorem interface_eq_ok_iff :
    r.interface = .ok i ↔
      ∃ written, Json.decodeText Interface.decoder r.data = .ok written ∧ written.settled = i := by
  unfold interface
  cases Json.decodeText Interface.decoder r.data with
  | error issue => simp
  | ok written => simp

/-- An interface that was read from a row is settled. -/
theorem settled_of_interface (h : r.interface = .ok i) : i.settled = i := by
  obtain ⟨written, -, rfl⟩ := interface_eq_ok_iff.mp h
  exact written.settled_idem

/-- An interface that is read from a row is the one of the text, but for its block. It has no block
or one that says something and is in normal form, so it has a block exactly if it counts as
obfuscated, and exactly then it needs special clients. Its own row reads as the same interface. -/
theorem read_settled (h : r.interface = .ok i) :
    (∃ written, Json.decodeText Interface.decoder r.data = .ok written ∧
        i = { written with obfuscation := i.obfuscation }) ∧
      (i.obfuscation = none ∨
        ∃ o, i.obfuscation = some o ∧ o.isEmpty = false ∧ o.normalized = o) ∧
      (i.obfuscation.isSome = true ↔ i.isObfuscated = true) ∧
      (i.isObfuscated = true ↔ i.clientKind = .obfuscationCapable) ∧
      (ofInterface i).interface = .ok i := by
  have hsettled := settled_of_interface h
  have hblock := Interface.settled_eq_self_iff.mp hsettled
  refine ⟨?_, ?_, ?_, Interface.client_kind_eq_iff.symm, ?_⟩
  · obtain ⟨written, hread, rfl⟩ := interface_eq_ok_iff.mp h
    exact ⟨written, hread, rfl⟩
  · cases hsome : i.obfuscation with
    | none => exact .inl rfl
    | some o => exact .inr ⟨o, rfl, hblock o hsome⟩
  · cases hsome : i.obfuscation with
    | none => simp [Interface.isObfuscated, Interface.presentBlock, hsome]
    | some o =>
        have hpresent := Obfuscation.present_block_eq_some_iff.mpr ⟨hsome, (hblock o hsome).1⟩
        simp [Interface.isObfuscated, hpresent]
  · rw [interface_of_interface, hsettled]

/-- A row in an unusual spelling: every record is a list of its fields, and the block has blank
margins and a blank special packet. -/
def untidy : InterfaceRow where
  key := "wg0"
  displayName := "Office"
  data := " [\"wg0\", \"Office\", \"server\", [\"\", \"\"], 51820, [\"10.0.0.1/24\"], [], [], " ++
    "1420, 0, \"\", \"\", \"\", \"\", \"\", true, false, \"\", [], " ++
    "[0, 0, 0, 0, 0, 0, 0, \" 7 \", null, null, null, \" \"]]\n"

/-- The interface of that row. -/
def tidied : Interface :=
  { Interface.new "wg0" with
    displayName := "Office"
    listenPort := 51820
    addresses := [⟨.v4, 0x0A000001, 24, by decide, by decide⟩]
    saveConfig := true
    obfuscation := some { Obfuscation.empty with initHeader := some "7" } }

theorem read_settled_untidy :
    untidy.interface = .ok tidied ∧ tidied.clientKind = .obfuscationCapable ∧
      (ofInterface tidied).interface = .ok tidied := by
  have hread : untidy.interface = .ok tidied := by
    have hsome : untidy.interface.toOption = some tidied := by decide +kernel
    cases h : untidy.interface with
    | error e =>
        rw [h] at hsome
        cases hsome
    | ok i =>
        rw [h] at hsome
        cases hsome
        rfl
  obtain ⟨-, -, -, hkind, hagain⟩ := read_settled hread
  exact ⟨hread, hkind.mp rfl, hagain⟩

end InterfaceRow

end TunnelKeeper
