import TunnelKeeper.KeyPair
import TunnelKeeper.Proofs.Codec.Base64
import TunnelKeeper.Proofs.Text.Lines

/-!
# Keys that belong together

The keys of a pair belong together if the private key is the text of thirty-two bytes from which
the public key follows (`KeyPair.Sound`). They do in a pair that is made from a private key, however
that is spelled, and in one that is made from random bytes, whose private key is clamped besides
(`clamped_of_seed`).
-/

namespace TunnelKeeper

open Text

namespace Curve25519

theorem length_to_bytes (count n : Nat) : (toBytes count n).length = count := by
  induction count generalizing n with
  | zero => rfl
  | succ count ih => rw [toBytes, List.length_cons, ih]

/-- The lowest bytes of a number give the number up to the bytes that are left out. -/
theorem of_bytes_to_bytes (count n : Nat) : ofBytes (toBytes count n) = n % Nat.pow 256 count := by
  induction count generalizing n with
  | zero => exact (Nat.mod_one n).symm
  | succ count ih =>
      have hpow : Nat.pow 256 (count + 1) = 256 * Nat.pow 256 count := Nat.mul_comm _ _
      rw [toBytes, ofBytes, ih, hpow, Nat.mod_mul]
      rfl

theorem clamped_bits_lt (n : Nat) : n % Nat.pow 2 254 / 8 * 8 < Nat.pow 2 254 :=
  Nat.lt_of_le_of_lt (Nat.div_mul_le_self _ 8) (Nat.mod_lt n (by decide))

/-- A clamped number fits into the bytes of a key. -/
theorem clamp_lt (n : Nat) : clamp n < Nat.pow 256 32 := by
  calc clamp n < Nat.pow 2 254 + Nat.pow 2 254 := Nat.add_lt_add_left (clamped_bits_lt n) _
    _ ≤ Nat.pow 256 32 := by decide

/-- Clamping gives clamped numbers. -/
theorem is_clamped_clamp (n : Nat) : isClamped (clamp n) = true := by
  rw [isClamped, beq_iff_eq]
  unfold clamp
  rw [Nat.add_mod_left, Nat.mod_eq_of_lt (clamped_bits_lt n), Nat.mul_div_cancel _ (by decide)]

end Curve25519

namespace KeyPair

/-- The private key is the text of thirty-two bytes, without blank margins, and the public key
follows from it. -/
structure Sound (k : KeyPair) : Prop where
  trimmed : trim k.privateKey = k.privateKey
  derived : ∃ bytes, Base64.decode .standard (encodeUtf8 k.privateKey.toList) = .ok bytes ∧
    bytes.length = 32 ∧ k.publicKey = Base64.encode .standard (Curve25519.publicKey bytes)

/-- A private key is that of its bytes if there are thirty-two. -/
theorem bytes_eq_some_iff {raw : String} {bytes : List UInt8} :
    bytes? raw = some bytes ↔
      Base64.decode .standard (encodeUtf8 (trim raw).toList) = .ok bytes ∧ bytes.length = 32 := by
  unfold bytes? trim
  rw [String.toList_ofList]
  cases Base64.decode .standard (encodeUtf8 (trimChars raw.toList)) with
  | error reason => simp
  | ok decoded =>
      by_cases hlength : decoded.length = 32
      · simp only [if_pos hlength, Option.some.injEq, Except.ok.injEq]
        exact ⟨fun heq => ⟨heq, heq ▸ hlength⟩, And.left⟩
      · simp only [if_neg hlength, reduceCtorEq, Except.ok.injEq, false_iff]
        rintro ⟨rfl, hlength'⟩
        exact hlength hlength'

/-- The pair of a private key. -/
theorem sound_of_private_key {raw : String} {k : KeyPair} (h : ofPrivateKey? raw = some k) :
    k.Sound := by
  unfold ofPrivateKey? publicKey? at h
  rw [Option.map_map] at h
  obtain ⟨bytes, hbytes, rfl⟩ := Option.map_eq_some_iff.mp h
  obtain ⟨hdecode, hlength⟩ := bytes_eq_some_iff.mp hbytes
  exact ⟨trim_idem raw, bytes, hdecode, hlength, rfl⟩

/-- The pair made from random bytes. -/
theorem sound_of_seed (seed : List UInt8) : (ofSeed seed).Sound where
  trimmed := by
    have hnone : isBlankText "" = true := rfl
    have htrim := trim_margins hnone (Base64.encode_not_blank (d := .standard) (by decide)
      (Curve25519.toBytes 32 (Curve25519.clamp (Curve25519.ofBytes seed)))) hnone
    rwa [String.empty_append, String.append_empty] at htrim
  derived := ⟨Curve25519.toBytes 32 (Curve25519.clamp (Curve25519.ofBytes seed)),
    Base64.decode_encode Base64.Dialect.lawful_standard _, Curve25519.length_to_bytes 32 _, rfl⟩

/-- The private key made from random bytes is clamped. -/
theorem clamped_of_seed (seed : List UInt8) :
    ∃ bytes, bytes? (ofSeed seed).privateKey = some bytes ∧
      Curve25519.isClamped (Curve25519.ofBytes bytes) = true := by
  refine ⟨Curve25519.toBytes 32 (Curve25519.clamp (Curve25519.ofBytes seed)), ?_, ?_⟩
  · rw [bytes_eq_some_iff, (sound_of_seed seed).trimmed]
    exact ⟨Base64.decode_encode Base64.Dialect.lawful_standard _, Curve25519.length_to_bytes 32 _⟩
  · rw [Curve25519.of_bytes_to_bytes, Nat.mod_eq_of_lt (Curve25519.clamp_lt _)]
    exact Curve25519.is_clamped_clamp _

end KeyPair

end TunnelKeeper
