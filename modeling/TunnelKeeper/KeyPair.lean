import TunnelKeeper.Codec.Base64
import TunnelKeeper.Codec.Curve25519
import TunnelKeeper.Data.Schema
import TunnelKeeper.Text.Blank
import TunnelKeeper.Text.Utf8
/-!
# Key pairs

The keys of a tunnel end as texts. A private key is thirty-two bytes; its public key follows from
it. Nothing is assumed about the keys of a pair that was read from a document.
-/

namespace TunnelKeeper

open Text

/-- A private key and a public key, both as texts. -/
structure KeyPair where
  privateKey : String
  publicKey : String
  deriving DecidableEq, Repr

namespace KeyPair

/-- The pair without keys. -/
def blank : KeyPair := ⟨"", ""⟩

/-- The bytes of a private key, if its text has the right form and length. -/
def bytes? (privateKey : String) : Option (List UInt8) :=
  match Base64.decode .standard (encodeUtf8 (trimChars privateKey.toList)) with
  | .ok bytes => if bytes.length = 32 then some bytes else none
  | .error _ => none

/-- The public key of a private key. -/
def publicKey? (privateKey : String) : Option String :=
  (bytes? privateKey).map fun bytes => Base64.encode .standard (Curve25519.publicKey bytes)

/-- The pair of a private key. -/
def ofPrivateKey? (privateKey : String) : Option KeyPair :=
  (publicKey? privateKey).map fun publicKey => ⟨trim privateKey, publicKey⟩

/-- The pair made from random bytes, which are clamped first. -/
def ofSeed (seed : List UInt8) : KeyPair :=
  let bytes := Curve25519.toBytes 32 (Curve25519.clamp (Curve25519.ofBytes seed))
  ⟨Base64.encode .standard bytes, Base64.encode .standard (Curve25519.publicKey bytes)⟩

/-- Reads a pair from a document. -/
def decoder : Decoder KeyPair :=
  Fields.decoder
    (KeyPair.mk <$> .required "private_key" .text <*> .required "public_key" .text)
    "KeyPair" false

/-- A pair as a table. -/
def toData (k : KeyPair) : Data :=
  .object [("private_key", .text k.privateKey), ("public_key", .text k.publicKey)]

end KeyPair

end TunnelKeeper
