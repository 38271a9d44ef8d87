/-!
# Curve25519

The public key of a private key: the base point of the curve, multiplied by the private key as a
number. Points are pairs of numbers modulo the prime of the field, the quotient of which is the
coordinate; the ladder keeps two points whose difference is the base point.
-/

namespace TunnelKeeper.Curve25519

/-- The order of the field. -/
def fieldPrime : Nat := Nat.pow 2 255 - 19

/-- The constant of the curve that the ladder uses. -/
def ladderConstant : Nat := 121665

/-- The coordinate of the base point. -/
def basePoint : Nat := 9

/-- A private key as a number: its lowest three bits and its highest bit are cleared, and the
second highest is set. -/
def clamp (n : Nat) : Nat := Nat.pow 2 254 + n % Nat.pow 2 254 / 8 * 8

/-- Whether a private key has the form that clamping gives it. -/
def isClamped (n : Nat) : Bool := n == clamp n

/-- The number whose bytes are given, the least significant one first. -/
def ofBytes : List UInt8 → Nat
  | [] => 0
  | b :: rest => b.toNat + 256 * ofBytes rest

/-- The lowest bytes of a number, the least significant one first. -/
def toBytes : Nat → Nat → List UInt8
  | 0, _ => []
  | count + 1, n => UInt8.ofNat n :: toBytes count (n / 256)

/-- The difference modulo the field prime. -/
private def sub (a b : Nat) : Nat := (a + fieldPrime - b) % fieldPrime

/-- The product modulo the field prime. -/
private def mul (a b : Nat) : Nat := a * b % fieldPrime

/-- A power modulo the field prime, bit by bit. -/
private def power (a : Nat) : Nat → Nat → Nat
  | 0, _ => 1
  | bits + 1, n =>
    let half := power a bits (n / 2)
    let square := mul half half
    if n % 2 = 1 then mul square a else square

/-- Two points of the ladder. -/
private structure Rungs where
  x2 : Nat
  z2 : Nat
  x3 : Nat
  z3 : Nat

/-- Exchanges the two points. -/
private def Rungs.swap (r : Rungs) : Rungs := ⟨r.x3, r.z3, r.x2, r.z2⟩

/-- Doubles the first point and adds it to the second. -/
private def Rungs.step (point : Nat) (r : Rungs) : Rungs :=
  let a := (r.x2 + r.z2) % fieldPrime
  let aa := mul a a
  let b := sub r.x2 r.z2
  let bb := mul b b
  let e := sub aa bb
  let c := (r.x3 + r.z3) % fieldPrime
  let d := sub r.x3 r.z3
  let da := mul d a
  let cb := mul c b
  let sum := (da + cb) % fieldPrime
  let difference := sub da cb
  { x2 := mul aa bb
    z2 := mul e ((aa + ladderConstant * e) % fieldPrime)
    x3 := mul sum sum
    z3 := mul point (mul difference difference) }

/-- Climbs the ladder along the lowest bits of a number, the highest of them first. -/
private def climb (point n : Nat) : Nat → Rungs → Rungs
  | 0, r => r
  | bit + 1, r =>
    let r := if n.testBit bit then ((r.swap).step point).swap else r.step point
    climb point n bit r

/-- The coordinate of a point, multiplied by a number of 255 bits. -/
def multiply (n point : Nat) : Nat :=
  let r := climb point n 255 ⟨1, 0, point, 1⟩
  mul r.x2 (power r.z2 255 (fieldPrime - 2))

/-- The public key of a private key. -/
def publicKey (privateKey : List UInt8) : List UInt8 :=
  toBytes 32 (multiply (clamp (ofBytes privateKey)) basePoint)

end TunnelKeeper.Curve25519
