import TunnelKeeper.Deflate.Inflate
import TunnelKeeper.Proofs.Deflate.Stream

/-!
# Longer streams

What a reader makes of a stream does not depend on the whole bytes that follow: put behind the
stream, they are left over together with what was left over before (`ReadsOn`). Readers that stop
after a number of steps read on with any greater number of them (`reads_on_tokens`,
`reads_on_blocks`), and so the data of a stream are the same with anything behind it
(`reads_on_inflate`).
-/

namespace TunnelKeeper.Deflate

variable {α β : Type}

/-- What one reader makes of a stream, another one makes of it with whole bytes behind it, which
it leaves over. -/
def ReadsOn (x y : BitReader α) : Prop :=
  ∀ ⦃bits more rest : List Bool⦄ ⦃a : α⦄, more.length % 8 = 0 → x bits = .ok (a, rest) →
    y (bits ++ more) = .ok (a, rest ++ more)

/-! ## Sequences -/

/-- A sequence that succeeded has a first reader that did. -/
theorem of_read_bind {x : BitReader α} {f : α → BitReader β} {bits last : List Bool} {b : β}
    (h : (x >>= f) bits = .ok (b, last)) :
    ∃ a rest, x bits = .ok (a, rest) ∧ f a rest = .ok (b, last) := by
  cases hx : x bits with
  | error fault =>
      rw [read_bind_error hx] at h
      cases h
  | ok read =>
      rw [read_bind (show x bits = .ok (read.1, read.2) from hx)] at h
      exact ⟨read.1, read.2, rfl, h⟩

theorem ReadsOn.bind {x y : BitReader α} {f g : α → BitReader β} (hfirst : ReadsOn x y)
    (hnext : ∀ a, ReadsOn (f a) (g a)) : ReadsOn (x >>= f) (y >>= g) := by
  intro bits more last b hmore h
  obtain ⟨a, rest, hx, hf⟩ := of_read_bind h
  rw [read_bind (hfirst hmore hx)]
  exact hnext a hmore hf

theorem reads_on_pure (a : α) : ReadsOn (pure a) (pure a) := by
  intro bits more rest b _ h
  cases h
  rfl

/-- Nothing is asked where a reader fails. -/
theorem reads_on_throw (fault : StreamFault) (y : BitReader α) : ReadsOn (throw fault) y := by
  intro bits more rest a _ h
  cases h

theorem reads_on_lift (result : Except StreamFault α) :
    ReadsOn (liftM result : BitReader α) (liftM result) := by
  cases result with
  | error fault => exact reads_on_throw fault _
  | ok a => exact reads_on_pure a

/-! ## Bits and numbers -/

theorem reads_on_bit : ReadsOn readBit readBit := by
  intro bits more rest b _ h
  cases bits with
  | nil => cases h
  | cons c bits =>
      cases h
      rfl

theorem reads_on_number (count : Nat) : ReadsOn (readNumber count) (readNumber count) := by
  induction count with
  | zero => exact reads_on_pure 0
  | succ count ih => exact reads_on_bit.bind fun b => ih.bind fun n => reads_on_pure _

/-- Whole bytes behind a stream do not move its next byte. -/
theorem reads_on_align : ReadsOn align align := by
  intro bits more rest _ hmore h
  cases h
  have hplace : (bits ++ more).length % 8 = bits.length % 8 := by
    rw [List.length_append]
    omega
  show Except.ok ((), (bits ++ more).drop ((bits ++ more).length % 8)) = _
  rw [hplace, List.drop_append_of_le_length (Nat.mod_le _ _)]

/-- A reader that is told how many bits there are. -/
theorem reads_on_get {f : List Bool → BitReader α}
    (h : ∀ bits more, more.length % 8 = 0 → ReadsOn (f bits) (f (bits ++ more))) :
    ReadsOn (get >>= f) (get >>= f) := by
  intro bits more rest a hmore hread
  rw [read_bind (read_get bits)] at hread
  rw [read_bind (read_get (bits ++ more))]
  exact h bits more hmore hmore hread

/-! ## Tokens -/

theorem Tree.reads_on_decode (tree : Tree) : ReadsOn tree.decode tree.decode := by
  induction tree with
  | empty => exact reads_on_throw _ _
  | leaf symbol => exact reads_on_pure symbol
  | fork zero one hzero hone =>
      refine reads_on_bit.bind fun b => ?_
      cases b with
      | false => exact hzero
      | true => exact hone

theorem reads_on_range (ranges : List (Nat × Nat)) (place : Nat) :
    ReadsOn (readRange ranges place) (readRange ranges place) := by
  unfold readRange
  cases ranges[place]? with
  | none => exact reads_on_throw _ _
  | some range => exact (reads_on_number _).bind fun n => reads_on_pure _

theorem reads_on_token (literals distances : Tree) :
    ReadsOn (readToken literals distances) (readToken literals distances) := by
  refine literals.reads_on_decode.bind fun symbol => ?_
  split
  · exact reads_on_pure _
  · split
    · exact reads_on_pure _
    · refine (reads_on_range _ _).bind fun length => ?_
      refine distances.reads_on_decode.bind fun place => ?_
      exact (reads_on_range _ _).bind fun distance => reads_on_pure _

/-- More steps than are needed to the end of a block change nothing. -/
theorem reads_on_tokens (literals distances : Tree) {fuel fuel' : Nat} (h : fuel ≤ fuel')
    (out : Array UInt8) :
    ReadsOn (readTokens literals distances fuel out) (readTokens literals distances fuel' out) := by
  induction fuel generalizing fuel' out with
  | zero => exact reads_on_throw _ _
  | succ fuel ih =>
      obtain ⟨fuel', rfl⟩ : ∃ n, fuel' = n + 1 := ⟨fuel' - 1, by omega⟩
      refine (reads_on_token literals distances).bind fun token => ?_
      cases token with
      | none => exact reads_on_pure out
      | some token =>
          simp only
          cases token.append out with
          | none => exact reads_on_throw _ _
          | some next => exact ih (Nat.le_of_succ_le_succ h) next

theorem reads_on_coded (literals distances : Tree) (out : Array UInt8) :
    ReadsOn (readCoded literals distances out) (readCoded literals distances out) := by
  refine reads_on_get fun bits more _ => reads_on_tokens literals distances ?_ out
  rw [List.length_append]
  omega

/-! ## Codes -/

theorem reads_on_triples (count : Nat) : ReadsOn (readTriples count) (readTriples count) := by
  induction count with
  | zero => exact reads_on_pure []
  | succ count ih =>
      exact (reads_on_number 3).bind fun n => ih.bind fun rest => reads_on_pure _

theorem reads_on_lengths (tree : Tree) (count fuel : Nat) (done : List Nat) :
    ReadsOn (readLengths tree count fuel done) (readLengths tree count fuel done) := by
  induction fuel generalizing done with
  | zero => exact reads_on_throw _ _
  | succ fuel ih =>
      unfold readLengths
      split
      · exact reads_on_pure _
      · split
        · exact reads_on_throw _ _
        · refine tree.reads_on_decode.bind fun symbol => ?_
          split
          · exact ih _
          · split
            · exact reads_on_throw _ _
            · exact (reads_on_number _).bind fun n => ih _

theorem reads_on_codes : ReadsOn readCodes readCodes := by
  refine (reads_on_number 5).bind fun literalCount => ?_
  refine (reads_on_number 5).bind fun distanceCount => ?_
  refine (reads_on_number 4).bind fun lengthCount => ?_
  simp only
  split
  · exact reads_on_throw _ _
  · refine (reads_on_triples _).bind fun triples => ?_
    refine (reads_on_lift _).bind fun lengthTree => ?_
    refine (reads_on_lengths _ _ _ _).bind fun lengths => ?_
    refine (reads_on_lift _).bind fun literals => ?_
    exact (reads_on_lift _).bind fun distances => reads_on_pure _

/-! ## Blocks -/

theorem reads_on_bytes (out : Array UInt8) (count : Nat) :
    ReadsOn (readBytes out count) (readBytes out count) := by
  induction count generalizing out with
  | zero => exact reads_on_pure out
  | succ count ih => exact (reads_on_number 8).bind fun n => ih _

theorem reads_on_stored (out : Array UInt8) : ReadsOn (readStored out) (readStored out) := by
  refine reads_on_align.bind fun _ => ?_
  refine (reads_on_number 16).bind fun length => ?_
  refine (reads_on_number 16).bind fun complement => ?_
  split
  · exact reads_on_bytes out length
  · exact reads_on_throw _ _

theorem reads_on_block (out : Array UInt8) : ReadsOn (readBlock out) (readBlock out) := by
  refine (reads_on_number 2).bind fun kind => ?_
  simp only
  split
  · exact reads_on_stored out
  · exact reads_on_coded _ _ out
  · exact reads_on_codes.bind fun codes => reads_on_coded _ _ out
  · exact reads_on_throw _ _

/-- More steps than there are blocks change nothing. -/
theorem reads_on_blocks {fuel fuel' : Nat} (h : fuel ≤ fuel') (out : Array UInt8) :
    ReadsOn (readBlocks fuel out) (readBlocks fuel' out) := by
  induction fuel generalizing fuel' out with
  | zero => exact reads_on_throw _ _
  | succ fuel ih =>
      obtain ⟨fuel', rfl⟩ : ∃ n, fuel' = n + 1 := ⟨fuel' - 1, by omega⟩
      refine reads_on_bit.bind fun last => (reads_on_block out).bind fun next => ?_
      cases last with
      | true => exact reads_on_pure next
      | false => exact ih (Nat.le_of_succ_le_succ h) next

/-- The data of a stream are the same with whole bytes behind it. -/
theorem reads_on_inflate : ReadsOn inflate inflate := by
  refine reads_on_get fun bits more _ => reads_on_blocks ?_ #[]
  rw [List.length_append]
  omega

end TunnelKeeper.Deflate
