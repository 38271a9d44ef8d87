import TunnelKeeper.Proofs.Deflate.Code

/-!
# Copies of earlier bytes

The tokens of some bytes stand for these bytes (`expand_tokens`), whatever places the table
offers: a place becomes a copy only for the bytes that agree. The invariant of the search is
`Made`: the tokens so far are valid and stand for the bytes before the place that is reached.
-/

namespace TunnelKeeper.Deflate

variable {x : Array UInt8}

/-! ## Agreement -/

/-- Bytes that agree from two places on, within the bounds of a copy. -/
structure Agrees (x : Array UInt8) (i j length : Nat) : Prop where
  earlier : j < i
  near : i - j ≤ windowSize
  short : length ≤ greatestCopy
  within : i + length ≤ x.size
  same : ∀ k < length, x[j + k]? = x[i + k]?

theorem agreement_le (i j limit : Nat) : agreement x i j limit ≤ limit := by
  induction limit generalizing i j with
  | zero => exact Nat.le_refl 0
  | succ limit ih =>
      rw [agreement]
      split
      · exact Nat.succ_le_succ (ih _ _)
      · exact Nat.zero_le _

/-- The bytes that agree are all there. -/
theorem add_agreement_le {j : Nat} (hj : j ≤ x.size) (i limit : Nat) :
    j + agreement x i j limit ≤ x.size := by
  induction limit generalizing i j with
  | zero => exact hj
  | succ limit ih =>
      rw [agreement]
      split
      · next h =>
          have hrest := ih (j := j + 1) h.1 (i + 1)
          omega
      · exact hj

theorem agreement_same {i j limit k : Nat} (hk : k < agreement x i j limit) :
    x[i + k]? = x[j + k]? := by
  induction limit generalizing i j k with
  | zero => exact absurd hk (Nat.not_lt_zero k)
  | succ limit ih =>
      rw [agreement] at hk
      split at hk
      · next h =>
          cases k with
          | zero => exact h.2
          | succ k =>
              have hsame := ih (Nat.lt_of_succ_lt_succ hk)
              rw [Nat.add_right_comm, Nat.add_right_comm j] at hsame
              exact hsame
      · exact absurd hk (Nat.not_lt_zero _)

/-- A copy that is found among earlier places agrees with the bytes it stands for. -/
theorem longest_agreement_agrees {i : Nat} (hi : i ≤ x.size) (places : List Nat)
    (hpos : 0 < (longestAgreement x i places).1) :
    Agrees x i (longestAgreement x i places).2 (longestAgreement x i places).1 := by
  induction places with
  | nil => exact absurd hpos (Nat.not_lt_zero 0)
  | cons j places ih =>
      rw [longestAgreement] at hpos ⊢
      simp only at hpos ⊢
      -- The place is tried only if a copy may reach it, and it is kept only if more bytes agree
      -- than at the best of the other places.
      split at hpos
      · next hplace =>
          rw [if_pos hplace]
          split at hpos
          · next hbetter =>
              rw [if_pos hbetter]
              exact ⟨hplace.1, hplace.2, agreement_le _ _ _, add_agreement_le hi _ _,
                fun k hk => agreement_same hk⟩
          · next hbetter =>
              rw [if_neg hbetter]
              exact ih hpos
      · next hplace =>
          rw [if_neg hplace]
          exact ih hpos

/-! ## Copies -/

/-- The bytes before a place, with the byte there. -/
theorem push_extract {i : Nat} (h : i < x.size) :
    (x.extract 0 i).push x[i] = x.extract 0 (i + 1) := by
  apply Array.toList_inj.mp
  simp [List.take_add_one, h]

/-- A copy of bytes that agree goes on with the data. -/
theorem append_copy_extract {i distance length : Nat} (hpos : 0 < distance)
    (hdistance : distance ≤ i) (hlength : i + length ≤ x.size)
    (hsame : ∀ k < length, x[i - distance + k]? = x[i + k]?) :
    appendCopy (x.extract 0 i) distance length = x.extract 0 (i + length) := by
  induction length generalizing i with
  | zero => rfl
  | succ length ih =>
      have hi : i < x.size := by omega
      have hback : i - distance < i := by omega
      -- The copied byte is taken from the output so far, which is the data before `i`. A copy may
      -- overlap itself: the output grows with every byte, and so does `i`.
      have hbyte : (x.extract 0 i)[(x.extract 0 i).size - distance]?.getD 0 = x[i] := by
        have hhere := hsame 0 (Nat.succ_pos length)
        simp only [Nat.add_zero] at hhere
        have hsize : (x.extract 0 i).size = i := by
          rw [Array.size_extract]
          omega
        rw [hsize, Array.getElem?_extract, if_pos (by omega), Nat.zero_add, hhere,
          Array.getElem?_eq_getElem hi]
        rfl
      rw [appendCopy, hbyte, push_extract hi, ih (by omega) (by omega), Nat.add_right_comm,
        Nat.add_assoc]
      intro k hk
      have hnext := hsame (k + 1) (Nat.succ_lt_succ hk)
      rw [show i + 1 - distance + k = i - distance + (k + 1) by omega,
        show i + 1 + k = i + (k + 1) by omega]
      exact hnext

/-! ## Tokens -/

theorem expand_append (out : Array UInt8) (ts rest : List Token) :
    expand out (ts ++ rest) = (expand out ts).bind (expand · rest) := by
  induction ts generalizing out with
  | nil => rfl
  | cons t ts ih =>
      rw [List.cons_append, expand, expand]
      cases t.append out with
      | none => rfl
      | some next => exact ih next

/-- Tokens that are valid and stand for the bytes before a place. -/
structure Made (x : Array UInt8) (i : Nat) (done : Array Token) : Prop where
  valid : ∀ t ∈ done.toList, t.Valid
  data : expand #[] done.toList = some (x.extract 0 i)

theorem Made.empty : Made x 0 #[] where
  valid := by simp
  data := by simp [expand]

/-- One more token carries the invariant on. -/
theorem Made.push {i next : Nat} {done : Array Token} (hmade : Made x i done) {t : Token}
    (hvalid : t.Valid) (happend : t.append (x.extract 0 i) = some (x.extract 0 next)) :
    Made x next (done.push t) where
  valid := by
    intro t' ht'
    rw [Array.toList_push, List.mem_append, List.mem_singleton] at ht'
    rcases ht' with ht' | rfl
    · exact hmade.valid t' ht'
    · exact hvalid
  data := by
    rw [Array.toList_push, expand_append, hmade.data, Option.bind_some, expand, happend]
    rfl

/-- A literal goes on with the data. -/
theorem Made.literal {i : Nat} {done : Array Token} (hmade : Made x i done) (hi : i < x.size) :
    Made x (i + 1) (done.push (.literal x[i])) :=
  hmade.push trivial (congrArg some (push_extract hi))

/-- A copy of bytes that agree goes on with the data. -/
theorem Made.copy {i j length : Nat} {done : Array Token} (hmade : Made x i done)
    (hleast : leastCopy ≤ length) (hagrees : Agrees x i j length) :
    Made x (i + length) (done.push (.copy length (i - j))) := by
  have hearlier := hagrees.earlier
  have hwithin := hagrees.within
  refine hmade.push ⟨hleast, hagrees.short, by omega, hagrees.near⟩ ?_
  have hsize : (x.extract 0 i).size = i := by
    rw [Array.size_extract]
    omega
  rw [Token.append, if_pos (by omega), append_copy_extract (by omega) (by omega) hwithin]
  intro k hk
  rw [show i - (i - j) + k = j + k by omega]
  exact hagrees.same k hk

/-- The search keeps the invariant up to the end of the data. -/
theorem tokens_from_made (tries : Nat) (table : Array (List Nat)) {done : Array Token} {i : Nat}
    (hi : i ≤ x.size) (hmade : Made x i done) :
    Made x x.size (tokensFrom tries x table done i) := by
  induction table, done, i using tokensFrom.induct tries x with
  | case1 table done i h r places later best hleast ih =>
      have hpos : 0 < best.1 := Nat.lt_of_lt_of_le (by decide) hleast
      have hagrees := longest_agreement_agrees hi places hpos
      have hmax : max 1 best.1 = best.1 := Nat.max_eq_right hpos
      rw [tokensFrom, dif_pos h]
      simp only
      rw [if_pos hleast]
      rw [hmax] at ih ⊢
      exact ih hagrees.within (hmade.copy hleast hagrees)
  | case2 table done i h r places later best hleast ih =>
      rw [tokensFrom, dif_pos h]
      simp only
      rw [if_neg hleast]
      exact ih h (hmade.literal h)
  | case3 table done i h =>
      -- No byte is left; the bounds of the search leave only this place.
      have hend : i = x.size := by omega
      rw [tokensFrom, dif_neg h, ← hend]
      exact hmade

/-- Every token that is found is valid. -/
theorem tokens_valid (tries : Nat) (x : Array UInt8) : ∀ t ∈ tokens tries x, t.Valid :=
  (tokens_from_made tries _ (Nat.zero_le _) Made.empty).valid

/-- The tokens of some bytes stand for them. -/
theorem expand_tokens (tries : Nat) (x : Array UInt8) : expand #[] (tokens tries x) = some x := by
  have hmade := tokens_from_made tries (Array.replicate tableSize []) (Nat.zero_le x.size)
    Made.empty
  rw [tokens, hmade.data, Array.extract_eq_self_of_le (Nat.le_refl _)]

end TunnelKeeper.Deflate
