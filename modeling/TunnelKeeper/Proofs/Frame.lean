import TunnelKeeper.Frame
import TunnelKeeper.Proofs.Deflate.Longer
import TunnelKeeper.Proofs.Deflate.Stream

/-!
# Frames read back

A zlib stream gives back the data at every level (`Zlib.decompress_compress`), and so does a frame
around it (`Frame.decode_encode`). Bytes that are too many for the length of a frame are refused
before anything is compressed.

A stream that is read is read alike with any bytes behind it (`Zlib.reads_on_stream`). So a stream
that is cut short cannot be read: nothing would be left over of the whole stream, but what was cut
off would be. `Frame.whole_and_sized` collects what this means for frames.
-/

namespace TunnelKeeper

open Deflate

namespace Zlib

/-! ## Numbers in four bytes -/

/-- The bytes of a number in four bytes, the highest first. -/
theorem four_bytes_value {n : Nat} (h : n < 2 ^ 32) :
    (((UInt8.ofNat (n / 16777216)).toNat * 256 + (UInt8.ofNat (n / 65536)).toNat) * 256 +
      (UInt8.ofNat (n / 256)).toNat) * 256 + (UInt8.ofNat n).toNat = n := by
  simp only [UInt8.toNat_ofNat']
  omega

/-- A number is read back from its four bytes. -/
theorem read_four_bytes {n : Nat} (h : n < 2 ^ 32) (rest : List Bool) :
    readFour (toBits (fourBytes n) ++ rest) = .ok (n, rest) := by
  have hbits : toBits (fourBytes n) ++ rest =
      numberBits 8 (UInt8.ofNat (n / 16777216)).toNat ++
        (numberBits 8 (UInt8.ofNat (n / 65536)).toNat ++
          (numberBits 8 (UInt8.ofNat (n / 256)).toNat ++
            (numberBits 8 (UInt8.ofNat n).toNat ++ rest))) := rfl
  rw [hbits, readFour, read_bind (read_number_number_bits (UInt8.toNat_lt _) _),
    read_bind (read_number_number_bits (UInt8.toNat_lt _) _),
    read_bind (read_number_number_bits (UInt8.toNat_lt _) _),
    read_bind (read_number_number_bits (UInt8.toNat_lt _) _), read_pure, four_bytes_value h]

/-! ## Checksums -/

/-- Both sums of a checksum stay below its modulus. -/
theorem checksum_sums_lt (bytes : List UInt8) {sums : Nat × Nat}
    (h : sums.1 < checksumBase ∧ sums.2 < checksumBase) :
    (bytes.foldl checksumStep sums).1 < checksumBase ∧
      (bytes.foldl checksumStep sums).2 < checksumBase := by
  induction bytes generalizing sums with
  | nil => exact h
  | cons b bytes ih =>
      rw [List.foldl_cons]
      exact ih ⟨Nat.mod_lt _ (by decide), Nat.mod_lt _ (by decide)⟩

/-- A checksum fits into four bytes. -/
theorem checksum_lt (bytes : List UInt8) : checksum bytes < 2 ^ 32 := by
  have hsums := checksum_sums_lt bytes (show (1, 0).1 < checksumBase ∧ (1, 0).2 < checksumBase by
    decide)
  simp only [checksumBase] at hsums
  simp only [checksum]
  omega

/-! ## Streams -/

theorem level_class_lt (level : Nat) : levelClass level < 4 := by
  unfold levelClass
  split
  · decide
  · split
    · decide
    · split <;> decide

/-- The header of every level is accepted. -/
theorem accepts_header (level : Nat) :
    ∃ second : UInt8, header level = [0x78, second] ∧ acceptsHeader 0x78 second.toNat := by
  -- Levels fall into four classes, and only the class stands in the header.
  have hclasses : ∀ c < 4, acceptsHeader 0x78
      (UInt8.ofNat (0x78 * 256 + c * 64 + (31 - (0x78 * 256 + c * 64) % 31))).toNat := by
    decide
  exact ⟨_, rfl, hclasses _ (level_class_lt level)⟩

/-- Compressed bytes are read back at every level, and nothing of them is left over. -/
theorem read_stream_compress (level : Nat) (bytes : List UInt8) :
    readStream (toBits (compress level bytes)) = .ok (bytes.toArray, []) := by
  obtain ⟨second, hheader, haccepts⟩ := accepts_header level
  obtain ⟨k, hk, hwhole, hpack⟩ := to_bits_pack (Deflate.compress level bytes)
  -- The stream is the header, the blocks, zeros up to a whole byte, and the checksum.
  have hbits : toBits (compress level bytes) =
      numberBits 8 (0x78 : UInt8).toNat ++ (numberBits 8 second.toNat ++
        (Deflate.compress level bytes ++
          (List.replicate k false ++ (toBits (fourBytes (checksum bytes)) ++ [])))) := by
    rw [compress, hheader, to_bits_append, to_bits_append, hpack]
    simp only [to_bits_cons, List.append_assoc, List.append_nil]
    rfl
  have hchecksum : (toBits (fourBytes (checksum bytes)) ++ []).length % 8 = 0 := by
    simp only [List.length_append, length_to_bits, List.length_nil]
    omega
  -- The checksum is whole bytes, so aligning drops these zeros and nothing else.
  have halign := align_append (List.replicate k false) (by simpa using hk) hchecksum
  have hstream : ((Deflate.compress level bytes).length + (List.replicate k false ++
      (toBits (fourBytes (checksum bytes)) ++ [])).length) % 8 = 0 := by
    rw [List.length_append, List.length_replicate]
    omega
  have hinflate := inflate_compress level bytes hstream
  have hok : (!acceptsHeader (0x78 : UInt8).toNat second.toNat) = false := by
    rw [Bool.not_eq_false']
    exact haccepts
  rw [hbits, readStream, read_bind (read_number_number_bits (UInt8.toNat_lt _) _),
    read_bind (read_number_number_bits (UInt8.toNat_lt _) _), hok]
  simp only [Bool.false_eq_true, if_false]
  rw [read_bind hinflate, read_bind halign, read_bind (read_four_bytes (checksum_lt bytes) []),
    if_pos rfl]
  rfl

/-- Compressed bytes are read back at every level. -/
theorem decompress_compress (level : Nat) (bytes : List UInt8) :
    decompress (compress level bytes) = .ok bytes := by
  rw [decompress, read_stream_compress]

/-! ## Streams with bytes behind them, and without their end -/

theorem reads_on_four : ReadsOn readFour readFour := by
  refine (reads_on_number 8).bind fun a => (reads_on_number 8).bind fun b => ?_
  exact (reads_on_number 8).bind fun c => (reads_on_number 8).bind fun d => reads_on_pure _

/-- A stream is read alike with whole bytes behind it. -/
theorem reads_on_stream : ReadsOn readStream readStream := by
  refine (reads_on_number 8).bind fun first => (reads_on_number 8).bind fun second => ?_
  split
  · exact reads_on_throw _ _
  · refine reads_on_inflate.bind fun data => reads_on_align.bind fun _ => ?_
    refine reads_on_four.bind fun sum => ?_
    split
    · exact reads_on_pure data
    · exact reads_on_throw _ _

/-- Bytes behind a stream do not count. -/
theorem decompress_append {stream data : List UInt8} (h : decompress stream = .ok data)
    (extra : List UInt8) : decompress (stream ++ extra) = .ok data := by
  unfold decompress at h ⊢
  cases hread : readStream (toBits stream) with
  | error fault =>
      rw [hread] at h
      cases h
  | ok read =>
      have hlonger := reads_on_stream (show (toBits extra).length % 8 = 0 by simp) hread
      rw [hread] at h
      rw [to_bits_append, hlonger]
      exact h

/-- Compressed bytes cannot be read without all of their end. -/
theorem decompress_cut {level : Nat} {bytes stream cut : List UInt8} (hcut : cut ≠ [])
    (h : compress level bytes = stream ++ cut) : ∃ fault, decompress stream = .error fault := by
  unfold decompress
  cases hread : readStream (toBits stream) with
  | error fault => exact ⟨fault, rfl⟩
  | ok read =>
      -- The whole stream would be read with the bits of `cut` left over.
      have hlonger := reads_on_stream (show (toBits cut).length % 8 = 0 by simp) hread
      have hwhole := read_stream_compress level bytes
      rw [h, to_bits_append, hlonger] at hwhole
      have hleft : read.2 ++ toBits cut = [] := (Prod.mk.inj (Except.ok.inj hwhole)).2
      have hnone : (toBits cut).length = 0 :=
        List.length_eq_zero_iff.mpr (List.append_eq_nil_iff.mp hleft).2
      rw [length_to_bits] at hnone
      exact absurd (List.length_eq_zero_iff.mp (by omega)) hcut

end Zlib

namespace Frame

/-- A frame is refused exactly when the length of the data does not fit into four bytes. -/
theorem encode_eq_ok_iff (bytes : List UInt8) (level : Nat) :
    (∃ frame, encode bytes level = .ok frame) ↔ bytes.length < 2 ^ 32 := by
  unfold encode
  split
  · next h => exact ⟨fun _ => h, fun _ => ⟨_, rfl⟩⟩
  · next h => exact ⟨fun ⟨_, heq⟩ => (nomatch heq), fun hlt => absurd hlt h⟩

/-- The bytes of a frame are read back at every level. -/
theorem decode_encode {bytes frame : List UInt8} {level : Nat}
    (h : encode bytes level = .ok frame) : decode frame = .ok bytes := by
  have hlength := (encode_eq_ok_iff bytes level).mp ⟨frame, h⟩
  rw [encode, if_pos (show bytes.length < 0x100000000 from hlength)] at h
  obtain rfl := Except.ok.inj h
  show ((Zlib.decompress (Zlib.compress (min level greatestLevel) bytes)).mapError
    FrameFault.stream >>= _) = _
  rw [Zlib.decompress_compress]
  show (if bytes.length = _ then Except.ok bytes else _) = _
  rw [if_pos (Zlib.four_bytes_value hlength).symm]

/-! ## The length in front -/

/-- The number of some bytes, the highest first. -/
def bigEndian (bytes : List UInt8) : Nat := bytes.foldl (fun n b => n * 256 + b.toNat) 0

/-- Four bytes are known by their number. -/
theorem big_endian_inj {x y : List UInt8} (hx : x.length = 4) (hy : y.length = 4)
    (h : bigEndian x = bigEndian y) : x = y := by
  match x, y, hx, hy with
  | [a, b, c, d], [a', b', c', d'], _, _ =>
      have hlt : ∀ u : UInt8, u.toNat < 256 := UInt8.toNat_lt
      have ha := hlt a
      have hb := hlt b
      have hc := hlt c
      have hd := hlt d
      have ha' := hlt a'
      have hb' := hlt b'
      have hc' := hlt c'
      have hd' := hlt d'
      simp only [bigEndian, List.foldl_cons, List.foldl_nil] at h
      simp only [List.cons.injEq, ← UInt8.toNat_inj, and_true]
      omega

/-- A frame is the number of its bytes in four bytes, and their stream. -/
theorem encode_eq {bytes : List UInt8} (level : Nat) (h : bytes.length < 2 ^ 32) :
    ∃ header, header.length = 4 ∧ bigEndian header = bytes.length ∧
      encode bytes level = .ok (header ++ Zlib.compress (min level greatestLevel) bytes) := by
  refine ⟨Zlib.fourBytes bytes.length, rfl, ?_, if_pos h⟩
  have hvalue := Zlib.four_bytes_value h
  simp only [Zlib.fourBytes, bigEndian, List.foldl_cons, List.foldl_nil, Nat.zero_mul,
    Nat.zero_add]
  exact hvalue

/-- A frame behind four bytes is its stream, whose data are as many as the four bytes say. -/
theorem decode_append {header : List UInt8} (hheader : header.length = 4) (stream : List UInt8) :
    decode (header ++ stream) =
      match Zlib.decompress stream with
      | .error fault => .error (.stream fault)
      | .ok data =>
        if data.length = bigEndian header then .ok data
        else .error (.lengthMismatch (bigEndian header) data.length) := by
  match header, hheader with
  | [a, b, c, d], _ =>
      have hvalue : bigEndian [a, b, c, d] =
          ((a.toNat * 256 + b.toNat) * 256 + c.toNat) * 256 + d.toNat := by
        simp only [bigEndian, List.foldl_cons, List.foldl_nil, Nat.zero_mul, Nat.zero_add]
      rw [hvalue]
      show ((Zlib.decompress stream).mapError FrameFault.stream >>= _) = _
      cases Zlib.decompress stream with
      | error fault => rfl
      | ok data => rfl

/-- Nothing is a frame that has no room for the four bytes. -/
theorem decode_of_length_lt {frame : List UInt8} (h : frame.length < 4) :
    decode frame = .error .headerMissing := by
  match frame, h with
  | [], _ | [_], _ | [_, _], _ | [_, _, _], _ => rfl

/-- What is read from a frame is as long as its first four bytes say. -/
theorem length_of_decode {frame bytes : List UInt8} (h : decode frame = .ok bytes) :
    4 ≤ frame.length ∧ bytes.length = bigEndian (frame.take 4) := by
  by_cases hlength : frame.length < 4
  · rw [decode_of_length_lt hlength] at h
    cases h
  · have hheader : (frame.take 4).length = 4 := by
      rw [List.length_take]
      omega
    rw [← List.take_append_drop 4 frame, decode_append hheader] at h
    refine ⟨Nat.le_of_not_lt hlength, ?_⟩
    split at h
    · cases h
    · split at h
      · next hsame =>
          cases h
          exact hsame
      · cases h

/-- Every frame begins with the number of its bytes, and is read back whatever follows it. It
cannot be read without all of its end, nor with another number in front. Whatever is read from any
bytes at all is as long as they say in front. -/
theorem whole_and_sized :
    (∀ (bytes : List UInt8) (level : Nat), bytes.length < 2 ^ 32 →
      ∃ frame, encode bytes level = .ok frame ∧
        4 ≤ frame.length ∧ bigEndian (frame.take 4) = bytes.length ∧
        (∀ extra, decode (frame ++ extra) = .ok bytes) ∧
        (∀ n < frame.length, ∃ fault, decode (frame.take n) = .error fault) ∧
        ∀ header : List UInt8, header.length = 4 → header ≠ frame.take 4 →
          decode (header ++ frame.drop 4) =
            .error (.lengthMismatch (bigEndian header) bytes.length)) ∧
    ∀ frame bytes, decode frame = .ok bytes →
      4 ≤ frame.length ∧ bytes.length = bigEndian (frame.take 4) := by
  refine ⟨fun bytes level hlength => ?_, fun frame bytes => length_of_decode⟩
  obtain ⟨header, hheader, hvalue, hencode⟩ := encode_eq level hlength
  have hstream := Zlib.decompress_compress (min level greatestLevel) bytes
  have htake : (header ++ Zlib.compress (min level greatestLevel) bytes).take 4 = header :=
    List.take_left' hheader
  have hdrop : (header ++ Zlib.compress (min level greatestLevel) bytes).drop 4 =
      Zlib.compress (min level greatestLevel) bytes := List.drop_left' hheader
  refine ⟨_, hencode, ?_, ?_, fun extra => ?_, fun n hn => ?_, fun other hother hne => ?_⟩
  · rw [List.length_append]
    omega
  · rw [htake, hvalue]
  · rw [List.append_assoc, decode_append hheader, Zlib.decompress_append hstream]
    exact if_pos hvalue.symm
  · by_cases hshort : n < 4
    · refine ⟨_, decode_of_length_lt ?_⟩
      rw [List.length_take]
      omega
    · -- The cut is behind the first four bytes, so the stream has lost its end.
      have hstart := List.take_append_drop (n - 4) (Zlib.compress (min level greatestLevel) bytes)
      have hcut : (Zlib.compress (min level greatestLevel) bytes).drop (n - 4) ≠ [] := by
        rw [List.length_append, hheader] at hn
        rw [Ne, List.drop_eq_nil_iff]
        omega
      obtain ⟨fault, hfault⟩ := Zlib.decompress_cut hcut hstart.symm
      refine ⟨.stream fault, ?_⟩
      rw [List.take_append, hheader, List.take_of_length_le (by omega), decode_append hheader,
        hfault]
  · rw [htake] at hne
    rw [hdrop, decode_append hother, hstream]
    refine if_neg fun hsame => hne (big_endian_inj hother hheader ?_)
    rw [← hsame, hvalue]

/-- Five bytes, at a level above the greatest one: the frame cannot be cut short anywhere, and not
be said to hold nine bytes. -/
theorem whole_and_sized_hello :
    let bytes : List UInt8 := [104, 101, 108, 108, 111]
    bytes.length < 2 ^ 32 ∧ ∃ frame, encode bytes 42 = .ok frame ∧
      decode (frame ++ [0, 1, 2]) = .ok bytes ∧
      (∀ n < frame.length, ∃ fault, decode (frame.take n) = .error fault) ∧
      decode ([0, 0, 0, 9] ++ frame.drop 4) = .error (.lengthMismatch 9 5) ∧
      bytes.length = bigEndian ((frame ++ [0, 1, 2]).take 4) := by
  intro bytes
  obtain ⟨frame, hencode, -, hvalue, hread, hcut, hother⟩ := whole_and_sized.1 bytes 42 (by decide)
  have hne : ([0, 0, 0, 9] : List UInt8) ≠ frame.take 4 := by
    intro heq
    rw [← heq] at hvalue
    exact absurd hvalue (by decide)
  exact ⟨by decide, frame, hencode, hread _, hcut, hother _ rfl hne,
    (whole_and_sized.2 _ _ (hread [0, 1, 2])).2⟩

end Frame

end TunnelKeeper
