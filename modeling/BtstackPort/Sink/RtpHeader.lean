import BtstackPort.Sink.Header
/-!
# Media packet headers are RTP headers

`avdtp_media_packet_header_t` has the fields of an RTP header. On the wire the version is in the two highest bits
of the first byte and the CSRC count in its four lowest, the marker is the highest bit of the second;
`read_media_data_header` takes each of them from the opposite end of its byte, and skips neither the CSRC words
nor an extension (`a2dp_sink.c:562-580`). `read_rtp_header` says what it returns, `decodes_rtp_header_iff` for
which headers that is right.
-/

namespace BtstackPort

variable {P : Platform}

/-! ## The wire format -/

def bigEndian16 (x : UInt16) : List UInt8 := [UInt8.ofNat (x.toNat / 256), UInt8.ofNat x.toNat]

def bigEndian32 (x : UInt32) : List UInt8 :=
  [UInt8.ofNat (x.toNat / 256 ^ 3), UInt8.ofNat (x.toNat / 256 ^ 2), UInt8.ofNat (x.toNat / 256),
    UInt8.ofNat x.toNat]

theorem length_flatMap_bigEndian32 (words : List UInt32) : (words.flatMap bigEndian32).length = 4 * words.length := by
  induction words with
  | nil => rfl
  | cons x words ih =>
    rw [List.flatMap_cons, List.length_append, ih, List.length_cons]
    simp only [bigEndian32, List.length_cons, List.length_nil]
    omega

/-- Two bytes read back, most significant first. -/
theorem read_bigEndian16 (x : UInt16) : 256 * (x.toNat / 256 % 2 ^ 8) + x.toNat % 2 ^ 8 = x.toNat := by
  have hx := x.toNat_lt
  omega

theorem read_bigEndian32 (x : UInt32) :
    256 ^ 3 * (x.toNat / 256 ^ 3 % 2 ^ 8) + 256 ^ 2 * (x.toNat / 256 ^ 2 % 2 ^ 8) + 256 * (x.toNat / 256 % 2 ^ 8) +
      x.toNat % 2 ^ 8 = x.toNat := by
  have hx := x.toNat_lt
  omega

/-- A header extension: a 16-bit profile, the number of words, the words. -/
structure RtpExtension where
  profile : UInt16
  words : List UInt32
  length_lt : words.length < 2 ^ 16

def RtpExtension.bytes (x : RtpExtension) : List UInt8 :=
  bigEndian16 x.profile ++ bigEndian16 (UInt16.ofNat x.words.length) ++ x.words.flatMap bigEndian32

structure RtpHeader where
  version : Fin 4
  padding : Bool
  extension : Option RtpExtension
  marker : Bool
  payloadType : Fin 128
  sequenceNumber : UInt16
  timestamp : UInt32
  synchronizationSource : UInt32
  csrc : List UInt32
  csrc_le : csrc.length ≤ 15

namespace RtpHeader

/-- Version, padding, extension and CSRC count, from the highest bit down. -/
def firstByte (h : RtpHeader) : Nat :=
  h.version * 64 + h.padding.toNat * 32 + h.extension.isSome.toNat * 16 + h.csrc.length

/-- Marker and payload type. -/
def secondByte (h : RtpHeader) : Nat := h.marker.toNat * 128 + h.payloadType

/-- What follows the fixed part. -/
def variablePart (h : RtpHeader) : List UInt8 :=
  h.csrc.flatMap bigEndian32 ++ (h.extension.map RtpExtension.bytes).getD []

def bytes (h : RtpHeader) : List UInt8 :=
  UInt8.ofNat h.firstByte :: UInt8.ofNat h.secondByte ::
    (bigEndian16 h.sequenceNumber ++ bigEndian32 h.timestamp ++ bigEndian32 h.synchronizationSource ++
      h.variablePart)

/-- The field values that `avdtp_media_packet_header_t` has names for. -/
def fields (h : RtpHeader) : AvdtpMediaPacketHeader where
  version := h.version
  padding := h.padding.toNat
  extension := h.extension.isSome.toNat
  csrcCount := h.csrc.length
  marker := h.marker.toNat
  payloadType := h.payloadType
  sequenceNumber := h.sequenceNumber.toNat
  timestamp := h.timestamp.toNat
  synchronizationSource := h.synchronizationSource.toNat

theorem firstByte_lt (h : RtpHeader) : h.firstByte < 256 := by
  have hv := h.version.isLt
  have hp := h.padding.toNat_le
  have hx := h.extension.isSome.toNat_le
  have hc := h.csrc_le
  unfold firstByte
  omega

theorem secondByte_lt (h : RtpHeader) : h.secondByte < 256 := by
  have hm := h.marker.toNat_le
  have hp := h.payloadType.isLt
  unfold secondByte
  omega

theorem length_bytes (h : RtpHeader) : h.bytes.length = 12 + h.variablePart.length := by
  simp [bytes, bigEndian16, bigEndian32]
  omega

/-- The variable part is empty only without CSRC words and extension. -/
theorem variablePart_eq_nil (h : RtpHeader) : h.variablePart.length = 0 ↔ h.csrc = [] ∧ h.extension = none := by
  unfold variablePart
  rw [List.length_append, length_flatMap_bigEndian32]
  cases h.extension with
  | none =>
    simp only [Option.map_none, Option.getD_none, List.length_nil, Nat.add_zero, and_true]
    rw [← List.length_eq_zero_iff]
    omega
  | some x =>
    simp only [Option.map_some, Option.getD_some, reduceCtorEq, and_false, iff_false]
    simp [RtpExtension.bytes, bigEndian16]

end RtpHeader

/-! ## What the code reads -/

/-- What `read_media_data_header` makes of an RTP header. -/
def misread (h : RtpHeader) : AvdtpMediaPacketHeader where
  version := h.csrc.length % 4
  padding := h.csrc.length / 4 % 2
  extension := h.csrc.length / 8 % 2
  csrcCount := h.version * 4 + h.padding.toNat * 2 + h.extension.isSome.toNat
  marker := h.payloadType % 2
  payloadType := h.marker.toNat * 64 + h.payloadType / 2
  sequenceNumber := h.sequenceNumber.toNat
  timestamp := h.timestamp.toNat
  synchronizationSource := h.synchronizationSource.toNat

/-- **`read_media_data_header` (`a2dp_sink.c:549`) on an RTP header**: it succeeds, the three long fields are right,
the bit fields are mirrored and the offset is always 12. -/
theorem read_rtp_header (h : RtpHeader) (payload : List UInt8) :
    readMediaDataHeader P (h.bytes ++ payload) (h.bytes ++ payload).length 0 = some (12, misread h) := by
  have hfirst := h.firstByte_lt
  have hsecond := h.secondByte_lt
  have hlen : ¬ (h.bytes ++ payload).length - 0 < 12 := by
    rw [List.length_append, h.length_bytes]
    omega
  rw [readMediaDataHeader, if_neg hlen]
  simp only [Nat.zero_add, P.util.bigEndianRead16_eq, P.util.bigEndianRead32_eq]
  simp only [RtpHeader.bytes, bigEndian16, bigEndian32, List.cons_append, List.nil_append, byteAt_zero, byteAt_succ,
    UInt8.toNat_ofNat', read_bigEndian16, read_bigEndian32, Nat.mod_eq_of_lt hfirst, Nat.mod_eq_of_lt hsecond]
  have hv := h.version.isLt
  have hp := h.padding.toNat_le
  have hx := h.extension.isSome.toNat_le
  have hc := h.csrc_le
  have hm := h.marker.toNat_le
  have ht := h.payloadType.isLt
  refine congrArg some (Prod.ext rfl ?_)
  simp only [misread, AvdtpMediaPacketHeader.mk.injEq, and_true]
  refine ⟨?_, ?_, ?_, ?_, ?_, ?_⟩
  · rw [Nat.and_two_pow_sub_one_eq_mod _ 2, RtpHeader.firstByte]; omega
  · rw [P.util.getBit16_eq _ _ (by omega), RtpHeader.firstByte]; omega
  · rw [P.util.getBit16_eq _ _ (by omega), RtpHeader.firstByte]; omega
  · rw [Nat.shiftRight_eq_div_pow, Nat.and_two_pow_sub_one_eq_mod _ 4, RtpHeader.firstByte]; omega
  · rw [P.util.getBit16_eq _ _ (by omega), RtpHeader.secondByte]; omega
  · rw [Nat.shiftRight_eq_div_pow, Nat.and_two_pow_sub_one_eq_mod _ 7, RtpHeader.secondByte]; omega

/-- **Decoding undoes encoding** exactly for version 0 without padding, extension and CSRC words, and with
marker and payload type all zeros or all ones. -/
theorem decodes_rtp_header_iff (h : RtpHeader) (payload : List UInt8) :
    readMediaDataHeader P (h.bytes ++ payload) (h.bytes ++ payload).length 0 = some (h.bytes.length, h.fields) ↔
      h.version = 0 ∧ h.padding = false ∧ h.extension = none ∧ h.csrc = [] ∧
        (h.marker = false ∧ h.payloadType = 0 ∨ h.marker = true ∧ h.payloadType = 127) := by
  rw [read_rtp_header, Option.some.injEq, Prod.mk.injEq]
  have hlen := h.length_bytes
  constructor
  · rintro ⟨hoff, heq⟩
    obtain ⟨hcsrc, hext⟩ := h.variablePart_eq_nil.1 (by omega)
    simp only [misread, RtpHeader.fields, AvdtpMediaPacketHeader.mk.injEq, hcsrc, hext, List.length_nil,
      Option.isSome_none, Bool.toNat_false] at heq
    obtain ⟨hv, hp, -, -, hm, ht, -⟩ := heq
    have hv' : h.version = 0 := Fin.ext hv.symm
    have hp' : h.padding = false := by
      cases hpad : h.padding with
      | false => rfl
      | true => rw [hpad] at hp; cases hp
    refine ⟨hv', hp', hext, hcsrc, ?_⟩
    cases hmark : h.marker with
    | false =>
      left
      rw [hmark, Bool.toNat_false] at hm ht
      exact ⟨rfl, Fin.ext (by show h.payloadType.val = 0; omega)⟩
    | true =>
      right
      rw [hmark, Bool.toNat_true] at hm ht
      exact ⟨rfl, Fin.ext (by show h.payloadType.val = 127; omega)⟩
  · rintro ⟨hv, hp, hext, hcsrc, hmp⟩
    have hoff := h.variablePart_eq_nil.2 ⟨hcsrc, hext⟩
    refine ⟨by omega, ?_⟩
    unfold misread RtpHeader.fields
    rcases hmp with ⟨hm, ht⟩ | ⟨hm, ht⟩
    · rw [hv, hp, hext, hcsrc, hm, ht]; rfl
    · rw [hv, hp, hext, hcsrc, hm, ht]; rfl

/-- An ordinary RTP header: version 2, payload type 96, one CSRC word. -/
def ordinaryRtpHeader : RtpHeader := ⟨2, false, none, false, 96, 1, 0, 0, [5], by decide⟩

/-- It is read as version 1, 8 CSRC words and payload type 48, and its CSRC word stays in front of the payload. -/
theorem ordinaryRtpHeader_misread :
    readMediaDataHeader (.reference true) (ordinaryRtpHeader.bytes ++ List.replicate 12 0) 28 0 =
        some (12, ⟨1, 0, 0, 8, 0, 48, 1, 0, 0⟩) ∧
      ordinaryRtpHeader.bytes.length = 16 ∧ ordinaryRtpHeader.fields = ⟨2, 0, 0, 1, 0, 96, 1, 0, 0⟩ ∧
      readMediaDataHeader (.reference true) (ordinaryRtpHeader.bytes ++ List.replicate 12 0) 28 0 ≠
        some (ordinaryRtpHeader.bytes.length, ordinaryRtpHeader.fields) :=
  ⟨rfl, rfl, rfl, by decide⟩

end BtstackPort
