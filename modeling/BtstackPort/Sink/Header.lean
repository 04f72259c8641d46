import BtstackPort.Platform
/-!
# Media packet headers (`a2dp_sink.c:529-582`)

`read_media_data_header` and `read_sbc_header` return the new offset and the header, `none` standing for
the return value 0 (too few bytes; nothing is read then).

`mediaPayload` is the part of `handle_l2cap_media_data_packet` that runs before any state is touched
(`a2dp_sink.c:272-281`): both headers, and the bytes after them.
-/

namespace BtstackPort

structure AvdtpMediaPacketHeader where
  version : Nat
  padding : Nat
  extension : Nat
  csrcCount : Nat
  marker : Nat
  payloadType : Nat
  sequenceNumber : Nat
  timestamp : Nat
  synchronizationSource : Nat
deriving DecidableEq, Repr

structure AvdtpSbcCodecHeader where
  fragmentation : Nat
  startingPacket : Nat
  lastPacket : Nat
  numFrames : Nat
deriving DecidableEq, Repr

variable (P : Platform)

def readMediaDataHeader (packet : List UInt8) (size offset : Nat) : Option (Nat × AvdtpMediaPacketHeader) :=
  let mediaHeaderLen := 12
  let pos := offset
  if size - pos < mediaHeaderLen then none
  else
    some (pos + 12,
      { version := byteAt packet pos &&& 0x03
        padding := P.util.getBit16 (byteAt packet pos) 2
        extension := P.util.getBit16 (byteAt packet pos) 3
        csrcCount := (byteAt packet pos >>> 4) &&& 0x0F
        marker := P.util.getBit16 (byteAt packet (pos + 1)) 0
        payloadType := (byteAt packet (pos + 1) >>> 1) &&& 0x7F
        sequenceNumber := P.util.bigEndianRead16 packet (pos + 2)
        timestamp := P.util.bigEndianRead32 packet (pos + 4)
        synchronizationSource := P.util.bigEndianRead32 packet (pos + 8) })

def readSbcHeader (packet : List UInt8) (size offset : Nat) : Option (Nat × AvdtpSbcCodecHeader) :=
  let sbcHeaderLen := 12
  let pos := offset
  if size - pos < sbcHeaderLen then none
  else
    some (pos + 1,
      { fragmentation := P.util.getBit16 (byteAt packet pos) 7
        startingPacket := P.util.getBit16 (byteAt packet pos) 6
        lastPacket := P.util.getBit16 (byteAt packet pos) 5
        numFrames := byteAt packet pos &&& 0x0f })

/-- The SBC header and the payload of a packet that passes both header checks. -/
def mediaPayload (packet : List UInt8) : Option (AvdtpSbcCodecHeader × List UInt8) := do
  let (pos, _) ← readMediaDataHeader P packet packet.length 0
  let (pos, sbcHeader) ← readSbcHeader P packet packet.length pos
  return (sbcHeader, packet.drop pos)

/-! ## What passes the checks -/

variable {P}

/-- Both checks together ask for 24 bytes; the payload starts after 13. -/
theorem mediaPayload_eq_some {packet : List UInt8} {h : AvdtpSbcCodecHeader} {payload : List UInt8} :
    mediaPayload P packet = some (h, payload) ↔
      24 ≤ packet.length ∧ payload = packet.drop 13 ∧
        readSbcHeader P packet packet.length 12 = some (13, h) := by
  unfold mediaPayload readMediaDataHeader
  by_cases h12 : packet.length - 0 < 12
  · simp only [h12, if_true, Option.bind_eq_bind, Option.bind_none, reduceCtorEq, false_iff]
    omega
  · simp only [h12, if_false, Option.bind_eq_bind, Option.bind_some, Nat.zero_add]
    by_cases h24 : packet.length - 12 < 12
    · simp only [readSbcHeader, h24, if_true, Option.bind_none, reduceCtorEq, false_iff]
      omega
    · simp only [readSbcHeader, h24, if_false, Option.bind_some, Option.pure_def, Option.some.injEq,
        Prod.mk.injEq, true_and]
      constructor
      · rintro ⟨rfl, rfl⟩; exact ⟨by omega, rfl, rfl⟩
      · rintro ⟨-, rfl, rfl⟩; exact ⟨rfl, rfl⟩

theorem mediaPayload_numFrames {packet : List UInt8} {h : AvdtpSbcCodecHeader} {payload : List UInt8}
    (hp : mediaPayload P packet = some (h, payload)) : h.numFrames = byteAt packet 12 &&& 0x0f := by
  obtain ⟨hlen, -, hr⟩ := mediaPayload_eq_some.1 hp
  rw [readSbcHeader, if_neg (by omega)] at hr
  cases hr
  rfl

/-- A packet that passes has at least 11 bytes of payload. -/
theorem mediaPayload_length {packet : List UInt8} {h : AvdtpSbcCodecHeader} {payload : List UInt8}
    (hp : mediaPayload P packet = some (h, payload)) : 11 ≤ payload.length := by
  obtain ⟨hlen, rfl, -⟩ := mediaPayload_eq_some.1 hp
  simp; omega

theorem mediaPayload_ne_nil {packet : List UInt8} {h : AvdtpSbcCodecHeader} {payload : List UInt8}
    (hp : mediaPayload P packet = some (h, payload)) : payload ≠ [] := by
  rintro rfl
  simpa using mediaPayload_length hp

/-- The bytes of a media packet: 12 bytes of media header, the SBC header byte, the payload. -/
structure MediaPacket where
  header : List UInt8
  sbcHeader : UInt8
  payload : List UInt8
  header_length : header.length = 12

namespace MediaPacket

def bytes (m : MediaPacket) : List UInt8 := m.header ++ m.sbcHeader :: m.payload

/-- A packet with a blank media header. -/
def plain (sbcHeader : UInt8) (payload : List UInt8) : MediaPacket :=
  ⟨List.replicate 12 0, sbcHeader, payload, rfl⟩

/-- `num_frames` as the packet states it. -/
def numFrames (m : MediaPacket) : Nat := m.sbcHeader.toNat &&& 0x0f

theorem byteAt_twelve (m : MediaPacket) : byteAt m.bytes 12 = m.sbcHeader.toNat := by
  have h := m.header_length
  unfold byteAt bytes
  rw [List.getD_eq_getElem?_getD, List.getElem?_append_right (by omega), h]
  simp

theorem drop_thirteen (m : MediaPacket) : m.bytes.drop 13 = m.payload := by
  have h := m.header_length
  unfold bytes
  rw [List.drop_append, List.drop_eq_nil_of_le (by omega), h]
  simp

theorem length_bytes (m : MediaPacket) : m.bytes.length = 13 + m.payload.length := by
  have h := m.header_length
  simp [bytes, h]; omega

/-- Such a packet passes the checks exactly from 11 bytes of payload on. -/
theorem mediaPayload_bytes (m : MediaPacket) :
    (m.payload.length < 11 ∧ mediaPayload P m.bytes = none) ∨
      (11 ≤ m.payload.length ∧
        ∃ h, mediaPayload P m.bytes = some (h, m.payload) ∧ h.numFrames = m.numFrames) := by
  have hlen := m.length_bytes
  by_cases h : m.payload.length < 11
  · left
    refine ⟨h, ?_⟩
    cases hp : mediaPayload P m.bytes with
    | none => rfl
    | some x =>
      obtain ⟨h24, -⟩ := mediaPayload_eq_some.1 hp
      omega
  · right
    refine ⟨by omega, ?_⟩
    have hr : ∃ x, readSbcHeader P m.bytes m.bytes.length 12 = some (13, x) := by
      unfold readSbcHeader
      rw [if_neg (by omega)]
      exact ⟨_, rfl⟩
    obtain ⟨x, hx⟩ := hr
    have hp : mediaPayload P m.bytes = some (x, m.payload) :=
      mediaPayload_eq_some.2 ⟨by omega, m.drop_thirteen.symm, hx⟩
    refine ⟨x, hp, ?_⟩
    rw [mediaPayload_numFrames hp, m.byteAt_twelve]
    rfl

end MediaPacket

end BtstackPort
