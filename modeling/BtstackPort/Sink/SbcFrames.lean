import BtstackPort.Globals
import BtstackPort.Sink.Header
/-!
# SBC frames of the advertised configurations (`btstack_main.c:14-19`, `a2dp_sink.c:529-560`)

The endpoint advertises every configuration with bitpool 2 to 53. `SbcFormat.frameLength` is the length of an SBC frame
of a configuration; the shortest advertised one has 7 bytes (mono, 4 blocks, 4 subbands, bitpool 2).

`read_sbc_header` asks for 12 bytes where the header has one, so the two header checks let a packet through only from
11 bytes of frames on: a packet with one short frame is dropped (`sbc_packet_accepted_iff`).

| here | there |
| --- | --- |
| `mediaSbcCodecCapabilities` | `media_sbc_codec_capabilities` |
| `channelModeBit`, `blockLengthBit`, `subbandsBit` | the bits of the first two bytes of the SBC codec information element |
-/

namespace BtstackPort

variable {P : Platform}

def mediaSbcCodecCapabilities : List UInt8 := [0xFF, 0xFF, 2, 53]

/-- What a configuration settles about the frames; the bitpool may differ from frame to frame. -/
structure SbcFormat where
  blockLength : Nat
  subbands : Nat
  channelMode : SbcChannelMode
  bitpool : Nat
deriving DecidableEq, Repr

def SbcChannelMode.channels : SbcChannelMode → Nat
  | .mono => 1
  | _ => 2

/-! ## The codec information element -/

def channelModeBit : SbcChannelMode → Nat
  | .mono => 3
  | .dualChannel => 2
  | .stereo => 1
  | .jointStereo => 0

def blockLengthBit : Nat → Option Nat
  | 4 => some 7
  | 8 => some 6
  | 12 => some 5
  | 16 => some 4
  | _ => none

def subbandsBit : Nat → Option Nat
  | 4 => some 3
  | 8 => some 2
  | _ => none

/-- Byte `i` of the capabilities offers what `bit` stands for. -/
def offers (i : Nat) (bit : Option Nat) : Bool := bit.any (byteAt mediaSbcCodecCapabilities i).testBit

namespace SbcFormat

/-- The format is inside the advertised capabilities. -/
structure Advertised (f : SbcFormat) : Prop where
  channelMode : offers 0 (some (channelModeBit f.channelMode)) = true
  blockLength : offers 1 (blockLengthBit f.blockLength) = true
  subbands : offers 1 (subbandsBit f.subbands) = true
  minBitpool : byteAt mediaSbcCodecCapabilities 2 ≤ f.bitpool
  maxBitpool : f.bitpool ≤ byteAt mediaSbcCodecCapabilities 3

theorem blockLength_of_bit {n : Nat} (h : offers 1 (blockLengthBit n) = true) : n = 4 ∨ n = 8 ∨ n = 12 ∨ n = 16 := by
  unfold blockLengthBit at h
  split at h
  · exact Or.inl rfl
  · exact Or.inr (Or.inl rfl)
  · exact Or.inr (Or.inr (Or.inl rfl))
  · exact Or.inr (Or.inr (Or.inr rfl))
  · cases h

theorem subbands_of_bit {n : Nat} (h : offers 1 (subbandsBit n) = true) : n = 4 ∨ n = 8 := by
  unfold subbandsBit at h
  split at h
  · exact Or.inl rfl
  · exact Or.inr rfl
  · cases h

/-- "we support all configurations with bitpool 2-53" -/
theorem advertised_iff {f : SbcFormat} :
    f.Advertised ↔ (f.blockLength = 4 ∨ f.blockLength = 8 ∨ f.blockLength = 12 ∨ f.blockLength = 16) ∧
      (f.subbands = 4 ∨ f.subbands = 8) ∧ 2 ≤ f.bitpool ∧ f.bitpool ≤ 53 := by
  constructor
  · intro h
    exact ⟨blockLength_of_bit h.blockLength, subbands_of_bit h.subbands, h.minBitpool, h.maxBitpool⟩
  · rintro ⟨hblocks, hsubbands, hmin, hmax⟩
    refine ⟨by cases f.channelMode <;> rfl, ?_, ?_, hmin, hmax⟩
    · rcases hblocks with h | h | h | h <;> rw [h] <;> rfl
    · rcases hsubbands with h | h <;> rw [h] <;> rfl

/-! ## Frame lengths -/

/-- Bytes that hold `n` bits. -/
def bytesFor (n : Nat) : Nat := (n + 7) / 8

/-- Header and CRC, scale factors, and the samples (with a join bit for each subband in joint stereo). -/
def frameLength (f : SbcFormat) : Nat :=
  4 + 4 * f.subbands * f.channelMode.channels / 8 +
    match f.channelMode with
    | .mono | .dualChannel => bytesFor (f.blockLength * f.channelMode.channels * f.bitpool)
    | .stereo => bytesFor (f.blockLength * f.bitpool)
    | .jointStereo => bytesFor (f.subbands + f.blockLength * f.bitpool)

/-- The shortest advertised frame has 7 bytes, the longest 224. -/
theorem frameLength_range {f : SbcFormat} (h : f.Advertised) : 7 ≤ f.frameLength ∧ f.frameLength ≤ 224 := by
  obtain ⟨hblocks, hsubbands, hmin, hmax⟩ := advertised_iff.1 h
  obtain ⟨blockLength, subbands, channelMode, bitpool⟩ := f
  simp only at hblocks hsubbands hmin hmax
  simp only [frameLength, bytesFor]
  cases channelMode <;> simp only [SbcChannelMode.channels] <;>
    rcases hblocks with rfl | rfl | rfl | rfl <;> rcases hsubbands with rfl | rfl <;> omega

end SbcFormat

/-! ## Packets of whole frames -/

/-- At least one frame, each of an advertised format. -/
structure SbcFrames where
  frames : List (List UInt8)
  nonempty : frames ≠ []
  advertised : ∀ frame ∈ frames, ∃ f : SbcFormat, f.Advertised ∧ frame.length = f.frameLength

namespace SbcFrames

theorem length_range (s : SbcFrames) (frame : List UInt8) (h : frame ∈ s.frames) :
    7 ≤ frame.length ∧ frame.length ≤ 224 := by
  obtain ⟨f, hf, hlen⟩ := s.advertised frame h
  rw [hlen]
  exact SbcFormat.frameLength_range hf

/-- Two frames have 11 bytes, whatever their formats. -/
theorem length_flatten (s : SbcFrames) :
    11 ≤ s.frames.flatten.length ↔ ∀ frame, s.frames = [frame] → 11 ≤ frame.length := by
  obtain ⟨frame, frames, hcons⟩ := List.exists_cons_of_ne_nil s.nonempty
  have hfirst := s.length_range frame (by simp [hcons])
  rw [hcons]
  cases frames with
  | nil => simp
  | cons frame' frames =>
    have hsecond := s.length_range frame' (by simp [hcons])
    refine iff_of_true ?_ fun g hg => by cases hg
    simp only [List.flatten_cons, List.length_append]
    omega

/-- The packet that brings the frames. -/
def packet (s : SbcFrames) (header : List UInt8) (sbcHeader : UInt8) (h : header.length = 12) : MediaPacket :=
  ⟨header, sbcHeader, s.frames.flatten, h⟩

end SbcFrames

/-- Without the SBC header byte one of the two checks fails; what the memory holds after the packet does not matter. -/
theorem missing_sbcHeader (memory : List UInt8) (size : Nat) (h : size ≤ 12) :
    (∀ pos header, readMediaDataHeader P memory size 0 = some (pos, header) → readSbcHeader P memory size pos = none) ∧
      ∀ packet : List UInt8, packet.length = size → mediaPayload P packet = none := by
  constructor
  · intro pos header hread
    unfold readMediaDataHeader at hread
    simp only at hread
    split at hread
    · cases hread
    · cases hread
      unfold readSbcHeader
      rw [if_pos (by omega)]
  · intro packet hlen
    cases hp : mediaPayload P packet with
    | none => rfl
    | some x =>
      obtain ⟨h24, -⟩ := mediaPayload_eq_some.1 hp
      omega

/-- **Well-formed packets**: both headers of a packet of advertised frames are read and exactly the frames are handed
on if and only if the packet has more than one frame, or a single one of at least 11 bytes; and a packet without the
SBC header byte is rejected before that byte is read. -/
theorem sbc_packet_accepted_iff (s : SbcFrames) (header : List UInt8) (sbcHeader : UInt8) (h : header.length = 12) :
    ((∃ hd, mediaPayload P (s.packet header sbcHeader h).bytes = some (hd, s.frames.flatten)) ↔
        ∀ frame, s.frames = [frame] → 11 ≤ frame.length) ∧
      ∀ (memory : List UInt8) (size : Nat), size ≤ 12 →
        (∀ pos mediaHeader, readMediaDataHeader P memory size 0 = some (pos, mediaHeader) →
          readSbcHeader P memory size pos = none) ∧
        ∀ packet : List UInt8, packet.length = size → mediaPayload P packet = none := by
  refine ⟨?_, missing_sbcHeader⟩
  rw [← s.length_flatten]
  rcases (s.packet header sbcHeader h).mediaPayload_bytes (P := P) with ⟨hshort, hp⟩ | ⟨hlong, hd, hp, -⟩
  · rw [hp]
    refine iff_of_false (by simp) ?_
    exact Nat.not_le_of_lt hshort
  · exact iff_of_true ⟨hd, hp⟩ hlong

/-- The shortest advertised frame. -/
def shortFrame : SbcFrames where
  frames := [List.replicate 7 0]
  nonempty := by simp
  advertised := by
    intro frame hframe
    refine ⟨⟨4, 4, .mono, 2⟩, SbcFormat.advertised_iff.2 (by decide), ?_⟩
    rw [List.mem_singleton.1 hframe]
    rfl

theorem sbc_packet_accepted_iff_shortFrame :
    ((∃ hd, mediaPayload (.reference true) (shortFrame.packet (List.replicate 12 0) 1 rfl).bytes =
          some (hd, shortFrame.frames.flatten)) ↔
        ∀ frame, shortFrame.frames = [frame] → 11 ≤ frame.length) ∧
      ∀ (memory : List UInt8) (size : Nat), size ≤ 12 →
        (∀ pos mediaHeader, readMediaDataHeader (.reference true) memory size 0 = some (pos, mediaHeader) →
          readSbcHeader (.reference true) memory size pos = none) ∧
        ∀ packet : List UInt8, packet.length = size → mediaPayload (.reference true) packet = none :=
  sbc_packet_accepted_iff shortFrame (List.replicate 12 0) 1 rfl

/-- A packet of 20 bytes with one frame of 7 bytes is rejected. -/
theorem short_frame_rejected :
    (shortFrame.packet (List.replicate 12 0) 1 rfl).bytes.length = 20 ∧
      mediaPayload (.reference true) (shortFrame.packet (List.replicate 12 0) 1 rfl).bytes = none ∧
      ¬ ∀ (s : SbcFrames) (header : List UInt8) (sbcHeader : UInt8) (h : header.length = 12),
        ∃ hd, mediaPayload (.reference true) (s.packet header sbcHeader h).bytes = some (hd, s.frames.flatten) := by
  refine ⟨rfl, rfl, fun hall => ?_⟩
  obtain ⟨hd, hp⟩ := hall shortFrame (List.replicate 12 0) 1 rfl
  cases hp

end BtstackPort
