import Mathlib.Algebra.Group.Nat.Defs
import BtstackPort.Globals
import BtstackPort.Lib.Fifo
/-!
# What the port is compiled and linked against

The repository holds the application; the Bluetooth stack, the SBC decoder, the resampler, the WAV writer
and the audio driver are linked in. A `Platform` is one such environment: the build switches, whether
`btstack_audio_sink_get_instance()` returns an instance, and the linked functions the code calls, as
parameters with the behaviour their documentation promises. Nothing else is known about them.

| here | there |
| --- | --- |
| `storeToWavFile` | `STORE_TO_WAV_FILE`, set with `HAVE_POSIX_FILE_IO` (`a2dp_sink.c:24`) |
| `effectiveSamplerate` | `HAVE_BTSTACK_AUDIO_EFFECTIVE_SAMPLERATE` (`btstack_config.h:18`) |
| `Util` | `btstack_util.h` |
| `SbcDecoder` | `btstack_sbc_decoder_bluedroid_init_instance` and the instance's `configure`, `decode_signed_16` |
| `Resampler` | `btstack_resample.h` |
| `Compensation` | `btstack_sample_rate_compensation.h` |
| `Readings` | `btstack_run_loop_get_time_ms()` and `audio->get_samplerate()` |
| `ring` | `btstack_ring_buffer.h` |
-/

namespace BtstackPort

/-- Byte `i` of a packet. -/
def byteAt (packet : List UInt8) (i : Nat) : Nat := (packet.getD i 0).toNat

@[simp] theorem byteAt_zero (b : UInt8) (packet : List UInt8) : byteAt (b :: packet) 0 = b.toNat := rfl

@[simp] theorem byteAt_succ (b : UInt8) (packet : List UInt8) (i : Nat) :
    byteAt (b :: packet) (i + 1) = byteAt packet i := rfl

structure Util where
  getBit16 : Nat → Nat → Nat
  bigEndianRead16 : List UInt8 → Nat → Nat
  bigEndianRead32 : List UInt8 → Nat → Nat
  getBit16_eq : ∀ bitmap position, bitmap < 2 ^ 16 → getBit16 bitmap position = bitmap / 2 ^ position % 2
  bigEndianRead16_eq : ∀ buffer pos,
    bigEndianRead16 buffer pos = 256 * byteAt buffer pos + byteAt buffer (pos + 1)
  bigEndianRead32_eq : ∀ buffer pos,
    bigEndianRead32 buffer pos = 256 ^ 3 * byteAt buffer pos + 256 ^ 2 * byteAt buffer (pos + 1) +
      256 * byteAt buffer (pos + 2) + byteAt buffer (pos + 3)

/-- The arguments of one PCM callback. -/
structure PcmBlock where
  data : List Int16
  numAudioFrames : Nat
  numChannels : Nat
  sampleRate : Nat
deriving DecidableEq, Repr

/-- The SBC decoder: decoding one buffer triggers any number of PCM callbacks. -/
structure SbcDecoder where
  Context : Type
  zero : Context
  initInstance : Context → Context
  configure : Context → Context
  decodeSigned16 : Context → List UInt8 → Context × List PcmBlock

/-- Decoding what `sbc_frame` holds triggers at most one PCM callback. -/
def SbcDecoder.AtMostOneCallback (D : SbcDecoder) : Prop :=
  ∀ c d, d.length ≤ maxSbcFrameSize → (D.decodeSigned16 c d).2.length ≤ 1

/-- A block that the decoder makes of what `sbc_frame` holds. -/
def SbcDecoder.FrameBlock (D : SbcDecoder) (b : PcmBlock) : Prop :=
  ∃ c d, d.length ≤ maxSbcFrameSize ∧ b ∈ (D.decodeSigned16 c d).2

/-- The resampler, initialised for a number of channels: `block` takes some frames and yields the
samples it wrote and the number of frames they make up. -/
structure Resampler where
  Context : Type
  zero : Context
  init : Context → Nat → Context
  setFactor : Context → Nat → Context
  block : Context → List Int16 → Nat → Context × List Int16 × Nat
  channels : Context → Nat
  channels_init : ∀ c n, channels (init c n) = n
  channels_setFactor : ∀ c f, channels (setFactor c f) = channels c
  channels_block : ∀ c d n, channels (block c d n).1 = channels c
  length_block : ∀ c d n, (block c d n).2.1.length = (block c d n).2.2 * channels c

attribute [simp] Resampler.channels_init Resampler.channels_setFactor Resampler.channels_block

/-- What the code reads while it handles one media packet: the run loop's clock, before `init`, before `update` and
before `reset`, and the sample rate at which the audio driver plays. -/
structure Readings where
  initTimeMs : UInt32
  updateTimeMs : UInt32
  resetTimeMs : UInt32
  samplerate : UInt32
deriving DecidableEq, Repr

/-- The clock at zero, the driver at 44.1 kHz. -/
def Readings.nominal : Readings := ⟨0, 0, 0, 44100⟩

structure Compensation where
  Context : Type
  zero : Context
  init : Context → (timeMs : UInt32) → UInt16 → Context
  reset : Context → (timeMs : UInt32) → Context
  /-- The clock, the samples received since the last update and the driver's sample rate; yields the resampling
  factor. -/
  update : Context → (timeMs : UInt32) → Nat → (samplerate : UInt32) → Context × Nat

structure Platform where
  storeToWavFile : Bool
  effectiveSamplerate : Bool
  audioSink : Bool
  util : Util
  ring : BoundedFifo UInt8
  decoder : SbcDecoder
  resampler : Resampler
  compensation : Compensation
  /-- What an uninitialised stack array holds, by the number of calls made so far and offset. -/
  stackGarbage : Nat → Nat → UInt8

/-- A block made of one SBC frame is resampled to at most 144 frames. -/
def Platform.AtMost144Frames (P : Platform) : Prop :=
  ∀ b, P.decoder.FrameBlock b → ∀ c, (P.resampler.block c b.data b.numAudioFrames).2.2 ≤ 128 + 16

/-! ## A reference platform

Every part is the simplest thing that keeps its promises: list FIFOs, a decoder that makes one frame of
each buffer, a resampler that copies. -/

def Util.reference : Util where
  getBit16 bitmap position := bitmap / 2 ^ position % 2
  bigEndianRead16 buffer pos := 256 * byteAt buffer pos + byteAt buffer (pos + 1)
  bigEndianRead32 buffer pos := 256 ^ 3 * byteAt buffer pos + 256 ^ 2 * byteAt buffer (pos + 1) +
    256 * byteAt buffer (pos + 2) + byteAt buffer (pos + 3)
  getBit16_eq _ _ _ := rfl
  bigEndianRead16_eq _ _ := rfl
  bigEndianRead32_eq _ _ := rfl

def SbcDecoder.reference : SbcDecoder where
  Context := Unit
  zero := ()
  initInstance := id
  configure := id
  decodeSigned16 _ _ := ((), [⟨[0, 0], 1, 2, 44100⟩])

/-- The context is the channel count; a block is copied up to 144 frames, padded if too short. -/
def Resampler.reference : Resampler where
  Context := Nat
  zero := 0
  init _ n := n
  setFactor c _ := c
  block c d n := (c, (d ++ List.replicate (min n 144 * c) 0).take (min n 144 * c), min n 144)
  channels c := c
  channels_init _ _ := rfl
  channels_setFactor _ _ := rfl
  channels_block _ _ _ := rfl
  length_block c d n := by simp

theorem SbcDecoder.reference_atMostOneCallback : SbcDecoder.reference.AtMostOneCallback :=
  fun _ _ _ => Nat.le_refl 1

/-- The context is the time of the last update and the samples received since; no drift is found. -/
def Compensation.reference : Compensation where
  Context := UInt32 × Nat
  zero := (0, 0)
  init _ timeMs _ := (timeMs, 0)
  reset _ timeMs := (timeMs, 0)
  update c timeMs samples _ := ((timeMs, c.2 + samples), 0x10000)

def Platform.reference (audioSink : Bool) : Platform where
  storeToWavFile := true
  effectiveSamplerate := false
  audioSink := audioSink
  util := .reference
  ring := listFifo UInt8
  decoder := .reference
  resampler := .reference
  compensation := .reference
  stackGarbage _ _ := 0

/-- The reference platform with an audio sink and an effective sample rate. -/
def Platform.effective : Platform := { Platform.reference true with effectiveSamplerate := true }

theorem Platform.reference_atMost144Frames (audioSink : Bool) : (Platform.reference audioSink).AtMost144Frames :=
  fun b _ _ => Nat.min_le_right b.numAudioFrames 144

theorem Platform.effective_atMost144Frames : Platform.effective.AtMost144Frames :=
  fun b _ _ => Nat.min_le_right b.numAudioFrames 144

end BtstackPort
