import BtstackPort.Globals
import BtstackPort.Platform
/-!
# State of the A2DP sink and the log of its calls (`a2dp_sink.c:71-97`)

`Sink P` holds the globals of `a2dp_sink.c` and the A2DP connection record. `calls` is not a variable of the
program: it lists, in order, every call the code makes into the platform and every block it writes into a
caller's buffer, so that statements about "what was called when" can be read off a state.

| here | there |
| --- | --- |
| `sbcDecoderInstance` | `sbc_decoder_instance != NULL` |
| `requestMem`, `requestBuffer` | the buffer of the request being served, as bytes, and `request_buffer` as a byte offset into it |
| `Fault` | undefined behaviour and `btstack_assert`: the program stops being predictable |
-/

namespace BtstackPort

/-- The two ring buffers. -/
inductive RingId where
  | sbcFrame | decodedAudio
deriving DecidableEq, Repr

inductive Call where
  | audioInit (channels : Nat) (samplerate : UInt16)
  | audioStartStream
  | audioStopStream
  | audioClose
  | wavOpen (channels : UInt8) (samplerate : UInt16)
  | wavWrite (samples : Nat) (data : List UInt8)
  | wavClose
  /-- `printf` of `audio_frame_count` in `media_processing_close`. -/
  | wavReport (audioFrameCount : UInt32)
  | resampleInit (channels : Nat)
  | resampleSetFactor (factor : Nat)
  | resampleBlock (frames : Nat) (output : List UInt8)
  | compensationInit (samplingFrequency : UInt16)
  | compensationReset
  | compensationUpdate (samples : Nat)
  | ringInit (ring : RingId)
  | ringReset (ring : RingId)
  | ringWrite (ring : RingId) (data : List UInt8) (status : Nat)
  | ringRead (ring : RingId) (requested : Nat) (data : List UInt8)
  | decode (buffer : List UInt8)
  /-- `memset` of a whole request. -/
  | silence (bytes : Nat)
  /-- `memcpy` to `request_buffer`. -/
  | copyToRequest (data : List UInt8)
deriving Repr

inductive Fault where
  /-- `packet_length / sbc_header.num_frames` with `num_frames == 0`. -/
  | divideByNumFrames
  /-- `bytes_available / sbc_frame_size` with `sbc_frame_size == 0`. -/
  | divideByFrameSize
  /-- A read of this many bytes into the local array `sbc_frame[MAX_SBC_FRAME_SIZE]`. -/
  | sbcFrameOverrun (requested : Nat)
  /-- The resampler wrote past the local array `output_buffer`. -/
  | outputBufferOverrun
  /-- A write outside the caller's buffer. -/
  | requestOverrun
  /-- A call through `sbc_decoder_instance == NULL`. -/
  | nullDecoderInstance
  /-- `btstack_assert(false)`. -/
  | assertFailed
deriving DecidableEq, Repr

structure Sink (P : Platform) where
  audioFrameCount : UInt32
  sbcDecoderInstance : Bool
  sbcDecoderContext : P.decoder.Context
  sbcFrameSize : Nat
  sbcFrameRingBuffer : P.ring.Buf
  resampleInstance : P.resampler.Context
  mediaInitialized : Bool
  audioStreamStarted : Bool
  decodedAudioRingBuffer : P.ring.Buf
  requestMem : List UInt8
  requestBuffer : Nat
  requestFrames : Int
  l2capStreamStarted : Bool
  sampleRateCompensation : P.compensation.Context
  a2dpConnection : A2dpConnection
  deviceAddr : BdAddr
  calls : List Call

/-- All static storage zero. -/
def Sink.initial (P : Platform) : Sink P where
  audioFrameCount := 0
  sbcDecoderInstance := false
  sbcDecoderContext := P.decoder.zero
  sbcFrameSize := 0
  sbcFrameRingBuffer := P.ring.zero
  resampleInstance := P.resampler.zero
  mediaInitialized := false
  audioStreamStarted := false
  decodedAudioRingBuffer := P.ring.zero
  requestMem := []
  requestBuffer := 0
  requestFrames := 0
  l2capStreamStarted := false
  sampleRateCompensation := P.compensation.zero
  a2dpConnection := .zero
  deviceAddr := Vector.replicate 6 0
  calls := []

variable {P : Platform}

/-- Bytes queued in the two rings. -/
abbrev Sink.sbcBytes (s : Sink P) : List UInt8 := P.ring.contents s.sbcFrameRingBuffer

abbrev Sink.pcmBytes (s : Sink P) : List UInt8 := P.ring.contents s.decodedAudioRingBuffer

/-- Calls that carry decoded audio only: the PCM callback makes no others. -/
def Call.IsPcm : Call → Prop
  | .wavWrite .. | .resampleBlock .. | .copyToRequest .. | .ringWrite .decodedAudio .. => True
  | _ => False

/-- Calls made while serving a playback request. -/
def Call.IsPlayback : Call → Prop
  | .ringRead .. | .decode .. | .silence .. => True
  | c => c.IsPcm

/-- Calls that steer the resampling factor. -/
def Call.IsDrift : Call → Prop
  | .resampleSetFactor .. | .compensationInit .. | .compensationReset | .compensationUpdate .. => True
  | _ => False

theorem Call.IsPcm.isPlayback {c : Call} (h : c.IsPcm) : c.IsPlayback := by
  cases c <;> simp_all [Call.IsPcm, Call.IsPlayback]

/-- `t` extends the log of `s` by `cs`. -/
def Extends (s t : Sink P) (cs : List Call) : Prop := t.calls = s.calls ++ cs

theorem Extends.trans {s t u : Sink P} {cs ds : List Call} (h : Extends s t cs) (h' : Extends t u ds) :
    Extends s u (cs ++ ds) := by
  unfold Extends at *
  rw [h', h, List.append_assoc]

theorem Extends.unique {s t : Sink P} {cs ds : List Call} (h : Extends s t cs) (h' : Extends s t ds) : cs = ds := by
  unfold Extends at *
  rw [h] at h'
  exact List.append_cancel_left h'

/-- Same buffers and same session; the resampler keeps its channels. -/
structure SameBuffers (s t : Sink P) : Prop where
  sbcFrameSize : t.sbcFrameSize = s.sbcFrameSize
  sbcFrameRingBuffer : t.sbcFrameRingBuffer = s.sbcFrameRingBuffer
  decodedAudioRingBuffer : t.decodedAudioRingBuffer = s.decodedAudioRingBuffer
  mediaInitialized : t.mediaInitialized = s.mediaInitialized
  sbcDecoderInstance : t.sbcDecoderInstance = s.sbcDecoderInstance
  a2dpConnection : t.a2dpConnection = s.a2dpConnection
  channels : P.resampler.channels t.resampleInstance = P.resampler.channels s.resampleInstance

theorem SameBuffers.refl (s : Sink P) : SameBuffers s s := ⟨rfl, rfl, rfl, rfl, rfl, rfl, rfl⟩

theorem SameBuffers.trans {s t u : Sink P} (h : SameBuffers s t) (h' : SameBuffers t u) : SameBuffers s u :=
  ⟨h'.1.trans h.1, h'.2.trans h.2, h'.3.trans h.3, h'.4.trans h.4, h'.5.trans h.5, h'.6.trans h.6,
    h'.7.trans h.7⟩

end BtstackPort
