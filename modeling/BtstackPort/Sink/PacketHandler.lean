import BtstackPort.Sink.MediaPacket
/-!
# `a2dp_sink_packet_handler` and the sink as a step machine (`a2dp_sink.c:116-256`)

The main thread serves one event at a time: an A2DP event, a media packet or a playback request of the
audio driver. `step` is that machine, `RunsTo` its runs from static storage.
-/

namespace BtstackPort

open FaultMachine

variable {P : Platform}

/-- `AVDTP_CHANNEL_MODE_*`, and every other value. -/
inductive AvdtpChannelMode where
  | jointStereo | stereo | dualChannel | mono
  | other (code : UInt8)
deriving DecidableEq, Repr

/-- The fields of an `A2DP_SUBEVENT_SIGNALING_MEDIA_CODEC_SBC_CONFIGURATION`. -/
structure SbcConfigurationEvent where
  reconfigure : UInt8
  numChannels : UInt8
  samplingFrequency : UInt16
  blockLength : UInt8
  subbands : UInt8
  minBitpoolValue : UInt8
  maxBitpoolValue : UInt8
  allocationMethod : UInt8
  channelMode : AvdtpChannelMode
deriving DecidableEq, Repr

/-- A configuration for a new stream: 44.1 kHz stereo, bitpool 2 to 53. -/
def SbcConfigurationEvent.stereo44100 : SbcConfigurationEvent := ⟨0, 2, 44100, 16, 8, 2, 53, 1, .stereo⟩

inductive A2dpEvent where
  | mediaCodecOtherConfiguration
  | mediaCodecSbcConfiguration (e : SbcConfigurationEvent)
  | streamEstablished (status : UInt8) (addr : BdAddr) (cid : UInt16) (localSeid : UInt8)
  | streamStarted
  | streamSuspended
  | streamReleased
  | signalingConnectionReleased
  /-- Other packet types, other HCI events, other subevents. -/
  | ignored
deriving DecidableEq, Repr

/-- The `switch` on the channel mode (`a2dp_sink.c:165-185`). -/
def sbcChannelMode : AvdtpChannelMode → Except Fault SbcChannelMode
  | .jointStereo => .ok .jointStereo
  | .stereo => .ok .stereo
  | .dualChannel => .ok .dualChannel
  | .mono => .ok .mono
  | .other _ => .error .assertFailed

def storeSbcConfiguration (e : SbcConfigurationEvent) (s : Sink P) : Except Fault (Sink P) := do
  let channelMode ← sbcChannelMode e.channelMode
  let sbcConfiguration : SbcConfiguration :=
    { reconfigure := e.reconfigure
      numChannels := e.numChannels
      samplingFrequency := e.samplingFrequency
      blockLength := e.blockLength
      subbands := e.subbands
      minBitpoolValue := e.minBitpoolValue
      maxBitpoolValue := e.maxBitpoolValue
      channelMode := channelMode
      -- adapt Bluetooth spec definition to SBC encoder expected input
      allocationMethod := (e.allocationMethod.toNat : Int) - 1 }
  return { s with a2dpConnection := { s.a2dpConnection with sbcConfiguration := sbcConfiguration } }

def Sink.setStreamState (st : StreamState) (s : Sink P) : Sink P :=
  { s with a2dpConnection := { s.a2dpConnection with streamState := st } }

/-- `A2DP_SUBEVENT_STREAM_STARTED` (`a2dp_sink.c:224-233`). -/
def streamStarted (s : Sink P) : Sink P :=
  let s := s.setStreamState .playing
  let s := if s.a2dpConnection.sbcConfiguration.reconfigure ≠ 0 then mediaProcessingClose s else s
  mediaProcessingInit s.a2dpConnection.sbcConfiguration s

/-- The stored configuration, whether or not the stream is closed first. -/
theorem streamStarted_eq (s : Sink P) :
    streamStarted s = mediaProcessingInit s.a2dpConnection.sbcConfiguration
      (if s.a2dpConnection.sbcConfiguration.reconfigure ≠ 0 then mediaProcessingClose (s.setStreamState .playing)
        else s.setStreamState .playing) := by
  unfold streamStarted
  simp only
  split
  · rw [if_pos (by assumption), mediaProcessingClose_connection]
    rfl
  · rw [if_neg (by assumption)]
    rfl

def a2dpSinkPacketHandler (e : A2dpEvent) (s : Sink P) : Except Fault (Sink P) :=
  match e with
  | .mediaCodecOtherConfiguration => .ok s
  | .mediaCodecSbcConfiguration e => storeSbcConfiguration e s
  | .streamEstablished status addr cid localSeid =>
    if status ≠ 0 then .ok s
    else
      .ok { s with
        a2dpConnection := { s.a2dpConnection with
          addr := addr, a2dpCid := cid, a2dpLocalSeid := localSeid, streamState := .opened }
        deviceAddr := addr }
  | .streamStarted => .ok (streamStarted s)
  | .streamSuspended => .ok (mediaProcessingPause (s.setStreamState .paused))
  | .streamReleased => .ok (mediaProcessingClose (s.setStreamState .closed))
  | .signalingConnectionReleased =>
    .ok (mediaProcessingClose { s with a2dpConnection := { s.a2dpConnection with a2dpCid := 0 } })
  | .ignored => .ok s

/-- **Handler rule**: the handler is made of updates of the connection record, `init`, `pause` and `close`;
what these keep, it keeps. Only `STREAM_STARTED` initialises, with the stored configuration. -/
theorem a2dpSinkPacketHandler_rule {I : Sink P → Prop} {e : A2dpEvent} {s t : Sink P}
    (h : a2dpSinkPacketHandler e s = .ok t)
    (hconn : ∀ u connection addr, I u → I { u with a2dpConnection := connection, deviceAddr := addr })
    (hinit : ∀ u, e = .streamStarted → u.a2dpConnection.sbcConfiguration = s.a2dpConnection.sbcConfiguration →
      I u → I (mediaProcessingInit u.a2dpConnection.sbcConfiguration u))
    (hpause : ∀ u, I u → I (mediaProcessingPause u))
    (hclose : ∀ u, I u → I (mediaProcessingClose u)) (hs : I s) : I t := by
  cases e with
  | mediaCodecOtherConfiguration => cases h; exact hs
  | mediaCodecSbcConfiguration e =>
    obtain ⟨mode, -, h⟩ := bind_returns.1 h
    cases h
    exact hconn s _ s.deviceAddr hs
  | streamEstablished status addr cid localSeid =>
    simp only [a2dpSinkPacketHandler] at h
    split at h
    · cases h; exact hs
    · cases h; exact hconn s _ addr hs
  | streamStarted =>
    cases h
    have hp : I (s.setStreamState .playing) := hconn s _ s.deviceAddr hs
    unfold streamStarted
    simp only
    split
    · exact hinit _ rfl (by rw [mediaProcessingClose_connection]; rfl) (hclose _ hp)
    · exact hinit _ rfl rfl hp
  | streamSuspended => cases h; exact hpause _ (hconn s _ s.deviceAddr hs)
  | streamReleased => cases h; exact hclose _ (hconn s _ s.deviceAddr hs)
  | signalingConnectionReleased => cases h; exact hclose _ (hconn s _ s.deviceAddr hs)
  | ignored => cases h; exact hs

/-- An A2DP event adds the calls of `init`, `pause` and `close` only. -/
theorem a2dp_session_calls {e : A2dpEvent} {s t : Sink P} (h : a2dpSinkPacketHandler e s = .ok t) :
    ∃ cs, Extends s t cs ∧ ∀ c ∈ cs, c.IsSession := by
  have hthen : ∀ {u v : Sink P}, (∃ cs, Extends s u cs ∧ ∀ c ∈ cs, c.IsSession) →
      (∃ cs, Extends u v cs ∧ ∀ c ∈ cs, c.IsSession) → ∃ cs, Extends s v cs ∧ ∀ c ∈ cs, c.IsSession := by
    rintro u v ⟨cs, hlog, hcs⟩ ⟨ds, hlog', hds⟩
    refine ⟨cs ++ ds, hlog.trans hlog', fun c hc => ?_⟩
    rcases List.mem_append.1 hc with hc | hc
    · exact hcs c hc
    · exact hds c hc
  refine a2dpSinkPacketHandler_rule (I := fun u => ∃ cs, Extends s u cs ∧ ∀ c ∈ cs, c.IsSession) h ?_ ?_ ?_ ?_
    ⟨[], by simp [Extends], by simp⟩
  · intro u _ _ hu
    exact hu
  · intro u _ _ hu
    exact hthen hu (mediaProcessingInit_session _ u)
  · intro u hu
    exact hthen hu (mediaProcessingPause_session u)
  · intro u hu
    exact hthen hu (mediaProcessingClose_session u)

/-! ## The machine -/

inductive SinkEvent where
  | a2dp (e : A2dpEvent)
  | media (packet : List UInt8) (now : Readings)
  | playback (r : AudioRequest)

def step (s : Sink P) : SinkEvent → Except Fault (Sink P)
  | .a2dp e => a2dpSinkPacketHandler e s
  | .media packet now => handleL2capMediaDataPacket packet now s
  | .playback r => playbackHandler r s

/-- Calls of media packets and playback requests. -/
def Call.IsData : Call → Prop
  | .audioStartStream | .ringWrite .. => True
  | c => c.IsPlayback ∨ c.IsDrift

theorem Call.IsPlayback.isData {c : Call} (h : c.IsPlayback) : c.IsData := by
  cases c <;> simp_all [Call.IsPlayback, Call.IsPcm, Call.IsData]

theorem Call.IsDrift.isData {c : Call} (h : c.IsDrift) : c.IsData := by
  cases c <;> simp_all [Call.IsDrift, Call.IsData]

/-- **Data rule**: media packets and playback requests leave the connection record and `media_initialized` alone, and
make data calls only. -/
theorem step_data {e : SinkEvent} {s t : Sink P} (h : step s e = .ok t) (he : ∀ a, e ≠ .a2dp a) :
    t.a2dpConnection = s.a2dpConnection ∧ t.mediaInitialized = s.mediaInitialized ∧
      ∃ cs, Extends s t cs ∧ ∀ c ∈ cs, c.IsData := by
  cases e with
  | a2dp a => exact absurd rfl (he a)
  | media packet now =>
    rcases handleL2capMediaDataPacket_cases h with ⟨-, rfl⟩ | ⟨hd, payload, -, ⟨-, hq⟩ | ⟨-, hq⟩⟩
    · exact ⟨rfl, rfl, [], by simp [Extends], by simp⟩
    · obtain ⟨hsame, -, cs, hlog, hcs⟩ := decodeSigned16_spec hq
      refine ⟨hsame.a2dpConnection, hsame.mediaInitialized, _, hlog, fun c hc => ?_⟩
      rcases List.mem_cons.1 hc with rfl | hc
      · exact Or.inl trivial
      · exact (hcs c hc).isPlayback.isData
    · obtain ⟨-, -, hsame, ds, cs, hds, hlog, hstart⟩ := queuePayload_spec hq
      refine ⟨hsame.a2dpConnection, hsame.mediaInitialized, _, hlog, fun c hc => ?_⟩
      simp only [List.cons_append, List.mem_cons, List.mem_append] at hc
      rcases hc with rfl | hc | hc
      · trivial
      · exact (hds c hc).isData
      · rcases hstart with ⟨-, -, rfl⟩ | ⟨-, -, rfl⟩
        · rcases mem_mediaProcessingStartCalls hc with rfl | rfl
          · exact Or.inr trivial
          · trivial
        · cases hc
  | playback r =>
    obtain ⟨hsame, k, cs, -, -, -, hlog, hcs, -⟩ := playbackHandler_spec h
    exact ⟨hsame.a2dpConnection, hsame.mediaInitialized, cs, hlog, fun c hc => (hcs c hc).isData⟩

/-- The log only grows. -/
theorem step_extends {e : SinkEvent} {s t : Sink P} (h : step s e = .ok t) : ∃ cs, Extends s t cs := by
  by_cases he : ∃ a, e = .a2dp a
  · obtain ⟨a, rfl⟩ := he
    obtain ⟨cs, hlog, -⟩ := a2dp_session_calls h
    exact ⟨cs, hlog⟩
  · obtain ⟨-, -, cs, hlog, -⟩ := step_data h fun a ha => he ⟨a, ha⟩
    exact ⟨cs, hlog⟩

/-- Only an `SBC_CONFIGURATION` event changes the stored configuration. -/
theorem step_configuration {e : SinkEvent} {s t : Sink P} (h : step s e = .ok t)
    (he : ∀ c, e ≠ .a2dp (.mediaCodecSbcConfiguration c)) :
    t.a2dpConnection.sbcConfiguration = s.a2dpConnection.sbcConfiguration := by
  cases e with
  | a2dp e =>
    cases e with
    | mediaCodecOtherConfiguration => cases h; rfl
    | mediaCodecSbcConfiguration c => exact absurd rfl (he c)
    | streamEstablished status addr cid localSeid =>
      simp only [step, a2dpSinkPacketHandler] at h
      split at h
      · cases h; rfl
      · cases h; rfl
    | streamStarted =>
      cases h
      unfold streamStarted
      simp only [mediaProcessingInit_connection]
      split
      · rw [mediaProcessingClose_connection]; rfl
      · rfl
    | streamSuspended => cases h; rw [mediaProcessingPause_connection]; rfl
    | streamReleased => cases h; rw [mediaProcessingClose_connection]; rfl
    | signalingConnectionReleased => cases h; rw [mediaProcessingClose_connection]
    | ignored => cases h; rfl
  | media packet now => rw [(step_data h (by simp)).1]
  | playback r => rw [(step_data h (by simp)).1]

/-- Runs of the sink from its initial state in which `ok` allows every event. -/
def RunsTo (ok : Sink P → SinkEvent → Prop) (es : List SinkEvent) (s : Sink P) : Prop :=
  Run step ok (Sink.initial P) es s

/-- A stereo stream starts and two frames of 6 bytes arrive. -/
def queuedStream : List SinkEvent :=
  [.a2dp (.mediaCodecSbcConfiguration .stereo44100), .a2dp .streamStarted,
    .media (MediaPacket.plain 2 (List.replicate 12 7)).bytes .nominal]

/-- A stereo stream starts, two frames of 6 bytes arrive, one audio frame is requested. -/
def sampleRun : List SinkEvent :=
  [.a2dp (.mediaCodecSbcConfiguration .stereo44100), .a2dp .streamStarted,
    .media (MediaPacket.plain 2 (List.replicate 12 7)).bytes .nominal, .playback (.blank 1)]

/-- 15 frames of one byte. -/
def fifteenFrames : SinkEvent := .media (MediaPacket.plain 15 (List.replicate 15 7)).bytes .nominal

/-- A stereo stream starts and fills its queue until the audio stream starts. -/
def startedStream : List SinkEvent :=
  [.a2dp (.mediaCodecSbcConfiguration .stereo44100), .a2dp .streamStarted] ++ List.replicate 4 fifteenFrames

end BtstackPort
