import BtstackPort.Sink.PacketHandler
/-!
# What holds in every state of the sink

Whatever events arrive, and in whatever order: the ring buffers and the decoder are either untouched static
storage or have been set up by `media_processing_init` (`close` takes nothing back); while media processing is
initialised they are set up; the stream is started only while it is; and the PCM ring holds whole frames,
since it is written and read in multiples of `BYTES_PER_FRAME`.
-/

namespace BtstackPort

open FaultMachine

variable {P : Platform}

/-- `media_processing_init` has run at least once. -/
structure SetUp (s : Sink P) : Prop where
  sbcCapacity : P.ring.capacity s.sbcFrameRingBuffer = sbcFrameStorageSize
  pcmCapacity : P.ring.capacity s.decodedAudioRingBuffer = decodedAudioStorageSize
  sbcDecoderInstance : s.sbcDecoderInstance = true

/-- `media_processing_init` has never run. -/
structure Untouched (s : Sink P) : Prop where
  sbcCapacity : P.ring.capacity s.sbcFrameRingBuffer = 0
  pcmCapacity : P.ring.capacity s.decodedAudioRingBuffer = 0
  sbcDecoderInstance : s.sbcDecoderInstance = false
  mediaInitialized : s.mediaInitialized = false

structure Session (s : Sink P) : Prop where
  storage : SetUp s ∨ Untouched s
  started : s.audioStreamStarted = true → s.mediaInitialized = true
  whole : bytesPerFrame ∣ s.pcmBytes.length

theorem session_initial : Session (Sink.initial P) where
  storage := Or.inr ⟨P.ring.capacity_zero, P.ring.capacity_zero, rfl, rfl⟩
  started := by simp [Sink.initial]
  whole := by simp [Sink.initial, Sink.pcmBytes]

namespace Session

variable {s t : Sink P}

theorem setUp (h : Session s) (hm : s.mediaInitialized = true) : SetUp s := by
  rcases h.storage with hs | hs
  · exact hs
  · rw [hs.mediaInitialized] at hm; cases hm

/-- A ring that holds bytes has been set up. -/
theorem setUp_of_bytes (h : Session s) (hne : s.sbcBytes ≠ []) : SetUp s := by
  rcases h.storage with hs | hs
  · exact hs
  · have hle := P.ring.contents_le s.sbcFrameRingBuffer
    rw [hs.sbcCapacity, Nat.le_zero, List.length_eq_zero_iff] at hle
    exact absurd hle hne

theorem pcmCapacity_le (h : Session s) :
    P.ring.capacity s.decodedAudioRingBuffer ≤ decodedAudioStorageSize := by
  rcases h.storage with hs | hs
  · exact Nat.le_of_eq hs.pcmCapacity
  · rw [hs.pcmCapacity]; exact Nat.zero_le _

/-- The PCM ring cannot fill a request for more frames than it has room for. -/
theorem length_pcmBytes_le (h : Session s) : s.pcmBytes.length ≤ decodedAudioStorageSize :=
  Nat.le_trans (P.ring.contents_le _) h.pcmCapacity_le

/-- Storage is what the capacities, the decoder and the flag say. -/
theorem storage_of_eq (h : Session s)
    (h1 : P.ring.capacity t.sbcFrameRingBuffer = P.ring.capacity s.sbcFrameRingBuffer)
    (h2 : P.ring.capacity t.decodedAudioRingBuffer = P.ring.capacity s.decodedAudioRingBuffer)
    (h3 : t.sbcDecoderInstance = s.sbcDecoderInstance) (h4 : t.mediaInitialized = s.mediaInitialized) :
    SetUp t ∨ Untouched t := by
  rcases h.storage with hs | hs
  · exact Or.inl ⟨h1.trans hs.1, h2.trans hs.2, h3.trans hs.3⟩
  · exact Or.inr ⟨h1.trans hs.1, h2.trans hs.2, h3.trans hs.3, h4.trans hs.4⟩

/-- Steps that change neither flags nor capacities. -/
theorem of_same (h : Session s) (hsame : SameSession s t) (hwhole : bytesPerFrame ∣ t.pcmBytes.length) :
    Session t := by
  refine ⟨?_, ?_, hwhole⟩
  · exact h.storage_of_eq hsame.sbcCapacity hsame.pcmCapacity hsame.sbcDecoderInstance hsame.mediaInitialized
  · rw [hsame.audioStreamStarted, hsame.mediaInitialized]; exact h.started

end Session

/-- One frame more than the PCM ring can ever hold: such a request always gets to the decode loop. -/
def largeRequest : AudioRequest := .blank 145

/-! ## Whole frames in the PCM ring -/

theorem storeSurplus_whole {n : Nat} {surplus : List UInt8} {s : Sink P}
    (hs : bytesPerFrame ∣ s.pcmBytes.length) (hlen : surplus.length = n * bytesPerFrame) :
    bytesPerFrame ∣ (storeSurplus n surplus s).pcmBytes.length := by
  unfold storeSurplus
  split
  · exact hs
  · simp only [Sink.pcmBytes, P.ring.contents_write]
    split
    · rw [List.length_append, hlen]
      exact Nat.dvd_add hs (Nat.dvd_mul_left _ _)
    · exact hs

theorem handlePcmData_whole {b : PcmBlock} {s t : Sink P} (h : handlePcmData b s = .ok t)
    (hs : bytesPerFrame ∣ s.pcmBytes.length) : bytesPerFrame ∣ t.pcmBytes.length := by
  rcases handlePcmData_cases h with ⟨-, -, rfl⟩ | ⟨-, -, rfl⟩ | ⟨-, -, mem, rfl⟩
  · exact hs
  · exact hs
  · exact storeSurplus_whole hs (by simp [outputBuffer])

theorem pcmCallbacks_whole {bs : List PcmBlock} {s t : Sink P} (h : pcmCallbacks bs s = .ok t)
    (hs : bytesPerFrame ∣ s.pcmBytes.length) : bytesPerFrame ∣ t.pcmBytes.length := by
  refine pcmCallbacks_rule (I := fun u => bytesPerFrame ∣ u.pcmBytes.length) ?_ h hs
  intro b u v hu hv
  exact handlePcmData_whole hv hu

theorem decodeSigned16_whole {buffer : List UInt8} {s t : Sink P} (h : decodeSigned16 buffer s = .ok t)
    (hs : bytesPerFrame ∣ s.pcmBytes.length) : bytesPerFrame ∣ t.pcmBytes.length := by
  unfold decodeSigned16 at h
  split at h
  · cases h
  · exact pcmCallbacks_whole h hs

theorem playbackHandler_whole {r : AudioRequest} {s t : Sink P} (h : playbackHandler r s = .ok t)
    (hs : bytesPerFrame ∣ s.pcmBytes.length) : bytesPerFrame ∣ t.pcmBytes.length := by
  unfold playbackHandler at h
  split at h
  · cases h; exact hs
  · obtain ⟨u, hu, h⟩ := bind_returns.1 h
    obtain ⟨v, hv, h⟩ := bind_returns.1 h
    cases h
    have hu' : bytesPerFrame ∣ u.pcmBytes.length := by
      rw [(fillFromPcmRing_spec hu).2.2.1, List.length_drop]
      exact Nat.dvd_sub hs (Nat.dvd_mul_left _ _)
    have hframe : ∀ v w : Sink P, bytesPerFrame ∣ v.pcmBytes.length → wantsFrame v = true →
        decodeFrame v = .ok w → bytesPerFrame ∣ w.pcmBytes.length := by
      intro v w hv _ hw
      exact pcmCallbacks_whole (decodeFrame_returned hw).2 hv
    have hv' := decodeLoop_rule hframe hv hu'
    unfold writeWav
    split <;> exact hv'

/-! ## Every step -/

theorem Session.of_connection {s : Sink P} {connection : A2dpConnection} {addr : BdAddr} (h : Session s) :
    Session { s with a2dpConnection := connection, deviceAddr := addr } := by
  exact ⟨h.storage_of_eq rfl rfl rfl rfl, h.started, h.whole⟩

theorem Session.init {s : Sink P} (h : Session s) (c : SbcConfiguration) : Session (mediaProcessingInit c s) := by
  by_cases hm : s.mediaInitialized
  · rw [mediaProcessingInit_of_initialized hm]; exact h
  · simp only [mediaProcessingInit, hm, Bool.false_eq_true, if_false]
    exact ⟨Or.inl ⟨by simp, by simp, rfl⟩, by simp, by simp [Sink.pcmBytes]⟩

theorem Session.pause {s : Sink P} (h : Session s) : Session (mediaProcessingPause s) := by
  by_cases hm : s.mediaInitialized
  · obtain ⟨h1, h2, h3⟩ := h.setUp hm
    simp only [mediaProcessingPause, hm, Bool.not_true, Bool.false_eq_true, if_false]
    exact ⟨Or.inl ⟨by simpa using h1, by simpa using h2, h3⟩, by simp, by simp [Sink.pcmBytes]⟩
  · rw [mediaProcessingPause_of_closed (by simpa using hm)]; exact h

theorem Session.close {s : Sink P} (h : Session s) : Session (mediaProcessingClose s) := by
  by_cases hm : s.mediaInitialized
  · obtain ⟨h1, h2, h3⟩ := h.setUp hm
    simp only [mediaProcessingClose, hm, Bool.not_true, Bool.false_eq_true, if_false]
    exact ⟨Or.inl ⟨h1, h2, h3⟩, by simp, h.whole⟩
  · rw [mediaProcessingClose_of_closed (by simpa using hm)]; exact h

theorem a2dp_session {e : A2dpEvent} {s t : Sink P} (hs : Session s) (h : a2dpSinkPacketHandler e s = .ok t) :
    Session t := by
  refine a2dpSinkPacketHandler_rule h ?_ ?_ ?_ ?_ hs
  · intro u connection addr hu
    exact hu.of_connection
  · intro u _ _ hu
    exact hu.init _
  · intro u hu
    exact hu.pause
  · intro u hu
    exact hu.close

theorem media_session {packet : List UInt8} {now : Readings} {s t : Sink P} (hs : Session s)
    (h : handleL2capMediaDataPacket packet now s = .ok t) : Session t := by
  rcases handleL2capMediaDataPacket_cases h with ⟨-, rfl⟩ | ⟨hd, payload, -, ⟨-, hq⟩ | ⟨-, hq⟩⟩
  · exact hs
  · exact hs.of_same (decodeSigned16_spec hq).1 (decodeSigned16_whole hq hs.whole)
  · obtain ⟨-, -, hsame, ds, cs, -, -, hcs⟩ := queuePayload_spec hq
    have hsbc : P.ring.capacity t.sbcFrameRingBuffer = P.ring.capacity s.sbcFrameRingBuffer := by
      rw [hsame.sbcFrameRingBuffer]; exact P.ring.capacity_write _ _
    have hpcm : t.decodedAudioRingBuffer = s.decodedAudioRingBuffer := hsame.decodedAudioRingBuffer
    refine ⟨?_, ?_, ?_⟩
    · exact hs.storage_of_eq hsbc (by rw [hpcm]) hsame.sbcDecoderInstance hsame.mediaInitialized
    · rw [hsame.mediaInitialized]
      rcases hcs with ⟨hS, -, -⟩ | ⟨-, hst, -⟩
      · exact fun _ => hS.1
      · rw [hst]; exact hs.started
    · rw [Sink.pcmBytes, hpcm]; exact hs.whole

theorem step_session {e : SinkEvent} {s t : Sink P} (hs : Session s) (h : step s e = .ok t) : Session t := by
  cases e with
  | a2dp e => exact a2dp_session hs h
  | media packet now => exact media_session hs h
  | playback r => exact hs.of_same (playbackHandler_spec h).1 (playbackHandler_whole h hs.whole)

/-- **The session invariant** holds in every state of every run. -/
theorem run_session {ok : Sink P → SinkEvent → Prop} {es : List SinkEvent} {s : Sink P} (h : RunsTo ok es s) :
    Session s := by
  refine Run.inv ?_ h session_initial
  intro s e t hs _ he
  exact step_session hs he

end BtstackPort
