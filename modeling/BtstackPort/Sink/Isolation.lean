import BtstackPort.Sink.Compensation
import BtstackPort.Sink.Schedule
/-!
# What one stream leaves to the next

`media_processing_close` takes nothing back: the rings, the decoder and the resampler keep what the last stream has put
there. Only `media_processing_init` clears them, and it does not touch `sbc_frame_size`, so a packet that comes while
media processing is closed is not forgotten. Without such a packet, a stream that sets media processing up is served as
after a reset, whatever was played before it (`streams_isolated`).
-/

namespace BtstackPort

open FaultMachine

variable {P : Platform}

/-- Setting up leaves nothing of what was in the decoder, the resampler and the rate estimate. -/
structure Platform.InitsFresh (P : Platform) : Prop where
  decoder : ∀ c c', P.decoder.configure (P.decoder.initInstance c) = P.decoder.configure (P.decoder.initInstance c')
  resampler : ∀ c c' n, P.resampler.init c n = P.resampler.init c' n
  compensation : P.compensation.InitsFresh

theorem Platform.effective_initsFresh : Platform.effective.InitsFresh :=
  ⟨fun _ _ => rfl, fun _ _ _ => rfl, fun _ _ _ _ => rfl⟩

/-! ## Closed -/

/-- Media processing is closed and no packet has come since. -/
structure Closed (s : Sink P) : Prop where
  mediaInitialized : s.mediaInitialized = false
  sbcFrameSize : s.sbcFrameSize = 0
  l2capStreamStarted : s.l2capStreamStarted = false

section Closed

variable {s t : Sink P}

theorem a2dp_noClock (hc : P.effectiveSamplerate = false) {e : A2dpEvent} (hs : s.l2capStreamStarted = false)
    (h : a2dpSinkPacketHandler e s = .ok t) : t.l2capStreamStarted = false := by
  apply a2dpSinkPacketHandler_rule (I := fun u => u.l2capStreamStarted = false) h _ _ _ _ hs
  · intro u _ _ hu
    exact hu
  · intro u _ _ hu
    unfold mediaProcessingInit
    split <;> exact hu
  · intro u hu
    unfold mediaProcessingPause
    split
    · exact hu
    · simpa [hc] using hu
  · intro u hu
    unfold mediaProcessingClose
    split
    · exact hu
    · simpa [hc] using hu

theorem media_noClock (hsink : P.audioSink = true) (hc : P.effectiveSamplerate = false) {packet : List UInt8}
    {now : Readings} (hs : s.l2capStreamStarted = false) (h : handleL2capMediaDataPacket packet now s = .ok t) :
    t.l2capStreamStarted = false := by
  rcases handleL2capMediaDataPacket_cases h with ⟨-, rfl⟩ | ⟨sbcHeader, payload, -, ⟨hno, -⟩ | ⟨-, hq⟩⟩
  · exact hs
  · rw [hsink] at hno
    cases hno
  · apply queuePayload_rule (I := fun u => u.l2capStreamStarted = false) hq _ _ _ hs
    · intro u frameSize hu
      exact hu
    · intro u numFrames sbcFramesInBuffer hu
      unfold adjustDrift
      rw [if_neg (by simp [hc])]
      exact hu
    · intro u _ hu
      unfold mediaProcessingStart
      split <;> exact hu

/-- Without an effective sample rate the estimation never starts. -/
theorem step_noClock (hsink : P.audioSink = true) (hc : P.effectiveSamplerate = false) {e : SinkEvent}
    (hs : s.l2capStreamStarted = false) (h : step s e = .ok t) : t.l2capStreamStarted = false := by
  cases e with
  | a2dp e => exact a2dp_noClock hc hs h
  | media packet now => exact media_noClock hsink hc hs h
  | playback r =>
    obtain ⟨hsame, -⟩ := playbackHandler_spec h
    exact hsame.l2capStreamStarted.trans hs

/-- No estimation is under way while media processing is closed; without an effective sample rate, never. -/
theorem run_idleClock (hsink : P.audioSink = true) {ok : Sink P → SinkEvent → Prop} {es : List SinkEvent}
    (h : RunsTo ok es s) (hidle : P.effectiveSamplerate = true → s.mediaInitialized = false) :
    s.l2capStreamStarted = false := by
  cases hc : P.effectiveSamplerate with
  | false =>
    refine Run.inv (I := fun u : Sink P => u.l2capStreamStarted = false) ?_ h rfl
    intro u e v hu _ he
    exact step_noClock hsink hc hu he
  | true =>
    have hs := run_compensation hc h
    by_contra hl
    have hm := hs.audio (hs.l2cap (by simpa using hl))
    rw [hidle hc] at hm
    cases hm

theorem Closed.setStreamState (h : Closed s) (st : StreamState) : Closed (s.setStreamState st) :=
  ⟨h.mediaInitialized, h.sbcFrameSize, h.l2capStreamStarted⟩

/-- **Setting up** from closed states gives states that serve everything alike: what the rings, the decoder and the
resampler held is gone. -/
theorem Closed.init_alike (hfresh : P.InitsFresh) (hs : Closed s) (ht : Closed t)
    (hconn : t.a2dpConnection = s.a2dpConnection) (c : SbcConfiguration) :
    Alike (mediaProcessingInit c s) (mediaProcessingInit c t) := by
  have hdecoder := hfresh.decoder t.sbcDecoderContext s.sbcDecoderContext
  have hresampler := hfresh.resampler t.resampleInstance s.resampleInstance c.numChannels.toNat
  unfold mediaProcessingInit
  rw [if_neg (by simp [hs.mediaInitialized]), if_neg (by simp [ht.mediaInitialized])]
  constructor
  · constructor <;> simp [hs.sbcFrameSize, ht.sbcFrameSize, hs.l2capStreamStarted, ht.l2capStreamStarted, hconn]
  · exact Or.inr ⟨hs.l2capStreamStarted, hfresh.compensation⟩
  · simp only [Sink.source, Sink.sbcBytes, hdecoder, hresampler]
  · simp [Sink.pcmBytes]

end Closed

/-! ## A stream starts -/

/-- The next `STREAM_STARTED` sets media processing up. It has been closed and no packet has come since, or it is open
and a configuration has asked for it to be closed first. -/
def Sink.Renews (s : Sink P) : Prop :=
  (s.mediaInitialized = false ∧ s.sbcFrameSize = 0) ∨
    (s.mediaInitialized = true ∧ s.a2dpConnection.sbcConfiguration.reconfigure ≠ 0)

section Start

variable {s t : Sink P}

/-- Media processing is closed when it is set up. -/
theorem Sink.Renews.streamStarted (hsink : P.audioSink = true) {ok : Sink P → SinkEvent → Prop}
    {es : List SinkEvent} (h : RunsTo ok es s) (hs : s.Renews) :
    ∃ u, streamStarted s = mediaProcessingInit s.a2dpConnection.sbcConfiguration u ∧ Closed u ∧
      u.a2dpConnection = { s.a2dpConnection with streamState := .playing } := by
  refine ⟨_, streamStarted_eq s, ?_⟩
  rcases hs with ⟨hm, h0⟩ | ⟨hm, hreconfigure⟩
  · have hclosed : Closed (s.setStreamState .playing) :=
      Closed.setStreamState ⟨hm, h0, run_idleClock hsink h fun _ => hm⟩ .playing
    rw [mediaProcessingClose_of_closed hclosed.mediaInitialized, ite_self]
    exact ⟨hclosed, rfl⟩
  · rw [if_pos hreconfigure]
    refine ⟨?_, mediaProcessingClose_connection _⟩
    have hopen : (s.setStreamState .playing).mediaInitialized = true := hm
    unfold mediaProcessingClose
    rw [if_neg (by simp [hopen])]
    refine ⟨rfl, rfl, ?_⟩
    cases hc : P.effectiveSamplerate with
    | true => simp
    | false =>
      have hidle : s.l2capStreamStarted = false := run_idleClock hsink h (by simp [hc])
      simpa [Sink.setStreamState] using hidle

theorem streamStarted_alike (hsink : P.audioSink = true) (hfresh : P.InitsFresh)
    {ok : Sink P → SinkEvent → Prop} {es es' : List SinkEvent} (h : RunsTo ok es s) (h' : RunsTo ok es' t)
    (hs : s.Renews) (ht : t.Renews) (hconn : t.a2dpConnection = s.a2dpConnection) :
    Alike (streamStarted s) (streamStarted t) := by
  obtain ⟨u, hu, hclosed, huconn⟩ := hs.streamStarted hsink h
  obtain ⟨v, hv, hclosed', hvconn⟩ := ht.streamStarted hsink h'
  rw [hu, hv, hconn]
  refine hclosed.init_alike hfresh hclosed' ?_ _
  rw [huconn, hvconn, hconn]

end Start

/-- **Isolation of streams**: two runs of stereo streams with well-formed packets may have played anything. Once their
connection records are the same and the next `STREAM_STARTED` sets media processing up in both, everything from there
on is served alike, as long as the packets are handled with the same readings of the clock and of the driver's sample
rate where the build reads them: what the first run can do the second can, with the same bytes written to callers'
buffers and the same buffers decoded, whatever the sizes of the requests. -/
theorem streams_isolated (hsink : P.audioSink = true) (hone : P.decoder.AtMostOneCallback)
    (h144 : P.AtMost144Frames) (hfresh : P.InitsFresh) {past past' es es' : List SinkEvent} {u v s : Sink P}
    (hu : RunsTo StereoWellFormed past u) (hv : RunsTo StereoWellFormed past' v) (hrenews : u.Renews)
    (hrenews' : v.Renews) (hconn : v.a2dpConnection = u.a2dpConnection) (hdemand : SameDemand P es es')
    (h : Run step StereoWellFormed u (.a2dp .streamStarted :: es) s) :
    ∃ t, Run step StereoWellFormed v (.a2dp .streamStarted :: es') t ∧ Alike s t ∧ SameOutput u s v t := by
  obtain ⟨hok, u', hu', hrest⟩ := run_cons.1 h
  have hv' : step v (.a2dp .streamStarted) = .ok (streamStarted v) := rfl
  have hok' : StereoWellFormed v (.a2dp .streamStarted) := by
    rw [StereoWellFormed, hconn]
    exact hok
  have hstart : SameOutput u u' v (streamStarted v) := sameOutput_of_step hsink (by simp) (by simp) hu' hv'
  have hconserved : Conserved u' := a2dp_conserved hok (run_conserved hsink hone h144 hu) hu'
  have hconserved' : Conserved (streamStarted v) := a2dp_conserved hok' (run_conserved hsink hone h144 hv) hv'
  have halike : Alike u' (streamStarted v) := by
    cases hu'
    exact streamStarted_alike hsink hfresh hu hv hrenews hrenews' hconn
  obtain ⟨t, ht, hst, hout⟩ := schedule_run hsink hone h144 hdemand hrest hconserved hconserved' halike
  exact ⟨t, .cons hok' hv' ht, hst, hstart.trans hout⟩

/-- A stereo stream is negotiated with a device. -/
def negotiated : List SinkEvent :=
  [.a2dp (.mediaCodecSbcConfiguration .stereo44100), .a2dp (.streamEstablished 0 (Vector.replicate 6 1) 1 1)]

/-- It starts, queues 60 frames and plays one; by the last packet the rate estimation has begun. -/
def sixtyFrames : List SinkEvent :=
  .a2dp .streamStarted :: List.replicate 4 fifteenFrames ++ [SinkEvent.playback (.blank 1), fifteenLate]

/-- Another stream, whose rate estimation has begun at 500 ms, leaves frames in the ring. -/
def earlierStream : List SinkEvent := startedStream ++ [fifteenLate, .playback (.blank 1), .a2dp .streamReleased]

/-- The same stream after a reset and after the other one. -/
theorem streams_isolated_earlierStream :
    ∃ u v s t : Sink .effective, RunsTo StereoWellFormed negotiated u ∧
      RunsTo StereoWellFormed (earlierStream ++ negotiated) v ∧ v.sbcBytes ≠ [] ∧
      Run step StereoWellFormed u sixtyFrames s ∧ Run step StereoWellFormed v sixtyFrames t ∧
      s.l2capStreamStarted = true ∧ Alike s t ∧ SameOutput u s v t := by
  have hok := stereoWellFormed_fifteen
  obtain ⟨u, v, s, hu, hv, hs, hleft, hclock, hrenews, hrenews', hconn⟩ : ∃ u v s : Sink .effective,
      RunsTo StereoWellFormed negotiated u ∧ RunsTo StereoWellFormed (earlierStream ++ negotiated) v ∧
      Run step StereoWellFormed u sixtyFrames s ∧ v.sbcBytes.length = 74 ∧ s.l2capStreamStarted = true ∧
      u.Renews ∧ v.Renews ∧ v.a2dpConnection = u.a2dpConnection :=
    ⟨_, _, _, .cons trivial rfl (.cons trivial rfl (.nil _)),
      .cons trivial rfl (.cons rfl rfl (.cons (hok _ _) rfl (.cons (hok _ _) rfl (.cons (hok _ _) rfl
        (.cons (hok _ _) rfl (.cons (hok _ _) rfl (.cons trivial rfl (.cons trivial rfl (.cons trivial rfl
          (.cons trivial rfl (.nil _))))))))))),
      .cons rfl rfl (.cons (hok _ _) rfl (.cons (hok _ _) rfl (.cons (hok _ _) rfl (.cons (hok _ _) rfl
        (.cons trivial rfl (.cons (hok _ _) rfl (.nil _))))))),
      rfl, rfl, Or.inl ⟨rfl, rfl⟩, Or.inl ⟨rfl, rfl⟩, rfl⟩
  have hdemand : SameDemand .effective sixtyFrames.tail sixtyFrames.tail :=
    .media (fun _ => rfl) (.media (fun _ => rfl) (.media (fun _ => rfl) (.media (fun _ => rfl)
      (@SameDemand.requests _ [.blank 1] [.blank 1] _ _ rfl (.media (fun _ => rfl) .nil)))))
  obtain ⟨t, ht, hst, hout⟩ := streams_isolated rfl SbcDecoder.reference_atMostOneCallback
    Platform.effective_atMost144Frames Platform.effective_initsFresh hu hv hrenews hrenews' hconn hdemand hs
  exact ⟨u, v, s, t, hu, hv, fun hnil => by simp [hnil] at hleft, hs, ht, hclock, hst, hout⟩

end BtstackPort
