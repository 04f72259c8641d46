import BtstackPort.Sink.Recording
/-!
# From the peer to the audio driver

A peer starts a stream and sends frames of one size, as many in each packet as it likes. As long as nothing interrupts
the stream and the driver keeps up, the driver gets the stream decoded and resampled by a decoder and a resampler that
have been set up anew, whatever was played before: the frames that were sent and have not been decoded are in the SBC
ring, the audio that was decoded and has not been asked for is in the PCM ring, and nothing is anywhere else
(`sent_is_heard`). The resampling factors are the ones that the log names, each where it was set: they follow the level
of the ring or the clock, so they do depend on how the frames are packed and when they are asked for.
-/

namespace BtstackPort

open FaultMachine Framing

variable {P : Platform}

/-- The stream goes on: packets carry whole frames of `n` bytes and find room in the SBC ring. -/
def GoesOn (n : Nat) (s : Sink P) : SinkEvent → Prop
  | .media packet _ => ∃ sbcHeader payload, mediaPayload P packet = some (sbcHeader, payload) ∧
    1 ≤ sbcHeader.numFrames ∧ payload.length = sbcHeader.numFrames * n ∧ s.HasRoom payload
  | .a2dp .streamStarted => False
  | .a2dp .streamSuspended => False
  | .a2dp .streamReleased => False
  | .a2dp .signalingConnectionReleased => False
  | _ => True

/-- The frames that were sent. -/
def sentFrames (P : Platform) (n : Nat) (es : List SinkEvent) : List (List UInt8) :=
  (es.filterMap (SinkEvent.payload P)).flatMap (cut n)

theorem GoesOn.stereoWellFormed {n : Nat} (hn : 1 ≤ n) (hmax : n ≤ maxSbcFrameSize) {s : Sink P} {e : SinkEvent}
    (h : GoesOn n s e) : StereoWellFormed s e := by
  cases e with
  | a2dp e =>
    cases e with
    | streamStarted => exact absurd h id
    | _ => trivial
  | media packet now =>
    obtain ⟨sbcHeader, payload, hp, hframes, hlen, -⟩ := h
    rintro sbcHeader' payload' hp'
    rw [hp] at hp'
    cases hp'
    rw [hlen, Nat.mul_div_cancel_left _ (by omega)]
    exact ⟨hframes, hn, hmax⟩
  | playback r => trivial

/-- Packets and requests leave the start of the epoch alone. -/
theorem record_data_start {cs : List Call} (h : ∀ c ∈ cs, c.IsData) (e : SignalEpoch P) :
    (cs.foldl SignalEpoch.record e).decoder = e.decoder ∧ (cs.foldl SignalEpoch.record e).resampler = e.resampler := by
  induction cs generalizing e with
  | nil => exact ⟨rfl, rfl⟩
  | cons c cs ih =>
    have hc := h c (by simp)
    obtain ⟨hdecoder, hresampler⟩ := ih (fun d hd => h d (by simp [hd])) (e.record c)
    rw [List.foldl_cons, hdecoder, hresampler]
    cases c with
    | resampleInit channels => simp [Call.IsData, Call.IsPlayback, Call.IsPcm, Call.IsDrift] at hc
    | ringReset ring => simp [Call.IsData, Call.IsPlayback, Call.IsPcm, Call.IsDrift] at hc
    | _ => exact ⟨rfl, rfl⟩

/-! ## While the stream goes on -/

/-- The stream was started with `decoder` and `resampler`, and `es` came since. -/
structure Transmission (n : Nat) (decoder : P.decoder.Context) (resampler : P.resampler.Context)
    (es : List SinkEvent) (s : Sink P) : Prop where
  mediaInitialized : s.mediaInitialized = true
  queue : ∃ q, Represents (fun _ => n) s q
  received : receivedFrames (fun _ => n) s = sentFrames P n es
  decoder : (signalEpoch P s.calls).decoder = decoder
  resampler : (signalEpoch P s.calls).resampler = resampler

namespace Transmission

variable {n : Nat} {decoder : P.decoder.Context} {resampler : P.resampler.Context} {es : List SinkEvent}
  {s t : Sink P}

/-- Setting up starts it. -/
theorem init {s : Sink P} (hm : s.mediaInitialized = false) (hs : Plays s) (c : SbcConfiguration) :
    Transmission n (P.decoder.configure (P.decoder.initInstance s.sbcDecoderContext))
      (P.resampler.init s.resampleInstance c.numChannels.toNat) [] (mediaProcessingInit c s) := by
  have hlog := mediaProcessingInit_extends (c := c) hm
  have hepoch : sbcEpoch (mediaProcessingInit c s).calls = ⟨(sbcEpoch s.calls).resets + 1, [], []⟩ := by
    rw [sbcEpoch_extends hlog, sbcEpoch_init]
  have hsignal : signalEpoch P (mediaProcessingInit c s).calls =
      ⟨P.decoder.configure (P.decoder.initInstance s.sbcDecoderContext),
        P.resampler.init s.resampleInstance c.numChannels.toNat, []⟩ := by
    have hrecord : signalEpoch P (mediaProcessingInit c s).calls =
        (signalEpoch P s.calls).record (.resampleInit c.numChannels.toNat) := by
      rw [signalEpoch_extends hlog, mediaProcessingInitCalls, wavCalls, audioCalls]
      split <;> split <;> rfl
    rw [hrecord, SignalEpoch.record, hs.contexts]
  constructor
  · simp [mediaProcessingInit, hm]
  · refine ⟨.empty, represents_reset hepoch ?_⟩
    simp [mediaProcessingInit, hm, Sink.sbcBytes]
  · rw [receivedFrames, hepoch]
    rfl
  · rw [hsignal]
  · rw [hsignal]

/-- The connection record does not matter. -/
theorem connection (h : Transmission n decoder resampler es s) (connection : A2dpConnection) (addr : BdAddr) :
    Transmission n decoder resampler es { s with a2dpConnection := connection, deviceAddr := addr } := by
  obtain ⟨q, hq⟩ := h.queue
  exact ⟨h.mediaInitialized, ⟨q, hq.of_same rfl rfl (Or.inl rfl)⟩, h.received, h.decoder, h.resampler⟩

theorem a2dp {e : A2dpEvent} (hok : GoesOn n s (.a2dp e)) (h : Transmission n decoder resampler es s)
    (he : a2dpSinkPacketHandler e s = .ok t) : Transmission n decoder resampler es t := by
  cases e with
  | mediaCodecOtherConfiguration => cases he; exact h
  | mediaCodecSbcConfiguration c =>
    obtain ⟨mode, -, he⟩ := bind_returns.1 he
    cases he
    exact h.connection _ s.deviceAddr
  | streamEstablished status addr cid localSeid =>
    simp only [a2dpSinkPacketHandler] at he
    split at he
    · cases he; exact h
    · cases he; exact h.connection _ addr
  | ignored => cases he; exact h
  | _ => exact absurd hok id

/-- What packets and requests keep. -/
theorem data {e : SinkEvent} {es' : List SinkEvent} (hdata : ∀ a, e ≠ .a2dp a)
    (h : Transmission n decoder resampler es s) (he : step s e = .ok t) (hq : ∃ q, Represents (fun _ => n) t q)
    (hreceived : receivedFrames (fun _ => n) t = sentFrames P n es') : Transmission n decoder resampler es' t := by
  obtain ⟨-, hm, cs, hlog, hcs⟩ := step_data he hdata
  obtain ⟨hdecoder, hresampler⟩ := record_data_start hcs (signalEpoch P s.calls)
  rw [← signalEpoch_extends hlog] at hdecoder hresampler
  exact ⟨hm.trans h.mediaInitialized, hq, hreceived, hdecoder.trans h.decoder, hresampler.trans h.resampler⟩

/-- A packet that finds room is received as a whole. -/
theorem media (hsink : P.audioSink = true) (hn : 1 ≤ n) (hmax : n ≤ maxSbcFrameSize) {packet : List UInt8}
    {now : Readings} (hok : GoesOn n s (.media packet now)) (h : Transmission n decoder resampler es s)
    (he : BtstackPort.step s (.media packet now) = .ok t) :
    Transmission n decoder resampler (es ++ [.media packet now]) t := by
  obtain ⟨sbcHeader, payload, hp, hframes, hlen, hroom⟩ := hok
  obtain ⟨q, hq⟩ := h.queue
  obtain ⟨q', -, hq'⟩ := media_represents hsink hq
    ⟨h.mediaInitialized, hn, hmax, sbcHeader, payload, hp, hframes, hlen⟩ he
  refine h.data (by simp) he ⟨q', hq'⟩ ?_
  have hpayload : (SinkEvent.media packet now).payload P = some payload := by simp [SinkEvent.payload, hp]
  rw [sentFrames, List.filterMap_append, List.flatMap_append, ← sentFrames, ← h.received]
  rcases handleL2capMediaDataPacket_cases he with ⟨hnone, -⟩ | ⟨hd, pl, hsome, ⟨hno, -⟩ | ⟨-, hqueue⟩⟩
  · rw [hp] at hnone
    cases hnone
  · rw [hsink] at hno
    cases hno
  · rw [hp] at hsome
    cases hsome
    have hstored : (P.ring.write s.sbcFrameRingBuffer payload).1 = 0 := (P.ring.write_status _ _).2 hroom
    have hepoch := queuePayload_epoch hqueue
    rw [hstored, SbcEpoch.record, if_pos rfl] at hepoch
    rw [receivedFrames, hepoch, List.flatMap_append, List.filterMap_cons_some hpayload]
    rfl

/-- A request receives nothing. -/
theorem playback {r : AudioRequest} (h : Transmission n decoder resampler es s)
    (he : BtstackPort.step s (.playback r) = .ok t) :
    Transmission n decoder resampler (es ++ [.playback r]) t := by
  obtain ⟨q, hq⟩ := h.queue
  obtain ⟨q', -, hq'⟩ := playback_represents hq he
  refine h.data (by simp) he ⟨q', hq'⟩ ?_
  obtain ⟨-, k, cs, -, -, -, hlog, hcs, -⟩ := playbackHandler_spec he
  have hsent : sentFrames P n (es ++ [.playback r]) = sentFrames P n es := by
    simp [sentFrames, SinkEvent.payload]
  rw [hsent, ← h.received, receivedFrames, sbcEpoch_extends hlog, record_playback hcs]
  rfl

theorem step (hsink : P.audioSink = true) (hn : 1 ≤ n) (hmax : n ≤ maxSbcFrameSize) {e : SinkEvent}
    (hok : GoesOn n s e) (h : Transmission n decoder resampler es s) (he : BtstackPort.step s e = .ok t) :
    Transmission n decoder resampler (es ++ [e]) t := by
  cases e with
  | a2dp e =>
    have hsent : sentFrames P n (es ++ [.a2dp e]) = sentFrames P n es := by simp [sentFrames, SinkEvent.payload]
    have hnext := h.a2dp hok he
    exact ⟨hnext.mediaInitialized, hnext.queue, hnext.received.trans hsent.symm, hnext.decoder, hnext.resampler⟩
  | media packet now => exact h.media hsink hn hmax hok he
  | playback r => exact h.playback he

end Transmission

/-- A STREAM_STARTED that sets media processing up starts a transmission. -/
theorem streamStarted_transmission {n : Nat} {s : Sink P} (hs : Plays s)
    (hopens : s.mediaInitialized = false ∨ s.configuration.reconfigure ≠ 0) :
    Transmission n (P.decoder.configure (P.decoder.initInstance s.sbcDecoderContext))
      (P.resampler.init s.resampleInstance s.configuration.numChannels.toNat) [] (streamStarted s) := by
  have hplaying : Plays (s.setStreamState .playing) := ⟨hs.contexts, hs.produced⟩
  rw [streamStarted_eq]
  split
  · have hcontexts : (mediaProcessingClose (s.setStreamState .playing)).sbcDecoderContext = s.sbcDecoderContext ∧
        (mediaProcessingClose (s.setStreamState .playing)).resampleInstance = s.resampleInstance := by
      unfold mediaProcessingClose
      split <;> exact ⟨rfl, rfl⟩
    rw [← hcontexts.1, ← hcontexts.2]
    exact .init (mediaProcessingClose_closed _) (mediaProcessingClose_plays hplaying) _
  · rename_i hkeep
    exact .init (s := s.setStreamState .playing) (hopens.resolve_right hkeep) hplaying _

/-- **Transmission**: from the STREAM_STARTED that sets up a stereo stream, as long as the stream goes on, the audio
given to the driver, followed by the PCM ring, is what the pipeline, set up anew, makes of the first frames that were
sent and the resampling factors that the log names between them; the other frames that were sent are in the SBC ring. -/
theorem sent_is_heard (hsink : P.audioSink = true) (hone : P.decoder.AtMostOneCallback)
    (h144 : P.AtMost144Frames) {n : Nat} (hn : 1 ≤ n) (hmax : n ≤ maxSbcFrameSize)
    {past es : List SinkEvent} {s t u : Sink P} (h : RunsTo StereoWellFormed past s)
    (hopens : s.mediaInitialized = false ∨ s.configuration.reconfigure ≠ 0)
    (hstereo : s.configuration.numChannels = 2) (ht : step s (.a2dp .streamStarted) = .ok t)
    (hu : Run step (GoesOn n) t es u) :
    (pcmEpoch u.calls).delivered ++ u.pcmBytes =
        ((pipeline P).run (P.decoder.configure (P.decoder.initInstance s.sbcDecoderContext),
          P.resampler.init s.resampleInstance 2) (signalEpoch P u.calls).inputs).2 ∧
      ∃ rest, sentFrames P n es = frames (signalEpoch P u.calls).inputs ++ rest ∧ u.sbcBytes = rest.flatten := by
  have hall : RunsTo StereoWellFormed ((past ++ [.a2dp .streamStarted]) ++ es) u :=
    run_append.2 ⟨t, run_snoc.2 ⟨s, h, hstereo, ht⟩, hu.mono fun _ _ hok => hok.stereoWellFormed hn hmax⟩
  have hstart : Transmission n (P.decoder.configure (P.decoder.initInstance s.sbcDecoderContext))
      (P.resampler.init s.resampleInstance 2) [] t := by
    have htransmission := streamStarted_transmission (n := n) (run_plays hsink h) hopens
    rw [hstereo] at htransmission
    cases ht
    exact htransmission
  have hend := Run.history (I := Transmission n _ _) hstart
    (fun _ _ _ _ _ hs hok he => hs.step hsink hn hmax hok he) hu
  obtain ⟨q, hq⟩ := hend.queue
  refine ⟨?_, q.pending, ?_, hq.bytes⟩
  · rw [(run_conserved hsink hone h144 hall).balance, ← (run_plays hsink hall).produced, SignalEpoch.run, hend.decoder,
      hend.resampler]
  · rw [← hend.received, run_frames hall, ← hq.served, ← hq.stored, q.balance]

/-- Two frames are sent and one is asked for. -/
def oneOfTwo : List SinkEvent :=
  [.media (MediaPacket.plain 2 (List.replicate 12 7)).bytes .nominal, .playback (.blank 1)]

/-- A stereo stream has been configured and starts. -/
theorem sent_is_heard_oneOfTwo :
    ∃ s t u : Sink (.reference true),
      RunsTo StereoWellFormed [.a2dp (.mediaCodecSbcConfiguration .stereo44100)] s ∧
      step s (.a2dp .streamStarted) = .ok t ∧ Run step (GoesOn 6) t oneOfTwo u ∧
      (pcmEpoch u.calls).delivered ++ u.pcmBytes =
          ((pipeline (.reference true)).run ((), (2 : Nat)) (signalEpoch (.reference true) u.calls).inputs).2 ∧
        ∃ rest, sentFrames (.reference true) 6 oneOfTwo =
          frames (signalEpoch (.reference true) u.calls).inputs ++ rest ∧ u.sbcBytes = rest.flatten := by
  obtain ⟨s, t, u, hs, hclosed, hstereo, ht, hu⟩ : ∃ s t u : Sink (.reference true),
      RunsTo StereoWellFormed [.a2dp (.mediaCodecSbcConfiguration .stereo44100)] s ∧ s.mediaInitialized = false ∧
      s.configuration.numChannels = 2 ∧ step s (.a2dp .streamStarted) = .ok t ∧ Run step (GoesOn 6) t oneOfTwo u :=
    ⟨_, _, _, .cons trivial rfl (.nil _), rfl, rfl, rfl,
      .cons ⟨_, _, rfl, by decide, rfl, by decide⟩ rfl (.cons trivial rfl (.nil _))⟩
  exact ⟨s, t, u, hs, ht, hu, sent_is_heard rfl SbcDecoder.reference_atMostOneCallback
    (Platform.reference_atMost144Frames true) (by decide) (by decide) hs (Or.inl hclosed) hstereo ht hu⟩

end BtstackPort
