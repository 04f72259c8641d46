import BtstackPort.Sink.Splitting
/-!
# The schedule of the requests

The audio driver asks when it likes and for as much as it likes. Two runs make `SameDemand` when they have the same
packets and A2DP events, and between any two of them ask for the same number of frames, in requests of any size. They
leave the sink in states that are `Alike`: all later packets, A2DP events and requests are served in the same way
(`schedule_independent`).

In the build that measures an effective sample rate, a packet is handled with readings of the clock and of the audio
driver, and these decide the resampling factor. There the two runs also have the same readings.
-/

namespace BtstackPort

open FaultMachine Framing ChunkedReader

variable {P : Platform}

/-- The frames that are asked for. -/
def demand (rs : List AudioRequest) : Nat := (rs.map (·.numAudioFrames.toNat)).sum

/-! ## Requests in a row -/

section Requests

variable {s t : Sink P}

/-- With less than a block in the SBC ring, a request takes what the PCM ring holds. -/
theorem playbackHandler_starved {r : AudioRequest} (hpos : 0 < s.sbcFrameSize)
    (hshort : s.sbcBytes.length < s.sbcFrameSize) (h : playbackHandler r s = .ok t) :
    ∃ cs, Extends s t cs ∧ writtenToRequest cs = s.pcmBytes.take r.buffer.length ∧
      t.pcmBytes = s.pcmBytes.drop r.buffer.length ∧ t.source = s.source := by
  obtain ⟨u, n, v, hu, hit, -, rfl⟩ := playbackHandler_returned hpos h
  obtain ⟨hsame, hring, hbytes, -, -, -, hlog⟩ := fillFromPcmRing_spec hu
  obtain ⟨hdecoder, hresampler⟩ := fillFromPcmRing_contexts hu
  have hqueued : u.sbcBytes = s.sbcBytes := by rw [Sink.sbcBytes, hring]
  have hstop : wantsFrame u = false := by
    by_contra hmore
    have hblock := (wantsFrame_iff.1 (by simpa using hmore)).2
    rw [hsame.sbcFrameSize, hqueued] at hblock
    omega
  obtain rfl := hit.zero_of_cond hstop
  cases hit
  have hsource : u.source = s.source := by
    rw [Sink.source, Sink.source, hdecoder, hresampler, hqueued]
  have hwritten : writtenToRequest
      [.ringRead .decodedAudio (r.numAudioFrames.toNat * bytesPerFrame) (r.fromRing s)] =
        s.pcmBytes.take r.buffer.length := by
    simp [writtenToRequest, Call.toRequest, AudioRequest.fromRing, r.length_buffer]
  rw [← r.length_buffer] at hbytes
  obtain ⟨ws, hws, hnone, -, hpcm, hsource'⟩ := writeWav_quiet r u.requestFrames.toNat u
  refine ⟨_, hlog.trans hws, ?_, ?_, hsource'.trans hsource⟩
  · rw [writtenToRequest_append, hnone, List.append_nil, hwritten]
  · rw [hpcm]
    exact hbytes

/-- **A request is a read**, whether or not the pipeline has been set up. -/
theorem playbackHandler_served (hsink : P.audioSink = true) (hone : P.decoder.AtMostOneCallback)
    (h144 : P.AtMost144Frames) {r : AudioRequest} (hs : Conserved s) (hpos : 0 < s.sbcFrameSize)
    (h : playbackHandler r s = .ok t) :
    ∃ cs, Extends s t cs ∧ Reads (SbcSource.next s.sbcFrameSize) (r.numAudioFrames.toNat * bytesPerFrame) s.pcmBytes
      s.source (writtenToRequest cs) t.pcmBytes t.source := by
  rw [← r.length_buffer]
  by_cases hblock : s.sbcFrameSize ≤ s.sbcBytes.length
  · obtain ⟨cs, hlog, -, hreads⟩ :=
      playbackHandler_pulls hsink hone h144 (hs.ready_of_bytes (by omega)) hpos hs.whole h
    exact ⟨cs, hlog, hreads⟩
  · obtain ⟨cs, hlog, hwritten, hrest, hsource⟩ := playbackHandler_starved hpos (by omega) h
    refine ⟨cs, hlog, ?_⟩
    rw [hwritten, hrest, hsource]
    by_cases henough : r.buffer.length ≤ s.pcmBytes.length
    · exact .enough henough
    · rw [List.take_of_length_le (by omega), List.drop_eq_nil_of_le (by omega)]
      exact .dry (by omega) (if_pos (show s.sbcBytes.length < s.sbcFrameSize by omega))

/-- A request leaves the rate estimate alone. -/
theorem playbackHandler_clock {r : AudioRequest} (h : playbackHandler r s = .ok t) :
    t.sampleRateCompensation = s.sampleRateCompensation := by
  by_cases h0 : s.sbcFrameSize = 0
  · rw [playbackHandler, if_pos h0] at h
    cases h
    rfl
  · obtain ⟨u, n, v, hu, hit, -, rfl⟩ := playbackHandler_returned (Nat.pos_of_ne_zero h0) h
    have hfill : u.sampleRateCompensation = s.sampleRateCompensation := by
      unfold fillFromPcmRing at hu
      simp only at hu
      split at hu <;> cases hu
      rfl
    have hloop : v.sampleRateCompensation = s.sampleRateCompensation := by
      refine hit.inv (I := fun w => w.sampleRateCompensation = s.sampleRateCompensation) ?_ hfill
      intro w x hw _ hx
      refine pcmCallbacks_rule (I := fun y => y.sampleRateCompensation = s.sampleRateCompensation) ?_
        (decodeFrame_returned hx).2 hw
      intro b y z hy hz
      rcases handlePcmData_cases hz with ⟨-, -, rfl⟩ | ⟨-, -, rfl⟩ | ⟨-, -, mem, rfl⟩
      · exact hy
      · exact hy
      · unfold storeSurplus
        split <;> exact hy
    unfold writeWav
    split <;> exact hloop

/-- What some requests in a row do: silence, as long as no packet has come, or one long read. -/
structure Serves (frames : Nat) (s t : Sink P) : Prop where
  session : SameSession s t
  clock : t.sampleRateCompensation = s.sampleRateCompensation
  served : ∃ cs k, Extends s t cs ∧ decodes cs = blocks s.sbcFrameSize k s.sbcBytes ∧
    k * s.sbcFrameSize ≤ s.sbcBytes.length ∧ t.sbcBytes = s.sbcBytes.drop (k * s.sbcFrameSize) ∧
    ((s.sbcFrameSize = 0 ∧ k = 0 ∧ writtenToRequest cs = List.replicate (frames * bytesPerFrame) 0 ∧
        t.pcmBytes = s.pcmBytes ∧ t.source = s.source) ∨
      (0 < s.sbcFrameSize ∧ Reads (SbcSource.next s.sbcFrameSize) (frames * bytesPerFrame) s.pcmBytes s.source
        (writtenToRequest cs) t.pcmBytes t.source))

theorem Serves.refl (s : Sink P) : Serves 0 s s where
  session := .refl s
  clock := rfl
  served := by
    refine ⟨[], 0, by simp [Extends], rfl, by simp, by simp, ?_⟩
    rcases Nat.eq_zero_or_pos s.sbcFrameSize with h0 | hpos
    · exact Or.inl ⟨h0, rfl, by simp [writtenToRequest], rfl, rfl⟩
    · have hnone : Reads (SbcSource.next s.sbcFrameSize) 0 s.pcmBytes s.source (s.pcmBytes.take 0) (s.pcmBytes.drop 0)
          s.source := .enough (Nat.zero_le _)
      rw [Nat.zero_mul]
      exact Or.inr ⟨hpos, hnone⟩

theorem Serves.trans {m n : Nat} {u : Sink P} (h : Serves m s t) (h' : Serves n t u) : Serves (m + n) s u where
  session := h.session.trans h'.session
  clock := h'.clock.trans h.clock
  served := by
    obtain ⟨cs, k, hlog, hdecodes, hk, hbytes, hcs⟩ := h.served
    obtain ⟨ds, l, hlog', hdecodes', hl, hbytes', hds⟩ := h'.served
    rw [h.session.sbcFrameSize] at hdecodes' hl hbytes' hds
    refine ⟨cs ++ ds, k + l, hlog.trans hlog', ?_, ?_, ?_, ?_⟩
    · rw [decodes_append, hdecodes, hdecodes', hbytes, blocks_append]
    · rw [hbytes, List.length_drop] at hl
      rw [Nat.add_mul]
      omega
    · rw [hbytes', hbytes, List.drop_drop, Nat.add_mul]
    · rw [writtenToRequest_append, Nat.add_mul]
      rcases hcs with ⟨h0, rfl, hcs, hpcm, hsource⟩ | ⟨hpos, hreads⟩
      · rcases hds with ⟨-, rfl, hds, hpcm', hsource'⟩ | ⟨hpos, -⟩
        · refine Or.inl ⟨h0, rfl, ?_, hpcm'.trans hpcm, hsource'.trans hsource⟩
          rw [hcs, hds, List.replicate_append_replicate]
        · omega
      · rcases hds with ⟨h0, -⟩ | ⟨-, hreads'⟩
        · omega
        · exact Or.inr ⟨hpos, hreads.append hreads'⟩

theorem playbackHandler_serves (hsink : P.audioSink = true) (hone : P.decoder.AtMostOneCallback)
    (h144 : P.AtMost144Frames) {r : AudioRequest} (hs : Conserved s) (h : playbackHandler r s = .ok t) :
    Serves r.numAudioFrames.toNat s t := by
  obtain ⟨hsame, k, cs, hk, hzero, hbytes, hlog, -, hdecodes, -⟩ := playbackHandler_spec h
  refine ⟨hsame, playbackHandler_clock h, cs, k, hlog, hdecodes, hk, hbytes, ?_⟩
  rcases Nat.eq_zero_or_pos s.sbcFrameSize with h0 | hpos
  · refine Or.inl ⟨h0, hzero h0, ?_⟩
    rw [playbackHandler, if_pos h0] at h
    cases h
    obtain rfl : cs = [.silence (r.numAudioFrames.toNat * bytesPerFrame)] := hlog.unique rfl
    exact ⟨by simp [writtenToRequest, Call.toRequest], rfl, rfl⟩
  · obtain ⟨ds, hlog', hreads⟩ := playbackHandler_served hsink hone h144 hs hpos h
    obtain rfl := hlog.unique hlog'
    exact Or.inr ⟨hpos, hreads⟩

/-- **Requests in a row** return and are one. -/
theorem requests_serve (hsink : P.audioSink = true) (hone : P.decoder.AtMostOneCallback)
    (h144 : P.AtMost144Frames) (rs : List AudioRequest) (hs : Conserved s) :
    ∃ t, Run step StereoWellFormed s (rs.map .playback) t ∧ Conserved t ∧ Serves (demand rs) s t := by
  induction rs generalizing s with
  | nil => exact ⟨s, .nil s, hs, .refl s⟩
  | cons r rs ih =>
    obtain ⟨u, hu, hconserved, -⟩ := playbackHandler_conserved hsink hone h144 r hs
    obtain ⟨t, ht, hconserved', hserves⟩ := ih hconserved
    exact ⟨t, .cons trivial hu ht, hconserved', (playbackHandler_serves hsink hone h144 hs hu).trans hserves⟩

end Requests

/-! ## States that serve everything alike -/

/-- Setting the rate estimation up again leaves nothing of what was there. -/
def Compensation.InitsFresh (C : Compensation) : Prop := ∀ c c' timeMs f, C.init c timeMs f = C.init c' timeMs f

/-- Same session, same audio. The rate estimates may differ while no estimation is under way. -/
structure Alike (s t : Sink P) : Prop where
  session : SameSession s t
  clock : t.sampleRateCompensation = s.sampleRateCompensation ∨
    (s.l2capStreamStarted = false ∧ P.compensation.InitsFresh)
  source : t.source = s.source
  pcmBytes : t.pcmBytes = s.pcmBytes

namespace Alike

variable {s t : Sink P}

theorem refl (s : Sink P) : Alike s s := ⟨.refl s, Or.inl rfl, rfl, rfl⟩

theorem sbcBytes (h : Alike s t) : t.sbcBytes = s.sbcBytes := congrArg SbcSource.sbcBytes h.source

theorem decoder (h : Alike s t) : t.sbcDecoderContext = s.sbcDecoderContext :=
  congrArg SbcSource.sbcDecoderContext h.source

theorem resampler (h : Alike s t) : t.resampleInstance = s.resampleInstance :=
  congrArg SbcSource.resampleInstance h.source

theorem clock_of_started (h : Alike s t) (hl : s.l2capStreamStarted = true) :
    t.sampleRateCompensation = s.sampleRateCompensation := by
  refine h.clock.resolve_right fun hidle => ?_
  rw [hl] at hidle
  cases hidle.1

theorem clock_init (h : Alike s t) (timeMs : UInt32) (samplingFrequency : UInt16) :
    P.compensation.init t.sampleRateCompensation timeMs samplingFrequency =
      P.compensation.init s.sampleRateCompensation timeMs samplingFrequency := by
  rcases h.clock with hclock | ⟨-, hfresh⟩
  · rw [hclock]
  · exact hfresh _ _ _ _

/-- The same change of the connection record. -/
theorem connection (h : Alike s t) (connection : A2dpConnection) (addr addr' : BdAddr) :
    Alike { s with a2dpConnection := connection, deviceAddr := addr }
      { t with a2dpConnection := connection, deviceAddr := addr' } :=
  ⟨⟨h.session.1, h.session.2, h.session.3, h.session.4, h.session.5, rfl, h.session.7, h.session.8, h.session.9⟩,
    h.clock, h.source, h.pcmBytes⟩

theorem mediaProcessingInit (h : Alike s t) (c : SbcConfiguration) :
    Alike (mediaProcessingInit c s) (mediaProcessingInit c t) := by
  have hm := h.session.mediaInitialized
  unfold BtstackPort.mediaProcessingInit
  rw [hm]
  split
  · exact h
  · constructor
    · constructor <;> simp [h.session.sbcFrameSize, h.session.l2capStreamStarted, h.session.a2dpConnection]
    · exact h.clock
    · simp [Sink.source, Sink.sbcBytes, h.decoder, h.resampler]
    · simp [Sink.pcmBytes]

theorem mediaProcessingStart (h : Alike s t) {now now' : Readings} (hnow : P.effectiveSamplerate = true → now' = now) :
    Alike (mediaProcessingStart now s) (mediaProcessingStart now' t) := by
  have hm := h.session.mediaInitialized
  unfold BtstackPort.mediaProcessingStart
  rw [hm]
  split
  · exact h
  · constructor
    · constructor <;> simp [h.session.sbcFrameSize, h.session.sbcDecoderInstance, h.session.l2capStreamStarted,
        h.session.a2dpConnection, h.session.channels, h.session.sbcCapacity, h.session.pcmCapacity]
    · refine h.clock.imp_left fun hclock => ?_
      cases hc : P.effectiveSamplerate with
      | true => simp [hclock, hnow hc]
      | false => simpa using hclock
    · exact h.source
    · exact h.pcmBytes

theorem mediaProcessingPause (h : Alike s t) : Alike (mediaProcessingPause s) (mediaProcessingPause t) := by
  have hm := h.session.mediaInitialized
  unfold BtstackPort.mediaProcessingPause
  rw [hm]
  split
  · exact h
  · constructor
    · constructor <;> simp [h.session.sbcFrameSize, h.session.sbcDecoderInstance, h.session.l2capStreamStarted,
        h.session.a2dpConnection, h.session.channels, h.session.sbcCapacity, h.session.pcmCapacity]
    · refine h.clock.imp_right fun hidle => ⟨?_, hidle.2⟩
      simp [hidle.1]
    · simp [Sink.source, Sink.sbcBytes, h.decoder, h.resampler]
    · simp [Sink.pcmBytes]

theorem mediaProcessingClose (h : Alike s t) : Alike (mediaProcessingClose s) (mediaProcessingClose t) := by
  have hm := h.session.mediaInitialized
  unfold BtstackPort.mediaProcessingClose
  rw [hm]
  split
  · exact h
  · constructor
    · constructor <;> simp [h.session.sbcDecoderInstance, h.session.l2capStreamStarted, h.session.a2dpConnection,
        h.session.channels, h.session.sbcCapacity, h.session.pcmCapacity]
    · refine h.clock.imp_right fun hidle => ⟨?_, hidle.2⟩
      simp [hidle.1]
    · exact h.source
    · exact h.pcmBytes

/-- The ring takes the payload in both states or in none. -/
theorem writePayload (h : Alike s t) (frameSize : Nat) (payload : List UInt8) :
    Alike (writePayload frameSize payload s) (writePayload frameSize payload t) := by
  have hsbc : P.ring.contents t.sbcFrameRingBuffer = P.ring.contents s.sbcFrameRingBuffer := h.sbcBytes
  have hstored : (P.ring.write t.sbcFrameRingBuffer payload).1 = 0 ↔
      (P.ring.write s.sbcFrameRingBuffer payload).1 = 0 := by
    rw [P.ring.write_status, P.ring.write_status, hsbc, h.session.sbcCapacity]
  have hcontents : P.ring.contents (P.ring.write t.sbcFrameRingBuffer payload).2 =
      P.ring.contents (P.ring.write s.sbcFrameRingBuffer payload).2 := by
    simp only [P.ring.contents_write, hstored, hsbc]
  unfold BtstackPort.writePayload
  constructor
  · constructor <;> simp [h.session.sbcDecoderInstance, h.session.mediaInitialized, h.session.audioStreamStarted,
      h.session.l2capStreamStarted, h.session.a2dpConnection, h.session.channels, h.session.sbcCapacity,
      h.session.pcmCapacity]
  · exact h.clock
  · simp [Sink.source, Sink.sbcBytes, h.decoder, h.resampler, hcontents]
  · exact h.pcmBytes

theorem sbcFramesInBuffer (h : Alike s t) : t.sbcFramesInBuffer = s.sbcFramesInBuffer := by
  have hsbc : P.ring.contents t.sbcFrameRingBuffer = P.ring.contents s.sbcFrameRingBuffer := h.sbcBytes
  rw [Sink.sbcFramesInBuffer, Sink.sbcFramesInBuffer, P.ring.available_eq, P.ring.available_eq, hsbc,
    h.session.sbcFrameSize]

/-- The same factor, with the same new estimate of the rate or with none. -/
theorem setFactor (h : Alike s t) (factor : Nat) {clock clock' : P.compensation.Context} {cs ds : List Call}
    (hclock : clock' = clock ∨ (s.l2capStreamStarted = false ∧ P.compensation.InitsFresh)) :
    Alike
      { s with
        sampleRateCompensation := clock
        resampleInstance := P.resampler.setFactor s.resampleInstance factor
        calls := cs }
      { t with
        sampleRateCompensation := clock'
        resampleInstance := P.resampler.setFactor t.resampleInstance factor
        calls := ds } := by
  obtain ⟨h1, h2, h3, h4, h5, h6, h7, h8, h9⟩ := h.session
  constructor
  · exact ⟨h1, h2, h3, h4, h5, h6, by simpa using h7, h8, h9⟩
  · exact hclock
  · simp [Sink.source, h.sbcBytes, h.decoder, h.resampler]
  · exact h.pcmBytes

/-- From here on the estimates are the same. -/
theorem startClock (h : Alike s t) (clock : P.compensation.Context) (cs ds : List Call) :
    Alike { s with l2capStreamStarted := true, sampleRateCompensation := clock, calls := cs }
      { t with l2capStreamStarted := true, sampleRateCompensation := clock, calls := ds } := by
  obtain ⟨h1, h2, h3, h4, -, h6, h7, h8, h9⟩ := h.session
  exact ⟨⟨h1, h2, h3, h4, rfl, h6, h7, h8, h9⟩, Or.inl rfl, h.source, h.pcmBytes⟩

theorem adjustDrift (h : Alike s t) (numFrames sbcFramesInBuffer : Nat) {now now' : Readings}
    (hnow : P.effectiveSamplerate = true → now' = now) :
    Alike (adjustDrift numFrames sbcFramesInBuffer now s) (adjustDrift numFrames sbcFramesInBuffer now' t) := by
  unfold BtstackPort.adjustDrift
  split
  · rename_i hc
    obtain rfl := hnow hc
    unfold updateSampleRateCompensation
    rw [h.session.audioStreamStarted, h.session.l2capStreamStarted, h.session.a2dpConnection]
    cases hs : s.audioStreamStarted with
    | false => simpa [h.session.audioStreamStarted, hs] using h
    | true =>
      cases hl : s.l2capStreamStarted with
      | true => simpa [h.session.audioStreamStarted, hs, h.clock_of_started hl] using h.setFactor _ (Or.inl rfl)
      | false =>
        have hstarted := h.startClock (P.compensation.init s.sampleRateCompensation now'.initTimeMs
          s.a2dpConnection.sbcConfiguration.samplingFrequency) s.calls t.calls
        simpa [h.session.audioStreamStarted, h.session.a2dpConnection, hs, h.clock_init] using
          hstarted.setFactor _ (Or.inl rfl)
  · exact h.setFactor _ h.clock

theorem startIfBuffered (h : Alike s t) (sbcFramesInBuffer : Nat) {now now' : Readings}
    (hnow : P.effectiveSamplerate = true → now' = now) :
    Alike (startIfBuffered sbcFramesInBuffer now s) (startIfBuffered sbcFramesInBuffer now' t) := by
  unfold BtstackPort.startIfBuffered
  rw [h.session.audioStreamStarted]
  split
  · exact h.mediaProcessingStart hnow
  · exact h

/-- **A packet** has the same effect, if what is read has not changed. -/
theorem media (hsink : P.audioSink = true) (h : Alike s t) {packet : List UInt8} {now now' : Readings}
    (hnow : P.effectiveSamplerate = true → now' = now) {s' : Sink P}
    (hs' : handleL2capMediaDataPacket packet now s = .ok s') :
    ∃ t', handleL2capMediaDataPacket packet now' t = .ok t' ∧ Alike s' t' := by
  unfold handleL2capMediaDataPacket at *
  split at hs'
  · cases hs'
    exact ⟨t, rfl, h⟩
  · rw [if_neg (by simp [hsink])] at *
    obtain ⟨hn, hq, w, rfl, rfl⟩ := queuePayload_eq_ok.1 hs'
    refine ⟨_, queuePayload_eq_ok.2 ⟨hn, hq, _, rfl, rfl⟩, ?_⟩
    rw [(h.writePayload _ _).sbcFramesInBuffer]
    exact ((h.writePayload _ _).adjustDrift _ _ hnow).startIfBuffered _ hnow

/-- **An A2DP event** has the same effect. -/
theorem a2dp (h : Alike s t) {e : A2dpEvent} {s' : Sink P} (hs' : a2dpSinkPacketHandler e s = .ok s') :
    ∃ t', a2dpSinkPacketHandler e t = .ok t' ∧ Alike s' t' := by
  have hconn := h.session.a2dpConnection
  cases e with
  | mediaCodecSbcConfiguration c =>
    obtain ⟨mode, hmode, hs'⟩ := bind_returns.1 hs'
    cases hs'
    refine ⟨_, bind_returns.2 ⟨mode, hmode, rfl⟩, ?_⟩
    rw [hconn]
    exact h.connection _ s.deviceAddr t.deviceAddr
  | streamEstablished status addr cid localSeid =>
    simp only [a2dpSinkPacketHandler, hconn] at *
    split at hs'
    · cases hs'
      exact ⟨t, if_pos (by assumption), h⟩
    · cases hs'
      exact ⟨_, if_neg (by assumption), h.connection _ addr addr⟩
  | streamStarted =>
    cases hs'
    refine ⟨_, rfl, ?_⟩
    rw [streamStarted_eq, streamStarted_eq, Sink.setStreamState, Sink.setStreamState, hconn]
    have hplaying := h.connection { s.a2dpConnection with streamState := .playing } s.deviceAddr t.deviceAddr
    refine Alike.mediaProcessingInit ?_ _
    split
    · exact hplaying.mediaProcessingClose
    · exact hplaying
  | streamSuspended =>
    cases hs'
    refine ⟨_, rfl, ?_⟩
    rw [Sink.setStreamState, Sink.setStreamState, hconn]
    exact (h.connection _ s.deviceAddr t.deviceAddr).mediaProcessingPause
  | streamReleased =>
    cases hs'
    refine ⟨_, rfl, ?_⟩
    rw [Sink.setStreamState, Sink.setStreamState, hconn]
    exact (h.connection _ s.deviceAddr t.deviceAddr).mediaProcessingClose
  | signalingConnectionReleased =>
    cases hs'
    refine ⟨_, rfl, ?_⟩
    rw [hconn]
    exact (h.connection _ s.deviceAddr t.deviceAddr).mediaProcessingClose
  | _ =>
    cases hs'
    exact ⟨t, rfl, h⟩

end Alike

/-! ## What is put out -/

/-- From `s` to `s'` and from `t` to `t'` the same bytes are written to callers' buffers, and the same buffers
decoded. -/
structure SameOutput (s s' t t' : Sink P) : Prop where
  written : ∃ out, writtenToRequest s'.calls = writtenToRequest s.calls ++ out ∧
    writtenToRequest t'.calls = writtenToRequest t.calls ++ out
  decodes : ∃ bufs, decodes s'.calls = decodes s.calls ++ bufs ∧ decodes t'.calls = decodes t.calls ++ bufs

section Output

variable {s t s' t' s'' t'' : Sink P}

theorem SameOutput.trans (h : SameOutput s s' t t') (h' : SameOutput s' s'' t' t'') : SameOutput s s'' t t'' := by
  obtain ⟨⟨out, hs, ht⟩, bufs, hds, hdt⟩ := h
  obtain ⟨⟨out', hs', ht'⟩, bufs', hds', hdt'⟩ := h'
  refine ⟨⟨out ++ out', ?_, ?_⟩, bufs ++ bufs', ?_, ?_⟩
  · rw [hs', hs, List.append_assoc]
  · rw [ht', ht, List.append_assoc]
  · rw [hds', hds, List.append_assoc]
  · rw [hdt', hdt, List.append_assoc]

/-- Calls that neither decode nor write to a caller's buffer. -/
def Call.PutsNothingOut (c : Call) : Prop := c.toRequest = [] ∧ decodes [c] = []

theorem putsNothingOut_append {cs ds : List Call} (h : ∀ c ∈ ds, c.PutsNothingOut) :
    writtenToRequest (cs ++ ds) = writtenToRequest cs ∧ decodes (cs ++ ds) = decodes cs := by
  induction ds using List.reverseRecOn with
  | nil => simp
  | append_singleton ds c ih =>
    obtain ⟨hwritten, hdecodes⟩ := ih fun d hd => h d (by simp [hd])
    obtain ⟨hc, hdc⟩ := h c (by simp)
    rw [← List.append_assoc]
    constructor
    · rw [writtenToRequest_append, hwritten]
      simp [writtenToRequest, hc]
    · rw [decodes_append, hdecodes, hdc, List.append_nil]

/-- With an audio sink, only requests put something out. -/
theorem step_putsNothingOut (hsink : P.audioSink = true) {e : SinkEvent} (hnot : ∀ r, e ≠ .playback r)
    (h : step s e = .ok t) :
    writtenToRequest t.calls = writtenToRequest s.calls ∧ decodes t.calls = decodes s.calls := by
  cases e with
  | a2dp e =>
    obtain ⟨cs, hlog, hcs⟩ := a2dp_session_calls h
    unfold Extends at hlog
    rw [hlog]
    refine putsNothingOut_append fun c hc => ?_
    have hsession := hcs c hc
    cases c <;> simp_all [Call.IsSession, Call.PutsNothingOut, Call.toRequest, decodes]
  | media packet now =>
    rcases handleL2capMediaDataPacket_cases h with ⟨-, rfl⟩ | ⟨sbcHeader, payload, -, ⟨hno, -⟩ | ⟨-, hq⟩⟩
    · exact ⟨rfl, rfl⟩
    · rw [hsink] at hno
      cases hno
    · obtain ⟨-, -, -, ds, cs, hds, hlog, hcs⟩ := queuePayload_spec hq
      unfold Extends at hlog
      rw [hlog]
      refine putsNothingOut_append fun c hc => ?_
      rcases List.mem_append.1 hc with hc | hc
      · rcases List.mem_cons.1 hc with rfl | hc
        · exact ⟨rfl, rfl⟩
        · have hdrift := hds c hc
          cases c <;> simp_all [Call.IsDrift, Call.PutsNothingOut, Call.toRequest, decodes]
      · rcases hcs with ⟨-, -, rfl⟩ | ⟨-, -, rfl⟩
        · rcases mem_mediaProcessingStartCalls hc with rfl | rfl <;> exact ⟨rfl, rfl⟩
        · cases hc
  | playback r => exact absurd rfl (hnot r)

theorem sameOutput_of_step (hsink : P.audioSink = true) {e e' : SinkEvent} (hnot : ∀ r, e ≠ .playback r)
    (hnot' : ∀ r, e' ≠ .playback r) (hs : step s e = .ok s') (ht : step t e' = .ok t') : SameOutput s s' t t' := by
  obtain ⟨hwritten, hdecodes⟩ := step_putsNothingOut hsink hnot hs
  obtain ⟨hwritten', hdecodes'⟩ := step_putsNothingOut hsink hnot' ht
  exact ⟨⟨[], by rw [hwritten, List.append_nil], by rw [hwritten', List.append_nil]⟩, [],
    by rw [hdecodes, List.append_nil], by rw [hdecodes', List.append_nil]⟩

/-- **Requests in a row** for the same number of frames have the same effect and put the same out. -/
theorem Alike.requests (h : Alike s t) {frames : Nat} (hs' : Serves frames s s') (ht' : Serves frames t t') :
    Alike s' t' ∧ SameOutput s s' t t' := by
  obtain ⟨cs, k, hlog, hdecodes, hk, hbytes, hcs⟩ := hs'.served
  obtain ⟨ds, l, hlog', hdecodes', hl, hbytes', hds⟩ := ht'.served
  rw [h.session.sbcFrameSize, h.sbcBytes] at hdecodes' hl hbytes'
  rw [h.session.sbcFrameSize, h.pcmBytes, h.source] at hds
  have hsession : SameSession s' t' := by
    obtain ⟨h1, h2, h3, h4, h5, h6, h7, h8, h9⟩ := hs'.session
    have hall := h.session.trans ht'.session
    exact ⟨hall.1.trans h1.symm, hall.2.trans h2.symm, hall.3.trans h3.symm, hall.4.trans h4.symm,
      hall.5.trans h5.symm, hall.6.trans h6.symm, hall.7.trans h7.symm, hall.8.trans h8.symm, hall.9.trans h9.symm⟩
  have hclock : t'.sampleRateCompensation = s'.sampleRateCompensation ∨
      (s'.l2capStreamStarted = false ∧ P.compensation.InitsFresh) := by
    rw [ht'.clock, hs'.clock, hs'.session.l2capStreamStarted]
    exact h.clock
  suffices hsame : writtenToRequest ds = writtenToRequest cs ∧ t'.pcmBytes = s'.pcmBytes ∧ t'.source = s'.source ∧
      l = k by
    obtain ⟨hwritten, hpcm, hsource, rfl⟩ := hsame
    refine ⟨⟨hsession, hclock, hsource, hpcm⟩, ⟨writtenToRequest cs, ?_, ?_⟩, decodes cs, ?_, ?_⟩
    · rw [hlog, writtenToRequest_append]
    · rw [hlog', writtenToRequest_append, hwritten]
    · rw [hlog, decodes_append]
    · rw [hlog', decodes_append, hdecodes', hdecodes]
  rcases hcs with ⟨h0, rfl, hcs, hpcm, hsource⟩ | ⟨hpos, hreads⟩
  · rcases hds with ⟨-, rfl, hds, hpcm', hsource'⟩ | ⟨hpos, -⟩
    · exact ⟨hds.trans hcs.symm, hpcm'.trans hpcm.symm, hsource'.trans hsource.symm, rfl⟩
    · omega
  · rcases hds with ⟨h0, -⟩ | ⟨-, hreads'⟩
    · omega
    · obtain ⟨hwritten, hpcm, hsource⟩ := hreads'.unique hreads
      refine ⟨hwritten, hpcm, hsource, Nat.eq_of_mul_eq_mul_right hpos ?_⟩
      -- the same bytes are left, so as many blocks have been taken
      have hlen := congrArg (List.length ∘ SbcSource.sbcBytes) hsource
      change t'.sbcBytes.length = s'.sbcBytes.length at hlen
      rw [hbytes, hbytes', List.length_drop, List.length_drop] at hlen
      omega

end Output

/-! ## Runs -/

/-- Packets and A2DP events are the same, and in the build with an effective sample rate the packets are handled with
the same readings; between two of them, requests ask for as many frames. -/
inductive SameDemand (P : Platform) : List SinkEvent → List SinkEvent → Prop
  | nil : SameDemand P [] []
  | a2dp {e : A2dpEvent} {es es' : List SinkEvent} : SameDemand P es es' →
    SameDemand P (.a2dp e :: es) (.a2dp e :: es')
  | media {packet : List UInt8} {now now' : Readings} {es es' : List SinkEvent} :
    (P.effectiveSamplerate = true → now' = now) → SameDemand P es es' →
    SameDemand P (.media packet now :: es) (.media packet now' :: es')
  | requests {rs rs' : List AudioRequest} {es es' : List SinkEvent} : demand rs = demand rs' → SameDemand P es es' →
    SameDemand P (rs.map .playback ++ es) (rs'.map .playback ++ es')

theorem schedule_run (hsink : P.audioSink = true) (hone : P.decoder.AtMostOneCallback)
    (h144 : P.AtMost144Frames) {es es' : List SinkEvent} (hdemand : SameDemand P es es') {s t s' : Sink P}
    (h : Run step StereoWellFormed s es s') (hs : Conserved s) (ht : Conserved t) (hst : Alike s t) :
    ∃ t', Run step StereoWellFormed t es' t' ∧ Alike s' t' ∧ SameOutput s s' t t' := by
  induction hdemand generalizing s t with
  | nil =>
    cases h
    exact ⟨t, .nil t, hst, ⟨[], by simp, by simp⟩, [], by simp, by simp⟩
  | @a2dp e es es' _ ih =>
    obtain ⟨hok, u, hu, hrest⟩ := run_cons.1 h
    obtain ⟨v, hv, huv⟩ := hst.a2dp hu
    have hok' : StereoWellFormed t (.a2dp e) := by
      cases e <;> first | trivial | (rw [StereoWellFormed, hst.session.a2dpConnection]; exact hok)
    have hv' : step t (.a2dp e) = .ok v := hv
    have hout := sameOutput_of_step hsink (by simp) (by simp) hu hv'
    obtain ⟨t', ht', hst', hout'⟩ := ih hrest (a2dp_conserved hok hs hu) (a2dp_conserved hok' ht hv) huv
    exact ⟨t', .cons hok' hv ht', hst', hout.trans hout'⟩
  | @media packet now now' es es' hnow _ ih =>
    obtain ⟨hok, u, hu, hrest⟩ := run_cons.1 h
    obtain ⟨v, hv, huv⟩ := hst.media hsink hnow hu
    have hok' : StereoWellFormed t (.media packet now') := hok
    have hv' : step t (.media packet now') = .ok v := hv
    have hout := sameOutput_of_step hsink (by simp) (by simp) hu hv'
    obtain ⟨t', ht', hst', hout'⟩ := ih hrest (media_conserved hsink hok hs hu) (media_conserved hsink hok' ht hv) huv
    exact ⟨t', .cons hok' hv ht', hst', hout.trans hout'⟩
  | @requests rs rs' es es' hframes _ ih =>
    obtain ⟨u, hu, h⟩ := run_append.1 h
    obtain ⟨w, hw, hconserved, hserves⟩ := requests_serve hsink hone h144 rs hs
    obtain rfl := hu.unique hw
    obtain ⟨v, hv, hconserved', hserves'⟩ := requests_serve hsink hone h144 rs' ht
    rw [← hframes] at hserves'
    obtain ⟨huv, hsame⟩ := hst.requests hserves hserves'
    obtain ⟨t', ht', hst', hout⟩ := ih h hconserved hconserved' huv
    exact ⟨t', run_append.2 ⟨v, hv, ht'⟩, hst', hsame.trans hout⟩

/-- **Schedule independence**: in every run of stereo streams with well-formed packets, the requests between any two
other events can be replaced by requests of any sizes for the same number of frames. As long as the packets are handled
with the same readings of the clock and of the driver's sample rate, where the build reads them, the run still goes
through, the same bytes are written to callers' buffers and the same buffers decoded, in the same order, and all later
events are served alike. -/
theorem schedule_independent (hsink : P.audioSink = true) (hone : P.decoder.AtMostOneCallback)
    (h144 : P.AtMost144Frames) {es es' : List SinkEvent} (hdemand : SameDemand P es es') {s : Sink P}
    (h : RunsTo StereoWellFormed es s) :
    ∃ t : Sink P, RunsTo StereoWellFormed es' t ∧ Alike s t ∧ SameOutput (Sink.initial P) s (Sink.initial P) t :=
  schedule_run hsink hone h144 hdemand h conserved_initial conserved_initial (.refl _)

/-- 15 more frames, when the clock shows 500 ms and the driver plays 44099 frames a second. -/
def fifteenLate : SinkEvent := .media (MediaPacket.plain 15 (List.replicate 15 7)).bytes ⟨500, 500, 500, 44099⟩

theorem stereoWellFormed_fifteen (now : Readings) (s : Sink .effective) :
    StereoWellFormed s (.media (MediaPacket.plain 15 (List.replicate 15 7)).bytes now) := by
  rintro sbcHeader payload ⟨⟩
  decide

/-- Four frames, first one and then three, or all at once; the rate estimation has begun by the end. -/
theorem schedule_independent_lateFrames :
    ∃ s t : Sink .effective,
      RunsTo StereoWellFormed (startedStream ++ ([.blank 1, .blank 3].map SinkEvent.playback ++ [fifteenLate])) s ∧
      RunsTo StereoWellFormed (startedStream ++ ([.blank 4].map SinkEvent.playback ++ [fifteenLate])) t ∧
      s.l2capStreamStarted = true ∧ Alike s t ∧ writtenToRequest s.calls = writtenToRequest t.calls := by
  have hdemand : SameDemand .effective
      (startedStream ++ ([.blank 1, .blank 3].map SinkEvent.playback ++ [fifteenLate]))
      (startedStream ++ ([.blank 4].map SinkEvent.playback ++ [fifteenLate])) :=
    .a2dp (.a2dp (.media (fun _ => rfl) (.media (fun _ => rfl) (.media (fun _ => rfl) (.media (fun _ => rfl)
      (.requests (by decide) (.media (fun _ => rfl) .nil)))))))
  have hok := stereoWellFormed_fifteen
  obtain ⟨s, hs, hclock⟩ : ∃ s : Sink .effective,
      RunsTo StereoWellFormed (startedStream ++ ([.blank 1, .blank 3].map SinkEvent.playback ++ [fifteenLate])) s ∧
        s.l2capStreamStarted = true :=
    ⟨_, .cons trivial rfl (.cons rfl rfl (.cons (hok _ _) rfl (.cons (hok _ _) rfl (.cons (hok _ _) rfl
      (.cons (hok _ _) rfl (.cons trivial rfl (.cons trivial rfl (.cons (hok _ _) rfl (.nil _))))))))), rfl⟩
  obtain ⟨t, ht, hst, ⟨out, hout, hout'⟩, -⟩ := schedule_independent rfl SbcDecoder.reference_atMostOneCallback
    Platform.effective_atMost144Frames hdemand hs
  exact ⟨s, t, hs, ht, hclock, hst, hout.trans hout'.symm⟩

end BtstackPort
