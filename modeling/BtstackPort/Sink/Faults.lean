import BtstackPort.Sink.FrameSize
import BtstackPort.Sink.WavAccount
/-!
# Every event that makes the sink fault

`Sound` is what the sink keeps as long as streams start with at most two channels and the frames of every packet fit
`sbc_frame` (`Moderate`). From a sound state only two kinds of event break the program, and which they are can be told
from the event and the state (`Faulty`): an unknown channel mode, and a media packet whose header lies about its frames.
Without an audio sink it is a packet that comes before the first stream, or one of which the decoder makes a block with
less than two samples for each frame: the WAV writer reads such a block past its end. A playback request never does.

What the resampler reads of a block is the library's own matter, and the bytes of `output_buffer` that it leaves
unwritten are copied as they are.
-/

namespace BtstackPort

open FaultMachine

variable {P : Platform}

namespace Sink

structure Sound (s : Sink P) : Prop where
  session : Session s
  frameSize : SafeFrameSize s
  /-- A decoder that has been set up feeds a resampler of at most two channels. -/
  channels : s.sbcDecoderInstance = true → P.resampler.channels s.resampleInstance ≤ 2

/-- Without an audio sink, a block that the decoder makes of the packet has less than two samples for each frame. -/
def HasShortBlock (s : Sink P) (packet : List UInt8) : Prop :=
  P.audioSink = false ∧ P.storeToWavFile = true ∧
    ∃ b ∈ decodedBlocks packet s, b.data.length < b.numAudioFrames * numChannels

/-- Streams start with at most two channels; with an audio sink the frames of a packet fit `sbc_frame`, without one its
blocks have two channels. -/
def Moderate (s : Sink P) : SinkEvent → Prop
  | .a2dp .streamStarted => s.a2dpConnection.sbcConfiguration.numChannels.toNat ≤ 2
  | .media packet now => (P.audioSink = true → ShortFrames s (.media packet now)) ∧ ¬ s.HasShortBlock packet
  | _ => True

def Faulty (s : Sink P) : SinkEvent → Prop
  | .a2dp (.mediaCodecSbcConfiguration c) => ∃ code, c.channelMode = .other code
  | .media packet _ => s.HasShortBlock packet ∨
    ∃ sbcHeader payload, mediaPayload P packet = some (sbcHeader, payload) ∧
      if P.audioSink then sbcHeader.numFrames = 0 ∨ payload.length < sbcHeader.numFrames
      else s.sbcDecoderInstance = false
  | _ => False

/-- Serving `e` is undefined: the program faults, or the WAV writer reads a block past its end. -/
def Breaks (s : Sink P) (e : SinkEvent) : Prop :=
  (∃ f, step s e = .error f) ∨ ∃ t cs, step s e = .ok t ∧ Extends s t cs ∧ ∃ c ∈ cs, c.OverReads

theorem breaks_of_quiet {s : Sink P} {e : SinkEvent}
    (hquiet : ∀ t, step s e = .ok t → ∃ cs, Extends s t cs ∧ ∀ c ∈ cs, ¬ c.OverReads) :
    s.Breaks e ↔ ∃ f, step s e = .error f := by
  constructor
  · rintro (hf | ⟨t, cs, ht, hlog, c, hc, hover⟩)
    · exact hf
    · obtain ⟨ds, hlog', hds⟩ := hquiet t ht
      rw [hlog.unique hlog'] at hc
      exact absurd hover (hds c hc)
  · exact Or.inl

end Sink

open Sink

/-! ## One event -/

section Events

variable {s t : Sink P}

/-- Safe sizes are safe for the iteration at hand. -/
theorem frameSize_le_of_wantsFrame (hs : SafeFrameSize s) (hw : wantsFrame s = true) :
    s.sbcFrameSize ≤ maxSbcFrameSize := by
  have hblock := (wantsFrame_iff.1 hw).2
  unfold SafeFrameSize at hs
  omega

/-- **A request returns** from every sound state; without an audio sink there is nothing to play. -/
theorem playbackHandler_sound (h144 : P.AtMost144Frames) (hs : s.Sound)
    (hnoSink : P.audioSink = false → s.sbcFrameSize = 0) (r : AudioRequest) : ∃ t, playbackHandler r s = .ok t := by
  unfold playbackHandler
  by_cases h0 : s.sbcFrameSize = 0
  · rw [if_pos h0]
    exact ⟨_, rfl⟩
  · have hsink : P.audioSink = true := by
      by_contra hno
      exact h0 (hnoSink (by simpa using hno))
    rw [if_neg h0]
    obtain ⟨u, hu⟩ := fillFromPcmRing_returns r s
    obtain ⟨hsame, hring, -⟩ := fillFromPcmRing_spec hu
    -- the ring only loses bytes, so what there is to decode was there when the request came
    have hloop : ∀ v : Sink P, RequestInv v ∧ SameSession s v ∧ SafeFrameSize v ∧ (v.sbcBytes ≠ [] → s.sbcBytes ≠ []) →
        wantsFrame v = true → ∃ t, decodeFrame v = .ok t ∧ RequestInv t ∧ SameSession s t ∧ SafeFrameSize t ∧
          (t.sbcBytes ≠ [] → s.sbcBytes ≠ []) := by
      rintro v ⟨hreq, hsv, hsafe, hbytes⟩ hw
      have hsize := frameSize_le_of_wantsFrame hsafe hw
      have hne : v.sbcBytes ≠ [] := by
        intro hnil
        have hblock := (wantsFrame_iff.1 hw).2
        rw [hnil, hsv.sbcFrameSize, List.length_nil] at hblock
        omega
      have hinst := (hs.session.setUp_of_bytes (hbytes hne)).sbcDecoderInstance
      obtain ⟨t, ht, hreq'⟩ := decodeFrame_returns hsink h144 (hsv.sbcDecoderInstance.trans hinst)
        (by rw [hsv.channels]; exact hs.channels hinst) hsize hreq
      obtain ⟨-, hsame', -⟩ := decodeFrame_spec ht
      refine ⟨t, ht, hreq', hsv.trans hsame', Or.inl ?_, fun _ => hbytes hne⟩
      rw [hsame'.sbcFrameSize]
      exact hsize
    have hsafe : SafeFrameSize u := by
      unfold SafeFrameSize
      rw [hsame.sbcFrameSize, Sink.sbcBytes, hring]
      exact hs.frameSize
    obtain ⟨t, ht, -⟩ := decodeLoop_total hloop (P.ring.available u.sbcFrameRingBuffer)
      ⟨fillFromPcmRing_requestInv hu hs.session.whole, hsame, hsafe, by rw [Sink.sbcBytes, hring]; exact id⟩
    exact ⟨_, bind_returns.2 ⟨u, hu, bind_returns.2 ⟨t, ht, rfl⟩⟩⟩

/-- It reads nothing past its end. -/
theorem playbackHandler_quiet (hnoSink : P.audioSink = false → s.sbcFrameSize = 0) {r : AudioRequest}
    (h : playbackHandler r s = .ok t) : ∃ cs, Extends s t cs ∧ ∀ c ∈ cs, ¬ c.OverReads := by
  by_cases h0 : s.sbcFrameSize = 0
  · rw [playbackHandler, if_pos h0] at h
    cases h
    exact ⟨_, rfl, by simp [Call.OverReads]⟩
  · have hsink : P.audioSink = true := by
      by_contra hno
      exact h0 (hnoSink (by simpa using hno))
    obtain ⟨cs, hlog, hcs, hlength⟩ := playbackHandler_wav hsink (Nat.pos_of_ne_zero h0) h
    refine ⟨_, hlog, fun c hc => ?_⟩
    rcases List.mem_append.1 hc with hc | hc
    · exact (hcs c hc).not_overReads
    · obtain ⟨-, hc⟩ := mem_wavCalls.1 hc
      obtain rfl := List.mem_singleton.1 hc
      have hbuffer := r.length_buffer
      simp only [Call.OverReads, hlength, bytesPerFrame, numChannels] at *
      omega

/-- Without an audio sink a packet is decoded if the decoder is set up, and its blocks are written. -/
theorem noSink_breaks_iff (hno : P.audioSink = false) {packet payload : List UInt8} {now : Readings}
    {sbcHeader : AvdtpSbcCodecHeader} (hp : mediaPayload P packet = some (sbcHeader, payload)) :
    s.Breaks (.media packet now) ↔ s.HasShortBlock packet ∨ s.sbcDecoderInstance = false := by
  have hstep : step s (.media packet now) = decodeSigned16 payload s := by
    simp [step, handleL2capMediaDataPacket, hp, hno]
  cases hinst : s.sbcDecoderInstance with
  | false =>
    have hnull : decodeSigned16 payload s = .error .nullDecoderInstance := by simp [decodeSigned16, hinst]
    exact iff_of_true (Or.inl ⟨_, hstep.trans hnull⟩) (Or.inr rfl)
  | true =>
    obtain ⟨t, ht⟩ := decodeSigned16_returns_noSink hno hinst payload
    obtain ⟨hlog, -⟩ := decodeSigned16_noSink hno ht
    rw [← decodedBlocks_of_some hp] at hlog
    simp only [Bool.true_eq_false, or_false]
    constructor
    · rintro (⟨f, hf⟩ | ⟨u, cs, hu, hlog', c, hc, hover⟩)
      · rw [hstep, ht] at hf
        cases hf
      · rw [hstep, ht] at hu
        cases hu
        rw [hlog'.unique hlog] at hc
        rcases List.mem_cons.1 hc with rfl | hc
        · exact absurd hover id
        · obtain ⟨hw, hc⟩ := mem_wavCalls.1 hc
          obtain ⟨b, hb, rfl⟩ := List.mem_map.1 hc
          exact ⟨hno, hw, b, hb, (blockWrite_overReads b).1 hover⟩
    · rintro ⟨-, hw, b, hb, hshort⟩
      refine Or.inr ⟨t, _, hstep.trans ht, hlog, blockWrite b, ?_, (blockWrite_overReads b).2 hshort⟩
      exact List.mem_cons_of_mem _ (mem_wavCalls.2 ⟨hw, List.mem_map.2 ⟨b, hb, rfl⟩⟩)

/-- With one, the two divisions decide. -/
theorem sink_breaks_iff (hsink : P.audioSink = true) {packet payload : List UInt8} {now : Readings}
    {sbcHeader : AvdtpSbcCodecHeader} (hp : mediaPayload P packet = some (sbcHeader, payload)) :
    s.Breaks (.media packet now) ↔ sbcHeader.numFrames = 0 ∨ payload.length < sbcHeader.numFrames := by
  have hstep : step s (.media packet now) = queuePayload sbcHeader payload now s := by
    simp [step, handleL2capMediaDataPacket, hp, hsink]
  rw [breaks_of_quiet, hstep]
  · have hreturns : (∃ t, queuePayload sbcHeader payload now s = .ok t) ↔ _ := queuePayload_returns
    have hdisjoint : (∃ f, queuePayload sbcHeader payload now s = .error f) ↔
        ¬ ∃ t, queuePayload sbcHeader payload now s = .ok t := by
      cases queuePayload sbcHeader payload now s <;> simp
    rw [hdisjoint, hreturns]
    omega
  · intro t ht
    obtain ⟨cs, hlog, hcs⟩ := queuePayload_offFile (hstep.symm.trans ht)
    exact ⟨cs, hlog, fun c hc => (hcs c hc).not_overReads⟩

theorem media_breaks_iff (packet : List UInt8) (now : Readings) (s : Sink P) :
    s.Breaks (.media packet now) ↔ s.Faulty (.media packet now) := by
  cases hp : mediaPayload P packet with
  | none =>
    have hstep : step s (.media packet now) = .ok s := by simp [step, handleL2capMediaDataPacket, hp]
    rw [breaks_of_quiet]
    · simp [hstep, Faulty, HasShortBlock, decodedBlocks_of_none hp, hp]
    · intro t ht
      rw [hstep] at ht
      cases ht
      exact ⟨[], by simp [Extends], by simp⟩
  | some x =>
    obtain ⟨sbcHeader, payload⟩ := x
    cases hsink : P.audioSink with
    | false =>
      rw [noSink_breaks_iff hsink hp]
      simp [Faulty, hp, hsink]
    | true =>
      rw [sink_breaks_iff hsink hp]
      simp [Faulty, HasShortBlock, hp, hsink]

theorem a2dp_breaks_iff (e : A2dpEvent) (s : Sink P) : s.Breaks (.a2dp e) ↔ s.Faulty (.a2dp e) := by
  rw [breaks_of_quiet]
  · cases e with
    | mediaCodecSbcConfiguration c =>
      simp only [step, a2dpSinkPacketHandler, storeSbcConfiguration, Faulty]
      cases c.channelMode <;> simp [sbcChannelMode, pure, Except.pure]
    | streamEstablished status addr cid localSeid =>
      simp only [step, a2dpSinkPacketHandler, Faulty, iff_false]
      split <;> simp
    | _ => simp [step, a2dpSinkPacketHandler, Faulty]
  · intro t ht
    obtain ⟨cs, hlog, hcs⟩ := a2dp_session_calls ht
    refine ⟨cs, hlog, fun c hc hover => ?_⟩
    have hsession := hcs c hc
    cases c <;> simp_all [Call.IsSession, Call.OverReads]

theorem step_breaks_iff (h144 : P.AtMost144Frames) (hs : s.Sound)
    (hnoSink : P.audioSink = false → s.sbcFrameSize = 0) (e : SinkEvent) : s.Breaks e ↔ s.Faulty e := by
  cases e with
  | a2dp e => exact a2dp_breaks_iff e s
  | media packet now => exact media_breaks_iff packet now s
  | playback r =>
    obtain ⟨t, ht⟩ := playbackHandler_sound h144 hs hnoSink r
    have hquiet : ∀ u, step s (.playback r) = .ok u → ∃ cs, Extends s u cs ∧ ∀ c ∈ cs, ¬ c.OverReads :=
      fun _ hu => playbackHandler_quiet hnoSink hu
    rw [breaks_of_quiet hquiet]
    simp [step, ht, Faulty]

/-! ## Sound states -/

theorem sinkSound_initial : (Sink.initial P).Sound where
  session := session_initial
  frameSize := safeFrameSize_initial
  channels h := by cases h

theorem a2dp_channels {e : A2dpEvent} (hok : s.Moderate (.a2dp e))
    (hs : s.sbcDecoderInstance = true → P.resampler.channels s.resampleInstance ≤ 2)
    (h : a2dpSinkPacketHandler e s = .ok t) :
    t.sbcDecoderInstance = true → P.resampler.channels t.resampleInstance ≤ 2 := by
  refine a2dpSinkPacketHandler_rule
    (I := fun u => u.sbcDecoderInstance = true → P.resampler.channels u.resampleInstance ≤ 2) h ?_ ?_ ?_ ?_ hs
  · intro u _ _ hu
    exact hu
  · rintro u rfl hconfiguration hu
    unfold mediaProcessingInit
    split
    · exact hu
    · have hle : s.a2dpConnection.sbcConfiguration.numChannels.toNat ≤ 2 := hok
      intro _
      simpa [hconfiguration] using hle
  · intro u hu
    unfold mediaProcessingPause
    split <;> exact hu
  · intro u hu
    unfold mediaProcessingClose
    split <;> exact hu

/-- Packets and requests leave the resampler's channels alone. -/
theorem step_data_channels {e : SinkEvent} (h : step s e = .ok t) (he : ∀ a, e ≠ .a2dp a) :
    P.resampler.channels t.resampleInstance = P.resampler.channels s.resampleInstance ∧
      t.sbcDecoderInstance = s.sbcDecoderInstance := by
  cases e with
  | a2dp a => exact absurd rfl (he a)
  | media packet now =>
    rcases handleL2capMediaDataPacket_cases h with ⟨-, rfl⟩ | ⟨sbcHeader, payload, -, ⟨-, hq⟩ | ⟨-, hq⟩⟩
    · exact ⟨rfl, rfl⟩
    · obtain ⟨hsame, -⟩ := decodeSigned16_spec hq
      exact ⟨hsame.channels, hsame.sbcDecoderInstance⟩
    · obtain ⟨-, -, hsame, -⟩ := queuePayload_spec hq
      exact ⟨hsame.channels, hsame.sbcDecoderInstance⟩
  | playback r =>
    obtain ⟨hsame, -⟩ := playbackHandler_spec h
    exact ⟨hsame.channels, hsame.sbcDecoderInstance⟩

theorem step_frameSize_safe {e : SinkEvent} (hs : s.Sound) (hok : s.Moderate e) (h : step s e = .ok t) :
    SafeFrameSize t := by
  cases e with
  | a2dp e => exact a2dp_safe hs.frameSize h
  | media packet now =>
    cases hsink : P.audioSink with
    | true => exact (media_safe_iff hsink hs.frameSize h).2 (hok.1 hsink)
    | false =>
      -- the payload goes to the decoder, past the ring
      rcases handleL2capMediaDataPacket_cases h with ⟨-, rfl⟩ | ⟨sbcHeader, payload, -, ⟨-, hq⟩ | ⟨hyes, -⟩⟩
      · exact hs.frameSize
      · obtain ⟨hsame, hring, -⟩ := decodeSigned16_spec hq
        have hsafe := hs.frameSize
        unfold SafeFrameSize at *
        rw [hsame.sbcFrameSize, Sink.sbcBytes, hring]
        exact hsafe
      · rw [hsink] at hyes
        cases hyes
  | playback r =>
    obtain ⟨hsame, k, cs, -, -, hbytes, -⟩ := playbackHandler_spec h
    have hsafe := hs.frameSize
    unfold SafeFrameSize at *
    rw [hsame.sbcFrameSize, hbytes, List.length_drop]
    omega

theorem Sink.Sound.step {e : SinkEvent} (hs : s.Sound) (hok : s.Moderate e) (h : step s e = .ok t) : t.Sound where
  session := step_session hs.session h
  frameSize := step_frameSize_safe hs hok h
  channels := by
    by_cases he : ∃ a, e = .a2dp a
    · obtain ⟨a, rfl⟩ := he
      exact a2dp_channels hok hs.channels h
    · obtain ⟨hchannels, hinst⟩ := step_data_channels h fun a ha => he ⟨a, ha⟩
      rw [hchannels, hinst]
      exact hs.channels

end Events

theorem run_sound_sink {es : List SinkEvent} {s : Sink P} (h : RunsTo Moderate es s) : s.Sound :=
  h.inv (fun _ _ _ hs hok he => hs.step hok he) sinkSound_initial

/-- **Faults of the sink**: after any run of streams of at most two channels whose frames fit `sbc_frame` (and, without
an audio sink, whose blocks have two channels), an event breaks the program exactly if it is a configuration with an
unknown channel mode, or a packet that passes the header checks and states no frames or more frames than payload bytes;
without an audio sink, one that comes before the first stream or has a block with less than two samples for each
frame. -/
theorem sink_faults_iff (h144 : P.AtMost144Frames) {es : List SinkEvent} {s : Sink P}
    (h : RunsTo Moderate es s) (e : SinkEvent) : s.Breaks e ↔ s.Faulty e :=
  step_breaks_iff h144 (run_sound_sink h) (run_noSink h) e

theorem moderate_twoFrames (s : Sink (.reference true)) :
    s.Moderate (.media (MediaPacket.plain 2 (List.replicate 12 7)).bytes .nominal) := by
  refine ⟨?_, fun hshort => by cases hshort.1⟩
  rintro - sbcHeader payload ⟨⟩
  exact Or.inl (by decide)

theorem sink_faults_iff_sampleRun :
    ∃ s : Sink (.reference true), RunsTo Moderate sampleRun s ∧ ∀ e, s.Breaks e ↔ s.Faulty e := by
  obtain ⟨s, hs⟩ : ∃ s : Sink (.reference true), RunsTo Moderate sampleRun s :=
    ⟨_, .cons trivial rfl (.cons (Nat.le_refl 2) rfl (.cons (moderate_twoFrames _) rfl (.cons trivial rfl (.nil _))))⟩
  exact ⟨s, hs, sink_faults_iff (Platform.reference_atMost144Frames true) hs⟩

end BtstackPort
