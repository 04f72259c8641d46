import BtstackPort.Lib.Transducer
import BtstackPort.Sink.FrameIntegrity
import BtstackPort.Sink.PcmConservation
import BtstackPort.Sink.Underrun
/-!
# What is heard

The sink interleaves everything: a request decodes one frame, resamples it, copies what the request needs, keeps the
rest, decodes the next one, while packets queue frames and move the resampling factor. What is meant is simple: decode
all frames, then resample all blocks. `decoderStage` and `resamplerStage` are these two steps on whole streams,
`pipeline` one after the other.

A `SignalEpoch` is what a log says has been put into the pipeline since the rings were last emptied. The sink's decoder
and resampler are always where the pipeline is, and what the resampler produced is what the pipeline put out (`Plays`).
With that, conservation of the decoded audio and integrity of the frames give the whole path: from packets to callers'
buffers (`playback_is_decoded_stream`).
-/

namespace BtstackPort

open FaultMachine Framing

variable {P : Platform}

/-! ## The two steps on streams -/

inductive SignalInput where
  | factor (factor : Nat)
  | frame (buffer : List UInt8)

inductive PcmInput where
  | factor (factor : Nat)
  | block (b : PcmBlock)

/-- Factors pass the decoder. -/
def decoderStage (D : SbcDecoder) : Transducer D.Context SignalInput PcmInput where
  step context
    | .factor f => (context, [.factor f])
    | .frame buffer => ((D.decodeSigned16 context buffer).1, (D.decodeSigned16 context buffer).2.map .block)

def resamplerStage (R : Resampler) : Transducer R.Context PcmInput UInt8 where
  step context
    | .factor f => (R.setFactor context f, [])
    | .block b => ((R.block context b.data b.numAudioFrames).1, int16Bytes (R.block context b.data b.numAudioFrames).2.1)

def pipeline (P : Platform) : Transducer (P.decoder.Context × P.resampler.Context) SignalInput UInt8 :=
  (decoderStage P.decoder).andThen (resamplerStage P.resampler)

/-- The frames among the inputs. -/
def frames (inputs : List SignalInput) : List (List UInt8) :=
  inputs.filterMap fun
    | .frame buffer => some buffer
    | .factor _ => none

/-! ## Reading the log -/

/-- The log since the rings were last emptied. -/
structure SignalEpoch (P : Platform) where
  decoder : P.decoder.Context
  resampler : P.resampler.Context
  inputs : List SignalInput

namespace SignalEpoch

/-- Where the inputs take the pipeline, and what it puts out on the way. -/
def run (e : SignalEpoch P) : (P.decoder.Context × P.resampler.Context) × List UInt8 :=
  (pipeline P).run (e.decoder, e.resampler) e.inputs

def put (e : SignalEpoch P) (i : SignalInput) : SignalEpoch P := { e with inputs := e.inputs ++ [i] }

def record (e : SignalEpoch P) : Call → SignalEpoch P
  -- the decoder is initialised just before the resampler
  | .resampleInit channels =>
    ⟨P.decoder.configure (P.decoder.initInstance e.run.1.1), P.resampler.init e.run.1.2 channels, []⟩
  | .ringReset .decodedAudio => ⟨e.run.1.1, e.run.1.2, []⟩
  | .resampleSetFactor factor => e.put (.factor factor)
  | .decode buffer => e.put (.frame buffer)
  | _ => e

theorem run_put (e : SignalEpoch P) (i : SignalInput) :
    (e.put i).run = (((pipeline P).step e.run.1 i).1, e.run.2 ++ ((pipeline P).step e.run.1 i).2) :=
  Transducer.run_snoc _ _ _

end SignalEpoch

def signalEpoch (P : Platform) (calls : List Call) : SignalEpoch P :=
  calls.foldl SignalEpoch.record ⟨P.decoder.zero, P.resampler.zero, []⟩

/-- Calls that neither feed the pipeline nor empty the rings. -/
def Call.IsSilent : Call → Prop
  | .resampleInit _ | .ringReset .decodedAudio | .ringInit .decodedAudio | .resampleSetFactor _ | .decode _ => False
  | .resampleBlock .. => False
  | _ => True

theorem signalEpoch_extends {s t : Sink P} {cs : List Call} (h : Extends s t cs) :
    signalEpoch P t.calls = cs.foldl SignalEpoch.record (signalEpoch P s.calls) := by
  unfold signalEpoch
  rw [h, List.foldl_append]

theorem record_silent {c : Call} (h : c.IsSilent) (e : SignalEpoch P) : e.record c = e := by
  cases c with
  | ringReset ring => cases ring <;> simp_all [Call.IsSilent, SignalEpoch.record]
  | _ => simp_all [Call.IsSilent, SignalEpoch.record]

theorem produced_silent {c : Call} (h : c.IsSilent) (e : PcmEpoch) : (e.record c).produced = e.produced := by
  cases c with
  | ringReset ring => cases ring <;> simp_all [Call.IsSilent, PcmEpoch.record]
  | ringInit ring => cases ring <;> simp_all [Call.IsSilent, PcmEpoch.record]
  | ringRead ring n d => cases ring <;> simp_all [PcmEpoch.record]
  | _ => simp_all [Call.IsSilent, PcmEpoch.record]

theorem signalEpoch_silent {s t : Sink P} {cs : List Call} (h : Extends s t cs) (hcs : ∀ c ∈ cs, c.IsSilent) :
    signalEpoch P t.calls = signalEpoch P s.calls := by
  unfold signalEpoch
  rw [h]
  exact foldl_append_ignored _ _ s.calls cs fun c hc e => record_silent (hcs c hc) e

theorem pcmEpoch_produced_silent {s t : Sink P} {cs : List Call} (h : Extends s t cs) (hcs : ∀ c ∈ cs, c.IsSilent) :
    (pcmEpoch t.calls).produced = (pcmEpoch s.calls).produced := by
  rw [pcmEpoch_extends h]
  generalize pcmEpoch s.calls = e
  clear h
  induction cs generalizing e with
  | nil => rfl
  | cons c cs ih =>
    rw [List.foldl_cons, ih fun d hd => hcs d (by simp [hd])]
    exact produced_silent (hcs c (by simp)) e

/-! ## The sink is where the pipeline is -/

structure Plays (s : Sink P) : Prop where
  contexts : (signalEpoch P s.calls).run.1 = (s.sbcDecoderContext, s.resampleInstance)
  produced : (signalEpoch P s.calls).run.2 = (pcmEpoch s.calls).produced

theorem plays_initial : Plays (Sink.initial P) := ⟨rfl, rfl⟩

section Steps

variable {s t : Sink P}

/-- Silent calls change neither side. -/
theorem Plays.of_silent {cs : List Call} (h : Plays s) (hlog : Extends s t cs) (hcs : ∀ c ∈ cs, c.IsSilent)
    (hdecoder : t.sbcDecoderContext = s.sbcDecoderContext) (hresampler : t.resampleInstance = s.resampleInstance) :
    Plays t where
  contexts := by
    rw [signalEpoch_silent hlog hcs, hdecoder, hresampler]
    exact h.contexts
  produced := by
    rw [signalEpoch_silent hlog hcs, pcmEpoch_produced_silent hlog hcs]
    exact h.produced

/-- A new factor is put into the pipeline. -/
theorem Plays.of_factor {factor : Nat} (h : Plays s) (hlog : Extends s t [.resampleSetFactor factor])
    (hdecoder : t.sbcDecoderContext = s.sbcDecoderContext)
    (hresampler : t.resampleInstance = P.resampler.setFactor s.resampleInstance factor) : Plays t := by
  have hepoch : signalEpoch P t.calls = (signalEpoch P s.calls).put (.factor factor) := signalEpoch_extends hlog
  have hproduced : (pcmEpoch t.calls).produced = (pcmEpoch s.calls).produced := by rw [pcmEpoch_extends hlog]; rfl
  constructor
  · rw [hepoch, SignalEpoch.run_put, h.contexts, hdecoder, hresampler]
    rfl
  · rw [hepoch, SignalEpoch.run_put, hproduced, h.produced]
    exact List.append_nil _

/-- **One callback** resamples its block. -/
theorem handlePcmData_resamples (hsink : P.audioSink = true) {b : PcmBlock} (h : handlePcmData b s = .ok t) :
    t.sbcDecoderContext = s.sbcDecoderContext ∧
      t.resampleInstance = ((resamplerStage P.resampler).step s.resampleInstance (.block b)).1 ∧
      (pcmEpoch t.calls).produced =
        (pcmEpoch s.calls).produced ++ ((resamplerStage P.resampler).step s.resampleInstance (.block b)).2 ∧
      signalEpoch P t.calls = signalEpoch P s.calls := by
  rcases handlePcmData_cases h with ⟨hno, -⟩ | ⟨hno, -⟩ | ⟨-, -, mem, rfl⟩
  · rw [hsink] at hno
    cases hno
  · rw [hsink] at hno
    cases hno
  · unfold storeSurplus
    split
    · refine ⟨rfl, rfl, ?_, ?_⟩
      · simp [advanceRequest, pcmEpoch, PcmEpoch.record, resamplerStage, resampleBlock]
      · simp [advanceRequest, signalEpoch, SignalEpoch.record]
    · refine ⟨rfl, rfl, ?_, ?_⟩
      · simp [advanceRequest, pcmEpoch, PcmEpoch.record, resamplerStage, resampleBlock]
      · simp [advanceRequest, signalEpoch, SignalEpoch.record]

theorem pcmCallbacks_resample (hsink : P.audioSink = true) {bs : List PcmBlock} (h : pcmCallbacks bs s = .ok t) :
    t.sbcDecoderContext = s.sbcDecoderContext ∧
      t.resampleInstance = ((resamplerStage P.resampler).run s.resampleInstance (bs.map .block)).1 ∧
      (pcmEpoch t.calls).produced =
        (pcmEpoch s.calls).produced ++ ((resamplerStage P.resampler).run s.resampleInstance (bs.map .block)).2 ∧
      signalEpoch P t.calls = signalEpoch P s.calls := by
  induction bs generalizing s with
  | nil =>
    cases h
    exact ⟨rfl, rfl, (List.append_nil _).symm, rfl⟩
  | cons b bs ih =>
    obtain ⟨u, hu, h⟩ := bind_returns.1 h
    obtain ⟨hdecoder, hresampler, hproduced, hepoch⟩ := handlePcmData_resamples hsink hu
    obtain ⟨hdecoder', hresampler', hproduced', hepoch'⟩ := ih h
    rw [hresampler] at hresampler' hproduced'
    refine ⟨hdecoder'.trans hdecoder, hresampler', ?_, hepoch'.trans hepoch⟩
    rw [hproduced', hproduced, List.append_assoc]
    rfl

/-- **One decode call** puts its buffer into the pipeline. -/
theorem decodeSigned16_plays (hsink : P.audioSink = true) {buffer : List UInt8} (hs : Plays s)
    (h : decodeSigned16 buffer s = .ok t) : Plays t := by
  unfold decodeSigned16 at h
  split at h
  · cases h
  · obtain ⟨hdecoder, hresampler, hproduced, hepoch⟩ := pcmCallbacks_resample hsink h
    have hput : signalEpoch P t.calls = (signalEpoch P s.calls).put (.frame buffer) := by
      rw [hepoch]
      simp [signalEpoch, SignalEpoch.record]
    have hbefore : (pcmEpoch (s.calls ++ [Call.decode buffer])).produced = (pcmEpoch s.calls).produced := by
      simp [pcmEpoch, PcmEpoch.record]
    constructor
    · rw [hput, SignalEpoch.run_put, hs.contexts, hdecoder, hresampler]
      rfl
    · rw [hput, SignalEpoch.run_put, hs.contexts, hs.produced, hproduced, hbefore]
      rfl

theorem decodeFrame_plays (hsink : P.audioSink = true) (hs : Plays s) (h : decodeFrame s = .ok t) : Plays t := by
  unfold decodeFrame at h
  split at h
  · cases h
  · refine decodeSigned16_plays hsink ?_ h
    exact hs.of_silent (t := (readSbcFrame s).2) rfl (by simp [Call.IsSilent]) rfl rfl

theorem playbackHandler_plays (hsink : P.audioSink = true) {r : AudioRequest} (hs : Plays s)
    (h : playbackHandler r s = .ok t) : Plays t := by
  by_cases h0 : s.sbcFrameSize = 0
  · rw [playbackHandler, if_pos h0] at h
    cases h
    exact hs.of_silent rfl (by simp [Call.IsSilent]) rfl rfl
  · obtain ⟨u, n, v, hu, hit, -, rfl⟩ := playbackHandler_returned (Nat.pos_of_ne_zero h0) h
    obtain ⟨hdecoder, hresampler⟩ := fillFromPcmRing_contexts hu
    have hu' : Plays u := hs.of_silent (fillFromPcmRing_spec hu).2.2.2.2.2.2 (by simp [Call.IsSilent]) hdecoder hresampler
    have hv : Plays v := hit.inv (I := Plays) (fun _ _ hw _ hx => decodeFrame_plays hsink hw hx) hu'
    unfold writeWav
    split
    · exact hv.of_silent rfl (by simp [Call.IsSilent]) rfl rfl
    · exact hv

theorem adjustDrift_plays (numFrames sbcFramesInBuffer : Nat) (now : Readings) (hs : Plays s) :
    Plays (adjustDrift numFrames sbcFramesInBuffer now s) := by
  unfold adjustDrift
  split
  · -- the clock may be initialised first, then the factor is set
    have hinit : ∀ (u : Sink P) (update : P.compensation.Context × Nat), Plays u → Plays { u with
        sampleRateCompensation := update.1
        resampleInstance := P.resampler.setFactor u.resampleInstance update.2
        calls := u.calls ++ [.compensationUpdate (numFrames * 128), .resampleSetFactor update.2] } := by
      intro u update hu
      have hclock : Plays { u with calls := u.calls ++ [.compensationUpdate (numFrames * 128)] } :=
        hu.of_silent rfl (by simp [Call.IsSilent]) rfl rfl
      exact hclock.of_factor (List.append_assoc _ [_] [_]).symm rfl rfl
    cases hstarted : s.audioStreamStarted with
    | false => simpa [updateSampleRateCompensation, hstarted] using hs
    | true =>
      cases hl2cap : s.l2capStreamStarted with
      | true => simpa [updateSampleRateCompensation, hstarted, hl2cap] using hinit s _ hs
      | false =>
        have hclock : Plays { s with
            l2capStreamStarted := true
            sampleRateCompensation :=
              P.compensation.init s.sampleRateCompensation now.initTimeMs
                s.a2dpConnection.sbcConfiguration.samplingFrequency
            calls := s.calls ++ [.compensationInit s.a2dpConnection.sbcConfiguration.samplingFrequency] } :=
          hs.of_silent rfl (by simp [Call.IsSilent]) rfl rfl
        simpa [updateSampleRateCompensation, hstarted, hl2cap] using hinit _ _ hclock
  · exact hs.of_factor rfl rfl rfl

theorem mediaProcessingStart_plays (now : Readings) (hs : Plays s) : Plays (mediaProcessingStart now s) := by
  by_cases hm : s.mediaInitialized
  · refine hs.of_silent (mediaProcessingStart_of_initialized hm).2 ?_ ?_ ?_
    · intro c hc
      rcases mem_mediaProcessingStartCalls hc with rfl | rfl <;> trivial
    · simp [mediaProcessingStart, hm]
    · simp [mediaProcessingStart, hm]
  · rw [mediaProcessingStart_of_closed (by simpa using hm)]
    exact hs

theorem media_plays (hsink : P.audioSink = true) {packet : List UInt8} {now : Readings} (hs : Plays s)
    (h : handleL2capMediaDataPacket packet now s = .ok t) : Plays t := by
  rcases handleL2capMediaDataPacket_cases h with ⟨-, rfl⟩ | ⟨sbcHeader, payload, -, ⟨hno, -⟩ | ⟨-, hq⟩⟩
  · exact hs
  · rw [hsink] at hno
    cases hno
  · refine queuePayload_rule (I := Plays) hq ?_ ?_ ?_ hs
    · intro u frameSize hu
      exact hu.of_silent rfl (by simp [Call.IsSilent]) rfl rfl
    · intro u numFrames sbcFramesInBuffer hu
      exact adjustDrift_plays numFrames sbcFramesInBuffer now hu
    · intro u _ hu
      exact mediaProcessingStart_plays now hu

/-- `init` starts an epoch with a decoder and a resampler that are set up. -/
theorem mediaProcessingInit_plays (hs : Plays s) (c : SbcConfiguration) : Plays (mediaProcessingInit c s) := by
  by_cases hm : s.mediaInitialized
  · rw [mediaProcessingInit_of_initialized hm]
    exact hs
  · have hlog := mediaProcessingInit_extends (c := c) (by simpa using hm)
    have hepoch : signalEpoch P (mediaProcessingInit c s).calls =
        (signalEpoch P s.calls).record (.resampleInit c.numChannels.toNat) := by
      rw [signalEpoch_extends hlog, mediaProcessingInitCalls, wavCalls, audioCalls]
      split <;> split <;> rfl
    have hproduced : (pcmEpoch (mediaProcessingInit c s).calls).produced = [] := by
      rw [pcmEpoch_extends hlog, mediaProcessingInitCalls, wavCalls, audioCalls]
      split <;> split <;> rfl
    constructor
    · rw [hepoch, SignalEpoch.record, hs.contexts]
      simp [mediaProcessingInit, hm, SignalEpoch.run]
    · rw [hepoch, hproduced]
      rfl

/-- `pause` starts one with those of before. -/
theorem mediaProcessingPause_plays (hs : Plays s) : Plays (mediaProcessingPause s) := by
  by_cases hm : s.mediaInitialized
  · have hlog := mediaProcessingPause_extends hm
    have hepoch : signalEpoch P (mediaProcessingPause s).calls =
        (signalEpoch P s.calls).record (.ringReset .decodedAudio) := by
      rw [signalEpoch_extends hlog, mediaProcessingPauseCalls, audioCalls]
      split <;> rfl
    have hproduced : (pcmEpoch (mediaProcessingPause s).calls).produced = [] := by
      rw [pcmEpoch_extends hlog, mediaProcessingPauseCalls, audioCalls]
      split <;> rfl
    constructor
    · rw [hepoch, SignalEpoch.record, hs.contexts]
      simp [mediaProcessingPause, hm, SignalEpoch.run]
    · rw [hepoch, hproduced]
      rfl
  · rw [mediaProcessingPause_of_closed (by simpa using hm)]
    exact hs

theorem mediaProcessingClose_plays (hs : Plays s) : Plays (mediaProcessingClose s) := by
  by_cases hm : s.mediaInitialized
  · refine hs.of_silent (mediaProcessingClose_extends hm) ?_ ?_ ?_
    · intro c hc
      rcases mem_mediaProcessingCloseCalls hc with rfl | rfl | rfl <;> trivial
    · simp [mediaProcessingClose, hm]
    · simp [mediaProcessingClose, hm]
  · rw [mediaProcessingClose_of_closed (by simpa using hm)]
    exact hs

theorem a2dp_plays {e : A2dpEvent} (hs : Plays s) (h : a2dpSinkPacketHandler e s = .ok t) : Plays t := by
  refine a2dpSinkPacketHandler_rule (I := Plays) h ?_ ?_ ?_ ?_ hs
  · intro u _ _ hu
    exact ⟨hu.contexts, hu.produced⟩
  · intro u _ _ hu
    exact mediaProcessingInit_plays hu _
  · intro u hu
    exact mediaProcessingPause_plays hu
  · intro u hu
    exact mediaProcessingClose_plays hu

end Steps

/-! ## Runs -/

theorem run_plays (hsink : P.audioSink = true) {ok : Sink P → SinkEvent → Prop} {es : List SinkEvent} {s : Sink P}
    (h : RunsTo ok es s) : Plays s := by
  refine h.inv (I := Plays) ?_ plays_initial
  intro s e t hs _ he
  cases e with
  | a2dp e => exact a2dp_plays hs he
  | media packet now => exact media_plays hsink hs he
  | playback r => exact playbackHandler_plays hsink hs he

/-- What packets and requests add to both epochs are the decode calls. -/
theorem record_data {cs : List Call} (h : ∀ c ∈ cs, c.IsData) (e : SignalEpoch P) (f : SbcEpoch) :
    frames (cs.foldl SignalEpoch.record e).inputs = frames e.inputs ++ decodes cs ∧
      (cs.foldl SbcEpoch.record f).decoded = f.decoded ++ decodes cs := by
  induction cs generalizing e f with
  | nil => simp [decodes]
  | cons c cs ih =>
    have hc := h c (by simp)
    obtain ⟨hframes, hdecoded⟩ := ih (fun d hd => h d (by simp [hd])) (e.record c) (f.record c)
    rw [List.foldl_cons, List.foldl_cons, hframes, hdecoded]
    cases c with
    | decode buffer => simp [SignalEpoch.record, SignalEpoch.put, SbcEpoch.record, frames, decodes]
    | resampleSetFactor factor => simp [SignalEpoch.record, SignalEpoch.put, SbcEpoch.record, frames, decodes]
    | ringWrite ring data status =>
      cases ring with
      | decodedAudio => simp [SignalEpoch.record, SbcEpoch.record, decodes]
      | sbcFrame =>
        by_cases hstatus : status = 0 <;> simp [SignalEpoch.record, SbcEpoch.record, decodes, hstatus]
    -- packets and requests set nothing up and empty nothing
    | resampleInit channels => simp [Call.IsData, Call.IsPlayback, Call.IsPcm, Call.IsDrift] at hc
    | ringInit ring => simp [Call.IsData, Call.IsPlayback, Call.IsPcm, Call.IsDrift] at hc
    | ringReset ring => simp [Call.IsData, Call.IsPlayback, Call.IsPcm, Call.IsDrift] at hc
    | _ => simp [SignalEpoch.record, SbcEpoch.record, decodes]

/-- The frames in the pipeline are those decoded since the SBC ring was last emptied. -/
theorem run_frames {ok : Sink P → SinkEvent → Prop} {es : List SinkEvent} {s : Sink P} (h : RunsTo ok es s) :
    frames (signalEpoch P s.calls).inputs = (sbcEpoch s.calls).decoded := by
  refine h.inv (I := fun s => frames (signalEpoch P s.calls).inputs = (sbcEpoch s.calls).decoded) ?_ rfl
  intro s e t hs _ he
  by_cases ha : ∃ a, e = .a2dp a
  · obtain ⟨a, rfl⟩ := ha
    refine a2dpSinkPacketHandler_rule
      (I := fun u => frames (signalEpoch P u.calls).inputs = (sbcEpoch u.calls).decoded) he ?_ ?_ ?_ ?_ hs
    · intro u _ _ hu
      exact hu
    · intro u _ _ hu
      by_cases hm : u.mediaInitialized
      · rw [mediaProcessingInit_of_initialized hm]
        exact hu
      · have hlog := mediaProcessingInit_extends (c := u.a2dpConnection.sbcConfiguration) (by simpa using hm)
        rw [signalEpoch_extends hlog, sbcEpoch_extends hlog, mediaProcessingInitCalls, wavCalls, audioCalls]
        split <;> split <;> rfl
    · intro u hu
      by_cases hm : u.mediaInitialized
      · have hlog := mediaProcessingPause_extends hm
        rw [signalEpoch_extends hlog, sbcEpoch_extends hlog, mediaProcessingPauseCalls, audioCalls]
        split <;> rfl
      · rw [mediaProcessingPause_of_closed (by simpa using hm)]
        exact hu
    · intro u hu
      by_cases hm : u.mediaInitialized
      · have hlog := mediaProcessingClose_extends hm
        rw [signalEpoch_extends hlog, sbcEpoch_extends hlog, mediaProcessingCloseCalls, wavCalls, audioCalls]
        split <;> split <;> exact hu
      · rw [mediaProcessingClose_of_closed (by simpa using hm)]
        exact hu
  · obtain ⟨-, -, cs, hlog, hcs⟩ := step_data he fun a hea => ha ⟨a, hea⟩
    obtain ⟨hframes, hdecoded⟩ := record_data hcs (signalEpoch P s.calls) (sbcEpoch s.calls)
    rw [signalEpoch_extends hlog, sbcEpoch_extends hlog, hframes, hdecoded, hs]

/-- **What is heard**: in every run of stereo streams with frames of one size between two resets, the audio that went to
callers' buffers since the last reset, followed by what the PCM ring holds, is the whole-stream decoding and resampling
of the first received frames, with the resampling factors set in between; the other received frames are in the SBC ring.
So no frame is lost, doubled, reordered or decoded in another state, however packets and requests interleave. -/
theorem playback_is_decoded_stream (hsink : P.audioSink = true) (hone : P.decoder.AtMostOneCallback)
    (h144 : P.AtMost144Frames) {size : Nat → Nat} {es : List SinkEvent} {s : Sink P}
    (h : RunsTo (fun s e => StereoWellFormed s e ∧ FixedFrameSize size s e) es s) :
    (pcmEpoch s.calls).delivered ++ s.pcmBytes =
        ((resamplerStage P.resampler).run (signalEpoch P s.calls).resampler
          ((decoderStage P.decoder).run (signalEpoch P s.calls).decoder (signalEpoch P s.calls).inputs).2).2 ∧
      ∃ rest, receivedFrames size s = frames (signalEpoch P s.calls).inputs ++ rest ∧ s.sbcBytes = rest.flatten := by
  constructor
  · rw [(run_conserved hsink hone h144 (h.mono fun _ _ hok => hok.1)).balance, ← (run_plays hsink h).produced,
      SignalEpoch.run, pipeline, Transducer.run_andThen]
  · obtain ⟨q, -, hq⟩ := run_represents hsink (h.mono fun _ _ hok => hok.2)
    refine ⟨q.pending, ?_, hq.bytes⟩
    rw [run_frames h, ← hq.served, ← hq.stored, q.balance]

theorem playback_is_decoded_stream_sampleRun :
    ∃ s : Sink (.reference true),
      RunsTo (fun s e => StereoWellFormed s e ∧ FixedFrameSize (fun _ => 6) s e) sampleRun s ∧
      (pcmEpoch s.calls).delivered ++ s.pcmBytes =
          ((resamplerStage Resampler.reference).run (signalEpoch (.reference true) s.calls).resampler
            ((decoderStage SbcDecoder.reference).run (signalEpoch (.reference true) s.calls).decoder
              (signalEpoch (.reference true) s.calls).inputs).2).2 ∧
        ∃ rest, receivedFrames (fun _ => 6) s = frames (signalEpoch (.reference true) s.calls).inputs ++ rest ∧
          s.sbcBytes = rest.flatten := by
  obtain ⟨s, hs⟩ : ∃ s : Sink (.reference true),
      RunsTo (fun s e => StereoWellFormed s e ∧ FixedFrameSize (fun _ => 6) s e) sampleRun s :=
    ⟨_, .cons ⟨trivial, trivial⟩ rfl (.cons ⟨rfl, trivial⟩ rfl
      (.cons ⟨stereoWellFormed_twoFrames _, rfl, by decide, by decide, _, _, rfl, by decide, rfl⟩ rfl
        (.cons ⟨trivial, trivial⟩ rfl (.nil _))))⟩
  exact ⟨s, hs, playback_is_decoded_stream rfl SbcDecoder.reference_atMostOneCallback
    (Platform.reference_atMost144Frames true) hs⟩

end BtstackPort
