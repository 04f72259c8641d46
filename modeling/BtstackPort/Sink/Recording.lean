import BtstackPort.Sink.Signal
import BtstackPort.Sink.WavAccount
/-!
# What is recorded

The WAV file is opened by a STREAM_STARTED that initialises media processing and closed when it ends; in between it is
written from two places. Without an audio sink `handle_pcm_data` writes what the decoder has just made of a packet, two
samples for each frame; with one, `playback_handler` writes the buffer it is about to return. So the file holds the
decoded packets, if they are stereo (`recording_is_decoded`), or what was heard (`recording_is_heard`), whatever
suspends, resumes and reconfigurations come in between.
-/

namespace BtstackPort

open FaultMachine

variable {P : Platform}

/-- The samples written to a WAV file: as many as `wav_writer_write_int16` is told, of those that it is given. What it
writes beyond them is not known. -/
def recordCall (data : List UInt8) : Call → List UInt8
  | .wavOpen .. => []
  | .wavWrite samples bytes => data ++ bytes.take (2 * samples)
  | _ => data

/-- The contents of the WAV file opened last. -/
def recording (calls : List Call) : List UInt8 := calls.foldl recordCall []

/-- The decoder, from payloads to samples. -/
def recorder (D : SbcDecoder) : Transducer D.Context (List UInt8) UInt8 where
  step context buffer :=
    ((D.decodeSigned16 context buffer).1, (D.decodeSigned16 context buffer).2.flatMap fun b => int16Bytes b.data)

/-- The payload of a media packet whose headers are read. -/
def SinkEvent.payload (P : Platform) : SinkEvent → Option (List UInt8)
  | .media packet _ => (mediaPayload P packet).map Prod.snd
  | _ => none

/-- The event neither closes the WAV file nor opens another one. -/
def StaysOpen (s : Sink P) : SinkEvent → Prop
  | .a2dp .streamStarted => s.configuration.reconfigure = 0
  | .a2dp .streamReleased => False
  | .a2dp .signalingConnectionReleased => False
  | _ => True

/-- And the decoder makes blocks of two channels of a packet. -/
def StaysOpenStereo (s : Sink P) (e : SinkEvent) : Prop :=
  StaysOpen s e ∧ ∀ packet now, e = .media packet now →
    ∀ b ∈ decodedBlocks packet s, b.data.length = b.numAudioFrames * numChannels

/-- What the driver gets on behalf of an event that takes `s` to `t`. -/
def Sink.given (s t : Sink P) : SinkEvent → List UInt8
  | .playback _ => if s.sbcFrameSize = 0 then [] else t.requestMem
  | _ => []

/-- What the driver gets from `s` on, silence from before the first packet left out. -/
def heard (s : Sink P) : List SinkEvent → List UInt8
  | [] => []
  | e :: es =>
    match step s e with
    | .error _ => []
    | .ok t => s.given t e ++ heard t es

theorem heard_cons {s t : Sink P} {e : SinkEvent} (he : step s e = .ok t) (es : List SinkEvent) :
    heard s (e :: es) = s.given t e ++ heard t es := by
  rw [heard, he]

section Steps

variable {s t : Sink P}

theorem recording_offFile {cs : List Call} (hlog : Extends s t cs) (hcs : ∀ c ∈ cs, c.IsOffFile) :
    recording t.calls = recording s.calls := by
  unfold Extends at hlog
  rw [recording, hlog, foldl_append_ignored]
  · rfl
  · intro c hc data
    have := hcs c hc
    cases c <;> simp_all [Call.IsOffFile, recordCall]

/-! ## Control events -/

/-- A control event that keeps the file open leaves it alone, and with it the decoder. -/
theorem a2dp_recording {e : A2dpEvent} (hm : s.mediaInitialized = true) (hopen : StaysOpen s (.a2dp e))
    (h : a2dpSinkPacketHandler e s = .ok t) :
    t.mediaInitialized = true ∧ t.sbcFrameSize = s.sbcFrameSize ∧ t.sbcDecoderContext = s.sbcDecoderContext ∧
      recording t.calls = recording s.calls := by
  cases e with
  | mediaCodecOtherConfiguration => cases h; exact ⟨hm, rfl, rfl, rfl⟩
  | mediaCodecSbcConfiguration c =>
    obtain ⟨mode, -, h⟩ := bind_returns.1 h
    cases h
    exact ⟨hm, rfl, rfl, rfl⟩
  | streamEstablished status addr cid localSeid =>
    simp only [a2dpSinkPacketHandler] at h
    split at h <;> cases h <;> exact ⟨hm, rfl, rfl, rfl⟩
  | streamStarted =>
    cases h
    have hkeep : s.a2dpConnection.sbcConfiguration.reconfigure = 0 := hopen
    have hplaying : (s.setStreamState .playing).mediaInitialized = true := hm
    rw [streamStarted_eq, if_neg (not_not.2 hkeep), mediaProcessingInit_of_initialized hplaying]
    exact ⟨hm, rfl, rfl, rfl⟩
  | streamSuspended =>
    cases h
    have hpaused : (s.setStreamState .paused).mediaInitialized = true := hm
    have hlog := recording_offFile (mediaProcessingPause_extends hpaused) fun c hc => by
      rcases mem_mediaProcessingPauseCalls hc with rfl | rfl | rfl <;> trivial
    refine ⟨?_, ?_, ?_, hlog⟩
    · simp only [mediaProcessingPause, hpaused, Bool.not_true, Bool.false_eq_true, if_false]
    · simp only [mediaProcessingPause, hpaused, Bool.not_true, Bool.false_eq_true, if_false]
      rfl
    · simp only [mediaProcessingPause, hpaused, Bool.not_true, Bool.false_eq_true, if_false]
      rfl
  | streamReleased => exact absurd hopen id
  | signalingConnectionReleased => exact absurd hopen id
  | ignored => cases h; exact ⟨hm, rfl, rfl, rfl⟩

/-- The STREAM_STARTED that opens the file. -/
theorem streamStarted_recording (hw : P.storeToWavFile = true)
    (hopens : s.mediaInitialized = false ∨ s.configuration.reconfigure ≠ 0) :
    (streamStarted s).mediaInitialized = true ∧
      (streamStarted s).sbcDecoderContext = P.decoder.configure (P.decoder.initInstance s.sbcDecoderContext) ∧
      recording (streamStarted s).calls = [] := by
  have hinit : ∀ (u : Sink P) (c : SbcConfiguration), u.mediaInitialized = false →
      (mediaProcessingInit c u).mediaInitialized = true ∧
        (mediaProcessingInit c u).sbcDecoderContext =
          P.decoder.configure (P.decoder.initInstance u.sbcDecoderContext) ∧
        recording (mediaProcessingInit c u).calls = [] := by
    intro u c hu
    refine ⟨by simp [mediaProcessingInit, hu], by simp [mediaProcessingInit, hu], ?_⟩
    simp only [mediaProcessingInit, hu, Bool.false_eq_true, if_false, mediaProcessingInitCalls, wavCalls, hw, if_true,
      audioCalls]
    split <;> simp [recording, recordCall]
  rw [streamStarted_eq]
  split
  · have hcontext : (mediaProcessingClose (s.setStreamState .playing)).sbcDecoderContext = s.sbcDecoderContext := by
      unfold mediaProcessingClose
      split <;> rfl
    rw [← hcontext]
    exact hinit _ _ (mediaProcessingClose_closed _)
  · rename_i hkeep
    exact hinit (s.setStreamState .playing) _ (hopens.resolve_right hkeep)

/-! ## Without an audio sink -/

/-- Stereo blocks are recorded as a whole. -/
theorem foldl_blockWrite {bs : List PcmBlock} (h : ∀ b ∈ bs, b.data.length = b.numAudioFrames * numChannels)
    (data : List UInt8) :
    (bs.map blockWrite).foldl recordCall data = data ++ bs.flatMap fun b => int16Bytes b.data := by
  induction bs generalizing data with
  | nil => exact (List.append_nil data).symm
  | cons b bs ih =>
    have hb := h b (by simp)
    have hwhole : (int16Bytes b.data).length ≤ 2 * (b.numAudioFrames * numChannels) := by
      simp [length_int16Bytes, hb]
    rw [List.map_cons, List.foldl_cons, ih fun c hc => h c (by simp [hc])]
    simp only [blockWrite, recordCall, List.take_of_length_le hwhole, List.flatMap_cons, List.append_assoc]

/-- The decoder has seen the payloads, and the file holds what it made of them. -/
structure Records (context : P.decoder.Context) (payloads : List (List UInt8)) (s : Sink P) : Prop where
  initialized : s.mediaInitialized = true
  frameSize : s.sbcFrameSize = 0
  decoder : s.sbcDecoderContext = ((recorder P.decoder).run context payloads).1
  file : recording s.calls = ((recorder P.decoder).run context payloads).2

/-- The blocks made of a packet follow what is there. -/
theorem Records.media {context : P.decoder.Context} {payloads : List (List UInt8)} {packet : List UInt8}
    {now : Readings} (hw : P.storeToWavFile = true) (hno : P.audioSink = false) (hs : Records context payloads s)
    (hstereo : ∀ b ∈ decodedBlocks packet s, b.data.length = b.numAudioFrames * numChannels)
    (he : handleL2capMediaDataPacket packet now s = .ok t) :
    Records context (payloads ++ ((SinkEvent.media packet now).payload P).toList) t := by
  rcases handleL2capMediaDataPacket_cases he with ⟨hp, rfl⟩ | ⟨sbcHeader, payload, hp, ⟨-, hq⟩ | ⟨hsink, -⟩⟩
  · simpa [SinkEvent.payload, hp] using hs
  · have hsame := (decodeSigned16_spec hq).1
    obtain ⟨hlog, hcontext⟩ := decodeSigned16_noSink hno hq
    rw [decodedBlocks_of_some hp] at hstereo
    have hdata : recording t.calls = recording s.calls ++
        (P.decoder.decodeSigned16 s.sbcDecoderContext payload).2.flatMap fun b => int16Bytes b.data := by
      rw [recording, hlog, List.foldl_append, List.foldl_cons, wavCalls, if_pos hw, foldl_blockWrite hstereo]
      rfl
    have hpayload : (SinkEvent.media packet now).payload P = some payload := by simp [SinkEvent.payload, hp]
    rw [hpayload, Option.toList_some]
    constructor
    · rw [hsame.mediaInitialized, hs.initialized]
    · rw [hsame.sbcFrameSize, hs.frameSize]
    · rw [hcontext, Transducer.run_snoc, hs.decoder]
      rfl
    · rw [hdata, Transducer.run_snoc, hs.file, hs.decoder]
      rfl
  · rw [hno] at hsink
    cases hsink

theorem Records.step {context : P.decoder.Context} {payloads : List (List UInt8)} {e : SinkEvent}
    (hw : P.storeToWavFile = true) (hno : P.audioSink = false) (hs : Records context payloads s)
    (hok : StaysOpenStereo s e) (he : step s e = .ok t) : Records context (payloads ++ (e.payload P).toList) t := by
  cases e with
  | a2dp e =>
    obtain ⟨hm, hsize, hcontext, hdata⟩ := a2dp_recording hs.initialized hok.1 he
    show Records context (payloads ++ []) t
    rw [List.append_nil]
    exact ⟨hm, hsize.trans hs.frameSize, hcontext.trans hs.decoder, hdata.trans hs.file⟩
  | media packet now => exact hs.media hw hno (hok.2 packet now rfl) he
  | playback r =>
    simp only [BtstackPort.step, playbackHandler, if_pos hs.frameSize] at he
    cases he
    show Records context (payloads ++ []) _
    rw [List.append_nil]
    refine ⟨hs.initialized, hs.frameSize, hs.decoder, ?_⟩
    rw [← hs.file]
    exact recording_offFile rfl (by simp [Call.IsOffFile])

/-! ## With an audio sink -/

/-- A request is recorded as it is returned. -/
theorem playbackHandler_recording (hw : P.storeToWavFile = true) (hsink : P.audioSink = true) {r : AudioRequest}
    (h : playbackHandler r s = .ok t) :
    recording t.calls = recording s.calls ++ if s.sbcFrameSize = 0 then [] else t.requestMem := by
  by_cases h0 : s.sbcFrameSize = 0
  · rw [playbackHandler, if_pos h0] at h
    cases h
    rw [if_pos h0, List.append_nil]
    exact recording_offFile rfl (by simp [Call.IsOffFile])
  · obtain ⟨cs, hlog, hcs, hlength⟩ := playbackHandler_wav hsink (Nat.pos_of_ne_zero h0) h
    have hwhole : t.requestMem.length ≤ 2 * (r.numAudioFrames.toNat * numChannels) := by
      rw [hlength, r.length_buffer, bytesPerFrame, numChannels]
      omega
    have hbefore : (s.calls ++ cs).foldl recordCall [] = recording s.calls :=
      recording_offFile (t := { s with calls := s.calls ++ cs }) rfl hcs
    rw [if_neg h0, recording, hlog, ← List.append_assoc, List.foldl_append, hbefore, wavCalls, if_pos hw]
    simp only [List.foldl_cons, List.foldl_nil, recordCall, List.take_of_length_le hwhole]

/-- A step that keeps the file open records what it gives to the driver. -/
theorem step_records (hw : P.storeToWavFile = true) (hsink : P.audioSink = true) {e : SinkEvent}
    (hm : s.mediaInitialized = true) (hopen : StaysOpen s e) (he : step s e = .ok t) :
    t.mediaInitialized = true ∧ recording t.calls = recording s.calls ++ s.given t e := by
  cases e with
  | a2dp e =>
    obtain ⟨hm', -, -, hdata⟩ := a2dp_recording hm hopen he
    exact ⟨hm', by rw [hdata]; exact (List.append_nil _).symm⟩
  | media packet now =>
    refine ⟨by rw [(step_data he (by simp)).2.1, hm], ?_⟩
    have hnothing : s.given t (.media packet now) = [] := rfl
    rw [hnothing, List.append_nil]
    rcases handleL2capMediaDataPacket_cases he with ⟨-, rfl⟩ | ⟨sbcHeader, payload, -, ⟨hno, -⟩ | ⟨-, hq⟩⟩
    · rfl
    · rw [hsink] at hno
      cases hno
    · obtain ⟨cs, hlog, hcs⟩ := queuePayload_offFile hq
      exact recording_offFile hlog hcs
  | playback r =>
    exact ⟨by rw [(step_data he (by simp)).2.1, hm], playbackHandler_recording hw hsink he⟩

end Steps

section Runs

variable {ok : Sink P → SinkEvent → Prop} {es es' : List SinkEvent} {s t u : Sink P}

/-- **The recording without an audio sink**: from the STREAM_STARTED that opens it, and as long as it stays open and the
decoder makes stereo blocks, the WAV file holds what the decoder, set up anew, makes of the payloads of all packets
whose headers are read, one after the other. -/
theorem recording_is_decoded (hw : P.storeToWavFile = true) (hno : P.audioSink = false) (h : RunsTo ok es s)
    (hopens : s.mediaInitialized = false ∨ s.configuration.reconfigure ≠ 0)
    (ht : step s (.a2dp .streamStarted) = .ok t) (hu : Run step StaysOpenStereo t es' u) :
    recording u.calls =
      ((recorder P.decoder).run (P.decoder.configure (P.decoder.initInstance s.sbcDecoderContext))
        (es'.filterMap (SinkEvent.payload P))).2 := by
  obtain ⟨hinitialized, hdecoder, hfile⟩ := streamStarted_recording (s := s) hw hopens
  have hframeSize : t.sbcFrameSize = 0 :=
    run_noSink (run_snoc.2 ⟨s, h.mono fun _ _ _ => trivial, trivial, ht⟩ : RunsTo (fun _ _ => True) _ t) hno
  cases ht
  refine (Run.history (I := fun es u => Records _ (es.filterMap (SinkEvent.payload P)) u) ?_ ?_ hu).file
  · exact ⟨hinitialized, hframeSize, hdecoder, hfile⟩
  · intro es u e v _ hs hok he
    have hnext := hs.step hw hno hok he
    rw [List.filterMap_append]
    cases hpayload : e.payload P with
    | none => simpa [hpayload] using hnext
    | some payload => simpa [hpayload] using hnext

/-- Two packets after STREAM_STARTED, and a suspend between them. -/
def twoPackets : List SinkEvent :=
  [.media (MediaPacket.plain 2 (List.replicate 12 7)).bytes .nominal, .a2dp .streamSuspended,
    .media (MediaPacket.plain 2 (List.replicate 12 8)).bytes .nominal]

theorem recording_is_decoded_twoPackets :
    ∃ t u : Sink (.reference false), step (Sink.initial (.reference false)) (.a2dp .streamStarted) = .ok t ∧
      Run step StaysOpenStereo t twoPackets u ∧
      recording u.calls =
        ((recorder (Platform.reference false).decoder).run ()
          (twoPackets.filterMap (SinkEvent.payload (.reference false)))).2 := by
  have hrun : ∃ u, Run step StaysOpenStereo (streamStarted (Sink.initial (.reference false))) twoPackets u := by
    -- the reference decoder makes one stereo frame of each packet
    have hstereo : ∀ (s : Sink (.reference false)) (packet : List UInt8), ∀ b ∈ decodedBlocks packet s,
        b.data.length = b.numAudioFrames * numChannels := by
      intro s packet b hb
      unfold decodedBlocks at hb
      split at hb
      · cases hb
      · obtain rfl := List.mem_singleton.1 hb
        rfl
    have hopen : ∀ (s : Sink (.reference false)) e, StaysOpen s e → StaysOpenStereo s e :=
      fun s _ he => ⟨he, fun packet _ _ => hstereo s packet⟩
    exact ⟨_, .cons (hopen _ _ trivial) rfl (.cons (hopen _ _ trivial) rfl (.cons (hopen _ _ trivial) rfl (.nil _)))⟩
  obtain ⟨u, hu⟩ := hrun
  have hinitial : RunsTo (fun _ _ => True) [] (Sink.initial (.reference false)) := .nil _
  exact ⟨_, u, rfl, hu, recording_is_decoded rfl rfl hinitial (Or.inl rfl) rfl hu⟩

/-- **The recording with an audio sink**: from the STREAM_STARTED that opens it, and until it is closed, the WAV file
holds what the audio driver was given, silence from before the first packet left out. -/
theorem recording_is_heard (hw : P.storeToWavFile = true) (hsink : P.audioSink = true)
    (hopens : s.mediaInitialized = false ∨ s.configuration.reconfigure ≠ 0)
    (ht : step s (.a2dp .streamStarted) = .ok t) (hu : Run step StaysOpen t es' u) :
    recording u.calls = heard t es' := by
  obtain ⟨hinitialized, -, hfile⟩ := streamStarted_recording (s := s) hw hopens
  suffices hall : recording u.calls = recording t.calls ++ heard t es' by
    cases ht
    rw [hall, hfile, List.nil_append]
  have hm : t.mediaInitialized = true := by cases ht; exact hinitialized
  clear ht hinitialized hfile
  induction hu with
  | nil t => exact (List.append_nil _).symm
  | @cons t v u e es hopen he _ ih =>
    obtain ⟨hm', hdata⟩ := step_records hw hsink hm hopen he
    rw [ih hm', hdata, heard_cons he, List.append_assoc]

/-- The sample run, from its STREAM_STARTED on. -/
theorem recording_is_heard_sampleRun :
    ∃ t u : Sink (.reference true), RunsTo (fun _ _ => True) (sampleRun.take 2) t ∧
      Run step StaysOpen t (sampleRun.drop 2) u ∧ recording u.calls = heard t (sampleRun.drop 2) := by
  have hrun : ∃ s t u : Sink (.reference true), RunsTo (fun _ _ => True) (sampleRun.take 1) s ∧
      s.mediaInitialized = false ∧ step s (.a2dp .streamStarted) = .ok t ∧
      Run step StaysOpen t (sampleRun.drop 2) u :=
    ⟨_, _, _, .cons trivial rfl (.nil _), rfl, rfl, .cons trivial rfl (.cons trivial rfl (.nil _))⟩
  obtain ⟨s, t, u, hs, hclosed, ht, hu⟩ := hrun
  exact ⟨t, u, run_snoc.2 ⟨s, hs, trivial, ht⟩, hu, recording_is_heard rfl rfl (Or.inl hclosed) ht hu⟩

end Runs

end BtstackPort
