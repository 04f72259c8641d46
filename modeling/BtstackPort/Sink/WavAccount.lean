import Mathlib.Algebra.GroupWithZero.Nat
import BtstackPort.Lib.Trace
import BtstackPort.Sink.Configuration
import BtstackPort.Sink.Session
import BtstackPort.Sink.WavFile
/-!
# The frame count of the WAV file

`audio_frame_count` is counted up by every write to the WAV file and printed by `media_processing_close`. The count
is compared with the log: `framesSinceOpen` adds up the stereo frames written since the last `wav_writer_open`.

Two things keep the two apart: `media_processing_init` opens a new file without resetting the count, and
`playback_handler` writes all `num_audio_frames` of a request to the file but counts only those that did not come
out of the PCM ring (`a2dp_sink.c:361`, `:377`). `CountsFrames` says when a step does neither;
`countRight_step_iff` that it says so exactly.
-/

namespace BtstackPort

open FaultMachine Trace

variable {P : Platform}

def addWavFrames (frames : Nat) : Call → Nat
  | .wavOpen .. => 0
  | .wavWrite samples _ => frames + samples / numChannels
  | _ => frames

/-- Stereo frames written to the WAV file since it was opened. -/
def framesSinceOpen (calls : List Call) : Nat := calls.foldl addWavFrames 0

/-- A report states the frames written to the file it closes. -/
def ReportsFrames (before : List Call) : Call → Prop
  | .wavReport audioFrameCount => audioFrameCount.toNat = framesSinceOpen before
  | _ => True

/-- `media_processing_close` would report the right number now. -/
def CountRight (s : Sink P) : Prop :=
  s.mediaInitialized = true → s.audioFrameCount.toNat = framesSinceOpen s.calls

/-- Audio frames a packet that is decoded right away amounts to. -/
def decodedFrames (packet : List UInt8) (s : Sink P) : Nat :=
  ((decodedBlocks packet s).map PcmBlock.numAudioFrames).sum

/-- A WAV file is opened only while the count is zero, nothing comes out of the PCM ring and the count does not
wrap. -/
def CountsFrames (s : Sink P) : SinkEvent → Prop
  | .a2dp .streamStarted =>
    s.mediaInitialized = false ∨ s.configuration.reconfigure ≠ 0 → s.audioFrameCount = 0
  | .a2dp _ => True
  | .media packet _ => P.audioSink = false → s.mediaInitialized = true →
    s.audioFrameCount.toNat + decodedFrames packet s < 2 ^ 32
  | .playback r => s.mediaInitialized = true → s.sbcFrameSize ≠ 0 →
    (r.numAudioFrames = 0 ∨ s.pcmBytes = []) ∧ s.audioFrameCount.toNat + r.numAudioFrames.toNat < 2 ^ 32

/-! ## What a step adds to the file and to the count -/

/-- `counted` frames were added to the count and `written` frames to the file. -/
structure Accounts (counted written : Nat) (s t : Sink P) : Prop where
  count : t.audioFrameCount = s.audioFrameCount + UInt32.ofNat counted
  file : framesSinceOpen t.calls = framesSinceOpen s.calls + written

theorem Accounts.of_offFile {s t : Sink P} {cs : List Call} (hlog : Extends s t cs) (hcs : ∀ c ∈ cs, c.IsOffFile)
    (hcount : t.audioFrameCount = s.audioFrameCount) : Accounts 0 0 s t := by
  refine ⟨by simp [hcount], ?_⟩
  unfold Extends at hlog
  rw [framesSinceOpen, hlog, foldl_append_ignored]
  · rfl
  · intro c hc frames
    have := hcs c hc
    cases c <;> simp_all [Call.IsOffFile, addWavFrames]

theorem Accounts.refl (s : Sink P) : Accounts 0 0 s s := ⟨by simp, rfl⟩

theorem Accounts.trans {a b c d : Nat} {s t u : Sink P} (h : Accounts a b s t) (h' : Accounts c d t u) :
    Accounts (a + c) (b + d) s u := by
  constructor
  · rw [h'.count, h.count, UInt32.ofNat_add, UInt32.add_assoc]
  · rw [h'.file, h.file, Nat.add_assoc]

/-- The PCM callback counts what it writes; with an audio sink it writes nothing. -/
theorem handlePcmData_accounts {b : PcmBlock} {s t : Sink P} (hw : P.storeToWavFile = true)
    (h : handlePcmData b s = .ok t) :
    if P.audioSink then Accounts 0 0 s t else Accounts b.numAudioFrames b.numAudioFrames s t := by
  rcases handlePcmData_cases h with ⟨ha, -, rfl⟩ | ⟨-, hno, -⟩ | ⟨ha, -, mem, rfl⟩
  · simp only [ha, Bool.false_eq_true, if_false]
    exact ⟨rfl, by simp [framesSinceOpen, addWavFrames, numChannels]⟩
  · rw [hw] at hno
    cases hno
  · rw [if_pos ha]
    unfold storeSurplus
    split
    · exact .of_offFile rfl (by simp [Call.IsOffFile]) rfl
    · exact .of_offFile (List.append_assoc _ _ _) (by simp [Call.IsOffFile]) rfl

theorem pcmCallbacks_accounts {bs : List PcmBlock} {s t : Sink P} (hw : P.storeToWavFile = true)
    (h : pcmCallbacks bs s = .ok t) :
    if P.audioSink then Accounts 0 0 s t
    else Accounts (bs.map PcmBlock.numAudioFrames).sum (bs.map PcmBlock.numAudioFrames).sum s t := by
  induction bs generalizing s with
  | nil => cases h; simp [Accounts.refl]
  | cons b bs ih =>
    obtain ⟨u, hu, ht⟩ := bind_returns.1 h
    have h1 := handlePcmData_accounts hw hu
    have h2 := ih ht
    split at h1
    · rw [if_pos ‹_›] at h2 ⊢
      exact h1.trans h2
    · rw [if_neg ‹_›] at h2 ⊢
      simpa using h1.trans h2

theorem decodeSigned16_accounts {buffer : List UInt8} {s t : Sink P} (hw : P.storeToWavFile = true)
    (h : decodeSigned16 buffer s = .ok t) :
    if P.audioSink then Accounts 0 0 s t
    else
      Accounts ((P.decoder.decodeSigned16 s.sbcDecoderContext buffer).2.map PcmBlock.numAudioFrames).sum
        ((P.decoder.decodeSigned16 s.sbcDecoderContext buffer).2.map PcmBlock.numAudioFrames).sum s t := by
  unfold decodeSigned16 at h
  split at h
  · cases h
  · have hcall : Accounts 0 0 s { s with
        sbcDecoderContext := (P.decoder.decodeSigned16 s.sbcDecoderContext buffer).1
        calls := s.calls ++ [.decode buffer] } := .of_offFile rfl (by simp [Call.IsOffFile]) rfl
    have hcallbacks := pcmCallbacks_accounts hw h
    split at hcallbacks
    · rw [if_pos ‹_›]
      exact hcall.trans hcallbacks
    · rw [if_neg ‹_›]
      simpa using hcall.trans hcallbacks

/-- With an audio sink, a packet neither counts nor writes. -/
theorem queuePayload_accounts {sbcHeader : AvdtpSbcCodecHeader} {payload : List UInt8} {now : Readings} {s t : Sink P}
    (h : queuePayload sbcHeader payload now s = .ok t) : Accounts 0 0 s t := by
  refine queuePayload_rule (I := fun u => Accounts 0 0 s u) h ?_ ?_ ?_ (.refl s)
  · intro u frameSize hu
    have hlog : Extends u (writePayload frameSize payload u)
        [.ringWrite .sbcFrame payload (P.ring.write u.sbcFrameRingBuffer payload).1] := rfl
    exact hu.trans (.of_offFile hlog (by simp [Call.IsOffFile]) rfl)
  · intro u numFrames sbcFramesInBuffer hu
    obtain ⟨-, -, ds, hlog, hds⟩ := adjustDrift_spec numFrames sbcFramesInBuffer now u
    refine hu.trans (.of_offFile hlog (fun c hc => (hds c hc).isOffFile) ?_)
    unfold adjustDrift updateSampleRateCompensation setResamplingFactor
    split
    · simp only
      split <;> split <;> rfl
    · rfl
  · intro u _ hu
    by_cases hm : u.mediaInitialized
    · refine hu.trans (.of_offFile (mediaProcessingStart_of_initialized hm).2 (fun c hc => ?_) ?_)
      · rcases mem_mediaProcessingStartCalls hc with rfl | rfl <;> trivial
      · simp only [mediaProcessingStart, hm, Bool.not_true, Bool.false_eq_true, if_false]
    · rw [mediaProcessingStart_of_closed (by simpa using hm)]
      exact hu

/-- What the PCM ring supplies of a request. -/
def AudioRequest.framesFromRing (r : AudioRequest) (s : Sink P) : Nat := (r.fromRing s).length / bytesPerFrame

/-- With an audio sink and a known frame size, a request is written as a whole, but the frames from the PCM ring
are not counted. -/
theorem playbackHandler_accounts {r : AudioRequest} {s t : Sink P} (hw : P.storeToWavFile = true)
    (ha : P.audioSink = true) (hsize : s.sbcFrameSize ≠ 0) (h : playbackHandler r s = .ok t) :
    Accounts (r.numAudioFrames.toNat - r.framesFromRing s) r.numAudioFrames.toNat s t := by
  unfold playbackHandler at h
  rw [if_neg hsize] at h
  obtain ⟨u, hu, h⟩ := bind_returns.1 h
  obtain ⟨v, hv, h⟩ := bind_returns.1 h
  cases h
  obtain ⟨-, -, -, -, -, hreq, hlog⟩ := fillFromPcmRing_spec hu
  have hfill : Accounts 0 0 s u := by
    refine .of_offFile hlog (by simp [Call.IsOffFile]) ?_
    unfold fillFromPcmRing at hu
    simp only at hu
    split at hu
    · cases hu
    · cases hu; rfl
  have hloop : Accounts 0 0 u v := by
    refine decodeLoop_rule (I := fun w => Accounts 0 0 u w) ?_ hv (.refl u)
    intro w x hux _ hx
    have hcallbacks := pcmCallbacks_accounts hw (decodeFrame_returned hx).2
    rw [if_pos ha] at hcallbacks
    have hread : Accounts 0 0 w (frameRead w) := .of_offFile (frameRead_spec w).2.2 (by simp [Call.IsOffFile]) rfl
    exact hux.trans (hread.trans hcallbacks)
  have hwrite : Accounts u.requestFrames.toNat r.numAudioFrames.toNat v (writeWav r u.requestFrames.toNat v) := by
    unfold writeWav
    rw [if_pos hw]
    exact ⟨rfl, by simp [framesSinceOpen, addWavFrames, numChannels]⟩
  have hcounted : u.requestFrames.toNat = r.numAudioFrames.toNat - r.framesFromRing s := by
    rw [hreq, Int.toNat_natCast]
    rfl
  have hall := (hfill.trans hloop).trans hwrite
  simpa [hcounted] using hall

/-! ## When a step keeps the count right -/

/-- Without an audio sink no frame size is ever stored. -/
theorem run_noSink {ok : Sink P → SinkEvent → Prop} {es : List SinkEvent} {s : Sink P} (h : RunsTo ok es s)
    (ha : P.audioSink = false) : s.sbcFrameSize = 0 := by
  refine Run.inv (I := fun s => s.sbcFrameSize = 0) ?_ h rfl
  intro s e t hs _ he
  cases e with
  | a2dp e =>
    refine a2dpSinkPacketHandler_rule (I := fun u => u.sbcFrameSize = 0) he ?_ ?_ ?_ ?_ hs
    · intro u _ _ hu
      exact hu
    · intro u _ _ hu
      unfold mediaProcessingInit
      split <;> exact hu
    · intro u hu
      unfold mediaProcessingPause
      split <;> exact hu
    · intro u hu
      unfold mediaProcessingClose
      split
      · exact hu
      · rfl
  | media packet now =>
    rcases handleL2capMediaDataPacket_cases he with ⟨-, rfl⟩ | ⟨hd, payload, -, ⟨-, hq⟩ | ⟨hsink, -⟩⟩
    · exact hs
    · rw [(decodeSigned16_spec hq).1.sbcFrameSize, hs]
    · rw [hsink] at ha; cases ha
  | playback r => rw [(playbackHandler_spec he).1.sbcFrameSize, hs]

/-- Counting `counted` and writing `written` frames keeps a right count right exactly when nothing is left out and
nothing wraps. -/
theorem Accounts.countRight_iff {counted written : Nat} {s t : Sink P} (h : Accounts counted written s t)
    (hle : counted ≤ written) (hm : t.mediaInitialized = s.mediaInitialized) (hs : CountRight s) :
    CountRight t ↔ (s.mediaInitialized = true → counted = written ∧ s.audioFrameCount.toNat + written < 2 ^ 32) := by
  unfold CountRight at *
  rw [hm, h.count, h.file]
  refine imp_congr_right fun hi => ?_
  rw [← hs hi, UInt32.toNat_add, UInt32.toNat_ofNat']
  have := s.audioFrameCount.toNat_lt
  omega

theorem Accounts.countRight {s t : Sink P} (h : Accounts 0 0 s t) (hm : t.mediaInitialized = s.mediaInitialized)
    (hs : CountRight s) : CountRight t := by
  rw [h.countRight_iff (Nat.le_refl 0) hm hs]
  intro _
  exact ⟨rfl, s.audioFrameCount.toNat_lt⟩

theorem countRight_of_closed {s : Sink P} (h : s.mediaInitialized = false) : CountRight s := by
  intro hi
  rw [h] at hi; cases hi

/-- A new file starts with no frames, whatever the count is. -/
theorem mediaProcessingInit_countRight_iff {c : SbcConfiguration} {s : Sink P} (hw : P.storeToWavFile = true)
    (hm : s.mediaInitialized = false) : CountRight (mediaProcessingInit c s) ↔ s.audioFrameCount = 0 := by
  have hfile : framesSinceOpen (s.calls ++ mediaProcessingInitCalls P c) = 0 := by
    unfold mediaProcessingInitCalls wavCalls audioCalls
    by_cases ha : P.audioSink <;> simp [framesSinceOpen, addWavFrames, hw, ha]
  simp [CountRight, mediaProcessingInit, hm, hfile, ← UInt32.toNat_inj]

theorem mediaProcessingPause_countRight {s : Sink P} (hs : CountRight s) : CountRight (mediaProcessingPause s) := by
  by_cases hm : s.mediaInitialized
  · refine Accounts.countRight (.of_offFile (mediaProcessingPause_extends hm) (fun c hc => ?_) ?_) ?_ hs
    · rcases mem_mediaProcessingPauseCalls hc with rfl | rfl | rfl <;> trivial
    · simp [mediaProcessingPause, hm]
    · simp [mediaProcessingPause, hm]
  · rw [mediaProcessingPause_of_closed (by simpa using hm)]
    exact hs

theorem streamStarted_countRight_iff {s : Sink P} (hw : P.storeToWavFile = true) (hs : CountRight s) :
    CountRight (streamStarted s) ↔ CountsFrames s (.a2dp .streamStarted) := by
  unfold streamStarted CountsFrames
  simp only
  by_cases hr : s.configuration.reconfigure = 0
  · rw [if_neg (by simpa [Sink.setStreamState] using hr)]
    by_cases hm : s.mediaInitialized
    · rw [mediaProcessingInit_of_initialized (s := s.setStreamState .playing) hm]
      simp only [hm, hr, Bool.true_eq_false, ne_eq, not_true_eq_false, or_self, false_implies, iff_true]
      exact hs
    · rw [mediaProcessingInit_countRight_iff hw (by simpa [Sink.setStreamState] using hm)]
      simp [hm, Sink.setStreamState]
  · rw [if_pos (by simpa [Sink.setStreamState] using hr)]
    rw [mediaProcessingInit_countRight_iff hw (mediaProcessingClose_closed _)]
    have hcount : (mediaProcessingClose (s.setStreamState .playing)).audioFrameCount = s.audioFrameCount := by
      unfold mediaProcessingClose
      split <;> rfl
    simp [hcount, hr]

theorem media_countRight_iff {packet : List UInt8} {now : Readings} {s t : Sink P} (hw : P.storeToWavFile = true)
    (hs : CountRight s) (h : handleL2capMediaDataPacket packet now s = .ok t) :
    CountRight t ↔ CountsFrames s (.media packet now) := by
  simp only [CountsFrames, decodedFrames]
  rcases handleL2capMediaDataPacket_cases h with ⟨hp, rfl⟩ | ⟨hd, payload, hp, ⟨ha, hq⟩ | ⟨ha, hq⟩⟩
  · simp only [decodedBlocks_of_none hp, List.map_nil, List.sum_nil, Nat.add_zero]
    exact iff_of_true hs fun _ _ => t.audioFrameCount.toNat_lt
  · have hdecode := decodeSigned16_accounts hw hq
    rw [if_neg (by simp [ha])] at hdecode
    rw [hdecode.countRight_iff (Nat.le_refl _) (decodeSigned16_spec hq).1.mediaInitialized hs]
    simp [ha, decodedBlocks_of_some hp]
  · obtain ⟨-, -, hsame, -⟩ := queuePayload_spec hq
    refine iff_of_true ((queuePayload_accounts hq).countRight hsame.mediaInitialized hs) ?_
    simp [ha]

/-- No frame comes from the PCM ring, which holds whole frames, exactly when none was asked for or it is empty. -/
theorem framesFromRing_eq_zero_iff {s : Sink P} (hsession : Session s) (r : AudioRequest) :
    r.numAudioFrames.toNat - r.framesFromRing s = r.numAudioFrames.toNat ↔
      r.numAudioFrames = 0 ∨ s.pcmBytes = [] := by
  have hlen := r.length_fromRing s
  obtain ⟨k, hk⟩ := hsession.whole
  have hzero : r.numAudioFrames = 0 ↔ r.numAudioFrames.toNat = 0 := by simp [← UInt16.toNat_inj]
  rw [hzero, ← List.length_eq_zero_iff]
  simp only [AudioRequest.framesFromRing, bytesPerFrame, numChannels] at *
  omega

theorem playback_countRight_iff {r : AudioRequest} {s t : Sink P} (hw : P.storeToWavFile = true)
    (hsession : Session s) (hnoSink : P.audioSink = false → s.sbcFrameSize = 0) (hs : CountRight s)
    (h : playbackHandler r s = .ok t) : CountRight t ↔ CountsFrames s (.playback r) := by
  have hsame := (playbackHandler_spec h).1
  by_cases hsize : s.sbcFrameSize = 0
  · -- only silence, which is not written to the file
    refine iff_of_true ?_ fun _ h0 => absurd hsize h0
    simp only [playbackHandler, if_pos hsize] at h
    cases h
    exact Accounts.countRight (s := s) (.of_offFile rfl (by simp [Call.IsOffFile]) rfl) rfl hs
  · have ha : P.audioSink = true := by
      by_contra hn
      exact hsize (hnoSink (by simpa using hn))
    have hall := playbackHandler_accounts hw ha hsize h
    rw [hall.countRight_iff (Nat.sub_le _ _) hsame.mediaInitialized hs]
    refine imp_congr_right fun hi => ?_
    rw [framesFromRing_eq_zero_iff hsession]
    simp [hsize]

/-- **Exactness**: of all steps, those of `CountsFrames` keep a right count right. -/
theorem countRight_step_iff {e : SinkEvent} {s t : Sink P} (hw : P.storeToWavFile = true) (hsession : Session s)
    (hnoSink : P.audioSink = false → s.sbcFrameSize = 0) (hs : CountRight s) (h : step s e = .ok t) :
    CountRight t ↔ CountsFrames s e := by
  cases e with
  | a2dp e =>
    cases e with
    | mediaCodecOtherConfiguration => cases h; simpa [CountsFrames] using hs
    | mediaCodecSbcConfiguration e =>
      obtain ⟨mode, -, h⟩ := bind_returns.1 h
      cases h
      exact iff_of_true hs trivial
    | streamEstablished status addr cid localSeid =>
      simp only [step, a2dpSinkPacketHandler] at h
      split at h
      · cases h; exact iff_of_true hs trivial
      · cases h; exact iff_of_true hs trivial
    | streamStarted =>
      cases h
      exact streamStarted_countRight_iff hw hs
    | streamSuspended =>
      cases h
      exact iff_of_true (mediaProcessingPause_countRight (s := s.setStreamState .paused) hs) trivial
    | streamReleased => cases h; exact iff_of_true (countRight_of_closed (mediaProcessingClose_closed _)) trivial
    | signalingConnectionReleased =>
      cases h
      exact iff_of_true (countRight_of_closed (mediaProcessingClose_closed _)) trivial
    | ignored => cases h; exact iff_of_true hs trivial
  | media packet now => exact media_countRight_iff hw hs h
  | playback r => exact playback_countRight_iff hw hsession hnoSink hs h

/-! ## Every report -/

theorem Call.IsData.reportsFrames {c : Call} (h : c.IsData) (before : List Call) : ReportsFrames before c := by
  cases c <;> simp_all [Call.IsData, Call.IsPlayback, Call.IsPcm, Call.IsDrift, ReportsFrames]

theorem mediaProcessingInit_reports (c : SbcConfiguration) {s : Sink P} (h : Throughout ReportsFrames s.calls) :
    Throughout ReportsFrames (mediaProcessingInit c s).calls := by
  by_cases hm : s.mediaInitialized
  · rw [mediaProcessingInit_of_initialized hm]
    exact h
  · have hlog := mediaProcessingInit_extends (c := c) (by simpa using hm)
    unfold Extends at hlog
    rw [hlog]
    apply h.append_free
    intro c hc pre
    rcases mem_mediaProcessingInitCalls hc with rfl | rfl | rfl | rfl | rfl <;> trivial

theorem mediaProcessingPause_reports {s : Sink P} (h : Throughout ReportsFrames s.calls) :
    Throughout ReportsFrames (mediaProcessingPause s).calls := by
  by_cases hm : s.mediaInitialized
  · have hlog := mediaProcessingPause_extends hm
    unfold Extends at hlog
    rw [hlog]
    apply h.append_free
    intro c hc pre
    rcases mem_mediaProcessingPauseCalls hc with rfl | rfl | rfl <;> trivial
  · rw [mediaProcessingPause_of_closed (by simpa using hm)]
    exact h

/-- The report of `media_processing_close` is right when the count is. -/
theorem mediaProcessingClose_reports {s : Sink P} (hs : CountRight s) (h : Throughout ReportsFrames s.calls) :
    Throughout ReportsFrames (mediaProcessingClose s).calls := by
  by_cases hm : s.mediaInitialized
  · have hlog := mediaProcessingClose_extends hm
    unfold Extends at hlog
    rw [hlog, mediaProcessingCloseCalls, ← List.append_assoc]
    apply Throughout.append_free
    · unfold wavCalls
      split
      · have hclose : framesSinceOpen (s.calls ++ [.wavClose]) = framesSinceOpen s.calls := by
          simp [framesSinceOpen, addWavFrames]
        simp only [throughout_append, throughout_cons, throughout_nil]
        refine ⟨h, trivial, ?_, trivial⟩
        simpa [ReportsFrames, hclose] using hs hm
      · simpa using h
    · intro c hc pre
      obtain ⟨-, hc⟩ := mem_audioCalls.1 hc
      rw [List.mem_singleton.1 hc]
      trivial
  · rw [mediaProcessingClose_of_closed (by simpa using hm)]
    exact h

theorem data_reports {e : SinkEvent} {s t : Sink P} (hr : Throughout ReportsFrames s.calls) (h : step s e = .ok t)
    (he : ∀ a, e ≠ .a2dp a) : Throughout ReportsFrames t.calls := by
  obtain ⟨-, -, cs, hlog, hcs⟩ := step_data h he
  unfold Extends at hlog
  rw [hlog]
  exact hr.append_free fun c hc => (hcs c hc).reportsFrames

theorem step_reports {e : SinkEvent} {s t : Sink P} (hs : CountRight s) (hr : Throughout ReportsFrames s.calls)
    (h : step s e = .ok t) : Throughout ReportsFrames t.calls := by
  cases e with
  | a2dp e =>
    cases e with
    | mediaCodecOtherConfiguration => cases h; exact hr
    | mediaCodecSbcConfiguration e =>
      obtain ⟨mode, -, h⟩ := bind_returns.1 h
      cases h
      exact hr
    | streamEstablished status addr cid localSeid =>
      simp only [step, a2dpSinkPacketHandler] at h
      split at h
      · cases h; exact hr
      · cases h; exact hr
    | streamStarted =>
      cases h
      unfold streamStarted
      simp only
      split
      · exact mediaProcessingInit_reports _ (mediaProcessingClose_reports (s := s.setStreamState .playing) hs hr)
      · exact mediaProcessingInit_reports _ hr
    | streamSuspended => cases h; exact mediaProcessingPause_reports (s := s.setStreamState .paused) hr
    | streamReleased => cases h; exact mediaProcessingClose_reports (s := s.setStreamState .closed) hs hr
    | signalingConnectionReleased => cases h; exact mediaProcessingClose_reports hs hr
    | ignored => cases h; exact hr
  | media packet now => exact data_reports hr h (by simp)
  | playback r => exact data_reports hr h (by simp)

theorem run_countRight {es : List SinkEvent} {s : Sink P} (hw : P.storeToWavFile = true)
    (h : RunsTo CountsFrames es s) : CountRight s ∧ Throughout ReportsFrames s.calls := by
  refine h.history (I := fun _ s => CountRight s ∧ Throughout ReportsFrames s.calls) ?_ ?_
  · exact ⟨countRight_of_closed rfl, throughout_nil⟩
  · intro es s e t hrun hI hok he
    have hcount := countRight_step_iff hw (run_session hrun) (run_noSink hrun) hI.1 he
    exact ⟨hcount.2 hok, step_reports hI.1 hI.2 he⟩

/-- **WAV frame accounting**: in a run of steps that count what they write, every report states the frames written
to its file; and after such a run a further step keeps the count right exactly when it is of that kind. -/
theorem wav_accounting {es : List SinkEvent} {s : Sink P} (hw : P.storeToWavFile = true)
    (h : RunsTo CountsFrames es s) :
    Throughout ReportsFrames s.calls ∧ ∀ e t, step s e = .ok t → (CountRight t ↔ CountsFrames s e) := by
  obtain ⟨hcount, hreports⟩ := run_countRight hw h
  refine ⟨hreports, ?_⟩
  intro e t he
  exact countRight_step_iff hw (run_session h) (run_noSink h) hcount he

/-- The sample run, with the stream released after it. -/
theorem wav_accounting_sampleRun :
    ∃ s : Sink (.reference true), RunsTo CountsFrames (sampleRun ++ [SinkEvent.a2dp .streamReleased]) s ∧
      Throughout ReportsFrames s.calls ∧ ∀ e t, step s e = .ok t → (CountRight t ↔ CountsFrames s e) := by
  obtain ⟨s, hs⟩ : ∃ s : Sink (.reference true),
      RunsTo CountsFrames (sampleRun ++ [SinkEvent.a2dp .streamReleased]) s :=
    ⟨_, .cons trivial rfl (.cons (fun _ => rfl) rfl (.cons nofun rfl
      (.cons (fun _ _ => ⟨Or.inr rfl, by decide⟩) rfl (.cons trivial rfl (.nil _)))))⟩
  exact ⟨s, hs, wav_accounting rfl hs⟩

/-- A decoder that makes two audio frames of each buffer. -/
def Platform.twoFrames : Platform :=
  { Platform.reference true with
    decoder := { SbcDecoder.reference with decodeSigned16 := fun _ _ => ((), [⟨[0, 0, 0, 0], 2, 2, 44100⟩]) } }

/-- The second of two sessions reports the frame of the first, though its own file has none; and of two frames
requested one by one, the second comes out of the PCM ring and is not counted. -/
theorem wav_reports_differ :
    (∃ s : Sink (.reference false),
      RunsTo (fun _ _ => True)
        [.a2dp .streamStarted, .media (MediaPacket.plain 1 (List.replicate 12 7)).bytes .nominal, .a2dp .streamReleased,
          .a2dp .streamStarted, .a2dp .streamReleased] s ∧
      ¬ Throughout ReportsFrames s.calls) ∧
      ∃ s : Sink .twoFrames,
        RunsTo (fun _ _ => True)
          [.a2dp (.mediaCodecSbcConfiguration .stereo44100), .a2dp .streamStarted,
            .media (MediaPacket.plain 2 (List.replicate 12 7)).bytes .nominal, .playback (.blank 1),
            .playback (.blank 1), .a2dp .streamReleased] s ∧
        ¬ Throughout ReportsFrames s.calls := by
  refine ⟨⟨_, .cons trivial rfl (.cons trivial rfl (.cons trivial rfl (.cons trivial rfl (.cons trivial rfl
    (.nil _))))), fun h => ?_⟩, _, .cons trivial rfl (.cons trivial rfl (.cons trivial rfl (.cons trivial rfl
    (.cons trivial rfl (.cons trivial rfl (.nil _)))))), fun h => ?_⟩
  · have hreport : (1 : Nat) = 0 := h.get (i := 13) rfl
    cases hreport
  · have hreport : (1 : Nat) = 2 := h.get (i := 17) rfl
    cases hreport

end BtstackPort
