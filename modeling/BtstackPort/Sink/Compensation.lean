import BtstackPort.Lib.Trace
import BtstackPort.Sink.Session
/-!
# Sample rate compensation

In the build with an effective sample rate, `media_processing_start` resets the compensation, the next media packet
initialises it (`l2cap_stream_started`) and every packet from then on updates it. `media_processing_pause` and
`close` clear both flags; `media_processing_init` clears only `audio_stream_started`, but by then the other is clear as
well.

The rule is stated on the log. `StreamCompensated n`: since the stream was last started (`compensationReset`), it has
not been stopped and the compensation was initialised `n` times.
-/

namespace BtstackPort

open FaultMachine Trace

variable {P : Platform}

/-- Calls that end a started stream. -/
def Call.EndsStream : Call → Prop
  | .audioStopStream | .audioClose => True
  | _ => False

def Call.isCompensationReset : Call → Bool
  | .compensationReset => true
  | _ => false

def Call.isCompensationInit : Call → Bool
  | .compensationInit _ => true
  | _ => false

def StreamCompensated (n : Nat) (calls : List Call) : Prop :=
  ∃ before after, calls = before ++ .compensationReset :: after ∧ after.countP Call.isCompensationReset = 0 ∧
    (∀ c ∈ after, ¬ c.EndsStream) ∧ after.countP Call.isCompensationInit = n

/-- The compensation is initialised once for each start, and updated only after that. -/
def CompensationRule (before : List Call) : Call → Prop
  | .compensationInit _ => StreamCompensated 0 before
  | .compensationUpdate _ => StreamCompensated 1 before
  | _ => True

/-- The flags agree with the log. -/
structure CompensationInOrder (s : Sink P) : Prop where
  log : Throughout CompensationRule s.calls
  started : s.audioStreamStarted = true → StreamCompensated (if s.l2capStreamStarted then 1 else 0) s.calls
  l2cap : s.l2capStreamStarted = true → s.audioStreamStarted = true
  audio : s.audioStreamStarted = true → s.mediaInitialized = true

/-- Calls that have nothing to do with the compensation and do not end a stream. -/
def Call.IsNeutral : Call → Prop
  | .compensationInit _ | .compensationUpdate _ | .compensationReset | .audioStopStream | .audioClose => False
  | _ => True

theorem StreamCompensated.append {n : Nat} {calls cs : List Call} (h : StreamCompensated n calls)
    (hcs : ∀ c ∈ cs, ¬ c.isCompensationReset ∧ ¬ c.EndsStream) :
    StreamCompensated (n + cs.countP Call.isCompensationInit) (calls ++ cs) := by
  obtain ⟨before, after, rfl, hreset, hends, hinit⟩ := h
  refine ⟨before, after ++ cs, by simp, ?_, ?_, ?_⟩
  · rw [List.countP_append, hreset, Nat.zero_add, List.countP_eq_zero]
    intro c hc
    exact (hcs c hc).1
  · intro c hc
    rcases List.mem_append.1 hc with hc | hc
    · exact hends c hc
    · exact (hcs c hc).2
  · rw [List.countP_append, hinit]

theorem Call.IsNeutral.spec {c : Call} (h : c.IsNeutral) :
    ¬ c.isCompensationReset ∧ ¬ c.EndsStream ∧ c.isCompensationInit = false ∧ ∀ before, CompensationRule before c := by
  cases c <;> simp_all [Call.IsNeutral, Call.isCompensationReset, Call.EndsStream, Call.isCompensationInit,
    CompensationRule]

theorem Call.IsPlayback.neutral {c : Call} (h : c.IsPlayback) : c.IsNeutral := by
  cases c <;> simp_all [Call.IsPlayback, Call.IsPcm, Call.IsNeutral]

/-- Neutral calls, flags unchanged. -/
theorem CompensationInOrder.of_neutral {s t : Sink P} {cs : List Call} (h : CompensationInOrder s)
    (hlog : Extends s t cs) (hcs : ∀ c ∈ cs, c.IsNeutral) (hm : t.mediaInitialized = s.mediaInitialized)
    (ha : t.audioStreamStarted = s.audioStreamStarted) (hl : t.l2capStreamStarted = s.l2capStreamStarted) :
    CompensationInOrder t := by
  unfold Extends at hlog
  refine ⟨?_, ?_, ?_, ?_⟩
  · rw [hlog]
    exact h.log.append_free fun c hc => (hcs c hc).spec.2.2.2
  · intro hst
    rw [ha] at hst
    have hnone : cs.countP Call.isCompensationInit = 0 := by
      rw [List.countP_eq_zero]
      intro c hc
      simp [(hcs c hc).spec.2.2.1]
    have hquiet : ∀ c ∈ cs, ¬ c.isCompensationReset ∧ ¬ c.EndsStream := fun c hc =>
      ⟨(hcs c hc).spec.1, (hcs c hc).spec.2.1⟩
    have happ := (h.started hst).append hquiet
    rwa [hnone, Nat.add_zero, ← hlog, ← hl] at happ
  · rw [hl, ha]; exact h.l2cap
  · rw [ha, hm]; exact h.audio

/-- Flags cleared, by calls that are no compensation calls. -/
theorem CompensationInOrder.of_stopped {s t : Sink P} {cs : List Call} (h : CompensationInOrder s)
    (hlog : Extends s t cs) (hcs : ∀ c ∈ cs, ∀ before, CompensationRule before c)
    (ha : t.audioStreamStarted = false) (hl : t.l2capStreamStarted = false) : CompensationInOrder t := by
  unfold Extends at hlog
  refine ⟨?_, ?_, ?_, ?_⟩
  · rw [hlog]
    exact h.log.append_free hcs
  · intro hst
    rw [ha] at hst; cases hst
  · intro hst
    rw [hl] at hst; cases hst
  · intro hst
    rw [ha] at hst; cases hst

/-! ## A media packet -/

/-- An update, preceded by the initialisation when it is the first since the start. -/
theorem adjustDrift_compensation (numFrames sbcFramesInBuffer : Nat) (now : Readings) {u : Sink P}
    (hc : P.effectiveSamplerate = true) (h : CompensationInOrder u) :
    CompensationInOrder (adjustDrift numFrames sbcFramesInBuffer now u) := by
  unfold adjustDrift
  rw [if_pos hc]
  unfold updateSampleRateCompensation
  by_cases ha : u.audioStreamStarted
  · have hst := h.started ha
    by_cases hl : u.l2capStreamStarted
    · simp only [ha, hl, Bool.not_true, Bool.false_and, Bool.false_eq_true, if_false, if_true] at hst ⊢
      refine ⟨?_, ?_, ?_, ?_⟩
      · simp only [throughout_append, throughout_cons, throughout_nil]
        exact ⟨h.log, by simpa [CompensationRule] using hst, trivial, trivial⟩
      · intro _
        exact hst.append (by simp [Call.isCompensationReset, Call.EndsStream])
      · exact fun _ => rfl
      · exact fun _ => h.audio ha
    · simp only [ha, hl, Bool.not_false, Bool.true_and, Bool.false_eq_true, if_true, if_false] at hst ⊢
      -- the initialisation comes first, so the update sees it
      have hinit : StreamCompensated 1
          (u.calls ++ [.compensationInit u.a2dpConnection.sbcConfiguration.samplingFrequency]) :=
        hst.append (by simp [Call.isCompensationReset, Call.EndsStream])
      refine ⟨?_, ?_, ?_, ?_⟩
      · simp only [throughout_append, throughout_cons, throughout_nil]
        refine ⟨⟨h.log, ?_, trivial⟩, ?_, trivial, trivial⟩
        · simpa [CompensationRule] using hst
        · simpa [CompensationRule] using hinit
      · intro _
        exact hinit.append (by simp [Call.isCompensationReset, Call.EndsStream])
      · exact fun _ => rfl
      · exact fun _ => h.audio ha
  · simp only [ha, Bool.and_false, Bool.false_eq_true, if_false]
    exact h

/-- A start leads to a stream whose compensation has not been initialised yet. -/
theorem mediaProcessingStart_compensation {now : Readings} {u : Sink P} (hc : P.effectiveSamplerate = true)
    (ha : u.audioStreamStarted = false) (h : CompensationInOrder u) :
    CompensationInOrder (mediaProcessingStart now u) := by
  by_cases hm : u.mediaInitialized
  · have hl : u.l2capStreamStarted = false := by
      by_contra hl
      have := h.l2cap (by simpa using hl)
      rw [ha] at this; cases this
    simp only [mediaProcessingStart, hm, hc, Bool.not_true, Bool.false_eq_true, if_false, if_true]
    refine ⟨?_, ?_, ?_, ?_⟩
    · apply Throughout.append_free
      · apply h.log.append_free
        simp [CompensationRule]
      · intro c hc' before
        unfold audioCalls at hc'
        split at hc'
        · rw [List.mem_singleton.1 hc']; trivial
        · cases hc'
    · intro _
      refine ⟨u.calls, audioCalls P [.audioStartStream], by simp, ?_, ?_, ?_⟩
      · unfold audioCalls
        split <;> rfl
      · unfold audioCalls
        split <;> simp [Call.EndsStream]
      · unfold audioCalls
        simp only [hl, Bool.false_eq_true, if_false]
        split <;> rfl
    · exact fun _ => rfl
    · exact fun _ => rfl
  · rw [mediaProcessingStart_of_closed (by simpa using hm)]
    exact h

theorem queuePayload_compensation {sbcHeader : AvdtpSbcCodecHeader} {payload : List UInt8} {now : Readings}
    {s t : Sink P} (hc : P.effectiveSamplerate = true) (hs : CompensationInOrder s)
    (h : queuePayload sbcHeader payload now s = .ok t) : CompensationInOrder t := by
  refine queuePayload_rule h ?_ ?_ ?_ hs
  · intro u frameSize hu
    have hlog : Extends u (writePayload frameSize payload u)
        [.ringWrite .sbcFrame payload (P.ring.write u.sbcFrameRingBuffer payload).1] := rfl
    exact hu.of_neutral hlog (by simp [Call.IsNeutral]) rfl rfl rfl
  · intro u numFrames sbcFramesInBuffer hu
    exact adjustDrift_compensation numFrames sbcFramesInBuffer now hc hu
  · intro u ha hu
    exact mediaProcessingStart_compensation hc ha hu

/-- While the stream is stopped there is no update. -/
theorem queuePayload_updates {sbcHeader : AvdtpSbcCodecHeader} {payload : List UInt8} {now : Readings}
    {s t : Sink P} {cs : List Call} {samples : Nat} (hc : P.effectiveSamplerate = true)
    (h : queuePayload sbcHeader payload now s = .ok t) (hlog : Extends s t cs) (hu : .compensationUpdate samples ∈ cs) :
    s.audioStreamStarted = true ∧ t.audioStreamStarted = true := by
  obtain ⟨-, -, -, ds, es, -, hlog', hstart⟩ := queuePayload_spec h
  by_cases ha : s.audioStreamStarted
  · refine ⟨ha, ?_⟩
    rcases hstart with ⟨⟨-, hstopped, -⟩, -⟩ | ⟨-, hst, -⟩
    · rw [ha] at hstopped; cases hstopped
    · rw [hst]; exact ha
  · exfalso
    have hw : (writePayload (payload.length / sbcHeader.numFrames) payload s).audioStreamStarted = false := by
      simpa [writePayload] using ha
    have hwlog : Extends s (writePayload (payload.length / sbcHeader.numFrames) payload s)
        [.ringWrite .sbcFrame payload (P.ring.write s.sbcFrameRingBuffer payload).1] := rfl
    obtain ⟨-, -, w, rfl, rfl⟩ := queuePayload_eq_ok.1 h
    generalize writePayload (payload.length / sbcHeader.numFrames) payload s = w at hw hwlog hlog
    -- neither branch of the drift control applies to a stopped stream
    have hd : adjustDrift sbcHeader.numFrames w.sbcFramesInBuffer now w = w := by
      simp [adjustDrift, hc, updateSampleRateCompensation, hw]
    rw [hd] at hlog
    rcases startIfBuffered_cases w.sbcFramesInBuffer now w with ⟨⟨hm, -⟩, heq⟩ | ⟨-, heq⟩ <;> rw [heq] at hlog
    · rw [(hwlog.trans (mediaProcessingStart_of_initialized hm).2).unique hlog |>.symm] at hu
      rcases List.mem_append.1 hu with hu | hu
      · simp at hu
      · rcases mem_mediaProcessingStartCalls hu with hu | hu <;> cases hu
    · rw [hwlog.unique hlog |>.symm] at hu
      simp at hu

/-! ## Every step -/

theorem a2dp_compensation {e : A2dpEvent} {s t : Sink P} (hc : P.effectiveSamplerate = true)
    (hs : CompensationInOrder s) (h : a2dpSinkPacketHandler e s = .ok t) : CompensationInOrder t := by
  refine a2dpSinkPacketHandler_rule h ?_ ?_ ?_ ?_ hs
  · intro u connection addr hu
    exact ⟨hu.log, hu.started, hu.l2cap, hu.audio⟩
  · intro u _ _ hu
    by_cases hm : u.mediaInitialized
    · rw [mediaProcessingInit_of_initialized hm]
      exact hu
    · -- the stream of a closed session is stopped, so its compensation flag is clear
      have ha : u.audioStreamStarted = false := by
        by_contra ha
        exact hm (hu.audio (by simpa using ha))
      have hl : u.l2capStreamStarted = false := by
        by_contra hl
        have := hu.l2cap (by simpa using hl)
        rw [ha] at this; cases this
      refine hu.of_stopped (mediaProcessingInit_extends (by simpa using hm)) ?_ (by simp [mediaProcessingInit, hm])
        (by simp [mediaProcessingInit, hm, hl])
      intro c hc before
      rcases mem_mediaProcessingInitCalls hc with rfl | rfl | rfl | rfl | rfl <;> trivial
  · intro u hu
    by_cases hm : u.mediaInitialized
    · refine hu.of_stopped (mediaProcessingPause_extends hm) ?_ (by simp [mediaProcessingPause, hm])
        (by simp [mediaProcessingPause, hm, hc])
      intro c hc before
      rcases mem_mediaProcessingPauseCalls hc with rfl | rfl | rfl <;> trivial
    · rw [mediaProcessingPause_of_closed (by simpa using hm)]
      exact hu
  · intro u hu
    by_cases hm : u.mediaInitialized
    · refine hu.of_stopped (mediaProcessingClose_extends hm) ?_ (by simp [mediaProcessingClose, hm])
        (by simp [mediaProcessingClose, hm, hc])
      intro c hc before
      rcases mem_mediaProcessingCloseCalls hc with rfl | rfl | rfl <;> trivial
    · rw [mediaProcessingClose_of_closed (by simpa using hm)]
      exact hu

theorem media_compensation {packet : List UInt8} {now : Readings} {s t : Sink P} (hc : P.effectiveSamplerate = true)
    (hs : CompensationInOrder s) (h : handleL2capMediaDataPacket packet now s = .ok t) : CompensationInOrder t := by
  rcases handleL2capMediaDataPacket_cases h with ⟨-, rfl⟩ | ⟨hd, payload, -, ⟨-, hq⟩ | ⟨-, hq⟩⟩
  · exact hs
  · obtain ⟨hsame, -, cs, hlog, hcs⟩ := decodeSigned16_spec hq
    refine hs.of_neutral hlog ?_ hsame.mediaInitialized hsame.audioStreamStarted hsame.l2capStreamStarted
    intro c hc'
    rcases List.mem_cons.1 hc' with rfl | hc'
    · trivial
    · exact (hcs c hc').isPlayback.neutral
  · exact queuePayload_compensation hc hs hq

/-- Only a media packet updates the compensation, and only while the stream is started. -/
theorem step_updates {e : SinkEvent} {s t : Sink P} {cs : List Call} {samples : Nat}
    (hc : P.effectiveSamplerate = true) (h : step s e = .ok t) (hlog : Extends s t cs)
    (hu : .compensationUpdate samples ∈ cs) : s.audioStreamStarted = true ∧ t.audioStreamStarted = true := by
  cases e with
  | a2dp e =>
    obtain ⟨ds, hlog', hds⟩ := a2dp_session_calls h
    rw [hlog.unique hlog'] at hu
    cases hds _ hu
  | media packet now =>
    rcases handleL2capMediaDataPacket_cases h with ⟨-, rfl⟩ | ⟨hd, payload, -, ⟨-, hq⟩ | ⟨-, hq⟩⟩
    · have hnone : Extends t t [] := by simp [Extends]
      rw [hlog.unique hnone] at hu
      cases hu
    · obtain ⟨-, -, ds, hlog', hds⟩ := decodeSigned16_spec hq
      rw [hlog.unique hlog'] at hu
      rcases List.mem_cons.1 hu with hu | hu
      · cases hu
      · cases hds _ hu
    · exact queuePayload_updates hc hq hlog hu
  | playback r =>
    obtain ⟨-, k, ds, -, -, -, hlog', hds, -⟩ := playbackHandler_spec h
    rw [hlog.unique hlog'] at hu
    cases hds _ hu

theorem compensationInOrder_initial : CompensationInOrder (Sink.initial P) where
  log := throughout_nil
  started := by simp [Sink.initial]
  l2cap := by simp [Sink.initial]
  audio := by simp [Sink.initial]

theorem run_compensation {ok : Sink P → SinkEvent → Prop} {es : List SinkEvent} {s : Sink P}
    (hc : P.effectiveSamplerate = true) (h : RunsTo ok es s) : CompensationInOrder s := by
  refine Run.inv ?_ h compensationInOrder_initial
  intro s e t hs _ he
  cases e with
  | a2dp e => exact a2dp_compensation hc hs he
  | media packet now => exact media_compensation hc hs he
  | playback r =>
    obtain ⟨hsame, k, cs, -, -, -, hlog, hcs, -⟩ := playbackHandler_spec he
    exact hs.of_neutral hlog (fun c hc' => (hcs c hc').neutral) hsame.mediaInitialized hsame.audioStreamStarted
      hsame.l2capStreamStarted

/-- **Sample rate compensation**: in every run, each initialisation is the first since the stream was started, each
update comes after exactly one, both while the stream is started; and the three flags imply one another. -/
theorem compensation_in_order {ok : Sink P → SinkEvent → Prop} {es : List SinkEvent} {s : Sink P}
    (hc : P.effectiveSamplerate = true) (h : RunsTo ok es s) :
    Throughout CompensationRule s.calls ∧
      (∀ e t cs samples, step s e = .ok t → Extends s t cs → .compensationUpdate samples ∈ cs →
        s.audioStreamStarted = true ∧ t.audioStreamStarted = true) ∧
      (s.l2capStreamStarted = true → s.audioStreamStarted = true) ∧
      (s.audioStreamStarted = true → s.mediaInitialized = true) := by
  have hs := run_compensation hc h
  refine ⟨hs.log, ?_, hs.l2cap, hs.audio⟩
  intro e t cs samples he hlog hu
  exact step_updates hc he hlog hu

/-- The fourth packet starts the stream, the fifth initialises and updates the compensation. -/
theorem compensation_in_order_fifth :
    ∃ s : Sink .effective,
      RunsTo (fun _ _ => True) (.a2dp .streamStarted :: List.replicate 5 fifteenFrames) s ∧
      .compensationUpdate 1920 ∈ s.calls ∧ Throughout CompensationRule s.calls ∧
      (∀ e t cs samples, step s e = .ok t → Extends s t cs → .compensationUpdate samples ∈ cs →
        s.audioStreamStarted = true ∧ t.audioStreamStarted = true) ∧
      (s.l2capStreamStarted = true → s.audioStreamStarted = true) ∧
      (s.audioStreamStarted = true → s.mediaInitialized = true) := by
  obtain ⟨s, hs, hupdate⟩ : ∃ s : Sink .effective,
      RunsTo (fun _ _ => True) (.a2dp .streamStarted :: List.replicate 5 fifteenFrames) s ∧
      .compensationUpdate 1920 ∈ s.calls :=
    ⟨_, .cons trivial rfl (.cons trivial rfl (.cons trivial rfl (.cons trivial rfl (.cons trivial rfl
      (.cons trivial rfl (.nil _)))))), List.mem_of_getElem? (i := 13) rfl⟩
  exact ⟨s, hs, hupdate, compensation_in_order rfl hs⟩

end BtstackPort
