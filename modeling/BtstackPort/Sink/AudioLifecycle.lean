import BtstackPort.Lib.Lifecycle
import BtstackPort.Sink.Session
/-!
# Lifecycle of the audio sink and the WAV file

`media_initialized` and `audio_stream_started` are the phase of the audio sink, and `media_initialized` is that of
the WAV file: every call the code makes through either is in order for the automaton `Lifecycle.step`.
-/

namespace BtstackPort

open FaultMachine Lifecycle

variable {P : Platform}

def audioOp : Call → Option Op
  | .audioInit .. => some .init
  | .audioStartStream => some .start
  | .audioStopStream => some .stop
  | .audioClose => some .close
  | _ => none

def wavOp : Call → Option Op
  | .wavOpen .. => some .init
  | .wavClose => some .close
  | _ => none

/-- The calls through the audio sink instance, in order. -/
def audioTrace (calls : List Call) : List Op := calls.filterMap audioOp

/-- `wav_writer_open` and `wav_writer_close`, in order. -/
def wavTrace (calls : List Call) : List Op := calls.filterMap wavOp

def Sink.audioPhase (s : Sink P) : Phase :=
  if P.audioSink && s.mediaInitialized then if s.audioStreamStarted then .running else .idle else .closed

def Sink.wavPhase (s : Sink P) : Phase := if P.storeToWavFile && s.mediaInitialized then .idle else .closed

/-- The flags are the phases the calls so far lead to. -/
structure InOrder (s : Sink P) : Prop where
  audio : Lifecycle.run .closed (audioTrace s.calls) = some s.audioPhase
  wav : Lifecycle.run .closed (wavTrace s.calls) = some s.wavPhase

theorem inOrder_initial : InOrder (Sink.initial P) := by
  constructor
  · simp [Sink.initial, audioTrace, Sink.audioPhase, Lifecycle.run]
  · simp [Sink.initial, wavTrace, Sink.wavPhase, Lifecycle.run]

/-- New calls are in order when they lead from the old phases to the new ones. -/
theorem InOrder.extend {s t : Sink P} {cs : List Call} (h : InOrder s) (hlog : Extends s t cs)
    (haudio : Lifecycle.run s.audioPhase (audioTrace cs) = some t.audioPhase)
    (hwav : Lifecycle.run s.wavPhase (wavTrace cs) = some t.wavPhase) : InOrder t := by
  unfold Extends at hlog
  constructor
  · rw [hlog, audioTrace, List.filterMap_append]
    exact run_append_eq_some.2 ⟨_, h.audio, haudio⟩
  · rw [hlog, wavTrace, List.filterMap_append]
    exact run_append_eq_some.2 ⟨_, h.wav, hwav⟩

/-- Calls through neither interface, flags unchanged. -/
theorem InOrder.of_silent {s t : Sink P} {cs : List Call} (h : InOrder s) (hlog : Extends s t cs)
    (hcs : ∀ c ∈ cs, audioOp c = none ∧ wavOp c = none) (hm : t.mediaInitialized = s.mediaInitialized)
    (ha : t.audioStreamStarted = s.audioStreamStarted) : InOrder t := by
  have haudio : audioTrace cs = [] := List.filterMap_eq_nil_iff.2 fun c hc => (hcs c hc).1
  have hwav : wavTrace cs = [] := List.filterMap_eq_nil_iff.2 fun c hc => (hcs c hc).2
  refine h.extend hlog ?_ ?_
  · rw [haudio, Sink.audioPhase, Sink.audioPhase, hm, ha]; rfl
  · rw [hwav, Sink.wavPhase, Sink.wavPhase, hm]; rfl

theorem Call.IsPlayback.silent {c : Call} (h : c.IsPlayback) : audioOp c = none ∧ wavOp c = none := by
  cases c <;> simp_all [Call.IsPlayback, Call.IsPcm, audioOp, wavOp]

theorem Call.IsDrift.silent {c : Call} (h : c.IsDrift) : audioOp c = none ∧ wavOp c = none := by
  cases c <;> simp_all [Call.IsDrift, audioOp, wavOp]

/-! ## Every step is in order -/

theorem mediaProcessingInit_inOrder (c : SbcConfiguration) {s : Sink P} (h : InOrder s) :
    InOrder (mediaProcessingInit c s) := by
  by_cases hm : s.mediaInitialized
  · rw [mediaProcessingInit_of_initialized hm]; exact h
  · simp only [mediaProcessingInit, hm, Bool.false_eq_true, if_false]
    refine h.extend rfl ?_ ?_
    · unfold mediaProcessingInitCalls wavCalls audioCalls
      by_cases ha : P.audioSink <;> by_cases hw : P.storeToWavFile <;>
        simp [ha, hw, hm, audioTrace, List.filterMap_cons, audioOp, Sink.audioPhase, Lifecycle.run, Lifecycle.step]
    · unfold mediaProcessingInitCalls wavCalls audioCalls
      by_cases ha : P.audioSink <;> by_cases hw : P.storeToWavFile <;>
        simp [ha, hw, hm, wavTrace, List.filterMap_cons, wavOp, Sink.wavPhase, Lifecycle.run, Lifecycle.step]

theorem mediaProcessingPause_inOrder {s : Sink P} (h : InOrder s) : InOrder (mediaProcessingPause s) := by
  by_cases hm : s.mediaInitialized
  · simp only [mediaProcessingPause, hm, Bool.not_true, Bool.false_eq_true, if_false]
    refine h.extend (List.append_assoc _ _ _) ?_ ?_
    · unfold audioCalls
      by_cases ha : P.audioSink <;> by_cases hs : s.audioStreamStarted <;>
        simp [ha, hs, hm, audioTrace, List.filterMap_cons, audioOp, Sink.audioPhase, Lifecycle.run, Lifecycle.step]
    · unfold audioCalls
      by_cases ha : P.audioSink <;>
        simp [ha, hm, wavTrace, List.filterMap_cons, wavOp, Sink.wavPhase, Lifecycle.run]
  · rw [mediaProcessingPause_of_closed (by simpa using hm)]; exact h

theorem mediaProcessingClose_inOrder {s : Sink P} (h : InOrder s) : InOrder (mediaProcessingClose s) := by
  by_cases hm : s.mediaInitialized
  · simp only [mediaProcessingClose, hm, Bool.not_true, Bool.false_eq_true, if_false]
    refine h.extend (List.append_assoc _ _ _) ?_ ?_
    · unfold wavCalls audioCalls
      by_cases ha : P.audioSink <;> by_cases hw : P.storeToWavFile <;> by_cases hs : s.audioStreamStarted <;>
        simp [ha, hw, hs, hm, audioTrace, List.filterMap_cons, audioOp, Sink.audioPhase, Lifecycle.run,
          Lifecycle.step]
    · unfold wavCalls audioCalls
      by_cases ha : P.audioSink <;> by_cases hw : P.storeToWavFile <;>
        simp [ha, hw, hm, wavTrace, List.filterMap_cons, wavOp, Sink.wavPhase, Lifecycle.run, Lifecycle.step]
  · rw [mediaProcessingClose_of_closed (by simpa using hm)]; exact h

theorem a2dp_inOrder {e : A2dpEvent} {s t : Sink P} (hs : InOrder s) (h : a2dpSinkPacketHandler e s = .ok t) :
    InOrder t := by
  refine a2dpSinkPacketHandler_rule h ?_ ?_ ?_ ?_ hs
  · intro u connection addr hu
    exact ⟨hu.audio, hu.wav⟩
  · intro u _ _ hu
    exact mediaProcessingInit_inOrder _ hu
  · intro u hu
    exact mediaProcessingPause_inOrder hu
  · intro u hu
    exact mediaProcessingClose_inOrder hu

/-- A packet starts the stream only when it is initialised and has not been started. -/
theorem media_inOrder {packet : List UInt8} {now : Readings} {s t : Sink P} (hs : InOrder s)
    (h : handleL2capMediaDataPacket packet now s = .ok t) : InOrder t := by
  rcases handleL2capMediaDataPacket_cases h with ⟨-, rfl⟩ | ⟨hd, payload, -, ⟨-, hq⟩ | ⟨hsink, hq⟩⟩
  · exact hs
  · obtain ⟨hsame, -, cs, hlog, hcs⟩ := decodeSigned16_spec hq
    refine hs.of_silent hlog (fun c hc => ?_) hsame.mediaInitialized hsame.audioStreamStarted
    rcases List.mem_cons.1 hc with rfl | hc
    · exact ⟨rfl, rfl⟩
    · exact (hcs c hc).isPlayback.silent
  · obtain ⟨-, -, hsame, ds, cs, hds, hlog, hstart⟩ := queuePayload_spec hq
    have hm : t.mediaInitialized = s.mediaInitialized := hsame.mediaInitialized
    have haudio : audioTrace ds = [] := List.filterMap_eq_nil_iff.2 fun c hc => (hds c hc).silent.1
    have hwav : wavTrace ds = [] := List.filterMap_eq_nil_iff.2 fun c hc => (hds c hc).silent.2
    unfold audioTrace at haudio
    unfold wavTrace at hwav
    rcases hstart with ⟨⟨hi, hns, -⟩, hst, rfl⟩ | ⟨-, hst, rfl⟩
    · refine hs.extend hlog ?_ ?_
      · unfold mediaProcessingStartCalls audioCalls
        by_cases hc : P.effectiveSamplerate <;>
          simp [hc, hsink, haudio, hm, hi, hns, hst, audioTrace, List.filterMap_cons, audioOp, Sink.audioPhase,
            Lifecycle.run, Lifecycle.step]
      · unfold mediaProcessingStartCalls audioCalls
        by_cases hc : P.effectiveSamplerate <;>
          simp [hc, hsink, hwav, hm, hi, wavTrace, List.filterMap_cons, wavOp, Sink.wavPhase, Lifecycle.run]
    · refine hs.extend hlog ?_ ?_
      · simp [haudio, hm, hst, audioTrace, List.filterMap_cons, audioOp, Sink.audioPhase, Lifecycle.run]
      · simp [hwav, hm, wavTrace, List.filterMap_cons, wavOp, Sink.wavPhase, Lifecycle.run]

theorem run_inOrder {ok : Sink P → SinkEvent → Prop} {es : List SinkEvent} {s : Sink P} (h : RunsTo ok es s) :
    InOrder s := by
  refine Run.inv ?_ h inOrder_initial
  intro s e t hs _ he
  cases e with
  | a2dp e => exact a2dp_inOrder hs he
  | media packet now => exact media_inOrder hs he
  | playback r =>
    obtain ⟨hsame, k, cs, -, -, -, hlog, hcs, -⟩ := playbackHandler_spec he
    exact hs.of_silent hlog (fun c hc => (hcs c hc).silent) hsame.mediaInitialized hsame.audioStreamStarted

/-- **Lifecycle**: in every run, the calls through the audio sink are well bracketed, the WAV file is opened and
closed in turn, and the stream is started only while media processing is initialised. -/
theorem audio_lifecycle {ok : Sink P → SinkEvent → Prop} {es : List SinkEvent} {s : Sink P} (h : RunsTo ok es s) :
    WellBracketed (audioTrace s.calls) ∧ Alternate .init .close (wavTrace s.calls) ∧
      (s.audioStreamStarted = true → s.mediaInitialized = true) := by
  have hs := run_inOrder h
  refine ⟨wellBracketed_of_run hs.audio, ?_, (run_session h).started⟩
  have halt := (wellBracketed_of_run hs.wav).alternate
  -- the WAV file is neither started nor stopped
  have hall : (wavTrace s.calls).filter Op.isBoundary = wavTrace s.calls := by
    rw [List.filter_eq_self]
    intro op hop
    obtain ⟨c, -, hc⟩ := List.mem_filterMap.1 hop
    cases c <;> cases hc <;> rfl
  rw [hall] at halt
  exact halt

/-- A stream starts, is suspended and released, and another one starts. -/
theorem audio_lifecycle_twice :
    ∃ s : Sink (.reference true),
      RunsTo (fun _ _ => True)
        (startedStream ++ .a2dp .streamSuspended :: .a2dp .streamReleased :: startedStream) s ∧
      audioTrace s.calls = [.init, .start, .stop, .close, .init, .start] ∧
      WellBracketed (audioTrace s.calls) ∧ Alternate .init .close (wavTrace s.calls) ∧
        (s.audioStreamStarted = true → s.mediaInitialized = true) := by
  obtain ⟨s, hs, htrace⟩ : ∃ s : Sink (.reference true),
      RunsTo (fun _ _ => True)
        (startedStream ++ .a2dp .streamSuspended :: .a2dp .streamReleased :: startedStream) s ∧
      audioTrace s.calls = [.init, .start, .stop, .close, .init, .start] :=
    ⟨_, .cons trivial rfl (.cons trivial rfl (.cons trivial rfl (.cons trivial rfl (.cons trivial rfl (.cons trivial rfl
      (.cons trivial rfl (.cons trivial rfl (.cons trivial rfl (.cons trivial rfl (.cons trivial rfl (.cons trivial rfl
        (.cons trivial rfl (.cons trivial rfl (.nil _)))))))))))))), rfl⟩
  exact ⟨s, hs, htrace, audio_lifecycle hs⟩

end BtstackPort
