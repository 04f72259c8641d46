import BtstackPort.Sink.FrameIntegrity
import BtstackPort.Sink.Session
/-!
# Filling the queue until the stream starts

Until `OPTIMAL_FRAMES_MIN` frames are queued the stream is not started, and nothing is taken out of the queue
for playback. The ring has room for 110 frames of any size; a packet brings at most 15. So, as long as all
packets between two resets carry frames of one size, no packet is lost while the stream waits, and the packet that
completes the 60th frame starts it.
-/

namespace BtstackPort

open FaultMachine

variable {P : Platform}

/-! ## A stream that waits is not due to start -/

theorem sbcFramesInBuffer_eq (s : Sink P) : s.sbcFramesInBuffer = s.sbcBytes.length / s.sbcFrameSize := by
  rw [Sink.sbcFramesInBuffer, P.ring.available_eq]

/-- An initialised stream that has not been started is not due to be. -/
def NotDue (s : Sink P) : Prop :=
  s.mediaInitialized = true → s.audioStreamStarted = false → s.sbcFramesInBuffer < optimalFramesMin

theorem notDue_of_empty {s : Sink P} (h : s.sbcBytes = []) : NotDue s := by
  intro _ _
  rw [sbcFramesInBuffer_eq, h, List.length_nil, Nat.zero_div]
  decide

theorem notDue_of_closed {s : Sink P} (h : s.mediaInitialized = false) : NotDue s := by
  intro hm
  rw [h] at hm
  cases hm

theorem a2dp_notDue {e : A2dpEvent} {s t : Sink P} (hs : NotDue s) (h : a2dpSinkPacketHandler e s = .ok t) :
    NotDue t := by
  refine a2dpSinkPacketHandler_rule (I := NotDue) h ?_ ?_ ?_ ?_ hs
  · intro u _ _ hu
    exact hu
  · intro u _ _ hu
    by_cases hm : u.mediaInitialized
    · rw [mediaProcessingInit_of_initialized hm]; exact hu
    · apply notDue_of_empty
      simp [mediaProcessingInit, hm, Sink.sbcBytes]
  · intro u hu
    by_cases hm : u.mediaInitialized
    · apply notDue_of_empty
      simp [mediaProcessingPause, hm, Sink.sbcBytes]
    · rw [mediaProcessingPause_of_closed (by simpa using hm)]; exact hu
  · intro u _
    apply notDue_of_closed
    by_cases hm : u.mediaInitialized
    · simp [mediaProcessingClose, hm]
    · rw [mediaProcessingClose_of_closed (by simpa using hm)]; simpa using hm

/-- A packet that completes the 60th frame starts the stream, stored or not. -/
theorem queuePayload_notDue {h : AvdtpSbcCodecHeader} {payload : List UInt8} {now : Readings} {s t : Sink P}
    (hq : queuePayload h payload now s = .ok t) : NotDue t := by
  intro hm hns
  obtain ⟨-, -, hsame, ds, cs, -, -, hstart⟩ := queuePayload_spec hq
  rcases hstart with ⟨-, hst, -⟩ | ⟨hnot, hst, -⟩
  · rw [hst] at hns
    cases hns
  · by_contra hmin
    exact hnot ⟨hsame.mediaInitialized.symm.trans hm, hst.symm.trans hns, Nat.le_of_not_lt hmin⟩

theorem playbackHandler_notDue {r : AudioRequest} {s t : Sink P} (hs : NotDue s) (h : playbackHandler r s = .ok t) :
    NotDue t := by
  obtain ⟨hsame, k, cs, -, -, hbytes, -⟩ := playbackHandler_spec h
  intro hm hns
  rw [hsame.mediaInitialized] at hm
  rw [hsame.audioStreamStarted] at hns
  have hfew := hs hm hns
  rw [sbcFramesInBuffer_eq] at hfew ⊢
  rw [hsame.sbcFrameSize, hbytes, List.length_drop]
  exact Nat.lt_of_le_of_lt (Nat.div_le_div_right (Nat.sub_le _ _)) hfew

theorem step_notDue {e : SinkEvent} {s t : Sink P} (hs : NotDue s) (h : step s e = .ok t) : NotDue t := by
  cases e with
  | a2dp e => exact a2dp_notDue hs h
  | media packet now =>
    rcases handleL2capMediaDataPacket_cases h with ⟨-, rfl⟩ | ⟨hd, payload, -, ⟨-, hq⟩ | ⟨-, hq⟩⟩
    · exact hs
    · obtain ⟨hsame, hring, -⟩ := decodeSigned16_spec hq
      unfold NotDue
      rw [hsame.mediaInitialized, hsame.audioStreamStarted, Sink.sbcFramesInBuffer, hring, hsame.sbcFrameSize]
      exact hs
    · exact queuePayload_notDue hq
  | playback r => exact playbackHandler_notDue hs h

theorem run_notDue {ok : Sink P → SinkEvent → Prop} {es : List SinkEvent} {s : Sink P} (h : RunsTo ok es s) :
    NotDue s := by
  refine Run.inv ?_ h (notDue_of_empty P.ring.contents_zero)
  intro s e t hs _ he
  exact step_notDue hs he

/-! ## Frames of one size between resets -/

/-- Media packets arrive only while media processing is initialised and carry 1 to 15 whole frames of the size that
belongs to the current epoch. A packet may be too short to pass the header checks. -/
def WholeFrames (size : Nat → Nat) (s : Sink P) : SinkEvent → Prop
  | .media packet _ =>
    s.mediaInitialized = true ∧ 1 ≤ epochSize size s ∧ epochSize size s ≤ maxSbcFrameSize ∧
      ∃ m : MediaPacket, packet = m.bytes ∧ 1 ≤ m.numFrames ∧
        m.payload.length = m.numFrames * epochSize size s
  | _ => True

structure Waiting (size : Nat → Nat) (s : Sink P) : Prop where
  session : Session s
  /-- With bytes queued, the global is the size of the epoch. -/
  frameSize : s.mediaInitialized = true → s.sbcBytes ≠ [] → s.sbcFrameSize = epochSize size s
  few : s.mediaInitialized = true → s.audioStreamStarted = false → s.sbcFramesInBuffer < optimalFramesMin

/-- An empty ring waits. -/
theorem waiting_of_empty {size : Nat → Nat} {s : Sink P} (hs : Session s) (h : s.sbcBytes = []) :
    Waiting size s := by
  exact ⟨hs, fun _ hne => absurd h hne, notDue_of_empty h⟩

/-- Nothing can be said, or need be, once the pipeline is closed. -/
theorem waiting_of_closed {size : Nat → Nat} {s : Sink P} (hs : Session s) (h : s.mediaInitialized = false) :
    Waiting size s := by
  refine ⟨hs, fun hm => ?_, notDue_of_closed h⟩
  rw [h] at hm
  cases hm

theorem a2dp_waiting {size : Nat → Nat} {e : A2dpEvent} {s t : Sink P} (hs : Waiting size s)
    (h : a2dpSinkPacketHandler e s = .ok t) : Waiting size t := by
  refine a2dpSinkPacketHandler_rule (I := Waiting size) h ?_ ?_ ?_ ?_ hs
  · intro u connection addr hu
    have hsession : Session { u with a2dpConnection := connection, deviceAddr := addr } := hu.session.of_connection
    exact ⟨hsession, hu.frameSize, hu.few⟩
  · intro u _ _ hu
    by_cases hm : u.mediaInitialized
    · rw [mediaProcessingInit_of_initialized hm]; exact hu
    · apply waiting_of_empty (hu.session.init _)
      simp [mediaProcessingInit, hm, Sink.sbcBytes]
  · intro u hu
    by_cases hm : u.mediaInitialized
    · apply waiting_of_empty hu.session.pause
      simp [mediaProcessingPause, hm, Sink.sbcBytes]
    · rw [mediaProcessingPause_of_closed (by simpa using hm)]; exact hu
  · intro u hu
    apply waiting_of_closed hu.session.close
    by_cases hm : u.mediaInitialized
    · simp [mediaProcessingClose, hm]
    · rw [mediaProcessingClose_of_closed (by simpa using hm)]; simpa using hm

/-- While the stream waits there is room for one more packet. -/
theorem Waiting.hasRoom {size : Nat → Nat} {s : Sink P} (h : Waiting size s) (hm : s.mediaInitialized = true)
    (hns : s.audioStreamStarted = false) (hpos : 1 ≤ epochSize size s) (hle : epochSize size s ≤ maxSbcFrameSize)
    {payload : List UInt8} {n : Nat} (hn : n ≤ 15) (hlen : payload.length = n * epochSize size s) :
    s.HasRoom payload := by
  have hqueued : s.sbcBytes.length ≤ optimalFramesMin * epochSize size s := by
    by_cases hne : s.sbcBytes = []
    · rw [hne, List.length_nil]; exact Nat.zero_le _
    · have hfew := h.few hm hns
      rw [sbcFramesInBuffer_eq, h.frameSize hm hne, Nat.div_lt_iff_lt_mul (by omega)] at hfew
      omega
  have hpayload : payload.length ≤ 15 * epochSize size s := by rw [hlen]; exact Nat.mul_le_mul_right _ hn
  unfold Sink.HasRoom
  rw [(h.session.setUp hm).sbcCapacity]
  simp only [sbcFrameStorageSize, optimalFramesMin, optimalFramesMax, additionalFrames, maxSbcFrameSize] at *
  omega

theorem start_mem_iff {ds cs : List Call} {data : List UInt8} {status : Nat} (hds : ∀ c ∈ ds, c.IsDrift) :
    Call.audioStartStream ∈ .ringWrite .sbcFrame data status :: ds ++ cs ↔ Call.audioStartStream ∈ cs := by
  have hno : Call.audioStartStream ∉ ds := fun h => hds _ h
  simp [hno]

theorem start_mem_startCalls (hsink : P.audioSink = true) :
    Call.audioStartStream ∈ mediaProcessingStartCalls P := by
  simp [mediaProcessingStartCalls, audioCalls, hsink]

/-- What one packet does. -/
structure Handled (packet : List UInt8) (s t : Sink P) (cs : List Call) : Prop where
  log : Extends s t cs
  /-- "Error storing samples in SBC ring buffer!!!" is not printed while the stream waits. -/
  stored : s.audioStreamStarted = false →
    ∀ data status, Call.ringWrite .sbcFrame data status ∈ cs → status = 0
  /-- While the stream waits, and later when there is room, the payload is queued behind what the ring held. -/
  queued : ∀ sbcHeader payload, mediaPayload P packet = some (sbcHeader, payload) →
    s.audioStreamStarted = false ∨ s.HasRoom payload → t.sbcBytes = s.sbcBytes ++ payload
  starts : Call.audioStartStream ∈ cs ↔ s.audioStreamStarted = false ∧ optimalFramesMin ≤ t.sbcFramesInBuffer

/-- Queueing whole frames of the epoch's size sets the global to that size. -/
theorem queuePayload_frameSize {size : Nat → Nat} {h : AvdtpSbcCodecHeader} {payload : List UInt8} {now : Readings}
    {s t : Sink P} (hq : queuePayload h payload now s = .ok t) (hnum : 1 ≤ h.numFrames)
    (hlen : payload.length = h.numFrames * epochSize size s) : t.sbcFrameSize = epochSize size t := by
  have hepoch : epochSize size t = epochSize size s := by
    rw [epochSize, queuePayload_epoch hq, SbcEpoch.record]
    split <;> rfl
  rw [hepoch, (queuePayload_spec hq).2.2.1.sbcFrameSize]
  show payload.length / h.numFrames = _
  rw [hlen, Nat.mul_div_cancel_left _ hnum]

/-- A payload that fits while the stream waits is stored, and starts the stream at the threshold. -/
theorem queuePayload_handled (hsink : P.audioSink = true) {packet : List UInt8} {h : AvdtpSbcCodecHeader}
    {payload : List UInt8} {now : Readings} {s t : Sink P} (hp : mediaPayload P packet = some (h, payload))
    (hm : s.mediaInitialized = true) (hroom : s.audioStreamStarted = false → s.HasRoom payload)
    (hq : queuePayload h payload now s = .ok t) : ∃ cs, Handled packet s t cs := by
  obtain ⟨-, -, -, ds, cs, hds, hlog, hstart⟩ := queuePayload_spec hq
  refine ⟨_, hlog, fun hns data status hmem => ?_, fun sbcHeader payload' hp' hfits => ?_, ?_⟩
  · simp only [List.cons_append, List.mem_cons, List.mem_append] at hmem
    rcases hmem with heq | hmem | hmem
    · cases heq
      exact (P.ring.write_status _ _).2 (hroom hns)
    · exact absurd (hds _ hmem) id
    · rcases hstart with ⟨-, -, rfl⟩ | ⟨-, -, rfl⟩
      · rcases mem_mediaProcessingStartCalls hmem with heq | heq <;> cases heq
      · cases hmem
  · obtain ⟨rfl, rfl⟩ : h = sbcHeader ∧ payload = payload' := by simpa [hp] using hp'
    rw [queuePayload_bytes hq, if_pos (hfits.elim hroom id)]
  · rw [start_mem_iff hds]
    rcases hstart with ⟨hS, -, rfl⟩ | ⟨hS, -, rfl⟩
    · exact ⟨fun _ => ⟨hS.2.1, hS.2.2⟩, fun _ => start_mem_startCalls hsink⟩
    · constructor
      · intro h; cases h
      · rintro ⟨hns, hmin⟩
        exact absurd ⟨hm, hns, hmin⟩ hS

theorem media_waiting (hsink : P.audioSink = true) {size : Nat → Nat} {packet : List UInt8} {now : Readings}
    {s : Sink P} (hok : WholeFrames size s (.media packet now)) (hs : Waiting size s) :
    ∃ t cs, handleL2capMediaDataPacket packet now s = .ok t ∧ Waiting size t ∧ Handled packet s t cs := by
  obtain ⟨hm, hpos, hle, m, rfl, hn, hlen⟩ := hok
  rcases m.mediaPayload_bytes (P := P) with ⟨-, hp⟩ | ⟨-, hd, hp, hnum⟩
  · -- too short: nothing happens, and nothing was due to start
    refine ⟨s, [], ?_, hs, (List.append_nil _).symm, by simp, by simp [hp], ?_⟩
    · unfold handleL2capMediaDataPacket
      rw [hp]
    · constructor
      · intro h; cases h
      · rintro ⟨hns, hmin⟩
        have hfew := hs.few hm hns
        omega
  · have hmul : m.numFrames * 1 ≤ m.numFrames * epochSize size s := Nat.mul_le_mul_left _ hpos
    obtain ⟨t, hq⟩ : ∃ t, queuePayload hd m.payload now s = .ok t :=
      queuePayload_returns.2 ⟨by rw [hnum]; omega, by rw [hnum, hlen]; omega⟩
    have ht : handleL2capMediaDataPacket m.bytes now s = .ok t := by
      unfold handleL2capMediaDataPacket
      rw [hp]
      simpa [hsink] using hq
    have hsize := queuePayload_frameSize hq (by rw [hnum]; exact hn) (by rw [hnum]; exact hlen)
    obtain ⟨cs, hhandled⟩ := queuePayload_handled hsink hp hm
      (fun hns => hs.hasRoom hm hns hpos hle Nat.and_le_right hlen) hq
    exact ⟨t, cs, ht, ⟨media_session hs.session ht, fun _ _ => hsize, queuePayload_notDue hq⟩, hhandled⟩

theorem playback_waiting {size : Nat → Nat} {r : AudioRequest} {s t : Sink P} (hs : Waiting size s)
    (h : playbackHandler r s = .ok t) : Waiting size t := by
  obtain ⟨hsame, k, cs, -, -, hbytes, hlog, hcs, -⟩ := playbackHandler_spec h
  have hresets : epochSize size t = epochSize size s := by
    rw [epochSize, sbcEpoch_extends hlog, record_playback hcs]
  refine ⟨hs.session.of_same hsame (playbackHandler_whole h hs.session.whole), fun hm hne => ?_,
    playbackHandler_notDue hs.few h⟩
  rw [hsame.mediaInitialized] at hm
  rw [hresets, hsame.sbcFrameSize]
  refine hs.frameSize hm fun h0 => hne ?_
  rw [hbytes, h0, List.drop_nil]

theorem run_waiting (hsink : P.audioSink = true) {size : Nat → Nat} {es : List SinkEvent} {s : Sink P}
    (h : RunsTo (WholeFrames size) es s) : Waiting size s := by
  refine Run.inv ?_ h (waiting_of_empty session_initial P.ring.contents_zero)
  intro s e t hs hok he
  cases e with
  | a2dp e => exact a2dp_waiting hs he
  | media packet now =>
    obtain ⟨u, cs, hu, hwaiting, -⟩ := media_waiting hsink hok hs
    rw [show handleL2capMediaDataPacket packet now s = .ok t from he] at hu
    cases hu
    exact hwaiting
  | playback r => exact playback_waiting hs he

/-- **Start-up**: in every run that keeps the promise, an initialised stream that waits has fewer than 60 frames
queued; and every further packet is handled, is not rejected but queued whole while the stream waits, and starts the
stream exactly when it waits and 60 frames are queued. -/
theorem startup (hsink : P.audioSink = true) {size : Nat → Nat} {es : List SinkEvent} {s : Sink P}
    (h : RunsTo (WholeFrames size) es s) :
    (s.mediaInitialized = true → s.sbcBytes ≠ [] → s.sbcFrameSize = epochSize size s) ∧
      (s.mediaInitialized = true → s.audioStreamStarted = false → s.sbcFramesInBuffer < optimalFramesMin) ∧
      ∀ packet now, WholeFrames size s (.media packet now) →
        ∃ t cs, handleL2capMediaDataPacket packet now s = .ok t ∧ Handled packet s t cs := by
  have hs := run_waiting hsink h
  refine ⟨hs.frameSize, hs.few, fun packet now hok => ?_⟩
  obtain ⟨t, cs, ht, -, hhandled⟩ := media_waiting hsink hok hs
  exact ⟨t, cs, ht, hhandled⟩

/-- The sample run keeps the promise with frames of 6 bytes. -/
theorem startup_sampleRun :
    ∃ s : Sink (.reference true), RunsTo (WholeFrames fun _ => 6) sampleRun s ∧
      (s.mediaInitialized = true → s.sbcBytes ≠ [] → s.sbcFrameSize = epochSize (fun _ => 6) s) ∧
        (s.mediaInitialized = true → s.audioStreamStarted = false → s.sbcFramesInBuffer < optimalFramesMin) ∧
        ∀ packet now, WholeFrames (fun _ => 6) s (.media packet now) →
          ∃ t cs, handleL2capMediaDataPacket packet now s = .ok t ∧ Handled packet s t cs := by
  obtain ⟨s, hs⟩ : ∃ s : Sink (.reference true), RunsTo (WholeFrames fun _ => 6) sampleRun s :=
    ⟨_, .cons trivial rfl (.cons trivial rfl (.cons ⟨rfl, by decide, by decide, _, rfl, by decide, rfl⟩ rfl
      (.cons trivial rfl (.nil _))))⟩
  exact ⟨s, hs, startup rfl hs⟩

end BtstackPort
