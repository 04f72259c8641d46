import BtstackPort.Lib.Component
import BtstackPort.Port.Refusal
/-!
# The audio path inside the port

The AVRCP and cover-art handlers and the console share two variables with the A2DP sink: the address for outgoing
connections, and the connection id that `a2dp_sink_establish_stream` stores. The sink reads neither, so the sink inside
the port runs on its own events alone (`audioPath_isolated`), whatever arrives in between.

The other way round the sink hands the rest of the port nothing but its connection record, which media packets and
playback requests leave alone: without them the port makes the same calls (`control_isolated`).
-/

namespace BtstackPort

open FaultMachine

variable {P : Platform}

/-! ## What the sink does not read -/

namespace Sink

/-- The two variables that others write. -/
def withPeer (addr : BdAddr) (cid : UInt16) (s : Sink P) : Sink P :=
  { s with a2dpConnection := { s.a2dpConnection with a2dpCid := cid }, deviceAddr := addr }

@[simp] theorem withPeer_self (s : Sink P) : s.withPeer s.deviceAddr s.a2dpConnection.a2dpCid = s := rfl

@[simp] theorem withPeer_withPeer (addr addr' : BdAddr) (cid cid' : UInt16) (s : Sink P) :
    (s.withPeer addr cid).withPeer addr' cid' = s.withPeer addr' cid' := rfl

end Sink

section WithPeer

variable (addr : BdAddr) (cid : UInt16)

theorem storeSurplus_withPeer (n : Nat) (surplus : List UInt8) (s : Sink P) :
    storeSurplus n surplus (s.withPeer addr cid) = (storeSurplus n surplus s).withPeer addr cid := by
  unfold storeSurplus
  split <;> rfl

theorem handlePcmData_withPeer (b : PcmBlock) (s : Sink P) :
    handlePcmData b (s.withPeer addr cid) = (handlePcmData b s).map (Sink.withPeer addr cid) := by
  unfold handlePcmData
  split
  · split <;> rfl
  · split
    · rename_i hover
      rw [if_pos (show outputBufferSize < (int16Bytes (resampleBlock b s).2.1).length from hover)]
      rfl
    · rename_i hfits
      rw [if_neg (show ¬ outputBufferSize < (int16Bytes (resampleBlock b s).2.1).length from hfits)]
      simp only
      split
      · rename_i hstore
        have hstore : Memory.store s.requestMem s.requestBuffer
            (outputBuffer b s 0 (framesToCopy b s * bytesPerFrame)) = none := hstore
        rw [hstore]
        rfl
      · rename_i requestMem hstore
        have hstore : Memory.store s.requestMem s.requestBuffer
            (outputBuffer b s 0 (framesToCopy b s * bytesPerFrame)) = some requestMem := hstore
        rw [hstore]
        exact congrArg Except.ok (storeSurplus_withPeer addr cid _ _ (advanceRequest b requestMem s))

theorem pcmCallbacks_withPeer (bs : List PcmBlock) (s : Sink P) :
    pcmCallbacks bs (s.withPeer addr cid) = (pcmCallbacks bs s).map (Sink.withPeer addr cid) := by
  induction bs generalizing s with
  | nil => rfl
  | cons b bs ih =>
    rw [pcmCallbacks, pcmCallbacks]
    exact bind_commutes (handlePcmData_withPeer addr cid b s) ih

theorem decodeSigned16_withPeer (buffer : List UInt8) (s : Sink P) :
    decodeSigned16 buffer (s.withPeer addr cid) = (decodeSigned16 buffer s).map (Sink.withPeer addr cid) := by
  cases hinst : s.sbcDecoderInstance with
  | true =>
    have hinst' : (s.withPeer addr cid).sbcDecoderInstance = true := hinst
    rw [decodeSigned16_of_instance hinst, decodeSigned16_of_instance hinst']
    exact pcmCallbacks_withPeer addr cid _ { s with
      sbcDecoderContext := (P.decoder.decodeSigned16 s.sbcDecoderContext buffer).1
      calls := s.calls ++ [.decode buffer] }
  | false =>
    have hinst' : (s.withPeer addr cid).sbcDecoderInstance = false := hinst
    simp [decodeSigned16, hinst, hinst', Except.map]

theorem decodeFrame_withPeer (s : Sink P) :
    decodeFrame (s.withPeer addr cid) = (decodeFrame s).map (Sink.withPeer addr cid) := by
  unfold decodeFrame
  split
  · rename_i hover
    rw [if_pos (show maxSbcFrameSize < s.sbcFrameSize from hover)]
    rfl
  · rename_i hfits
    rw [if_neg (show ¬ maxSbcFrameSize < s.sbcFrameSize from hfits)]
    exact decodeSigned16_withPeer addr cid (readSbcFrame s).1 (readSbcFrame s).2

theorem decodeLoop_withPeer (fuel : Nat) (s : Sink P) :
    decodeLoop fuel (s.withPeer addr cid) = (decodeLoop fuel s).map (Sink.withPeer addr cid) := by
  induction fuel generalizing s with
  | zero => rfl
  | succ fuel ih =>
    rw [decodeLoop, decodeLoop, show wantsFrame (s.withPeer addr cid) = wantsFrame s from rfl]
    split
    · exact bind_commutes (decodeFrame_withPeer addr cid s) ih
    · rfl

theorem fillFromPcmRing_withPeer (r : AudioRequest) (s : Sink P) :
    fillFromPcmRing r (s.withPeer addr cid) = (fillFromPcmRing r s).map (Sink.withPeer addr cid) := by
  unfold fillFromPcmRing
  simp only [Sink.withPeer]
  cases Memory.store r.buffer 0 (P.ring.read s.decodedAudioRingBuffer (r.numAudioFrames.toNat * bytesPerFrame)).1 <;> rfl

theorem writeWav_withPeer (r : AudioRequest) (n : Nat) (s : Sink P) :
    writeWav r n (s.withPeer addr cid) = (writeWav r n s).withPeer addr cid := by
  unfold writeWav
  split <;> rfl

theorem playbackHandler_withPeer (r : AudioRequest) (s : Sink P) :
    playbackHandler r (s.withPeer addr cid) = (playbackHandler r s).map (Sink.withPeer addr cid) := by
  unfold playbackHandler
  change (if s.sbcFrameSize = 0 then _ else _) = _
  split
  · rfl
  · refine bind_commutes (fillFromPcmRing_withPeer addr cid r s) fun t => ?_
    refine bind_commutes (decodeLoop_withPeer addr cid (P.ring.available t.sbcFrameRingBuffer) t) fun u => ?_
    exact congrArg Except.ok (writeWav_withPeer addr cid r t.requestFrames.toNat u)

theorem adjustDrift_withPeer (numFrames sbcFramesInBuffer : Nat) (now : Readings) (s : Sink P) :
    adjustDrift numFrames sbcFramesInBuffer now (s.withPeer addr cid) =
      (adjustDrift numFrames sbcFramesInBuffer now s).withPeer addr cid := by
  unfold adjustDrift
  split
  · cases hs : s.audioStreamStarted <;> cases hl : s.l2capStreamStarted <;>
      simp [updateSampleRateCompensation, Sink.withPeer, hs, hl]
  · rfl

theorem mediaProcessingStart_withPeer (now : Readings) (s : Sink P) :
    mediaProcessingStart now (s.withPeer addr cid) = (mediaProcessingStart now s).withPeer addr cid := by
  cases hm : s.mediaInitialized <;> cases he : P.effectiveSamplerate <;>
    simp [mediaProcessingStart, Sink.withPeer, hm, he]

theorem startIfBuffered_withPeer (sbcFramesInBuffer : Nat) (now : Readings) (s : Sink P) :
    startIfBuffered sbcFramesInBuffer now (s.withPeer addr cid) =
      (startIfBuffered sbcFramesInBuffer now s).withPeer addr cid := by
  unfold startIfBuffered
  rw [mediaProcessingStart_withPeer]
  exact (apply_ite (Sink.withPeer addr cid) _ _ _).symm

theorem queuePayload_withPeer (sbcHeader : AvdtpSbcCodecHeader) (payload : List UInt8) (now : Readings) (s : Sink P) :
    queuePayload sbcHeader payload now (s.withPeer addr cid) =
      (queuePayload sbcHeader payload now s).map (Sink.withPeer addr cid) := by
  unfold queuePayload
  split
  · rfl
  · change (if (writePayload (payload.length / sbcHeader.numFrames) payload s).sbcFrameSize = 0 then _ else _) = _
    simp only
    split
    · rfl
    · have hdrift := adjustDrift_withPeer addr cid sbcHeader.numFrames
        (writePayload (payload.length / sbcHeader.numFrames) payload s).sbcFramesInBuffer now
        (writePayload (payload.length / sbcHeader.numFrames) payload s)
      refine congrArg Except.ok (Eq.trans ?_ (startIfBuffered_withPeer addr cid _ now _))
      exact congrArg (startIfBuffered _ now) hdrift

theorem handleL2capMediaDataPacket_withPeer (packet : List UInt8) (now : Readings) (s : Sink P) :
    handleL2capMediaDataPacket packet now (s.withPeer addr cid) =
      (handleL2capMediaDataPacket packet now s).map (Sink.withPeer addr cid) := by
  unfold handleL2capMediaDataPacket
  split
  · rfl
  · split
    · exact decodeSigned16_withPeer addr cid _ s
    · exact queuePayload_withPeer addr cid _ _ now s

theorem mediaProcessingInit_withPeer (c : SbcConfiguration) (s : Sink P) :
    mediaProcessingInit c (s.withPeer addr cid) = (mediaProcessingInit c s).withPeer addr cid := by
  cases hm : s.mediaInitialized <;> simp [mediaProcessingInit, Sink.withPeer, hm]

theorem mediaProcessingPause_withPeer (s : Sink P) :
    mediaProcessingPause (s.withPeer addr cid) = (mediaProcessingPause s).withPeer addr cid := by
  cases hm : s.mediaInitialized <;> simp [mediaProcessingPause, Sink.withPeer, hm]

theorem mediaProcessingClose_withPeer (s : Sink P) :
    mediaProcessingClose (s.withPeer addr cid) = (mediaProcessingClose s).withPeer addr cid := by
  cases hm : s.mediaInitialized <;> simp [mediaProcessingClose, Sink.withPeer, hm]

theorem streamStarted_withPeer (s : Sink P) :
    streamStarted (s.withPeer addr cid) = (streamStarted s).withPeer addr cid := by
  rw [streamStarted_eq, streamStarted_eq, ← mediaProcessingInit_withPeer]
  refine congrArg (mediaProcessingInit _) ?_
  rw [apply_ite (Sink.withPeer addr cid), ← mediaProcessingClose_withPeer]
  rfl

/-- An A2DP event may write the two variables itself. -/
theorem a2dpSinkPacketHandler_withPeer (e : A2dpEvent) (s : Sink P) :
    ∃ addr' cid', a2dpSinkPacketHandler e (s.withPeer addr cid) =
      (a2dpSinkPacketHandler e s).map (Sink.withPeer addr' cid') := by
  cases e with
  | mediaCodecSbcConfiguration c =>
    refine ⟨addr, cid, ?_⟩
    simp only [a2dpSinkPacketHandler, storeSbcConfiguration]
    cases sbcChannelMode c.channelMode <;> rfl
  | streamEstablished status addr₁ cid₁ localSeid =>
    simp only [a2dpSinkPacketHandler]
    split
    · exact ⟨addr, cid, rfl⟩
    · exact ⟨addr₁, cid₁, rfl⟩
  | streamStarted => exact ⟨addr, cid, congrArg Except.ok (streamStarted_withPeer addr cid s)⟩
  | streamSuspended =>
    exact ⟨addr, cid, congrArg Except.ok (mediaProcessingPause_withPeer addr cid (s.setStreamState .paused))⟩
  | streamReleased =>
    exact ⟨addr, cid, congrArg Except.ok (mediaProcessingClose_withPeer addr cid (s.setStreamState .closed))⟩
  | signalingConnectionReleased =>
    refine ⟨addr, 0, congrArg Except.ok ?_⟩
    exact mediaProcessingClose_withPeer addr 0 { s with a2dpConnection := { s.a2dpConnection with a2dpCid := 0 } }
  | _ => exact ⟨addr, cid, rfl⟩

theorem step_withPeer (e : SinkEvent) (s : Sink P) :
    ∃ addr' cid', step (s.withPeer addr cid) e = (step s e).map (Sink.withPeer addr' cid') := by
  cases e with
  | a2dp e => exact a2dpSinkPacketHandler_withPeer addr cid e s
  | media packet now => exact ⟨addr, cid, handleL2capMediaDataPacket_withPeer addr cid packet now s⟩
  | playback r => exact ⟨addr, cid, playbackHandler_withPeer addr cid r s⟩

end WithPeer

/-! ## The sink inside the port -/

/-- Up to the two variables that others write. -/
def SameAudio (a s : Sink P) : Prop := ∃ addr cid, s = a.withPeer addr cid

theorem SameAudio.refl (s : Sink P) : SameAudio s s := ⟨s.deviceAddr, s.a2dpConnection.a2dpCid, rfl⟩

theorem SameAudio.withPeer {a s : Sink P} (h : SameAudio a s) (addr : BdAddr) (cid : UInt16) :
    SameAudio a (s.withPeer addr cid) := by
  obtain ⟨-, -, rfl⟩ := h
  exact ⟨addr, cid, rfl⟩

theorem SameAudio.step {a s t : Sink P} {e : SinkEvent} (h : SameAudio a s) (ht : step s e = .ok t) :
    ∃ b, step a e = .ok b ∧ SameAudio b t := by
  obtain ⟨addr, cid, rfl⟩ := h
  obtain ⟨addr', cid', hcommutes⟩ := step_withPeer addr cid e a
  rw [ht] at hcommutes
  cases hb : BtstackPort.step a e with
  | error f => simp [hb, Except.map] at hcommutes
  | ok b =>
    rw [hb] at hcommutes
    exact ⟨b, rfl, addr', cid', Except.ok.inj hcommutes⟩

/-- What of an event is for the sink. -/
def PortEvent.toSink : PortEvent → Option SinkEvent
  | .sink e => some e
  | _ => none

theorem avrcp_sameAudio (e : AvrcpEvent) (s : Port P) : SameAudio s.sink (avrcpPacketHandler e s).1.sink := by
  cases e with
  | connectionEstablished status cid addr =>
    simp only [avrcpPacketHandler]
    split
    · exact .refl s.sink
    · exact ⟨addr, s.a2dpConnection.a2dpCid, rfl⟩
  | _ => exact .refl s.sink

theorem controller_sink {e : AvrcpControllerEvent} {s u : Port P} {cs : List PortCall}
    (h : avrcpControllerPacketHandler e s = .ok (u, cs)) : u.sink = s.sink := by
  unfold avrcpControllerPacketHandler at h
  split at h
  · cases h; rfl
  · cases e <;> simp only at h <;> first | (cases h; rfl) | (split at h <;> cases h <;> rfl)

theorem coverArt_sink {e : CoverArtEvent} {s u : Port P} {cs : List PortCall}
    (h : coverArtPacketHandler e s = .ok (u, cs)) : u.sink = s.sink := by
  cases e with
  | bipData packet =>
    simp only [coverArtPacketHandler] at h
    split at h
    · split at h <;> cases h
      rfl
    · cases h; rfl
  | operationComplete =>
    simp only [coverArtPacketHandler] at h
    split at h
    · split at h <;> cases h
      rfl
    · cases h; rfl
  | connectionEstablished status cid =>
    simp only [coverArtPacketHandler] at h
    split at h <;> cases h <;> rfl
  | _ => cases h; rfl

theorem console_sameAudio (cmd : Char) (reply : Reply) (s : Port P) :
    SameAudio s.sink (stdinProcess cmd reply s).1.sink := by
  unfold stdinProcess
  split
  · exact ⟨s.deviceAddr, reply.cid.getD s.a2dpConnection.a2dpCid, rfl⟩
  all_goals first | exact .refl s.sink | (split <;> exact .refl s.sink)

/-- Only its own events do more to the sink. -/
theorem handle_sameAudio {e : PortEvent} {s u : Port P} {cs : List PortCall} (he : e.toSink = none)
    (h : Port.handle e s = .ok (u, cs)) : SameAudio s.sink u.sink := by
  cases e with
  | sink e => cases he
  | avrcp e =>
    obtain rfl := congrArg Prod.fst (Except.ok.inj h)
    exact avrcp_sameAudio e s
  | avrcpController e =>
    rw [controller_sink h]
    exact .refl s.sink
  | avrcpTarget e =>
    obtain rfl := congrArg Prod.fst (Except.ok.inj h)
    cases e <;> exact .refl s.sink
  | coverArt e =>
    rw [coverArt_sink h]
    exact .refl s.sink
  | console cmd reply =>
    obtain rfl := congrArg Prod.fst (Except.ok.inj h)
    exact console_sameAudio cmd reply s

theorem step_sink_returns {s t : Port P} {e : SinkEvent} :
    Port.step s (.sink e) = .ok t ↔
      ∃ u, step s.sink e = .ok u ∧ t = { s with sink := u, trace := s.trace ++ Port.actions (.sink e) [] } := by
  simp only [Port.step, Port.handle]
  cases step s.sink e with
  | error f => simp [Except.mapError]
  | ok u => simp [Except.mapError, pure, Except.pure, eq_comm]

/-- **The sink is a component of the port.** -/
theorem audioPath_component {ok : Port P → PortEvent → Prop} {cok : Sink P → SinkEvent → Prop}
    (hok : ∀ s a e, SameAudio a s.sink → ok s (.sink e) → cok a e) :
    IsComponent Port.step ok step cok PortEvent.toSink (fun s a => SameAudio a s.sink) where
  own := by
    rintro s e t a k hR hoke hpart he
    cases e with
    | sink e =>
      cases hpart
      obtain ⟨u, hu, rfl⟩ := step_sink_returns.1 he
      obtain ⟨b, hb, hRb⟩ := hR.step hu
      exact ⟨hok s a k hR hoke, b, hb, hRb⟩
    | _ => cases hpart
  other := by
    rintro s e t a ⟨addr, cid, hR⟩ - hpart he
    obtain ⟨u, cs, hu, rfl⟩ := Port.step_returns.1 he
    obtain ⟨addr', cid', hu⟩ := handle_sameAudio hpart hu
    refine ⟨addr', cid', ?_⟩
    rw [hu, hR]
    rfl

/-- The port starts with the sink's static storage. -/
theorem sameAudio_initial : SameAudio (Sink.initial P) (Port.initial P).sink := ⟨deviceAddr, 0, rfl⟩

/-- **Isolation of the audio path**: in every run of the port, the sink is in the state to which its own events alone
take it, and has made the same calls, up to the address for outgoing connections and the A2DP connection id. -/
theorem audioPath_isolated {ok : Port P → PortEvent → Prop} {es : List PortEvent} {s : Port P}
    (h : Port.RunsTo ok es s) :
    ∃ a : Sink P, RunsTo (fun _ _ => True) (es.filterMap PortEvent.toSink) a ∧ SameAudio a s.sink :=
  h.component (audioPath_component fun _ _ _ _ _ => trivial) sameAudio_initial

/-- A stream starts and plays while an AVRCP peer connects, lists a notification and sends cover art, and commands are
typed. -/
def mixedRun : List PortEvent :=
  [.avrcp (.connectionEstablished 0 5 deviceAddr), .sink (.a2dp (.mediaCodecSbcConfiguration .stereo44100)),
    .console 'k' (.success none), .sink (.a2dp .streamStarted), .avrcpController (.getCapabilityEventId 2),
    .sink (.media (MediaPacket.plain 2 (List.replicate 12 7)).bytes .nominal), .console '@' (.success none),
    .coverArt (.bipData ⟨[7, 8, 9], by decide⟩), .sink (.playback (.blank 1)), .coverArt .operationComplete]

theorem mixedRun_run : ∃ s : Port (.reference true), Port.RunsTo (fun _ _ => True) mixedRun s :=
  ⟨_, .cons trivial rfl (.cons trivial rfl (.cons trivial rfl (.cons trivial rfl (.cons trivial rfl
    (.cons trivial rfl (.cons trivial rfl (.cons trivial rfl (.cons trivial rfl (.cons trivial rfl (.nil _))))))))))⟩

theorem audioPath_isolated_mixedRun :
    ∃ s : Port (.reference true), Port.RunsTo (fun _ _ => True) mixedRun s ∧
      ∃ a : Sink (.reference true),
        RunsTo (fun _ _ => True) (mixedRun.filterMap PortEvent.toSink) a ∧ SameAudio a s.sink := by
  obtain ⟨s, hs⟩ := mixedRun_run
  exact ⟨s, hs, audioPath_isolated hs⟩

end BtstackPort
