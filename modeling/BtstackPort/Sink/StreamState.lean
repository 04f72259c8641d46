import BtstackPort.Lib.Trace
import BtstackPort.Sink.PacketHandler
/-!
# The stream state, the connection id and media processing (`a2dp_sink.c:190-251`)

Six events update the connection record and the media flags separately. `StreamView` is what they have in common; it
evolves on its own (`step_view`). A stream is open between a successful `STREAM_ESTABLISHED` with a connection id and
the next release, and the peer starts and suspends open streams only (`Disciplined`).

`SIGNALING_CONNECTION_RELEASED` clears the connection id and closes media processing but leaves `stream_state` as it
is, so a stream that was playing still counts as playing (`signaling_release_incoherent`).
-/

namespace BtstackPort

open FaultMachine Trace

variable {P : Platform}

structure StreamView where
  a2dpCid : UInt16
  streamState : StreamState
  mediaInitialized : Bool
deriving DecidableEq, Repr

def Sink.streamView (s : Sink P) : StreamView :=
  ⟨s.a2dpConnection.a2dpCid, s.a2dpConnection.streamState, s.mediaInitialized⟩

def StreamView.next (v : StreamView) : SinkEvent → StreamView
  | .a2dp (.streamEstablished status _ cid _) =>
    if status ≠ 0 then v else { v with a2dpCid := cid, streamState := .opened }
  | .a2dp .streamStarted => { v with streamState := .playing, mediaInitialized := true }
  | .a2dp .streamSuspended => { v with streamState := .paused }
  | .a2dp .streamReleased => { v with streamState := .closed, mediaInitialized := false }
  | .a2dp .signalingConnectionReleased => { v with a2dpCid := 0, mediaInitialized := false }
  | _ => v

structure StreamView.Coherent (v : StreamView) : Prop where
  playing : v.streamState = .playing → v.mediaInitialized = true ∧ v.a2dpCid ≠ 0
  closed : v.streamState = .closed → v.mediaInitialized = false

/-! ## The view evolves on its own -/

theorem mediaProcessingInit_view (c : SbcConfiguration) (s : Sink P) :
    (mediaProcessingInit c s).streamView = { s.streamView with mediaInitialized := true } := by
  by_cases hm : s.mediaInitialized
  · rw [mediaProcessingInit_of_initialized hm]
    simp [Sink.streamView, hm]
  · simp [mediaProcessingInit, hm, Sink.streamView]

theorem mediaProcessingPause_view (s : Sink P) : (mediaProcessingPause s).streamView = s.streamView := by
  unfold mediaProcessingPause
  split <;> rfl

theorem mediaProcessingClose_view (s : Sink P) :
    (mediaProcessingClose s).streamView = { s.streamView with mediaInitialized := false } := by
  by_cases hm : s.mediaInitialized
  · simp [mediaProcessingClose, hm, Sink.streamView]
  · rw [mediaProcessingClose_of_closed (by simpa using hm)]
    simp [Sink.streamView, hm]

theorem streamStarted_view (s : Sink P) :
    (streamStarted s).streamView = { s.streamView with streamState := .playing, mediaInitialized := true } := by
  unfold streamStarted
  simp only [mediaProcessingInit_view]
  split
  · rw [mediaProcessingClose_view]
    rfl
  · rfl

theorem step_view {e : SinkEvent} {s t : Sink P} (h : step s e = .ok t) : t.streamView = s.streamView.next e := by
  have hdata : (∀ a, e ≠ .a2dp a) → t.streamView = s.streamView := by
    intro he
    obtain ⟨hconnection, hinitialized, -⟩ := step_data h he
    simp [Sink.streamView, hconnection, hinitialized]
  cases e with
  | a2dp e =>
    cases e with
    | mediaCodecOtherConfiguration => cases h; rfl
    | mediaCodecSbcConfiguration c =>
      obtain ⟨mode, -, h⟩ := bind_returns.1 h
      cases h
      rfl
    | streamEstablished status addr cid localSeid =>
      simp only [step, a2dpSinkPacketHandler] at h
      simp only [StreamView.next]
      split at h
      · rename_i hs
        cases h
        rw [if_pos hs]
      · rename_i hs
        cases h
        rw [if_neg hs]
        rfl
    | streamStarted => cases h; exact streamStarted_view s
    | streamSuspended => cases h; exact mediaProcessingPause_view _
    | streamReleased => cases h; exact mediaProcessingClose_view _
    | signalingConnectionReleased => cases h; exact mediaProcessingClose_view _
    | ignored => cases h; rfl
  | media packet now => exact hdata (by simp)
  | playback r => exact hdata (by simp)

/-! ## Open streams -/

def IsRelease (e : SinkEvent) : Prop := e = .a2dp .streamReleased ∨ e = .a2dp .signalingConnectionReleased

/-- The connection id of a successful `STREAM_ESTABLISHED`. -/
def establishedCid : SinkEvent → Option UInt16
  | .a2dp (.streamEstablished status _ cid _) => if status ≠ 0 then none else some cid
  | _ => none

/-- A stream was established with a connection id, and nothing was released since. -/
def StreamOpen : List SinkEvent → Prop := Since (fun e => ∃ cid, establishedCid e = some cid ∧ cid ≠ 0) IsRelease

/-- The peer starts and suspends open streams only. -/
def Disciplined (before : List SinkEvent) (e : SinkEvent) : Prop :=
  e = .a2dp .streamStarted ∨ e = .a2dp .streamSuspended → StreamOpen before

/-- The signaling connection does not go away while the stream counts as playing. -/
def NotReleasedWhilePlaying (s : Sink P) (e : SinkEvent) : Prop :=
  e = .a2dp .signalingConnectionReleased → s.a2dpConnection.streamState ≠ .playing

/-- The stream that is started is not one that was established without a connection id. -/
def StartsWithCid (before : List SinkEvent) (e : SinkEvent) : Prop :=
  e = .a2dp .streamStarted → latest establishedCid before ≠ some 0

/-- While a stream is open, the stored connection id is that of the last stream established. -/
theorem run_streamOpen {ok : Sink P → SinkEvent → Prop} {es : List SinkEvent} {s : Sink P} (h : RunsTo ok es s) :
    StreamOpen es → latest establishedCid es = some s.a2dpConnection.a2dpCid := by
  refine h.history (I := fun es s => StreamOpen es → latest establishedCid es = some s.a2dpConnection.a2dpCid) ?_ ?_
  · intro hopen
    exact absurd hopen since_nil
  · intro es s e t _ ih _ he hopen
    have hview : t.a2dpConnection.a2dpCid = (s.streamView.next e).a2dpCid := by rw [← step_view he]; rfl
    rw [latest_append, hview]
    cases hcid : establishedCid e with
    | some cid =>
      -- the last event established this stream
      rcases e with ⟨_ | _ | ⟨status, addr, cid', seid⟩ | _⟩ | _ | _ <;> simp [establishedCid] at hcid
      obtain ⟨hstatus, rfl⟩ := hcid
      simp [latest, establishedCid, StreamView.next, hstatus]
    | none =>
      rcases since_snoc.1 hopen with ⟨cid, hsome, -⟩ | ⟨hopen, hrel⟩
      · rw [hcid] at hsome
        cases hsome
      · have hsame : (s.streamView.next e).a2dpCid = s.a2dpConnection.a2dpCid := by
          rcases e with ⟨_ | _ | ⟨status, addr, cid', seid⟩ | _⟩ | _ | _ <;>
            simp_all [establishedCid, StreamView.next, IsRelease, Sink.streamView]
        rw [hsame, ih hopen]
        simp [latest, hcid]

/-! ## Coherence -/

theorem streamView_initial_coherent : (Sink.initial P).streamView.Coherent := by
  constructor
  · intro h
    cases h
  · intro _
    rfl

/-- One event of a disciplined peer keeps the view coherent exactly under the two conditions. -/
theorem step_coherent_iff {es : List SinkEvent} {e : SinkEvent} {s t : Sink P}
    (hrun : RunsTo (fun _ _ => True) es s) (hdisc : Disciplined es e) (hs : s.streamView.Coherent)
    (he : step s e = .ok t) : t.streamView.Coherent ↔ NotReleasedWhilePlaying s e ∧ StartsWithCid es e := by
  rw [step_view he]
  rcases e with ⟨_ | _ | ⟨status, addr, cid, seid⟩ | _ | _ | _ | _ | _⟩ | _ | _
  case a2dp.streamEstablished =>
    refine iff_of_true ?_ ⟨fun h => (by cases h), fun h => (by cases h)⟩
    simp only [StreamView.next]
    split
    · exact hs
    · constructor <;> intro h <;> cases h
  case a2dp.streamStarted =>
    have hcid := run_streamOpen hrun (hdisc (Or.inl rfl))
    constructor
    · intro ht
      refine ⟨fun h => (by cases h), fun _ hzero => ?_⟩
      rw [hcid, Option.some.injEq] at hzero
      exact (ht.playing rfl).2 hzero
    · rintro ⟨-, hstart⟩
      refine ⟨fun _ => ⟨rfl, fun hzero => hstart rfl ?_⟩, fun h => (by cases h)⟩
      rw [hcid, Option.some.injEq]
      exact hzero
  case a2dp.streamSuspended =>
    refine iff_of_true ?_ ⟨fun h => (by cases h), fun h => (by cases h)⟩
    constructor <;> intro h <;> cases h
  case a2dp.streamReleased =>
    refine iff_of_true ?_ ⟨fun h => (by cases h), fun h => (by cases h)⟩
    exact ⟨fun h => (by cases h), fun _ => rfl⟩
  case a2dp.signalingConnectionReleased =>
    constructor
    · intro ht
      exact ⟨fun _ hplaying => absurd rfl (ht.playing hplaying).2, fun h => (by cases h)⟩
    · rintro ⟨hquiet, -⟩
      exact ⟨fun hplaying => absurd hplaying (hquiet rfl), fun _ => rfl⟩
  -- the other events leave the view alone
  all_goals exact iff_of_true hs ⟨fun h => (by cases h), fun h => (by cases h)⟩

/-- **Stream state**: in a run with a disciplined peer, every state on the way is coherent exactly when the signaling
connection never goes away while the stream counts as playing, and no stream is started that was established without a
connection id. -/
theorem stream_state_coherent_iff {es : List SinkEvent} {s : Sink P} (h : RunsTo (fun _ _ => True) es s)
    (hdisc : Throughout Disciplined es) :
    (∀ (es₁ : List SinkEvent) (u : Sink P), es₁ <+: es → RunsTo (fun _ _ => True) es₁ u → u.streamView.Coherent) ↔
      RunsTo NotReleasedWhilePlaying es s ∧ Throughout StartsWithCid es := by
  refine h.history (I := fun es s => Throughout Disciplined es →
    ((∀ (es₁ : List SinkEvent) (u : Sink P), es₁ <+: es → RunsTo (fun _ _ => True) es₁ u → u.streamView.Coherent) ↔
      RunsTo NotReleasedWhilePlaying es s ∧ Throughout StartsWithCid es)) ?_ ?_ hdisc
  · intro _
    refine iff_of_true ?_ ⟨.nil _, throughout_nil⟩
    intro es₁ u hpre hu
    obtain rfl := List.prefix_nil.1 hpre
    cases hu
    exact streamView_initial_coherent
  · intro es s e t hrun ih _ he hdisc
    obtain ⟨hdisc, hlast⟩ := throughout_snoc.1 hdisc
    replace ih := ih hdisc
    constructor
    · intro hall
      obtain ⟨hok, hcid⟩ := ih.1 fun es₁ u hpre => hall es₁ u (hpre.trans (List.prefix_append es [e]))
      have hs := hall es s (List.prefix_append es [e]) hrun
      have ht := hall (es ++ [e]) t (List.prefix_refl _) (run_snoc.2 ⟨s, hrun, trivial, he⟩)
      obtain ⟨hquiet, hstart⟩ := (step_coherent_iff hrun hlast hs he).1 ht
      exact ⟨run_snoc.2 ⟨s, hok, hquiet, he⟩, throughout_snoc.2 ⟨hcid, hstart⟩⟩
    · rintro ⟨hok, hcid⟩ es₁ u hpre hu
      obtain ⟨s', hok, hquiet, -⟩ := run_snoc.1 hok
      obtain rfl := hrun.unique hok
      obtain ⟨hcid, hstart⟩ := throughout_snoc.1 hcid
      have hall := ih.2 ⟨hok, hcid⟩
      rcases List.prefix_concat_iff.1 hpre with rfl | hpre
      · obtain rfl := hu.unique (run_snoc.2 ⟨s, hrun, trivial, he⟩)
        exact (step_coherent_iff hrun hlast (hall es s (List.prefix_refl _) hrun) he).2 ⟨hquiet, hstart⟩
      · exact hall es₁ u hpre hu

/-- A stream is established over connection 1, played, suspended and released. -/
def playedStream : List SinkEvent :=
  [.a2dp (.streamEstablished 0 (Vector.replicate 6 0) 1 1), .a2dp .streamStarted, .a2dp .streamSuspended,
    .a2dp .streamReleased]

theorem playedStream_disciplined : Throughout Disciplined playedStream := by
  have hopen : ∀ post : List SinkEvent, (∀ e ∈ post, ¬ IsRelease e) →
      StreamOpen (.a2dp (.streamEstablished 0 (Vector.replicate 6 0) 1 1) :: post) :=
    fun post hpost => ⟨[], _, post, rfl, ⟨1, rfl, by decide⟩, hpost⟩
  simp only [playedStream, throughout_cons]
  refine ⟨by simp [Disciplined], fun _ => hopen _ (by simp), fun _ => hopen _ ?_, by simp [Disciplined],
    throughout_nil⟩
  simp [IsRelease]

theorem stream_state_coherent_iff_playedStream :
    ∃ s : Sink (.reference true),
      RunsTo (fun _ _ => True) playedStream s ∧ Throughout Disciplined playedStream ∧
      ((∀ (es₁ : List SinkEvent) (u : Sink (.reference true)), es₁ <+: playedStream →
          RunsTo (fun _ _ => True) es₁ u → u.streamView.Coherent) ↔
        RunsTo NotReleasedWhilePlaying playedStream s ∧ Throughout StartsWithCid playedStream) := by
  obtain ⟨s, hs⟩ : ∃ s : Sink (.reference true), RunsTo (fun _ _ => True) playedStream s :=
    ⟨_, .cons trivial rfl (.cons trivial rfl (.cons trivial rfl (.cons trivial rfl (.nil _))))⟩
  exact ⟨s, hs, playedStream_disciplined, stream_state_coherent_iff hs playedStream_disciplined⟩

/-- The signaling connection of a playing stream goes away: the stream still counts as playing, over connection 0 and
with media processing closed. -/
theorem signaling_release_incoherent :
    ∃ s : Sink (.reference true),
      RunsTo (fun _ _ => True) (playedStream.take 2 ++ [SinkEvent.a2dp .signalingConnectionReleased]) s ∧
      Throughout Disciplined (playedStream.take 2 ++ [SinkEvent.a2dp .signalingConnectionReleased]) ∧
      s.a2dpConnection.streamState = .playing ∧ s.mediaInitialized = false ∧ s.a2dpConnection.a2dpCid = 0 ∧
      ¬ s.streamView.Coherent := by
  obtain ⟨s, hs, hview⟩ : ∃ s : Sink (.reference true),
      RunsTo (fun _ _ => True) (playedStream.take 2 ++ [SinkEvent.a2dp .signalingConnectionReleased]) s ∧
      s.a2dpConnection.streamState = .playing ∧ s.mediaInitialized = false ∧ s.a2dpConnection.a2dpCid = 0 :=
    ⟨_, .cons trivial rfl (.cons trivial rfl (.cons trivial rfl (.nil _))), rfl, rfl, rfl⟩
  have hdisc : Throughout Disciplined (playedStream.take 2 ++ playedStream.drop 2) := by
    rw [List.take_append_drop]
    exact playedStream_disciplined
  refine ⟨s, hs, ?_, hview.1, hview.2.1, hview.2.2, fun h => (h.playing hview.1).2 hview.2.2⟩
  refine throughout_snoc.2 ⟨(throughout_append.1 hdisc).1, ?_⟩
  rintro (h | h) <;> cases h

end BtstackPort
