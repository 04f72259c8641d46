import BtstackPort.Port.Machine
/-!
# Image handles and when they are valid (`avrcp.c:114-118`, `avrcp.c:259-276`)

Image handles become invalid on player change: with `UIDS_CHANGED`, and when the AVRCP or the cover-art connection is
released. The stored handle is not cleared then, and `'@'` uses whatever is stored; `handles_valid_iff` says which runs
use no handle that has become invalid.
-/

namespace BtstackPort

open FaultMachine Trace

variable {P : Platform}

def Invalidates : PeerAction → Prop
  | .received (.avrcpController .uidsChanged) => True
  | .received (.avrcp (.connectionReleased _)) => True
  | .received (.coverArt (.connectionReleased _)) => True
  | _ => False

/-- A `NOW_PLAYING_COVER_ART_INFO` with this handle arrives. -/
def Supplies (h : ImageHandle) (a : PeerAction) : Prop :=
  a = .received (.avrcpController (.nowPlayingCoverArtInfo h.val))

/-- A handle that was stored before handles last became invalid has been supplied again since. -/
def HandleValid (h : ImageHandle) (log : List PeerAction) : Prop :=
  Before (· = .storeHandle h) Invalidates log → Since (Supplies h) Invalidates log

def UsesValidHandle (pre : List PeerAction) (a : PeerAction) : Prop := ∀ h, a = .useHandle h → HandleValid h pre

/-- No handle has been stored, or none has become invalid, or the stored one has been supplied since. -/
def StoredHandleValid (s : Port P) : Prop :=
  (∀ h, .storeHandle h ∉ peerLog s.trace) ∨ (∀ a ∈ peerLog s.trace, ¬ Invalidates a) ∨
    Since (Supplies s.imageHandle) Invalidates (peerLog s.trace)

def RequestsWithValidHandle (s : Port P) (e : PortEvent) : Prop :=
  (∃ reply, e = .console '@' reply) → StoredHandleValid s

/-! ## What is stored -/

/-- The stored handle is the last one the log stores, and stands where it stands in the log. -/
structure HandleLogged (h : ImageHandle) (log : List PeerAction) : Prop where
  stored : (∃ h', .storeHandle h' ∈ log) → .storeHandle h ∈ log
  placed : .storeHandle h ∈ log → (∃ a ∈ log, Invalidates a) →
    Since (Supplies h) Invalidates log ∨ Before (· = .storeHandle h) Invalidates log

theorem Invalidates.received {a : PeerAction} (h : Invalidates a) : ∃ e, a = .received e := by
  cases a with
  | received e => exact ⟨e, rfl⟩
  | _ => cases h

theorem not_invalidates_of_mem_effects {v : PeerView} {e : PortEvent} {a : PeerAction} (ha : a ∈ v.effects e) :
    ¬ Invalidates a := by
  intro h
  obtain ⟨e', rfl⟩ := h.received
  exact PeerView.received_not_mem_effects e' ha

theorem not_supplies_of_mem_effects {v : PeerView} {e : PortEvent} {a : PeerAction} {h : ImageHandle}
    (ha : a ∈ v.effects e) : ¬ Supplies h a := by
  rintro rfl
  exact PeerView.received_not_mem_effects _ ha

theorem stores_eq_some {v : PeerView} {e : PortEvent} {h : ImageHandle} (hs : v.stores e = some h) :
    e = .avrcpController (.nowPlayingCoverArtInfo h.val) ∧ v.effects e = [.storeHandle h] := by
  cases e with
  | avrcpController e =>
    cases e with
    | nowPlayingCoverArtInfo value =>
      have heffects : v.effects (.avrcpController (.nowPlayingCoverArtInfo value)) = [.storeHandle h] := by
        rw [PeerView.effects, hs]
        rfl
      refine ⟨?_, heffects⟩
      simp only [PeerView.stores] at hs
      split at hs
      · cases hs
      · split at hs
        · cases hs; rfl
        · cases hs
    | _ => cases hs
  | _ => cases hs

theorem HandleLogged.step {v : PeerView} {log : List PeerAction} (h : HandleLogged v.imageHandle log)
    (e : PortEvent) : HandleLogged (v.next e).imageHandle (log ++ v.actions e) := by
  cases hs : v.stores e with
  | some handle =>
    -- the event supplies the handle that is stored
    obtain ⟨rfl, heffects⟩ := stores_eq_some hs
    have hnext : (v.next (.avrcpController (.nowPlayingCoverArtInfo handle.val))).imageHandle = handle := by
      rw [PeerView.next, hs]
      rfl
    rw [hnext, PeerView.actions, heffects]
    refine ⟨fun _ => by simp, fun _ _ => Or.inl ?_⟩
    exact ⟨log, _, [.storeHandle handle], rfl, rfl, by simp [Invalidates]⟩
  | none =>
    have hnext : (v.next e).imageHandle = v.imageHandle := by
      rw [PeerView.next, hs]
      rfl
    have hmem : ∀ handle, .storeHandle handle ∈ log ++ v.actions e → .storeHandle handle ∈ log := by
      intro handle hmem
      rcases List.mem_append.1 hmem with hmem | hmem
      · exact hmem
      · rw [PeerView.storeHandle_mem_actions, hs] at hmem
        cases hmem
    rw [hnext]
    constructor
    · rintro ⟨handle, hmem'⟩
      exact List.mem_append_left _ (h.stored ⟨handle, hmem handle hmem'⟩)
    · intro hstored hinvalid
      have hstored := hmem _ hstored
      rw [PeerView.actions, List.append_cons,
        since_append_ignored (fun _ => not_supplies_of_mem_effects) (fun _ => not_invalidates_of_mem_effects),
        before_append_ignored (fun _ => not_invalidates_of_mem_effects), since_snoc, before_snoc]
      by_cases he : Invalidates (.received e)
      · exact Or.inr (Or.inl ⟨he, _, hstored, rfl⟩)
      · have hlog : ∃ a ∈ log, Invalidates a := by
          obtain ⟨a, ha, hinv⟩ := hinvalid
          rcases List.mem_append.1 ha with ha | ha
          · exact ⟨a, ha, hinv⟩
          · rcases List.mem_cons.1 ha with rfl | ha
            · exact absurd hinv he
            · exact absurd hinv (not_invalidates_of_mem_effects ha)
        rcases h.placed hstored hlog with hsince | hbefore
        · exact Or.inl (Or.inr ⟨hsince, he⟩)
        · exact Or.inr (Or.inr ⟨he, hbefore⟩)

theorem step_handleLogged {s t : Port P} {e : PortEvent} (h : HandleLogged s.imageHandle (peerLog s.trace))
    (he : Port.step s e = .ok t) : HandleLogged t.imageHandle (peerLog t.trace) := by
  obtain ⟨hpeer, hlog⟩ := step_peer he
  have hhandle : t.imageHandle = (s.peer.next e).imageHandle := congrArg PeerView.imageHandle hpeer
  rw [hlog, hhandle]
  exact HandleLogged.step (v := s.peer) h e

/-- The stored handle is valid in one of the three ways. -/
theorem handleValid_iff {s : Port P} (hs : HandleLogged s.imageHandle (peerLog s.trace)) :
    HandleValid s.imageHandle (peerLog s.trace) ↔ StoredHandleValid s := by
  constructor
  · intro hvalid
    by_cases hstored : ∃ h, .storeHandle h ∈ peerLog s.trace
    · by_cases hinvalid : ∃ a ∈ peerLog s.trace, Invalidates a
      · rcases hs.placed (hs.stored hstored) hinvalid with hsince | hbefore
        · exact Or.inr (Or.inr hsince)
        · exact Or.inr (Or.inr (hvalid hbefore))
      · exact Or.inr (Or.inl fun a ha hinv => hinvalid ⟨a, ha, hinv⟩)
    · exact Or.inl fun h hmem => hstored ⟨h, hmem⟩
  · rintro (hnone | hnone | hsince) hbefore
    · obtain ⟨⟨a, ha, rfl⟩, -⟩ := hbefore.exists
      exact absurd ha (hnone _)
    · obtain ⟨-, a, ha, hinv⟩ := hbefore.exists
      exact absurd hinv (hnone a ha)
    · exact hsince

/-! ## What is used -/

theorem handleValid_append_ignored {h : ImageHandle} {log new : List PeerAction} (hsup : ∀ a ∈ new, ¬ Supplies h a)
    (hinv : ∀ a ∈ new, ¬ Invalidates a) : HandleValid h (log ++ new) ↔ HandleValid h log := by
  rw [HandleValid, before_append_ignored hinv, since_append_ignored hsup hinv]
  rfl

/-- `'@'` uses the stored handle last, and nothing before it bears on its validity. -/
theorem actions_of_request (v : PeerView) (reply : Reply) :
    ∃ opening, v.actions (.console '@' reply) = opening ++ [.useHandle v.imageHandle] ∧
      ∀ a ∈ opening, (∀ h, ¬ Supplies h a) ∧ ¬ Invalidates a ∧ ∀ h, a ≠ .useHandle h := by
  refine ⟨.received (.console '@' reply) :: (v.download.fileOps (.console '@' reply)).map .file, ?_, ?_⟩
  · simp [PeerView.actions, PeerView.effects]
  · intro a ha
    rcases List.mem_cons.1 ha with rfl | ha
    · exact ⟨fun h heq => (by cases heq), id, fun h heq => (by cases heq)⟩
    · obtain ⟨op, -, rfl⟩ := List.mem_map.1 ha
      exact ⟨fun h heq => (by cases heq), id, fun h heq => (by cases heq)⟩

/-- No other event uses a handle. -/
theorem uses_eq_none {v : PeerView} {e : PortEvent} (h : ¬ ∃ reply, e = .console '@' reply) : v.uses e = none := by
  cases e with
  | console cmd reply =>
    have hcmd : cmd ≠ '@' := fun hcmd => h ⟨reply, by rw [hcmd]⟩
    simp [hcmd]
  | _ => rfl

theorem step_usesValidHandle_iff {s t : Port P} {e : PortEvent} (hs : HandleLogged s.imageHandle (peerLog s.trace))
    (he : Port.step s e = .ok t) :
    Throughout UsesValidHandle (peerLog t.trace) ↔
      Throughout UsesValidHandle (peerLog s.trace) ∧ RequestsWithValidHandle s e := by
  rw [(step_peer he).2]
  by_cases hrequest : ∃ reply, e = .console '@' reply
  · have hvalid : HandleValid s.imageHandle (peerLog s.trace) ↔ RequestsWithValidHandle s e := by
      rw [handleValid_iff hs]
      exact ⟨fun h _ => h, fun h => h hrequest⟩
    obtain ⟨reply, rfl⟩ := hrequest
    obtain ⟨opening, hactions, hnew⟩ := actions_of_request s.peer reply
    rw [hactions, ← List.append_assoc, throughout_snoc, ← hvalid]
    refine and_congr ⟨fun h => (throughout_append.1 h).1, fun h => ?_⟩ ?_
    · exact h.append_free fun a ha pre handle heq => absurd heq ((hnew a ha).2.2 handle)
    · rw [← handleValid_append_ignored (fun a ha => (hnew a ha).1 s.imageHandle) fun a ha => (hnew a ha).2.1]
      constructor
      · intro h
        exact h s.imageHandle rfl
      · rintro h handle heq
        cases heq
        exact h
  · constructor
    · intro h
      exact ⟨(throughout_append.1 h).1, fun hreq => absurd hreq hrequest⟩
    · rintro ⟨h, -⟩
      refine h.append_free ?_
      rintro a ha pre handle rfl
      rw [PeerView.useHandle_mem_actions, uses_eq_none hrequest] at ha
      cases ha

theorem handleLogged_initial : HandleLogged (Port.initial P).imageHandle (peerLog (Port.initial P).trace) where
  stored := by
    rintro ⟨h, hmem⟩
    cases hmem
  placed hmem := by cases hmem

/-- **Handle validity**: over every run, no handle is used after it has become invalid exactly if the stored handle is
valid whenever a thumbnail is requested. -/
theorem handles_valid_iff {es : List PortEvent} {s : Port P} (h : Port.RunsTo (fun _ _ => True) es s) :
    Throughout UsesValidHandle (peerLog s.trace) ↔ Port.RunsTo RequestsWithValidHandle es s := by
  refine Run.iff_of_step (I := fun s => HandleLogged s.imageHandle (peerLog s.trace))
    (G := fun s => Throughout UsesValidHandle (peerLog s.trace)) ?_ ?_ h handleLogged_initial throughout_nil
  · intro s e t hs he
    exact step_handleLogged hs he
  · intro s e t hs he
    exact step_usesValidHandle_iff hs he

/-- A handle is stored and used, handles become invalid, and the same handle is supplied and used again. -/
def suppliedAgain : List PortEvent :=
  [.avrcp (.connectionEstablished 0 1 deviceAddr),
    .avrcpController (.nowPlayingCoverArtInfo [48, 48, 48, 48, 48, 48, 49]), .console '@' (.success none),
    .avrcpController .uidsChanged, .avrcpController (.nowPlayingCoverArtInfo [48, 48, 48, 48, 48, 48, 49]),
    .console '@' (.success none)]

theorem handles_valid_iff_suppliedAgain :
    ∃ s : Port (.reference true), Port.RunsTo (fun _ _ => True) suppliedAgain s ∧
      (Throughout UsesValidHandle (peerLog s.trace) ↔ Port.RunsTo RequestsWithValidHandle suppliedAgain s) := by
  obtain ⟨s, hs⟩ : ∃ s : Port (.reference true), Port.RunsTo (fun _ _ => True) suppliedAgain s :=
    ⟨_, .cons trivial rfl (.cons trivial rfl (.cons trivial rfl (.cons trivial rfl (.cons trivial rfl
      (.cons trivial rfl (.nil _))))))⟩
  exact ⟨s, hs, handles_valid_iff hs⟩

/-- The player changes, and the handle it gave before is still used. -/
theorem stale_handle_used :
    ∃ s : Port (.reference true),
      Port.RunsTo (fun _ _ => True)
        [.avrcp (.connectionEstablished 0 1 deviceAddr),
          .avrcpController (.nowPlayingCoverArtInfo [48, 48, 48, 48, 48, 48, 49]), .avrcpController .uidsChanged,
          .console '@' (.success none)] s ∧
      ¬ Throughout UsesValidHandle (peerLog s.trace) := by
  obtain ⟨s, hs, hlog⟩ : ∃ s : Port (.reference true),
      Port.RunsTo (fun _ _ => True)
        [.avrcp (.connectionEstablished 0 1 deviceAddr),
          .avrcpController (.nowPlayingCoverArtInfo [48, 48, 48, 48, 48, 48, 49]), .avrcpController .uidsChanged,
          .console '@' (.success none)] s ∧
      peerLog s.trace =
        (([.received (.avrcp (.connectionEstablished 0 1 deviceAddr)),
            .received (.avrcpController (.nowPlayingCoverArtInfo [48, 48, 48, 48, 48, 48, 49])),
            .storeHandle ⟨[48, 48, 48, 48, 48, 48, 49], rfl⟩] ++
          [.received (.avrcpController .uidsChanged)]) ++
          [.received (.console '@' (.success none)), .file (.fopen 0)]) ++
        [PeerAction.useHandle ⟨[48, 48, 48, 48, 48, 48, 49], rfl⟩] :=
    ⟨_, .cons trivial rfl (.cons trivial rfl (.cons trivial rfl (.cons trivial rfl (.nil _)))), rfl⟩
  refine ⟨s, hs, fun h => ?_⟩
  rw [hlog, throughout_snoc] at h
  have hvalid := h.2 _ rfl
  rw [HandleValid, before_append_ignored (by simp [Invalidates]), before_snoc,
    since_append_ignored (by simp [Supplies]) (by simp [Invalidates]), since_snoc] at hvalid
  rcases hvalid (Or.inl ⟨trivial, _, by simp, rfl⟩) with hsupplied | ⟨-, hvalid⟩
  · cases hsupplied
  · exact hvalid trivial

end BtstackPort
