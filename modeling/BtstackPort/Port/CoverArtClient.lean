import BtstackPort.Port.Machine
/-!
# Who uses the cover-art client (`cover_art.c:88-96`)

`avrcp_cover_art_client_connect` hands over the one static client and its ERTM buffer. From a call that returned success
the client is in use until `CONNECTION_ESTABLISHED` reports a failure, or else until `CONNECTION_RELEASED`.

Neither of the two triggers asks whether the client is in use; `client_exclusive_iff` says which runs never hand it over
twice.
-/

namespace BtstackPort

open FaultMachine Trace

variable {P : Platform}

inductive ClientPhase where
  | free | pending | connected
deriving DecidableEq, Repr

def ClientPhase.next : ClientPhase → PeerAction → ClientPhase
  | phase, .connectClient status => if status = 0 then .pending else phase
  | .pending, .received (.coverArt (.connectionEstablished status _)) => if status = 0 then .connected else .free
  | .connected, .received (.coverArt (.connectionReleased _)) => .free
  | phase, _ => phase

def clientPhase (log : List PeerAction) : ClientPhase := log.foldl ClientPhase.next .free

/-- The client is connected only while it is free. -/
def ConnectsFreeClient (pre : List PeerAction) (a : PeerAction) : Prop :=
  ∀ status, a = .connectClient status → clientPhase pre = .free

/-- The console's `'d'`, and the end of the capability query of a recorded connection. -/
def TriggersConnect (s : Port P) : PortEvent → Prop
  | .console cmd _ => cmd = 'd'
  | .avrcpController (.getCapabilityEventIdDone _) => s.avrcpConnection.avrcpCid ≠ 0
  | _ => False

/-- The client is free when a connection is triggered. -/
def TriggeredWhileFree (s : Port P) (e : PortEvent) : Prop :=
  TriggersConnect s e → clientPhase (peerLog s.trace) = .free

theorem connects_eq_none_iff {s : Port P} {e : PortEvent} : s.peer.connects e = none ↔ ¬ TriggersConnect s e := by
  cases e with
  | console cmd reply => simp [TriggersConnect]
  | avrcpController e =>
    cases e with
    | getCapabilityEventIdDone reply =>
      have hv : s.peer.avrcpConnection = s.avrcpConnection := rfl
      simp [TriggersConnect, hv]
    | _ => simp [TriggersConnect]
  | _ => simp [TriggersConnect]

/-- A trigger is received and the client connected; nothing else happens. -/
theorem actions_of_connects {v : PeerView} {e : PortEvent} {status : UInt8} (h : v.connects e = some status) :
    v.actions e = [.received e, .connectClient status] := by
  cases e with
  | console cmd reply =>
    have hcmd : cmd = 'd' := by
      by_contra hcmd
      simp [hcmd] at h
    subst hcmd
    cases h
    rfl
  | avrcpController e =>
    cases e with
    | getCapabilityEventIdDone reply =>
      rw [PeerView.actions, PeerView.effects, h]
      rfl
    | _ => cases h
  | _ => cases h

/-- Being asked to connect does not make the client free, nor less so. -/
theorem ClientPhase.next_of_connects {v : PeerView} {e : PortEvent} {status : UInt8}
    (h : v.connects e = some status) (phase : ClientPhase) : phase.next (.received e) = phase := by
  cases e with
  | console cmd reply => cases phase <;> rfl
  | avrcpController e => cases phase <;> rfl
  | _ => cases h

theorem step_exclusive_iff {s t : Port P} {e : PortEvent} (he : Port.step s e = .ok t) :
    Throughout ConnectsFreeClient (peerLog t.trace) ↔
      Throughout ConnectsFreeClient (peerLog s.trace) ∧ TriggeredWhileFree s e := by
  rw [(step_peer he).2, throughout_append]
  refine and_congr_right fun _ => ?_
  cases hc : s.peer.connects e with
  | none =>
    refine iff_of_true (throughout_of_forall ?_) fun ht => absurd ht (connects_eq_none_iff.1 hc)
    rintro a ha pre status rfl
    rw [PeerView.connectClient_mem_actions, hc] at ha
    cases ha
  | some status =>
    have htrigger : TriggersConnect s e := by
      by_contra hnot
      rw [connects_eq_none_iff.2 hnot] at hc
      cases hc
    have hphase : clientPhase (peerLog s.trace ++ [.received e]) = clientPhase (peerLog s.trace) := by
      rw [clientPhase, List.foldl_append]
      exact ClientPhase.next_of_connects hc _
    rw [actions_of_connects hc, throughout_cons, throughout_cons]
    constructor
    · rintro ⟨-, hfree, -⟩ _
      rw [← hphase]
      exact hfree status rfl
    · intro hfree
      refine ⟨nofun, ?_, throughout_nil⟩
      intro _ _
      rw [hphase]
      exact hfree htrigger

/-- **Exclusive use**: over every run, the client is connected only while it is free exactly if it is free at every
trigger. -/
theorem client_exclusive_iff {es : List PortEvent} {s : Port P} (h : Port.RunsTo (fun _ _ => True) es s) :
    Throughout ConnectsFreeClient (peerLog s.trace) ↔ Port.RunsTo TriggeredWhileFree es s := by
  refine Run.iff_of_step (I := fun _ => True) (G := fun s => Throughout ConnectsFreeClient (peerLog s.trace)) ?_ ?_ h
    trivial throughout_nil
  · intro _ _ _ _ _
    trivial
  · intro s e t _ he
    exact step_exclusive_iff he

/-- The console connects the client, the connection is established and released, and the client connected again. -/
def connectTwice : List PortEvent :=
  [.console 'd' (.success (some 1)), .coverArt (.connectionEstablished 0 1), .coverArt (.connectionReleased 1),
    .console 'd' (.success (some 2))]

theorem client_exclusive_iff_connectTwice :
    ∃ s : Port (.reference true), Port.RunsTo (fun _ _ => True) connectTwice s ∧
      (Throughout ConnectsFreeClient (peerLog s.trace) ↔ Port.RunsTo TriggeredWhileFree connectTwice s) := by
  obtain ⟨s, hs⟩ : ∃ s : Port (.reference true), Port.RunsTo (fun _ _ => True) connectTwice s :=
    ⟨_, .cons trivial rfl (.cons trivial rfl (.cons trivial rfl (.cons trivial rfl (.nil _))))⟩
  exact ⟨s, hs, client_exclusive_iff hs⟩

/-- The console's `'d'` before the capability query is done: the client is handed over twice. -/
theorem client_connected_twice :
    ∃ s : Port (.reference true),
      Port.RunsTo (fun _ _ => True)
        [.avrcp (.connectionEstablished 0 1 deviceAddr), .console 'd' (.success (some 1)),
          .avrcpController (.getCapabilityEventIdDone (.success (some 2)))] s ∧
      ¬ Throughout ConnectsFreeClient (peerLog s.trace) := by
  refine ⟨_, .cons trivial rfl (.cons trivial rfl (.cons trivial rfl (.nil _))), ?_⟩
  intro h
  have hfree := h.get (i := 4) rfl 0 rfl
  cases hfree

end BtstackPort
