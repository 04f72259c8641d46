import BtstackPort.Port.Machine
/-!
# Refused thumbnail requests (`btstack_main.c:300-310`)

`'@'` stores the file it opened, the size `0` and the flag before it asks for the thumbnail, and only prints the status
it gets. `refusal_changes_nothing_iff` says when a refusal goes unnoticed all the same: only if the flag was set by an
`'@'` whose `fopen` failed, and `fopen` fails again.

No handler reads the trace (`foldlM_after`), so states that differ in nothing else serve all later events alike.
-/

namespace BtstackPort

open FaultMachine Stdio

variable {P : Platform}

/-! ## Later events -/

namespace Port

/-- What later events lead to: the globals, and what was received and called on the way. -/
def later (s : Port P) (es : List PortEvent) : Except PortFault (Port P × List Action) :=
  (es.foldlM step s).map fun t => ({ t with trace := [] }, t.trace.drop s.trace.length)

/-- The same globals after a longer past. -/
def after (past : List Action) (s : Port P) : Port P := { s with trace := past ++ s.trace }

theorem controller_after (e : AvrcpControllerEvent) (past : List Action) (s : Port P) :
    avrcpControllerPacketHandler e (s.after past) =
      (avrcpControllerPacketHandler e s).map fun (t, cs) => (t.after past, cs) := by
  by_cases hcid : s.avrcpConnection.avrcpCid = 0
  · simp [avrcpControllerPacketHandler, after, hcid, Except.map]
  · cases e with
    | getCapabilityEventId eventId =>
      by_cases hshift : eventId.toNat < 31 <;>
        simp [avrcpControllerPacketHandler, after, hcid, hshift, Except.map]
    | uidsChanged =>
      by_cases hclient : s.coverArtClientConnected <;>
        simp [avrcpControllerPacketHandler, after, hcid, hclient, Except.map]
    | nowPlayingCoverArtInfo value =>
      by_cases hlength : value.length = 7 <;>
        simp [avrcpControllerPacketHandler, after, hcid, hlength, Except.map]
    | _ => simp [avrcpControllerPacketHandler, coverArtConnect, after, hcid, Except.map]

theorem coverArt_after (e : CoverArtEvent) (past : List Action) (s : Port P) :
    coverArtPacketHandler e (s.after past) = (coverArtPacketHandler e s).map fun (t, cs) => (t.after past, cs) := by
  cases e with
  | bipData packet =>
    cases hactive : s.download.active <;> cases hfile : s.download.file <;>
      simp [coverArtPacketHandler, after, hactive, hfile, Except.map]
  | operationComplete =>
    cases hactive : s.download.active <;> cases hfile : s.download.file <;>
      simp [coverArtPacketHandler, after, hactive, hfile, Except.map]
  | connectionEstablished status cid =>
    by_cases hstatus : status = 0 <;> simp [coverArtPacketHandler, after, hstatus, Except.map]
  | _ => rfl

theorem handle_after (e : PortEvent) (past : List Action) (s : Port P) :
    handle e (s.after past) = (handle e s).map fun (t, cs) => (t.after past, cs) := by
  cases e with
  | sink e =>
    simp only [handle, after]
    cases BtstackPort.step s.sink e <;> rfl
  | avrcp e =>
    cases e with
    | connectionEstablished status cid addr =>
      by_cases hstatus : status = 0 <;> simp [handle, avrcpPacketHandler, after, hstatus, Except.map]
    | _ => rfl
  | avrcpController e => exact controller_after e past s
  | avrcpTarget e => cases e <;> rfl
  | coverArt e => exact coverArt_after e past s
  | console cmd reply =>
    simp only [handle, stdinProcess]
    split
    all_goals first | rfl | (split <;> rfl)

theorem step_after (e : PortEvent) (past : List Action) (s : Port P) :
    step (s.after past) e = (step s e).map (after past) := by
  unfold step
  rw [handle_after]
  cases handle e s with
  | error f => rfl
  | ok u =>
    obtain ⟨u, cs⟩ := u
    simp [after, Except.map, List.append_assoc, pure, Except.pure]

theorem foldlM_after (es : List PortEvent) (past : List Action) (s : Port P) :
    es.foldlM step (s.after past) = (es.foldlM step s).map (after past) := by
  induction es generalizing s with
  | nil => rfl
  | cons e es ih =>
    rw [List.foldlM_cons, List.foldlM_cons, step_after]
    cases step s e with
    | error f => rfl
    | ok t => exact ih t

/-- What happened before does not matter to later events. -/
theorem later_after (es : List PortEvent) (past : List Action) (s : Port P) : (s.after past).later es = s.later es := by
  unfold later
  rw [foldlM_after]
  cases es.foldlM step s with
  | error f => rfl
  | ok t => simp [Except.map, after, List.drop_append]

end Port

/-- The two states serve all later events alike. -/
def HandledAlike (s t : Port P) : Prop := ∀ es, s.later es = t.later es

/-- The command that led from `s` to `t` left the download alone, and no later event can tell that it was issued. -/
def ChangesNothing (s t : Port P) : Prop :=
  (t.download.active = s.download.active ∧ t.download.fileSize = s.download.fileSize ∧
    t.download.file = s.download.file) ∧ HandledAlike s t

theorem handledAlike_of_trace {s t : Port P} (h : { t with trace := s.trace } = s) : HandledAlike s t := by
  have hs : ({ s with trace := [] } : Port P).after s.trace = s := by simp [Port.after]
  have ht : ({ s with trace := [] } : Port P).after t.trace = t := by
    rw [← h]
    simp [Port.after]
  intro es
  rw [← hs, ← ht, Port.later_after, Port.later_after]

/-! ## Reachable downloads -/

/-- The stored file was opened before; a download without a file has received nothing. -/
structure CoverArtDownload.Sound (d : CoverArtDownload) : Prop where
  opened : ∀ f, d.file = some f → f < d.filesOpened
  noFile : d.active = true → d.file = none → d.fileSize = 0

/-- BIP data for a download without a file faults. -/
theorem step_bipData_file {s t : Port P} {packet : BipPacket}
    (h : Port.step s (.coverArt (.bipData packet)) = .ok t) (hactive : s.download.active = true) :
    s.download.file ≠ none := by
  intro hnone
  obtain ⟨u, cs, hu, -⟩ := Port.step_returns.1 h
  simp [Port.handle, coverArtPacketHandler, hactive, hnone] at hu

theorem CoverArtDownload.Sound.step {s t : Port P} {e : PortEvent} (h : s.download.Sound)
    (he : Port.step s e = .ok t) : t.download.Sound := by
  rw [(step_download he).1]
  cases e with
  | console cmd reply =>
    by_cases hcmd : cmd = '@'
    · subst hcmd
      by_cases hopened : reply.fileOpened
      · constructor <;> simp [hopened]
      · constructor <;> simp [hopened]
    · simpa [hcmd] using h
  | coverArt e =>
    by_cases hactive : s.download.active
    · cases e with
      | bipData packet =>
        have hfile := step_bipData_file he hactive
        constructor
        · simpa [hactive] using h.opened
        · intro _ hnone
          exact absurd (by simpa [hactive] using hnone) hfile
      | operationComplete => constructor <;> simp [hactive]
      | _ => exact h
    · cases e <;> simpa [hactive] using h
  | _ => exact h

theorem sound_initial : (Port.initial P).download.Sound := ⟨by simp [Port.initial], by simp [Port.initial]⟩

theorem run_sound {es : List PortEvent} {s : Port P} (h : Port.RunsTo (fun _ _ => True) es s) : s.download.Sound :=
  h.inv (I := fun s => s.download.Sound) (fun _ _ _ hs _ he => hs.step he) sound_initial

/-! ## Refused requests -/

/-- A download was flagged active already, by an `'@'` whose `fopen` failed, and `fopen` fails again. -/
def RequestsAgainWithoutFile (s : Port P) (reply : Reply) : Prop :=
  s.download.active = true ∧ s.download.file = none ∧ reply.fileOpened = false

/-- Accepted or not, a request leaves its mark unless the same has failed before. -/
theorem getLinkedThumbnail_changes_nothing_iff {s t : Port P} {reply : Reply} (hs : s.download.Sound)
    (he : Port.step s (.console '@' reply) = .ok t) : ChangesNothing s t ↔ RequestsAgainWithoutFile s reply := by
  have hnext := (step_download he).1
  constructor
  · rintro ⟨⟨hactive, -, hfile⟩, -⟩
    by_cases hopened : reply.fileOpened
    · -- the file just opened would be the one stored before
      have hold := hs.opened s.download.filesOpened (by rw [← hfile, hnext]; simp [hopened])
      exact absurd hold (Nat.lt_irrefl _)
    · rw [hnext] at hactive hfile
      simp only [CoverArtDownload.next, hopened] at hactive hfile
      exact ⟨hactive.symm, hfile.symm, by simpa using hopened⟩
  · rintro ⟨hactive, hnone, hfailed⟩
    have hsame : (getLinkedThumbnail reply s).1 = s := by
      have hdownload : s.download = ⟨true, 0, none, s.download.filesOpened⟩ := by
        rw [← hactive, ← hs.noFile hactive hnone, ← hnone]
      simp [getLinkedThumbnail, hfailed, ← hdownload]
    obtain ⟨u, cs, hu, rfl⟩ := Port.step_returns.1 he
    have hu : getLinkedThumbnail reply s = (u, cs) := Except.ok.inj hu
    rw [hu] at hsame
    subst hsame
    exact ⟨⟨rfl, rfl, rfl⟩, handledAlike_of_trace rfl⟩

/-- A request refused at this step changes nothing. -/
def RefusalChangesNothing (s : Port P) (e : PortEvent) : Prop :=
  ∀ reply t, e = .console '@' reply → reply.status ≠ 0 → Port.step s e = .ok t → ChangesNothing s t

/-- A request refused at this step found things as it leaves them. -/
def RefusalUnnoticed (s : Port P) (e : PortEvent) : Prop :=
  ∀ reply, e = .console '@' reply → reply.status ≠ 0 → RequestsAgainWithoutFile s reply

theorem refusalChangesNothing_iff {s t : Port P} {e : PortEvent} (hs : s.download.Sound)
    (he : Port.step s e = .ok t) : RefusalChangesNothing s e ↔ RefusalUnnoticed s e := by
  constructor
  · rintro h reply rfl hrefused
    exact (getLinkedThumbnail_changes_nothing_iff hs he).1 (h reply t rfl hrefused he)
  · rintro h reply u rfl hrefused hu
    exact (getLinkedThumbnail_changes_nothing_iff hs hu).2 (h reply rfl hrefused)

/-- **Refusal**: in every reachable state a refused request changes nothing exactly if it finds a download flagged
active without a file and `fopen` fails again; so the runs in which every refusal changes nothing are the runs in which
every refusal is of that kind. -/
theorem refusals_change_nothing_iff {es : List PortEvent} {s : Port P} (h : Port.RunsTo (fun _ _ => True) es s) :
    (∀ reply t, reply.status ≠ 0 → Port.step s (.console '@' reply) = .ok t →
      (ChangesNothing s t ↔ RequestsAgainWithoutFile s reply)) ∧
      (Port.RunsTo RefusalChangesNothing es s ↔ Port.RunsTo RefusalUnnoticed es s) := by
  refine ⟨fun reply t _ he => getLinkedThumbnail_changes_nothing_iff (run_sound h) he, ?_⟩
  refine h.iff_of_guard (J := fun s => s.download.Sound) ?_ ?_ sound_initial
  · intro s e t hs _ _ he
    exact hs.step he
  · intro s e t hs _ he
    exact refusalChangesNothing_iff hs he

/-- The cover-art connection is up, `fopen` fails for a thumbnail that is granted all the same, and fails again for one
that is refused because the transfer is running. -/
def withoutFile : List PortEvent :=
  [.console 'd' (.success (some 1)), .coverArt (.connectionEstablished 0 1), .console '@' ⟨0, none, false⟩,
    .console '@' ⟨12, none, false⟩]

theorem refusals_change_nothing_withoutFile :
    ∃ s : Port (.reference true), Port.RunsTo (fun _ _ => True) withoutFile s ∧
      (∀ reply t, reply.status ≠ 0 → Port.step s (.console '@' reply) = .ok t →
        (ChangesNothing s t ↔ RequestsAgainWithoutFile s reply)) ∧
      (Port.RunsTo RefusalChangesNothing withoutFile s ↔ Port.RunsTo RefusalUnnoticed withoutFile s) := by
  obtain ⟨s, hs⟩ : ∃ s : Port (.reference true), Port.RunsTo (fun _ _ => True) withoutFile s :=
    ⟨_, .cons trivial rfl (.cons trivial rfl (.cons trivial rfl (.cons trivial rfl (.nil _))))⟩
  exact ⟨s, hs, refusals_change_nothing_iff hs⟩

/-- A request refused during a transfer replaces the file and restarts the size; one refused without a connection sets
the flag. -/
theorem refusal_replaces_download :
    (∃ s t : Port (.reference true),
      Port.RunsTo (fun _ _ => True)
        [.console 'd' (.success (some 1)), .coverArt (.connectionEstablished 0 1), .console '@' (.success none),
          .coverArt (.bipData ⟨[1, 2, 3], by decide⟩)] s ∧
      Port.step s (.console '@' ⟨12, none, true⟩) = .ok t ∧
      s.download = ⟨true, 3, some 0, 1⟩ ∧ t.download = ⟨true, 0, some 1, 2⟩ ∧ ¬ ChangesNothing s t) ∧
    ∃ t : Port (.reference true),
      Port.step (.initial _) (.console '@' ⟨2, none, true⟩) = .ok t ∧
      t.download = ⟨true, 0, some 0, 1⟩ ∧ ¬ ChangesNothing (.initial _) t := by
  refine ⟨⟨_, _, .cons trivial rfl (.cons trivial rfl (.cons trivial rfl (.cons trivial rfl (.nil _)))), rfl, rfl, rfl,
    ?_⟩, ⟨_, rfl, rfl, ?_⟩⟩
  · rintro ⟨⟨-, hsize, -⟩, -⟩
    cases hsize
  · rintro ⟨⟨hactive, -⟩, -⟩
    cases hactive

end BtstackPort
