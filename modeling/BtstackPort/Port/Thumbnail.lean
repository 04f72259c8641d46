import BtstackPort.Port.Machine
/-!
# The thumbnail file (`btstack_main.c:300-310`, `cover_art.c:12-85`)

A download is three globals: the flag, the file and the size. `Recorded` is what holds between them and the log of file
operations in every run in which `fopen` succeeds: the flag is set exactly while the stored file is open, and the size is
what was written to it.

Files are not always closed, though: `'@'` opens the next file whatever became of the last one, whether or not the
request is accepted, and the release of the cover-art connection closes nothing. `thumbnail_files_closed_iff` says
exactly when every file is closed in time.
-/

namespace BtstackPort

open FaultMachine Stdio Trace

variable {P : Platform}

def FopenSucceeds (e : PortEvent) : Prop := ∀ reply, e = .console '@' reply → reply.fileOpened = true

/-- The download globals say what the log of file operations says. -/
structure Recorded (d : CoverArtDownload) (log : List (FileOp Nat)) : Prop where
  wellUsed : Throughout WellUsed log
  opened : ∀ f, .fopen f ∈ log → f < d.filesOpened
  active : d.active = true → ∃ f, d.file = some f ∧ IsOpen f log ∧ d.fileSize = .ofNat (contents f log).length
  idle : d.active = false → d.file = none

theorem recorded_initial : Recorded (Port.initial P).download (fileLog (Port.initial P).trace) where
  wellUsed := throughout_nil
  opened f hf := by cases hf
  active h := by cases h
  idle _ := rfl

theorem BipPacket.toUInt32_size (packet : BipPacket) : packet.size.toUInt32 = .ofNat packet.bytes.length := by
  have hfits := packet.fits
  apply UInt32.toNat_inj.1
  simp [BipPacket.size]
  omega

/-- Four things can happen to the download. -/
theorem CoverArtDownload.next_cases (d : CoverArtDownload) {e : PortEvent} (hopen : FopenSucceeds e) :
    (∃ reply, e = .console '@' reply ∧ d.next e = ⟨true, 0, some d.filesOpened, d.filesOpened + 1⟩ ∧
      d.fileOps e = [.fopen d.filesOpened]) ∨
    (∃ packet, e = .coverArt (.bipData packet) ∧ d.active = true ∧
      d.next e = { d with fileSize := d.fileSize + packet.size.toUInt32 } ∧
      d.fileOps e = d.file.toList.map (.fwrite · packet.bytes)) ∨
    (e = .coverArt .operationComplete ∧ d.active = true ∧ d.next e = { d with active := false, file := none } ∧
      d.fileOps e = d.file.toList.map .fclose) ∨
    (d.next e = d ∧ d.fileOps e = [] ∧ (∀ reply, e ≠ .console '@' reply) ∧
      (e = .coverArt .operationComplete → d.active = false)) := by
  cases e with
  | console cmd reply =>
    by_cases hcmd : cmd = '@'
    · subst hcmd
      have ho := hopen reply rfl
      exact Or.inl ⟨reply, rfl, by simp [ho], by simp [ho]⟩
    · exact Or.inr (Or.inr (Or.inr ⟨by simp [hcmd], by simp [hcmd], by simp [hcmd], by simp⟩))
  | coverArt e =>
    cases e with
    | bipData packet =>
      by_cases hactive : d.active
      · exact Or.inr (Or.inl ⟨packet, rfl, hactive, by simp [hactive], by simp [hactive]⟩)
      · exact Or.inr (Or.inr (Or.inr ⟨by simp [hactive], by simp [hactive], by simp, by simp⟩))
    | operationComplete =>
      by_cases hactive : d.active
      · exact Or.inr (Or.inr (Or.inl ⟨rfl, hactive, by simp [hactive], by simp [hactive]⟩))
      · exact Or.inr (Or.inr (Or.inr ⟨by simp [hactive], by simp [hactive], by simp, by simpa using hactive⟩))
    | _ => exact Or.inr (Or.inr (Or.inr ⟨rfl, rfl, by simp, by simp⟩))
  | _ => exact Or.inr (Or.inr (Or.inr ⟨rfl, rfl, by simp, by simp⟩))

theorem Recorded.step {d : CoverArtDownload} {log : List (FileOp Nat)} (h : Recorded d log) {e : PortEvent}
    (hopen : FopenSucceeds e) : Recorded (d.next e) (log ++ d.fileOps e) := by
  rcases d.next_cases hopen with
    ⟨reply, -, hnext, hops⟩ | ⟨packet, -, hactive, hnext, hops⟩ | ⟨-, hactive, hnext, hops⟩ | ⟨hnext, hops, -⟩
  · -- a stream that was never opened before
    have hfresh : .fopen d.filesOpened ∉ log := fun hmem => absurd (h.opened _ hmem) (Nat.lt_irrefl _)
    rw [hnext, hops]
    constructor
    · exact throughout_snoc.2 ⟨h.wellUsed, hfresh⟩
    · intro f hf
      rcases List.mem_append.1 hf with hf | hf
      · exact Nat.lt_succ_of_lt (h.opened f hf)
      · cases List.mem_singleton.1 hf
        exact Nat.lt_succ_self _
    · intro _
      refine ⟨_, rfl, isOpen_snoc.2 (Or.inl rfl), ?_⟩
      rw [contents_append, contents_eq_nil h.wellUsed hfresh]
      rfl
    · intro hidle
      cases hidle
  · obtain ⟨f, hf, hfopen, hsize⟩ := h.active hactive
    rw [hnext, hops, hf]
    constructor
    · exact throughout_snoc.2 ⟨h.wellUsed, hfopen⟩
    · intro g hg
      exact h.opened g (by simpa using hg)
    · intro _
      refine ⟨f, rfl, isOpen_snoc.2 (Or.inr ⟨hfopen, by simp⟩), ?_⟩
      simp [hsize, BipPacket.toUInt32_size, FileOp.bytesTo]
    · intro hidle
      rw [hactive] at hidle
      cases hidle
  · obtain ⟨f, hf, hfopen, -⟩ := h.active hactive
    rw [hnext, hops, hf]
    constructor
    · exact throughout_snoc.2 ⟨h.wellUsed, hfopen⟩
    · intro g hg
      exact h.opened g (by simpa using hg)
    · intro hactive
      cases hactive
    · intro _
      rfl
  · rw [hnext, hops, List.append_nil]
    exact h

theorem run_recorded {es : List PortEvent} {s : Port P} (h : Port.RunsTo (fun _ e => FopenSucceeds e) es s) :
    Recorded s.download (fileLog s.trace) := by
  refine h.inv (I := fun s => Recorded s.download (fileLog s.trace)) ?_ recorded_initial
  intro s e t hs hopen he
  obtain ⟨hnext, hlog⟩ := step_download he
  rw [hnext, hlog]
  exact hs.step hopen

/-! ## Writes are safe, sizes are right -/

/-- `fwrite` or `fclose` is given `NULL` only while a download is active without a file. -/
theorem coverArt_nullFile {e : CoverArtEvent} {s : Port P} (h : coverArtPacketHandler e s = .error .nullFile) :
    s.download.active = true ∧ s.download.file = none := by
  cases e with
  | bipData packet =>
    simp only [coverArtPacketHandler] at h
    split at h
    · rename_i hactive
      split at h
      · rename_i hnone
        exact ⟨hactive, hnone⟩
      · cases h
    · cases h
  | operationComplete =>
    simp only [coverArtPacketHandler] at h
    split at h
    · rename_i hactive
      split at h
      · rename_i hnone
        exact ⟨hactive, hnone⟩
      · cases h
    · cases h
  | connectionEstablished status cid =>
    simp only [coverArtPacketHandler] at h
    split at h <;> cases h
  | connectionReleased cid => cases h
  | ignored => cases h

theorem controller_not_nullFile (e : AvrcpControllerEvent) (s : Port P) :
    avrcpControllerPacketHandler e s ≠ .error .nullFile := by
  intro h
  unfold avrcpControllerPacketHandler at h
  split at h
  · cases h
  · cases e <;> simp only at h
    all_goals first | cases h | (split at h <;> cases h)

theorem step_nullFile {s : Port P} {e : PortEvent} (h : Port.step s e = .error .nullFile) :
    s.download.active = true ∧ s.download.file = none := by
  rcases bind_faults.1 h with h | ⟨a, -, h⟩
  · cases e with
    | sink e =>
      rcases bind_faults.1 h with h | ⟨a, -, h⟩
      · cases hs : BtstackPort.step s.sink e <;> rw [hs] at h <;> cases h
      · cases h
    | avrcpController e => exact absurd h (controller_not_nullFile e s)
    | coverArt e => exact coverArt_nullFile h
    | _ => cases h
  · cases h

/-- **Write safety**: in every run in which `fopen` succeeds, the flag is set exactly while the stored file is open,
only open files are written and closed and never `NULL`, and the size, which is also the size reported when the download
is complete, is what was written to the file, modulo `2 ^ 32`. -/
theorem thumbnail_writes_safe {es : List PortEvent} {s : Port P}
    (h : Port.RunsTo (fun _ e => FopenSucceeds e) es s) :
    (s.download.active = true ↔ ∃ f, s.download.file = some f ∧ IsOpen f (fileLog s.trace)) ∧
      Throughout WellUsed (fileLog s.trace) ∧
      (∀ e, Port.step s e ≠ .error .nullFile) ∧
      (∀ f, s.download.active = true → s.download.file = some f →
        s.download.fileSize = .ofNat (contents f (fileLog s.trace)).length) ∧
      ∀ t : Port P, s.download.active = true → Port.step s (.coverArt .operationComplete) = .ok t →
        ∃ f, s.download.file = some f ∧
          peerLog t.trace = peerLog s.trace ++ [.received (.coverArt .operationComplete),
            .reportDownload (.ofNat (contents f (fileLog s.trace)).length), .file (.fclose f)] := by
  have hs := run_recorded h
  refine ⟨?_, hs.wellUsed, ?_, ?_, ?_⟩
  · constructor
    · intro hactive
      obtain ⟨f, hf, hopen, -⟩ := hs.active hactive
      exact ⟨f, hf, hopen⟩
    · rintro ⟨f, hf, -⟩
      by_contra hidle
      rw [hs.idle (by simpa using hidle)] at hf
      cases hf
  · intro e he
    obtain ⟨hactive, hnone⟩ := step_nullFile he
    obtain ⟨f, hf, -⟩ := hs.active hactive
    rw [hnone] at hf
    cases hf
  · intro f hactive hf
    obtain ⟨g, hg, -, hsize⟩ := hs.active hactive
    rw [hf] at hg
    cases hg
    exact hsize
  · intro t hactive ht
    obtain ⟨f, hf, -, hsize⟩ := hs.active hactive
    refine ⟨f, hf, ?_⟩
    rw [(step_peer ht).2, ← hsize]
    have hv : s.peer.download = s.download := rfl
    simp [PeerView.actions, PeerView.effects, hv, hactive, hf]

/-- A thumbnail of three bytes is requested, received and complete, and another one requested and received. -/
def twoThumbnails : List PortEvent :=
  [.console '@' (.success none), .coverArt (.bipData ⟨[1, 2, 3], by decide⟩), .coverArt .operationComplete,
    .console '@' (.success none), .coverArt (.bipData ⟨[4, 5, 6], by decide⟩)]

theorem twoThumbnails_run :
    ∃ s : Port (.reference true), Port.RunsTo (fun _ e => FopenSucceeds e) twoThumbnails s := by
  refine ⟨_, .cons ?_ rfl (.cons ?_ rfl (.cons ?_ rfl (.cons ?_ rfl (.cons ?_ rfl (.nil _)))))⟩
  all_goals (intro reply h; cases h <;> rfl)

theorem thumbnail_writes_safe_twoThumbnails :
    ∃ s : Port (.reference true), Port.RunsTo (fun _ e => FopenSucceeds e) twoThumbnails s ∧
      (s.download.active = true ↔ ∃ f, s.download.file = some f ∧ IsOpen f (fileLog s.trace)) ∧
      Throughout WellUsed (fileLog s.trace) ∧
      (∀ e, Port.step s e ≠ .error .nullFile) ∧
      (∀ f, s.download.active = true → s.download.file = some f →
        s.download.fileSize = .ofNat (contents f (fileLog s.trace)).length) ∧
      ∀ t : Port (.reference true), s.download.active = true →
        Port.step s (.coverArt .operationComplete) = .ok t →
          ∃ f, s.download.file = some f ∧
            peerLog t.trace = peerLog s.trace ++ [.received (.coverArt .operationComplete),
              .reportDownload (.ofNat (contents f (fileLog s.trace)).length), .file (.fclose f)] := by
  obtain ⟨s, hs⟩ := twoThumbnails_run
  exact ⟨s, hs, thumbnail_writes_safe hs⟩

/-! ## Files are not always closed -/

/-- The transfer ends: it is complete, the request is refused, or the connection is released. -/
def EndsTransfer : PortEvent → Prop
  | .coverArt .operationComplete => True
  | .coverArt (.connectionReleased _) => True
  | .console cmd reply => cmd = '@' ∧ reply.status ≠ 0
  | _ => False

/-- Every file is closed, once, before the next one is opened and when a transfer has ended. -/
def KeepsFilesClosed (s : Port P) (e : PortEvent) : Prop :=
  ((∃ reply, e = .console '@' reply) → AllClosedOnce (fileLog s.trace)) ∧
    ∀ t : Port P, EndsTransfer e → Port.step s e = .ok t → AllClosedOnce (fileLog t.trace)

/-- A thumbnail is requested only while none is being downloaded, the request is accepted, and the cover-art
connection is not released during a download. -/
def RequestsOneByOne (s : Port P) : PortEvent → Prop
  | .console cmd reply => cmd = '@' → s.download.active = false ∧ reply.status = 0
  | .coverArt (.connectionReleased _) => s.download.active = false
  | _ => True

/-- A thumbnail is requested only while none is being downloaded. -/
def RequestsAtRest (s : Port P) (e : PortEvent) : Prop :=
  ∀ reply, e = .console '@' reply → s.download.active = false

theorem RequestsOneByOne.atRest {s : Port P} {e : PortEvent} (h : RequestsOneByOne s e) : RequestsAtRest s e := by
  rintro reply rfl
  exact (h rfl).1

/-- The download globals are `Recorded`, and no other file than theirs is open. -/
structure OneFile (d : CoverArtDownload) (log : List (FileOp Nat)) : Prop extends Recorded d log where
  only : ∀ f, IsOpen f log → d.active = true ∧ d.file = some f

theorem OneFile.allClosedOnce_iff {d : CoverArtDownload} {log : List (FileOp Nat)} (h : OneFile d log) :
    AllClosedOnce log ↔ d.active = false := by
  rw [Stdio.allClosedOnce_iff h.wellUsed]
  constructor
  · intro hnone
    by_contra hactive
    obtain ⟨f, -, hf, -⟩ := h.active (by simpa using hactive)
    exact hnone f hf
  · intro hidle f hf
    have hactive := (h.only f hf).1
    rw [hidle] at hactive
    cases hactive

/-- Requests at rest keep to one file. -/
theorem oneFile_step {s t : Port P} {e : PortEvent} (h : OneFile s.download (fileLog s.trace))
    (hopen : FopenSucceeds e) (hok : RequestsAtRest s e) (he : Port.step s e = .ok t) :
    OneFile t.download (fileLog t.trace) := by
  obtain ⟨hnext, hlog⟩ := step_download he
  rw [hnext, hlog]
  refine ⟨h.toRecorded.step hopen, ?_⟩
  rcases s.download.next_cases hopen with
    ⟨reply, rfl, hd, hops⟩ | ⟨packet, -, hactive, hd, hops⟩ | ⟨-, hactive, hd, hops⟩ | ⟨hd, hops, -⟩
  · -- nothing was open before
    have hidle := hok reply rfl
    rw [hd, hops]
    intro f hf
    rcases isOpen_snoc.1 hf with hf | ⟨hf, -⟩
    · cases hf
      exact ⟨rfl, rfl⟩
    · have hactive := (h.only f hf).1
      rw [hidle] at hactive
      cases hactive
  · obtain ⟨g, hg, -⟩ := h.active hactive
    rw [hd, hops, hg]
    intro f hf
    rcases isOpen_snoc.1 hf with hf | ⟨hf, -⟩
    · cases hf
    · rw [← hg]
      exact h.only f hf
  · obtain ⟨g, hg, -⟩ := h.active hactive
    rw [hd, hops, hg]
    intro f hf
    rcases isOpen_snoc.1 hf with hf | ⟨hf, hne⟩
    · cases hf
    · have hfile := (h.only f hf).2
      rw [hg] at hfile
      cases hfile
      exact absurd rfl hne
  · rw [hd, hops, List.append_nil]
    exact h.only

/-- Files are kept closed at a step exactly if it is allowed. -/
theorem keepsFilesClosed_iff {s t : Port P} {e : PortEvent} (h : OneFile s.download (fileLog s.trace))
    (hopen : FopenSucceeds e) (he : Port.step s e = .ok t) : KeepsFilesClosed s e ↔ RequestsOneByOne s e := by
  have hstep : RequestsOneByOne s e → OneFile t.download (fileLog t.trace) := fun hok =>
    oneFile_step h hopen hok.atRest he
  obtain ⟨hnext, hlog⟩ := step_download he
  constructor
  · rintro ⟨hbefore, hafter⟩
    unfold RequestsOneByOne
    split
    · rintro rfl
      rename_i reply
      refine ⟨h.allClosedOnce_iff.1 (hbefore ⟨reply, rfl⟩), ?_⟩
      by_contra hrefused
      -- a refused request leaves the new file open
      have hclosed := hafter t ⟨rfl, hrefused⟩ he
      have hrec := h.toRecorded.step hopen
      rw [← hnext, ← hlog] at hrec
      refine (allClosedOnce_iff hrec.wellUsed).1 hclosed s.download.filesOpened ?_
      rw [hlog]
      simp [hopen reply rfl]
    · have hclosed := hafter t trivial he
      rw [hlog] at hclosed
      simpa using h.allClosedOnce_iff.1 (by simpa using hclosed)
    · trivial
  · intro hok
    refine ⟨?_, ?_⟩
    · rintro ⟨reply, rfl⟩
      exact h.allClosedOnce_iff.2 (hok rfl).1
    · intro t' hends he'
      obtain rfl := Except.ok.inj (he.symm.trans he')
      rw [(hstep hok).allClosedOnce_iff, hnext]
      unfold EndsTransfer at hends
      split at hends
      · by_cases hactive : s.download.active <;> simp [hactive]
      · exact hok
      · obtain ⟨rfl, hrefused⟩ := hends
        exact absurd (hok rfl).2 hrefused
      · contradiction

theorem oneFile_initial : OneFile (Port.initial P).download (fileLog (Port.initial P).trace) :=
  ⟨recorded_initial, fun _ hf => absurd hf not_isOpen_nil⟩

/-- **File discipline**: in the runs in which `fopen` succeeds, files are closed in time exactly when thumbnails are
requested one by one. -/
theorem thumbnail_files_closed_iff {es : List PortEvent} {s : Port P}
    (h : Port.RunsTo (fun _ e => FopenSucceeds e) es s) :
    Port.RunsTo KeepsFilesClosed es s ↔ Port.RunsTo RequestsOneByOne es s := by
  refine h.iff_of_guard (J := fun s => OneFile s.download (fileLog s.trace)) ?_ ?_ oneFile_initial
  · intro s e t hs hopen hok he
    exact oneFile_step hs hopen hok.atRest he
  · intro s e t hs hopen he
    exact keepsFilesClosed_iff hs hopen he

theorem thumbnail_files_closed_iff_twoThumbnails :
    ∃ s : Port (.reference true), Port.RunsTo (fun _ e => FopenSucceeds e) twoThumbnails s ∧
      (Port.RunsTo KeepsFilesClosed twoThumbnails s ↔ Port.RunsTo RequestsOneByOne twoThumbnails s) := by
  obtain ⟨s, hs⟩ := twoThumbnails_run
  exact ⟨s, hs, thumbnail_files_closed_iff hs⟩

/-- A file that is left behind when a transfer ends was not closed in time. -/
theorem not_keepsFilesClosed {es : List PortEvent} {e : PortEvent} {s : Port P} (hends : EndsTransfer e)
    {f : Nat} (hopened : .fopen f ∈ fileLog s.trace) (hleft : (fileLog s.trace).count (.fclose f) = 0) :
    ¬ Port.RunsTo KeepsFilesClosed (es ++ [e]) s := by
  intro h
  obtain ⟨u, -, hkeeps, he⟩ := run_snoc.1 h
  have hone := hkeeps.2 s hends he f hopened
  rw [hleft] at hone
  cases hone

/-- A second request during a download leaves the first file open for good, a refused request leaves its file open, and
so does the release of the connection. -/
theorem thumbnail_files_leak :
    (∃ s : Port (.reference true),
      Port.RunsTo (fun _ e => FopenSucceeds e)
        ([.console '@' (.success none), .console '@' (.success none)] ++ [PortEvent.coverArt .operationComplete]) s ∧
      ¬ Port.RunsTo KeepsFilesClosed
        ([.console '@' (.success none), .console '@' (.success none)] ++ [PortEvent.coverArt .operationComplete]) s) ∧
    (∃ s : Port (.reference true),
      Port.RunsTo (fun _ e => FopenSucceeds e) ([] ++ [PortEvent.console '@' ⟨12, none, true⟩]) s ∧
      ¬ Port.RunsTo KeepsFilesClosed ([] ++ [PortEvent.console '@' ⟨12, none, true⟩]) s) ∧
    ∃ s : Port (.reference true),
      Port.RunsTo (fun _ e => FopenSucceeds e)
        ([.console '@' (.success none)] ++ [PortEvent.coverArt (.connectionReleased 1)]) s ∧
      ¬ Port.RunsTo KeepsFilesClosed
        ([.console '@' (.success none)] ++ [PortEvent.coverArt (.connectionReleased 1)]) s := by
  refine ⟨?_, ?_, ?_⟩
  · refine ⟨_, .cons ?_ rfl (.cons ?_ rfl (.cons ?_ rfl (.nil _))),
      not_keepsFilesClosed (f := 0) trivial (by decide) (by decide)⟩
    all_goals (intro reply h; cases h <;> rfl)
  · refine ⟨_, .cons ?_ rfl (.nil _), not_keepsFilesClosed (f := 0) ⟨rfl, by decide⟩ (by decide) (by decide)⟩
    intro reply h
    cases h
    rfl
  · refine ⟨_, .cons ?_ rfl (.cons ?_ rfl (.nil _)), not_keepsFilesClosed (f := 0) trivial (by decide) (by decide)⟩
    all_goals (intro reply h; cases h <;> rfl)

end BtstackPort
