import BtstackPort.Port.State
/-!
# The cover-art client (`cover_art.c`)

A handler yields the state it leaves and the calls it made, in order. BIP data that arrives while no download is active
is only printed.
-/

namespace BtstackPort

open Stdio

variable {P : Platform}

/-- `size`, the last argument of `cover_art_packet_handler`. -/
def BipPacket.size (packet : BipPacket) : UInt16 := .ofNat packet.bytes.length

def coverArtPacketHandler (e : CoverArtEvent) (s : Port P) : Except PortFault (Port P × List PortCall) :=
  match e with
  | .bipData packet =>
    if s.download.active then
      match s.download.file with
      | none => .error .nullFile
      | some f =>
        .ok ({ s with download := { s.download with fileSize := s.download.fileSize + packet.size.toUInt32 } },
          [.file (.fwrite f packet.bytes)])
    else .ok (s, [])
  | .connectionEstablished status _ =>
    if status = 0 then .ok ({ s with coverArtClientConnected := true }, [])
    else .ok ({ s with coverArtCid := 0 }, [])
  | .operationComplete =>
    if s.download.active then
      match s.download.file with
      | none => .error .nullFile
      | some f =>
        .ok ({ s with download := { s.download with active := false, file := none } },
          [.reportDownload s.download.fileSize, .file (.fclose f)])
    else .ok (s, [])
  | .connectionReleased _ => .ok ({ s with coverArtClientConnected := false, coverArtCid := 0 }, [])
  | .ignored => .ok (s, [])

/-- `cover_art_connect` (`cover_art.c:88`); it returns `reply.status`. -/
def coverArtConnect (reply : Reply) (s : Port P) : Port P × List PortCall :=
  ({ s with coverArtCid := reply.cid.getD s.coverArtCid }, [.avrcpCoverArtClientConnect s.deviceAddr reply.status])

end BtstackPort
