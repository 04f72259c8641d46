import BtstackPort.Lib.Stdio
import BtstackPort.Sink.PacketHandler
/-!
# Globals of the whole port (`btstack_global.c:7-43`) and what reaches it

The main thread serves the A2DP sink, the AVRCP and cover-art packet handlers and the console, all over the globals of
`btstack_global.c`. `Port P` holds those globals; `trace` is not a variable of the program: it lists the events the
main thread received and the calls it made while serving each.

What a linked function returns, or stores through a pointer it was given, arrives with the event (`Reply`).

| here | there |
| --- | --- |
| `AvrcpConnection` | `a2dp_sink_demo_avrcp_connection_t` (`btstack_types.h:41`) |
| `CoverArtDownload` | `a2dp_sink_cover_art_download_active`, `…_file_size`, `…_file` |
| `ImageHandle` | the seven bytes of `a2dp_sink_demo_image_handle` that are ever written; the eighth stays NUL |
| `coverArtClientConnected`, `coverArtCid` | `a2dp_sink_demo_cover_art_client_connected`, `a2dp_sink_demo_cover_art_cid` |
-/

namespace BtstackPort

open Stdio

structure AvrcpConnection where
  avrcpCid : UInt16
  playing : Bool
  notificationsSupportedByTarget : UInt16
deriving DecidableEq, Repr

def AvrcpConnection.zero : AvrcpConnection := ⟨0, false, 0⟩

/-- `avrcp_battery_status_t`. -/
inductive BatteryStatus where
  | normal | warning | critical | external | fullCharge
deriving DecidableEq, Repr

/-- A `FILE *` that is not `NULL` is named by the number of the `fopen` that returned it; `filesOpened`, not a variable
of the program, counts them. -/
structure CoverArtDownload where
  active : Bool
  fileSize : UInt32
  file : Option Nat
  filesOpened : Nat
deriving DecidableEq, Repr

abbrev ImageHandle := { value : List UInt8 // value.length = 7 }

/-! ## Events -/

/-- What the linked function called on behalf of an event did. -/
structure Reply where
  status : UInt8
  /-- The connection id it stored through the pointer it was given. -/
  cid : Option UInt16
  /-- `fopen` returned a stream. -/
  fileOpened : Bool
deriving DecidableEq, Repr

/-- Success; `cid` is stored. -/
def Reply.success (cid : Option UInt16) : Reply := ⟨0, cid, true⟩

inductive AvrcpEvent where
  | connectionEstablished (status : UInt8) (cid : UInt16) (addr : BdAddr)
  | connectionReleased (cid : UInt16)
  /-- Other packet types, other HCI events, other subevents. -/
  | ignored
deriving DecidableEq, Repr

/-- `AVRCP_PLAYBACK_STATUS_PLAYING`, and every other value. -/
inductive PlaybackStatus where
  | playing
  | other (code : UInt8)
deriving DecidableEq, Repr

inductive AvrcpControllerEvent where
  | getCapabilityEventId (eventId : UInt8)
  | getCapabilityEventIdDone (reply : Reply)
  | playbackStatusChanged (playStatus : PlaybackStatus)
  | uidsChanged
  | nowPlayingCoverArtInfo (value : List UInt8)
  /-- Events that are only printed, or not handled. -/
  | ignored
deriving DecidableEq, Repr

inductive AvrcpTargetEvent where
  | volumeChanged (absoluteVolume : UInt8)
  /-- Events that are only printed, or not handled. -/
  | ignored
deriving DecidableEq, Repr

/-- A packet of at most `UINT16_MAX` bytes. -/
structure BipPacket where
  bytes : List UInt8
  fits : bytes.length < 2 ^ 16
deriving DecidableEq, Repr

inductive CoverArtEvent where
  | bipData (packet : BipPacket)
  | connectionEstablished (status : UInt8) (cid : UInt16)
  | operationComplete
  | connectionReleased (cid : UInt16)
  | ignored
deriving DecidableEq, Repr

inductive PortEvent where
  | sink (e : SinkEvent)
  | avrcp (e : AvrcpEvent)
  | avrcpController (e : AvrcpControllerEvent)
  | avrcpTarget (e : AvrcpTargetEvent)
  | coverArt (e : CoverArtEvent)
  | console (cmd : Char) (reply : Reply)

/-! ## Calls -/

/-- The values of `avrcp_notification_event_id_t` the port uses. -/
inductive NotificationEvent where
  | playbackStatusChanged | trackChanged | playbackPosChanged | nowPlayingContentChanged | uidsChanged
  | volumeChanged | battStatusChanged
deriving DecidableEq, Repr

inductive RepeatMode where
  | off | singleTrack | allTracks
deriving DecidableEq, Repr

inductive ShuffleMode where
  | off | allTracks
deriving DecidableEq, Repr

/-- The functions `avrcp_controller_*` that take the connection id and nothing the port remembers. -/
inductive ControllerCall where
  | getSupportedEvents
  | getPlayStatus
  | getNowPlayingInfo
  | play
  | stop
  | pause
  | pressAndHoldFastForward
  | pressAndHoldRewind
  | startPressAndHoldCmdRewind
  | releasePressAndHoldCmd
  | forward
  | backward
  | mute
  | skip
  | queryShuffleAndRepeatModes
  | setRepeatMode (mode : RepeatMode)
  | setShuffleMode (mode : ShuffleMode)
  | enableNotification (event : NotificationEvent)
  | disableNotification (event : NotificationEvent)
deriving DecidableEq, Repr

inductive PortCall where
  | a2dpSinkEstablishStream (addr : BdAddr)
  | a2dpSinkDisconnect (cid : UInt16)
  | avdtpSinkDelayReport (cid : UInt16) (seid : UInt8) (delay : Nat)
  | avrcpConnect (addr : BdAddr)
  | avrcpDisconnect (cid : UInt16)
  | avrcpController (cid : UInt16) (call : ControllerCall)
  | avrcpTargetSupportEvent (cid : UInt16) (event : NotificationEvent)
  | avrcpTargetBatteryStatusChanged (cid : UInt16) (status : BatteryStatus)
  /-- Returned `status`. -/
  | avrcpTargetVolumeChanged (cid : UInt16) (volume status : UInt8)
  | audioSetVolume (volume : UInt8)
  /-- Hands over the cover-art client and the ERTM buffer. -/
  | avrcpCoverArtClientConnect (addr : BdAddr) (status : UInt8)
  | avrcpCoverArtClientDisconnect (cid : UInt16)
  | avrcpCoverArtClientGetLinkedThumbnail (cid : UInt16) (imageHandle : ImageHandle)
  /-- On `cover.jpg`. -/
  | file (op : FileOp Nat)
  /-- An `fopen` that returned `NULL`. -/
  | fopenFailed
  /-- `memcpy` to `a2dp_sink_demo_image_handle`. -/
  | storeImageHandle (imageHandle : ImageHandle)
  /-- `printf` of the file size when a download is complete. -/
  | reportDownload (fileSize : UInt32)
deriving DecidableEq, Repr

/-- What the main thread received, and what it called. -/
inductive Action where
  | received (e : PortEvent)
  | called (c : PortCall)

inductive PortFault where
  | sink (f : Fault)
  /-- `1 << event_id` is not representable in `int`. -/
  | shiftOutOfRange (eventId : UInt8)
  /-- `fwrite` or `fclose` with `NULL`. -/
  | nullFile
deriving DecidableEq, Repr

/-! ## State -/

structure Port (P : Platform) where
  sink : Sink P
  avrcpConnection : AvrcpConnection
  volumePercentage : Int
  batteryStatus : BatteryStatus
  imageHandle : ImageHandle
  coverArtClientConnected : Bool
  coverArtCid : UInt16
  download : CoverArtDownload
  trace : List Action

/-- `00:1B:DC:08:E2:72`, which `btstack_main` reads from `device_addr_string`. -/
def deviceAddr : BdAddr := #v[0x00, 0x1B, 0xDC, 0x08, 0xE2, 0x72]

/-- Static storage as initialised, and the address that `btstack_main` parses. -/
def Port.initial (P : Platform) : Port P where
  sink := { Sink.initial P with deviceAddr := deviceAddr }
  avrcpConnection := .zero
  volumePercentage := 0
  batteryStatus := .warning
  imageHandle := ⟨List.replicate 7 0, rfl⟩
  coverArtClientConnected := false
  coverArtCid := 0
  download := ⟨false, 0, none, 0⟩
  trace := []

variable {P : Platform}

abbrev Port.deviceAddr (s : Port P) : BdAddr := s.sink.deviceAddr

abbrev Port.a2dpConnection (s : Port P) : A2dpConnection := s.sink.a2dpConnection

end BtstackPort
