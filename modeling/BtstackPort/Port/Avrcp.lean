import BtstackPort.Port.CoverArt
/-!
# The AVRCP packet handlers (`avrcp.c`)

The port keeps one AVRCP connection record. The controller handler drops every event while no connection is recorded.
-/

namespace BtstackPort

variable {P : Platform}

/-- `avrcp_packet_handler` (`avrcp.c:11-65`). -/
def avrcpPacketHandler (e : AvrcpEvent) (s : Port P) : Port P × List PortCall :=
  match e with
  | .connectionEstablished status cid addr =>
    if status ≠ 0 then ({ s with avrcpConnection := { s.avrcpConnection with avrcpCid := 0 } }, [])
    else
      ({ s with
          avrcpConnection := { s.avrcpConnection with avrcpCid := cid }
          -- use address for outgoing connections
          sink := { s.sink with deviceAddr := addr } },
        [.avrcpTargetSupportEvent cid .volumeChanged, .avrcpTargetSupportEvent cid .battStatusChanged,
          .avrcpTargetBatteryStatusChanged cid s.batteryStatus, .avrcpController cid .getSupportedEvents])
  | .connectionReleased _ =>
    ({ s with avrcpConnection := { s.avrcpConnection with avrcpCid := 0, notificationsSupportedByTarget := 0 } }, [])
  | .ignored => (s, [])

/-- `1 << event_id` in `int`, or-ed into the mask (`avrcp.c:86-87`). -/
def addNotification (mask : UInt16) (eventId : UInt8) : UInt16 := mask ||| .ofNat (1 <<< eventId.toNat)

/-- `avrcp_controller_packet_handler` (`avrcp.c:67-281`). -/
def avrcpControllerPacketHandler (e : AvrcpControllerEvent) (s : Port P) :
    Except PortFault (Port P × List PortCall) :=
  if s.avrcpConnection.avrcpCid = 0 then .ok (s, [])
  else
    match e with
    | .getCapabilityEventId eventId =>
      if eventId.toNat < 31 then
        .ok ({ s with avrcpConnection := { s.avrcpConnection with
          notificationsSupportedByTarget :=
            addNotification s.avrcpConnection.notificationsSupportedByTarget eventId } }, [])
      else .error (.shiftOutOfRange eventId)
    | .getCapabilityEventIdDone reply =>
      let cid := s.avrcpConnection.avrcpCid
      -- trigger cover art client connection
      let (t, connect) := coverArtConnect reply s
      .ok (t,
        [.avrcpController cid (.enableNotification .playbackStatusChanged),
          .avrcpController cid (.enableNotification .nowPlayingContentChanged),
          .avrcpController cid (.enableNotification .trackChanged),
          .avrcpController cid (.enableNotification .uidsChanged)] ++ connect)
    | .playbackStatusChanged playStatus =>
      .ok ({ s with avrcpConnection := { s.avrcpConnection with playing := playStatus = .playing } }, [])
    | .uidsChanged =>
      if s.coverArtClientConnected then .ok (s, [.avrcpCoverArtClientDisconnect s.coverArtCid]) else .ok (s, [])
    | .nowPlayingCoverArtInfo value =>
      if h : value.length = 7 then .ok ({ s with imageHandle := ⟨value, h⟩ }, [.storeImageHandle ⟨value, h⟩])
      else .ok (s, [])
    | .ignored => .ok (s, [])

/-- `avrcp_volume_changed` (`avrcp.c:283-288`). -/
def avrcpVolumeChanged (P : Platform) (volume : UInt8) : List PortCall :=
  if P.audioSink then [.audioSetVolume volume] else []

/-- `avrcp_target_packet_handler` (`avrcp.c:290-334`). -/
def avrcpTargetPacketHandler (e : AvrcpTargetEvent) (s : Port P) : Port P × List PortCall :=
  match e with
  | .volumeChanged volume =>
    ({ s with volumePercentage := (volume.toNat * 100 / 127 : Nat) }, avrcpVolumeChanged P volume)
  | .ignored => (s, [])

end BtstackPort
