import BtstackPort.Port.Avrcp
/-!
# The console (`stdin_process`, `btstack_main.c:89-319`)

Most commands call one function of the AVRCP controller with the recorded connection id and change nothing
(`controllerCommand`). Every other character shows the usage.
-/

namespace BtstackPort

variable {P : Platform}

def controllerCommand : Char → Option ControllerCall
  | 'O' => some .getPlayStatus
  | 'j' => some .getNowPlayingInfo
  | 'k' => some .play
  | 'K' => some .stop
  | 'L' => some .pause
  | 'u' => some .pressAndHoldFastForward
  | 'U' => some .releasePressAndHoldCmd
  | 'n' => some .pressAndHoldRewind
  | 'N' => some .releasePressAndHoldCmd
  | 'i' => some .forward
  | 'I' => some .backward
  | 'M' => some .mute
  | 'r' => some .skip
  | 'q' => some .queryShuffleAndRepeatModes
  | 'v' => some (.setRepeatMode .singleTrack)
  | 'x' => some (.setRepeatMode .allTracks)
  | 'X' => some (.setRepeatMode .off)
  | 'z' => some (.setShuffleMode .allTracks)
  | 'Z' => some (.setShuffleMode .off)
  | 'a' => some (.enableNotification .trackChanged)
  | 'A' => some (.disableNotification .trackChanged)
  | 'R' => some (.enableNotification .playbackPosChanged)
  | 'P' => some (.disableNotification .playbackPosChanged)
  | 's' => some .startPressAndHoldCmdRewind
  | 'S' => some .releasePressAndHoldCmd
  | _ => none

/-- `'t'` and `'T'`: the new percentage is set, reported and passed to the audio sink. -/
def changeVolume (volumePercent : Int) (reply : Reply) (s : Port P) : Port P × List PortCall :=
  let volume := UInt8.ofInt ((volumePercent * 127).tdiv 100)
  ({ s with volumePercentage := volumePercent },
    .avrcpTargetVolumeChanged s.avrcpConnection.avrcpCid volume reply.status :: avrcpVolumeChanged P volume)

/-- `'V'`: one up, from the last value back to the first. -/
def BatteryStatus.toggle : BatteryStatus → BatteryStatus
  | .normal => .warning
  | .warning => .critical
  | .critical => .external
  | .external => .fullCharge
  | .fullCharge => .normal

/-- `'@'` (`btstack_main.c:300-310`). It is always `cover.jpg` that is opened, with mode `w`; `fopen` returns a stream
that it has not returned before. -/
def getLinkedThumbnail (reply : Reply) (s : Port P) : Port P × List PortCall :=
  let file := if reply.fileOpened then some s.download.filesOpened else none
  ({ s with download :=
      { active := true
        fileSize := 0
        file := file
        filesOpened := if reply.fileOpened then s.download.filesOpened + 1 else s.download.filesOpened } },
    [match file with
      | some f => .file (.fopen f)
      | none => .fopenFailed,
      .avrcpCoverArtClientGetLinkedThumbnail s.coverArtCid s.imageHandle])

def stdinProcess (cmd : Char) (reply : Reply) (s : Port P) : Port P × List PortCall :=
  match cmd with
  | 'b' =>
    let connection := { s.a2dpConnection with a2dpCid := reply.cid.getD s.a2dpConnection.a2dpCid }
    ({ s with sink := { s.sink with a2dpConnection := connection } }, [.a2dpSinkEstablishStream s.deviceAddr])
  | 'B' => (s, [.a2dpSinkDisconnect s.a2dpConnection.a2dpCid])
  | 'c' =>
    let connection := { s.avrcpConnection with avrcpCid := reply.cid.getD s.avrcpConnection.avrcpCid }
    ({ s with avrcpConnection := connection }, [.avrcpConnect s.deviceAddr])
  | 'C' => (s, [.avrcpDisconnect s.avrcpConnection.avrcpCid])
  | 'w' => (s, [.avdtpSinkDelayReport s.a2dpConnection.a2dpCid s.a2dpConnection.a2dpLocalSeid 100])
  | 't' => changeVolume (if s.volumePercentage ≤ 90 then s.volumePercentage + 10 else 100) reply s
  | 'T' => changeVolume (if s.volumePercentage ≥ 10 then s.volumePercentage - 10 else 0) reply s
  | 'V' =>
    ({ s with batteryStatus := s.batteryStatus.toggle },
      [.avrcpTargetBatteryStatusChanged s.avrcpConnection.avrcpCid s.batteryStatus.toggle])
  | 'd' => coverArtConnect reply s
  | 'D' => (s, [.avrcpCoverArtClientDisconnect s.coverArtCid])
  | '@' => getLinkedThumbnail reply s
  | _ =>
    match controllerCommand cmd with
    | some call => (s, [.avrcpController s.avrcpConnection.avrcpCid call])
    | none => (s, [])

end BtstackPort
