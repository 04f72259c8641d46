/-!
# Constants and records shared by the port (`btstack_global.h`, `btstack_types.h`)

| here | there |
| --- | --- |
| `optimalFramesMin` … `maxSbcFrameSize` | the `#define`s of `btstack_global.h:29-34` |
| `StreamState` | `stream_state_t` (`btstack_types.h:21`) |
| `SbcConfiguration` | `media_codec_configuration_sbc_t` (`btstack_types.h:9`) |
| `A2dpConnection` | `a2dp_sink_demo_a2dp_connection_t` (`btstack_types.h:33`) |
-/

namespace BtstackPort

def optimalFramesMin : Nat := 60
def optimalFramesMax : Nat := 80
def additionalFrames : Nat := 30
def numChannels : Nat := 2
def bytesPerFrame : Nat := 2 * numChannels
def maxSbcFrameSize : Nat := 120

/-- `sizeof(sbc_frame_storage)` (`a2dp_sink.c:89`). -/
def sbcFrameStorageSize : Nat := (optimalFramesMax + additionalFrames) * maxSbcFrameSize

/-- `sizeof(decoded_audio_storage)` (`a2dp_sink.c:91`). -/
def decodedAudioStorageSize : Nat := (128 + 16) * bytesPerFrame

inductive StreamState where
  | closed | opened | playing | paused
deriving DecidableEq, Repr

/-- `btstack_sbc_channel_mode_t`. -/
inductive SbcChannelMode where
  | mono | dualChannel | stereo | jointStereo
deriving DecidableEq, Repr

structure SbcConfiguration where
  reconfigure : UInt8
  numChannels : UInt8
  samplingFrequency : UInt16
  blockLength : UInt8
  subbands : UInt8
  minBitpoolValue : UInt8
  maxBitpoolValue : UInt8
  channelMode : SbcChannelMode
  /-- The Bluetooth value less one, as the SBC code counts from zero. -/
  allocationMethod : Int
deriving DecidableEq, Repr

/-- `bd_addr_t`. -/
abbrev BdAddr := Vector UInt8 6

structure A2dpConnection where
  addr : BdAddr
  a2dpCid : UInt16
  a2dpLocalSeid : UInt8
  streamState : StreamState
  sbcConfiguration : SbcConfiguration
deriving DecidableEq, Repr

/-- Static storage is zero-initialised. -/
def SbcConfiguration.zero : SbcConfiguration := ⟨0, 0, 0, 0, 0, 0, 0, .mono, 0⟩

def A2dpConnection.zero : A2dpConnection := ⟨Vector.replicate 6 0, 0, 0, .closed, .zero⟩

end BtstackPort
