import BtstackPort.Lib.Machine
import BtstackPort.Lib.Fifo
import BtstackPort.Lib.Frames
import BtstackPort.Lib.Loop
import BtstackPort.Lib.Memory
import BtstackPort.Lib.Lifecycle
import BtstackPort.Globals
import BtstackPort.Platform
import BtstackPort.Sink.State
import BtstackPort.Sink.Header
import BtstackPort.Sink.RtpHeader
import BtstackPort.Sink.Processing
import BtstackPort.Sink.Playback
import BtstackPort.Sink.MediaPacket
import BtstackPort.Sink.Request
import BtstackPort.Sink.PacketHandler
import BtstackPort.Sink.WavFile
import BtstackPort.Sink.Session
import BtstackPort.Sink.FrameIntegrity
import BtstackPort.Sink.PcmConservation
import BtstackPort.Sink.FrameSize
import BtstackPort.Sink.SizeChange
import BtstackPort.Sink.OutsideSession
import BtstackPort.Sink.AudioLifecycle
import BtstackPort.Sink.Configuration
import BtstackPort.Sink.Startup
import BtstackPort.Lib.Trace
import BtstackPort.Sink.WavAccount
import BtstackPort.Sink.Reconfigure
import BtstackPort.Sink.Compensation
import BtstackPort.Lib.Stdio
import BtstackPort.Port.Avrcp
import BtstackPort.Port.AvrcpSession
import BtstackPort.Port.CoverArtClient
import BtstackPort.Port.ImageHandles
import BtstackPort.Port.Thumbnail
import BtstackPort.Sink.StreamState
import BtstackPort.Sink.Rejection
import BtstackPort.Sink.SbcFrames
import BtstackPort.Sink.SampleCount
import BtstackPort.Sink.Channels
import BtstackPort.Sink.DecodeLoop
import BtstackPort.Sink.Underrun
import BtstackPort.Lib.Reader
import BtstackPort.Sink.Splitting
import BtstackPort.Port.Volume
import BtstackPort.Port.VolumeEcho
import BtstackPort.Port.Notifications
import BtstackPort.Port.Refusal
import BtstackPort.Lib.Numeral
import BtstackPort.Main.CommandLine
import BtstackPort.Main.UsbPath
import BtstackPort.Main.PacketLog
import BtstackPort.Lib.Component
import BtstackPort.Lib.Transducer
import BtstackPort.Port.AudioPath
import BtstackPort.Port.ControlPath
import BtstackPort.Port.Faults
import BtstackPort.Sink.Schedule
import BtstackPort.Sink.Signal
import BtstackPort.Main.Host
import BtstackPort.Port.Agreement
import BtstackPort.Port.Download
import BtstackPort.Sink.Recording
import BtstackPort.Sink.Isolation
import BtstackPort.Sink.Transmission
