import Kerchunk.Lib.Machine
import Kerchunk.Lib.CircularWindow
import Kerchunk.Lib.StableInsert
import Kerchunk.Link.RingFifo
import Kerchunk.Link.Agreement
import Kerchunk.Link.Reconnect
import Kerchunk.Queue.Refinement
import Kerchunk.AudioTick.Completion
import Kerchunk.Config.RoundTrip
import Kerchunk.Core.Ptt
import Kerchunk.Repeater.Balance
import Kerchunk.Repeater.Coherence
import Kerchunk.Repeater.KeyUp
import Kerchunk.Repeater.Relay
import Kerchunk.Caller.Access
import Kerchunk.Shell.Priority
import Kerchunk.Reflectd.FloorSafety
import Kerchunk.Reflectd.Identity
import Kerchunk.Reflectd.Authorization
import Kerchunk.Reflectd.Isolation
import Kerchunk.Reflectd.Accounting
import Kerchunk.Reflectd.Outbox
import Kerchunk.Reflectd.Hearing
import Kerchunk.Reflectd.Listener
import Kerchunk.Reflectd.AdminEdits
import Kerchunk.Link.Quality
import Kerchunk.Link.Jitter
import Kerchunk.Config.IniEdit
import Kerchunk.Dtmf.Command
import Kerchunk.Users.Creation
import Kerchunk.Stats.Conservation
import Kerchunk.Cdr.Replay
import Kerchunk.Cwid.Identification
import Kerchunk.Otp.Elevation
import Kerchunk.Emergency.AutoOff
import Kerchunk.Bridge.Zello
import Kerchunk.Core.Unloading
import Kerchunk.Socket.Commands
import Kerchunk.Socket.Output
import Kerchunk.Freeswitch.Esl
import Kerchunk.Freeswitch.Calls
import Kerchunk.Users.Registration
import Kerchunk.Ai.History
import Kerchunk.Ai.Authority
import Kerchunk.Events.Consumers
import Kerchunk.Web.Snapshots
import Kerchunk.Web.PublicStream
import Kerchunk.Asr.Model
import Kerchunk.Caller.Agreement
import Kerchunk.Caller.Attribution
import Kerchunk.Flex.Delivery
import Kerchunk.Voicemail.Access
import Kerchunk.Core.Workers
import Kerchunk.Core.Sched
import Kerchunk.Ai.Conversations
import Kerchunk.Push.Refinement
import Kerchunk.Caller.Sessions
import Kerchunk.Cdr.WebApi
import Kerchunk.Cwid.Interval
import Kerchunk.Courtesy.OwnTones
import Kerchunk.Scrambler.Bypass
import Kerchunk.Core.TxSession
import Kerchunk.Core.AudioRingFifo
import Kerchunk.AudioTick.Capacity
import Kerchunk.AudioTick.RelayDrain
import Kerchunk.Core.TimerLives
import Kerchunk.Link.Thresholds
import Kerchunk.Reflectd.Seating
import Kerchunk.Queue.Attribution
import Kerchunk.Reflectd.RecordingFiles
import Kerchunk.Recorder.Closure
import Kerchunk.Config.Reload
import Kerchunk.Scrambler.LowPass
import Kerchunk.AudioTick.TxState
import Kerchunk.Ai.Turns
import Kerchunk.Freeswitch.Vox
import Kerchunk.Flex.Model
import Kerchunk.Nws.Tracking
import Kerchunk.Web.ConfigGet
import Kerchunk.Tts.Cache
import Kerchunk.Core.Boundaries
import Kerchunk.Reflectd.Bitrate
import Kerchunk.Dtmf.Dispatch
import Kerchunk.Config.Duration
import Kerchunk.Web.Acl
import Kerchunk.Otp.Verification
import Kerchunk.Reflectd.LoadConfig
import Kerchunk.Wav.Model
import Kerchunk.Reflectd.RosterMessages
import Kerchunk.Resp.Rendering
import Kerchunk.Reflectd.KeyProofs
import Kerchunk.Reflectd.Keepalive
import Kerchunk.Web.PushToTalk
import Kerchunk.Web.AudioStream
import Kerchunk.Web.Routes
import Kerchunk.Lib.Paths
import Kerchunk.Core.Sandbox
import Kerchunk.Reflectd.Passive
import Kerchunk.Reflectd.LossMute
import Kerchunk.Parrot.Echo
