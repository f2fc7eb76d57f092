import Screencast.Address
import Screencast.Avc.Bits
import Screencast.Avc.Emulation
import Screencast.Avc.Record
import Screencast.Avc.Sps
import Screencast.Broadcast.Directory
import Screencast.Broadcast.KeyframeStore
import Screencast.Broadcast.Mailbox
import Screencast.Broadcast.Message
import Screencast.Broadcast.Session
import Screencast.Broadcast.Station
import Screencast.Decoder.Adapter
import Screencast.Decoder.Buffered
import Screencast.Decoder.Configuration
import Screencast.Decoder.Hardware
import Screencast.Decoder.Input
import Screencast.Decoder.Selection
import Screencast.Decoder.Strategy
import Screencast.Decoder.StreamKind
import Screencast.Device.Adb
import Screencast.Device.Dial
import Screencast.Device.Procedure
import Screencast.Device.Request
import Screencast.Device.Session
import Screencast.Fault
import Screencast.Gateway.Connection
import Screencast.Gateway.Protocol
import Screencast.Gateway.Settings
import Screencast.Grabber.Banner
import Screencast.Grabber.Conversation
import Screencast.Grabber.DisplaySize
import Screencast.Grabber.Framing
import Screencast.Grabber.Kind
import Screencast.Grabber.Projection
import Screencast.Grabber.Readiness
import Screencast.Grabber.Session
import Screencast.Grabber.Settings
import Screencast.Mp4.Box
import Screencast.Mp4.Writer
import Screencast.Nal.Basic
import Screencast.Nal.Demuxer
import Screencast.Nal.StartCode
import Screencast.Octets
import Screencast.Proofs.Avc.Acceptance
import Screencast.Proofs.Avc.Codes
import Screencast.Proofs.Avc.Elements
import Screencast.Proofs.Avc.Escaping
import Screencast.Proofs.Avc.Geometry
import Screencast.Proofs.Avc.Headroom
import Screencast.Proofs.Avc.Positions
import Screencast.Proofs.Avc.Protection
import Screencast.Proofs.Avc.Records
import Screencast.Proofs.Avc.Recovery
import Screencast.Proofs.Avc.Truncation
import Screencast.Proofs.Broadcast.Announcements
import Screencast.Proofs.Broadcast.Arrivals
import Screencast.Proofs.Broadcast.Blocks
import Screencast.Proofs.Broadcast.Calls
import Screencast.Proofs.Broadcast.Coherence
import Screencast.Proofs.Broadcast.Continuation
import Screencast.Proofs.Broadcast.Deliveries
import Screencast.Proofs.Broadcast.Failures
import Screencast.Proofs.Broadcast.Handling
import Screencast.Proofs.Broadcast.Handover
import Screencast.Proofs.Broadcast.Independence
import Screencast.Proofs.Broadcast.Isolation
import Screencast.Proofs.Broadcast.Keyframes
import Screencast.Proofs.Broadcast.Losses
import Screencast.Proofs.Broadcast.Snapshots
import Screencast.Proofs.Broadcast.Stations
import Screencast.Proofs.Broadcast.Subscriptions
import Screencast.Proofs.Broadcast.Telling
import Screencast.Proofs.Broadcast.Turns
import Screencast.Proofs.Broadcast.Viewers
import Screencast.Proofs.Broadcast.Visits
import Screencast.Proofs.Decoder.Ascending
import Screencast.Proofs.Decoder.Chunks
import Screencast.Proofs.Decoder.Joining
import Screencast.Proofs.Decoder.Lockstep
import Screencast.Proofs.Decoder.Pushing
import Screencast.Proofs.Decoder.Reconfiguring
import Screencast.Proofs.Decoder.Renewal
import Screencast.Proofs.Decoder.Tracking
import Screencast.Proofs.Device.Cancellation
import Screencast.Proofs.Device.Dialling
import Screencast.Proofs.Gateway.Texts
import Screencast.Proofs.Grabber.Banners
import Screencast.Proofs.Grabber.DisplaySizes
import Screencast.Proofs.Grabber.Images
import Screencast.Proofs.Mp4.Initialization
import Screencast.Proofs.Mp4.Reading
import Screencast.Proofs.Mp4.Segments
import Screencast.Proofs.Nal.Chunks
import Screencast.Proofs.Nal.Headers
import Screencast.Proofs.Nal.Pieces
import Screencast.Proofs.Nal.Rejoining
import Screencast.Proofs.Nal.Scanning
import Screencast.Proofs.Nal.Search
import Screencast.Proofs.Recorder.Conversations
import Screencast.Proofs.Recorder.Emission
import Screencast.Proofs.Recorder.Greetings
import Screencast.Proofs.Recorder.Groups
import Screencast.Proofs.Recorder.Keyframes
import Screencast.Proofs.Recorder.ParameterSets
import Screencast.Proofs.Text.Grammar
import Screencast.Proofs.Text.Json
import Screencast.Proofs.Text.Lines
import Screencast.Proofs.Text.Numerals
import Screencast.Proofs.Text.Utf8
import Screencast.Recorder.Conversation
import Screencast.Recorder.Greeting
import Screencast.Recorder.Packetizer
import Screencast.Recorder.Session
import Screencast.Recorder.Settings
import Screencast.Rehearsal.Audience
import Screencast.Rehearsal.Pipeline
import Screencast.Rehearsal.Round
import Screencast.Rehearsal.Stage
import Screencast.Rehearsal.StandIn
import Screencast.SourceEvent
import Screencast.Text.Blank
import Screencast.Text.Digits
import Screencast.Text.Extending
import Screencast.Text.Ignorable
import Screencast.Text.Json
import Screencast.Text.Line
import Screencast.Text.Percent
import Screencast.Text.Quoted
import Screencast.Text.Span
import Screencast.Text.Unprintable
import Screencast.Text.Utf8
