import VisionMixer.Text.Utf8
import VisionMixer.Video
import VisionMixer.Error
import VisionMixer.Field.Coding
import VisionMixer.Field.Checked
import VisionMixer.Packet.Basic
import VisionMixer.Record
import VisionMixer.Command.Description
import VisionMixer.Command.Bus
import VisionMixer.Command.Keying
import VisionMixer.Command.Facility
import VisionMixer.Command.Macros
import VisionMixer.Command.Request
import VisionMixer.Command.Codec
import VisionMixer.StatePath
import VisionMixer.Device.Tree
import VisionMixer.Device.Stored
import VisionMixer.Device.Place
import VisionMixer.Device.Apply
import VisionMixer.Profile
import VisionMixer.Session.Address
import VisionMixer.Session.Config
import VisionMixer.Session.Machine
import VisionMixer.Session.Receive
import VisionMixer.Session.Timers
import VisionMixer.Session.Handle
import VisionMixer.Client.Link
import VisionMixer.Client.Inbox
import VisionMixer.Client.Ending
import VisionMixer.Client.Basic
import VisionMixer.Client.Handle
import VisionMixer.Session.Stored
import VisionMixer.Proofs.Session.InPlace
import VisionMixer.Proofs.Session.Outcome
import VisionMixer.Proofs.Session.Life
import VisionMixer.Proofs.Session.Foreign
import VisionMixer.Proofs.Client.Mirror
import VisionMixer.Proofs.Device.Changes
import VisionMixer.Proofs.Command.RoundTrip
import VisionMixer.Proofs.Session.Flight
import VisionMixer.Proofs.Session.Span
import VisionMixer.Proofs.Session.Window
import VisionMixer.Proofs.Session.Resend
import VisionMixer.Proofs.Session.Deadline
import VisionMixer.Proofs.Session.Timeout
import VisionMixer.Proofs.Session.Account
import VisionMixer.Proofs.Session.Expiry
import VisionMixer.Proofs.Session.Clock
import VisionMixer.Proofs.Client.Turn
import VisionMixer.Proofs.Client.Fold
import VisionMixer.Proofs.Client.Flush
import VisionMixer.Proofs.Client.Answer
import VisionMixer.Proofs.Client.Reply
import VisionMixer.Proofs.Client.Stepwise
import VisionMixer.Proofs.Client.Interleaving
import VisionMixer.Proofs.Device.Promises
import VisionMixer.Proofs.Device.InPlace
import VisionMixer.Proofs.Device.Resolve
import VisionMixer.Proofs.Command.Payload
import VisionMixer.Proofs.Command.Grammar
import VisionMixer.Proofs.Command.Domain
import VisionMixer.Proofs.Device.Repeated
import VisionMixer.Proofs.Device.AnyOrder
import VisionMixer.Proofs.Device.ModeChange
import VisionMixer.Proofs.Device.PairedKeys
import VisionMixer.Proofs.Device.Windows
import VisionMixer.Proofs.Profile.Counts
import VisionMixer.Proofs.Device.Snapshot
import VisionMixer.Proofs.Record.Chunks
import VisionMixer.Proofs.Profile.AnyOrder
import VisionMixer.Proofs.Profile.Tree
import VisionMixer.Proofs.Command.Versions
import VisionMixer.Proofs.Record.Frames
import VisionMixer.Proofs.Packet.Framing
import VisionMixer.Proofs.StatePath
import VisionMixer.Proofs.Field.Missing
import VisionMixer.Proofs.ChangedPaths
import VisionMixer.Proofs.Session.Loading
import VisionMixer.Proofs.Field.Access
import VisionMixer.Proofs.Field.Buffers
import VisionMixer.Proofs.Session.Checked
