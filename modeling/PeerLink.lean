import PeerLink.Bytes.Basic
import PeerLink.Bytes.Block
import PeerLink.Bytes.Hex
import PeerLink.Cli.Argument
import PeerLink.Cli.CommandLine
import PeerLink.Cli.Failure
import PeerLink.Cli.Grammar
import PeerLink.Cli.Options
import PeerLink.Cli.Receiver
import PeerLink.Cli.Rehearsal
import PeerLink.Cli.Task
import PeerLink.Codec.Element
import PeerLink.Codec.Encoder
import PeerLink.Codec.Error
import PeerLink.Codec.Integer
import PeerLink.Codec.Length
import PeerLink.Codec.Reader
import PeerLink.Codec.Tag
import PeerLink.Duration
import PeerLink.Host.Basic
import PeerLink.Host.Session
import PeerLink.Link.Attach
import PeerLink.Link.Channel
import PeerLink.Link.Claim
import PeerLink.Link.Config
import PeerLink.Link.Endpoint
import PeerLink.Link.Error
import PeerLink.Link.Liveness
import PeerLink.Link.Role
import PeerLink.Link.Stats
import PeerLink.Link.Wait
import PeerLink.Listing.Message
import PeerLink.Listing.Stats
import PeerLink.Listing.Table
import PeerLink.Main
import PeerLink.Message.Decode
import PeerLink.Message.Encode
import PeerLink.Message.Item
import PeerLink.Proofs.Bytes.BigEndian
import PeerLink.Proofs.Cli.Deadlines
import PeerLink.Proofs.Cli.Durations
import PeerLink.Proofs.Cli.Entries
import PeerLink.Proofs.Cli.Hexadecimal
import PeerLink.Proofs.Cli.Receiving
import PeerLink.Proofs.Codec.Consumption
import PeerLink.Proofs.Codec.Grammar
import PeerLink.Proofs.Codec.Minimality
import PeerLink.Proofs.Codec.Nesting
import PeerLink.Proofs.Codec.Reading
import PeerLink.Proofs.Codec.Shape
import PeerLink.Proofs.Codec.Stability
import PeerLink.Proofs.Codec.Words
import PeerLink.Proofs.Codec.Writing
import PeerLink.Proofs.Host.Clock
import PeerLink.Proofs.Host.Delivery
import PeerLink.Proofs.Host.Mail
import PeerLink.Proofs.Host.Seating
import PeerLink.Proofs.Host.Sessions
import PeerLink.Proofs.Link.Acquisition
import PeerLink.Proofs.Link.Atomicity
import PeerLink.Proofs.Link.Attaching
import PeerLink.Proofs.Link.Bystanders
import PeerLink.Proofs.Link.Claims
import PeerLink.Proofs.Link.Cleanup
import PeerLink.Proofs.Link.Closing
import PeerLink.Proofs.Link.Company
import PeerLink.Proofs.Link.CrashedClaim
import PeerLink.Proofs.Link.CrashedWrite
import PeerLink.Proofs.Link.Crowd
import PeerLink.Proofs.Link.Exclusion
import PeerLink.Proofs.Link.Finality
import PeerLink.Proofs.Link.Frame
import PeerLink.Proofs.Link.Heartbeats
import PeerLink.Proofs.Link.Image
import PeerLink.Proofs.Link.Letterbox
import PeerLink.Proofs.Link.Lifetime
import PeerLink.Proofs.Link.Mailbox
import PeerLink.Proofs.Link.Meeting
import PeerLink.Proofs.Link.Moves
import PeerLink.Proofs.Link.Opening
import PeerLink.Proofs.Link.Passage
import PeerLink.Proofs.Link.Reception
import PeerLink.Proofs.Link.Refusals
import PeerLink.Proofs.Link.Relocation
import PeerLink.Proofs.Link.Replacement
import PeerLink.Proofs.Link.Resolution
import PeerLink.Proofs.Link.Rounds
import PeerLink.Proofs.Link.Samples
import PeerLink.Proofs.Link.Seats
import PeerLink.Proofs.Link.Silence
import PeerLink.Proofs.Link.Tenancy
import PeerLink.Proofs.Link.Tenure
import PeerLink.Proofs.Link.Thresholds
import PeerLink.Proofs.Link.Vigil
import PeerLink.Proofs.Link.Waiting
import PeerLink.Proofs.Message.Bounds
import PeerLink.Proofs.Message.Canonical
import PeerLink.Proofs.Message.Counts
import PeerLink.Proofs.Message.Decoding
import PeerLink.Proofs.Message.Encoding
import PeerLink.Proofs.Message.Framing
import PeerLink.Proofs.Message.Manifest
import PeerLink.Proofs.Message.Size
import PeerLink.Proofs.Region.Contention
import PeerLink.Proofs.Region.Creation
import PeerLink.Proofs.Region.Lock
import PeerLink.Proofs.Region.Patience
import PeerLink.Proofs.Region.Store
import PeerLink.Proofs.Region.Stores
import PeerLink.Real.Binary64
import PeerLink.Real.Reading
import PeerLink.Real.RealText
import PeerLink.Real.Shortest
import PeerLink.Region.Error
import PeerLink.Region.Guards
import PeerLink.Region.IoError
import PeerLink.Region.Layout
import PeerLink.Region.Lock
import PeerLink.Region.Name
import PeerLink.Region.Process
import PeerLink.Region.Store
import PeerLink.Text.CodePoints
import PeerLink.Text.Columns
import PeerLink.Text.Graphemes
import PeerLink.Text.Json
import PeerLink.Text.Ligatures
import PeerLink.Text.Pictographs
import PeerLink.Text.Quoted
import PeerLink.Text.Utf8
