import LinkStack.Bytes
import LinkStack.Tag
import LinkStack.Slots
import LinkStack.Layer.Receiver
import LinkStack.Frame.Framer
import LinkStack.Addressing.Dispatch
import LinkStack.Addressing.Transport
import LinkStack.Addressing.User
import LinkStack.Splice.Duplicator
import LinkStack.Splice.Redirect
import LinkStack.Catalog.Descriptor
import LinkStack.Exchange.Messenger
import LinkStack.Json.Value
import LinkStack.Channel.Loopback
import LinkStack.Channel.Udp
import LinkStack.Channel.Serial
import LinkStack.Settings.Stack
import LinkStack.Settings.Logging
import LinkStack.Network.Operations
import LinkStack.Proofs.Frame.Stream
import LinkStack.Proofs.Frame.Checksum
import LinkStack.Proofs.Frame.Corruption
import LinkStack.Proofs.Frame.Chunks
import LinkStack.Proofs.Catalog.Arguments
import LinkStack.Proofs.Catalog.Grammar
import LinkStack.Proofs.Catalog.Finish
import LinkStack.Proofs.Network.Execution
import LinkStack.Proofs.Network.Pair
import LinkStack.Proofs.Network.Runs
import LinkStack.Proofs.Network.Confirmed
import LinkStack.Proofs.Network.AtMostOnce
import LinkStack.Proofs.Layer.Scene
import LinkStack.Proofs.Frame.Book
import LinkStack.Proofs.Frame.Ledger
import LinkStack.Proofs.Network.Acknowledged
import LinkStack.Proofs.Exchange.Outbound
import LinkStack.Proofs.Exchange.Agenda
import LinkStack.Proofs.Exchange.Messenger
import LinkStack.Proofs.Exchange.Turns
import LinkStack.Proofs.Exchange.Operations
import LinkStack.Proofs.Exchange.Received
import LinkStack.Proofs.Exchange.Spared
import LinkStack.Proofs.Exchange.Queries
import LinkStack.Proofs.Exchange.Exclusion
import LinkStack.Proofs.Exchange.Dialogue
import LinkStack.Proofs.Exchange.Ample
import LinkStack.Proofs.Exchange.Descriptors
import LinkStack.Proofs.Exchange.Replies
import LinkStack.Proofs.Network.Outline
import LinkStack.Proofs.Network.Layers
import LinkStack.Proofs.Network.Stack
import LinkStack.Proofs.Network.Transparency
import LinkStack.Proofs.Network.Carriage
import LinkStack.Proofs.Network.Capacity
import LinkStack.Proofs.Text.Digits
import LinkStack.Proofs.Json.Escape
import LinkStack.Proofs.Json.Pretty
import LinkStack.Proofs.Json.Record
import LinkStack.Proofs.Channel.Address
import LinkStack.Proofs.Settings.Reload
import LinkStack.Proofs.Network.Detail
import LinkStack.Proofs.Network.Framing
import LinkStack.Proofs.Frame.Shared
import LinkStack.Proofs.Network.Sharing
import LinkStack.Proofs.Network.Wires
import LinkStack.Proofs.Network.Bridge
import LinkStack.Proofs.Frame.Wait
import LinkStack.Proofs.Network.Routing
import LinkStack.Proofs.Network.Accounts
import LinkStack.Proofs.Network.Reports
import LinkStack.Proofs.Exchange.Draining
import LinkStack.Proofs.Exchange.Publication
import LinkStack.Proofs.Exchange.Nesting
import LinkStack.Proofs.Frame.Burst
import LinkStack.Proofs.Frame.Recovery
import LinkStack.Proofs.Frame.Progress
import LinkStack.Proofs.Frame.Schedule
import LinkStack.Proofs.Frame.Programs
import LinkStack.Proofs.Frame.Staleness
import LinkStack.Proofs.Slots
import LinkStack.Proofs.Catalog.WellFormed
import LinkStack.Proofs.Addressing.Binding
import LinkStack.Proofs.Addressing.Surroundings
import LinkStack.Proofs.Addressing.Dispatch
import LinkStack.Proofs.Addressing.Transport
import LinkStack.Proofs.Catalog.Rendering
import LinkStack.Proofs.Channel.Admission
import LinkStack.Proofs.Frame.Limits
import LinkStack.Proofs.Settings.Building
import LinkStack.Proofs.Slots.Assignment
import LinkStack.Proofs.Stats
import LinkStack.Proofs.Frame.Remainder
