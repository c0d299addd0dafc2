import SealedExchange.Daemon.Files
import SealedExchange.Daemon.Machine
import SealedExchange.Daemon.Shutdown
import SealedExchange.Exchange.Locks
import SealedExchange.Http.Reply
import SealedExchange.Main
import SealedExchange.Proofs.Binary.Laws
import SealedExchange.Proofs.Enclave.KeyFile
import SealedExchange.Proofs.Enclave.Opening
import SealedExchange.Proofs.Enclave.Sealed
import SealedExchange.Proofs.Enclave.Sealing
import SealedExchange.Proofs.Enclave.Trimming
import SealedExchange.Proofs.Exchange.Admission
import SealedExchange.Proofs.Exchange.Agreement
import SealedExchange.Proofs.Exchange.Delivery
import SealedExchange.Proofs.Exchange.Dispatch
import SealedExchange.Proofs.Exchange.EndToEnd
import SealedExchange.Proofs.Exchange.Integrity
import SealedExchange.Proofs.Exchange.KeySearch
import SealedExchange.Proofs.Exchange.LockOrder
import SealedExchange.Proofs.Exchange.LockReferences
import SealedExchange.Proofs.Exchange.Locks
import SealedExchange.Proofs.Exchange.Parties
import SealedExchange.Proofs.Exchange.Prepared
import SealedExchange.Proofs.Exchange.Readable
import SealedExchange.Proofs.Exchange.Redelivery
import SealedExchange.Proofs.Exchange.Sending
import SealedExchange.Proofs.Exchange.StandingClaims
import SealedExchange.Proofs.Exchange.Stripping
import SealedExchange.Proofs.Exchange.Together
import SealedExchange.Proofs.Http.Stream
import SealedExchange.Proofs.Json.Indented
import SealedExchange.Proofs.Json.Rendered
import SealedExchange.Proofs.Json.Results
import SealedExchange.Proofs.Node.Atomicity
import SealedExchange.Proofs.Node.Discretion
import SealedExchange.Proofs.Node.Effects
import SealedExchange.Proofs.Node.Encodable
import SealedExchange.Proofs.Node.Encounter
import SealedExchange.Proofs.Node.Links
import SealedExchange.Proofs.Node.Posting
import SealedExchange.Proofs.Node.Reticence
import SealedExchange.Proofs.Payload.Merge
import SealedExchange.Proofs.Payload.Recoding
import SealedExchange.Proofs.Payload.RoundTrip
import SealedExchange.Proofs.Payload.Union
import SealedExchange.Proofs.Peer.Announcement
import SealedExchange.Proofs.Peer.Challenge
import SealedExchange.Proofs.Peer.Directory
import SealedExchange.Proofs.Peer.Honest
import SealedExchange.Proofs.Peer.Pinning
import SealedExchange.Proofs.Peer.Relay
import SealedExchange.Proofs.Peer.RoundTrips
import SealedExchange.Proofs.Peer.Transmission
import SealedExchange.Proofs.Peer.Url
import SealedExchange.Proofs.Privacy.Affected
import SealedExchange.Proofs.Privacy.SecurityHash
import SealedExchange.Proofs.Sorted.Distinct
import SealedExchange.Proofs.Sorted.Map
import SealedExchange.Proofs.Sorted.Set
import SealedExchange.Proofs.Store.Laws
import SealedExchange.Proofs.Store.Mirror
import SealedExchange.Proofs.Text.Base64
import SealedExchange.Proofs.Text.Utf8
import SealedExchange.Store.Tree
