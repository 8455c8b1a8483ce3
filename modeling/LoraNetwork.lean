import LoraNetwork.Cipher.Cmac
import LoraNetwork.Config.Loading
import LoraNetwork.Document.Scenario
import LoraNetwork.Proofs.Uplink.Run
import LoraNetwork.Proofs.Counter
import LoraNetwork.Proofs.Uplink.Rejection
import LoraNetwork.Proofs.Uplink.Replay
import LoraNetwork.Proofs.Uplink.DownlinkCounter
import LoraNetwork.Proofs.Uplink.Effects
import LoraNetwork.Proofs.Registry.Knowledge
import LoraNetwork.Proofs.Server.Run
import LoraNetwork.Proofs.Server.Contract
import LoraNetwork.Proofs.Server.Authenticity
import LoraNetwork.Proofs.Downlink.Size
import LoraNetwork.Proofs.Uplink.SizeLimit
import LoraNetwork.Proofs.Uplink.Punctuality
import LoraNetwork.Proofs.ReceiveWindow
import LoraNetwork.Proofs.Loader.Stage
import LoraNetwork.Proofs.Loader.Roster
import LoraNetwork.Proofs.Loader.Replies
import LoraNetwork.Proofs.Loader.Invariant
import LoraNetwork.Proofs.Loader.Progress
import LoraNetwork.Proofs.Loader.SingleFlight
import LoraNetwork.Proofs.Registry.Sight
import LoraNetwork.Proofs.Loader.Origin
import LoraNetwork.Proofs.Registry.Joined
import LoraNetwork.Proofs.Registry.Reachability
import LoraNetwork.Proofs.Registry.Restarts
import LoraNetwork.Proofs.Registry.Finding
import LoraNetwork.Proofs.Registry.Resolved
import LoraNetwork.Proofs.Session.Written
import LoraNetwork.Proofs.Uplink.Stored
import LoraNetwork.Proofs.Uplink.Restoration
import LoraNetwork.Proofs.Uplink.Durability
import LoraNetwork.Proofs.Uplink.Generation
import LoraNetwork.Proofs.Uplink.Account
import LoraNetwork.Proofs.Uplink.WriteBack
import LoraNetwork.Proofs.Downlink.Reading
import LoraNetwork.Proofs.Uplink.Custody
import LoraNetwork.Proofs.Uplink.Acknowledging
import LoraNetwork.Proofs.Frame.Reading
import LoraNetwork.Proofs.Frame.Joining
import LoraNetwork.Proofs.Downlink.Placing
import LoraNetwork.Proofs.Join.Handling
import LoraNetwork.Proofs.Join.Agreement
import LoraNetwork.Proofs.Join.Reloading
import LoraNetwork.Proofs.Join.Refusal
import LoraNetwork.Proofs.Join.Windows
import LoraNetwork.Proofs.Uplink.Acceptance
import LoraNetwork.Proofs.Uplink.Placement
import LoraNetwork.Proofs.Session.Adaptation
import LoraNetwork.Proofs.Downlink.Assembly
import LoraNetwork.Proofs.Downlink.Commands
import LoraNetwork.Proofs.Uplink.Fate
import LoraNetwork.Proofs.Uplink.Commanding
import LoraNetwork.Proofs.Uplink.Expiry
import LoraNetwork.Proofs.MacCommand.RoundTrip
import LoraNetwork.Proofs.Frame.Writing
import LoraNetwork.Proofs.Join.Installing
import LoraNetwork.Proofs.Join.Overlap
import LoraNetwork.Proofs.Loader.Candidate
import LoraNetwork.Proofs.Server.Time
import LoraNetwork.Proofs.Registry.Active
import LoraNetwork.Proofs.Counter.Exactness
import LoraNetwork.Proofs.Downlink.Contents
import LoraNetwork.Proofs.Uplink.Repeats
import LoraNetwork.Proofs.Registry.Replacement
import LoraNetwork.Proofs.Server.Rounds
import LoraNetwork.Proofs.Registry.Entries
import LoraNetwork.Proofs.Loader.Publication
import LoraNetwork.Proofs.Loader.Renewal
import LoraNetwork.Proofs.Loader.Question
import LoraNetwork.Proofs.Registry.Hiding
import LoraNetwork.Proofs.MacCommand.Splitting
import LoraNetwork.Proofs.Frame.Admission
import LoraNetwork.Proofs.Adr.Allocation
import LoraNetwork.Proofs.Uplink.Regulation
import LoraNetwork.Proofs.Adr.Window
import LoraNetwork.Proofs.Adr.Loss
import LoraNetwork.Proofs.Uplink.Sampling
import LoraNetwork.Proofs.Uplink.Snapshot
import LoraNetwork.Proofs.Registry.Storing
import LoraNetwork.Proofs.Registry.WellFormed
import LoraNetwork.Proofs.Server.Consistency
