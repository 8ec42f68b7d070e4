import AerWatch.FileTree
import AerWatch.Main
import AerWatch.Proofs.Bus.Listing
import AerWatch.Proofs.Capability.Walks
import AerWatch.Proofs.CommandLine.LiveLog
import AerWatch.Proofs.Config.Rendering
import AerWatch.Proofs.ConfigSpace.Stores
import AerWatch.Proofs.Event.Lines
import AerWatch.Proofs.Fleet.Filtering
import AerWatch.Proofs.Fleet.Interchange
import AerWatch.Proofs.Fleet.Masking
import AerWatch.Proofs.Fleet.Outages
import AerWatch.Proofs.Fleet.Pruning
import AerWatch.Proofs.Fleet.Repeats
import AerWatch.Proofs.Fleet.Sums
import AerWatch.Proofs.Log.DecodedLines
import AerWatch.Proofs.Log.Failing
import AerWatch.Proofs.Log.Following
import AerWatch.Proofs.Log.Framing
import AerWatch.Proofs.Log.Idling
import AerWatch.Proofs.Log.WholeLines
import AerWatch.Proofs.Monitor.Devices
import AerWatch.Proofs.Monitor.EventShapes
import AerWatch.Proofs.Monitor.FullRead
import AerWatch.Proofs.Monitor.LaterLines
import AerWatch.Proofs.Policy.Findings
import AerWatch.Proofs.Policy.ReservedBits
