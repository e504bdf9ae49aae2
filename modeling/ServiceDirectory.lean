import ServiceDirectory.Instance.Json
import ServiceDirectory.Proofs.Discovery.Tree
import ServiceDirectory.Rehearsal.Run
import ServiceDirectory.Settings.Json
import ServiceDirectory.Url.Json
import ServiceDirectory.Proofs.Discovery.Adding
import ServiceDirectory.Proofs.Registry.Asking
import ServiceDirectory.Proofs.Registry.Watching
import ServiceDirectory.Proofs.Registry.Collecting
import ServiceDirectory.Proofs.Registry.Records
import ServiceDirectory.Proofs.Keys
import ServiceDirectory.Proofs.Registry.Table
import ServiceDirectory.Proofs.Registry.Invariant
import ServiceDirectory.Proofs.Registry.Session
import ServiceDirectory.Proofs.Registry.Failing
import ServiceDirectory.Proofs.Url.Readable
import ServiceDirectory.Proofs.Metadata.Table
import ServiceDirectory.Proofs.Registry.History
import ServiceDirectory.Proofs.Freshness.Evolution
import ServiceDirectory.Proofs.Freshness.Telling
import ServiceDirectory.Proofs.Freshness.Reporting
import ServiceDirectory.Proofs.Freshness.Changing
import ServiceDirectory.Proofs.Freshness.Dropping
import ServiceDirectory.Proofs.Freshness.Joining
import ServiceDirectory.Proofs.Freshness.Delivering
import ServiceDirectory.Proofs.Freshness.Latest
import ServiceDirectory.Proofs.Freshness.Making
import ServiceDirectory.Proofs.Url.Rereading
import ServiceDirectory.Proofs.Url.RoundTrip
import ServiceDirectory.Proofs.Metadata.Listing
import ServiceDirectory.Proofs.Metadata.Identity
import ServiceDirectory.Proofs.Metadata.Standing
import ServiceDirectory.Proofs.Metadata.Isolation
import ServiceDirectory.Proofs.Url.ServiceKeys
import ServiceDirectory.Proofs.Dispatcher.Ledger
import ServiceDirectory.Proofs.Dispatcher.Turns
import ServiceDirectory.Proofs.Registry.Providers
import ServiceDirectory.Proofs.Notifier.Bucket
import ServiceDirectory.Proofs.Dispatcher.Reacting
import ServiceDirectory.Proofs.Discovery.Conveying
import ServiceDirectory.Proofs.Dispatcher.Capturing
import ServiceDirectory.Proofs.Discovery.Watches
import ServiceDirectory.Proofs.Discovery.Storing
import ServiceDirectory.Proofs.Sharing.Crossing
import ServiceDirectory.Proofs.Discovery.Paging
import ServiceDirectory.Proofs.Discovery.Leftovers
import ServiceDirectory.Proofs.Registry.Relating
import ServiceDirectory.Proofs.Registry.Seat
import ServiceDirectory.Proofs.Leaving.Notebook
import ServiceDirectory.Proofs.Leaving.Tending
import ServiceDirectory.Proofs.Leaving.Telling
import ServiceDirectory.Proofs.Leaving.Joining
import ServiceDirectory.Proofs.Leaving.Subscribing
import ServiceDirectory.Proofs.Leaving.Departing
import ServiceDirectory.Proofs.Neighbours.Clients
import ServiceDirectory.Proofs.Neighbours.Aloof
import ServiceDirectory.Proofs.Neighbours.Alike
import ServiceDirectory.Proofs.Neighbours.Telling
import ServiceDirectory.Proofs.Neighbours.Joining
import ServiceDirectory.Proofs.Neighbours.Erasing
import ServiceDirectory.Proofs.Url.Grammar
import ServiceDirectory.Proofs.Notifier.Snapshot
import ServiceDirectory.Proofs.Registry.Snapshots
import ServiceDirectory.Proofs.Dispatcher.Listing
import ServiceDirectory.Proofs.Discovery.Flattening
import ServiceDirectory.Proofs.Instance.RoundTrip
import ServiceDirectory.Proofs.Settings.Partial
import ServiceDirectory.Proofs.Url.Parameters
import ServiceDirectory.Proofs.Dispatcher.Bulk
import ServiceDirectory.Proofs.Registry.Naming
import ServiceDirectory.Proofs.Registry.Resolving
import ServiceDirectory.Proofs.Registrar.Publishing
import ServiceDirectory.Proofs.Event.Forest
