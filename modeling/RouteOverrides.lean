import RouteOverrides.Database.Location
import RouteOverrides.Main
import RouteOverrides.Session
import RouteOverrides.Store.Provider
import RouteOverrides.Proofs.Api.Blame
import RouteOverrides.Proofs.Api.Rejection
import RouteOverrides.Proofs.Api.ReportOrder
import RouteOverrides.Proofs.Cluster.Interchange
import RouteOverrides.Proofs.Cluster.Snapshot
import RouteOverrides.Proofs.Handler.Concurrent
import RouteOverrides.Proofs.Handler.Failures
import RouteOverrides.Proofs.Handler.Lookup
import RouteOverrides.Proofs.Handler.Meaning
import RouteOverrides.Proofs.Handler.Naming
import RouteOverrides.Proofs.Handler.Provenance
import RouteOverrides.Proofs.Handler.Stopping
import RouteOverrides.Proofs.Handler.Subscription
import RouteOverrides.Proofs.Handler.Writes
import RouteOverrides.Proofs.Release.Atomicity
import RouteOverrides.Proofs.Release.Concurrent
import RouteOverrides.Proofs.Release.Meaning
import RouteOverrides.Proofs.Release.Patches
import RouteOverrides.Proofs.Release.Retry
import RouteOverrides.Proofs.Release.Verdict
import RouteOverrides.Proofs.Release.Visit
import RouteOverrides.Proofs.Owner.History
import RouteOverrides.Proofs.Routing.Forms
import RouteOverrides.Proofs.Watch.Legible
import RouteOverrides.Proofs.Handler.Account
import RouteOverrides.Proofs.CommandLine.Reading
import RouteOverrides.Proofs.CommandLine.Owners
import RouteOverrides.Proofs.CommandLine.Posted
