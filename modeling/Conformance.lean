import Conformance.Description
import Conformance.Fixture.Script
import Conformance.Proofs.Json.Outcome
import Conformance.Proofs.Parameter.Catalog
import Conformance.Proofs.Run.Agreement
import Conformance.Proofs.Run.Exchanges
import Conformance.Proofs.Run.Failure
import Conformance.Proofs.Run.Log
import Conformance.Proofs.Run.Missing
import Conformance.Proofs.Run.Records
import Conformance.Proofs.Run.Time
import Conformance.Proofs.Suite.Calls
import Conformance.Proofs.Suite.Fault
import Conformance.Proofs.Suite.Graph
import Conformance.Proofs.Suite.History
import Conformance.Proofs.Suite.Least
import Conformance.Settings.Load
