import Invocation.Main
import Invocation.Proofs.ArgumentAdapters.Repeating
import Invocation.Proofs.CommandLine.Report
import Invocation.Proofs.Heap.Positions
import Invocation.Proofs.Heap.Walk
import Invocation.Proofs.Realm.Exporting
import Invocation.Proofs.Realm.Limit
import Invocation.Proofs.Realm.Rebinding
import Invocation.Proofs.Run.Elements
import Invocation.Proofs.Run.Failure
import Invocation.Proofs.Session.Exports
import Invocation.Proofs.Text.Length
import Invocation.Proofs.Value.Reading
