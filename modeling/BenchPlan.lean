import BenchPlan.Listing
import BenchPlan.Main
import BenchPlan.Proofs.Filtering
import BenchPlan.Proofs.Sharing
import BenchPlan.Proofs.Workload
import BenchPlan.Proofs.History
import BenchPlan.Proofs.Accounting
import BenchPlan.Proofs.Building
import BenchPlan.Proofs.Reordering
import BenchPlan.Proofs.Rows
import BenchPlan.Proofs.Printing
import BenchPlan.Proofs.Expansion
import BenchPlan.Proofs.Expressions
import BenchPlan.Proofs.Remaking
import BenchPlan.Proofs.RoundTrip
import BenchPlan.Proofs.Admission
import BenchPlan.Proofs.Stopping
import BenchPlan.Proofs.Findings
import BenchPlan.Proofs.Complaints
import BenchPlan.Proofs.Tally
import BenchPlan.Proofs.Interning
import BenchPlan.Proofs.Directory
import BenchPlan.Proofs.IntegerArguments
import BenchPlan.Proofs.Layering
