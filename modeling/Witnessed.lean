import Witnessed.Calendar
import Witnessed.Main
import Witnessed.Policy.Store
import Witnessed.Command.FileTree
import Witnessed.Proofs.Command.Agreement
import Witnessed.Proofs.Policy.Audit
import Witnessed.Proofs.Policy.Order
import Witnessed.Proofs.Policy.Exchange
import Witnessed.Proofs.Policy.Growth
import Witnessed.Proofs.Policy.Script
import Witnessed.Proofs.Policy.Sharing
import Witnessed.Proofs.TreeHead.Calls
import Witnessed.Proofs.TreeHead.Signed
import Witnessed.Proofs.TreeHead.Faults
import Witnessed.Proofs.Checkpoint.Insertion
import Witnessed.Proofs.Policy.Threshold
import Witnessed.Proofs.Policy.Listing
import Witnessed.Proofs.Policy.Catalog
