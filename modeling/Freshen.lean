import Freshen.Main
import Freshen.Rehearsal
import Freshen.Proofs.Cycle
import Freshen.Proofs.Foresight
import Freshen.Proofs.History
import Freshen.Proofs.Recollection
import Freshen.Proofs.Resumption
import Freshen.Proofs.Indifference
import Freshen.Proofs.Isolation
import Freshen.Proofs.Merging
import Freshen.Proofs.IncludeCycle
import Freshen.Proofs.CycleSearch
import Freshen.Proofs.CycleWarning
import Freshen.Proofs.DryRun
import Freshen.Proofs.ReadOnlyOpening
import Freshen.Proofs.Keeping
import Freshen.Proofs.Provision
import Freshen.Proofs.FailedRecording
import Freshen.Proofs.Refusal
import Freshen.Proofs.References
import Freshen.Proofs.Outdated
import Freshen.Proofs.Fingerprints
import Freshen.Proofs.Inquiry
import Freshen.Proofs.Calls
import Freshen.Proofs.Sharing
