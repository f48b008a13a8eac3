import Provision.Deployment.Concurrent
import Provision.Description
import Provision.Main
import Provision.Proofs.Clashes
import Provision.Proofs.Collisions
import Provision.Proofs.Convergence
import Provision.Proofs.Drafts
import Provision.Proofs.Extensions
import Provision.Proofs.Footprints
import Provision.Proofs.Groups
import Provision.Proofs.Invocations
import Provision.Proofs.Neighbours
import Provision.Proofs.Projections
import Provision.Proofs.Protocol
import Provision.Proofs.Readback
import Provision.Proofs.Recovery
import Provision.Proofs.Requests
import Provision.Proofs.Resolution
import Provision.Proofs.Retries
import Provision.Proofs.Roundtrips
import Provision.Proofs.Safety
import Provision.Proofs.Settings.Entries
import Provision.Proofs.Store.Contents
import Provision.Proofs.Store.Custody
import Provision.Proofs.Store.Failures
import Provision.Proofs.Surveys
import Provision.Proofs.Threads
import Provision.Proofs.Versions
import Provision.Provider.Memory
import Provision.Provider.Script
import Provision.Word
