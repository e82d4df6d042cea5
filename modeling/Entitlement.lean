import Entitlement.Main
import Entitlement.Proofs.Access
import Entitlement.Proofs.Assignments
import Entitlement.Proofs.Capacity
import Entitlement.Proofs.CleanFailures
import Entitlement.Proofs.Commuting
import Entitlement.Proofs.Completeness
import Entitlement.Proofs.Connections
import Entitlement.Proofs.DirectGrants
import Entitlement.Proofs.Discipline
import Entitlement.Proofs.FailingChecks
import Entitlement.Proofs.FaultsInJson
import Entitlement.Proofs.FirstMatch
import Entitlement.Proofs.Identifiers
import Entitlement.Proofs.Layers
import Entitlement.Proofs.LifeCycle
import Entitlement.Proofs.Listings
import Entitlement.Proofs.Mentions
import Entitlement.Proofs.Merging
import Entitlement.Proofs.Mirroring
import Entitlement.Proofs.PermissionKeys
import Entitlement.Proofs.Populating
import Entitlement.Proofs.RemoteAccess
import Entitlement.Proofs.RemoteFaults
import Entitlement.Proofs.Replacing
import Entitlement.Proofs.Representation
import Entitlement.Proofs.RoleCreation
import Entitlement.Proofs.RoleDeletion
import Entitlement.Proofs.RoleUpdates
import Entitlement.Proofs.RoundTrips
import Entitlement.Proofs.StableKeys
import Entitlement.Proofs.Synchronizing
import Entitlement.Proofs.Traces
import Entitlement.Proofs.Traffic
import Entitlement.Proofs.UnitLife
import Entitlement.Proofs.Words
import Entitlement.Wire.Status
