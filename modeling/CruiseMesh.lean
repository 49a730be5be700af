import CruiseMesh.Roster.RotationRuns
import CruiseMesh.Roster.Authorship
import CruiseMesh.Roster.ContactRuns
import CruiseMesh.Roster.OwnRosterRuns
import CruiseMesh.Roster.QuarantineRuns
import CruiseMesh.Link.ActivationRuns
import CruiseMesh.Relayd.Quota
import CruiseMesh.Relayd.Retention
import CruiseMesh.Relayd.Survival
import CruiseMesh.Relayd.Socket
import CruiseMesh.Relay.LockOut
import CruiseMesh.Link.Resume
import CruiseMesh.Roster.Gossip
import CruiseMesh.Inbound.Applied
import CruiseMesh.Inbound.DeviceStreams
import CruiseMesh.Relay.Regression
import CruiseMesh.Authoring.Freshness
import CruiseMesh.Mesh.Carrying
import CruiseMesh.Roster.Chain
import CruiseMesh.Sync.StreamRuns
import CruiseMesh.Sync.SettingsMerge
import CruiseMesh.Relayd.Authority
import CruiseMesh.Sync.Stalled
import CruiseMesh.Routing.Digest
import CruiseMesh.Relay.GroupTarget
import CruiseMesh.Binding
import CruiseMesh.Inbound.Metadata
import CruiseMesh.Sync.DigestCodec
import CruiseMesh.Inbound.LateArrival
import CruiseMesh.Roster.ReadBack
import CruiseMesh.Mesh.SeenSet
