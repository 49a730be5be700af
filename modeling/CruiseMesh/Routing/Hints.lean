import CruiseMesh.Link.Gate
import CruiseMesh.Roster.OwnRoster

/-!
# Recipient hints

`recipient_hints.rs`: a relay row is addressed by a hash of a routing id and the day of
its creation, so a device asks for the hints of every id it answers to over a window of
days. Here are the windows, the hint sets a device publishes, and where a hint falls
relative to the devices of one person.
-/

namespace CruiseMesh
open Wire

def msPerDay : Int := 24 * 60 * 60 * 1000
def defaultExpiryMs : Int := 7 * 24 * 60 * 60 * 1000
def carryHintSkewDays : Int := 1

/-- `CARRY_HINT_DAY_WINDOW_DAYS`: the longest life of an envelope and a day of skew. -/
def carryHintDayWindowDays : Int := defaultExpiryMs / msPerDay + carryHintSkewDays

def pushHintForwardDays : Int := 1
def relayMaxFetchHints : Nat := 256
def recipientHintLen : Nat := 8

section Hashes
variable (P : Primitives)

/-- The hint of a routing id on a day. -/
def dayHint (id : Bytes) (day : Int) : Bytes := P.blake2b recipientHintLen (id ++ intBytes 8 day)

/-- `compute_recipient_hint`. -/
def computeRecipientHint (recipientUserId : Bytes) (timestampMs : Int) : Bytes :=
  dayHint P recipientUserId (timestampMs / msPerDay)

def deviceHintNamespaceDomain : Bytes := ascii "CruiseMesh device hint namespace v1\x00"

/-- `core_device_namespace_id`. -/
def coreDeviceNamespaceId (personId deviceId : Bytes) : Bytes :=
  if deviceId.length ≠ deviceIdLen ∨ deviceId = legacyDeviceId then personId
  else P.blake2b deviceIdLen
    (deviceHintNamespaceDomain ++ lenPrefixed personId ++ lenPrefixed deviceId)

/-- `hints_over_range`: from `forwardDays` ahead to `windowDays` back. -/
def hintsOverRange (userId : Bytes) (nowMs windowDays forwardDays : Int) : List Bytes :=
  (List.range (windowDays + forwardDays + 1).toNat).map fun (i : Nat) =>
    computeRecipientHint P userId (nowMs - (i - forwardDays) * msPerDay)

/-- `hints_over_window`. -/
def hintsOverWindow (userId : Bytes) (nowMs windowDays : Int) : List Bytes :=
  hintsOverRange P userId nowMs windowDays 0

/-- `device_hints_over_range`. -/
def deviceHintsOverRange (personId deviceId : Bytes) (nowMs forwardDays : Int) : List Bytes :=
  hintsOverRange P (coreDeviceNamespaceId P personId deviceId) nowMs carryHintDayWindowDays forwardDays

end Hashes

/-! ## Where a hint falls -/

inductive FleetHint where
  | ownDevice
  | personShared
  | sibling
  | foreign
deriving DecidableEq

/-- The fleet of this device as hint sets. -/
structure FleetHints where
  own : List Bytes
  personShared : List Bytes
  sibling : List Bytes

/-- `FleetHints::classify`: the own namespace is tested first. -/
def FleetHints.classify (hints : FleetHints) (hint : Bytes) : FleetHint :=
  if hint ∈ hints.own then .ownDevice
  else if hint ∈ hints.sibling then .sibling
  else if hint ∈ hints.personShared then .personShared
  else .foreign

/-! ## The sets a device publishes -/

/-- `dedupe_hints`. -/
def dedupeHints (hints : List Bytes) : List Bytes :=
  hints.foldl (fun kept hint => if hint ∈ kept then kept else kept ++ [hint]) []

/-- The loop of `clamp_hint_groups`: whole ids, dropped from the tail. -/
def clampFrom (hints : List Bytes) : List (List Bytes) → List Bytes
  | [] => hints
  | group :: rest =>
    if relayMaxFetchHints < hints.length + group.length then hints
    else clampFrom (hints ++ group) rest

/-- `clamp_hint_groups`. -/
def clampHintGroups (groups : List (List Bytes)) : List Bytes := clampFrom [] groups

namespace Store
variable (P : Primitives) (s : Store)

/-- The ids of the groups as `list_groups` returns them, by name and then by id. -/
def groupIds : List Bytes :=
  (s.groups.insertionSort fun a b => a.name < b.name ∨ a.name = b.name ∧ a.groupId ≤ b.groupId).map
    (·.groupId)

variable (ownUserId : Bytes)

/-- `member_group_ids`. -/
def memberGroupIds : List Bytes :=
  s.groupIds.filter fun groupId =>
    s.groupMembers.any fun member => member.groupId = groupId ∧ member.userId = ownUserId

/-- The contacts' ids as `list_contacts` returns them, by name. -/
def contactUserIds : List Bytes :=
  (s.contacts.insertionSort fun a b => a.name ≤ b.name).map (·.userId)

/-- `proxy_contact_ids`. -/
def proxyContactIds : List Bytes :=
  s.contactUserIds.filter (· ≠ ownUserId)

/-- `own_fleet_hints`. -/
def ownFleetHints (ownPersonId : Bytes) (nowMs : Int) : FleetHints :=
  let fleet := s.ownDeviceFleet
  let ownDeviceId := fleet.ownDeviceId.getD legacyDeviceId
  let own := deviceHintsOverRange P ownPersonId ownDeviceId nowMs 0
  let person := hintsOverWindow P ownPersonId nowMs carryHintDayWindowDays
  if fleet.deviceIds.length < 2 then { own := own ++ person, personShared := [], sibling := [] }
  else
    { own, personShared := person
      sibling := (fleet.deviceIds.filter (· ≠ ownDeviceId)).flatMap fun deviceId =>
        deviceHintsOverRange P ownPersonId deviceId nowMs 0 }

/-- `relay_hint_groups`. -/
def relayHintGroups (nowMs forwardDays : Int) (includeProxy : Bool) : List (List Bytes) :=
  if s.linkGateAllows .advertise = false then []
  else
    let hints (id : Bytes) := hintsOverRange P id nowMs carryHintDayWindowDays forwardDays
    let device := match s.ownDeviceFleet.ownDeviceId with
      | some deviceId => [deviceHintsOverRange P ownUserId deviceId nowMs forwardDays]
      | none => []
    [hints ownUserId] ++ device ++ (s.memberGroupIds ownUserId).map hints ++
      (if includeProxy then (s.proxyContactIds ownUserId).map hints else [])

/-- `self_hints_with_forward`. -/
def selfHintsWithForward (nowMs forwardDays : Int) : List Bytes :=
  clampHintGroups (s.relayHintGroups P ownUserId nowMs forwardDays false)

/-- `proxy_hints_with_forward`. -/
def proxyHintsWithForward (nowMs forwardDays : Int) : List Bytes :=
  if s.linkGateAllows .advertise = false then []
  else clampHintGroups ((s.proxyContactIds ownUserId).map fun id =>
    hintsOverRange P id nowMs carryHintDayWindowDays forwardDays)

variable (nowMs : Int)

/-- `relay_self_hints`. -/
def relaySelfHints : List Bytes :=
  s.selfHintsWithForward P ownUserId nowMs 0

/-- `relay_self_push_hints`. -/
def relaySelfPushHints : List Bytes :=
  s.selfHintsWithForward P ownUserId nowMs pushHintForwardDays

/-- `relay_proxy_hints`. -/
def relayProxyHints : List Bytes :=
  s.proxyHintsWithForward P ownUserId nowMs 0

/-- `relay_fetch_hints`. -/
def relayFetchHints : List Bytes :=
  dedupeHints (clampHintGroups (s.relayHintGroups P ownUserId nowMs 0 true))

/-- `relay_fetch_push_hints`. -/
def relayFetchPushHints : List Bytes :=
  dedupeHints (clampHintGroups (s.relayHintGroups P ownUserId nowMs pushHintForwardDays true))

/-- `delivery_hints_for_peer`. -/
def deliveryHintsForPeer (peerUserId : Bytes) (nowMs : Int) : List Bytes :=
  if s.linkGateAllows .advertise = false then []
  else
    hintsOverWindow P peerUserId nowMs carryHintDayWindowDays ++
      (s.memberGroupIds peerUserId).flatMap fun groupId =>
        hintsOverWindow P groupId nowMs carryHintDayWindowDays

end Store
end CruiseMesh
