import CruiseMesh.Roster.Validate
import CruiseMesh.Sync.Record

/-!
# Making rosters

The builders of `device_link/activation.rs` and `revocation.rs`: genesis, linking a
new device, recovery from the backup, and the two revocations. The person root signs
genesis and recovery; the approving device signs the rest. Each builder validates the
document it has just made before it hands it out.

Fresh key material comes from the operating system's generator, so a builder that
mints an inbox key takes the secret as an argument.
-/

namespace CruiseMesh
open List

/-- Which authority signed a revocation. -/
inductive RevocationPath where
  | approvingDevice
  | recoveryEpoch
deriving DecidableEq

/-- One revocation, ready to be committed locally and gossiped. -/
structure RevocationUpdate where
  roster : Roster
  rosterHead : Bytes
  revokedDeviceIds : List Bytes
  inboxKey : InboxKey
  path : RevocationPath
deriving DecidableEq

/-- A roster update that adds one device. -/
structure LinkRosterUpdate where
  roster : Roster
  newDeviceId : Bytes
  rosterHead : Bytes
  addOutcome : DeviceAddOutcome
deriving DecidableEq

/-- The rejection as `{:?}` prints it. -/
def RosterRejection.debug : RosterRejection → String
  | .personMismatch => "PersonMismatch"
  | .malformedField => "MalformedField"
  | .reservedDeviceId => "ReservedDeviceId"
  | .duplicateDevice => "DuplicateDevice"
  | .certSignatureInvalid => "CertSignatureInvalid"
  | .chainBroken => "ChainBroken"
  | .signatureInvalid => "SignatureInvalid"
  | .signerNotAuthorized => "SignerNotAuthorized"
  | .approvingDeviceMissing => "ApprovingDeviceMissing"
  | .approvingRoleMismatch => "ApprovingRoleMismatch"
  | .genesisNotRootSigned => "GenesisNotRootSigned"
  | .tombstonedDeviceActive => "TombstonedDeviceActive"
  | .deviceCapExceeded => "DeviceCapExceeded"

section Helpers
variable (P : Primitives)

/-- `public_of`. -/
def publicOf (signSk : Bytes) : Except CoreError Bytes := do
  let signingKey ← signingKeyFromBytes signSk
  pure (P.verifyingKey signingKey)

/-- A document that must already be valid, for the stated purpose. -/
def requireValid (purpose : String) (roster : Roster) (personRootSignPk : Bytes) :
    Except CoreError Unit :=
  (validate P roster personRootSignPk).mapError fun rejection =>
    .malformed ("the roster " ++ purpose ++ " is not acceptable: " ++ rejection.debug)

/-- `validated`: a document this device has just made must be acceptable. -/
def validated (roster : Roster) (personRootSignPk : Bytes) : Except CoreError Roster := do
  requireValid P "this device just signed" roster personRootSignPk
  pure roster

/-- `check_len`. -/
def checkLen (bytes : Bytes) (len : Nat) (what : String) : Except CoreError Unit :=
  refuseWhen (bytes.length ≠ len) (.malformed ("device link " ++ what ++ " is " ++
    toString bytes.length ++ " bytes, not " ++ toString len))

/-- `sign_cert`. -/
def signCert (personId deviceSignPk deviceAgreePk : Bytes) (addedEpoch : Nat) (flags : UInt32)
    (signerSignSk : Bytes) : Except CoreError DeviceCert := do
  checkLen deviceSignPk keyLen "device signing key"
  checkLen deviceAgreePk keyLen "device agreement key"
  checkLen personId deviceIdLen "person id"
  coreSignDeviceCert P
    { personId, deviceSignPk, deviceAgreePk, addedEpoch, flags, signerSignPk := [],
      signature := [] } signerSignSk

/-- The loop of `normalize_revoked`. -/
def normalizeRevokedFrom (active : List Bytes) :
    List Bytes → List Bytes → Except CoreError (List Bytes)
  | out, [] => .ok out
  | out, deviceId :: rest => do
    refuseWhen (deviceId.length ≠ deviceIdLen) (.malformed ("a device id is " ++
      toString deviceId.length ++ " bytes, not " ++ toString deviceIdLen))
    refuseWhen (deviceId ∉ active)
      (.malformed "this roster does not list the device being revoked")
    normalizeRevokedFrom active (if deviceId ∈ out then out else out ++ [deviceId]) rest

/-- `normalize_revoked`: the named ids without repeats, each an active device. -/
def normalizeRevoked (roster : Roster) (revoked : List Bytes) : Except CoreError (List Bytes) := do
  refuseWhen (revoked = []) (.malformed "a revocation must name at least one device")
  normalizeRevokedFrom (roster.deviceIds P) [] revoked

/-- `next_version_component`. -/
def nextVersionComponent (current : Nat) (field : String) : Except CoreError Nat := do
  refuseWhen (u64Max ≤ current) (.malformed ("this roster's " ++ field ++
    " is at the maximum a u64 holds and cannot be raised; a document that arrived there was " ++
    "crafted, not counted"))
  pure (current + 1)

/-- `rotated_key`. -/
def rotatedKey (current : Roster) (currentInboxKey : InboxKey) (fresh : Bytes) :
    Except CoreError InboxKey := do
  refuseWhen (currentInboxKey.generation ≠ current.inboxKeyGeneration)
    (.malformed ("this roster is at inbox key generation " ++ toString current.inboxKeyGeneration ++
      " but the key offered is generation " ++ toString currentInboxKey.generation))
  pure (coreRotateInboxKey P currentInboxKey fresh)

end Helpers

section HelperLemmas
variable {P : Primitives} {sk : Bytes} {roster roster' : Roster} {cert : DeviceCert} {root : Bytes}

theorem signingKeyFromBytes_eq_ok {key : Bytes} :
    signingKeyFromBytes sk = .ok key ↔ sk.length = keyLen ∧ sk = key := by
  simp [signingKeyFromBytes, bind_eq_ok, pure, Except.pure]

theorem publicOf_eq_ok {pk : Bytes} :
    publicOf P sk = .ok pk ↔ sk.length = keyLen ∧ P.verifyingKey sk = pk := by
  simp [publicOf, bind_eq_ok, signingKeyFromBytes_eq_ok, pure, Except.pure]

theorem coreSignRoster_eq_ok :
    coreSignRoster P roster sk = .ok roster' ↔
      sk.length = keyLen ∧ roster.signedBy P sk = roster' := by
  simp [coreSignRoster, bind_eq_ok, signingKeyFromBytes_eq_ok, pure, Except.pure]

theorem coreSignDeviceCert_eq_ok {cert' : DeviceCert} :
    coreSignDeviceCert P cert sk = .ok cert' ↔
      sk.length = keyLen ∧ cert.signedBy P sk = cert' := by
  simp [coreSignDeviceCert, bind_eq_ok, signingKeyFromBytes_eq_ok, pure, Except.pure]

theorem requireValid_eq_ok {purpose : String} {u : Unit} :
    requireValid P purpose roster root = .ok u ↔ ValidRoster P roster root := by
  rw [requireValid, mapError_eq_ok, ← validate_eq_ok_iff]

theorem validated_eq_ok :
    validated P roster root = .ok roster' ↔ ValidRoster P roster root ∧ roster = roster' := by
  simp [validated, bind_eq_ok, requireValid_eq_ok, pure, Except.pure]

theorem signCert_eq_ok {personId signPk agreePk : Bytes} {epoch : Nat} {flags : UInt32}
    (h : signCert P personId signPk agreePk epoch flags sk = .ok cert) :
    cert = DeviceCert.signedBy P ⟨personId, signPk, agreePk, epoch, flags, [], []⟩ sk := by
  simp only [signCert, bind_eq_ok, coreSignDeviceCert_eq_ok] at h
  obtain ⟨_, _, _, _, _, _, _, h⟩ := h
  exact h.symm

theorem nextVersionComponent_eq_ok {current next : Nat} {field : String} :
    nextVersionComponent current field = .ok next ↔ current < u64Max ∧ current + 1 = next := by
  simp [nextVersionComponent, bind_eq_ok, pure, Except.pure]

theorem rotatedKey_eq_ok {current : Roster} {key key' : InboxKey} {fresh : Bytes} :
    rotatedKey P current key fresh = .ok key' ↔
      key.generation = current.inboxKeyGeneration ∧ coreRotateInboxKey P key fresh = key' := by
  simp [rotatedKey, bind_eq_ok, pure, Except.pure]

/-- The ids of active devices normalise to the same ids without repeats. -/
theorem normalizeRevokedFrom_ok {active : List Bytes}
    (hactive : ∀ id ∈ active, id.length = deviceIdLen) :
    ∀ {revoked out : List Bytes}, (∀ id ∈ revoked, id ∈ active) → out.Nodup →
      ∃ ids, normalizeRevokedFrom active out revoked = .ok ids ∧ ids.Nodup ∧
        ∀ id, id ∈ ids ↔ id ∈ out ∨ id ∈ revoked := by
  intro revoked
  induction revoked with
  | nil =>
    intro out _ hout
    exact ⟨out, rfl, hout, by simp⟩
  | cons deviceId rest ih =>
    intro out hmem hout
    have hlisted := hmem deviceId mem_cons_self
    have hrest : ∀ id ∈ rest, id ∈ active := fun id hid => hmem id (mem_cons_of_mem _ hid)
    unfold normalizeRevokedFrom
    rw [refuseWhen_neg (not_not.mpr (hactive _ hlisted)), refuseWhen_neg (not_not.mpr hlisted)]
    by_cases hdup : deviceId ∈ out
    · obtain ⟨ids, hids, hnd, hiff⟩ := ih hrest hout
      refine ⟨ids, by rw [if_pos hdup]; exact hids, hnd, fun id => ?_⟩
      rw [hiff, mem_cons]
      by_cases hid : id = deviceId
      · simp [hid, hdup]
      · simp [hid]
    · have hout' : (out ++ [deviceId]).Nodup := by
        refine nodup_append.mpr ⟨hout, by simp, ?_⟩
        intro a ha b hb hab
        rw [mem_singleton.mp hb] at hab
        exact hdup (hab ▸ ha)
      obtain ⟨ids, hids, hnd, hiff⟩ := ih hrest hout'
      refine ⟨ids, by rw [if_neg hdup]; exact hids, hnd, fun id => ?_⟩
      rw [hiff, mem_append, mem_singleton, mem_cons, or_assoc]

theorem normalizeRevoked_ok {revoked : List Bytes} (hne : revoked ≠ [])
    (hactive : ∀ id ∈ revoked, id ∈ roster.deviceIds P) :
    ∃ ids, normalizeRevoked P roster revoked = .ok ids ∧ ids.Nodup ∧
      ∀ id, id ∈ ids ↔ id ∈ revoked := by
  have hlen : ∀ id ∈ roster.deviceIds P, id.length = deviceIdLen := by
    intro id hid
    obtain ⟨cert, _, rfl⟩ := mem_map.mp hid
    exact P.deriveUserId_length _
  obtain ⟨ids, hids, hnd, hiff⟩ := normalizeRevokedFrom_ok hlen hactive nodup_nil
  refine ⟨ids, ?_, hnd, by simpa using hiff⟩
  unfold normalizeRevoked
  rw [refuseWhen_neg hne]
  exact hids

end HelperLemmas

section Builders
variable (P : Primitives)

/-- `core_link_genesis_roster`: the first roster a person has. -/
def coreLinkGenesisRoster (personRootSignSk deviceSignPk deviceAgreePk : Bytes) :
    Except CoreError Roster := do
  let personRootSignPk ← publicOf P personRootSignSk
  let personId := P.deriveUserId personRootSignPk
  let cert ← signCert P personId deviceSignPk deviceAgreePk 0 deviceCertFlagRosterSigning
    personRootSignSk
  let roster ← coreSignRoster P
    { personId, recoveryEpoch := 0, seq := 0, devices := [cert], tombstones := [],
      approvingDeviceId := cert.deviceId P, inboxKeyGeneration := 0, signerSignPk := [],
      signature := [] } personRootSignSk
  validated P roster personRootSignPk

/-- `core_link_recovery_roster`: the next recovery epoch, with this device alone. The
generation moves without new material, and nothing is buried. -/
def coreLinkRecoveryRoster (stored : Option Roster)
    (personRootSignSk deviceSignPk deviceAgreePk : Bytes) : Except CoreError Roster := do
  let personRootSignPk ← publicOf P personRootSignSk
  let personId := P.deriveUserId personRootSignPk
  match stored with
  | none => coreLinkGenesisRoster P personRootSignSk deviceSignPk deviceAgreePk
  | some stored => do
    refuseWhen (stored.personId ≠ personId)
      (.malformed "recovery roster is for a different person than the backup")
    let recoveryEpoch := saturatingSucc stored.recoveryEpoch
    let cert ← signCert P personId deviceSignPk deviceAgreePk recoveryEpoch
      deviceCertFlagRosterSigning personRootSignSk
    refuseWhen (cert.deviceId P ∈ stored.tombstoneIds)
      (.malformed "this device id was revoked and can never return")
    let roster ← coreSignRoster P
      { personId, recoveryEpoch, seq := 0, devices := [cert], tombstones := stored.tombstones,
        approvingDeviceId := cert.deviceId P,
        inboxKeyGeneration := saturatingSucc stored.inboxKeyGeneration, signerSignPk := [],
        signature := [] } personRootSignSk
    validated P roster personRootSignPk

/-- `core_link_sign_new_device_roster`: the approving device adds a device. -/
def coreLinkSignNewDeviceRoster (current : Roster)
    (personRootSignPk approvingDeviceSignSk newDeviceSignPk newDeviceAgreePk : Bytes) :
    Except CoreError LinkRosterUpdate := do
  requireValid P "to extend" current personRootSignPk
  let approvingPk ← publicOf P approvingDeviceSignSk
  refuseWhen (P.deriveUserId approvingPk ≠ current.approvingDeviceId)
    (.malformed "this device does not hold the roster-signing role")
  let cert ← signCert P current.personId newDeviceSignPk newDeviceAgreePk current.recoveryEpoch 0
    approvingDeviceSignSk
  let newDeviceId := cert.deviceId P
  refuseWhen (newDeviceId ∈ current.deviceIds P)
    (.malformed "this device is already in the roster")
  refuseWhen (newDeviceId ∈ current.tombstoneIds)
    (.malformed "this device id was revoked and can never return")
  let addOutcome := coreDeviceAddOutcome ((current.devices.length % 2 ^ 32 + 1) % 2 ^ 32)
  refuseWhen (addOutcome = .refused)
    (.malformed "this person already holds the maximum number of devices")
  let roster ← coreSignRoster P
    { current with seq := saturatingSucc current.seq, devices := current.devices ++ [cert],
                   signerSignPk := [], signature := [] } approvingDeviceSignSk
  let roster ← validated P roster personRootSignPk
  pure { rosterHead := rosterHeadHash P roster, roster, newDeviceId, addOutcome }

/-- A surviving certificate, re-signed by `signSk` when a buried device had signed it. -/
def resignOrphan (buriedKeys : List Bytes) (signSk : Bytes) (cert : DeviceCert) :
    Except CoreError DeviceCert :=
  if cert.signerSignPk ∈ buriedKeys then
    coreSignDeviceCert P { cert with signerSignPk := [], signature := [] } signSk
  else .ok cert

/-- `core_revoke_devices_roster`: the approving device buries devices, rotates the
inbox key and re-signs what the buried devices had signed. -/
def coreRevokeDevicesRoster (current : Roster) (personRootSignPk approvingDeviceSignSk : Bytes)
    (revokedDeviceIds : List Bytes) (currentInboxKey : InboxKey) (fresh : Bytes) :
    Except CoreError RevocationUpdate := do
  requireValid P "to revoke from" current personRootSignPk
  let approvingSignPk ← publicOf P approvingDeviceSignSk
  let approvingDeviceId := P.deriveUserId approvingSignPk
  refuseWhen (approvingDeviceId ≠ current.approvingDeviceId)
    (.malformed "this device does not hold the roster-signing role")
  let revoked ← normalizeRevoked P current revokedDeviceIds
  refuseWhen (approvingDeviceId ∈ revoked) (.malformed
    "the approving device cannot revoke itself; that takes the recovery material")
  let survivors := current.devices.filter fun cert => cert.deviceId P ∉ revoked
  refuseWhen (survivors = []) (.malformed "a person must keep at least one device")
  let seq ← nextVersionComponent current.seq "seq"
  let buriedKeys :=
    (current.devices.filter fun cert => cert.deviceId P ∈ revoked).map (·.deviceSignPk)
  let devices ← survivors.mapM (resignOrphan P buriedKeys approvingDeviceSignSk)
  let inboxKey ← rotatedKey P current currentInboxKey fresh
  let roster ← coreSignRoster P
    { current with
      seq, devices,
      tombstones := current.tombstones ++ revoked.map fun deviceId => ⟨deviceId, seq⟩,
      inboxKeyGeneration := inboxKey.generation, signerSignPk := [], signature := [] }
    approvingDeviceSignSk
  let roster ← validated P roster personRootSignPk
  pure { rosterHead := rosterHeadHash P roster, roster, revokedDeviceIds := revoked, inboxKey,
         path := .approvingDevice }

/-- A survivor of a recovery: certified by the root, and carrying the signing role
exactly when it is the recovering device. -/
def recertify (personRootSignSk recoveringDeviceId : Bytes) (cert : DeviceCert) :
    Except CoreError DeviceCert :=
  coreSignDeviceCert P
    { cert with
      flags :=
        if cert.deviceId P = recoveringDeviceId then cert.flags ||| deviceCertFlagRosterSigning
        else cert.flags &&& ~~~deviceCertFlagRosterSigning
      signerSignPk := [], signature := [] } personRootSignSk

/-- The recovering device, certified by the root if the stored roster did not list it. -/
def addRecovering (personRootSignSk personId recoveringDeviceSignPk recoveringDeviceAgreePk : Bytes)
    (recoveryEpoch : Nat) (devices : List DeviceCert) : Except CoreError (List DeviceCert) :=
  if P.deriveUserId recoveringDeviceSignPk ∈ devices.map (·.deviceId P) then .ok devices
  else do
    let cert ← coreSignDeviceCert P
      { personId, deviceSignPk := recoveringDeviceSignPk, deviceAgreePk := recoveringDeviceAgreePk,
        addedEpoch := recoveryEpoch, flags := deviceCertFlagRosterSigning, signerSignPk := [],
        signature := [] } personRootSignSk
    pure (devices ++ [cert])

/-- The key of the new epoch: a phone that never held the old one mints it from the
generation the stored roster announced. -/
def recoveredKey (stored : Roster) (currentInboxKey : Option InboxKey) (fresh : Bytes) :
    Except CoreError InboxKey :=
  match currentInboxKey with
  | some key => rotatedKey P stored key fresh
  | none => .ok (coreMintInboxKey P (saturatingSucc stored.inboxKeyGeneration) fresh)

/-- `core_recovery_revoke_roster`: the root buries devices at the next epoch and
certifies every survivor itself. -/
def coreRecoveryRevokeRoster (stored : Roster)
    (personRootSignSk recoveringDeviceSignPk recoveringDeviceAgreePk : Bytes)
    (revokedDeviceIds : List Bytes) (currentInboxKey : Option InboxKey) (fresh : Bytes) :
    Except CoreError RevocationUpdate := do
  let personRootSignPk ← publicOf P personRootSignSk
  let personId := P.deriveUserId personRootSignPk
  refuseWhen (stored.personId ≠ personId)
    (.malformed "the roster to recover from is for a different person than the backup")
  requireValid P "to recover from" stored personRootSignPk
  let revoked ← normalizeRevoked P stored revokedDeviceIds
  let recoveringDeviceId := P.deriveUserId recoveringDeviceSignPk
  refuseWhen (recoveringDeviceId ∈ stored.tombstoneIds ∨ recoveringDeviceId ∈ revoked)
    (.malformed "this device id was revoked and can never return")
  let recoveryEpoch ← nextVersionComponent stored.recoveryEpoch "recovery_epoch"
  let survivors ← (stored.devices.filter fun cert => cert.deviceId P ∉ revoked).mapM
    (recertify P personRootSignSk recoveringDeviceId)
  let devices ← addRecovering P personRootSignSk personId recoveringDeviceSignPk
    recoveringDeviceAgreePk recoveryEpoch survivors
  let inboxKey ← recoveredKey P stored currentInboxKey fresh
  let roster ← coreSignRoster P
    { personId, recoveryEpoch, seq := 0, devices,
      tombstones := stored.tombstones ++ revoked.map fun deviceId => ⟨deviceId, 0⟩,
      approvingDeviceId := recoveringDeviceId, inboxKeyGeneration := inboxKey.generation,
      signerSignPk := [], signature := [] } personRootSignSk
  let roster ← validated P roster personRootSignPk
  pure { rosterHead := rosterHeadHash P roster, roster, revokedDeviceIds := revoked, inboxKey,
         path := .recoveryEpoch }

end Builders
end CruiseMesh
