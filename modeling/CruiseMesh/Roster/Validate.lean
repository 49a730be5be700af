import CruiseMesh.Lib.Saturate
import CruiseMesh.Roster.Document

/-!
# Roster validation

`validate` of `device_roster.rs`: is a document, on its own terms, a roster of the
person whose root key it is checked against? The checks run in the source's order
and each has its own rejection: the fixed widths, the person, the device cap, the
certificates one by one, the tombstones, the approving device and its flag, the
certificate signatures, the chain of those signatures to the root, and last the
document's own signature.

The chain is computed by the source as a fixpoint over a row of `vouched` marks.
`validate_eq_ok_iff` replaces the whole procedure by what it establishes,
`ValidRoster`, in which the chain is an inductive predicate.
-/

namespace CruiseMesh
open List Saturate

/-- Why a roster is not acceptable on its own terms. -/
inductive RosterRejection where
  | personMismatch
  | malformedField
  | reservedDeviceId
  | duplicateDevice
  | certSignatureInvalid
  | chainBroken
  | signatureInvalid
  | signerNotAuthorized
  | approvingDeviceMissing
  | approvingRoleMismatch
  | genesisNotRootSigned
  | tombstonedDeviceActive
  | deviceCapExceeded
deriving DecidableEq

/-! ## The device cap -/

/-- What adding a device does, given the count the roster would hold afterwards. -/
inductive DeviceAddOutcome where
  | added
  | addedWithWarning
  | refused
deriving DecidableEq

def deviceSoftCap : Nat := 8
def deviceHardCap : Nat := 16

def coreDeviceAddOutcome (resultingDeviceCount : Nat) : DeviceAddOutcome :=
  if resultingDeviceCount > deviceHardCap then .refused
  else if resultingDeviceCount > deviceSoftCap then .addedWithWarning
  else .added

/-- The outcome for a document, whose device count the source narrows to a `u32`. -/
def Roster.deviceCountOutcome (roster : Roster) : DeviceAddOutcome :=
  coreDeviceAddOutcome (roster.devices.length % 2 ^ 32)

/-! ## The checks -/

section Checks
variable (P : Primitives)

/-- The fixed-width fields of a certificate. -/
def DeviceCert.widthsOk (cert : DeviceCert) : Prop :=
  cert.deviceSignPk.length = keyLen ∧ cert.deviceAgreePk.length = keyLen ∧
    cert.signerSignPk.length = keyLen ∧ cert.signature.length = signatureLen

instance (cert : DeviceCert) : Decidable cert.widthsOk :=
  inferInstanceAs (Decidable (_ ∧ _ ∧ _ ∧ _))

/-- The fixed-width fields of the document itself, and the root key's. -/
def Roster.widthsOk (roster : Roster) (personRootSignPk : Bytes) : Prop :=
  personRootSignPk.length = keyLen ∧ roster.personId.length = deviceIdLen ∧
    roster.approvingDeviceId.length = deviceIdLen ∧ roster.signerSignPk.length = keyLen ∧
    roster.signature.length = signatureLen

instance (roster : Roster) (root : Bytes) : Decidable (roster.widthsOk root) :=
  inferInstanceAs (Decidable (_ ∧ _ ∧ _ ∧ _ ∧ _))

/-- The loop over the certificates, collecting their ids. -/
def scanDevices (personId : Bytes) (devices : List DeviceCert) :
    Except RosterRejection (List Bytes) :=
  collectDistinct (·.deviceId P) .duplicateDevice
    (fun cert => do
      refuseWhen (¬ cert.widthsOk) .malformedField
      refuseWhen (cert.personId ≠ personId) .personMismatch
      refuseWhen (cert.deviceId P = legacyDeviceId) .reservedDeviceId)
    (fun _ => .ok ()) [] devices

/-- The loop over the tombstones, collecting theirs. -/
def scanTombstones (deviceIds : List Bytes) (tombstones : List DeviceTombstone) :
    Except RosterRejection (List Bytes) :=
  collectDistinct (·.deviceId) .duplicateDevice
    (fun tombstone => refuseWhen (tombstone.deviceId.length ≠ deviceIdLen) .malformedField)
    (fun tombstone => refuseWhen (tombstone.deviceId ∈ deviceIds) .tombstonedDeviceActive)
    [] tombstones

def approvingPosition (deviceIds : List Bytes) (approvingDeviceId : Bytes) :
    Except RosterRejection Nat :=
  match deviceIds.findIdx? (· == approvingDeviceId) with
  | some index => .ok index
  | none => .error .approvingDeviceMissing

/-- Whether the certificate at `index` was signed by the root, or by a device whose
own certificate is already vouched for. -/
def reachesRoot (personRootSignPk : Bytes) (devices : List DeviceCert) (vouched : List Bool)
    (index : Nat) : Bool :=
  match devices[index]? with
  | none => false
  | some cert =>
    cert.signerSignPk == personRootSignPk ||
      (devices.zip vouched).any fun (other, reached) =>
        reached && other.deviceId P == P.deriveUserId cert.signerSignPk

/-- The marks the chain loop ends with; it starts from the root alone. -/
def vouchedMarks (personRootSignPk : Bytes) (devices : List DeviceCert) : List Bool :=
  saturate (reachesRoot P personRootSignPk devices)
    (replicate devices.length false)

/-- `validate`. -/
def validate (roster : Roster) (personRootSignPk : Bytes) : Except RosterRejection Unit := do
  refuseWhen (¬ roster.widthsOk personRootSignPk) .malformedField
  refuseWhen (P.deriveUserId personRootSignPk ≠ roster.personId) .personMismatch
  refuseWhen (roster.deviceCountOutcome = .refused) .deviceCapExceeded
  let deviceIds ← scanDevices P roster.personId roster.devices
  let _ ← scanTombstones deviceIds roster.tombstones
  let approvingIndex ← approvingPosition deviceIds roster.approvingDeviceId
  refuseWhen (∃ entry ∈ roster.devices.zipIdx,
    entry.1.signsRosters ≠ (entry.2 == approvingIndex)) .approvingRoleMismatch
  forM roster.devices fun cert =>
    (P.verifyRaw cert.signerSignPk (deviceCertSignedBytes cert) cert.signature).mapError
      fun _ => RosterRejection.certSignatureInvalid
  refuseWhen (false ∈ vouchedMarks P personRootSignPk roster.devices) .chainBroken
  let signedByRoot := roster.signerSignPk = personRootSignPk
  let signedByApprover :=
    roster.devices[approvingIndex]?.map (·.deviceSignPk) = some roster.signerSignPk
  refuseWhen (¬ signedByRoot ∧ ¬ signedByApprover) .signerNotAuthorized
  refuseWhen (roster.seq = 0 ∧ ¬ signedByRoot) .genesisNotRootSigned
  (P.verifyRaw roster.signerSignPk (rosterSignedBytes roster) roster.signature).mapError
    fun _ => .signatureInvalid

end Checks

/-! ## What the loops establish -/

section Loops
variable {P : Primitives}

/-- What a certificate must be for the certificate loop to pass it. -/
def DeviceCert.WellFormed (P : Primitives) (personId : Bytes) (cert : DeviceCert) : Prop :=
  cert.widthsOk ∧ cert.personId = personId ∧ cert.deviceId P ≠ legacyDeviceId

variable {ids : List Bytes}

theorem scanDevices_eq_ok_iff {personId : Bytes} {devices : List DeviceCert} :
    scanDevices P personId devices = .ok ids ↔
      ids = devices.map (·.deviceId P) ∧ (∀ cert ∈ devices, cert.WellFormed P personId) ∧
        (devices.map (·.deviceId P)).Nodup := by
  unfold scanDevices DeviceCert.WellFormed
  rw [collectDistinct_eq_ok_iff nodup_nil]
  simp [bind_eq_ok]

theorem scanTombstones_eq_ok_iff {deviceIds : List Bytes} {tombstones : List DeviceTombstone} :
    scanTombstones deviceIds tombstones = .ok ids ↔
      ids = tombstones.map (·.deviceId) ∧
        (∀ tombstone ∈ tombstones, tombstone.deviceId.length = deviceIdLen ∧
          tombstone.deviceId ∉ deviceIds) ∧ (tombstones.map (·.deviceId)).Nodup := by
  unfold scanTombstones
  rw [collectDistinct_eq_ok_iff nodup_nil]
  simp

/-- Where ids do not repeat, the approving position is the one index whose
certificate has the approving id. -/
theorem approvingPosition_eq_ok_iff {id : Bytes} {index : Nat} (hnd : ids.Nodup) :
    approvingPosition ids id = .ok index ↔ ids[index]? = some id := by
  unfold approvingPosition
  cases hfind : ids.findIdx? (· == id) with
  | none =>
    rw [findIdx?_eq_none_iff] at hfind
    simp only [reduceCtorEq, false_iff]
    intro hget
    simpa using hfind id (mem_of_getElem? hget)
  | some i =>
    obtain ⟨hi, hid, _⟩ := findIdx?_eq_some_iff_getElem.mp hfind
    simp only [Except.ok.injEq]
    constructor
    · rintro rfl
      rw [getElem?_eq_getElem hi]
      simpa using hid
    · intro hget
      obtain ⟨hindex, hgetElem⟩ := List.getElem?_eq_some_iff.mp hget
      have hsame : ids[i] = ids[index] := by rw [hgetElem]; simpa using hid
      exact (getElem_inj hnd).mp hsame

end Loops

/-! ## The chain to the root -/

/-- A listed certificate whose signatures lead to the person root: the root signed
it, or a device did whose own listed certificate leads there. -/
inductive Vouched (P : Primitives) (root : Bytes) (devices : List DeviceCert) : DeviceCert → Prop
  | root {cert} (hmem : cert ∈ devices) (hsigner : cert.signerSignPk = root) :
      Vouched P root devices cert
  | link {cert signer} (hmem : cert ∈ devices) (hsigner : Vouched P root devices signer)
      (hid : signer.deviceId P = P.deriveUserId cert.signerSignPk) : Vouched P root devices cert

section Chain
variable {P : Primitives} {root : Bytes} {devices : List DeviceCert} {cert : DeviceCert}

theorem Vouched.mem (h : Vouched P root devices cert) : cert ∈ devices := by
  cases h <;> assumption

theorem reachesRoot_eq_true_iff {vouched : List Bool} {index : Nat} :
    reachesRoot P root devices vouched index = true ↔
      ∃ cert, devices[index]? = some cert ∧ (cert.signerSignPk = root ∨
        ∃ other ∈ devices.zip vouched, other.2 = true ∧
          other.1.deviceId P = P.deriveUserId cert.signerSignPk) := by
  unfold reachesRoot
  cases hget : devices[index]? with
  | none => simp
  | some cert => simp [any_eq_true]

/-- A mark is only ever set on a certificate that leads to the root. -/
def MarksVouched (P : Primitives) (root : Bytes) (devices : List DeviceCert)
    (marks : List Bool) : Prop :=
  ∀ (index : Nat) (cert : DeviceCert), devices[index]? = some cert →
    marks[index]? = some true → Vouched P root devices cert

theorem vouchedMarks_sound : MarksVouched P root devices (vouchedMarks P root devices) := by
  refine saturate_induction ?_ ?_
  · -- marking an index that reaches the root
    intro marks i _ henabled hmarks index cert hcert hmark
    obtain ⟨cert', hcert', hreach⟩ := reachesRoot_eq_true_iff.mp henabled
    by_cases hi : i = index
    · subst hi
      obtain rfl : cert = cert' := Option.some.inj (hcert.symm.trans hcert')
      have hmem := mem_of_getElem? hcert
      rcases hreach with hroot | ⟨⟨other, reached⟩, hzip, rfl, hid⟩
      · exact .root hmem hroot
      · obtain ⟨j, hj⟩ := mem_iff_getElem?.mp hzip
        obtain ⟨hother, hmark'⟩ := getElem?_zip_eq_some.mp hj
        exact .link hmem (hmarks j other hother hmark') hid
    · rw [getElem?_set_ne hi] at hmark
      exact hmarks index cert hcert hmark
  · intro index cert _ hmark
    have := mem_of_getElem? hmark
    simp at this

theorem vouchedMarks_length : (vouchedMarks P root devices).length = devices.length := by
  have h := (saturate_closed (reachesRoot P root devices)
    (replicate devices.length false)).2
  rwa [length_replicate] at h

/-- Every certificate that leads to the root is marked when the loop stops. -/
theorem vouchedMarks_complete (hv : Vouched P root devices cert) :
    ∀ index : Nat, devices[index]? = some cert →
      (vouchedMarks P root devices)[index]? = some true := by
  have hclosed : Saturate.Closed (reachesRoot P root devices) (vouchedMarks P root devices) :=
    (saturate_closed _ _).1
  -- an index that reaches the root under the final marks is marked
  have hmark : ∀ index : Nat, reachesRoot P root devices (vouchedMarks P root devices) index = true →
      (vouchedMarks P root devices)[index]? = some true := by
    intro index hreach
    obtain ⟨cert, hcert, _⟩ := reachesRoot_eq_true_iff.mp hreach
    have hlt : index < (vouchedMarks P root devices).length := by
      rw [vouchedMarks_length]; exact (List.getElem?_eq_some_iff.mp hcert).1
    rcases hclosed index hlt with hset | hoff
    · rw [getElem?_eq_getElem hlt]
      simpa [getD, getElem?_eq_getElem hlt] using hset
    · exact absurd (hoff.symm.trans hreach) (by decide)
  induction hv with
  | root hmem hsigner =>
    intro index hindex
    exact hmark index (reachesRoot_eq_true_iff.mpr ⟨_, hindex, .inl hsigner⟩)
  | @link cert signer hmem hsigner hid ih =>
    intro index hindex
    obtain ⟨j, hj⟩ := mem_iff_getElem?.mp hsigner.mem
    have hzip : (signer, true) ∈ devices.zip (vouchedMarks P root devices) :=
      mem_of_getElem? (getElem?_zip_eq_some.mpr ⟨hj, ih j hj⟩)
    exact hmark index
      (reachesRoot_eq_true_iff.mpr ⟨_, hindex, .inr ⟨_, hzip, rfl, hid⟩⟩)

/-- **The chain loop leaves no mark unset exactly when every certificate leads to the
root.** -/
theorem vouchedMarks_all_iff :
    false ∉ vouchedMarks P root devices ↔ ∀ cert ∈ devices, Vouched P root devices cert := by
  constructor
  · intro hall cert hmem
    obtain ⟨index, hindex⟩ := mem_iff_getElem?.mp hmem
    have hlt : index < (vouchedMarks P root devices).length := by
      rw [vouchedMarks_length]; exact (List.getElem?_eq_some_iff.mp hindex).1
    refine vouchedMarks_sound index cert hindex ?_
    rw [getElem?_eq_getElem hlt]
    cases hm : (vouchedMarks P root devices)[index] with
    | true => rfl
    | false => exact absurd (hm ▸ getElem_mem hlt) hall
  · intro hall hmem
    obtain ⟨index, hindex⟩ := mem_iff_getElem?.mp hmem
    have hlt : index < devices.length := by
      rw [← vouchedMarks_length]; exact (List.getElem?_eq_some_iff.mp hindex).1
    have := vouchedMarks_complete (hall _ (getElem_mem hlt)) index
      (getElem?_eq_getElem hlt)
    rw [hindex] at this
    exact absurd this (by decide)

end Chain

/-! ## What validation establishes -/

/-- A document that is, on its own terms, a roster of the person with this root key. -/
structure ValidRoster (P : Primitives) (roster : Roster) (root : Bytes) : Prop where
  widths : roster.widthsOk root
  person : P.deriveUserId root = roster.personId
  cap : roster.deviceCountOutcome ≠ .refused
  certs : ∀ cert ∈ roster.devices, cert.WellFormed P roster.personId
  devices_nodup : (roster.deviceIds P).Nodup
  tombstones : ∀ tombstone ∈ roster.tombstones, tombstone.deviceId.length = deviceIdLen ∧
    tombstone.deviceId ∉ roster.deviceIds P
  tombstones_nodup : roster.tombstoneIds.Nodup
  approver : roster.approvingDeviceId ∈ roster.deviceIds P
  role : ∀ cert ∈ roster.devices,
    (cert.signsRosters = true ↔ cert.deviceId P = roster.approvingDeviceId)
  certSignatures : ∀ cert ∈ roster.devices,
    P.verifyRaw cert.signerSignPk (deviceCertSignedBytes cert) cert.signature = .ok ()
  chain : ∀ cert ∈ roster.devices, Vouched P root roster.devices cert
  signer : roster.signerSignPk = root ∨ ∃ cert ∈ roster.devices,
    cert.deviceId P = roster.approvingDeviceId ∧ cert.deviceSignPk = roster.signerSignPk
  genesis : roster.seq = 0 → roster.signerSignPk = root
  signature : P.verifyRaw roster.signerSignPk (rosterSignedBytes roster) roster.signature = .ok ()

section Validate
variable {P : Primitives} {roster : Roster} {root : Bytes} {index : Nat}

/-- Where ids do not repeat, "the certificate at the approving index" and "the
certificate with the approving id" are the same. -/
theorem index_eq_iff_deviceId_eq {j : Nat} {cert : DeviceCert} (hnd : (roster.deviceIds P).Nodup)
    (hindex : (roster.deviceIds P)[index]? = some roster.approvingDeviceId)
    (hcert : roster.devices[j]? = some cert) :
    j = index ↔ cert.deviceId P = roster.approvingDeviceId := by
  have hj : (roster.deviceIds P)[j]? = some (cert.deviceId P) := by
    simp [Roster.deviceIds, hcert]
  constructor
  · rintro rfl
    exact Option.some.inj (hj.symm.trans hindex)
  · intro hid
    obtain ⟨hjlt, hjget⟩ := List.getElem?_eq_some_iff.mp hj
    obtain ⟨hilt, higet⟩ := List.getElem?_eq_some_iff.mp hindex
    exact (getElem_inj hnd).mp (by rw [hjget, higet, hid])

theorem roles_iff (hnd : (roster.deviceIds P).Nodup)
    (hindex : (roster.deviceIds P)[index]? = some roster.approvingDeviceId) :
    (¬ ∃ entry ∈ roster.devices.zipIdx, entry.1.signsRosters ≠ (entry.2 == index)) ↔
      ∀ cert ∈ roster.devices,
        (cert.signsRosters = true ↔ cert.deviceId P = roster.approvingDeviceId) := by
  constructor
  · intro hall cert hmem
    obtain ⟨j, hj⟩ := mem_iff_getElem?.mp hmem
    have hrole : cert.signsRosters = (j == index) := by
      by_contra hne
      exact hall ⟨(cert, j), mem_zipIdx_iff_getElem?.mpr hj, hne⟩
    rw [hrole, beq_iff_eq, index_eq_iff_deviceId_eq hnd hindex hj]
  · rintro hall ⟨⟨cert, j⟩, hentry, hne⟩
    have hj := mem_zipIdx_iff_getElem?.mp hentry
    refine hne (Bool.eq_iff_iff.mpr ?_)
    rw [hall cert (mem_of_getElem? hj), beq_iff_eq, index_eq_iff_deviceId_eq hnd hindex hj]

theorem signedByApprover_iff (hnd : (roster.deviceIds P).Nodup)
    (hindex : (roster.deviceIds P)[index]? = some roster.approvingDeviceId) :
    roster.devices[index]?.map (·.deviceSignPk) = some roster.signerSignPk ↔
      ∃ cert ∈ roster.devices,
        cert.deviceId P = roster.approvingDeviceId ∧ cert.deviceSignPk = roster.signerSignPk := by
  rw [Option.map_eq_some_iff]
  constructor
  · rintro ⟨cert, hget, hpk⟩
    exact ⟨cert, mem_of_getElem? hget, (index_eq_iff_deviceId_eq hnd hindex hget).mp rfl, hpk⟩
  · rintro ⟨cert, hmem, hid, hpk⟩
    obtain ⟨j, hj⟩ := mem_iff_getElem?.mp hmem
    obtain rfl := (index_eq_iff_deviceId_eq hnd hindex hj).mpr hid
    exact ⟨cert, hj, hpk⟩

/-- **Validation accepts exactly the valid rosters.** -/
theorem validate_eq_ok_iff : validate P roster root = .ok () ↔ ValidRoster P roster root := by
  simp only [validate, bind_eq_ok, refuseWhen_eq_ok, mapError_eq_ok, forM_eq_ok, exists_const,
    vouchedMarks_all_iff, scanDevices_eq_ok_iff, scanTombstones_eq_ok_iff, not_and, not_not]
  constructor
  · rintro ⟨hwidths, hperson, hcap, ids, ⟨rfl, hcerts, hnd⟩, tids, ⟨rfl, htombs, htnd⟩, index,
      hindex, hroles, hsigs, hchain, hsigner, hgenesis, hsignature⟩
    have hindex' := (approvingPosition_eq_ok_iff hnd).mp hindex
    refine ⟨hwidths, hperson, hcap, hcerts, hnd, htombs, htnd, mem_of_getElem? hindex',
      (roles_iff hnd hindex').mp hroles, hsigs, hchain, ?_, hgenesis, hsignature⟩
    by_cases hroot : roster.signerSignPk = root
    · exact .inl hroot
    · exact .inr ((signedByApprover_iff hnd hindex').mp (hsigner hroot))
  · intro h
    obtain ⟨index, hindex⟩ := mem_iff_getElem?.mp h.approver
    refine ⟨h.widths, h.person, h.cap, _, ⟨rfl, h.certs, h.devices_nodup⟩, _,
      ⟨rfl, h.tombstones, h.tombstones_nodup⟩, index,
      (approvingPosition_eq_ok_iff h.devices_nodup).mpr hindex,
      (roles_iff h.devices_nodup hindex).mpr h.role, h.certSignatures, h.chain, ?_, h.genesis,
      h.signature⟩
    intro hroot
    exact (signedByApprover_iff h.devices_nodup hindex).mpr (h.signer.resolve_left hroot)

end Validate
end CruiseMesh
