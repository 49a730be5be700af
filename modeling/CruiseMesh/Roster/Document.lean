import CruiseMesh.Base

/-!
# The device roster document

One person, several devices (`device_roster.rs`). A `DeviceCert` binds a device's
keys to a person under the signature of an authorised key, a `DeviceTombstone`
buries a device id for good, and a `Roster` is the versioned, signed document that
lists both.

The byte layouts signatures and the head hash are computed over are here as the
source lays them out: every variable field behind its length, certificates included
whole, and a distinct domain string in front of each kind of pre-image.
-/

namespace CruiseMesh
open Wire

def deviceIdLen : Nat := 16

/-- The reserved all-zero stream id of rows that predate devices. -/
def legacyDeviceId : Bytes := List.replicate deviceIdLen 0

/-- The certificate flag of the one device that may sign rosters. -/
def deviceCertFlagRosterSigning : UInt32 := 1

/-- A person-authorised certificate binding one device to one person. -/
structure DeviceCert where
  personId : Bytes
  deviceSignPk : Bytes
  deviceAgreePk : Bytes
  addedEpoch : Nat
  flags : UInt32
  signerSignPk : Bytes
  signature : Bytes
deriving DecidableEq

/-- A revoked device, kept forever. -/
structure DeviceTombstone where
  deviceId : Bytes
  revokedAtSeq : Nat
deriving DecidableEq

/-- The person-signed, versioned device document. -/
structure Roster where
  personId : Bytes
  recoveryEpoch : Nat
  seq : Nat
  devices : List DeviceCert
  tombstones : List DeviceTombstone
  approvingDeviceId : Bytes
  inboxKeyGeneration : Nat
  signerSignPk : Bytes
  signature : Bytes
deriving DecidableEq

/-! ## Versions -/

/-- The ordering key of rosters, compared lexicographically. -/
@[ext] structure RosterVersion where
  recoveryEpoch : Nat
  seq : Nat
deriving DecidableEq

namespace RosterVersion

instance : LinearOrder RosterVersion :=
  LinearOrder.lift' (fun v => toLex (v.recoveryEpoch, v.seq)) fun a b h => by
    have hp := toLex.injective h
    exact RosterVersion.ext (congrArg Prod.fst hp) (congrArg Prod.snd hp)

theorem lt_iff {a b : RosterVersion} :
    a < b ↔ a.recoveryEpoch < b.recoveryEpoch ∨
      a.recoveryEpoch = b.recoveryEpoch ∧ a.seq < b.seq := by
  show toLex (a.recoveryEpoch, a.seq) < toLex (b.recoveryEpoch, b.seq) ↔ _
  rw [Prod.Lex.toLex_lt_toLex]

end RosterVersion

def Roster.version (roster : Roster) : RosterVersion := ⟨roster.recoveryEpoch, roster.seq⟩

/-! ## Ids -/

section Ids
variable (P : Primitives)

/-- The 16-byte id this certificate's device is addressed by. -/
def DeviceCert.deviceId (cert : DeviceCert) : Bytes := P.deriveUserId cert.deviceSignPk

/-- `core_roster_device_ids`: the active device ids, in document order. -/
def Roster.deviceIds (roster : Roster) : List Bytes := roster.devices.map (·.deviceId P)

/-- The buried device ids, in document order. -/
def Roster.tombstoneIds (roster : Roster) : List Bytes := roster.tombstones.map (·.deviceId)

/-- Whether the certificate carries the roster-signing role. -/
def DeviceCert.signsRosters (cert : DeviceCert) : Bool :=
  cert.flags &&& deviceCertFlagRosterSigning != 0

end Ids

/-! ## Signed bytes -/

def deviceCertSignDomain : Bytes := ascii "CruiseMesh device certificate v1\x00"
def rosterSignDomain : Bytes := ascii "CruiseMesh device roster v1\x00"
def rosterHeadHashDomain : Bytes := ascii "CruiseMesh device roster head v1\x00"
def rosterHeadHashLen : Nat := 32

/-- The certificate body, without the signature. -/
def deviceCertBody (cert : DeviceCert) : Bytes :=
  lenPrefixed cert.personId ++ lenPrefixed cert.deviceSignPk ++ lenPrefixed cert.deviceAgreePk ++
    beBytes 8 cert.addedEpoch ++ beBytes 4 cert.flags.toNat ++ lenPrefixed cert.signerSignPk

/-- The bytes a certificate's signature covers. -/
def deviceCertSignedBytes (cert : DeviceCert) : Bytes :=
  deviceCertSignDomain ++ deviceCertBody cert

/-- The bytes a roster's signature covers: every field except the signature, each
certificate whole. -/
def rosterSignedBytes (roster : Roster) : Bytes :=
  rosterSignDomain ++ lenPrefixed roster.personId ++ beBytes 8 roster.recoveryEpoch ++
    beBytes 8 roster.seq ++ beBytes 8 roster.devices.length ++
    (roster.devices.flatMap fun cert =>
      lenPrefixed (deviceCertBody cert ++ lenPrefixed cert.signature)) ++
    beBytes 8 roster.tombstones.length ++
    (roster.tombstones.flatMap fun tombstone =>
      lenPrefixed tombstone.deviceId ++ beBytes 8 tombstone.revokedAtSeq) ++
    lenPrefixed roster.approvingDeviceId ++ beBytes 8 roster.inboxKeyGeneration ++
    lenPrefixed roster.signerSignPk

section Signing
variable (P : Primitives)

/-- `roster_head_hash`: names which roster this is, whoever signed it. -/
def rosterHeadHash (roster : Roster) : Bytes :=
  P.blake2b rosterHeadHashLen (rosterHeadHashDomain ++ rosterSignedBytes roster)

/-- A head hash is never the empty string the quarantine-only row stores. -/
theorem rosterHeadHash_ne_nil (roster : Roster) : rosterHeadHash P roster ≠ [] := by
  intro h
  have hlen := P.blake2b_length rosterHeadHashLen (rosterHeadHashDomain ++ rosterSignedBytes roster)
  rw [show P.blake2b _ _ = [] from h] at hlen
  exact absurd hlen (by decide)

/-- `signing_key_from_bytes`: any 32 bytes are an Ed25519 secret. -/
def signingKeyFromBytes (bytes : Bytes) : Except CoreError Bytes := do
  refuseWhen (bytes.length ≠ keyLen) (.invalidKeyLength keyLen bytes.length)
  pure bytes

/-- The certificate as `signer` signs it. -/
def DeviceCert.signedBy (cert : DeviceCert) (signer : Bytes) : DeviceCert :=
  let cert := { cert with signerSignPk := P.verifyingKey signer }
  { cert with signature := P.sign signer (deviceCertSignedBytes cert) }

/-- `core_sign_device_cert`. -/
def coreSignDeviceCert (cert : DeviceCert) (signerSignSk : Bytes) :
    Except CoreError DeviceCert := do
  let signingKey ← signingKeyFromBytes signerSignSk
  pure (cert.signedBy P signingKey)

/-- The roster as `signer` signs it. -/
def Roster.signedBy (roster : Roster) (signer : Bytes) : Roster :=
  let roster := { roster with signerSignPk := P.verifyingKey signer }
  { roster with signature := P.sign signer (rosterSignedBytes roster) }

section SignedBy
variable (roster : Roster) (signer : Bytes)

@[simp] theorem signedBy_personId : (roster.signedBy P signer).personId = roster.personId := rfl
@[simp] theorem signedBy_recoveryEpoch :
    (roster.signedBy P signer).recoveryEpoch = roster.recoveryEpoch := rfl
@[simp] theorem signedBy_seq : (roster.signedBy P signer).seq = roster.seq := rfl
@[simp] theorem signedBy_devices : (roster.signedBy P signer).devices = roster.devices := rfl
@[simp] theorem signedBy_tombstones :
    (roster.signedBy P signer).tombstones = roster.tombstones := rfl
@[simp] theorem signedBy_approvingDeviceId :
    (roster.signedBy P signer).approvingDeviceId = roster.approvingDeviceId := rfl
@[simp] theorem signedBy_inboxKeyGeneration :
    (roster.signedBy P signer).inboxKeyGeneration = roster.inboxKeyGeneration := rfl
@[simp] theorem signedBy_signerSignPk :
    (roster.signedBy P signer).signerSignPk = P.verifyingKey signer := rfl

end SignedBy

/-- `core_sign_roster`. -/
def coreSignRoster (roster : Roster) (signerSignSk : Bytes) : Except CoreError Roster := do
  let signingKey ← signingKeyFromBytes signerSignSk
  pure (roster.signedBy P signingKey)

end Signing
end CruiseMesh
