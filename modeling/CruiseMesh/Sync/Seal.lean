import CruiseMesh.Sync.Record

/-!
# Signing and sealing sync records

A sync record is sealed to one of two addresses and to no other: the person's inbox
key, for every stream record, or one sibling device's key, for the announcement of a
rotated inbox key, which neither generation of that key can carry.
-/

namespace CruiseMesh
open Wire List

section Sealing
variable (P : Primitives)

def syncRecordSignDomain : Bytes := ascii "CruiseMesh device sync record v1\x00"

variable (record : SyncRecord)

/-- The record signed by the device key `signSk`, under its own id. -/
def SyncRecord.signedBy (signSk : Bytes) : SyncRecord :=
  let authored := { record with authorDeviceId := P.deriveUserId (P.verifyingKey signSk) }
  { authored with signature := P.sign signSk (syncRecordSignDomain ++ lenPrefixed authored.body) }

/-- `core_sign_sync_record`. The author is derived from the signing secret. -/
def coreSignSyncRecord (authorDeviceSignSk : Bytes) : Except CoreError SyncRecord := do
  let signingKey ← keyFromBytes authorDeviceSignSk
  let deviceId := P.deriveUserId (P.verifyingKey signingKey)
  refuseWhen (deviceId = legacyDeviceId)
    (.malformed "a sync record cannot be authored on the legacy device stream")
  let record := { record with authorDeviceId := deviceId }
  let signed ← syncRecordSignedBytes record
  pure { record with signature := P.sign signingKey (syncRecordSignDomain ++ lenPrefixed signed) }

variable (author : Identity)

/-- Neither the person the record names nor the device that authored it seals it. -/
def SyncRecord.foreignTo : Prop :=
  record.personId ≠ author.userId ∧ record.authorDeviceId ≠ author.userId

instance (record : SyncRecord) (author : Identity) : Decidable (record.foreignTo author) :=
  inferInstanceAs (Decidable (_ ∧ _))

/-- `core_seal_sync_record`. -/
def coreSealSyncRecord (inboxKey : InboxKey)
    (entropy : SealEntropy) : Except CoreError SealedSyncRecord := do
  refuseWhen (record.foreignTo author) (.crypto (
    "a sync record is sealed either by the person it names or by the device that authored " ++
    "it, and this key is neither"))
  refuseWhen (record.inboxKeyGeneration ≠ inboxKey.generation) (.crypto (
    "sync record is for inbox key generation " ++ toString record.inboxKeyGeneration ++
    " but this key is generation " ++ toString inboxKey.generation))
  refuseWhen (record.signature.length ≠ signatureLen) .signatureInvalid
  refuseWhen (¬ inboxKey.Consistent P) (.crypto (
    "inbox key secret does not match its public half; a sync record is sealed only to a " ++
    "key this device holds"))
  let encoded ← coreEncodeSyncRecord record
  let body ← sealMessage P author inboxKey.agreePk encoded entropy
  pure { body, sealedFor := record.rosterVersion, inboxKeyGeneration := record.inboxKeyGeneration }

/-- `core_seal_sync_handoff`: the address is looked up in the roster. -/
def coreSealSyncHandoff (ownRoster : Roster)
    (recipientDeviceId : Bytes) (entropy : SealEntropy) : Except CoreError SealedSyncRecord := do
  refuseWhen (record.kind ≠ .ownRoster) (.crypto
    "only an own-roster record may ride the rotation handoff channel")
  refuseWhen (record.foreignTo author) (.crypto (
    "a rotation handoff is sealed either by the person it names or by the device that " ++
    "authored it, and this key is neither"))
  refuseWhen (record.signature.length ≠ signatureLen) .signatureInvalid
  refuseWhen (record.personId ≠ ownRoster.personId) (.crypto (
    "a rotation handoff is addressed inside one person's device set, and this roster is " ++
    "somebody else's"))
  refuseWhen (recipientDeviceId ∈ ownRoster.tombstoneIds) (.crypto
    "a rotation handoff is never addressed to a device this roster has revoked")
  match ownRoster.devices.find? fun cert => cert.deviceId P = recipientDeviceId with
  | none => .error (.crypto (
      "a rotation handoff is addressed to a device this roster lists, and it lists no " ++
      "such device"))
  | some recipient => do
    let encoded ← coreEncodeSyncRecord record
    let body ← sealMessage P author recipient.deviceAgreePk encoded entropy
    pure { body, sealedFor := record.rosterVersion,
           inboxKeyGeneration := record.inboxKeyGeneration }

/-- What re-sealing reads out of a sealed row: open it and decode what is inside. -/
def openSyncRow (agreeSk body : Bytes) : Except CoreError SyncRecord := do
  let opened ← openSealedWithAgreeSk P agreeSk body
  coreDecodeSyncRecord opened.payload

end Sealing

/-! ## When they succeed -/

section Specs
variable {P : Primitives} {record : SyncRecord}
  {sk : Bytes} {key : InboxKey} {out : SealedSyncRecord}

theorem coreSignSyncRecord_eq_ok {out : SyncRecord} :
    coreSignSyncRecord P record sk = .ok out ↔
      sk.length = keyLen ∧ P.deriveUserId (P.verifyingKey sk) ≠ legacyDeviceId ∧
        record.payload.length ≤ syncRecordMaxPayloadBytes ∧ record.personId.length ≤ u16Max ∧
          record.signedBy P sk = out := by
  have hid : (P.deriveUserId (P.verifyingKey sk)).length ≤ u16Max := by
    rw [P.deriveUserId_length]
    decide
  simp only [coreSignSyncRecord, bind_eq_ok, keyFromBytes_eq_ok, refuseWhen_eq_ok,
    syncRecordSignedBytes_eq_ok, pure, Except.pure, Except.ok.injEq]
  constructor
  · intro ⟨_, ⟨hlen, hkey⟩, _, hlegacy, _, ⟨henc, hbody⟩, hout⟩
    subst hkey hbody
    exact ⟨hlen, hlegacy, henc.payload, henc.personId, hout⟩
  · intro ⟨hlen, hlegacy, hpayload, hperson, hout⟩
    exact ⟨sk, ⟨hlen, rfl⟩, (), hlegacy, _, ⟨⟨hpayload, hperson, hid⟩, rfl⟩, hout⟩

/-- The encoding of a signed record. -/
def SyncRecord.encoded (record : SyncRecord) : Bytes :=
  record.body ++ (beBytes 2 record.signature.length ++ record.signature)

theorem encoded_length (record : SyncRecord) : record.encoded.length =
    record.personId.length + record.authorDeviceId.length + record.payload.length +
      record.signature.length + 52 := by
  simp only [SyncRecord.encoded, SyncRecord.body, length_append, length_cons,
    length_nil, beBytes_length, intBytes_length]
  omega

/-- A record signed by a device and sealed by it to a public key. -/
def SyncRecord.sealedTo (P : Primitives) (record : SyncRecord) (device : DeviceKeypair)
    (agreePk : Bytes) (entropy : SealEntropy) : SealedSyncRecord where
  body := legacyEnvelope P (coreDeviceSyncIdentity device) agreePk
    (record.signedBy P device.signSk).encoded entropy
  sealedFor := record.rosterVersion
  inboxKeyGeneration := record.inboxKeyGeneration

variable {device : DeviceKeypair} {entropy : SealEntropy}

theorem not_foreignTo_self (hdevice : device.WellFormed P) :
    ¬ (record.signedBy P device.signSk).foreignTo (coreDeviceSyncIdentity device) := by
  intro h
  refine h.2 ?_
  show P.deriveUserId (P.verifyingKey device.signSk) = device.deviceId
  rw [hdevice.deviceId_eq, hdevice.signPk_eq]

theorem coreSealSyncRecord_eq_ok {author : Identity} :
    coreSealSyncRecord P record author key entropy = .ok out ↔
      ¬ record.foreignTo author ∧ record.inboxKeyGeneration = key.generation ∧
        record.signature.length = signatureLen ∧ key.Consistent P ∧
          ∃ encoded, coreEncodeSyncRecord record = .ok encoded ∧
            ∃ body, sealMessage P author key.agreePk encoded entropy = .ok body ∧
              (⟨body, record.rosterVersion, record.inboxKeyGeneration⟩ : SealedSyncRecord) = out := by
  simp only [coreSealSyncRecord, bind_eq_ok, refuseWhen_eq_ok, not_not, exists_const, pure,
    Except.pure, Except.ok.injEq, ne_eq]

/-- Whatever a device seals of what it signed is that sealed record. -/
theorem eq_sealedTo_of_seal
    (h : coreSealSyncRecord P (record.signedBy P device.signSk) (coreDeviceSyncIdentity device) key
      entropy = .ok out) : out = record.sealedTo P device key.agreePk entropy := by
  obtain ⟨_, _, _, _, encoded, hencoded, body, hbody, hout⟩ := coreSealSyncRecord_eq_ok.mp h
  obtain ⟨_, rfl⟩ := coreEncodeSyncRecord_eq_ok.mp hencoded
  obtain ⟨_, _, rfl⟩ := sealMessage_eq_ok.mp hbody
  exact hout.symm

section Fits
variable (hpayload : record.payload.length ≤ syncRecordMaxPayloadBytes)
  (hperson : record.personId.length ≤ u16Max)
include hpayload hperson

theorem signedBy_encodable : (record.signedBy P sk).Encodable where
  payload := hpayload
  personId := hperson
  authorDeviceId := by
    show (P.deriveUserId _).length ≤ _
    rw [P.deriveUserId_length]
    decide

theorem coreEncodeSyncRecord_signedBy :
    coreEncodeSyncRecord (record.signedBy P sk) = .ok (record.signedBy P sk).encoded := by
  refine coreEncodeSyncRecord_eq_ok.mpr ⟨⟨signedBy_encodable hpayload hperson, ?_⟩, rfl⟩
  show (P.sign _ _).length ≤ _
  rw [P.sign_length]
  decide

/-- A device seals what it signed to any consistent key of the record's generation. -/
theorem coreSealSyncRecord_signedBy (hdevice : device.WellFormed P) (hkey : key.Consistent P)
    (hgen : record.inboxKeyGeneration = key.generation) :
    coreSealSyncRecord P (record.signedBy P device.signSk) (coreDeviceSyncIdentity device) key
      entropy = .ok (record.sealedTo P device key.agreePk entropy) := by
  have hpk : key.agreePk.length = keyLen := hkey.2 ▸ P.agreePublicKey_length _
  refine coreSealSyncRecord_eq_ok.mpr ⟨not_foreignTo_self hdevice, hgen, P.sign_length _ _, hkey,
    _, coreEncodeSyncRecord_signedBy hpayload hperson, _, ?_, rfl⟩
  exact sealMessage_eq_ok.mpr ⟨hpk, hdevice.signSk_length, rfl⟩

theorem encoded_signedBy_length_lt (sk : Bytes) :
    (record.signedBy P sk).encoded.length + (signPkLen + signatureLen) < 2 ^ 32 := by
  have hauthor : (record.signedBy P sk).authorDeviceId.length = 16 := P.deriveUserId_length _
  have hsig : (record.signedBy P sk).signature.length = 64 := P.sign_length _ _
  have hlen := encoded_length (record.signedBy P sk)
  rw [hauthor, hsig] at hlen
  have hfields : (record.signedBy P sk).encoded.length =
      record.personId.length + 16 + record.payload.length + 64 + 52 := hlen
  rw [hfields]
  have hmax : syncRecordMaxPayloadBytes = 523264 := rfl
  have hu16 : u16Max = 65535 := rfl
  have hbody : signPkLen + signatureLen = 96 := rfl
  omega

/-- What a device sealed to a public key opens with the secret, to the record it signed. -/
theorem openSyncRow_sealedTo (hdevice : device.WellFormed P) (hsk : sk.length = keyLen) :
    openSyncRow P sk (record.sealedTo P device (P.agreePublicKey sk) entropy).body =
      .ok (record.signedBy P device.signSk).narrowed := by
  have hshort := encoded_signedBy_length_lt (P := P) hpayload hperson device.signSk
  unfold openSyncRow SyncRecord.sealedTo
  rw [openSealedWithAgreeSk_legacyEnvelope hsk hdevice.signPk_eq hshort
    (looksLikeBoundTranscript_of_ne_zero (by decide))]
  exact coreDecodeSyncRecord_encode (coreEncodeSyncRecord_signedBy hpayload hperson)

/-- A device hands its announcement to any device its roster lists. -/
theorem coreSealSyncHandoff_signedBy {roster : Roster} {recipientId : Bytes}
    (hdevice : device.WellFormed P) (hkind : record.kind = .ownRoster)
    (hown : record.personId = roster.personId) (hlisted : recipientId ∈ roster.deviceIds P)
    (hburied : recipientId ∉ roster.tombstoneIds)
    (hwidths : ∀ cert ∈ roster.devices, cert.deviceAgreePk.length = keyLen) :
    ∃ out, coreSealSyncHandoff P (record.signedBy P device.signSk) (coreDeviceSyncIdentity device)
      roster recipientId entropy = .ok out := by
  obtain ⟨listed, hmem, hid⟩ := mem_map.mp hlisted
  -- the lookup finds the first certificate of that id
  cases hfind : roster.devices.find? fun cert => cert.deviceId P = recipientId with
  | none =>
    have hnone := find?_eq_none.mp hfind listed hmem
    exact absurd (decide_eq_true hid) hnone
  | some cert =>
    have hcert := hwidths cert (mem_of_find?_eq_some hfind)
    have hseal : sealMessage P (coreDeviceSyncIdentity device) cert.deviceAgreePk
        (record.signedBy P device.signSk).encoded entropy =
          .ok (record.sealedTo P device cert.deviceAgreePk entropy).body :=
      sealMessage_eq_ok.mpr ⟨hcert, hdevice.signSk_length, rfl⟩
    refine ⟨record.sealedTo P device cert.deviceAgreePk entropy, ?_⟩
    simp only [coreSealSyncHandoff, bind_eq_ok, refuseWhen_eq_ok, hfind, not_not, exists_const,
      pure, Except.pure, Except.ok.injEq, ne_eq]
    exact ⟨hkind, not_foreignTo_self hdevice, P.sign_length _ _, hown, hburied, _,
      coreEncodeSyncRecord_signedBy hpayload hperson, _, hseal, rfl⟩

end Fits
end Specs
end CruiseMesh
