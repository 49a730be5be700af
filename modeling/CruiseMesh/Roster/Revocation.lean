import CruiseMesh.Routing.Hints
import CruiseMesh.Sync.Seal
import CruiseMesh.Sync.Streams

/-!
# The revocation ceremony

`revocation.rs`: a revocation is begun, which writes it down in a journal of one row,
and then committed, which re-seals the retained backlog to the rotated inbox key, adopts
the new roster, authors the announcement and marks the journal row. The commit is a
chain of separate durable writes; nothing but the fleet projection is a transaction.
-/

namespace CruiseMesh
open Wire Durable Prog

/-- The announcement of a rotation, sealed to one sibling. -/
structure RevocationHandoff where
  deviceId : Bytes
  copy : SealedSyncRecord
deriving DecidableEq

structure RevocationCommit where
  roster : Roster
  rosterHead : Bytes
  inboxKeyGeneration : Nat
  revokedDeviceIds : List Bytes
  streamSeq : Nat
  handoffs : List RevocationHandoff
  contactUserIds : List Bytes
  rosterDocument : Bytes
  resealedRecords : Nat
  unresealableRecords : Nat
deriving DecidableEq

structure PendingRevocation where
  rosterHead : Bytes
  inboxKeyGeneration : Nat
  revokedDeviceIds : List Bytes

/-- What the generator gives while one commit runs. -/
structure CommitEntropy where
  backlog : Nat → SealEntropy
  announcement : SealEntropy
  handoff : Nat → SealEntropy

/-- `pack_device_ids`. -/
def packDeviceIds (ids : List Bytes) : Bytes :=
  (ids.filter fun id => id.length = deviceIdLen).flatten

/-- `unpack_device_ids`: whole ids only. -/
def unpackDeviceIds (bytes : Bytes) : List Bytes :=
  (List.range (bytes.length / deviceIdLen)).map fun i =>
    (bytes.drop (deviceIdLen * i)).take deviceIdLen

/-! ## The journal -/

section Ceremony
variable (P : Primitives)
  (update : RevocationUpdate) (personRootSignPk : Bytes) (ownDevice : DeviceKeypair)

/-- `check_revocation_update`. -/
def checkRevocationUpdate : Except CoreError Unit := do
  (validate P update.roster personRootSignPk).mapError fun rejection =>
    .malformed ("this revocation's roster is not acceptable: " ++ rejection.debug)
  refuseWhen (update.inboxKey.generation ≠ update.roster.inboxKeyGeneration)
    (.malformed "the rotated inbox key is not the generation this roster announces")
  refuseWhen (ownDevice.deviceId ∉ update.roster.deviceIds P)
    (.store "this revocation's roster does not list this device")

/-- The journal row of an update that has been begun. -/
def journalRow (nowMs : Int) : OwnRevocationRow where
  rosterHead := update.rosterHead
  inboxKeyGeneration := update.inboxKey.generation
  revokedDeviceIds := packDeviceIds update.revokedDeviceIds
  streamSeq := none
  startedAtMs := nowMs
  committedAtMs := none

/-- `begin_own_revocation`. -/
def beginOwnRevocation (nowMs : Int) : Prog Store CoreError InboxKey := do
  checkRevocationUpdate P update personRootSignPk ownDevice
  write fun s => { s with ownRevocation := some (journalRow update nowMs) }
  pure update.inboxKey

/-- `pending_own_revocation`. -/
def Store.pendingOwnRevocation (s : Store) : Option PendingRevocation := do
  let row ← s.ownRevocation
  if row.committedAtMs = none then
    some ⟨row.rosterHead, row.inboxKeyGeneration, unpackDeviceIds row.revokedDeviceIds⟩
  else none

/-- `abandon_own_revocation`. -/
def abandonOwnRevocation : Prog Store CoreError Bool := do
  let pending ← inspect fun s => s.pendingOwnRevocation.isSome
  if pending then do
    write fun s => { s with ownRevocation := none }
    pure true
  else pure false

/-! ## The backlog -/

/-- The record a row is re-sealed as: the new roster version and generation, and the same
everything else. -/
def SyncRecord.restamped (record : SyncRecord) (roster : Roster) (inboxKeyGeneration : Nat) :
    SyncRecord :=
  { record with
    rosterVersion := roster.version, inboxKeyGeneration := inboxKeyGeneration, signature := [] }

/-- The loop of `reseal_own_backlog`: a row that does not open, or does not decode, is
counted and left where it is. -/
def resealRows (ownDevice : DeviceKeypair) (superseded rotated : InboxKey) (roster : Roster)
    (entropy : Nat → SealEntropy) :
    List StoredSyncRecord → Nat → Nat → Nat → Prog Store CoreError (Nat × Nat)
  | [], _, resealed, unresealable => pure (resealed, unresealable)
  | stored :: rest, index, resealed, unresealable =>
    match openSyncRow P superseded.agreeSk stored.body with
    | .error _ =>
      resealRows ownDevice superseded rotated roster entropy rest (index + 1) resealed
        (unresealable + 1)
    | .ok record => do
      let record ← coreSignSyncRecord P (record.restamped roster rotated.generation)
        ownDevice.signSk
      let copy ← coreSealSyncRecord P record (coreDeviceSyncIdentity ownDevice) rotated
        (entropy index)
      let changed ← reseal record copy
      resealRows ownDevice superseded rotated roster entropy rest (index + 1)
        (if changed then resealed + 1 else resealed) unresealable

variable (supersededInboxKey : Option InboxKey)

/-- `reseal_own_backlog`. -/
def resealOwnBacklog (roster : Roster) (rotated : InboxKey) (entropy : Nat → SealEntropy) :
    Prog Store CoreError (Nat × Nat) :=
  match supersededInboxKey with
  | none => pure (0, 0)
  | some superseded => do
    refuseWhen (rotated.generation ≤ superseded.generation)
      (CoreError.malformed "the superseded inbox key is not older than the rotated one")
    let stale ← inspect fun s =>
      s.sealedRecordsAtGeneration ownDevice.deviceId superseded.generation
    resealRows P ownDevice superseded rotated roster entropy stale 0 0 0

/-! ## The commit -/

/-- `core_encode_sync_own_roster`. -/
def coreEncodeSyncOwnRoster (roster : Roster) (inboxKeys : List InboxKey) :
    Except CoreError Bytes := do
  refuseWhen (syncRecordMaxEntries < inboxKeys.length) (.malformed (
    "sync payload has " ++ toString inboxKeys.length ++ " entries, over the " ++
    toString syncRecordMaxEntries ++ " limit"))
  let encoded ← coreEncodeRoster roster
  let document ← pushBytes32 encoded "own roster"
  let keys ← inboxKeys.mapM fun key => do
    let agreePk ← pushFixed key.agreePk keyLen "inbox key public half"
    let agreeSk ← pushFixed key.agreeSk keyLen "inbox key secret half"
    pure (beBytes 8 key.generation ++ agreePk ++ agreeSk)
  pure ([syncRecordVersion] ++ beBytes 2 inboxKeys.length ++ document ++ keys.flatten)

/-- The copies for the siblings the roster lists. -/
def sealHandoffs (record : SyncRecord) (ownDevice : DeviceKeypair) (roster : Roster)
    (entropy : Nat → SealEntropy) : List Bytes → Nat → Except CoreError (List RevocationHandoff)
  | [], _ => .ok []
  | deviceId :: rest, index =>
    if deviceId = ownDevice.deviceId then
      sealHandoffs record ownDevice roster entropy rest (index + 1)
    else do
      let copy ← coreSealSyncHandoff P record (coreDeviceSyncIdentity ownDevice) roster deviceId
        (entropy index)
      let others ← sealHandoffs record ownDevice roster entropy rest (index + 1)
      pure (⟨deviceId, copy⟩ :: others)

/-- The announcement of an update, at a position of this device's own-roster stream. -/
def announcement (ownDeviceId : Bytes) (streamSeq : Nat) (nowMs : Int)
    (payload : Bytes) : SyncRecord where
  kind := .ownRoster
  personId := update.roster.personId
  authorDeviceId := ownDeviceId
  rosterVersion := update.roster.version
  inboxKeyGeneration := update.inboxKey.generation
  streamSeq := streamSeq
  timestampMs := nowMs
  payload := payload
  signature := []

/-- The journal must hold exactly this update, begun and not committed. -/
def requirePending (pending : Option PendingRevocation) : Except CoreError Unit :=
  match pending with
  | none => .error (.store (
      "no revocation is pending: begin_own_revocation must write the rotation down " ++
      "and its key must reach platform storage before the backlog is re-sealed to it"))
  | some pending =>
    refuseWhen (pending.rosterHead ≠ update.rosterHead ∨
        pending.inboxKeyGeneration ≠ update.inboxKey.generation) (.store (
      "the pending revocation is a different one than this update; the key that was " ++
      "stored is not the key this would re-seal to"))

/-- The last write of the commit: the journal row learns where the announcement is. -/
def Store.journalCommitted (s : Store) (rosterHead : Bytes) (streamSeq : Nat) (nowMs : Int) :
    Store :=
  { s with
    ownRevocation := s.ownRevocation.map fun row =>
      if row.rosterHead = rosterHead then
        { row with streamSeq := some streamSeq, committedAtMs := some nowMs }
      else row }

variable (nowMs : Int) (entropy : CommitEntropy)

/-- The announcement, authored, signed and sealed: the retained copy to the rotated inbox
key, and one copy to each sibling. -/
def announce : Prog Store CoreError (Nat × List RevocationHandoff) := do
  let streamSeq ← inspect fun s => s.nextStreamSeq ownDevice.deviceId .ownRoster
  let payload ← coreEncodeSyncOwnRoster update.roster [update.inboxKey]
  let record ← coreSignSyncRecord P (announcement update ownDevice.deviceId streamSeq nowMs payload)
    ownDevice.signSk
  let retained ← coreSealSyncRecord P record (coreDeviceSyncIdentity ownDevice) update.inboxKey
    entropy.announcement
  let _ ← coreSyncRetainRecord record retained nowMs
  let handoffs ← sealHandoffs P record ownDevice update.roster entropy.handoff
    (update.roster.deviceIds P) 0
  pure (streamSeq, handoffs)

/-- The commit up to its last write: the backlog, the adoption and the announcement. -/
def commitBody : Prog Store CoreError ((Nat × Nat) × Nat × List RevocationHandoff) := do
  checkRevocationUpdate P update personRootSignPk ownDevice
  let pending ← inspect (·.pendingOwnRevocation)
  requirePending update pending
  -- the backlog is re-addressed before the roster moves
  let counts ← resealOwnBacklog P ownDevice supersededInboxKey update.roster update.inboxKey
    entropy.backlog
  adoptOwnRoster P update.roster personRootSignPk ownDevice.deviceId
  let _ ← coreSetOwnSyncContext update.roster update.inboxKey.generation
  let announced ← announce P update ownDevice nowMs entropy
  pure (counts, announced)

/-- `commit_own_revocation`. -/
def commitOwnRevocation : Prog Store CoreError RevocationCommit := do
  let (counts, streamSeq, handoffs) ←
    commitBody P update personRootSignPk ownDevice supersededInboxKey nowMs entropy
  write fun s => s.journalCommitted update.rosterHead streamSeq nowMs
  let contactUserIds ← inspect (·.contactUserIds)
  let rosterDocument ← coreEncodeRoster update.roster
  pure
    { roster := update.roster, rosterHead := update.rosterHead
      inboxKeyGeneration := update.inboxKey.generation
      revokedDeviceIds := update.revokedDeviceIds, streamSeq, handoffs, contactUserIds,
      rosterDocument, resealedRecords := counts.1, unresealableRecords := counts.2 }

end Ceremony

theorem checkRevocationUpdate_eq_ok {P : Primitives} {update : RevocationUpdate} {root : Bytes}
    {device : DeviceKeypair} {u : Unit} : checkRevocationUpdate P update root device = .ok u ↔
      ValidRoster P update.roster root ∧
        update.inboxKey.generation = update.roster.inboxKeyGeneration ∧
          device.deviceId ∈ update.roster.deviceIds P := by
  unfold checkRevocationUpdate
  rw [← validate_eq_ok_iff]
  simp only [bind_eq_ok, mapError_eq_ok, refuseWhen_eq_ok, not_not, exists_const, ne_eq]
  exact ⟨fun ⟨_, h⟩ => h, fun h => ⟨(), h⟩⟩

/-! ## The backlog -/

section Backlog
variable {P : Primitives} {device : DeviceKeypair} {superseded rotated : InboxKey}
  {roster : Roster} {entropy : Nat → SealEntropy} {I : Store → Prop} {key : Option InboxKey}

/-- What the loop writes back for a record it could open. -/
def SyncRecord.rotatedCopy (P : Primitives) (record : SyncRecord) (device : DeviceKeypair)
    (roster : Roster) (key : InboxKey) (entropy : SealEntropy) : SealedSyncRecord :=
  (record.restamped roster key.generation).sealedTo P device key.agreePk entropy

/-- The slot it writes it to. -/
def SyncRecord.ownSlot (P : Primitives) (record : SyncRecord) (device : DeviceKeypair) :
    Bytes × UInt8 × Nat :=
  (P.deriveUserId (P.verifyingKey device.signSk), coreSyncRecordKindWire record.kind,
    record.streamSeq)

/-- What re-sealing one record keeps, the loop keeps. -/
theorem throughout_resealRows : ∀ (rows : List StoredSyncRecord),
    (∀ s, I s → ∀ stored ∈ rows, ∀ record,
      openSyncRow P superseded.agreeSk stored.body = .ok record → rotated.Consistent P → ∀ e,
        I (s.resealed (record.ownSlot P device) (record.rotatedCopy P device roster rotated e))) →
    ∀ (index resealed unresealable : Nat) (s : Store), I s →
      (resealRows P device superseded rotated roster entropy rows index resealed
        unresealable).Throughout s I := by
  intro rows
  induction rows with
  | nil =>
    intro _ index resealed unresealable s hs
    exact throughout_pure.mpr hs
  | cons stored rest ih =>
    intro hstep index resealed unresealable s hs
    have hrest : ∀ (resealed unresealable : Nat) (s : Store), I s →
        (resealRows P device superseded rotated roster entropy rest (index + 1) resealed
          unresealable).Throughout s I := fun resealed unresealable s =>
      ih (fun s hs stored hmem => hstep s hs stored (List.mem_cons_of_mem _ hmem)) (index + 1)
        resealed unresealable s
    unfold resealRows
    cases hopen : openSyncRow P superseded.agreeSk stored.body with
    | error e => exact hrest _ _ s hs
    | ok record =>
      refine throughout_lift_bind hs fun signed hsigned => ?_
      obtain ⟨_, _, _, _, rfl⟩ := coreSignSyncRecord_eq_ok.mp hsigned
      refine throughout_lift_bind hs fun copy hsealed => ?_
      obtain rfl := eq_sealedTo_of_seal hsealed
      obtain ⟨_, _, _, hkey, _⟩ := coreSealSyncRecord_eq_ok.mp hsealed
      have hnext := hstep s hs stored List.mem_cons_self record hopen hkey (entropy index)
      refine throughout_bind (throughout_reseal hs hnext) fun changed s₃ _ hs₃ => ?_
      exact hrest _ _ s₃ hs₃

theorem throughout_resealOwnBacklog {s : Store} (hs : I s)
    (hreseal : ∀ k ∈ key, ∀ stored ∈ s.sealedRecordsAtGeneration device.deviceId k.generation,
      ∀ record, openSyncRow P k.agreeSk stored.body = .ok record → rotated.Consistent P →
        ∀ e x, I x → I (x.resealed (record.ownSlot P device)
          (record.rotatedCopy P device roster rotated e))) :
    (resealOwnBacklog P device key roster rotated entropy).Throughout s I := by
  cases key with
  | none => exact throughout_pure.mpr hs
  | some k =>
    refine throughout_lift_bind hs fun _ _ => throughout_inspect_bind.mpr ?_
    exact throughout_resealRows _ (fun x hx stored hmem record hopen hkey e =>
      hreseal k rfl stored hmem record hopen hkey e x hx) 0 0 0 s hs

end Backlog
end CruiseMesh
