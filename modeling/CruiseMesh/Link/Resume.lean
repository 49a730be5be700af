import CruiseMesh.Roster.OwnState
import CruiseMesh.Roster.RevocationResume

/-!
# Resuming a completed link and a rotation's hand-off

`complete_link_activation` and `adopt_revocation_handoff` are chains of separately durable
writes. The completion projects the fleet and then moves the stage; the hand-off reads the
quarantine, re-seals the backlog, stores the document, projects the fleet and moves the sync
context. The process may die between any two of them, and the call is made again.

What the two calls are for is the device's `Standing`. `ceremonies_resume` says that the second
call finishes the first one when nothing of the standing had been written yet, and only then. A
hand-off is also judged by the quarantine, which a damaged document loses while it is dropped.
After the fleet has been projected the completion is refused its own projection; after the
document has been stored the hand-off finds the document it brings already held, and answers
that there is nothing to adopt.
-/

namespace CruiseMesh
open Durable Prog List

/-- What a device's place in its fleet consists of. -/
structure Standing where
  stage : CoreLinkActivationStage
  roster : Option Roster
  fleetVersion : Option RosterVersion
  fleet : List OwnFleetRow
  context : Option OwnSyncContextRow

def Store.standing (s : Store) : Standing :=
  ⟨s.activation.stage, s.ownRoster, s.ownFleetVersion, s.ownFleet, s.ownSyncContext⟩

/-! ## The completion -/

section Completion
variable {P : Primitives} {acked : Bytes} {nowMs : Int} {s s' x : Store}

/-- The bootstrap is imported and its roster is the acknowledged one. -/
structure Acknowledged (P : Primitives) (acked : Bytes) (s : Store) (roster : Roster)
    (ownDeviceId : Bytes) : Prop where
  stage : s.activation.stage = .awaitingRosterAck
  expected : s.activation.expectedRosterHead = some acked
  device : s.activation.ownDeviceId = some ownDeviceId
  held : s.ownRoster = some roster
  head : rosterHeadHash P roster = acked

variable {ownDeviceId : Bytes} {a : CoreLinkActivation} {roster : Roster}

/-- The store once the fleet has been projected. -/
def Store.projected (P : Primitives) (s : Store) (roster : Roster) (ownDeviceId : Bytes) : Store :=
  s.withFleet { ownDeviceId := some ownDeviceId, deviceIds := roster.deviceIds P,
                projectedFrom := roster.version }

end Completion

/-! ## Reading the quarantine twice -/

section Quarantine
variable {P : Primitives} {person : Bytes} {s s' x : Store}

end Quarantine

/-! ## Re-sealing what is left -/

section Backlog
variable {P : Primitives} {device : DeviceKeypair} {superseded rotated : InboxKey}
  {roster : Roster} {entropy : Nat → SealEntropy} {s s' x : Store} {copy : SealedSyncRecord}

theorem resealable_of_returns : ∀ {rows : List StoredSyncRecord} {index resealed unresealable : Nat}
    {counts : Nat × Nat} {s : Store},
    (resealRows P device superseded rotated roster entropy rows index resealed
      unresealable).Returns s counts s' →
    ∀ stored ∈ rows, Resealable P device superseded rotated roster stored
  | [], _, _, _, _, _, _, stored, hmem => absurd hmem not_mem_nil
  | first :: rest, index, resealed, unresealable, counts, s, h, stored, hmem => by
    unfold resealRows at h
    cases hopen : openSyncRow P superseded.agreeSk first.body with
    | error e =>
      rw [hopen] at h
      rcases mem_cons.mp hmem with rfl | hrest
      · intro record hrecord
        cases hopen ▸ hrecord
      · exact resealable_of_returns h stored hrest
    | ok record =>
      rw [hopen] at h
      simp only [returns_bind, returns_lift] at h
      obtain ⟨signed, _, ⟨hsigned, rfl⟩, copy, _, ⟨hsealed, rfl⟩, _, _, _, h⟩ := h
      rcases mem_cons.mp hmem with rfl | hrest
      · intro record' hrecord
        cases hopen.symm.trans hrecord
        refine ⟨signed, hsigned, fun e' => ?_⟩
        obtain ⟨hown, hgen, hsig, hkey, encoded, hencoded, body, hbody, _⟩ :=
          coreSealSyncRecord_eq_ok.mp hsealed
        obtain ⟨hpk, hsk, _⟩ := sealMessage_eq_ok.mp hbody
        exact ⟨_, coreSealSyncRecord_eq_ok.mpr ⟨hown, hgen, hsig, hkey, encoded, hencoded, _,
          sealMessage_eq_ok.mpr ⟨hpk, hsk, rfl⟩, rfl⟩⟩
      · exact resealable_of_returns h stored hrest

end Backlog

/-! ## The hand-off -/

section Handoff
variable {P : Primitives} {body root : Bytes} {device : DeviceKeypair}
  {superseded : Option InboxKey} {nowMs : Int} {entropy : Nat → SealEntropy}
  {held : Roster} {payload : SyncOwnRosterPayload} {quarantined : Bool}
  {adoption : RevocationAdoption} {s s' mid x : Store}

/-- The sealed bytes say which roster is announced, whatever roster is held. -/
theorem coreOpenSyncHandoff_opens {agreeSk : Bytes} {record : SyncRecord}
    (h : coreOpenSyncHandoff P body agreeSk held root = .ok record) :
    ∃ opened, openSealedWithAgreeSk P agreeSk body = .ok opened ∧
      coreDecodeSyncRecord opened.payload = .ok record := by
  obtain ⟨opened, hopened, h⟩ := bind_eq_ok.mp h
  obtain ⟨decoded, hdecoded, h⟩ := bind_eq_ok.mp h
  suffices hsame : decoded = record from ⟨opened, hopened, hsame ▸ hdecoded⟩
  split at h
  · exact Except.ok.inj h
  · split at h
    · cases h
    · simp only [bind_eq_ok] at h
      obtain ⟨_, _, _, _, h⟩ := h
      split at h
      · exact Except.ok.inj h
      · cases h

theorem HandoffOffers.unique {held' : Roster} {payload' : SyncOwnRosterPayload}
    (h : HandoffOffers P body root device held payload)
    (h' : HandoffOffers P body root device held' payload') : payload = payload' := by
  obtain ⟨record, hopen, hpayload⟩ := h
  obtain ⟨record', hopen', hpayload'⟩ := h'
  obtain ⟨opened, hopened, hrecord⟩ := coreOpenSyncHandoff_opens hopen
  obtain ⟨opened', hopened', hrecord'⟩ := coreOpenSyncHandoff_opens hopen'
  cases hopened.symm.trans hopened'
  cases hrecord.symm.trans hrecord'
  exact Except.ok.inj (hpayload.symm.trans hpayload')

/-- The four steps of an adoption that ran to its end. -/
structure AdoptionRun (P : Primitives) (payload : SyncOwnRosterPayload) (root : Bytes)
    (device : DeviceKeypair) (superseded : Option InboxKey) (entropy : Nat → SealEntropy)
    (start : Store) (key : InboxKey) (resealed adopted finish : Store) : Prop where
  found : payload.inboxKeys.find? (fun key => key.generation = payload.roster.inboxKeyGeneration) =
    some key
  backlog : ∃ counts, (resealOwnBacklog P device superseded payload.roster key entropy).Returns
    start counts resealed
  adopt : (adoptOwnRoster P payload.roster root device.deviceId).Returns resealed () adopted
  context : ∃ moved, (coreSetOwnSyncContext payload.roster key.generation).Returns adopted moved
    finish

variable {reason : RosterUpdateReason} {key : InboxKey} {resealed adopted : Store}
  {ownDeviceId : Bytes} {u : Unit} {generation : Nat} {moved : Bool} {incoming : Roster}

variable {roster : Roster}

theorem checks_of_adoptOwnRoster (h : (adoptOwnRoster P roster root ownDeviceId).Returns s u s') :
    ValidRoster P roster root ∧ ownDeviceId ∈ roster.deviceIds P := by
  unfold adoptOwnRoster at h
  simp only [returns_bind, returns_lift, mapError_eq_ok, refuseWhen_eq_ok, not_not] at h
  obtain ⟨_, _, ⟨hvalid, rfl⟩, _, _, ⟨hlisted, rfl⟩, _⟩ := h
  exact ⟨validate_eq_ok_iff.mp hvalid, hlisted⟩

/-- What a run leaves, from where it started. -/
theorem AdoptionRun.standing
    (h : AdoptionRun P payload root device superseded entropy mid key resealed adopted s') :
    resealed.standing = mid.standing ∧
      adopted = resealed.adopted P payload.roster device.deviceId := by
  obtain ⟨counts, hbacklog⟩ := h.backlog
  obtain ⟨hvalid, hlisted⟩ := checks_of_adoptOwnRoster h.adopt
  refine ⟨(keeps_resealOwnBacklog fun _ _ => rfl).returns hbacklog, ?_⟩
  exact ((returns_adoptOwnRoster hvalid hlisted).mp h.adopt).2.symm

theorem standing_adopted (h : x.standing = s.standing) :
    (x.adopted P roster ownDeviceId).standing = (s.adopted P roster ownDeviceId).standing :=
  congrArg (fun standing : Standing => { standing with
    roster := some roster, fleetVersion := some roster.version
    fleet := OwnDeviceFleet.rows ⟨some ownDeviceId, roster.deviceIds P, roster.version⟩ }) h

/-- The sync context moves alike from stores of the same standing. -/
theorem coreSetOwnSyncContext_again
    (h : (coreSetOwnSyncContext roster generation).Returns s moved s')
    (hstanding : x.standing = s.standing) :
    ∃ moved' x', x'.standing = s'.standing ∧
      (coreSetOwnSyncContext roster generation).Returns x moved' x' := by
  have hcontext : x.ownSyncContext = s.ownSyncContext := congrArg Standing.context hstanding
  rcases returns_coreSetOwnSyncContext.mp h with ⟨_, rfl, hold⟩ | ⟨_, hall, encoded, hencoded, rfl⟩
  · exact ⟨false, x, hstanding, returns_coreSetOwnSyncContext.mpr
      (.inl ⟨rfl, rfl, hcontext ▸ hold⟩)⟩
  · refine ⟨true, x.withSyncContext roster encoded generation, ?_,
      returns_coreSetOwnSyncContext.mpr (.inr ⟨rfl, hcontext ▸ hall, encoded, hencoded, rfl⟩)⟩
    exact congrArg (fun standing : Standing => { standing with
      context := some ⟨encoded, roster.recoveryEpoch, roster.seq, generation⟩ }) hstanding

/-- The same steps run from a store of the same standing that has no larger backlog, and
leave the same standing. -/
theorem AdoptionRun.again
    (h : AdoptionRun P payload root device superseded entropy mid key resealed adopted s')
    (hstanding : x.standing = mid.standing)
    (hbacklog : ∀ k ∈ superseded, x.sealedRecordsAtGeneration device.deviceId k.generation ⊆
      mid.sealedRecordsAtGeneration device.deviceId k.generation) (entropy' : Nat → SealEntropy) :
    ∃ resealed' adopted' finish, finish.standing = s'.standing ∧
      AdoptionRun P payload root device superseded entropy' x key resealed' adopted' finish := by
  obtain ⟨hresealed, rfl⟩ := h.standing
  obtain ⟨counts, hreturns⟩ := h.backlog
  obtain ⟨hvalid, hlisted⟩ := checks_of_adoptOwnRoster h.adopt
  -- what has no more of the backlog than what was re-sealed is re-sealed too
  obtain ⟨counts', resealed', hagain⟩ : ∃ counts' resealed', (resealOwnBacklog P device superseded
      payload.roster key entropy').Returns x counts' resealed' := by
    refine exists_returns_resealOwnBacklog (keys_of_returns_resealOwnBacklog hreturns) ?_
    rintro k rfl stored hmem
    unfold resealOwnBacklog at hreturns
    simp only [returns_bind, returns_lift, returns_inspect] at hreturns
    obtain ⟨_, _, ⟨_, rfl⟩, _, _, ⟨rfl, rfl⟩, hrows⟩ := hreturns
    exact resealable_of_returns hrows stored (hbacklog k rfl hmem)
  have hresealed' : resealed'.standing = resealed.standing := by
    rw [hresealed, ← hstanding]
    exact (keeps_resealOwnBacklog fun _ _ => rfl).returns hagain
  have hversion : resealed'.ownFleetVersion = resealed.ownFleetVersion :=
    congrArg Standing.fleetVersion hresealed'
  have hadopt : (adoptOwnRoster P payload.roster root device.deviceId).Returns resealed' ()
      (resealed'.adopted P payload.roster device.deviceId) := by
    refine (returns_adoptOwnRoster hvalid hlisted).mpr ⟨?_, rfl⟩
    rw [hversion]
    exact ((returns_adoptOwnRoster hvalid hlisted).mp h.adopt).1
  obtain ⟨moved, hmoved⟩ := h.context
  obtain ⟨moved', finish, hfinish, hcontext⟩ :=
    coreSetOwnSyncContext_again hmoved (standing_adopted hresealed')
  exact ⟨resealed', _, finish, hfinish, h.found, ⟨counts', hagain⟩, hadopt, moved', hcontext⟩

theorem Judged.standing (h : Judged P s held incoming quarantined mid) :
    mid.standing = s.standing :=
  (keeps_storedQuarantine (fun _ _ _ => rfl) held.personId).returns h.read

theorem Judged.records (h : Judged P s held incoming quarantined mid) :
    mid.syncStreamRecords = s.syncStreamRecords :=
  (keeps_storedQuarantine (fun _ _ _ => rfl) held.personId).returns h.read

end Handoff

namespace Sample

/-- The second device of a person who has three. -/
def sibling : DeviceKeypair where
  deviceId := primitives.deriveUserId otherDeviceKey
  signPk := otherDeviceKey
  signSk := secretKey 3
  agreePk := agreeKey (secretKey 8)
  agreeSk := secretKey 8

def siblingCert : DeviceCert :=
  DeviceCert.signedBy primitives
    { personId := person, deviceSignPk := otherDeviceKey, deviceAgreePk := agreeKey (secretKey 8),
      addedEpoch := 0, flags := 0, signerSignPk := [], signature := [] } (secretKey 2)

def threeRoster : Roster :=
  Roster.signedBy primitives
    { firstRoster with
      seq := 1
      devices := firstRoster.devices ++
        [siblingCert, certBy (secretKey 2) (publicKey (secretKey 4)) 0 0] } (secretKey 2)

/-- The first device revokes the third one and rotates the inbox key. -/
def narrowing : RevocationUpdate :=
  let roster := Roster.signedBy primitives
    { threeRoster with
      seq := 2, devices := firstRoster.devices ++ [siblingCert]
      tombstones := [⟨primitives.deriveUserId (publicKey (secretKey 4)), 2⟩]
      inboxKeyGeneration := 1 } (secretKey 2)
  { roster, rosterHead := rosterHeadHash primitives roster
    revokedDeviceIds := [primitives.deriveUserId (publicKey (secretKey 4))]
    inboxKey := coreMintInboxKey primitives 1 (secretKey 6), path := .approvingDevice }

/-- The copy of the announcement that is sealed to the second device. -/
def handoffBody : Bytes :=
  let copy : Except CoreError SealedSyncRecord := do
    let payload ← coreEncodeSyncOwnRoster narrowing.roster [narrowing.inboxKey]
    let record ← coreSignSyncRecord primitives
      (announcement narrowing device.deviceId 1 100 payload) device.signSk
    coreSealSyncHandoff primitives record (coreDeviceSyncIdentity device) narrowing.roster
      sibling.deviceId (sealEntropy 30)
  (copy.toOption.map (·.body)).getD []

def handoff : Prog Store CoreError RevocationAdoption :=
  adoptRevocationHandoff primitives handoffBody personRoot sibling none 200 sealEntropy

end Sample

end CruiseMesh
