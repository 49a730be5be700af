import CruiseMesh.Roster.Revocation
import CruiseMesh.Sample

/-!
# Resuming an interrupted revocation

The commit of a revocation is made to be run again when the process dies in it: the
journal row stays pending until the very last write. Run again it gets past every
write but one. The fleet projection refuses a version it already holds, so once that
write is durable the same update can never be committed: `commit_resumes_iff` says that
being cut before it is exactly what makes a commit resumable.
-/

namespace CruiseMesh
open Durable Prog List
variable (P : Primitives) (update : RevocationUpdate)

/-- The keys are such that signing and sealing succeed, and the announcement fits. -/
structure SealingSucceeds (device : DeviceKeypair) : Prop where
  device : device.WellFormed P
  key : update.inboxKey.Consistent P
  payload : ∃ payload, coreEncodeSyncOwnRoster update.roster [update.inboxKey] = .ok payload ∧
    payload.length ≤ syncRecordMaxPayloadBytes

/-- Everything a committed revocation leaves behind, at the update's version. -/
structure CommittedAt (ownDeviceId : Bytes) (s : Store) : Prop where
  roster : s.ownRoster = some update.roster
  fleet : s.ownDeviceFleet.projectedFrom = update.roster.version ∧
    s.ownFleetVersion = some update.roster.version
  context : ∃ row ∈ s.ownSyncContext, row.version = update.roster.version
  announced : ∃ row ∈ s.syncStreamRecords, row.authorDeviceId = ownDeviceId ∧
    row.kind = coreSyncRecordKindWire .ownRoster ∧ ∃ copy ∈ row.copy,
      copy.sealedFor = update.roster.version ∧ ∃ record payload,
        openSyncRow P update.inboxKey.agreeSk copy.body = .ok record ∧
        coreEncodeSyncOwnRoster update.roster [update.inboxKey] = .ok payload ∧
        record.payload = payload
  journal : ∃ row ∈ s.ownRevocation, row.rosterHead = update.rosterHead ∧
    row.inboxKeyGeneration = update.inboxKey.generation ∧ row.committedAtMs.isSome = true

/-- Running the commit again on what survived finishes it. -/
def Resumes (root : Bytes) (device : DeviceKeypair)
    (superseded : Option InboxKey) (nowMs : Int) (entropy : CommitEntropy) (s : Store) : Prop :=
  ∃ result s', (commitOwnRevocation P update root device superseded nowMs entropy).Returns s result s' ∧
    CommittedAt P update device.deviceId s'

/-- What the surviving store must be like: the fleet projection is older than the update
or has never been written, the sync context is not newer, and the key rotated away from
is older than the rotated one. -/
structure Resumable (superseded : Option InboxKey) (s : Store) : Prop where
  fleet : ∀ version ∈ s.ownFleetVersion, version < update.roster.version
  context : ∀ row ∈ s.ownSyncContext, row.version ≤ update.roster.version
  keys : ∀ key ∈ superseded, key.generation < update.inboxKey.generation

/-! ## The backlog -/

section Backlog
variable {P : Primitives} {device : DeviceKeypair} {superseded rotated : InboxKey}
  {roster : Roster} {entropy : Nat → SealEntropy}

theorem openSyncRow_bounds {sk body : Bytes} {record : SyncRecord}
    (h : openSyncRow P sk body = .ok record) :
    record.payload.length ≤ syncRecordMaxPayloadBytes ∧ record.personId.length ≤ u16Max := by
  obtain ⟨opened, _, hdecode⟩ := bind_eq_ok.mp h
  exact coreDecodeSyncRecord_bounds hdecode

/-- The row does not open, or what it holds can be signed and sealed again. -/
def Resealable (P : Primitives) (device : DeviceKeypair) (superseded rotated : InboxKey)
    (roster : Roster) (stored : StoredSyncRecord) : Prop :=
  ∀ record, openSyncRow P superseded.agreeSk stored.body = .ok record →
    ∃ signed, coreSignSyncRecord P (record.restamped roster rotated.generation) device.signSk =
        .ok signed ∧
      ∀ e, ∃ copy, coreSealSyncRecord P signed (coreDeviceSyncIdentity device) rotated e = .ok copy

/-- Over such rows the loop gets to its end. -/
theorem exists_returns_resealRows : ∀ {rows : List StoredSyncRecord},
    (∀ stored ∈ rows, Resealable P device superseded rotated roster stored) →
    ∀ (index resealed unresealable : Nat) (s : Store), ∃ counts s',
      (resealRows P device superseded rotated roster entropy rows index resealed
        unresealable).Returns s counts s'
  | [], _, _, _, _, s => ⟨_, s, ⟨rfl, rfl⟩⟩
  | first :: rest, hall, index, resealed, unresealable, s => by
    have hrest := exists_returns_resealRows fun stored hmem =>
      hall stored (mem_cons_of_mem _ hmem)
    unfold resealRows
    cases hopen : openSyncRow P superseded.agreeSk first.body with
    | error e => exact hrest _ _ _ s
    | ok record =>
      obtain ⟨signed, hsigned, hseal⟩ := hall first mem_cons_self record hopen
      obtain ⟨copy, hsealed⟩ := hseal (entropy index)
      obtain ⟨counts, s', hreturns⟩ := hrest (index + 1)
        (if s.syncStreamRecords.any fun row => row.slot = signed.slot then resealed + 1
          else resealed) unresealable (s.resealed signed.slot copy)
      refine ⟨counts, s', ?_⟩
      simp only [returns_bind]
      exact ⟨_, s, ⟨hsigned, rfl⟩, _, s, ⟨hsealed, rfl⟩, _, _, returns_reseal.mpr ⟨rfl, rfl⟩,
        hreturns⟩

variable {key : Option InboxKey} {counts : Nat × Nat}

/-- With an older key and rows that can be re-sealed the backlog is rotated. -/
theorem exists_returns_resealOwnBacklog (holder : ∀ k ∈ key, k.generation < rotated.generation)
    {s : Store} (hrows : ∀ k ∈ key, ∀ stored ∈ s.sealedRecordsAtGeneration device.deviceId
      k.generation, Resealable P device k rotated roster stored) :
    ∃ counts s', (resealOwnBacklog P device key roster rotated entropy).Returns s counts s' := by
  cases key with
  | none => exact ⟨_, s, ⟨rfl, rfl⟩⟩
  | some k =>
    obtain ⟨counts, s', hreturns⟩ := exists_returns_resealRows (hrows k rfl) 0 0 0 s
    refine ⟨counts, s', returns_bind.mpr ⟨(), s, ⟨refuseWhen_neg ?_, rfl⟩, hreturns⟩⟩
    exact not_le.mpr (holder k rfl)

/-- The backlog touches the sync rows and nothing else. -/
theorem resealOwnBacklog_frame {s s' : Store}
    (h : (resealOwnBacklog P device key roster rotated entropy).Returns s counts s') :
    ∃ rows, s' = { s with syncStreamRecords := rows } := by
  have hframe : (resealOwnBacklog P device key roster rotated entropy).Throughout s
      fun x => ∃ rows, x = { s with syncStreamRecords := rows } := by
    refine throughout_resealOwnBacklog ⟨_, rfl⟩ ?_
    intro k _ stored _ record _ _ e x ⟨rows, hx⟩
    subst hx
    exact ⟨_, rfl⟩
  rw [← h.2]
  exact hframe.final

/-- A key that is not older than the rotated one stops the backlog. -/
theorem keys_of_returns_resealOwnBacklog {s s' : Store}
    (h : (resealOwnBacklog P device key roster rotated entropy).Returns s counts s') :
    ∀ k ∈ key, k.generation < rotated.generation := by
  intro k hk
  obtain rfl := hk
  obtain ⟨_, _, hcheck, _⟩ := returns_bind.mp h
  exact not_le.mp (refuseWhen_eq_ok.mp (returns_lift.mp hcheck).1)

end Backlog

/-! ## The commit -/

section Commit
variable {P : Primitives} {update : RevocationUpdate} {root : Bytes} {device : DeviceKeypair}
  {superseded : Option InboxKey} {nowMs : Int} {entropy : CommitEntropy} {s s' : Store}

/-- The journal holds the update, begun and not committed. -/
def Begun (update : RevocationUpdate) (s : Store) : Prop :=
  ∃ row ∈ s.ownRevocation, row.rosterHead = update.rosterHead ∧
    row.inboxKeyGeneration = update.inboxKey.generation ∧ row.committedAtMs = none

theorem returns_beginOwnRevocation {key : InboxKey} :
    (beginOwnRevocation P update root device nowMs).Returns s key s' ↔
      checkRevocationUpdate P update root device = .ok () ∧ update.inboxKey = key ∧
        { s with ownRevocation := some (journalRow update nowMs) } = s' := by
  unfold beginOwnRevocation
  simp only [returns_bind, returns_write, returns_pure]
  constructor
  · rintro ⟨_, _, ⟨hcheck, rfl⟩, _, _, rfl, hkey, rfl⟩
    exact ⟨hcheck, hkey, rfl⟩
  · rintro ⟨hcheck, hkey, hs'⟩
    exact ⟨(), s, ⟨hcheck, rfl⟩, (), _, rfl, hkey, hs'⟩

theorem requirePending_of_begun (h : Begun update s) :
    requirePending update s.pendingOwnRevocation = .ok () := by
  obtain ⟨row, hrow, hhead, hgen, hopen⟩ := h
  have hsome : s.ownRevocation = some row := hrow
  have hpending : s.pendingOwnRevocation =
      some ⟨row.rosterHead, row.inboxKeyGeneration, unpackDeviceIds row.revokedDeviceIds⟩ := by
    unfold Store.pendingOwnRevocation
    rw [hsome]
    exact if_pos hopen
  rw [hpending]
  exact refuseWhen_neg (by simp [hhead, hgen])

/-- The row an announcement is retained in. -/
def announcementRow (P : Primitives) (update : RevocationUpdate) (device : DeviceKeypair)
    (streamSeq : Nat) (nowMs : Int) (payload : Bytes) (e : SealEntropy) : SyncStreamRow where
  authorDeviceId := P.deriveUserId (P.verifyingKey device.signSk)
  kind := coreSyncRecordKindWire .ownRoster
  streamSeq := streamSeq
  personId := update.roster.personId
  copy := some ((announcement update device.deviceId streamSeq nowMs payload).sealedTo P device
    update.inboxKey.agreePk e)
  createdAtMs := nowMs

variable {I : Store → Prop} {encoded payload : Bytes} {e : SealEntropy} {streamSeq : Nat}

/-- The announcement is one new row, at the next position of its stream. -/
theorem throughout_announce (hs : I s)
    (hslot : ∀ payload : Bytes, payload.length ≤ syncRecordMaxPayloadBytes →
      update.roster.personId.length ≤ u16Max → update.inboxKey.Consistent P →
        I (s.withSlot (announcementRow P update device
          (s.nextStreamSeq device.deviceId .ownRoster) nowMs payload entropy.announcement)))
    (hcursor : ∀ x author kind through, I x → I (x.withCursor author kind through)) :
    (announce P update device nowMs entropy).Throughout s I := by
  refine throughout_inspect_bind.mpr ?_
  refine throughout_lift_bind hs fun payload _ => throughout_lift_bind hs fun signed hsign => ?_
  obtain ⟨_, _, hpayload, hperson, rfl⟩ := coreSignSyncRecord_eq_ok.mp hsign
  refine throughout_lift_bind hs fun copy hseal => ?_
  obtain ⟨_, _, _, hkey, _⟩ := coreSealSyncRecord_eq_ok.mp hseal
  obtain rfl := eq_sealedTo_of_seal hseal
  refine throughout_bind (throughout_coreSyncRetainRecord hs
    (hslot payload hpayload hperson hkey) hcursor) fun _ s₅ _ hs₅ => ?_
  exact throughout_lift_bind hs₅ fun _ _ => throughout_pure.mpr hs₅

/-- What every write before the announcement's keeps, and then every write before the
journal's, the commit keeps until then. -/
theorem throughout_commitBody {J : Store → Prop} (hs : I s) (hreseal : ∀ key ∈ superseded,
      ∀ stored ∈ s.sealedRecordsAtGeneration device.deviceId key.generation, ∀ record,
        openSyncRow P key.agreeSk stored.body = .ok record → update.inboxKey.Consistent P →
          ∀ e x, I x → I (x.resealed (record.ownSlot P device)
            (record.rotatedCopy P device update.roster update.inboxKey e)))
    (hdoc : ∀ x doc, I x → I { x with ownRoster := doc })
    (hfleet : ∀ x fleet, I x → I (x.withFleet fleet))
    (hcontext : ∀ x row, I x → I { x with ownSyncContext := row }) (hIJ : ∀ x, I x → J x)
    (hslot : ∀ x (payload : Bytes), payload.length ≤ syncRecordMaxPayloadBytes →
      update.roster.personId.length ≤ u16Max → update.inboxKey.Consistent P → I x →
        J (x.withSlot (announcementRow P update device
          (x.nextStreamSeq device.deviceId .ownRoster) nowMs payload entropy.announcement)))
    (hcursor : ∀ x author kind through, J x → J (x.withCursor author kind through)) :
    (commitBody P update root device superseded nowMs entropy).Throughout s J := by
  refine throughout_lift_bind (hIJ s hs) fun _ _ => throughout_inspect_bind.mpr ?_
  refine throughout_lift_bind (hIJ s hs) fun _ _ => ?_
  refine throughout_bind_weaken hIJ (throughout_resealOwnBacklog hs hreseal)
    fun _ s₆ _ hs₆ => ?_
  refine throughout_bind_weaken hIJ (throughout_adoptOwnRoster hs₆ hdoc hfleet)
    fun _ s₇ _ hs₇ => ?_
  refine throughout_bind_weaken hIJ (throughout_coreSetOwnSyncContext hs₇ hcontext)
    fun _ s₈ _ hs₈ => ?_
  refine throughout_bind (throughout_announce (hIJ s₈ hs₈)
    (fun payload hpayload hperson hkey => hslot s₈ payload hpayload hperson hkey hs₈) hcursor)
    fun _ s₉ _ hs₉ => ?_
  exact throughout_pure.mpr hs₉

/-- Wherever the commit is interrupted, the journal row is still pending. -/
theorem begun_of_interrupted (h : Begun update s)
    (hcut : s' ∈ (commitOwnRevocation P update root device superseded nowMs entropy).interrupted s) :
    Begun update s' := by
  have hbody : (commitBody P update root device superseded nowMs entropy).Throughout s
      (Begun update) :=
    throughout_commitBody h (fun _ _ _ _ _ _ _ _ _ hx => hx) (fun _ _ hx => hx)
      (fun _ _ hx => hx) (fun _ _ hx => hx) (fun _ hx => hx) (fun _ _ _ _ _ hx => hx)
      (fun _ _ _ _ hx => hx)
  refine hbody s' (mem_cuts_of_interrupted_bind ?_ hcut)
  -- after the body comes the journal write, and nothing durable after that
  intro result mid
  cases hdoc : coreEncodeRoster update.roster with
  | error e => exact le_refl 1
  | ok document => exact le_refl 1

theorem personId_le_u16Max (hvalid : ValidRoster P update.roster root) :
    update.roster.personId.length ≤ u16Max := by
  have hwidth : update.roster.personId.length = 16 := hvalid.widths.2.1
  have hmax : u16Max = 65535 := rfl
  omega

/-- A device hands the announcement to all its siblings. -/
theorem exists_sealHandoffs {record : SyncRecord} {e : Nat → SealEntropy}
    (hdevice : device.WellFormed P) (hvalid : ValidRoster P update.roster root)
    (hkind : record.kind = .ownRoster) (hperson : record.personId = update.roster.personId)
    (hpayload : record.payload.length ≤ syncRecordMaxPayloadBytes) :
    ∀ (ids : List Bytes) (index : Nat), (∀ id ∈ ids, id ∈ update.roster.deviceIds P) →
      ∃ out, sealHandoffs P (record.signedBy P device.signSk) device update.roster e ids index =
        .ok out := by
  have hlen : record.personId.length ≤ u16Max := hperson ▸ personId_le_u16Max hvalid
  have hagree : ∀ cert ∈ update.roster.devices, cert.deviceAgreePk.length = keyLen :=
    fun cert hcert => (hvalid.certs cert hcert).1.2.1
  intro ids
  induction ids with
  | nil =>
    intro index _
    exact ⟨[], rfl⟩
  | cons deviceId rest ih =>
    intro index hids
    obtain ⟨others, hothers⟩ := ih (index + 1) fun id hid => hids id (mem_cons_of_mem _ hid)
    unfold sealHandoffs
    split
    · exact ⟨others, hothers⟩
    have hlisted := hids deviceId mem_cons_self
    have hburied : deviceId ∉ update.roster.tombstoneIds := by
      intro hmem
      obtain ⟨tombstone, htomb, rfl⟩ := mem_map.mp hmem
      exact (hvalid.tombstones tombstone htomb).2 hlisted
    have hcopy : ∃ copy, coreSealSyncHandoff P (record.signedBy P device.signSk)
        (coreDeviceSyncIdentity device) update.roster deviceId (e index) = .ok copy :=
      coreSealSyncHandoff_signedBy hpayload hlen hdevice hkind hperson hlisted hburied hagree
    obtain ⟨copy, hcopy⟩ := hcopy
    rw [hcopy, hothers]
    exact ⟨_, rfl⟩

/-- The store with the announcement in the next slot of its stream. -/
def Store.announced (P : Primitives) (s : Store) (update : RevocationUpdate) (device : DeviceKeypair)
    (nowMs : Int) (payload : Bytes) (e : SealEntropy) : Store :=
  let row := announcementRow P update device (s.nextStreamSeq device.deviceId .ownRoster) nowMs
    payload e
  (s.withSlot row).withCursor row.authorDeviceId row.kind
    ((s.withSlot row).advancedCursor row.authorDeviceId row.kind)

theorem announcement_free (hdevice : device.WellFormed P) :
    ∀ held ∈ s.syncStreamRecords, held.slot ≠ (announcementRow P update device
      (s.nextStreamSeq device.deviceId .ownRoster) nowMs payload e).slot := by
  have hid : P.deriveUserId (P.verifyingKey device.signSk) = device.deviceId := by
    rw [hdevice.deviceId_eq, hdevice.signPk_eq]
  intro held hheld heq
  refine nextStreamSeq_free s device.deviceId .ownRoster held hheld ?_
  rw [heq]
  simp [SyncStreamRow.slot, announcementRow, hid]

theorem mem_announced (hdevice : device.WellFormed P) :
    announcementRow P update device (s.nextStreamSeq device.deviceId .ownRoster) nowMs payload e ∈
      (s.announced P update device nowMs payload e).syncStreamRecords := by
  show _ ∈ (s.withSlot _).syncStreamRecords
  rw [withSlot_free (announcement_free hdevice)]
  exact mem_append_right _ mem_cons_self

/-- The device that runs the ceremony has a real id. -/
theorem signing_id_real (hdevice : device.WellFormed P) (hvalid : ValidRoster P update.roster root)
    (hlisted : device.deviceId ∈ update.roster.deviceIds P) :
    P.deriveUserId (P.verifyingKey device.signSk) ≠ legacyDeviceId := by
  obtain ⟨cert, hcert, hid⟩ := mem_map.mp hlisted
  rw [← hdevice.signPk_eq, ← hdevice.deviceId_eq, ← hid]
  exact (hvalid.certs cert hcert).2.2

/-- With working keys the update is announced. -/
theorem exists_returns_announce (hseal : SealingSucceeds P update device)
    (hvalid : ValidRoster P update.roster root)
    (hlisted : device.deviceId ∈ update.roster.deviceIds P)
    (hpayload : coreEncodeSyncOwnRoster update.roster [update.inboxKey] = .ok payload)
    (hfits : payload.length ≤ syncRecordMaxPayloadBytes) :
    ∃ handoffs, (announce P update device nowMs entropy).Returns s
      (s.nextStreamSeq device.deviceId .ownRoster, handoffs)
      (s.announced P update device nowMs payload entropy.announcement) := by
  have hreal := signing_id_real hseal.device hvalid hlisted
  have hperson := personId_le_u16Max hvalid
  generalize hseq : s.nextStreamSeq device.deviceId .ownRoster = streamSeq
  let record := announcement update device.deviceId streamSeq nowMs payload
  have hsigned : coreSignSyncRecord P record device.signSk = .ok (record.signedBy P device.signSk) :=
    coreSignSyncRecord_eq_ok.mpr ⟨hseal.device.signSk_length, hreal, hfits, hperson, rfl⟩
  have hsealed : coreSealSyncRecord P (record.signedBy P device.signSk)
      (coreDeviceSyncIdentity device) update.inboxKey entropy.announcement =
        .ok (record.sealedTo P device update.inboxKey.agreePk entropy.announcement) :=
    coreSealSyncRecord_signedBy hfits hperson hseal.device hseal.key rfl
  have hhandoffs : ∃ handoffs, sealHandoffs P (record.signedBy P device.signSk) device
      update.roster entropy.handoff (update.roster.deviceIds P) 0 = .ok handoffs :=
    exists_sealHandoffs hseal.device hvalid rfl rfl hfits _ 0 fun _ hid => hid
  obtain ⟨handoffs, hhandoffs⟩ := hhandoffs
  refine ⟨handoffs, ?_⟩
  unfold announce
  simp only [returns_bind, returns_inspect, returns_lift, returns_pure]
  refine ⟨streamSeq, s, ⟨hseq, rfl⟩, payload, s, ⟨hpayload, rfl⟩, _, s, ⟨hsigned, rfl⟩, _, s,
    ⟨hsealed, rfl⟩, true, _, ?_, handoffs, _, ⟨hhandoffs, rfl⟩, rfl, rfl⟩
  -- the slot of the announcement is free, so it is retained
  subst hseq
  have hstream : ¬ coreSyncKindIsStream .ownRoster = false := by decide
  unfold coreSyncRetainRecord
  rw [returns_bind]
  refine ⟨(), s, returns_lift.mpr ⟨refuseWhen_neg hstream, rfl⟩, ?_⟩
  exact returns_holdSlot_free (announcement_free hseal.device)

/-- What the writes of a commit on a resumable store add up to. -/
theorem committedAt_of_writes (hseal : SealingSucceeds P update device)
    (hvalid : ValidRoster P update.roster root) (hbegun : Begun update s)
    (hpayload : coreEncodeSyncOwnRoster update.roster [update.inboxKey] = .ok payload)
    (hfits : payload.length ≤ syncRecordMaxPayloadBytes)
    (hroster : s.ownRoster = some update.roster)
    (hfleet : s.ownFleetVersion = some update.roster.version)
    (hcontext : ∃ row ∈ s.ownSyncContext, row.version = update.roster.version) :
    CommittedAt P update device.deviceId ((s.announced P update device nowMs payload e).journalCommitted
      update.rosterHead (s.nextStreamSeq device.deviceId .ownRoster) nowMs) where
  roster := hroster
  fleet := by
    refine ⟨?_, hfleet⟩
    show s.ownFleetVersion.getD ⟨0, 0⟩ = _
    rw [hfleet]
    rfl
  context := hcontext
  announced := by
    have hopen : openSyncRow P update.inboxKey.agreeSk
        ((announcement update device.deviceId (s.nextStreamSeq device.deviceId .ownRoster) nowMs
          payload).sealedTo P device update.inboxKey.agreePk e).body =
        .ok ((announcement update device.deviceId (s.nextStreamSeq device.deviceId .ownRoster) nowMs
          payload).signedBy P device.signSk).narrowed := by
      rw [← hseal.key.2]
      exact openSyncRow_sealedTo hfits (personId_le_u16Max hvalid) hseal.device hseal.key.1
    have hauthor : P.deriveUserId (P.verifyingKey device.signSk) = device.deviceId := by
      rw [hseal.device.deviceId_eq, hseal.device.signPk_eq]
    exact ⟨_, mem_announced hseal.device, hauthor, rfl, _, rfl, rfl, _, payload, hopen, hpayload, rfl⟩
  journal := by
    obtain ⟨row, hrow, hhead, hgen, _⟩ := hbegun
    have hsome : s.ownRevocation = some row := hrow
    refine ⟨{ row with
      streamSeq := some (s.nextStreamSeq device.deviceId .ownRoster),
      committedAtMs := some nowMs }, ?_, hhead, hgen, rfl⟩
    show s.ownRevocation.map _ = some _
    rw [hsome, Option.map_some, if_pos hhead]

/-- On a resumable store the commit runs to its end. -/
theorem resumes_of_resumable (hseal : SealingSucceeds P update device)
    (hcheck : checkRevocationUpdate P update root device = .ok ()) (hbegun : Begun update s)
    (h : Resumable update superseded s) :
    Resumes P update root device superseded nowMs entropy s := by
  obtain ⟨hvalid, _, hlisted⟩ := checkRevocationUpdate_eq_ok.mp hcheck
  have hreal := signing_id_real hseal.device hvalid hlisted
  obtain ⟨payload, hpayload, hfits⟩ := hseal.payload
  obtain ⟨_, _, hparts⟩ := bind_eq_ok.mp hpayload
  obtain ⟨encoded, hencoded, _⟩ := bind_eq_ok.mp hparts
  -- the backlog
  have hbacklog : ∃ counts s₁, (resealOwnBacklog P device superseded update.roster update.inboxKey
      entropy.backlog).Returns s counts s₁ := by
    refine exists_returns_resealOwnBacklog h.keys fun key _ stored _ record hopen => ?_
    obtain ⟨hpayload, hperson⟩ := openSyncRow_bounds hopen
    exact ⟨(record.restamped update.roster update.inboxKey.generation).signedBy P device.signSk,
      coreSignSyncRecord_eq_ok.mpr ⟨hseal.device.signSk_length, hreal, hpayload, hperson, rfl⟩,
      fun _ => ⟨_, coreSealSyncRecord_signedBy hpayload hperson hseal.device hseal.key rfl⟩⟩
  obtain ⟨counts, s₁, hbacklog⟩ := hbacklog
  obtain ⟨rows, hs₁⟩ := resealOwnBacklog_frame hbacklog
  -- the adoption and the context
  have hadopt : (adoptOwnRoster P update.roster root device.deviceId).Returns s₁ ()
      (s₁.adopted P update.roster device.deviceId) :=
    (returns_adoptOwnRoster hvalid hlisted).mpr ⟨by rw [hs₁]; exact h.fleet, rfl⟩
  have hmove : ∃ moved context,
      (coreSetOwnSyncContext update.roster update.inboxKey.generation).Returns
        (s₁.adopted P update.roster device.deviceId) moved
        { s₁.adopted P update.roster device.deviceId with ownSyncContext := context } ∧
      ∃ row ∈ context, row.version = update.roster.version := by
    generalize hx : s₁.adopted P update.roster device.deviceId = x
    have hold : ∀ row ∈ x.ownSyncContext, row.version ≤ update.roster.version := by
      rw [← hx, hs₁]
      exact h.context
    by_cases hheld : ∃ row ∈ x.ownSyncContext, update.roster.version ≤ row.version
    · obtain ⟨row, hrow, hle⟩ := hheld
      exact ⟨false, x.ownSyncContext, returns_coreSetOwnSyncContext.mpr
        (.inl ⟨rfl, rfl, row, hrow, hle⟩), row, hrow, le_antisymm (hold row hrow) hle⟩
    · refine ⟨true, _, returns_coreSetOwnSyncContext.mpr (.inr ⟨rfl, ?_, encoded, hencoded, rfl⟩),
        _, rfl, rfl⟩
      exact fun row hrow => not_le.mp fun hle => hheld ⟨row, hrow, hle⟩
  obtain ⟨moved, context, hmoved, hversion⟩ := hmove
  have hbegun₂ : Begun update
      { s₁.adopted P update.roster device.deviceId with ownSyncContext := context } := by
    rw [hs₁]
    exact hbegun
  -- the announcement
  generalize hs₂ : ({ s₁.adopted P update.roster device.deviceId with
    ownSyncContext := context } : Store) = s₂ at hmoved hbegun₂
  have hannounce : ∃ handoffs, (announce P update device nowMs entropy).Returns s₂
      (s₂.nextStreamSeq device.deviceId .ownRoster, handoffs)
      (s₂.announced P update device nowMs payload entropy.announcement) :=
    exists_returns_announce hseal hvalid hlisted hpayload hfits
  obtain ⟨handoffs, hannounce⟩ := hannounce
  have hbody : (commitBody P update root device superseded nowMs entropy).Returns s
      (counts, s₂.nextStreamSeq device.deviceId .ownRoster, handoffs)
      (s₂.announced P update device nowMs payload entropy.announcement) := by
    unfold commitBody
    simp only [returns_bind, returns_inspect, returns_lift, returns_pure]
    exact ⟨(), s, ⟨hcheck, rfl⟩, _, s, ⟨rfl, rfl⟩, (), s, ⟨requirePending_of_begun hbegun, rfl⟩,
      counts, _, hbacklog, (), _, hadopt, moved, _, hmoved, _, _, hannounce, rfl, rfl⟩
  -- past the body there is the journal write, and nothing that can fail
  obtain ⟨result, hcommit⟩ : ∃ result,
      (commitOwnRevocation P update root device superseded nowMs entropy).Returns s result
        ((s₂.announced P update device nowMs payload entropy.announcement).journalCommitted
          update.rosterHead (s₂.nextStreamSeq device.deviceId .ownRoster) nowMs) := by
    unfold commitOwnRevocation
    simp only [returns_bind, returns_inspect, returns_lift, returns_pure, returns_write]
    exact ⟨_, _, _, hbody, (), _, rfl, _, _, ⟨rfl, rfl⟩, encoded, _, ⟨hencoded, rfl⟩, rfl, rfl⟩
  refine ⟨result, _, hcommit, committedAt_of_writes hseal hvalid hbegun₂ hpayload hfits ?_ ?_ ?_⟩
  · rw [← hs₂]; rfl
  · rw [← hs₂]; rfl
  · rw [← hs₂]; exact hversion

/-- A commit that returns has passed the fleet write and the check on the superseded key,
and its sync context is the one the context write left. -/
theorem writes_of_returns_commit {s' : Store} {result : RevocationCommit}
    (hvalid : ValidRoster P update.roster root)
    (hlisted : device.deviceId ∈ update.roster.deviceIds P)
    (h : (commitOwnRevocation P update root device superseded nowMs entropy).Returns s result s') :
    (∀ version ∈ s.ownFleetVersion, version < update.roster.version) ∧
      (∀ key ∈ superseded, key.generation < update.inboxKey.generation) ∧
      ((∀ row ∈ s.ownSyncContext, row.version < update.roster.version) ∨
        s'.ownSyncContext = s.ownSyncContext) := by
  obtain ⟨⟨counts, streamSeq, handoffs⟩, s₄, hbody, h⟩ := returns_bind.mp h
  simp only [returns_bind, returns_inspect, returns_lift, returns_pure,
    returns_write] at h
  obtain ⟨_, _, hjournal, _, _, ⟨_, h₁⟩, _, _, ⟨_, h₂⟩, _, h₃⟩ := h
  have hs' : s₄.journalCommitted update.rosterHead streamSeq nowMs = s' := by
    rw [hjournal, h₁, h₂, h₃]
  unfold commitBody at hbody
  simp only [returns_bind, returns_inspect, returns_lift, returns_pure] at hbody
  obtain ⟨_, _, ⟨_, rfl⟩, _, _, ⟨_, rfl⟩, _, _, ⟨_, rfl⟩, _, s₁, hbacklog, _, s₂, hadopt, _, s₃,
    hmoved, _, _, hannounce, _, rfl⟩ := hbody
  obtain ⟨rows, hs₁⟩ := resealOwnBacklog_frame hbacklog
  obtain ⟨hfleet, hs₂⟩ := (returns_adoptOwnRoster hvalid hlisted).mp hadopt
  refine ⟨by rw [hs₁] at hfleet; exact hfleet, keys_of_returns_resealOwnBacklog hbacklog, ?_⟩
  have hcontext₂ : s₂.ownSyncContext = s.ownSyncContext := by
    rw [← hs₂, hs₁]
    rfl
  have hcontext' : s'.ownSyncContext = s₃.ownSyncContext := by
    have hthrough : (announce P update device nowMs entropy).Throughout s₃
        fun x => x.ownSyncContext = s₃.ownSyncContext :=
      throughout_announce rfl (fun _ _ _ _ => rfl) fun _ _ _ _ hx => hx
    rw [← hs']
    exact hannounce.2 ▸ hthrough.final
  obtain ⟨_, hsame, _⟩ | ⟨_, hold, _⟩ := returns_coreSetOwnSyncContext.mp hmoved
  · right
    rw [hcontext', ← hsame, hcontext₂]
  · left
    rw [← hcontext₂]
    exact hold

theorem resumable_of_resumes (hcheck : checkRevocationUpdate P update root device = .ok ())
    (h : Resumes P update root device superseded nowMs entropy s) :
    Resumable update superseded s := by
  obtain ⟨hvalid, _, hlisted⟩ := checkRevocationUpdate_eq_ok.mp hcheck
  obtain ⟨result, s', hcommit, hdone⟩ := h
  obtain ⟨hfleet, hkeys, hcontext⟩ := writes_of_returns_commit hvalid hlisted hcommit
  refine ⟨hfleet, fun row hrow => ?_, hkeys⟩
  cases hcontext with
  | inl hold => exact le_of_lt (hold row hrow)
  | inr hsame =>
    -- the context was not moved, so it is the one the finished commit ends with
    obtain ⟨last, hlast, hversion⟩ := hdone.context
    rw [hsame] at hlast
    rw [Option.mem_unique hrow hlast, hversion]

/-- A commit that was interrupted is finished by running it again, at any later time and
with fresh entropy, exactly when what survived is resumable. -/
theorem commit_resumes_iff {s₀ s' : Store} {key : InboxKey} {t₀ t₁ t₂ : Int}
    {e₁ e₂ : CommitEntropy} (hseal : SealingSucceeds P update device)
    (hbegin : (beginOwnRevocation P update root device t₀).Returns s₀ key s)
    (hcut : s' ∈ (commitOwnRevocation P update root device superseded t₁ e₁).interrupted s) :
    Resumes P update root device superseded t₂ e₂ s' ↔ Resumable update superseded s' := by
  obtain ⟨hcheck, _, hs⟩ := returns_beginOwnRevocation.mp hbegin
  have hbegun : Begun update s := hs ▸ ⟨_, rfl, rfl, rfl, rfl⟩
  have hbegun' : Begun update s' := begun_of_interrupted hbegun hcut
  constructor
  · exact resumable_of_resumes hcheck
  · exact resumes_of_resumable hseal hcheck hbegun'

end Commit

namespace Sample

def device : DeviceKeypair where
  deviceId := primitives.deriveUserId deviceKey
  signPk := deviceKey
  signSk := secretKey 2
  agreePk := agreeKey (secretKey 7)
  agreeSk := secretKey 7

/-- The device revokes its sibling and rotates the inbox key. -/
def revocation : RevocationUpdate where
  roster := revokedRoster
  rosterHead := rosterHeadHash primitives revokedRoster
  revokedDeviceIds := [primitives.deriveUserId otherDeviceKey]
  inboxKey := coreMintInboxKey primitives 1 (secretKey 6)
  path := .approvingDevice

def sealEntropy (n : Nat) : SealEntropy where
  ephemeralSk := secretKey n
  nonce := Wire.beBytes nonceLen n
  nonce_length := Wire.beBytes_length _ _

def commitEntropy : CommitEntropy where
  backlog n := sealEntropy (20 + n)
  announcement := sealEntropy 10
  handoff n := sealEntropy (30 + n)

/-- The device before the ceremony, with its fleet at the roster of two. -/
def pairStore : Store := ({} : Store).adopted primitives pairRoster device.deviceId

def begunStore : Store := { pairStore with ownRevocation := some (journalRow revocation 100) }

theorem revocation_begun : (beginOwnRevocation primitives revocation personRoot device 100).Returns
    pairStore revocation.inboxKey begunStore :=
  returns_beginOwnRevocation.mpr ⟨by decide +kernel, rfl, rfl⟩

theorem revocation_seals : SealingSucceeds primitives revocation device where
  device := ⟨by decide, by decide +kernel, by decide +kernel⟩
  key := by decide +kernel
  payload := by
    refine ⟨(coreEncodeSyncOwnRoster revocation.roster [revocation.inboxKey]).toOption.getD [], ?_⟩
    decide +kernel

/-- The commit of the sample revocation, with the inbox key it rotates away from. -/
def commitRevocation (nowMs : Int) : Prog Store CoreError RevocationCommit :=
  commitOwnRevocation primitives revocation personRoot device
    (some (coreMintInboxKey primitives 0 (secretKey 5))) nowMs commitEntropy

/-- What is on disk when the process dies between the first two writes. -/
def rosterWritten : Store := ((commitRevocation 200).interrupted begunStore).getD 1 {}

/-- What is on disk when the process dies after the fleet write. -/
def fleetWritten : Store := ((commitRevocation 200).interrupted begunStore).getD 2 {}

end Sample

open Sample in
/-- Cut between the roster and the fleet, the sample commit is resumable and so it resumes. -/
theorem commit_resumes_iff_roster_written :
    rosterWritten ∈ (commitRevocation 200).interrupted begunStore ∧
    rosterWritten.ownRoster = some Sample.revokedRoster ∧ begunStore.ownRoster = some pairRoster ∧
    Resumes primitives revocation personRoot device
      (some (coreMintInboxKey primitives 0 (secretKey 5))) 300 commitEntropy rosterWritten := by
  have hcut : rosterWritten ∈ (commitRevocation 200).interrupted begunStore := by decide +kernel
  refine ⟨hcut, by decide +kernel, by decide +kernel,
    (commit_resumes_iff revocation_seals revocation_begun hcut).mpr ⟨?_, ?_, ?_⟩⟩
  · decide +kernel
  · decide +kernel
  · decide

open Sample in
/-- The process dies once the fleet is written, and running the commit again is refused. -/
theorem commit_cut_after_fleet_refused :
    coreRevokeDevicesRoster primitives pairRoster personRoot (secretKey 2)
      [primitives.deriveUserId otherDeviceKey] (coreMintInboxKey primitives 0 (secretKey 5))
      (secretKey 6) = .ok revocation ∧
    SealingSucceeds primitives revocation device ∧
    (beginOwnRevocation primitives revocation personRoot device 100).Returns pairStore
      revocation.inboxKey begunStore ∧
    fleetWritten ∈ (commitRevocation 200).interrupted begunStore ∧
    ((commitRevocation 200).result begunStore).toOption.isSome = true ∧
    (commitRevocation 300).result fleetWritten = .error (.store
      ("own device fleet idempotent repeat: a projection from (0, 2) does not supersede the " ++
        "stored (0, 2)")) :=
  ⟨by decide +kernel, revocation_seals, revocation_begun, by decide +kernel, by decide +kernel,
    by decide +kernel⟩

end CruiseMesh
