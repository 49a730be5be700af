import CruiseMesh.Sync.Apply

/-!
# A revoked device is not heard

A sync record passes one of three doors. `core_open_sync_record` opens what was sealed to
the inbox key, `core_open_sync_handoff` the announcement of a rotation, and
`consume_sync_record` is where the records come in that arrive as ordinary mail, after the
mail was opened.

At each of them the held roster decides, and what it has buried stays buried: the roster a
hand-off carries is only listened to when it is accepted over the held one, and then it has
all of the held one's tombstones.
-/

namespace CruiseMesh
open Durable Prog

/-! ## The inbound path -/

structure OwnSyncContext where
  roster : Roster
  inboxKeyGeneration : Nat
deriving DecidableEq

/-- `own_sync_context`. -/
def Store.coreOwnSyncContext (s : Store) : Except CoreError (Option OwnSyncContext) :=
  match s.ownSyncContext with
  | none => .ok none
  | some row => do
    let roster ← coreDecodeRoster row.roster
    pure (some { roster, inboxKeyGeneration := row.inboxKeyGeneration })

inductive SyncConsumption where
  | notASyncRecord
  | refused
  | applied (kind : UInt8) (peerDigest : Option SyncDigest)

section Consume
variable (P : Primitives) (readCard : CardReader)

/-- What becomes of a record that was let in. -/
def applyConsumed (record : SyncRecord) (nowMs : Int) (clock : Nat → ClockReading) :
    Prog Store CoreError SyncConsumption := do
  let applied ← coreApplySyncRecord P readCard record nowMs clock
  pure (.applied (coreSyncRecordKindWire record.kind) applied.peerDigest)

/-- `consume_sync_record`. The mail has been opened before. -/
def consumeSyncRecord (outerSigner payload : Bytes) (nowMs : Int) (clock : Nat → ClockReading) :
    Prog Store CoreError SyncConsumption := do
  let found ← inspect fun s => s.coreOwnSyncContext
  let context ← found
  match context, coreDecodeSyncRecord payload with
  | none, _ => pure .notASyncRecord
  | some _, .error _ => pure .notASyncRecord
  | some context, .ok record =>
    if outerSignerIsOwn P outerSigner context.roster = false then pure .refused
    else if (coreSyncRecordAdmit P record context.inboxKeyGeneration context.roster).isSome then
      pure .refused
    else applyConsumed P readCard record nowMs clock

variable {P readCard} in
/-- The inbound path leaves alone what the records leave alone. -/
theorem keeps_consumeSyncRecord {τ : Type} {view : Store → τ} {outerSigner payload : Bytes}
    {nowMs : Int} {clock : Nat → ClockReading}
    (h : ∀ record, (coreApplySyncRecord P readCard record nowMs clock).Keeps view) :
    (consumeSyncRecord P readCard outerSigner payload nowMs clock).Keeps view := by
  refine keeps_inspect_bind fun found => ?_
  refine keeps_lift_bind fun context => ?_
  split
  · exact keeps_pure _
  · exact keeps_pure _
  · split
    · exact keeps_pure _
    · split
      · exact keeps_pure _
      · exact keeps_bind (h _) fun _ => keeps_pure _

end Consume

/-! ## What a gate lets through -/

section Gate
variable {P : Primitives} {record : SyncRecord} {roster : Roster}
variable (P) in
/-- An active device of a roster. -/
def Roster.Active (roster : Roster) (deviceId : Bytes) : Prop :=
  deviceId ∈ roster.deviceIds P ∧ deviceId ∉ roster.tombstoneIds

theorem active_of_admitRecord {generation : Option Nat}
    (h : admitRecord P record generation roster = none) : roster.Active P record.authorDeviceId := by
  unfold admitRecord at h
  split at h
  · cases h
  split at h
  · cases h
  split at h
  · cases h
  split at h
  · cases h
  rename_i hburied
  split at h
  · cases h
  · rename_i author hauthor
    have hlisted : author.deviceId P = record.authorDeviceId := by
      simpa using List.find?_some hauthor
    exact ⟨hlisted ▸ List.mem_map_of_mem (List.mem_of_find?_eq_some hauthor), hburied⟩

theorem active_of_handoffAdmit (h : coreSyncHandoffAdmit P record roster = none) :
    record.kind = .ownRoster ∧ roster.Active P record.authorDeviceId := by
  unfold coreSyncHandoffAdmit at h
  split at h
  · cases h
  · rename_i hkind
    exact ⟨not_not.mp hkind, active_of_admitRecord h⟩

/-- The record that `core_open_sync_record` gives: it is what was in the envelope, and both
of its signers passed. -/
theorem coreOpenSyncRecord_eq_ok {body : Bytes} {key : InboxKey} :
    coreOpenSyncRecord P body key roster = .ok record ↔
      ∃ opened, openSealedWithAgreeSk P key.agreeSk body = .ok opened ∧
        outerSignerIsOwn P opened.senderUserId roster = true ∧
        coreDecodeSyncRecord opened.payload = .ok record ∧
        coreSyncRecordAdmit P record key.generation roster = none := by
  unfold coreOpenSyncRecord
  simp only [bind_eq_ok, refuseWhen_eq_ok, exists_const, Bool.not_eq_false]
  constructor
  · rintro ⟨opened, hopened, hsigner, decoded, hdecoded, hverdict⟩
    cases hgate : coreSyncRecordAdmit P decoded key.generation roster with
    | none =>
      rw [hgate] at hverdict
      cases hverdict
      exact ⟨opened, hopened, hsigner, hdecoded, hgate⟩
    | some rejection =>
      rw [hgate] at hverdict
      cases hverdict
  · rintro ⟨opened, hopened, hsigner, hdecoded, hgate⟩
    refine ⟨opened, hopened, hsigner, record, hdecoded, ?_⟩
    rw [hgate]
    rfl

variable {root : Bytes}

/-- The record that `core_open_sync_handoff` gives passed under the held roster, or under
the one it carries, and then that one is accepted over the held one. -/
theorem coreOpenSyncHandoff_eq_ok {body sk : Bytes}
    (h : coreOpenSyncHandoff P body sk roster root = .ok record) :
    ∃ opened, openSealedWithAgreeSk P sk body = .ok opened ∧
      coreDecodeSyncRecord opened.payload = .ok record ∧
      (outerSignerIsOwn P opened.senderUserId roster = true ∧
          coreSyncHandoffAdmit P record roster = none ∨
        ∃ payload, coreDecodeSyncOwnRoster record.payload = .ok payload ∧
          (coreRosterAccept P (some roster) false payload.roster root).outcome = .accepted ∧
          outerSignerIsOwn P opened.senderUserId payload.roster = true ∧
          coreSyncHandoffAdmit P record payload.roster = none) := by
  obtain ⟨opened, hopened, h⟩ := bind_eq_ok.mp h
  obtain ⟨decoded, hdecoded, h⟩ := bind_eq_ok.mp h
  split at h
  · rename_i hordinary
    cases h
    exact ⟨opened, hopened, hdecoded, .inl hordinary⟩
  cases hpayload : coreDecodeSyncOwnRoster decoded.payload with
  | error e =>
    rw [hpayload] at h
    cases h
  | ok payload =>
    rw [hpayload] at h
    obtain ⟨_, haccept, h⟩ := bind_eq_ok.mp h
    obtain ⟨_, hsigner, h⟩ := bind_eq_ok.mp h
    rw [refuseWhen_eq_ok] at haccept hsigner
    split at h
    · rename_i hgate
      cases h
      exact ⟨opened, hopened, hdecoded,
        .inr ⟨payload, hpayload, not_not.mp haccept, by simpa using hsigner, hgate⟩⟩
    · cases h

end Gate

/-! ## The three doors -/

section Doors
variable (P : Primitives) (readCard : CardReader) (held : Roster)

/-- The mail was opened, and in it is a record one of whose signers is buried. -/
structure FromRevoked (body agreeSk : Bytes) (opened : OpenedMessage) (record : SyncRecord) : Prop where
  opens : openSealedWithAgreeSk P agreeSk body = .ok opened
  decodes : coreDecodeSyncRecord opened.payload = .ok record
  buried : record.authorDeviceId ∈ held.tombstoneIds ∨ opened.senderUserId ∈ held.tombstoneIds

/-- The held roster is the one the store admits against. -/
def Store.Holds (s : Store) (generation : Nat) : Prop :=
  s.coreOwnSyncContext = .ok (some { roster := held, inboxKeyGeneration := generation })

/-- Only the person's own devices are heard, as the held roster has them. -/
structure OwnDevicesOnly : Prop where
  /-- a record with a buried signer is refused at each of the doors, and nothing is written -/
  revoked : ∀ body agreeSk opened record, FromRevoked P held body agreeSk opened record →
    (∀ generation agreePk r,
      coreOpenSyncRecord P body { generation, agreePk, agreeSk } held ≠ .ok r) ∧
    (∀ root r, coreOpenSyncHandoff P body agreeSk held root ≠ .ok r) ∧
    ∀ s generation nowMs clock, s.Holds held generation →
      (consumeSyncRecord P readCard opened.senderUserId opened.payload nowMs clock).Returns s .refused s
  /-- what is opened has an active author -/
  opened : ∀ body key record, coreOpenSyncRecord P body key held = .ok record →
    held.Active P record.authorDeviceId
  /-- so has a hand-off, or its author is active in the roster it carries, and that one is
  accepted over the held one -/
  handedOff : ∀ body sk root record, coreOpenSyncHandoff P body sk held root = .ok record →
    record.kind = .ownRoster ∧
      (held.Active P record.authorDeviceId ∨
        ∃ payload, coreDecodeSyncOwnRoster record.payload = .ok payload ∧
          (coreRosterAccept P (some held) false payload.roster root).outcome = .accepted ∧
          payload.roster.Active P record.authorDeviceId)
  /-- mail is applied exactly when the record would have been opened -/
  consumed : ∀ body agreeSk agreePk opened s generation nowMs clock,
    openSealedWithAgreeSk P agreeSk body = .ok opened → s.Holds held generation →
      match coreOpenSyncRecord P body { generation, agreePk, agreeSk } held with
      | .ok record =>
        consumeSyncRecord P readCard opened.senderUserId opened.payload nowMs clock s =
          applyConsumed P readCard record nowMs clock s
      | .error _ => ∃ verdict, (verdict = .refused ∨ verdict = .notASyncRecord) ∧
        (consumeSyncRecord P readCard opened.senderUserId opened.payload nowMs clock).Returns s verdict s

variable {P readCard held}
variable (P held) in
/-- The record in some mail, if it is let in, or else what is said of it. -/
def judgeMail (outerSigner payload : Bytes) (generation : Nat) : Except SyncConsumption SyncRecord :=
  match coreDecodeSyncRecord payload with
  | .error _ => .error .notASyncRecord
  | .ok record =>
    if outerSignerIsOwn P outerSigner held = false then .error .refused
    else if (coreSyncRecordAdmit P record generation held).isSome then .error .refused
    else .ok record

variable {outerSigner payload : Bytes} {generation : Nat} {verdict : SyncConsumption} {s : Store}

theorem judgeMail_eq_ok {record : SyncRecord} :
    judgeMail P held outerSigner payload generation = .ok record ↔
      outerSignerIsOwn P outerSigner held = true ∧ coreDecodeSyncRecord payload = .ok record ∧
        coreSyncRecordAdmit P record generation held = none := by
  unfold judgeMail
  cases coreDecodeSyncRecord payload with
  | error e => simp
  | ok decoded =>
    by_cases hsigner : outerSignerIsOwn P outerSigner held = true
    · cases hgate : coreSyncRecordAdmit P decoded generation held with
      | none =>
        simp only [hsigner, Bool.true_eq_false, if_false, hgate, Option.isSome_none, Bool.false_eq_true,
          Except.ok.injEq, true_and]
        exact ⟨fun h => ⟨h, h ▸ hgate⟩, fun h => h.1⟩
      | some rejection =>
        simp only [hsigner, Bool.true_eq_false, if_false, hgate, Option.isSome_some, if_true,
          Except.ok.injEq, true_and, reduceCtorEq, false_iff, not_and]
        rintro rfl hnone
        cases hgate.symm.trans hnone
    · simp [hsigner]

theorem judgeMail_eq_error (h : judgeMail P held outerSigner payload generation = .error verdict) :
    verdict = .refused ∨ verdict = .notASyncRecord := by
  unfold judgeMail at h
  split at h
  · exact .inr (Except.error.inj h).symm
  · split at h
    · exact .inl (Except.error.inj h).symm
    · split at h
      · exact .inl (Except.error.inj h).symm
      · cases h

/-- The inbound path, on a store that holds a roster. -/
theorem consumeSyncRecord_of_holds (h : s.Holds held generation) (outerSigner payload : Bytes)
    (nowMs : Int) (clock : Nat → ClockReading) :
    consumeSyncRecord P readCard outerSigner payload nowMs clock s =
      match judgeMail P held outerSigner payload generation with
      | .error verdict => ([], .ok verdict)
      | .ok record => applyConsumed P readCard record nowMs clock s := by
  show ((liftM s.coreOwnSyncContext : Prog Store CoreError _) >>= _) s = _
  rw [show s.coreOwnSyncContext = .ok (some { roster := held, inboxKeyGeneration := generation }) from h,
    lift_ok_bind]
  unfold judgeMail
  cases coreDecodeSyncRecord payload with
  | error e => rfl
  | ok record =>
    dsimp only
    by_cases hsigner : outerSignerIsOwn P outerSigner held = false
    · rw [if_pos hsigner, if_pos hsigner]
      rfl
    · rw [if_neg hsigner, if_neg hsigner]
      by_cases hgate : (coreSyncRecordAdmit P record generation held).isSome = true
      · rw [if_pos hgate, if_pos hgate]
        rfl
      · rw [if_neg hgate, if_neg hgate]

theorem returns_consume_of_judged (h : s.Holds held generation)
    (hjudged : judgeMail P held outerSigner payload generation = .error verdict) (nowMs : Int)
    (clock : Nat → ClockReading) :
    (consumeSyncRecord P readCard outerSigner payload nowMs clock).Returns s verdict s := by
  have hrun : consumeSyncRecord P readCard outerSigner payload nowMs clock s = _ :=
    consumeSyncRecord_of_holds h outerSigner payload nowMs clock
  rw [hjudged] at hrun
  exact run_eq [] hrun

/-- The mail is let in exactly when the record would have been opened. -/
theorem coreOpenSyncRecord_iff_judged {body : Bytes} {key : InboxKey} {opened : OpenedMessage}
    (hopens : openSealedWithAgreeSk P key.agreeSk body = .ok opened) {record : SyncRecord} :
    coreOpenSyncRecord P body key held = .ok record ↔
      judgeMail P held opened.senderUserId opened.payload key.generation = .ok record := by
  rw [coreOpenSyncRecord_eq_ok, judgeMail_eq_ok]
  constructor
  · rintro ⟨other, hother, hpassed⟩
    obtain rfl : other = opened := Except.ok.inj (hother.symm.trans hopens)
    exact hpassed
  · exact fun hpassed => ⟨opened, hopens, hpassed⟩

namespace FromRevoked
variable {body agreeSk : Bytes} {opened : OpenedMessage} {record : SyncRecord}
  (h : FromRevoked P held body agreeSk opened record)
include h

/-- Under a roster that has the burials, one of the two signers fails. -/
theorem not_heard {roster : Roster} (hburials : ∀ id ∈ held.tombstoneIds, id ∈ roster.tombstoneIds)
    (hsigner : outerSignerIsOwn P opened.senderUserId roster = true) :
    record.authorDeviceId ∈ roster.tombstoneIds := by
  rcases h.buried with hauthor | hburied
  · exact hburials _ hauthor
  · rw [outerSignerIsOwn, if_pos (hburials _ hburied)] at hsigner
    cases hsigner

theorem not_judged (generation : Nat) (r : SyncRecord) :
    judgeMail P held opened.senderUserId opened.payload generation ≠ .ok r := by
  intro hjudged
  obtain ⟨hsigner, hdecoded, hgate⟩ := judgeMail_eq_ok.mp hjudged
  obtain rfl : r = record := Except.ok.inj (hdecoded.symm.trans h.decodes)
  exact (active_of_admitRecord hgate).2 (h.not_heard (fun _ hid => hid) hsigner)

theorem not_handedOff (root : Bytes) (r : SyncRecord) :
    coreOpenSyncHandoff P body agreeSk held root ≠ .ok r := by
  intro hopen
  obtain ⟨other, hother, hdecoded, hpassed⟩ := coreOpenSyncHandoff_eq_ok hopen
  obtain rfl : other = opened := Except.ok.inj (hother.symm.trans h.opens)
  obtain rfl : r = record := Except.ok.inj (hdecoded.symm.trans h.decodes)
  rcases hpassed with ⟨hsigner, hgate⟩ | ⟨payload, _, haccepted, hsigner, hgate⟩
  · exact (active_of_handoffAdmit hgate).2.2 (h.not_heard (fun _ hid => hid) hsigner)
  · have hover := (coreRosterAccept_accepted_iff.mp haccepted).2.2 _ rfl
    exact (active_of_handoffAdmit hgate).2.2
      (h.not_heard (fun id hid => (hover.buried id hid).1) hsigner)

/-- It is the record that is refused; it was one. -/
theorem judged_refused (generation : Nat) :
    judgeMail P held opened.senderUserId opened.payload generation = .error .refused := by
  have hno := h.not_judged generation
  unfold judgeMail at hno ⊢
  rw [h.decodes] at hno ⊢
  dsimp only at hno ⊢
  split
  · rfl
  · rename_i hsigner
    rw [if_neg hsigner] at hno
    split
    · rfl
    · rename_i hgate
      rw [if_neg hgate] at hno
      exact absurd rfl (hno record)

end FromRevoked

variable (P readCard held) in
/-- **Self-sync hears only devices that the held roster lists and has not buried.** -/
theorem own_devices_only : OwnDevicesOnly P readCard held := by
  refine ⟨fun body agreeSk opened record hfrom => ⟨fun generation agreePk r hopen => ?_,
    hfrom.not_handedOff, fun s generation nowMs clock hholds => ?_⟩, fun body key record hopen => ?_,
    fun body sk root record hopen => ?_,
    fun body agreeSk agreePk opened s generation nowMs clock hopens hholds => ?_⟩
  · exact hfrom.not_judged generation r ((coreOpenSyncRecord_iff_judged hfrom.opens).mp hopen)
  · exact returns_consume_of_judged hholds (hfrom.judged_refused generation) nowMs clock
  · obtain ⟨_, _, _, _, hgate⟩ := coreOpenSyncRecord_eq_ok.mp hopen
    exact active_of_admitRecord hgate
  · obtain ⟨_, _, _, hpassed⟩ := coreOpenSyncHandoff_eq_ok hopen
    rcases hpassed with ⟨_, hgate⟩ | ⟨payload, hpayload, haccepted, _, hgate⟩
    · obtain ⟨hkind, hactive⟩ := active_of_handoffAdmit hgate
      exact ⟨hkind, .inl hactive⟩
    · obtain ⟨hkind, hactive⟩ := active_of_handoffAdmit hgate
      exact ⟨hkind, .inr ⟨payload, hpayload, haccepted, hactive⟩⟩
  · have hopens' : openSealedWithAgreeSk P (InboxKey.mk generation agreePk agreeSk).agreeSk body =
        .ok opened := hopens
    have hiff : ∀ r, coreOpenSyncRecord P body { generation, agreePk, agreeSk } held = .ok r ↔
        judgeMail P held opened.senderUserId opened.payload generation = .ok r :=
      fun r => coreOpenSyncRecord_iff_judged hopens'
    cases hopen : coreOpenSyncRecord P body { generation, agreePk, agreeSk } held with
    | ok record =>
      rw [consumeSyncRecord_of_holds hholds, (hiff record).mp hopen]
    | error e =>
      cases hjudged : judgeMail P held opened.senderUserId opened.payload generation with
      | ok r => cases hopen.symm.trans ((hiff r).mpr hjudged)
      | error verdict =>
        exact ⟨verdict, judgeMail_eq_error hjudged,
          returns_consume_of_judged hholds hjudged nowMs clock⟩

end Doors

namespace Sample

/-- A record of the second device, after it was revoked. -/
def buriedRecord : SyncRecord :=
  SyncRecord.signedBy primitives
    { kind := .settings, personId := person, authorDeviceId := []
      rosterVersion := revokedRoster.version, inboxKeyGeneration := 1, streamSeq := 1
      timestampMs := 5, payload := [], signature := [] } (secretKey 3)

def buriedDevice : Identity where
  userId := primitives.deriveUserId otherDeviceKey
  signPk := otherDeviceKey
  signSk := secretKey 3
  agreePk := agreeKey (secretKey 8)
  agreeSk := secretKey 8

/-- The device has kept the inbox key, and seals to it. -/
def buriedMail : Bytes :=
  ((coreSealSyncRecord primitives buriedRecord buriedDevice
    (coreMintInboxKey primitives 1 (secretKey 6))
    ⟨secretKey 10, List.replicate nonceLen 0, length_zeroNonce⟩).toOption.map (·.body)).getD []

/-- The first device, which holds the roster of the revocation. -/
def revokingStore : Store where
  ownSyncContext := some
    { roster := (coreEncodeRoster revokedRoster).toOption.getD [], recoveryEpoch := 0, seq := 2
      inboxKeyGeneration := 1 }

end Sample

open Sample in
/-- A record that the revoked device seals to the inbox key is refused where it arrives. -/
theorem own_devices_only_revoked : ∃ opened,
    FromRevoked primitives Sample.revokedRoster buriedMail (secretKey 6) opened buriedRecord ∧
    revokingStore.Holds Sample.revokedRoster 1 ∧
    ∀ readCard nowMs clock, (consumeSyncRecord primitives readCard opened.senderUserId
      opened.payload nowMs clock).Returns revokingStore .refused revokingStore := by
  have hholds : revokingStore.Holds Sample.revokedRoster 1 := by
    unfold Store.Holds
    decide +kernel
  have hburied : buriedRecord.authorDeviceId ∈ Sample.revokedRoster.tombstoneIds := by
    decide +kernel
  have hdecodes : (openSealedWithAgreeSk primitives (secretKey 6) buriedMail).toOption.map
      (fun opened => coreDecodeSyncRecord opened.payload) = some (.ok buriedRecord) := by
    decide +kernel
  cases hopens : openSealedWithAgreeSk primitives (secretKey 6) buriedMail with
  | error e =>
    rw [hopens] at hdecodes
    cases hdecodes
  | ok opened =>
    rw [hopens] at hdecodes
    have hfrom : FromRevoked primitives Sample.revokedRoster buriedMail (secretKey 6) opened
        buriedRecord := ⟨hopens, Option.some.inj hdecodes, .inl hburied⟩
    refine ⟨opened, hfrom, hholds, fun readCard nowMs clock => ?_⟩
    have hdoors := (own_devices_only primitives readCard Sample.revokedRoster).revoked _ _ _ _ hfrom
    exact hdoors.2.2 _ _ nowMs clock hholds

end CruiseMesh
