import CruiseMesh.Roster.Accept
import CruiseMesh.Roster.Builders

/-!
# Rosters a person's own devices make

The rosters one person ever publishes: a genesis, and then any sequence of links,
recoveries and revocations, each built from the one before. What makes every one of
them acceptable to the contacts is a fact about who signed which certificate: the
person root did, or the device that approves now (`SignedByAuthorities`). With it the
approving device's own certificate is always the root's (`root_signs_approver`), so a
revocation leaves no orphan behind and creates no circle.

A contact that missed the roster which opened the current recovery epoch does not
accept the approving device's later ones: raising the epoch takes the root's signature
on the very document that raises it. Within an epoch, or with that signature, every
later roster supersedes every earlier one.
-/

namespace CruiseMesh
open List

/-- Every certificate is signed by the person root or by the approving device. -/
def SignedByAuthorities (P : Primitives) (root : Bytes) (roster : Roster) : Prop :=
  ∀ cert ∈ roster.devices, cert.signerSignPk = root ∨
    ∃ approver ∈ roster.devices, approver.deviceId P = roster.approvingDeviceId ∧
      approver.deviceSignPk = cert.signerSignPk

section Authorities
variable {P : Primitives} {root : Bytes} {roster : Roster}

/-- Where ids do not repeat, a device has one certificate. -/
theorem ValidRoster.cert_unique (h : ValidRoster P roster root) {a b : DeviceCert}
    (ha : a ∈ roster.devices) (hb : b ∈ roster.devices) (hid : a.deviceId P = b.deviceId P) :
    a = b :=
  inj_on_of_nodup_map h.devices_nodup ha hb hid

/-- The approving device's certificate is the root's: were it signed by the approving
device, the chain from it would lead back to itself for ever. -/
theorem root_signs_approver (h : ValidRoster P roster root)
    (hsigned : SignedByAuthorities P root roster) {cert : DeviceCert} (hcert : cert ∈ roster.devices)
    (hid : cert.deviceId P = roster.approvingDeviceId) : cert.signerSignPk = root := by
  have hchain := h.chain cert hcert
  induction hchain with
  | root _ hsigner => exact hsigner
  | @link cert signer hmem hsigner hlink ih =>
    rcases hsigned cert hmem with hroot | ⟨approver, happrover, happroverId, hkey⟩
    · exact hroot
    -- the signer is the approving device, and so this very certificate
    have hsignerId : signer.deviceId P = roster.approvingDeviceId := by
      rw [hlink, ← hkey, ← happroverId]
      rfl
    have hsame : signer = cert :=
      h.cert_unique hsigner.mem hmem (hsignerId.trans hid.symm)
    rw [← hsame]
    exact ih hsigner.mem hsignerId

/-- A device count that cannot have wrapped around is within the hard cap. -/
theorem ValidRoster.devices_le (h : ValidRoster P roster root)
    (hlt : roster.devices.length < 2 ^ 32) : roster.devices.length ≤ deviceHardCap := by
  by_contra hmore
  refine h.cap ?_
  unfold Roster.deviceCountOutcome coreDeviceAddOutcome
  rw [Nat.mod_eq_of_lt hlt, if_pos (by omega)]

end Authorities

/-! ## The sequence -/

/-- None of the document's counters is at the end of its range. -/
structure CountersBelowMax (roster : Roster) : Prop where
  recoveryEpoch : roster.recoveryEpoch < u64Max
  seq : roster.seq < u64Max
  generation : roster.inboxKeyGeneration < u64Max

/-- One successful builder call on the current roster. -/
inductive BuilderStep (P : Primitives) (rootSk : Bytes) (current : Roster) : Roster → Prop
  | link {sk signPk agreePk update} :
      coreLinkSignNewDeviceRoster P current (P.verifyingKey rootSk) sk signPk agreePk = .ok update →
      BuilderStep P rootSk current update.roster
  | revoke {sk ids key fresh update} :
      coreRevokeDevicesRoster P current (P.verifyingKey rootSk) sk ids key fresh = .ok update →
      BuilderStep P rootSk current update.roster
  | recover {signPk agreePk next} :
      coreLinkRecoveryRoster P (some current) rootSk signPk agreePk = .ok next →
      BuilderStep P rootSk current next
  | recoveryRevoke {signPk agreePk ids key fresh update} :
      coreRecoveryRevokeRoster P current rootSk signPk agreePk ids key fresh = .ok update →
      BuilderStep P rootSk current update.roster

/-- The rosters of one person in the order they were made, the newest first. -/
inductive Authored (P : Primitives) (rootSk : Bytes) : List Roster → Prop
  | genesis {signPk agreePk roster} :
      coreLinkGenesisRoster P rootSk signPk agreePk = .ok roster → Authored P rootSk [roster]
  | step {next current earlier} : Authored P rootSk (current :: earlier) →
      CountersBelowMax current → BuilderStep P rootSk current next →
      Authored P rootSk (next :: current :: earlier)

/-- What holds of every roster of the sequence. -/
structure AuthoredRoster (P : Primitives) (root : Bytes) (roster : Roster) : Prop where
  valid : ValidRoster P roster root
  signed : SignedByAuthorities P root roster
  few : roster.devices.length ≤ deviceHardCap

/-- What holds between a roster of the sequence and a later one. -/
structure Precedes (earlier later : Roster) : Prop where
  version : earlier.version < later.version
  buried : ∀ id ∈ earlier.tombstoneIds, id ∈ later.tombstoneIds
  generation : earlier.inboxKeyGeneration ≤ later.inboxKeyGeneration

theorem Precedes.trans {a b c : Roster} (hab : Precedes a b) (hbc : Precedes b c) :
    Precedes a c :=
  ⟨hab.version.trans hbc.version, fun id hid => hbc.buried id (hab.buried id hid),
    hab.generation.trans hbc.generation⟩

/-! ## What each builder does -/

section Builders
variable {P : Primitives} {rootSk : Bytes} {current next : Roster}
  {signPk agreePk sk : Bytes} {ids : List Bytes} {key : InboxKey} {fresh : Bytes}
  {update : RevocationUpdate} {certs out : List DeviceCert}

theorem genesis_authored (h : coreLinkGenesisRoster P rootSk signPk agreePk = .ok next) :
    AuthoredRoster P (P.verifyingKey rootSk) next := by
  simp only [coreLinkGenesisRoster, bind_eq_ok, publicOf_eq_ok, coreSignRoster_eq_ok,
    validated_eq_ok] at h
  obtain ⟨_, ⟨_, rfl⟩, cert, hcert, _, ⟨_, rfl⟩, hvalid, rfl⟩ := h
  refine ⟨hvalid, ?_, by simp [deviceHardCap]⟩
  intro c hc
  obtain rfl : c = cert := by simpa using hc
  exact .inl (by rw [signCert_eq_ok hcert]; rfl)

theorem link_authored {update : LinkRosterUpdate}
    (hcur : AuthoredRoster P (P.verifyingKey rootSk) current) (hmax : CountersBelowMax current)
    (h : coreLinkSignNewDeviceRoster P current (P.verifyingKey rootSk) sk signPk agreePk =
      .ok update) :
    AuthoredRoster P (P.verifyingKey rootSk) update.roster ∧ Precedes current update.roster := by
  simp only [coreLinkSignNewDeviceRoster, bind_eq_ok, publicOf_eq_ok, coreSignRoster_eq_ok,
    validated_eq_ok, requireValid_eq_ok, refuseWhen_eq_ok, pure, Except.pure, Except.ok.injEq] at h
  obtain ⟨_, _, _, ⟨_, rfl⟩, _, _, cert, hcert, _, _, _, _, _, _, _, ⟨_, rfl⟩, _,
    ⟨hvalid, rfl⟩, rfl⟩ := h
  have hfew := hcur.few
  have hsigner : cert.signerSignPk = P.verifyingKey sk := by rw [signCert_eq_ok hcert]; rfl
  refine ⟨⟨hvalid, ?_, ?_⟩, ⟨?_, ?_, Nat.le_refl _⟩⟩
  · -- the new certificate's signer is the document's own, which validation has checked
    intro c hc
    rcases mem_append.mp hc with hold | hnew
    · rcases hcur.signed c hold with hroot | ⟨approver, hmem, hid, hkey⟩
      · exact .inl hroot
      · exact .inr ⟨approver, mem_append_left _ hmem, hid, hkey⟩
    · obtain rfl := mem_singleton.mp hnew
      rw [hsigner]
      exact hvalid.signer
  · refine hvalid.devices_le ?_
    simp only [signedBy_devices, length_append, length_singleton]
    unfold deviceHardCap at hfew
    omega
  · refine RosterVersion.lt_iff.mpr (.inr ⟨rfl, ?_⟩)
    rw [saturatingSucc_of_lt hmax.seq]
    exact Nat.lt_succ_self _
  · exact fun id hid => hid

theorem recover_authored (hmax : CountersBelowMax current)
    (h : coreLinkRecoveryRoster P (some current) rootSk signPk agreePk = .ok next) :
    AuthoredRoster P (P.verifyingKey rootSk) next ∧ Precedes current next := by
  simp only [coreLinkRecoveryRoster, bind_eq_ok, publicOf_eq_ok, coreSignRoster_eq_ok,
    validated_eq_ok, refuseWhen_eq_ok] at h
  obtain ⟨_, ⟨_, rfl⟩, _, _, cert, hcert, _, _, _, ⟨_, rfl⟩, hvalid, rfl⟩ := h
  refine ⟨⟨hvalid, ?_, by simp [deviceHardCap]⟩, ⟨?_, fun id hid => hid, ?_⟩⟩
  · intro c hc
    obtain rfl : c = cert := by simpa using hc
    exact .inl (by rw [signCert_eq_ok hcert]; rfl)
  · refine RosterVersion.lt_iff.mpr (.inl ?_)
    rw [saturatingSucc_of_lt hmax.recoveryEpoch]
    exact Nat.lt_succ_self _
  · rw [saturatingSucc_of_lt hmax.generation]
    exact Nat.le_succ _

/-- A certificate as the approving device's revocation leaves it. -/
def resigned (P : Primitives) (buriedKeys : List Bytes) (signSk : Bytes) (cert : DeviceCert) :
    DeviceCert :=
  if cert.signerSignPk ∈ buriedKeys then
    DeviceCert.signedBy P { cert with signerSignPk := [], signature := [] } signSk
  else cert

theorem resigned_deviceSignPk (buriedKeys : List Bytes) (signSk : Bytes) (cert : DeviceCert) :
    (resigned P buriedKeys signSk cert).deviceSignPk = cert.deviceSignPk := by
  unfold resigned
  split
  · rfl
  · rfl

theorem mapM_resignOrphan {buriedKeys : List Bytes} {signSk : Bytes} (hlen : signSk.length = keyLen)
    (certs : List DeviceCert) :
    certs.mapM (resignOrphan P buriedKeys signSk) =
      .ok (certs.map (resigned P buriedKeys signSk)) := by
  refine mapM_eq_ok fun cert _ => ?_
  unfold resignOrphan resigned
  split
  · exact coreSignDeviceCert_eq_ok.mpr ⟨hlen, rfl⟩
  · rfl

/-- The roster a revocation signs, given what it computed on the way. -/
def revokedRoster (P : Primitives) (current : Roster) (sk : Bytes) (revoked : List Bytes)
    (generation : Nat) : Roster :=
  Roster.signedBy P
    { current with
      seq := current.seq + 1
      devices := (current.devices.filter fun cert => cert.deviceId P ∉ revoked).map
        (resigned P ((current.devices.filter fun cert => cert.deviceId P ∈ revoked).map
          (·.deviceSignPk)) sk)
      tombstones := current.tombstones ++ revoked.map fun deviceId => ⟨deviceId, current.seq + 1⟩
      inboxKeyGeneration := generation, signerSignPk := [], signature := [] } sk

theorem revoke_eq_ok_iff {root : Bytes} :
    coreRevokeDevicesRoster P current root sk ids key fresh = .ok update ↔
      ValidRoster P current root ∧ sk.length = keyLen ∧
      P.deriveUserId (P.verifyingKey sk) = current.approvingDeviceId ∧
      ∃ revoked, normalizeRevoked P current ids = .ok revoked ∧
        P.deriveUserId (P.verifyingKey sk) ∉ revoked ∧
        (current.devices.filter fun cert => cert.deviceId P ∉ revoked) ≠ [] ∧
        current.seq < u64Max ∧ key.generation = current.inboxKeyGeneration ∧
        ValidRoster P (revokedRoster P current sk revoked (saturatingSucc key.generation)) root ∧
        update =
          { rosterHead := rosterHeadHash P
              (revokedRoster P current sk revoked (saturatingSucc key.generation))
            roster := revokedRoster P current sk revoked (saturatingSucc key.generation)
            revokedDeviceIds := revoked
            inboxKey := coreRotateInboxKey P key fresh
            path := .approvingDevice } := by
  simp only [coreRevokeDevicesRoster, bind_eq_ok, publicOf_eq_ok, coreSignRoster_eq_ok,
    validated_eq_ok, requireValid_eq_ok, refuseWhen_eq_ok, nextVersionComponent_eq_ok,
    rotatedKey_eq_ok, pure, Except.pure, Except.ok.injEq, not_not]
  constructor
  · rintro ⟨_, hcur, _, ⟨hlen, hpk⟩, _, hrole, revoked, hrevoked, _, hself, _, hne, _,
      ⟨hseq, hnext⟩, devices, hdevices, _, ⟨hgen, hkey⟩, _, ⟨_, hroster⟩, _, ⟨hvalid, hsame⟩, hout⟩
    subst hpk hnext hkey
    rw [mapM_resignOrphan hlen] at hdevices
    cases hdevices
    subst hroster hsame
    exact ⟨hcur, hlen, hrole, revoked, hrevoked, hself, hne, hseq, hgen, hvalid, hout.symm⟩
  · rintro ⟨hcur, hlen, hrole, revoked, hrevoked, hself, hne, hseq, hgen, hvalid, hout⟩
    exact ⟨(), hcur, _, ⟨hlen, rfl⟩, (), hrole, revoked, hrevoked, (), hself, (), hne, _,
      ⟨hseq, rfl⟩, _, mapM_resignOrphan hlen _, _, ⟨hgen, rfl⟩, _, ⟨hlen, rfl⟩, _,
      ⟨hvalid, rfl⟩, hout.symm⟩

theorem revoke_authored (hcur : AuthoredRoster P (P.verifyingKey rootSk) current)
    (hmax : CountersBelowMax current)
    (h : coreRevokeDevicesRoster P current (P.verifyingKey rootSk) sk ids key fresh = .ok update) :
    AuthoredRoster P (P.verifyingKey rootSk) update.roster ∧ Precedes current update.roster := by
  obtain ⟨_, _, hrole, revoked, _, hself, _, _, hgen, hvalid, rfl⟩ := revoke_eq_ok_iff.mp h
  refine ⟨⟨hvalid, ?_, ?_⟩, ⟨?_, ?_, ?_⟩⟩
  · intro c hc
    obtain ⟨old, hold, rfl⟩ := mem_map.mp hc
    by_cases horphan : old.signerSignPk ∈ (current.devices.filter fun cert =>
        cert.deviceId P ∈ revoked).map (·.deviceSignPk)
    · -- a re-signed orphan: its signer is the document's own
      have hsigner : (resigned P ((current.devices.filter fun cert =>
          cert.deviceId P ∈ revoked).map (·.deviceSignPk)) sk old).signerSignPk =
          P.verifyingKey sk := by
        unfold resigned
        rw [if_pos horphan]
        rfl
      rw [hsigner]
      exact hvalid.signer
    · -- a kept certificate: its signer is the root or the approving device, which stays
      have hkept : resigned P ((current.devices.filter fun cert =>
          cert.deviceId P ∈ revoked).map (·.deviceSignPk)) sk old = old := if_neg horphan
      rw [hkept]
      rcases hcur.signed old (mem_filter.mp hold).1 with hroot | ⟨approver, hmem, hid, hkey⟩
      · exact .inl hroot
      have hstays : approver ∈ current.devices.filter fun cert => cert.deviceId P ∉ revoked := by
        refine mem_filter.mpr ⟨hmem, ?_⟩
        rw [hid, ← hrole]
        exact decide_eq_true hself
      refine .inr ⟨_, mem_map_of_mem hstays, ?_, ?_⟩
      · unfold DeviceCert.deviceId
        rw [resigned_deviceSignPk]
        exact hid
      · rw [resigned_deviceSignPk]
        exact hkey
  · have hle : (revokedRoster P current sk revoked (saturatingSucc key.generation)).devices.length ≤
        current.devices.length := by
      simp only [revokedRoster, signedBy_devices, length_map]
      exact length_filter_le _ _
    exact hle.trans hcur.few
  · exact RosterVersion.lt_iff.mpr (.inr ⟨rfl, Nat.lt_succ_self _⟩)
  · intro id hid
    obtain ⟨tombstone, hmem, rfl⟩ := mem_map.mp hid
    exact mem_map_of_mem (mem_append_left _ hmem)
  · rw [hgen, saturatingSucc_of_lt hmax.generation]
    exact Nat.le_succ _

theorem mapM_recertify {recovering : Bytes}
    (h : certs.mapM (recertify P rootSk recovering) = .ok out) :
    out.length = certs.length ∧ ∀ cert ∈ out, cert.signerSignPk = P.verifyingKey rootSk := by
  induction certs generalizing out with
  | nil =>
    cases h
    simp
  | cons cert rest ih =>
    simp only [mapM_cons, bind_eq_ok, pure, Except.pure, Except.ok.injEq] at h
    obtain ⟨c, hc, cs, hcs, rfl⟩ := h
    obtain ⟨hlen, hall⟩ := ih hcs
    obtain ⟨_, rfl⟩ := coreSignDeviceCert_eq_ok.mp hc
    refine ⟨by simp [hlen], ?_⟩
    intro c' hc'
    rcases mem_cons.mp hc' with rfl | hrest
    · rfl
    · exact hall c' hrest

theorem addRecovering_eq_ok {personId : Bytes} {epoch : Nat}
    (h : addRecovering P rootSk personId signPk agreePk epoch certs = .ok out) :
    out.length ≤ certs.length + 1 ∧
      ∀ cert ∈ out, cert ∈ certs ∨ cert.signerSignPk = P.verifyingKey rootSk := by
  unfold addRecovering at h
  split at h
  · cases h
    exact ⟨Nat.le_succ _, fun cert hcert => .inl hcert⟩
  simp only [bind_eq_ok, coreSignDeviceCert_eq_ok, pure, Except.pure, Except.ok.injEq] at h
  obtain ⟨cert, ⟨_, rfl⟩, rfl⟩ := h
  refine ⟨by simp, ?_⟩
  intro c hc
  rcases mem_append.mp hc with hold | hnew
  · exact .inl hold
  · rw [mem_singleton.mp hnew]
    exact .inr rfl

theorem recoveryRevoke_authored {key : Option InboxKey}
    (hcur : AuthoredRoster P (P.verifyingKey rootSk) current) (hmax : CountersBelowMax current)
    (h : coreRecoveryRevokeRoster P current rootSk signPk agreePk ids key fresh = .ok update) :
    AuthoredRoster P (P.verifyingKey rootSk) update.roster ∧ Precedes current update.roster := by
  simp only [coreRecoveryRevokeRoster, bind_eq_ok, publicOf_eq_ok, coreSignRoster_eq_ok,
    validated_eq_ok, requireValid_eq_ok, refuseWhen_eq_ok, nextVersionComponent_eq_ok,
    pure, Except.pure, Except.ok.injEq] at h
  obtain ⟨_, ⟨_, rfl⟩, _, _, _, _, revoked, _, _, _, _, ⟨_, rfl⟩, survivors, hsurvivors, devices,
    hdevices, inboxKey, hkey, _, ⟨_, rfl⟩, _, ⟨hvalid, rfl⟩, rfl⟩ := h
  obtain ⟨hlen, hsigned⟩ := mapM_recertify hsurvivors
  obtain ⟨hlen', hsigned'⟩ := addRecovering_eq_ok hdevices
  have hgen : current.inboxKeyGeneration ≤ inboxKey.generation := by
    cases key with
    | none =>
      cases hkey
      rw [saturatingSucc_of_lt hmax.generation]
      exact Nat.le_succ _
    | some key =>
      obtain ⟨hsame, rfl⟩ := rotatedKey_eq_ok.mp hkey
      show _ ≤ saturatingSucc key.generation
      rw [hsame, saturatingSucc_of_lt hmax.generation]
      exact Nat.le_succ _
  refine ⟨⟨hvalid, ?_, ?_⟩, ⟨?_, ?_, hgen⟩⟩
  · intro c hc
    rcases hsigned' c hc with hold | hroot
    · exact .inl (hsigned c hold)
    · exact .inl hroot
  · refine hvalid.devices_le ?_
    have hfew := hcur.few
    have hfilter := length_filter_le (fun cert => decide (cert.deviceId P ∉ revoked))
      current.devices
    unfold deviceHardCap at hfew
    simp only [signedBy_devices]
    omega
  · exact RosterVersion.lt_iff.mpr (.inl (Nat.lt_succ_self _))
  · intro id hid
    obtain ⟨tombstone, hmem, rfl⟩ := mem_map.mp hid
    exact mem_map_of_mem (mem_append_left _ hmem)

/-- **One builder call keeps the invariant and moves forward.** -/
theorem builderStep_authored (hcur : AuthoredRoster P (P.verifyingKey rootSk) current)
    (hmax : CountersBelowMax current) (h : BuilderStep P rootSk current next) :
    AuthoredRoster P (P.verifyingKey rootSk) next ∧ Precedes current next := by
  cases h with
  | link h => exact link_authored hcur hmax h
  | revoke h => exact revoke_authored hcur hmax h
  | recover h => exact recover_authored hmax h
  | recoveryRevoke h => exact recoveryRevoke_authored hcur hmax h

end Builders

/-! ## Every roster is acceptable -/

section Sequence
variable {P : Primitives} {rootSk : Bytes} {roster : Roster} {earlier : List Roster}

/-- Over a whole sequence: every roster has the invariant, and follows all before it. -/
theorem authored_sequence {rosters : List Roster} (h : Authored P rootSk rosters) :
    ∀ roster earlier, rosters = roster :: earlier →
      AuthoredRoster P (P.verifyingKey rootSk) roster ∧
      ∀ held ∈ earlier, AuthoredRoster P (P.verifyingKey rootSk) held ∧ Precedes held roster := by
  induction h with
  | genesis hgenesis =>
    intro roster earlier heq
    obtain ⟨rfl, rfl⟩ := List.cons.inj heq
    exact ⟨genesis_authored hgenesis, by simp⟩
  | @step next current before hbefore hmax hstep ih =>
    intro roster earlier heq
    obtain ⟨rfl, rfl⟩ := List.cons.inj heq
    obtain ⟨hcur, hall⟩ := ih current before rfl
    obtain ⟨hnext, hprec⟩ := builderStep_authored hcur hmax hstep
    refine ⟨hnext, ?_⟩
    intro held hheld
    rcases mem_cons.mp hheld with rfl | hold
    · exact ⟨hcur, hprec⟩
    · obtain ⟨hauth, hprec'⟩ := hall held hold
      exact ⟨hauth, hprec'.trans hprec⟩

variable {sk : Bytes} {revoked : List Bytes} {approver : DeviceCert}

/-- The certificates left after such a revocation still lead to the root, in one step
or through the approving device. -/
theorem vouched_survivors (h : AuthoredRoster P (P.verifyingKey rootSk) roster)
    {devices : List DeviceCert} (hsub : ∀ cert ∈ devices, cert ∈ roster.devices)
    (hmem : approver ∈ devices) (hid : approver.deviceId P = roster.approvingDeviceId) :
    ∀ cert ∈ devices, Vouched P (P.verifyingKey rootSk) devices cert := by
  have happrover : Vouched P (P.verifyingKey rootSk) devices approver :=
    .root hmem (root_signs_approver h.valid h.signed (hsub approver hmem) hid)
  intro cert hcert
  rcases h.signed cert (hsub cert hcert) with hroot | ⟨other, hother, hotherId, hkey⟩
  · exact .root hcert hroot
  · obtain rfl : other = approver :=
      h.valid.cert_unique hother (hsub approver hmem) (hotherId.trans hid.symm)
    exact .link hcert happrover (by rw [← hkey]; rfl)

theorem deviceCountOutcome_ne_refused (h : roster.devices.length ≤ deviceHardCap) :
    roster.deviceCountOutcome ≠ .refused := by
  unfold Roster.deviceCountOutcome coreDeviceAddOutcome
  have hlt : roster.devices.length < 2 ^ 32 := lt_of_le_of_lt h (by decide)
  rw [Nat.mod_eq_of_lt hlt, if_neg (by omega)]
  split
  · decide
  · decide

/-- The document such a revocation makes is valid. -/
theorem revokedRoster_valid (h : AuthoredRoster P (P.verifyingKey rootSk) roster) {generation : Nat}
    (hrevoked : revoked.Nodup) (hactive : ∀ id ∈ revoked, id ∈ roster.deviceIds P)
    (happrover : roster.approvingDeviceId ∉ revoked)
    (hspared : ∀ cert ∈ roster.devices, cert.deviceId P ∈ revoked →
      cert.deviceSignPk ≠ P.verifyingKey rootSk) (hmem : approver ∈ roster.devices)
    (hid : approver.deviceId P = roster.approvingDeviceId)
    (hkey : approver.deviceSignPk = P.verifyingKey sk) :
    ValidRoster P (revokedRoster P roster sk revoked generation) (P.verifyingKey rootSk) := by
  have hvalid := h.valid
  have hdevices : (revokedRoster P roster sk revoked generation).devices =
      roster.devices.filter fun cert => cert.deviceId P ∉ revoked := by
    unfold revokedRoster
    rw [signedBy_devices]
    conv_rhs => rw [← map_id (roster.devices.filter fun cert => cert.deviceId P ∉ revoked)]
    refine map_congr_left fun cert hcert => ?_
    -- a revocation that spares the approving device and the root's own key re-signs nothing: what
    -- survives was signed by the root or by the approving device
    refine if_neg ?_
    intro horphan
    obtain ⟨buried, hburied, hkey⟩ := mem_map.mp horphan
    obtain ⟨hmem, hrevoked⟩ := mem_filter.mp hburied
    have hrevoked : buried.deviceId P ∈ revoked := of_decide_eq_true hrevoked
    rcases h.signed cert (mem_filter.mp hcert).1 with hroot | ⟨approver, _, hid, hsigner⟩
    · exact hspared buried hmem hrevoked (hkey.trans hroot)
    · -- a buried device with the approving device's key would be the approving device
      have hsame : buried.deviceId P = roster.approvingDeviceId := by
        rw [← hid]
        unfold DeviceCert.deviceId
        rw [hkey, hsigner]
      exact happrover (hsame ▸ hrevoked)
  have hsub : ∀ cert ∈ (revokedRoster P roster sk revoked generation).devices,
      cert ∈ roster.devices ∧ cert.deviceId P ∉ revoked := by
    intro cert hcert
    rw [hdevices] at hcert
    obtain ⟨hcert, hkept⟩ := mem_filter.mp hcert
    exact ⟨hcert, of_decide_eq_true hkept⟩
  have happrover : approver ∈ (revokedRoster P roster sk revoked generation).devices := by
    rw [hdevices]
    exact mem_filter.mpr ⟨hmem, decide_eq_true (hid ▸ happrover)⟩
  have hids : ∀ id ∈ (revokedRoster P roster sk revoked generation).deviceIds P,
      id ∈ roster.deviceIds P ∧ id ∉ revoked := by
    intro id hid
    obtain ⟨cert, hcert, rfl⟩ := mem_map.mp hid
    exact ⟨mem_map_of_mem (hsub cert hcert).1, (hsub cert hcert).2⟩
  have htombs : (revokedRoster P roster sk revoked generation).tombstoneIds =
      roster.tombstoneIds ++ revoked := by
    simp [revokedRoster, Roster.tombstoneIds, Function.comp_def]
  have hlisted : ∀ id ∈ roster.tombstoneIds, id.length = deviceIdLen ∧ id ∉ roster.deviceIds P := by
    intro id hid
    obtain ⟨tombstone, htomb, rfl⟩ := mem_map.mp hid
    exact hvalid.tombstones tombstone htomb
  obtain ⟨hrootLen, hpersonLen, happroverLen, _, _⟩ := hvalid.widths
  refine
    { widths := ⟨hrootLen, hpersonLen, happroverLen, P.verifyingKey_length _, P.sign_length _ _⟩
      person := hvalid.person
      cap := deviceCountOutcome_ne_refused ?_
      certs := fun cert hcert => hvalid.certs cert (hsub cert hcert).1
      devices_nodup := ?_
      tombstones := ?_
      tombstones_nodup := ?_
      approver := mem_map.mpr ⟨approver, happrover, hid⟩
      role := fun cert hcert => hvalid.role cert (hsub cert hcert).1
      certSignatures := fun cert hcert => hvalid.certSignatures cert (hsub cert hcert).1
      chain := vouched_survivors h (fun cert hcert => (hsub cert hcert).1) happrover hid
      signer := .inr ⟨approver, happrover, hid, hkey⟩
      genesis := fun hzero => absurd hzero (Nat.succ_ne_zero _)
      signature := P.verifyRaw_sign sk _ }
  · rw [hdevices]
    exact (length_filter_le _ _).trans h.few
  · unfold Roster.deviceIds
    rw [hdevices]
    exact hvalid.devices_nodup.sublist (filter_sublist.map _)
  · intro tombstone htomb
    have hmem : tombstone.deviceId ∈ roster.tombstoneIds ++ revoked :=
      htombs ▸ mem_map_of_mem htomb
    rcases mem_append.mp hmem with hold | hnew
    · exact ⟨(hlisted _ hold).1, fun hact => (hlisted _ hold).2 (hids _ hact).1⟩
    · refine ⟨?_, fun hact => (hids _ hact).2 hnew⟩
      obtain ⟨cert, _, hcert⟩ := mem_map.mp (hactive _ hnew)
      rw [← hcert]
      exact P.deriveUserId_length _
  · rw [htombs]
    refine nodup_append.mpr ⟨hvalid.tombstones_nodup, hrevoked, ?_⟩
    intro a ha b hb hab
    exact (hlisted a ha).2 (hab ▸ hactive b hb)

/-- **The rosters a person's devices make.** Each validates; each is accepted over every
earlier one it may follow, the root's signature being asked for where the epoch rises;
and from each the approving device can revoke any other devices, as long as none of
them holds the person root's own key. -/
theorem authored_rosters_acceptable (h : Authored P rootSk (roster :: earlier)) :
    validate P roster (P.verifyingKey rootSk) = .ok () ∧
    (∀ held ∈ earlier, ¬ jumpTooLarge held roster →
      (held.recoveryEpoch < roster.recoveryEpoch →
        roster.signerSignPk = P.verifyingKey rootSk) →
      (coreRosterAccept P (some held) false roster (P.verifyingKey rootSk)).outcome = .accepted) ∧
    ∀ (sk : Bytes) (ids : List Bytes) (key : InboxKey) (fresh : Bytes) (approver : DeviceCert),
      CountersBelowMax roster → ids ≠ [] → (∀ id ∈ ids, id ∈ roster.deviceIds P) →
      roster.approvingDeviceId ∉ ids →
      (∀ cert ∈ roster.devices, cert.deviceId P ∈ ids →
        cert.deviceSignPk ≠ P.verifyingKey rootSk) →
      sk.length = keyLen → approver ∈ roster.devices →
      approver.deviceId P = roster.approvingDeviceId →
      approver.deviceSignPk = P.verifyingKey sk → key.generation = roster.inboxKeyGeneration →
      ∃ update, coreRevokeDevicesRoster P roster (P.verifyingKey rootSk) sk ids key fresh =
        .ok update := by
  obtain ⟨hauth, hall⟩ := authored_sequence h roster earlier rfl
  refine ⟨validate_eq_ok_iff.mpr hauth.valid, ?_, ?_⟩
  · intro held hheld hjump hroot
    obtain ⟨hheldAuth, hprec⟩ := hall held hheld
    refine coreRosterAccept_accepted_iff.mpr ⟨fun hq => Bool.noConfusion hq, hauth.valid, ?_⟩
    intro held' heq
    cases heq
    refine ⟨hheldAuth.valid.person.symm.trans hauth.valid.person, hprec.version, hjump, hroot,
      fun id hid => ?_, fun _ => hprec.generation⟩
    have hid' := hprec.buried id hid
    obtain ⟨tombstone, hmem, rfl⟩ := mem_map.mp hid'
    exact ⟨hid', (hauth.valid.tombstones tombstone hmem).2⟩
  · intro sk ids key fresh approver hmax hne hactive happrover hspared hlen hmem hid hkey hgen
    obtain ⟨revoked, hrevoked, hnd, hiff⟩ := normalizeRevoked_ok hne hactive
    have hrole : P.deriveUserId (P.verifyingKey sk) = roster.approvingDeviceId := by
      rw [← hid, ← hkey]
      rfl
    have hself : roster.approvingDeviceId ∉ revoked := fun hin => happrover ((hiff _).mp hin)
    have hstays : approver ∈ roster.devices.filter fun cert => cert.deviceId P ∉ revoked :=
      mem_filter.mpr ⟨hmem, decide_eq_true (hid ▸ hself)⟩
    refine ⟨_, revoke_eq_ok_iff.mpr ⟨hauth.valid, hlen, hrole, revoked, hrevoked, hrole ▸ hself,
      ne_nil_of_mem hstays, hmax.seq, hgen, ?_, rfl⟩⟩
    refine revokedRoster_valid hauth hnd ?_ hself ?_ hmem hid hkey
    · exact fun id hin => hactive id ((hiff id).mp hin)
    · exact fun cert hcert hin => hspared cert hcert ((hiff _).mp hin)

end Sequence

namespace Sample

/-- The person recovers onto the second device. -/
def recoveredRoster : Roster :=
  Roster.signedBy primitives
    { firstRoster with
      recoveryEpoch := 1, devices := [certBy (secretKey 1) otherDeviceKey 1 1],
      approvingDeviceId := primitives.deriveUserId otherDeviceKey,
      inboxKeyGeneration := 1 } (secretKey 1)

/-- The recovered device links a third one. -/
def relinkedRoster : Roster :=
  Roster.signedBy primitives
    { recoveredRoster with
      seq := 1
      devices := recoveredRoster.devices ++
        [certBy (secretKey 3) (publicKey (secretKey 4)) 1 0] } (secretKey 3)

def linkUpdate (roster : Roster) (signPk : Bytes) : LinkRosterUpdate where
  roster := roster
  newDeviceId := primitives.deriveUserId signPk
  rosterHead := rosterHeadHash primitives roster
  addOutcome := .added

theorem first_authored : Authored primitives (secretKey 1) [firstRoster] := by
  have h : coreLinkGenesisRoster primitives (secretKey 1) deviceKey (secretKey 9) =
      .ok firstRoster := by decide +kernel
  exact .genesis h

theorem pair_authored : Authored primitives (secretKey 1) [pairRoster, firstRoster] := by
  have h : coreLinkSignNewDeviceRoster primitives firstRoster personRoot (secretKey 2)
      otherDeviceKey (secretKey 9) = .ok (linkUpdate pairRoster otherDeviceKey) := by
    decide +kernel
  exact first_authored.step ⟨by decide, by decide, by decide⟩ (.link h)

theorem relinked_authored :
    Authored primitives (secretKey 1) [relinkedRoster, recoveredRoster, firstRoster] := by
  have hrec : coreLinkRecoveryRoster primitives (some firstRoster) (secretKey 1) otherDeviceKey
      (secretKey 9) = .ok recoveredRoster := by decide +kernel
  have hlink : coreLinkSignNewDeviceRoster primitives recoveredRoster personRoot (secretKey 3)
      (publicKey (secretKey 4)) (secretKey 9) =
        .ok (linkUpdate relinkedRoster (publicKey (secretKey 4))) := by
    decide +kernel
  have hrecovered : Authored primitives (secretKey 1) [recoveredRoster, firstRoster] :=
    first_authored.step ⟨by decide, by decide, by decide⟩ (.recover hrec)
  exact hrecovered.step ⟨by decide, by decide, by decide⟩ (.link hlink)

end Sample

open Sample in
/-- The second device can be revoked from the roster that links it, and a contact that
holds the first roster accepts that one. -/
theorem authored_rosters_acceptable_pair :
    (coreRosterAccept primitives (some firstRoster) false pairRoster personRoot).outcome =
      .accepted ∧
    ∃ update, coreRevokeDevicesRoster primitives pairRoster personRoot (secretKey 2)
      [primitives.deriveUserId otherDeviceKey] (coreMintInboxKey primitives 0 (secretKey 5))
      (secretKey 6) = .ok update := by
  obtain ⟨_, haccepted, hrevoke⟩ := authored_rosters_acceptable pair_authored
  refine ⟨haccepted firstRoster (by simp) (by decide) (by decide), ?_⟩
  exact hrevoke _ _ _ _ (certBy (secretKey 1) deviceKey 0 1) ⟨by decide, by decide, by decide⟩
    (by decide) (by decide +kernel) (by decide +kernel) (by decide +kernel) (by decide)
    (by decide +kernel) (by decide +kernel) (by decide +kernel) (by decide)

open Sample in
/-- A contact that missed the recovery refuses what the recovered device signs later:
the document raises the epoch over the one held, and the root did not sign it. -/
theorem epoch_raise_not_root_signed_ignored :
    Authored primitives (secretKey 1) [relinkedRoster, recoveredRoster, firstRoster] ∧
    ¬ jumpTooLarge firstRoster relinkedRoster ∧
    (coreRosterAccept primitives (some firstRoster) false relinkedRoster personRoot).outcome ≠
      .accepted :=
  ⟨relinked_authored, by decide, by decide +kernel⟩

end CruiseMesh
