import CruiseMesh.Relay.Rotation

/-!
# Whether the siblings learn the new token

A committed rotation is a setting that the other devices merge. It reaches them when it is
above what they have and when their clocks let it in. The first is arranged by
`commit_relay_rotation`; the second depends on the epoch that was stored, which may lie as
far ahead as a clock lets in, and on the plan's.
-/

namespace CruiseMesh
open Wire Durable Prog List Utf8

/-! ## The credential as bytes -/

/-- A text the format of a credential has room for. -/
def FitsCredential (field : Bytes) : Prop :=
  field ≠ [] ∧ field.length ≤ u16Max ∧ fault field = none

instance (field : Bytes) : Decidable (FitsCredential field) := inferInstanceAs (Decidable (_ ∧ _))

/-- A field is read back as far as its length could be written. -/
theorem takeCredentialField_encoded (field rest : Bytes) :
    takeCredentialField (encodeCredentialField field ++ rest) =
      if fault (field.take u16Max) = none then some (field.take u16Max, rest) else none := by
  have htake : field.take (min field.length u16Max) = field.take u16Max := by
    rcases Nat.le_total field.length u16Max with h | h
    · rw [Nat.min_eq_left h, take_length, take_of_length_le h]
    · rw [Nat.min_eq_right h]
  have hlen : (field.take u16Max).length = min field.length u16Max := by
    rw [length_take, Nat.min_comm]
  have hmod : min field.length u16Max % 256 ^ 2 = min field.length u16Max :=
    Nat.mod_eq_of_lt (Nat.lt_succ_of_le (Nat.min_le_right _ _))
  have htwo : (beBytes 2 (min field.length u16Max)).length = 2 := beBytes_length _ _
  rw [encodeCredentialField, htake, append_assoc, takeCredentialField,
    if_neg (by rw [length_append, htwo]; omega), take_left' htwo, drop_left' htwo,
    natOfBe_beBytes, hmod]
  dsimp only
  rw [take_left' hlen, drop_left' hlen, length_append, hlen]
  by_cases hvalid : fault (field.take u16Max) = none
  · have hroom : ¬ min field.length u16Max + rest.length < min field.length u16Max := by omega
    rw [if_pos hvalid, if_neg (not_or.mpr ⟨hroom, not_not.mpr hvalid⟩)]
  · rw [if_neg hvalid, if_pos (.inr hvalid)]

/-- An endpoint is read back exactly when both of its texts fit. -/
theorem decodeRelayCredential_encoded (url token : Bytes) :
    decodeRelayCredential (encodeRelayCredential url token) = some { url, token } ↔
      FitsCredential url ∧ FitsCredential token := by
  have hfits : ∀ field : Bytes, FitsCredential field ↔
      field ≠ [] ∧ field.take u16Max = field ∧ fault (field.take u16Max) = none := by
    intro field
    constructor
    · rintro ⟨hne, hlen, hvalid⟩
      rw [take_of_length_le hlen]
      exact ⟨hne, rfl, hvalid⟩
    · rintro ⟨hne, hwhole, hvalid⟩
      rw [hwhole] at hvalid
      exact ⟨hne, hwhole ▸ length_take_le _ _, hvalid⟩
  have hrest := takeCredentialField_encoded token []
  rw [append_nil] at hrest
  rw [decodeRelayCredential, encodeRelayCredential, takeCredentialField_encoded, hfits, hfits]
  by_cases hurl : fault (url.take u16Max) = none
  · by_cases htoken : fault (token.take u16Max) = none
    · simp only [if_pos hurl, if_pos htoken, Option.bind_eq_bind, Option.bind_some, hrest]
      constructor
      · intro h
        split at h
        · cases h
        · rename_i hne
          obtain ⟨hu, ht⟩ := RelayEndpoint.mk.inj (Option.some.inj h)
          rw [hu, ht] at hne
          rw [not_or] at hne
          exact ⟨⟨hne.1, hu, hurl⟩, hne.2, ht, htoken⟩
      · rintro ⟨⟨hne, hu, _⟩, hne', ht, _⟩
        rw [hu, ht, if_neg (not_or.mpr ⟨hne, hne'⟩)]
    · simp [hurl, hrest, htoken]
  · simp [hurl]

/-! ## The merge order -/

theorem not_supersedes_of_supersedes {entry other : SyncSettingEntry} (h : entry.supersedes other) :
    ¬ other.supersedes entry := by
  rintro (hback | ⟨heq, hback⟩) <;> rcases h with h | ⟨heq', h⟩
  · omega
  · omega
  · omega
  · rcases hback with hback | ⟨hauthor, hback⟩ <;> rcases h with h | ⟨hauthor', h⟩
    · exact List.lt_asymm hback h
    · exact List.lt_irrefl _ (hauthor' ▸ hback)
    · exact List.lt_irrefl _ (hauthor ▸ h)
    · exact List.lt_asymm hback h

/-- The entry itself, or below it in the merge order. -/
def SyncSettingEntry.UpTo (entry other : SyncSettingEntry) : Prop :=
  other = entry ∨ entry.supersedes other

theorem SyncSettingEntry.UpTo.not_supersedes {entry other : SyncSettingEntry} (h : entry.UpTo other) :
    ¬ other.supersedes entry := by
  rcases h with rfl | h
  · exact fun hself => not_supersedes_of_supersedes hself hself
  · exact not_supersedes_of_supersedes h

/-! ## A page with the credential in it -/

section Merge
variable {entry : SyncSettingEntry} {ownRoster : Option Roster} {nowMs : Int}

/-- What is held for the credential is the entry or below it. -/
def Store.CredentialUpTo (s : Store) (entry : SyncSettingEntry) : Prop :=
  ∀ held ∈ s.setting syncRelayCredentialSettingKey, entry.UpTo held

/-- One entry is put. Nothing above the credential comes in by that, and the credential
itself stands afterwards if it stood before or is what was put. -/
theorem credential_after_put (hkey : entry.key = syncRelayCredentialSettingKey) {s s' : Store}
    {other : SyncSettingEntry} {took : Bool} (hs : s.CredentialUpTo entry)
    (hauthor : other.authorDeviceId.length = deviceIdLen)
    (hother : other.key = syncRelayCredentialSettingKey → entry.UpTo other)
    (hput : (putSetting other).Returns s took s') :
    s'.CredentialUpTo entry ∧
      (s.setting syncRelayCredentialSettingKey = some entry ∨ other = entry →
        s'.setting syncRelayCredentialSettingKey = some entry) := by
  obtain rfl : _ = s' := (returns_putSetting hauthor).2.symm.trans hput.2
  by_cases htakes : ∀ held ∈ s.setting other.key, other.supersedes held
  · rw [if_pos htakes]
    unfold Store.CredentialUpTo
    rw [setting_withSetting]
    by_cases hcred : other.key = syncRelayCredentialSettingKey
    · rw [if_pos hcred]
      refine ⟨fun held hheld => Option.some.inj hheld ▸ hother hcred, ?_⟩
      rintro (hstood | rfl)
      · exact absurd (htakes entry (hcred ▸ hstood)) (hother hcred).not_supersedes
      · rfl
    · rw [if_neg hcred]
      refine ⟨hs, ?_⟩
      rintro (hstood | rfl)
      · exact hstood
      · exact absurd hkey hcred
  · rw [if_neg htakes]
    refine ⟨hs, ?_⟩
    rintro (hstood | rfl)
    · exact hstood
    · -- refused, so what stands is not below the entry: it is the entry
      rw [hkey] at htakes
      push Not at htakes
      obtain ⟨held, hheld, hnot⟩ := htakes
      rcases hs held hheld with rfl | hbelow
      · exact hheld
      · exact absurd hbelow hnot

/-- A page without anything above the credential leaves it standing, if it stood before or
if it is in the page and admitted. -/
theorem credential_after_merge (hkey : entry.key = syncRelayCredentialSettingKey)
    (hadmitted : relayCredentialEntryIsAdmissible entry ownRoster nowMs) :
    ∀ (entries : List SyncSettingEntry) (found : SettingsFound) {s : Store},
      (∀ other ∈ entries, other.authorDeviceId.length = deviceIdLen) →
      (∀ other ∈ entries, other.key = syncRelayCredentialSettingKey → entry.UpTo other) →
      s.CredentialUpTo entry →
        ∃ found' s', (mergeSettings ownRoster nowMs entries found).Returns s found' s' ∧
          (s.setting syncRelayCredentialSettingKey = some entry ∨ entry ∈ entries →
            s'.setting syncRelayCredentialSettingKey = some entry)
  | [], found, s, _, _, _ =>
    ⟨found, s, ⟨rfl, rfl⟩, fun h => h.resolve_right not_mem_nil⟩
  | other :: rest, found, s, hauthor, hothers, hs => by
    have hauthor' := fun later h => hauthor later (mem_cons_of_mem other h)
    have hothers' := fun later h => hothers later (mem_cons_of_mem other h)
    unfold mergeSettings
    split
    · rename_i hskip
      obtain ⟨found', s', hrun, hstands⟩ := credential_after_merge hkey hadmitted rest
        { found with applied := found.applied + 1 } hauthor' hothers' hs
      refine ⟨found', s', hrun, fun h => hstands (h.imp_right fun hmem => ?_)⟩
      rcases mem_cons.mp hmem with rfl | hmem
      · exact absurd hadmitted hskip.2
      · exact hmem
    · have hput := returns_putSetting (s := s) (hauthor other mem_cons_self)
      obtain ⟨hmid, hstood⟩ := credential_after_put hkey hs (hauthor other mem_cons_self)
        (hothers other mem_cons_self) hput
      obtain ⟨found', s', hrun, hstands⟩ := credential_after_merge hkey hadmitted rest _
        hauthor' hothers' hmid
      refine ⟨found', s', returns_bind.mpr ⟨_, _, hput, hrun⟩, fun h => hstands ?_⟩
      rcases h with h | hmem
      · exact .inl (hstood (.inl h))
      · rcases mem_cons.mp hmem with rfl | hmem
        · exact .inl (hstood (.inr rfl))
        · exact .inr hmem

/-- The same for a whole record: it is applied, and the credential stands. -/
theorem credential_after_apply (hkey : entry.key = syncRelayCredentialSettingKey) {s : Store}
    {record : SyncRecord} {entries : List SyncSettingEntry}
    (hadmitted : relayCredentialEntryIsAdmissible entry s.ownRoster nowMs)
    (hdecodes : coreDecodeSyncSettings record.payload = .ok entries) (hmem : entry ∈ entries)
    (hothers : ∀ other ∈ entries, other.key = syncRelayCredentialSettingKey → entry.UpTo other)
    (hs : s.CredentialUpTo entry) :
    ∃ applied s', (applySettings record nowMs).Returns s applied s' ∧
      s'.setting syncRelayCredentialSettingKey = some entry := by
  obtain ⟨found, mid, hmerge, hstands⟩ := credential_after_merge hkey hadmitted entries {}
    (author_length_of_decoded hdecodes) hothers hs
  obtain ⟨s', hblock, hsettings, _, _⟩ := blockUsers_spec nowMs found.newlyBlocked mid
  refine ⟨(found.applied, found.relayCredential), s', ?_, ?_⟩
  · unfold applySettings
    rw [hdecodes, lift_ok_bind]
    refine returns_inspect_bind.mpr ?_
    refine returns_bind.mpr ⟨_, mid, hmerge, ?_⟩
    exact returns_bind.mpr ⟨_, s', hblock, ⟨rfl, rfl⟩⟩
  · rw [Store.setting, hsettings]
    exact hstands (.inr hmem)

end Merge

/-! ## What a commit publishes -/

/-- How far ahead a clock lets a credential be. -/
def epochCeiling (nowMs : Int) : Int := max (min (nowMs + relayEpochMaxSkewMs) (2 ^ 63 - 1)) 0

theorem epochCeiling_mono {a b : Int} (h : a ≤ b) : epochCeiling a ≤ epochCeiling b := by
  unfold epochCeiling
  omega

/-- The device has not buried the author: it is a sibling of it. -/
def Store.SiblingOf (s : Store) (author : Bytes) : Prop :=
  ∀ roster ∈ s.ownRoster, author ∉ roster.tombstoneIds

/-- An entry that was published at `t` over a store reaches the siblings: it is above what
was stored, every sibling whose clock shows `t` or more lets it in, and when such a sibling
applies it and has nothing above it, the sibling ends with the endpoint. -/
structure Reaches (before : Store) (entry : SyncSettingEntry) (endpoint : RelayEndpoint) (t : Int) :
    Prop where
  above : ∀ held ∈ before.setting syncRelayCredentialSettingKey, entry.supersedes held
  admitted : ∀ (sibling : Store) (nowMs : Int), t ≤ nowMs → sibling.SiblingOf entry.authorDeviceId →
    relayCredentialEntryIsAdmissible entry sibling.ownRoster nowMs
  adopted : ∀ (sibling : Store) (nowMs : Int) (record : SyncRecord) (entries : List SyncSettingEntry),
    t ≤ nowMs → sibling.SiblingOf entry.authorDeviceId →
    coreDecodeSyncSettings record.payload = .ok entries → entry ∈ entries →
    (∀ other ∈ entries, other.key = syncRelayCredentialSettingKey → entry.UpTo other) →
    sibling.CredentialUpTo entry →
      ∃ applied sibling', (applySettings record nowMs).Returns sibling applied sibling' ∧
        sibling'.relayCredentialSetting = some endpoint

section Commit
variable {plan : RelayRotationPlan} {t : Int} {s s' : RotationStore} {commit : RelayRotationCommit}

/-- What the clock has to say about a rotation at the time of its commit. -/
theorem publishedEpoch_le_iff (stored : Nat) :
    (plan.publishedEpoch stored : Int) ≤ epochCeiling t ↔
      plan.relayEpoch ≤ epochCeiling t ∧ (stored : Int) < epochCeiling t := by
  have hlow : 0 ≤ epochCeiling t := le_max_right _ _
  have hhigh : epochCeiling t < (u64Max : Int) := by
    unfold epochCeiling u64Max
    omega
  unfold RelayRotationPlan.publishedEpoch saturatingAdd
  omega

/-- The record with nothing but this entry. -/
def loneRecord (payload : Bytes) : SyncRecord where
  kind := .settings
  personId := []
  authorDeviceId := []
  rosterVersion := ⟨0, 0⟩
  inboxKeyGeneration := 0
  streamSeq := 0
  timestampMs := 0
  payload := payload
  signature := []

/-- A published credential can be sent, unless its epoch is no machine number. -/
theorem exists_payload (store : Store) (hepoch : (plan.entry store).epoch < 2 ^ 64) :
    ∃ payload, coreDecodeSyncSettings payload = .ok [plan.entry store] := by
  have hfield : ∀ field : Bytes, (encodeCredentialField field).length ≤ 2 + u16Max := by
    intro field
    rw [encodeCredentialField, length_append, beBytes_length, length_take]
    omega
  have hvalue : (plan.entry store).value.length < 2 ^ 32 := by
    have hurl := hfield plan.relayUrl
    have htoken := hfield plan.newToken
    show (encodeRelayCredential plan.relayUrl plan.newToken).length < _
    rw [encodeRelayCredential, length_append]
    unfold u16Max at hurl htoken
    omega
  have hkey : syncRelayCredentialSettingKey.length ≤ u16Max := by decide
  have hwritten : pushSyncSetting (plan.entry store) = .ok (plan.entry store).bytes :=
    (pushSyncSetting_eq_ok _ _).mpr ⟨⟨hkey, ownAuthoringDeviceId_length store, hvalue⟩, rfl⟩
  have hencoded : coreEncodeSyncSettings [plan.entry store] =
      .ok (([syncRecordVersion] ++ beBytes 2 1) ++ [(plan.entry store).bytes].flatten) := by
    simp [coreEncodeSyncSettings, payloadHeader, hwritten, refuseWhen, syncRecordMaxEntries, bind,
      Except.bind, pure, Except.pure]
  refine ⟨_, coreDecodeSyncSettings_encoded hencoded fun entry hentry => ?_⟩
  have htext : fault syncRelayCredentialSettingKey = none := by decide
  rw [mem_singleton.mp hentry]
  exact ⟨htext, hepoch⟩

/-- **A committed rotation reaches every sibling exactly when the epochs leave room.** The
plan's epoch is one that the clock at the commit lets in, the stored credential's is below
that bound, and both texts fit the format. -/
theorem committed_rotation_reaches_iff (h : (commitRelayRotation plan t).Returns s commit s') :
    (∃ entry, s'.setting syncRelayCredentialSettingKey = some entry ∧
        Reaches s.toStore entry commit.endpoint t) ↔
      (plan.relayEpoch ≤ epochCeiling t ∧ (s.relayCredentialEpoch : Int) < epochCeiling t) ∧
        FitsCredential plan.relayUrl ∧ FitsCredential plan.newToken := by
  obtain ⟨habove, hs', hendpoint⟩ := commitRelayRotation_returns h
  have hsetting : s'.setting syncRelayCredentialSettingKey = some (plan.entry s.toStore) := by
    rw [hs']
    exact (setting_withSetting s.toStore (plan.entry s.toStore) _).trans (if_pos rfl)
  have hread : ∀ sibling : Store,
      sibling.setting syncRelayCredentialSettingKey = some (plan.entry s.toStore) →
        (sibling.relayCredentialSetting = some commit.endpoint ↔
          FitsCredential plan.relayUrl ∧ FitsCredential plan.newToken) := by
    intro sibling hheld
    rw [Store.relayCredentialSetting, hheld, hendpoint]
    exact decodeRelayCredential_encoded _ _
  rw [hsetting]
  constructor
  · rintro ⟨_, ⟨⟩, hreaches⟩
    have hadmitted := hreaches.admitted {} t le_rfl nofun
    have hepoch : (plan.entry s.toStore).epoch < 2 ^ 64 := by
      have := hadmitted.2
      omega
    obtain ⟨payload, hpayload⟩ := exists_payload s.toStore hepoch
    have hdecodes : coreDecodeSyncSettings (loneRecord payload).payload = .ok [plan.entry s.toStore] :=
      hpayload
    have hlone : ∀ other ∈ [plan.entry s.toStore], other.key = syncRelayCredentialSettingKey →
        (plan.entry s.toStore).UpTo other := fun other hmem _ => .inl (mem_singleton.mp hmem)
    obtain ⟨applied, sibling, hrun, hends⟩ := hreaches.adopted {} t (loneRecord payload) _ le_rfl
      nofun hdecodes mem_cons_self hlone nofun
    obtain ⟨_, other, hrun', hheld⟩ := credential_after_apply (s := {}) rfl hadmitted hdecodes
      mem_cons_self hlone nofun
    obtain rfl : sibling = other := hrun.2.symm.trans hrun'.2
    exact ⟨(publishedEpoch_le_iff _).mp hadmitted.2, (hread _ hheld).mp hends⟩
  · rintro ⟨hroom, hfits⟩
    have hadmitted : ∀ (sibling : Store) (nowMs : Int), t ≤ nowMs →
        sibling.SiblingOf (plan.entry s.toStore).authorDeviceId →
          relayCredentialEntryIsAdmissible (plan.entry s.toStore) sibling.ownRoster nowMs :=
      fun sibling nowMs hnow hsibling =>
        ⟨hsibling, ((publishedEpoch_le_iff _).mpr hroom).trans (epochCeiling_mono hnow)⟩
    refine ⟨_, rfl, habove, hadmitted, ?_⟩
    intro sibling nowMs record entries hnow hsibling hdecodes hmem hothers hheld
    obtain ⟨applied, sibling', hrun, hends⟩ := credential_after_apply rfl
      (hadmitted sibling nowMs hnow hsibling) hdecodes hmem hothers hheld
    exact ⟨applied, sibling', hrun, (hread _ hends).mpr hfits⟩

end Commit

namespace Sample

/-- A rotation that was planned at one second past the epoch. -/
def rotation : RelayRotationPlan where
  relayUrl := ascii "https://relay"
  supersededToken := ascii "cmfam1-old"
  newToken := ascii "cmfam1-new"
  newDepositToken := ascii "cmdep1-new"
  relayEpoch := 1000
  inboxKeyGeneration := 0
  revokedDeviceIds := []

/-- The credential another device has published, by a clock three days ahead. -/
def aheadEntry : SyncSettingEntry where
  key := syncRelayCredentialSettingKey
  value := encodeRelayCredential (ascii "https://relay") (ascii "cmfam1-old")
  epoch := 1000 + 3 * 24 * 60 * 60 * 1000
  authorDeviceId := beBytes deviceIdLen 7

def aheadStore : Store := { syncSettings := [aheadEntry] }

/-- The credential as it was published half a second before. -/
def olderStore : Store := { syncSettings := [{ aheadEntry with epoch := 500 }] }

end Sample

/-- A device that has an older credential in its settings commits, and everybody learns of it. -/
theorem rotation_over_older_reaches : ∃ commit s',
    (commitRelayRotation Sample.rotation 1000).Returns { toStore := Sample.olderStore } commit s' ∧
      ∃ entry, s'.setting syncRelayCredentialSettingKey = some entry ∧
        Reaches Sample.olderStore entry commit.endpoint 1000 := by
  have hrun : (commitRelayRotation Sample.rotation 1000).Returns
    { toStore := Sample.olderStore } _ _ := ⟨rfl, rfl⟩
  exact ⟨_, _, hrun, (committed_rotation_reaches_iff hrun).mpr (by decide)⟩

/-- The stored credential is one that the clock lets in, and the commit goes through. What
it publishes is refused by a sibling with the same clock, which keeps the old token. -/
theorem rotation_over_admitted_epoch_is_refused :
    relayCredentialEntryIsAdmissible Sample.aheadEntry none 1000 ∧
      ∃ commit s' entry record,
        (commitRelayRotation Sample.rotation 1000).Returns { toStore := Sample.aheadStore } commit s' ∧
        s'.setting syncRelayCredentialSettingKey = some entry ∧
        ¬ relayCredentialEntryIsAdmissible entry none 1000 ∧
        coreDecodeSyncSettings record.payload = .ok [entry] ∧
        ((applySettings record 1000).final Sample.aheadStore).relayCredentialSetting =
          some { url := ascii "https://relay", token := ascii "cmfam1-old" } := by
  refine ⟨by decide, _, _, Sample.rotation.entry Sample.aheadStore,
    loneRecord (([syncRecordVersion] ++ beBytes 2 1) ++ (Sample.rotation.entry Sample.aheadStore).bytes),
    ⟨rfl, rfl⟩, ?_, ?_, ?_, ?_⟩ <;> decide +kernel

end CruiseMesh
