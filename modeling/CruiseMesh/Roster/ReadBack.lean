import CruiseMesh.Inbound.Deliver

/-!
# A contact's roster read back

A document that was saved comes back as it is, over whatever was stored for that person before, and
its devices are told apart by their rows. The `u64` fields stand in signed columns, which loses
nothing: the cast on the way out undoes the one on the way in.
-/

namespace CruiseMesh
open List

/-- `as i64` into a column and `as u64` out of it. -/
def u64Column (n : Nat) : Nat := (asI64 n % 2 ^ 64).toNat

theorem u64Column_of_lt {n : Nat} (h : n < 2 ^ 64) : u64Column n = n := by
  have hmod : asI64 n % 2 ^ 64 = n % 2 ^ 64 := Int.bmod_emod
  unfold u64Column
  omega

/-- The row as its columns give it back. -/
def ContactRosterRow.columns (row : ContactRosterRow) : ContactRosterRow :=
  { row with
    recoveryEpoch := u64Column row.recoveryEpoch
    seq := u64Column row.seq
    inboxKeyGeneration := u64Column row.inboxKeyGeneration }

/-- The row as its columns give it back. -/
def ContactDeviceRow.columns (row : ContactDeviceRow) : ContactDeviceRow :=
  { row with
    addedEpoch := row.addedEpoch.map u64Column
    revokedAtSeq := row.revokedAtSeq.map u64Column }

/-- The counters of a document are `u64`. -/
structure Roster.InRange (roster : Roster) : Prop where
  recoveryEpoch : roster.recoveryEpoch < 2 ^ 64
  seq : roster.seq < 2 ^ 64
  inboxKeyGeneration : roster.inboxKeyGeneration < 2 ^ 64
  addedEpoch : ∀ cert ∈ roster.devices, cert.addedEpoch < 2 ^ 64
  revokedAtSeq : ∀ tombstone ∈ roster.tombstones, tombstone.revokedAtSeq < 2 ^ 64

section ReadBack
variable {P : Primitives} {roster : Roster} {root : Bytes} {quarantined : Bool} {s : Store}

theorem columns_headerRow (h : roster.InRange) :
    (headerRow P roster quarantined).columns = headerRow P roster quarantined := by
  simp [ContactRosterRow.columns, headerRow, u64Column_of_lt h.recoveryEpoch, u64Column_of_lt h.seq,
    u64Column_of_lt h.inboxKeyGeneration]

theorem columns_deviceRows (h : roster.InRange) {row : ContactDeviceRow}
    (hrow : row ∈ deviceRows P roster) : row.columns = row := by
  rcases mem_append.mp hrow with hrow | hrow
  · obtain ⟨⟨cert, ordinal⟩, hcert, rfl⟩ := mem_map.mp hrow
    have hlt := h.addedEpoch cert (fst_mem_of_mem_zipIdx hcert)
    simp [ContactDeviceRow.columns, certRow, u64Column_of_lt hlt]
  · obtain ⟨⟨tombstone, ordinal⟩, htombstone, rfl⟩ := mem_map.mp hrow
    have hlt := h.revokedAtSeq tombstone (fst_mem_of_mem_zipIdx htombstone)
    simp [ContactDeviceRow.columns, tombstoneRow, u64Column_of_lt hlt]

/-- The row that is found is that of a certificate or of a tombstone, and there is one for each. -/
theorem Holds.contactDeviceState (h : Holds P s roster.personId ⟨some roster, quarantined⟩)
    (deviceId : Bytes) :
    match s.contactDeviceState roster.personId deviceId with
    | .unknown => deviceId ∉ roster.deviceIds P ++ roster.tombstoneIds
    | .active => deviceId ∈ roster.deviceIds P
    | .revoked => deviceId ∈ roster.tombstoneIds := by
  have hrows : ∀ row, row ∈ deviceRows P roster ↔
      row ∈ s.contactDevices ∧ row.personUserId = roster.personId := by
    intro row
    rw [← h.2.2.2, mem_filter, decide_eq_true_iff]
  unfold Store.contactDeviceState
  cases hfind : s.contactDevices.find? fun row =>
      row.personUserId = roster.personId ∧ row.deviceId = deviceId with
  | none =>
    intro hid
    obtain ⟨row, hrow, hkey⟩ := mem_map.mp (deviceRows_keys (P := P) ▸ mem_map_of_mem hid)
    have hne := find?_eq_none.mp hfind row ((hrows row).mp hrow).1
    exact hne (decide_eq_true (Prod.mk.inj hkey))
  | some row =>
    have hpred := find?_some hfind
    obtain ⟨hperson, hid⟩ := of_decide_eq_true hpred
    rcases mem_append.mp ((hrows row).mpr ⟨mem_of_find?_eq_some hfind, hperson⟩) with hrow | hrow
    · obtain ⟨entry, hentry, rfl⟩ := mem_map.mp hrow
      exact mem_map.mpr ⟨entry.1, fst_mem_of_mem_zipIdx hentry, hid⟩
    · obtain ⟨entry, hentry, rfl⟩ := mem_map.mp hrow
      exact mem_map.mpr ⟨entry.1, fst_mem_of_mem_zipIdx hentry, hid⟩

/-- What is saved is what is loaded, with the store as it was left, and the state of a device is
that of the document. -/
theorem contact_roster_read_back (hvalid : validate P roster root = .ok ()) (h : roster.InRange)
    (quarantined : Bool) (s : Store) :
    ∃ s', saveRoster P roster quarantined s = .ok ((), s') ∧
      loadState P roster.personId s' = .ok (⟨some roster, quarantined⟩, s') ∧
      (∀ row ∈ s'.contactRosterRow roster.personId, row.columns = row) ∧
      (∀ row ∈ s'.contactDeviceRows roster.personId, row.columns = row) ∧
      ∀ deviceId,
        (s'.contactDeviceState roster.personId deviceId = .active ↔
          deviceId ∈ roster.deviceIds P) ∧
        (s'.contactDeviceState roster.personId deviceId = .revoked ↔
          deviceId ∈ roster.tombstoneIds) := by
  have hvalid := validate_eq_ok_iff.mp hvalid
  have hholds : Holds P (savedRoster P roster quarantined s) roster.personId
    ⟨some roster, quarantined⟩ := holds_savedRoster hvalid
  refine ⟨_, saveRoster_of_valid hvalid, loadState_of_holds hholds, ?_, ?_, fun deviceId => ?_⟩
  · rw [hholds.2.2.1]
    rintro _ ⟨⟩
    exact columns_headerRow h
  · intro row hrow
    unfold Store.contactDeviceRows at hrow
    rw [hholds.2.2.2, insertionSort_deviceRows] at hrow
    exact columns_deviceRows h hrow
  · have hstate := hholds.contactDeviceState deviceId
    have hapart : deviceId ∈ roster.tombstoneIds → deviceId ∉ roster.deviceIds P := by
      intro hid
      obtain ⟨tombstone, htombstone, rfl⟩ := mem_map.mp hid
      exact (hvalid.tombstones tombstone htombstone).2
    generalize Store.contactDeviceState _ _ _ = state at hstate ⊢
    cases state <;> simp_all

end ReadBack

open Sample in
/-- The roster of a revocation, saved over the one before it. -/
theorem revoked_roster_read_back :
    ∃ s, saveRoster primitives Sample.revokedRoster true (savedRoster primitives pairRoster false {}) =
        .ok ((), s) ∧
      s.contactDeviceState person (primitives.deriveUserId deviceKey) = .active ∧
      s.contactDeviceState person (primitives.deriveUserId otherDeviceKey) = .revoked := by
  obtain ⟨s, hsave, _, _, _, hstate⟩ := @contact_roster_read_back primitives
    Sample.revokedRoster
    personRoot (by decide +kernel) ⟨by decide, by decide, by decide, by decide, by decide⟩ true
    (savedRoster primitives pairRoster false {})
  exact ⟨s, hsave, (hstate _).1.mpr (by decide +kernel), (hstate _).2.mpr (by decide +kernel)⟩

end CruiseMesh
