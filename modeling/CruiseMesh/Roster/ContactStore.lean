import CruiseMesh.Lib.Table
import CruiseMesh.Roster.Accept
import CruiseMesh.Store.Schema

/-!
# The contact roster tables

`roster_store.rs`: the verdict of `core_roster_accept` written down and read back.
A document is spread over one `contact_rosters` row and a `contact_devices` row for
each certificate and tombstone; `ordinal` keeps document order, because the head hash
is recomputed from the rows and a reordered document would read as damaged.

`Holds` relates the rows of one person to the roster state they stand for, and each
operation has one lemma that says what it does to that relation: reading gives the
state back, saving replaces it, setting the quarantine changes the bit, and none of
them touches another person.
-/

namespace CruiseMesh
open Durable List Table

/-- What this device holds about one contact's roster. -/
structure ContactRosterState where
  roster : Option Roster
  quarantined : Bool
deriving DecidableEq

section Operations
variable (P : Primitives)

/-- A contact's person root: the Ed25519 key that already authenticates them. -/
def Store.contactSignPk (s : Store) (userId : Bytes) : Option Bytes :=
  (lookup (·.userId) userId s.contacts).map (·.signPk)

def Store.contactRosterRow (s : Store) (personUserId : Bytes) : Option ContactRosterRow :=
  lookup (·.personUserId) personUserId s.contactRosters

/-- The person's device rows, `ORDER BY revoked_at_seq IS NOT NULL ASC, ordinal ASC`. -/
def Store.contactDeviceRows (s : Store) (personUserId : Bytes) : List ContactDeviceRow :=
  (s.contactDevices.filter fun row => row.personUserId = personUserId).insertionSort
    fun a b => toLex (a.revokedAtSeq.isSome.toNat, a.ordinal) ≤
      toLex (b.revokedAtSeq.isSome.toNat, b.ordinal)

/-- `cert_column`. -/
def certColumn (value : Option Bytes) (field : String) : Except CoreError Bytes :=
  match value with
  | some bytes => .ok bytes
  | none => .error (.store ("stored device certificate is missing " ++ field))

variable (personUserId : Bytes)

/-- A device row that is not a tombstone, as the certificate it came from. -/
def certOfRow (row : ContactDeviceRow) : Except CoreError DeviceCert := do
  let deviceSignPk ← certColumn row.deviceSignPk "device_sign_pk"
  let deviceAgreePk ← certColumn row.deviceAgreePk "device_agree_pk"
  let signerSignPk ← certColumn row.signerSignPk "signer_sign_pk"
  let signature ← certColumn row.signature "signature"
  pure { personId := personUserId, deviceSignPk, deviceAgreePk,
         addedEpoch := row.addedEpoch.getD 0, flags := row.flags.getD 0, signerSignPk, signature }

/-- The loop over the device rows. -/
def readDeviceRows (personUserId : Bytes) :
    List ContactDeviceRow → Except CoreError (List DeviceCert × List DeviceTombstone)
  | [] => .ok ([], [])
  | row :: rest =>
    match row.revokedAtSeq with
    | some revokedAtSeq => do
      let (devices, tombstones) ← readDeviceRows personUserId rest
      pure (devices, { deviceId := row.deviceId, revokedAtSeq } :: tombstones)
    | none => do
      let cert ← certOfRow personUserId row
      let (devices, tombstones) ← readDeviceRows personUserId rest
      pure (cert :: devices, tombstones)

/-- The quarantine-only row: no document, only the sticky bit. -/
def quarantineOnlyRow : ContactRosterRow where
  personUserId := personUserId
  recoveryEpoch := 0
  seq := 0
  approvingDeviceId := []
  inboxKeyGeneration := 0
  signerSignPk := []
  signature := []
  headHash := []
  quarantined := true

/-- `delete_person`. -/
def deletePerson (s : Store) : Store :=
  { s with
    contactRosters := s.contactRosters.filter fun row => row.personUserId ≠ personUserId
    contactDevices := s.contactDevices.filter fun row => row.personUserId ≠ personUserId }

/-- `self_heal_damaged_roster`. -/
def selfHealDamagedRoster (quarantined : Bool) (s : Store) : Store :=
  let s := deletePerson personUserId s
  if quarantined then
    { s with contactRosters := s.contactRosters ++ [quarantineOnlyRow personUserId] }
  else s

/-- `load_state`: rebuild the document from its rows. A head hash that does not match
is damage, and the damaged rows are dropped, the quarantine bit apart. -/
def loadState : Tx Store CoreError ContactRosterState := do
  let s ← get
  match s.contactRosterRow personUserId with
  | none => pure { roster := none, quarantined := false }
  | some header =>
    if header.headHash = [] then pure { roster := none, quarantined := header.quarantined }
    else
      let (devices, tombstones) ← readDeviceRows personUserId (s.contactDeviceRows personUserId)
      let roster : Roster :=
        { personId := personUserId, recoveryEpoch := header.recoveryEpoch, seq := header.seq,
          devices, tombstones, approvingDeviceId := header.approvingDeviceId,
          inboxKeyGeneration := header.inboxKeyGeneration, signerSignPk := header.signerSignPk,
          signature := header.signature }
      if rosterHeadHash P roster ≠ header.headHash then do
        modify (selfHealDamagedRoster personUserId header.quarantined)
        pure { roster := none, quarantined := header.quarantined }
      else pure { roster := some roster, quarantined := header.quarantined }

variable (roster : Roster) (quarantined : Bool)

/-- The `contact_rosters` row of a document. -/
def headerRow : ContactRosterRow where
  personUserId := roster.personId
  recoveryEpoch := roster.recoveryEpoch
  seq := roster.seq
  approvingDeviceId := roster.approvingDeviceId
  inboxKeyGeneration := roster.inboxKeyGeneration
  signerSignPk := roster.signerSignPk
  signature := roster.signature
  headHash := rosterHeadHash P roster
  quarantined := quarantined

def certRow (cert : DeviceCert) (ordinal : Nat) : ContactDeviceRow where
  personUserId := personUserId
  deviceId := cert.deviceId P
  ordinal := ordinal
  deviceSignPk := some cert.deviceSignPk
  deviceAgreePk := some cert.deviceAgreePk
  addedEpoch := some cert.addedEpoch
  flags := some cert.flags
  signerSignPk := some cert.signerSignPk
  signature := some cert.signature
  revokedAtSeq := none

def tombstoneRow (tombstone : DeviceTombstone) (ordinal : Nat) : ContactDeviceRow where
  personUserId := personUserId
  deviceId := tombstone.deviceId
  ordinal := ordinal
  deviceSignPk := none
  deviceAgreePk := none
  addedEpoch := none
  flags := none
  signerSignPk := none
  signature := none
  revokedAtSeq := some tombstone.revokedAtSeq

/-- The `contact_devices` rows of a document, in the order they are inserted. -/
def deviceRows : List ContactDeviceRow :=
  roster.devices.zipIdx.map (fun (cert, ordinal) => certRow P roster.personId cert ordinal) ++
    roster.tombstones.zipIdx.map fun (tombstone, ordinal) =>
      tombstoneRow roster.personId tombstone ordinal

/-- `save_roster`: replace what is stored for this person. -/
def saveRoster : Tx Store CoreError Unit := do
  if ∃ cert ∈ roster.devices, cert.personId ≠ roster.personId then
    throw (.store "device certificate names a different person than its roster")
  modify fun s =>
    { s with
      contactRosters :=
        upsert (·.personUserId) (headerRow P roster quarantined) s.contactRosters
      contactDevices := s.contactDevices.filter fun row => row.personUserId ≠ roster.personId }
  let s ← get
  match insertAll (fun row => (row.personUserId, row.deviceId)) (deviceRows P roster)
      s.contactDevices with
  | some contactDevices => set { s with contactDevices }
  | none => throw (.store
      "UNIQUE constraint failed: contact_devices.person_user_id, contact_devices.device_id")

/-- `set_quarantined`: an update, so nothing happens where nothing is stored. -/
def setQuarantined (s : Store) : Store :=
  { s with
    contactRosters := update (·.personUserId) personUserId
      (fun row => { row with quarantined }) s.contactRosters }

end Operations

/-! ## Reading back what was written -/

section RoundTrip
variable {P : Primitives} {s : Store} {person : Bytes}

theorem readDeviceRows_tombstones : ∀ (tombstones : List DeviceTombstone) (k : Nat),
    readDeviceRows person ((tombstones.zipIdx k).map fun (tombstone, ordinal) =>
      tombstoneRow person tombstone ordinal) = .ok ([], tombstones)
  | [], _ => rfl
  | tombstone :: rest, k => by
    rw [zipIdx_cons, map_cons, readDeviceRows]
    rw [readDeviceRows_tombstones rest (k + 1)]
    rfl

theorem readDeviceRows_certs {rows : List ContactDeviceRow} {tombstones : List DeviceTombstone}
    (hrows : readDeviceRows person rows = .ok ([], tombstones)) :
    ∀ (devices : List DeviceCert) (k : Nat), (∀ cert ∈ devices, cert.personId = person) →
      readDeviceRows person (((devices.zipIdx k).map fun (cert, ordinal) =>
        certRow P person cert ordinal) ++ rows) = .ok (devices, tombstones)
  | [], _, _ => hrows
  | cert :: rest, k, hperson => by
    have hcert : certOfRow person (certRow P person cert k) = .ok cert := by
      rw [← hperson cert mem_cons_self]
      rfl
    rw [zipIdx_cons, map_cons, cons_append, readDeviceRows]
    rw [hcert, readDeviceRows_certs hrows rest (k + 1) fun c hc => hperson c (mem_cons_of_mem _ hc)]
    rfl

/-- Numbered rows come in the order of their numbers. -/
theorem zipIdx_ordered {α : Type} (l : List α) (k : Nat) :
    (l.zipIdx k).Pairwise fun a b => a.2 ≤ b.2 := by
  rw [← pairwise_map (f := Prod.snd), zipIdx_map_snd]
  exact pairwise_le_range'

/-- The rows of a document are inserted in the order they are read: certificates
before tombstones, each by ordinal. So sorting them changes nothing. -/
theorem insertionSort_deviceRows (roster : Roster) :
    (deviceRows P roster).insertionSort (fun a b =>
      toLex (a.revokedAtSeq.isSome.toNat, a.ordinal) ≤
        toLex (b.revokedAtSeq.isSome.toNat, b.ordinal)) = deviceRows P roster := by
  refine List.Pairwise.insertionSort_eq ?_
  unfold deviceRows
  rw [pairwise_append, pairwise_map, pairwise_map]
  refine ⟨?_, ?_, ?_⟩
  · refine (zipIdx_ordered roster.devices 0).imp ?_
    intro a b hab
    exact Prod.Lex.toLex_le_toLex.mpr (.inr ⟨rfl, hab⟩)
  · refine (zipIdx_ordered roster.tombstones 0).imp ?_
    intro a b hab
    exact Prod.Lex.toLex_le_toLex.mpr (.inr ⟨rfl, hab⟩)
  · intro a ha b hb
    obtain ⟨entry, _, rfl⟩ := mem_map.mp ha
    obtain ⟨entry', _, rfl⟩ := mem_map.mp hb
    exact Prod.Lex.toLex_le_toLex.mpr (.inl Nat.zero_lt_one)

end RoundTrip

/-! ## What the rows of one person stand for -/

/-- The rows of `person` are exactly those of this state. -/
def Holds (P : Primitives) (s : Store) (person : Bytes) (st : ContactRosterState) : Prop :=
  match st.roster with
  | none =>
    (s.contactRosterRow person = none ∧ st.quarantined = false) ∨
      ∃ header, s.contactRosterRow person = some header ∧ header.headHash = [] ∧
        header.quarantined = st.quarantined
  | some roster =>
    roster.personId = person ∧ (∀ cert ∈ roster.devices, cert.personId = roster.personId) ∧
      s.contactRosterRow person = some (headerRow P roster st.quarantined) ∧
      s.contactDevices.filter (fun row => row.personUserId = person) = deviceRows P roster

/-- Nothing about `person` differs between the two stores. -/
structure SameRows (person : Bytes) (s s' : Store) : Prop where
  signPk : s'.contactSignPk person = s.contactSignPk person
  row : s'.contactRosterRow person = s.contactRosterRow person
  devices : s'.contactDevices.filter (fun row => row.personUserId = person) =
    s.contactDevices.filter fun row => row.personUserId = person

theorem SameRows.trans {person : Bytes} {a b c : Store} (hab : SameRows person a b)
    (hbc : SameRows person b c) : SameRows person a c :=
  ⟨hbc.signPk.trans hab.signPk, hbc.row.trans hab.row, hbc.devices.trans hab.devices⟩

section Holds
variable {P : Primitives} {s s' : Store} {person : Bytes} {st : ContactRosterState}

/-- Reading gives back the state the rows stand for, and writes nothing. -/
theorem loadState_of_holds (h : Holds P s person st) : loadState P person s = .ok (st, s) := by
  obtain ⟨roster, quarantined⟩ := st
  unfold loadState
  rw [Tx.get_bind]
  cases roster with
  | none =>
    rcases h with ⟨hrow, hq⟩ | ⟨header, hrow, hhead, hq⟩
    · obtain rfl : quarantined = false := hq
      rw [hrow]; rfl
    · obtain rfl : header.quarantined = quarantined := hq
      rw [hrow]; dsimp only; rw [if_pos hhead]; rfl
  | some roster =>
    obtain ⟨hperson, hcerts, hrow, hrows⟩ := h
    have hread : readDeviceRows person (s.contactDeviceRows person) =
        .ok (roster.devices, roster.tombstones) := by
      unfold Store.contactDeviceRows
      rw [hrows, insertionSort_deviceRows, ← hperson]
      exact readDeviceRows_certs (readDeviceRows_tombstones _ _) _ _ hcerts
    have hhead : (headerRow P roster quarantined).headHash ≠ [] := rosterHeadHash_ne_nil P roster
    rw [hrow]
    dsimp only
    rw [if_neg hhead, hread, Tx.bind_apply_ok (Tx.lift_ok_apply _ s)]
    subst hperson
    -- the rebuilt document is the stored one, so its head is the stored head
    show (if rosterHeadHash P roster ≠ rosterHeadHash P roster then _ else
      (pure ⟨some roster, quarantined⟩ : Tx Store CoreError ContactRosterState)) s = _
    rw [if_neg (not_not.mpr rfl)]
    rfl

theorem Holds.congr (h : Holds P s person st) (hsame : SameRows person s s') :
    Holds P s' person st := by
  unfold Holds at h ⊢
  rw [hsame.row, hsame.devices]
  exact h

theorem contactRosterRow_setQuarantined (other : Bytes) (quarantined : Bool) :
    (setQuarantined other quarantined s).contactRosterRow person =
      if other = person then (s.contactRosterRow person).map fun row => { row with quarantined }
      else s.contactRosterRow person := by
  apply lookup_update
  intro row
  rfl

/-- Setting the bit of a person something is stored for changes the bit alone. -/
theorem Holds.setQuarantined_self (h : Holds P s person st) {quarantined : Bool}
    (hstored : st.roster ≠ none ∨ st.quarantined = true) :
    Holds P (setQuarantined person quarantined s) person ⟨st.roster, quarantined⟩ := by
  have hrow : (setQuarantined person quarantined s).contactRosterRow person =
      (s.contactRosterRow person).map fun row => { row with quarantined } := by
    rw [contactRosterRow_setQuarantined, if_pos rfl]
  obtain ⟨roster, wasQuarantined⟩ := st
  cases roster with
  | none =>
    rcases h with ⟨_, hq⟩ | ⟨header, hheader, hhead, _⟩
    · -- nothing is stored at all, which the hypothesis excludes
      rcases hstored with hne | hset
      · exact absurd rfl hne
      · exact absurd (hset.symm.trans hq) (by decide)
    · refine .inr ⟨{ header with quarantined }, ?_, hhead, rfl⟩
      rw [hrow, hheader]; rfl
  | some roster =>
    obtain ⟨hperson, hcerts, hheader, hrows⟩ := h
    refine ⟨hperson, hcerts, ?_, hrows⟩
    rw [hrow, hheader]; rfl

/-- Healing one person's damaged rows touches nobody else's. -/
theorem sameRows_selfHeal {other : Bytes} {quarantined : Bool} (hne : other ≠ person) :
    SameRows person s (selfHealDamagedRoster other quarantined s) := by
  have hdelete : SameRows person s (deletePerson other s) := by
    refine ⟨rfl, ?_, ?_⟩
    · exact lookup_filter_ne fun h => hne h.symm
    · unfold deletePerson
      rw [filter_filter]
      refine filter_congr fun row _ => ?_
      by_cases hrow : row.personUserId = person
      · simp [hrow, Ne.symm hne]
      · simp [hrow]
  cases quarantined with
  | false => exact hdelete
  | true =>
    refine hdelete.trans ⟨rfl, ?_, rfl⟩
    exact lookup_append_of_ne hne

/-- Reading one person's state touches nobody else's rows. -/
theorem loadState_sameRows {other : Bytes} {st' : ContactRosterState} (hne : other ≠ person)
    (h : loadState P other s = .ok (st', s')) : SameRows person s s' := by
  unfold loadState at h
  rw [Tx.get_bind] at h
  cases hrow : s.contactRosterRow other with
  | none =>
    rw [hrow] at h
    cases h
    exact ⟨rfl, rfl, rfl⟩
  | some header =>
    rw [hrow] at h
    dsimp only at h
    split at h
    · cases h
      exact ⟨rfl, rfl, rfl⟩
    cases hread : readDeviceRows other (s.contactDeviceRows other) with
    | error e =>
      rw [hread] at h
      cases h
    | ok rows =>
      rw [hread, Tx.bind_apply_ok (Tx.lift_ok_apply _ s)] at h
      split at h
      · cases h
        exact sameRows_selfHeal hne
      · cases h
        exact ⟨rfl, rfl, rfl⟩

end Holds

/-! ## Saving a document -/

section Save
variable {P : Primitives} {s : Store} {person : Bytes}
  {roster : Roster} {root : Bytes} {quarantined : Bool}

theorem deviceRows_person {row : ContactDeviceRow} (h : row ∈ deviceRows P roster) :
    row.personUserId = roster.personId := by
  rcases mem_append.mp h with h | h
  · obtain ⟨entry, _, rfl⟩ := mem_map.mp h
    rfl
  · obtain ⟨entry, _, rfl⟩ := mem_map.mp h
    rfl

theorem deviceRows_keys : (deviceRows P roster).map (fun row => (row.personUserId, row.deviceId)) =
    (roster.deviceIds P ++ roster.tombstoneIds).map fun id => (roster.personId, id) := by
  unfold deviceRows Roster.deviceIds Roster.tombstoneIds
  conv_rhs =>
    rw [← zipIdx_map_fst 0 roster.devices, ← zipIdx_map_fst 0 roster.tombstones]
  simp only [map_append, map_map]
  rfl

/-- The keys of the rows of a valid document are distinct. -/
theorem deviceRows_keys_nodup (h : ValidRoster P roster root) :
    ((deviceRows P roster).map fun row => (row.personUserId, row.deviceId)).Nodup := by
  rw [deviceRows_keys]
  refine List.Nodup.map (fun a b hab => (Prod.mk.inj hab).2) ?_
  refine nodup_append.mpr ⟨h.devices_nodup, h.tombstones_nodup, ?_⟩
  rintro id hid _ htomb rfl
  obtain ⟨tombstone, hmem, rfl⟩ := mem_map.mp htomb
  exact (h.tombstones tombstone hmem).2 hid

/-- The state after a valid document has been saved. -/
def savedRoster (P : Primitives) (roster : Roster) (quarantined : Bool) (s : Store) : Store :=
  { s with
    contactRosters :=
      upsert (·.personUserId) (headerRow P roster quarantined) s.contactRosters
    contactDevices :=
      (s.contactDevices.filter fun row => row.personUserId ≠ roster.personId) ++
        deviceRows P roster }

/-- A valid document is saved without an error. -/
theorem saveRoster_of_valid (h : ValidRoster P roster root) :
    saveRoster P roster quarantined s = .ok ((), savedRoster P roster quarantined s) := by
  have hcerts : ¬ ∃ cert ∈ roster.devices, cert.personId ≠ roster.personId := by
    rintro ⟨cert, hmem, hne⟩
    exact hne (h.certs cert hmem).2.1
  -- the person's old rows are gone, so no key of the new ones is taken
  have hinsert : insertAll (fun row : ContactDeviceRow => (row.personUserId, row.deviceId))
      (deviceRows P roster)
      (s.contactDevices.filter fun row => row.personUserId ≠ roster.personId) =
      some ((s.contactDevices.filter fun row => row.personUserId ≠ roster.personId) ++
        deviceRows P roster) := by
    refine insertAll_eq_some (deviceRows_keys_nodup h) ?_
    intro row hrow held hheld heq
    have hother : held.personUserId ≠ roster.personId := by
      simpa using (mem_filter.mp hheld).2
    exact hother ((Prod.mk.inj heq).1.trans (deviceRows_person hrow))
  unfold saveRoster
  rw [if_neg hcerts]
  show (match insertAll _ (deviceRows P roster) _ with
    | some contactDevices => _
    | none => _ : Tx Store CoreError Unit) _ = _
  rw [hinsert]
  rfl

theorem contactRosterRow_savedRoster :
    (savedRoster P roster quarantined s).contactRosterRow person =
      if roster.personId = person then some (headerRow P roster quarantined)
      else s.contactRosterRow person :=
  lookup_upsert person (headerRow P roster quarantined) s.contactRosters

theorem filter_savedRoster :
    (savedRoster P roster quarantined s).contactDevices.filter
        (fun row => row.personUserId = person) =
      if roster.personId = person then deviceRows P roster
      else s.contactDevices.filter fun row => row.personUserId = person := by
  have hkept : ∀ row ∈ deviceRows P roster, row.personUserId = roster.personId :=
    fun row hrow => deviceRows_person hrow
  unfold savedRoster
  rw [filter_append, filter_filter]
  by_cases hperson : roster.personId = person
  · have hold : s.contactDevices.filter (fun row => decide (row.personUserId = person) &&
        decide (row.personUserId ≠ roster.personId)) = [] := by
      refine filter_eq_nil_iff.mpr fun row _ => ?_
      simp [hperson]
    have hnew : (deviceRows P roster).filter (fun row => row.personUserId = person) =
        deviceRows P roster :=
      filter_eq_self.mpr fun row hrow => by simpa [← hperson] using hkept row hrow
    rw [if_pos hperson, hold, hnew, nil_append]
  · have hold : s.contactDevices.filter (fun row => decide (row.personUserId = person) &&
        decide (row.personUserId ≠ roster.personId)) =
        s.contactDevices.filter fun row => row.personUserId = person := by
      refine filter_congr fun row _ => ?_
      by_cases hrow : row.personUserId = person
      · simp [hrow, Ne.symm hperson]
      · simp [hrow]
    have hnew : (deviceRows P roster).filter (fun row => row.personUserId = person) = [] :=
      filter_eq_nil_iff.mpr fun row hrow => by simpa [hkept row hrow] using hperson
    rw [if_neg hperson, hold, hnew, append_nil]

theorem holds_savedRoster (h : ValidRoster P roster root) :
    Holds P (savedRoster P roster quarantined s) roster.personId ⟨some roster, quarantined⟩ := by
  refine ⟨rfl, fun cert hmem => (h.certs cert hmem).2.1, ?_, ?_⟩
  · rw [contactRosterRow_savedRoster, if_pos rfl]
  · rw [filter_savedRoster, if_pos rfl]

theorem sameRows_savedRoster (hne : roster.personId ≠ person) :
    SameRows person s (savedRoster P roster quarantined s) where
  signPk := rfl
  row := by rw [contactRosterRow_savedRoster, if_neg hne]
  devices := by rw [filter_savedRoster, if_neg hne]

end Save

/-! ## What they leave alone -/

/-- Dropping damaged rows leaves the bit. -/
theorem contactRosterRow_selfHeal (person : Bytes) (s : Store) (quarantined : Bool) :
    (selfHealDamagedRoster person quarantined s).contactRosterRow person =
      if quarantined = true then some (quarantineOnlyRow person) else none := by
  have hnone : (s.contactRosters.filter fun row => row.personUserId ≠ person).find?
      (fun row => decide (row.personUserId = person)) = none := by
    rw [List.find?_eq_none]
    intro row hrow
    have hne := of_decide_eq_true (mem_filter.mp hrow).2
    simpa using hne
  cases quarantined with
  | false => exact hnone
  | true =>
    show ((s.contactRosters.filter fun row => row.personUserId ≠ person) ++
      [quarantineOnlyRow person]).find? (fun row => decide (row.personUserId = person)) = _
    rw [List.find?_append, hnone]
    simp [quarantineOnlyRow]

section Frames
variable {P : Primitives} {τ : Type} {view : Store → τ}

/-- Reading a roster state may drop rows of the two contact tables and nothing else. -/
theorem keeps_loadState
    (hview : ∀ s rosters devices,
      view { s with contactRosters := rosters, contactDevices := devices } = view s)
    (person : Bytes) : Tx.Keeps (loadState P person) view := by
  refine Tx.keeps_bind Tx.keeps_get fun s => ?_
  split
  · exact Tx.keeps_pure _
  split
  · exact Tx.keeps_pure _
  refine Tx.keeps_bind (Tx.keeps_lift _) fun read => ?_
  dsimp only
  split
  · refine Tx.keeps_bind (Tx.keeps_modify fun s => ?_) fun _ => Tx.keeps_pure _
    unfold selfHealDamagedRoster
    split
    · exact hview s _ _
    · exact hview s _ _
  · exact Tx.keeps_pure _

theorem keeps_saveRoster
    (hview : ∀ s rosters devices,
      view { s with contactRosters := rosters, contactDevices := devices } = view s)
    (roster : Roster) (quarantined : Bool) : Tx.Keeps (saveRoster P roster quarantined) view := by
  intro s u s' h
  unfold saveRoster at h
  split at h
  · cases h
  dsimp only at h
  rw [Tx.bind_apply_ok (Tx.modify_apply _ _), Tx.get_bind] at h
  generalize insertAll (fun row : ContactDeviceRow => (row.personUserId, row.deviceId))
    (deviceRows P roster) _ = inserted at h
  cases inserted with
  | none => cases h
  | some devices =>
    rw [← (ok_pair_inj h).2]
    exact hview s _ _

end Frames
end CruiseMesh
