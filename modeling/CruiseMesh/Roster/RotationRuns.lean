import CruiseMesh.Roster.RevocationResume

/-!
# Mail across rotations

A rotation rewrites the only copy of each retained record: opened with the superseded
inbox key, sealed to the rotated one. Here a device runs the ceremony any number of
times, with commits cut short anywhere, and the question is which key opens a record at
the end.

The invariant is `Mailbox`: no two rows share a slot, and each copy holds the record of
its own slot. Under it one commit, wherever it is cut, carries every row to a row of the
same slot that is the same row or opens with the rotated key (`throughout_commit`), and
`Carries` composes along a run. So a record is readable at the end when the keys that
were sealed to are keys of commits that completed (`rotation_keeps_mail`). Nothing makes
sure that they are: a half-committed update can be replaced by another one of the same
generation, and what it had re-sealed by then opens with neither key.
-/

namespace CruiseMesh
open Durable Prog List Table

/-! ## Reading a slot -/

/-- What a record says, apart from what re-sealing stamps on it. -/
def SyncRecord.content (record : SyncRecord) : SyncRecord :=
  { record with rosterVersion := ⟨0, 0⟩, inboxKeyGeneration := 0, signature := [] }

variable (P : Primitives)

/-- The record in a slot, opened with a key. -/
def Store.openSlot (s : Store) (slot : Bytes × UInt8 × Nat) (agreeSk : Bytes) :
    Option SyncRecord := do
  let row ← lookup SyncStreamRow.slot slot s.syncStreamRecords
  let copy ← row.copy
  (openSyncRow P agreeSk copy.body).toOption

/-- The copy in a row is the record of the row's slot, sealed by a device to some key. -/
def SyncStreamRow.Retained (row : SyncStreamRow) : Prop :=
  ∀ copy ∈ row.copy, ∃ (record : SyncRecord) (device : DeviceKeypair) (sk : Bytes) (e : SealEntropy),
    device.WellFormed P ∧ record.payload.length ≤ syncRecordMaxPayloadBytes ∧
      record.personId.length ≤ u16Max ∧
        copy.body = (record.sealedTo P device (P.agreePublicKey sk) e).body ∧
          row.slot = (record.signedBy P device.signSk).slot

/-- The retained records of a store, at positions up to `bound`. -/
structure Mailbox (bound : Nat) (s : Store) : Prop where
  slots : (s.syncStreamRecords.map SyncStreamRow.slot).Nodup
  retained : ∀ row ∈ s.syncStreamRecords, row.Retained P
  positions : ∀ row ∈ s.syncStreamRecords, row.streamSeq ≤ bound

/-! ## The ceremony, call by call -/

/-- One call. A commit is given the number of its durable writes that survive. -/
inductive CeremonyStep where
  | begin (update : RevocationUpdate) (root : Bytes) (device : DeviceKeypair) (nowMs : Int)
  | abandon
  | commit (update : RevocationUpdate) (root : Bytes) (device : DeviceKeypair)
      (superseded : Option InboxKey) (nowMs : Int) (entropy : CommitEntropy) (writes : Nat)

namespace CeremonyStep
variable (P : Primitives) (s : Store)

/-- The store a call leaves behind. -/
def run : CeremonyStep → Store
  | begin update root device nowMs => (beginOwnRevocation P update root device nowMs).final s
  | abandon => abandonOwnRevocation.final s
  | commit update root device superseded nowMs entropy writes =>
    (commitOwnRevocation P update root device superseded nowMs entropy).survivor writes s

/-- The key of a commit that returned with all its writes durable. -/
def completedKey : CeremonyStep → Option InboxKey
  | commit update root device superseded nowMs entropy writes =>
    let program := commitOwnRevocation P update root device superseded nowMs entropy
    if (program.result s).toOption.isSome ∧ (program.cuts s).length ≤ writes + 1 then
      some update.inboxKey
    else none
  | _ => none

/-- The key of a commit that rewrote a retained row. -/
def resealedKey : CeremonyStep → Option InboxKey
  | commit update root device superseded nowMs entropy writes =>
    let survived := run P s (commit update root device superseded nowMs entropy writes)
    if ∀ row ∈ s.syncStreamRecords, row ∈ survived.syncStreamRecords then none
    else some update.inboxKey
  | _ => none

/-- A commit is not cut in the middle: it returns with all its writes durable, or none of them
is. -/
def Whole : CeremonyStep → Prop
  | commit update root device superseded nowMs entropy writes =>
    let program := commitOwnRevocation P update root device superseded nowMs entropy
    writes = 0 ∨ (program.result s).toOption.isSome ∧ (program.cuts s).length ≤ writes + 1
  | _ => True

/-- The device keypair of the call is one the generator made. -/
def GenuineDevice : CeremonyStep → Prop
  | begin _ _ device _ => device.WellFormed P
  | abandon => True
  | commit _ _ device _ _ _ _ => device.WellFormed P

end CeremonyStep

section Runs
variable (P : Primitives) (s : Store) (steps : List CeremonyStep)

def runCeremony : Store :=
  steps.foldl (fun s step => step.run P s) s

/-- What each call of a run puts out, in order. -/
def collectKeys (key : Store → CeremonyStep → Option InboxKey) :
    Store → List CeremonyStep → List InboxKey
  | _, [] => []
  | s, step :: rest => (key s step).toList ++ collectKeys key (step.run P s) rest

/-- The keys of the updates whose commit completed. -/
def completedKeys : List InboxKey :=
  collectKeys P (CeremonyStep.completedKey P) s steps

/-- The keys that some retained row was re-sealed to. -/
def resealedKeys : List InboxKey :=
  collectKeys P (CeremonyStep.resealedKey P) s steps

/-- No commit of the run is cut in the middle. -/
def AllWhole : Store → List CeremonyStep → Prop
  | _, [] => True
  | s, step :: rest => step.Whole P s ∧ AllWhole (step.run P s) rest

end Runs

/-! ## One row -/

section Rows
variable {P : Primitives} {row row' row'' : SyncStreamRow}

/-- A row carried along: the same slot, and either the same row or a copy that opens with
one of the keys, to what any key that opened the old copy gave. -/
def SyncStreamRow.Carries (P : Primitives) (keys : List InboxKey) (row row' : SyncStreamRow) :
    Prop :=
  row'.slot = row.slot ∧ (row' = row ∨ ∃ copy ∈ row.copy, ∃ copy' ∈ row'.copy, ∃ key ∈ keys,
    ∃ record', openSyncRow P key.agreeSk copy'.body = .ok record' ∧
      ∀ sk record, openSyncRow P sk copy.body = .ok record → record'.content = record.content)

theorem SyncStreamRow.Carries.refl (keys : List InboxKey) (row : SyncStreamRow) :
    row.Carries P keys row := ⟨rfl, .inl rfl⟩

variable {keys : List InboxKey}

theorem SyncStreamRow.Carries.mono {keys' : List InboxKey} (h : row.Carries P keys row')
    (hkeys : keys ⊆ keys') : row.Carries P keys' row' := by
  obtain ⟨hslot, hrow⟩ := h
  refine ⟨hslot, hrow.imp_right ?_⟩
  intro ⟨copy, hcopy, copy', hcopy', key, hkey, h⟩
  exact ⟨copy, hcopy, copy', hcopy', key, hkeys hkey, h⟩

theorem SyncStreamRow.Carries.trans (h₁ : row.Carries P keys row')
    (h₂ : row'.Carries P keys row'') : row.Carries P keys row'' := by
  obtain ⟨hslot₁, hrow₁⟩ := h₁
  obtain ⟨hslot₂, hrow₂⟩ := h₂
  refine ⟨hslot₂.trans hslot₁, ?_⟩
  rcases hrow₂ with rfl | ⟨mid₂, hmid₂, last, hlast, key₂, hkey₂, record₂, hopen₂, hsame₂⟩
  · exact hrow₁
  right
  rcases hrow₁ with rfl | ⟨first, hfirst, mid₁, hmid₁, key₁, _, record₁, hopen₁, hsame₁⟩
  · exact ⟨mid₂, hmid₂, last, hlast, key₂, hkey₂, record₂, hopen₂, hsame₂⟩
  · -- the copy in the middle is one copy, and the first key opens it
    obtain rfl := Option.mem_unique hmid₁ hmid₂
    refine ⟨first, hfirst, last, hlast, key₂, hkey₂, record₂, hopen₂, ?_⟩
    intro sk record hopen
    rw [hsame₂ key₁.agreeSk record₁ hopen₁, hsame₁ sk record hopen]

/-- Every key that opens a retained copy gives the same record, and it is the record of
the row's slot. -/
theorem SyncStreamRow.Retained.opened (hbox : SymbolicBoxes P) (h : row.Retained P)
    (hseq : row.streamSeq < 256 ^ 8) {copy : SealedSyncRecord} (hcopy : copy ∈ row.copy) :
    ∃ held : SyncRecord, held.slot = row.slot ∧ held.narrowed = held ∧
      ∀ sk record, openSyncRow P sk copy.body = .ok record → record = held := by
  obtain ⟨record, device, sk, e, hdevice, hpayload, hperson, hbody, hslot⟩ := h copy hcopy
  have hpos : row.streamSeq = record.streamSeq := congrArg (·.2.2) hslot
  refine ⟨(record.signedBy P device.signSk).narrowed, ?_, ?_, ?_⟩
  · rw [hslot]
    show (_, _, record.streamSeq % 256 ^ 8) = (_, _, record.streamSeq)
    rw [Nat.mod_eq_of_lt (hpos ▸ hseq)]
    rfl
  · simp [SyncRecord.narrowed]
  · intro sk' opened hopen
    rw [hbody] at hopen
    obtain ⟨message, hmessage, _⟩ := bind_eq_ok.mp hopen
    obtain ⟨hlen, hkey⟩ := hbox.key_of_open hmessage
    rw [← hkey, openSyncRow_sealedTo hpayload hperson hdevice hlen] at hopen
    exact (Except.ok.inj hopen).symm

end Rows

/-! ## One commit -/

section Commit
variable {P : Primitives} {bound : Nat} {s x : Store} {device : DeviceKeypair}
  {update : RevocationUpdate} {root : Bytes} {superseded : Option InboxKey} {nowMs : Int}
  {entropy : CommitEntropy}

/-- Every row of `s` is carried to a row of `x`. -/
def Store.CarriesTo (P : Primitives) (keys : List InboxKey) (s x : Store) : Prop :=
  ∀ row ∈ s.syncStreamRecords, ∃ row' ∈ x.syncStreamRecords, row.Carries P keys row'

theorem Store.CarriesTo.refl (keys : List InboxKey) (s : Store) : s.CarriesTo P keys s :=
  fun row hrow => ⟨row, hrow, .refl keys row⟩

theorem wellFormed_id (hdevice : device.WellFormed P) :
    P.deriveUserId (P.verifyingKey device.signSk) = device.deviceId := by
  rw [hdevice.deviceId_eq, hdevice.signPk_eq]

variable {generation : Nat} {stored : StoredSyncRecord} {record : SyncRecord} {roster : Roster}
  {slot : Bytes × UInt8 × Nat} {copy : SealedSyncRecord} {key : InboxKey} {e : SealEntropy}

theorem row_of_stored {authorDeviceId : Bytes}
    (h : stored ∈ s.sealedRecordsAtGeneration authorDeviceId generation) :
    ∃ row ∈ s.syncStreamRecords, row.authorDeviceId = authorDeviceId ∧
      ∃ copy ∈ row.copy, copy.body = stored.body := by
  obtain ⟨row, hrow, hstored⟩ := mem_filterMap.mp h
  have hmem := mem_filter.mp ((mem_insertionSort _).mp hrow)
  have hauthor : row.authorDeviceId = authorDeviceId := (of_decide_eq_true hmem.2).1
  refine ⟨row, hmem.1, hauthor, ?_⟩
  cases hcopy : row.copy with
  | none =>
    rw [hcopy] at hstored
    cases hstored
  | some copy =>
    cases hkind : coreSyncRecordKindOf row.kind with
    | none =>
      rw [hcopy, hkind] at hstored
      cases hstored
    | some kind =>
      rw [hcopy, hkind] at hstored
      refine ⟨copy, rfl, ?_⟩
      rw [← Option.some.inj hstored]

/-- The next position of a stream is at most one above all of them. -/
theorem Mailbox.nextStreamSeq_le (h : Mailbox P bound s) (author : Bytes) (kind : SyncRecordKind) :
    s.nextStreamSeq author kind ≤ bound + 1 := by
  refine Nat.succ_le_succ (foldl_max_le.mpr ⟨Nat.zero_le _, ?_⟩)
  intro seq hseq
  obtain ⟨row, hrow, rfl⟩ := mem_map.mp hseq
  exact h.positions row (mem_of_mem_filter hrow)

theorem Mailbox.withSlot {bound' : Nat} {row : SyncStreamRow} (h : Mailbox P bound s)
    (hrow : row.Retained P) (hseq : row.streamSeq ≤ bound') (hle : bound ≤ bound') :
    Mailbox P bound' (s.withSlot row) where
  slots := nodup_insertOrIgnore h.slots
  retained held hheld := by
    rcases mem_insertOrIgnore hheld with hold | rfl
    · exact h.retained held hold
    · exact hrow
  positions held hheld := by
    rcases mem_insertOrIgnore hheld with hold | rfl
    · exact (h.positions held hold).trans hle
    · exact hseq

theorem mem_resealed {row : SyncStreamRow} (h : row ∈ (s.resealed slot copy).syncStreamRecords) :
    ∃ old ∈ s.syncStreamRecords, row.slot = old.slot ∧
      (row = old ∨ old.slot = slot ∧ row.copy = some copy) := by
  obtain ⟨old, hold, rfl⟩ := mem_map.mp h
  refine ⟨old, hold, ?_⟩
  by_cases hslot : old.slot = slot
  · rw [if_pos hslot]
    exact ⟨rfl, .inr ⟨hslot, rfl⟩⟩
  · rw [if_neg hslot]
    exact ⟨rfl, .inl rfl⟩

/-- A slot whose copy is replaced by a copy of its own record. -/
theorem Mailbox.resealed (h : Mailbox P bound s)
    (hcopy : ∀ row : SyncStreamRow, row.slot = slot → row.copy = some copy → row.Retained P) :
    Mailbox P bound (s.resealed slot copy) where
  slots := by
    rw [slots_resealed]
    exact h.slots
  retained row hrow := by
    obtain ⟨old, hold, hslot, hsame⟩ := mem_resealed hrow
    rcases hsame with rfl | ⟨heq, hnew⟩
    · exact h.retained row hold
    · exact hcopy row (hslot.trans heq) hnew
  positions row hrow := by
    obtain ⟨old, hold, hslot, _⟩ := mem_resealed hrow
    have hpos : row.streamSeq = old.streamSeq := congrArg (·.2.2) hslot
    rw [hpos]
    exact h.positions old hold

/-- What holds of the stores a commit started in `s` can leave. -/
structure CommitKeeps (P : Primitives) (bound : Nat) (key : InboxKey) (s x : Store) : Prop where
  mailbox : Mailbox P bound x
  carries : s.CarriesTo P [key] x

theorem CommitKeeps.congr {y : Store} (h : CommitKeeps P bound key s x)
    (hrows : y.syncStreamRecords = x.syncStreamRecords) : CommitKeeps P bound key s y where
  mailbox :=
    { slots := hrows ▸ h.mailbox.slots
      retained := hrows ▸ h.mailbox.retained
      positions := hrows ▸ h.mailbox.positions }
  carries row hrow := by
    rw [hrows]
    exact h.carries row hrow

/-- One turn of the re-sealing loop. The rows it goes over are those of the store the
commit found, so the row it rewrites is known from there. -/
theorem CommitKeeps.resealed {sk : Bytes} (hbox : SymbolicBoxes P) (hdevice : device.WellFormed P)
    (hkey : key.Consistent P) (hmail : Mailbox P bound s) (hbound : bound < 256 ^ 8)
    (hstored : stored ∈ s.sealedRecordsAtGeneration device.deviceId generation)
    (hopen : openSyncRow P sk stored.body = .ok record) (h : CommitKeeps P bound key s x) :
    CommitKeeps P bound key s (x.resealed (record.ownSlot P device)
      (record.rotatedCopy P device roster key e)) := by
  obtain ⟨row, hrow, hauthor, copy, hcopy, hbody⟩ := row_of_stored hstored
  have hseq : row.streamSeq < 256 ^ 8 := lt_of_le_of_lt (hmail.positions row hrow) hbound
  obtain ⟨held, hslot, hnarrow, honly⟩ := (hmail.retained row hrow).opened hbox hseq hcopy
  obtain rfl : record = held := honly sk record (hbody ▸ hopen)
  have hown : record.ownSlot P device = row.slot := by
    rw [← hslot]
    have hid : record.authorDeviceId = P.deriveUserId (P.verifyingKey device.signSk) := by
      rw [wellFormed_id hdevice, ← hauthor]
      exact congrArg (·.1) hslot
    show (_, _, _) = (_, _, _)
    rw [hid]
  have hrecauthor : record.authorDeviceId = device.deviceId := by
    rw [← hauthor]
    exact congrArg (·.1) hslot
  obtain ⟨hpayload, hperson⟩ := openSyncRow_bounds hopen
  have hreopen : openSyncRow P key.agreeSk (record.rotatedCopy P device roster key e).body =
      .ok ((record.restamped roster key.generation).signedBy P device.signSk).narrowed := by
    unfold SyncRecord.rotatedCopy
    rw [← hkey.2]
    exact openSyncRow_sealedTo hpayload hperson hdevice hkey.1
  refine ⟨h.mailbox.resealed ?_, ?_⟩
  · -- the new copy is a copy of the record in that slot
    intro new hnew hnewcopy copy' hcopy'
    cases hnewcopy.symm.trans hcopy'
    refine ⟨record.restamped roster key.generation, device, key.agreeSk, e, hdevice, hpayload,
      hperson, ?_, hnew⟩
    rw [hkey.2]
    rfl
  · intro first hfirst
    obtain ⟨old, hold, hcarry⟩ := h.carries first hfirst
    refine ⟨_, mem_map_of_mem hold, ?_⟩
    by_cases hhit : old.slot = record.ownSlot P device
    · -- the row that is rewritten is the one that was opened
      rw [if_pos hhit]
      obtain rfl : first = row :=
        eq_of_key_eq hmail.slots hfirst hrow (hcarry.1.symm.trans (hhit.trans hown))
      refine ⟨hcarry.1, .inr ⟨copy, hcopy, _, rfl, key, mem_singleton_self key, _, hreopen, ?_⟩⟩
      intro sk' opened hopened
      rw [honly sk' opened hopened]
      have hseq : record.streamSeq % 256 ^ 8 = record.streamSeq :=
        congrArg SyncRecord.streamSeq hnarrow
      have htime : Int.bmod record.timestampMs (256 ^ 8) = record.timestampMs :=
        congrArg SyncRecord.timestampMs hnarrow
      simp only [SyncRecord.content, SyncRecord.narrowed, SyncRecord.signedBy, SyncRecord.restamped]
      rw [hseq, htime, wellFormed_id hdevice, ← hrecauthor]
    · rw [if_neg hhit]
      exact hcarry

theorem Store.CarriesTo.withSlot {keys : List InboxKey} (h : s.CarriesTo P keys x)
    (row : SyncStreamRow) : s.CarriesTo P keys (x.withSlot row) := by
  intro first hfirst
  obtain ⟨row', hrow', hcarry⟩ := h first hfirst
  exact ⟨row', subset_insertOrIgnore hrow', hcarry⟩

/-- Wherever a commit is cut, the retained records are still there, each as it was or
sealed to the rotated key. -/
theorem throughout_commit (hbox : SymbolicBoxes P) (hdevice : device.WellFormed P)
    (hmail : Mailbox P bound s) (hbound : bound < 256 ^ 8) :
    (commitOwnRevocation P update root device superseded nowMs entropy).Throughout s
      (CommitKeeps P (bound + 1) update.inboxKey s) := by
  have hstart : CommitKeeps P bound update.inboxKey s s := ⟨hmail, .refl _ s⟩
  have hraise : ∀ x, CommitKeeps P bound update.inboxKey s x →
      CommitKeeps P (bound + 1) update.inboxKey s x := fun x h =>
    ⟨⟨h.mailbox.slots, h.mailbox.retained, fun row hrow =>
      Nat.le_succ_of_le (h.mailbox.positions row hrow)⟩, h.carries⟩
  refine throughout_bind (throughout_commitBody hstart ?_ (fun _ _ hx => hx.congr rfl)
    (fun _ _ hx => hx.congr rfl) (fun _ _ hx => hx.congr rfl) hraise ?_
    (fun _ _ _ _ hx => hx.congr rfl)) fun _ s₁ _ hs₁ => ?_
  · intro key _ stored hstored record hopen hkey e x hx
    exact hx.resealed hbox hdevice hkey hmail hbound hstored hopen
  · intro x payload hpayload hperson hkey hx
    have hrow : (announcementRow P update device (x.nextStreamSeq device.deviceId .ownRoster) nowMs
        payload entropy.announcement).Retained P := by
      generalize x.nextStreamSeq device.deviceId .ownRoster = streamSeq
      rintro copy ⟨⟩
      refine ⟨announcement update device.deviceId streamSeq nowMs payload, device,
        update.inboxKey.agreeSk, entropy.announcement, hdevice, hpayload, hperson, ?_, rfl⟩
      rw [hkey.2]
    exact ⟨hx.mailbox.withSlot hrow (hx.mailbox.nextStreamSeq_le _ _) (Nat.le_succ _),
      hx.carries.withSlot _⟩
  · refine throughout_bind (throughout_write.mpr ⟨hs₁, hs₁.congr rfl⟩)
      fun _ s₂ _ hs₂ => ?_
    refine throughout_inspect_bind.mpr ?_
    exact throughout_lift_bind hs₂ fun _ _ => throughout_pure.mpr hs₂

end Commit

/-! ## A whole run -/

section Run
variable {P : Primitives} {bound : Nat} {s : Store}

theorem abandon_rows : (abandonOwnRevocation.final s).syncStreamRecords = s.syncStreamRecords := by
  have hkeep : abandonOwnRevocation.Throughout s
      fun x => x.syncStreamRecords = s.syncStreamRecords := by
    refine throughout_inspect_bind.mpr ?_
    split
    · exact throughout_bind (throughout_write.mpr ⟨rfl, rfl⟩) fun _ s₁ _ hs₁ =>
        throughout_pure.mpr hs₁
    · exact throughout_pure.mpr rfl
  exact hkeep.final

/-- One call: the rows are carried, with the key it re-sealed to if it rewrote any. -/
theorem step_carries (hbox : SymbolicBoxes P) (hmail : Mailbox P bound s) (hbound : bound < 256 ^ 8)
    {step : CeremonyStep} (hdevice : step.GenuineDevice P) :
    Mailbox P (bound + 1) (step.run P s) ∧
      s.CarriesTo P (step.resealedKey P s).toList (step.run P s) := by
  have hkeep : ∀ x : Store, x.syncStreamRecords = s.syncStreamRecords →
      Mailbox P (bound + 1) x ∧ s.CarriesTo P [] x := by
    intro x hrows
    refine ⟨⟨hrows ▸ hmail.slots, hrows ▸ hmail.retained, ?_⟩, ?_⟩
    · intro row hrow
      exact Nat.le_succ_of_le (hmail.positions row (hrows ▸ hrow))
    · intro row hrow
      exact ⟨row, hrows ▸ hrow, .refl _ row⟩
  cases step with
  | begin update root device nowMs =>
    have hbegin : (beginOwnRevocation P update root device nowMs).Throughout s
        fun x => x.syncStreamRecords = s.syncStreamRecords := by
      refine throughout_lift_bind rfl fun _ _ => ?_
      refine throughout_bind (throughout_write.mpr ⟨rfl, rfl⟩) fun _ s₁ _ hs₁ => ?_
      exact throughout_pure.mpr hs₁
    exact hkeep _ hbegin.final
  | abandon => exact hkeep _ abandon_rows
  | commit update root device superseded nowMs entropy writes =>
    have hcut : CommitKeeps P (bound + 1) update.inboxKey s
        (CeremonyStep.run P s (.commit update root device superseded nowMs entropy writes)) :=
      (throughout_commit hbox hdevice hmail hbound).survivor writes
    refine ⟨hcut.mailbox, ?_⟩
    by_cases hsame : ∀ row ∈ s.syncStreamRecords, row ∈ (CeremonyStep.run P s
        (.commit update root device superseded nowMs entropy writes)).syncStreamRecords
    · exact fun row hrow => ⟨row, hsame row hrow, .refl _ row⟩
    · have hkey : CeremonyStep.resealedKey P s
          (.commit update root device superseded nowMs entropy writes) = some update.inboxKey :=
        if_neg hsame
      rw [hkey]
      exact hcut.carries

/-- A run carries every row, with the keys it re-sealed to. -/
theorem run_carries (hbox : SymbolicBoxes P) : ∀ {steps : List CeremonyStep} {bound : Nat} {s : Store},
    Mailbox P bound s → bound + steps.length < 256 ^ 8 →
    (∀ step ∈ steps, step.GenuineDevice P) →
    Mailbox P (bound + steps.length) (runCeremony P s steps) ∧
      s.CarriesTo P (resealedKeys P s steps) (runCeremony P s steps) := by
  intro steps
  induction steps with
  | nil =>
    intro bound s hmail _ _
    exact ⟨hmail, .refl _ s⟩
  | cons step rest ih =>
    intro bound s hmail hbound hdevices
    have hlen : (step :: rest).length = rest.length + 1 := rfl
    obtain ⟨hmail₁, hcarry₁⟩ := step_carries hbox hmail (by omega)
      (hdevices step mem_cons_self)
    obtain ⟨hmail₂, hcarry₂⟩ := ih hmail₁ (by omega)
      (fun later hlater => hdevices later (mem_cons_of_mem _ hlater))
    have hsum : bound + 1 + rest.length = bound + (step :: rest).length := by omega
    refine ⟨hsum ▸ hmail₂, ?_⟩
    intro row hrow
    obtain ⟨mid, hmid, hfirst⟩ := hcarry₁ row hrow
    obtain ⟨last, hlast, hsecond⟩ := hcarry₂ mid hmid
    exact ⟨last, hlast, (hfirst.mono (subset_append_left _ _)).trans
      (hsecond.mono (subset_append_right _ _))⟩

variable {sk : Bytes} {record : SyncRecord}

theorem Mailbox.openSlot_of_mem (h : Mailbox P bound s) {row : SyncStreamRow}
    (hrow : row ∈ s.syncStreamRecords) {copy : SealedSyncRecord} (hcopy : copy ∈ row.copy)
    (hopen : openSyncRow P sk copy.body = .ok record) :
    s.openSlot P row.slot sk = some record := by
  unfold Store.openSlot
  rw [lookup_of_mem h.slots hrow]
  show (row.copy.bind fun copy => (openSyncRow P sk copy.body).toOption) = some record
  rw [Option.mem_def.mp hcopy]
  show (openSyncRow P sk copy.body).toOption = some record
  rw [hopen]
  rfl

/-- What the current key opened before a run is opened after it by that key, or by one that was
re-sealed to. -/
theorem Mailbox.opened_after {steps : List CeremonyStep} {current : InboxKey}
    {slot : Bytes × UInt8 × Nat} (hbox : SymbolicBoxes P)
    (hmail : Mailbox P bound s) (hbound : bound + steps.length < 256 ^ 8)
    (hdevices : ∀ step ∈ steps, step.GenuineDevice P)
    (hopen : s.openSlot P slot current.agreeSk = some record) :
    ∃ key ∈ current :: resealedKeys P s steps, ∃ record',
      (runCeremony P s steps).openSlot P slot key.agreeSk = some record' ∧
        record'.content = record.content := by
  obtain ⟨row, hfound, hread⟩ := Option.bind_eq_some_iff.mp hopen
  obtain ⟨copy, hcopy, hread⟩ := Option.bind_eq_some_iff.mp hread
  have hopened := toOption_eq_some.mp hread
  have hrow := mem_of_lookup hfound
  obtain rfl := key_of_lookup hfound
  obtain ⟨hmail', hcarry⟩ := run_carries hbox hmail hbound hdevices
  obtain ⟨row', hrow', hslot, hsame⟩ := hcarry row hrow
  rw [← hslot]
  rcases hsame with rfl | ⟨old, hold, copy', hcopy', key, hkey, record', hopen', hcontent⟩
  · -- never rewritten: the current key still opens it
    exact ⟨current, mem_cons_self, record, hmail'.openSlot_of_mem hrow' hcopy hopened, rfl⟩
  · obtain rfl := Option.mem_unique hcopy hold
    exact ⟨key, mem_cons_of_mem _ hkey, record',
      hmail'.openSlot_of_mem hrow' hcopy' hopen', hcontent current.agreeSk record hopened⟩

/-- A commit that is not cut in the middle re-seals to its own key when it completes, and to none
otherwise. -/
theorem resealedKey_of_whole {step : CeremonyStep} (h : step.Whole P s) :
    ∀ key ∈ step.resealedKey P s, key ∈ step.completedKey P s := by
  cases step with
  | begin => exact nofun
  | abandon => exact nofun
  | commit update root device superseded nowMs entropy writes =>
    intro key hkey
    rcases h with rfl | hdone
    · -- none of the writes survives, so no row was rewritten
      have hnone : CeremonyStep.resealedKey P s
          (.commit update root device superseded nowMs entropy 0) = none :=
        if_pos fun _ hrow => hrow
      rw [hnone] at hkey
      cases hkey
    · have hkeys : ∀ c : Prop, ∀ _ : Decidable c,
          key ∈ (if c then none else some update.inboxKey) → key = update.inboxKey := by
        intro c _ hmem
        split at hmem
        · cases hmem
        · exact (Option.some.inj hmem).symm
      obtain rfl := hkeys _ _ hkey
      exact if_pos hdone

theorem resealedKeys_of_allWhole : ∀ {steps : List CeremonyStep} {s : Store}, AllWhole P s steps →
    resealedKeys P s steps ⊆ completedKeys P s steps
  | [], _, _ => nofun
  | step :: rest, s, ⟨hstep, hrest⟩ => by
    intro key hkey
    rcases mem_append.mp hkey with hfirst | hlater
    · refine mem_append_left _ (Option.mem_toList.mpr ?_)
      exact resealedKey_of_whole hstep key (Option.mem_toList.mp hfirst)
    · exact mem_append_right _ (resealedKeys_of_allWhole hrest hlater)

/-- A run none of whose commits is cut in the middle loses no record. -/
theorem uncut_rotation_keeps_mail {steps : List CeremonyStep} {current : InboxKey}
    {slot : Bytes × UInt8 × Nat} (hbox : SymbolicBoxes P)
    (hmail : Mailbox P bound s) (hbound : bound + steps.length < 256 ^ 8)
    (hdevices : ∀ step ∈ steps, step.GenuineDevice P) (hwhole : AllWhole P s steps)
    (hopen : s.openSlot P slot current.agreeSk = some record) :
    ∃ key ∈ current :: completedKeys P s steps, ∃ record',
      (runCeremony P s steps).openSlot P slot key.agreeSk = some record' ∧
        record'.content = record.content := by
  obtain ⟨key, hkey, hrest⟩ := hmail.opened_after hbox hbound hdevices hopen
  exact ⟨key, cons_subset_cons current (resealedKeys_of_allWhole hwhole) hkey, hrest⟩

/-- A run of the ceremony in which every key that was re-sealed to belongs to an update
whose commit completed loses no record: what the current key opened before it is opened
after it by that key or by the key of a completed update. -/
theorem rotation_keeps_mail {steps : List CeremonyStep} {current : InboxKey}
    {slot : Bytes × UInt8 × Nat} {record : SyncRecord} (hbox : SymbolicBoxes P)
    (hmail : Mailbox P bound s) (hbound : bound + steps.length < 256 ^ 8)
    (hdevices : ∀ step ∈ steps, step.GenuineDevice P)
    (hcompleted : ∀ key ∈ resealedKeys P s steps, key ∈ completedKeys P s steps)
    (hopen : s.openSlot P slot current.agreeSk = some record) :
    ∃ key ∈ current :: completedKeys P s steps, ∃ record',
      (runCeremony P s steps).openSlot P slot key.agreeSk = some record' ∧
        record'.content = record.content := by
  obtain ⟨key, hkey, hrest⟩ := hmail.opened_after hbox hbound hdevices hopen
  exact ⟨key, cons_subset_cons current hcompleted hkey, hrest⟩

end Run

namespace Sample

theorem symbolicBoxes : SymbolicBoxes primitives := by
  intro sk sk' _ _ plaintext opened h
  have hlen : (agreeKey sk).length = keyLen := Wire.beBytes_length _ _
  have hopen : openBox sk' (agreeKey sk ++ plaintext) = some opened := h
  unfold openBox at hopen
  rw [take_left' hlen] at hopen
  by_cases hkey : agreeKey sk = agreeKey sk'
  · exact hkey.symm
  · rw [if_neg hkey] at hopen
    cases hopen

def currentKey : InboxKey := coreMintInboxKey primitives 0 (secretKey 5)

/-- A record the device retained under the current key. -/
def note : SyncRecord where
  kind := .settings
  personId := person
  authorDeviceId := device.deviceId
  rosterVersion := pairRoster.version
  inboxKeyGeneration := 0
  streamSeq := 1
  timestampMs := 50
  payload := [1, 2, 3]
  signature := []

def noteRow : SyncStreamRow :=
  (note.signedBy primitives device.signSk).row
    (note.sealedTo primitives device currentKey.agreePk (sealEntropy 40)) 50

def mailStore : Store := { pairStore with syncStreamRecords := [noteRow] }

theorem mailStore_mailbox : Mailbox primitives 1 mailStore where
  slots := nodup_singleton _
  retained row hrow copy hcopy := by
    obtain rfl := mem_singleton.mp hrow
    cases hcopy
    exact ⟨note, device, secretKey 5, sealEntropy 40, revocation_seals.device, by decide,
      by decide, rfl, rfl⟩
  positions row hrow := by
    obtain rfl := mem_singleton.mp hrow
    exact Nat.le_refl 1

/-- The same revocation, planned again with a fresh inbox key. -/
def secondRevocation : RevocationUpdate :=
  { revocation with inboxKey := coreMintInboxKey primitives 1 (secretKey 8) }

def beginOf (update : RevocationUpdate) : CeremonyStep := .begin update personRoot device 100

/-- A commit of which `writes` durable writes survive. -/
def commitOf (update : RevocationUpdate) (writes : Nat) : CeremonyStep :=
  .commit update personRoot device (some currentKey) 200 commitEntropy writes

end Sample

open Sample in
/-- Cut short after re-sealing the record, and then run to its end. -/
theorem rotation_keeps_mail_resumed :
    ∃ key ∈ currentKey :: completedKeys primitives mailStore
        [beginOf revocation, commitOf revocation 1, commitOf revocation 10], ∃ record',
      (runCeremony primitives mailStore [beginOf revocation, commitOf revocation 1,
        commitOf revocation 10]).openSlot primitives noteRow.slot key.agreeSk = some record' ∧
        record'.content = (note.signedBy primitives device.signSk).content := by
  refine rotation_keeps_mail symbolicBoxes mailStore_mailbox (by decide) ?_ ?_ ?_
  · intro step hstep
    simp only [mem_cons, not_mem_nil, or_false] at hstep
    rcases hstep with rfl | rfl | rfl
    · exact revocation_seals.device
    · exact revocation_seals.device
    · exact revocation_seals.device
  · decide +kernel
  · decide +kernel

open Sample in
/-- The commit dies after re-sealing the record, the revocation is planned again and
committed to its end, and no key that is left opens the record. -/
theorem replaced_revocation_loses_mail :
    coreRevokeDevicesRoster primitives pairRoster personRoot (secretKey 2)
      [primitives.deriveUserId otherDeviceKey] currentKey (secretKey 6) = .ok revocation ∧
    coreRevokeDevicesRoster primitives pairRoster personRoot (secretKey 2)
      [primitives.deriveUserId otherDeviceKey] currentKey (secretKey 8) = .ok secondRevocation ∧
    SymbolicBoxes primitives ∧ Mailbox primitives 1 mailStore ∧
    (mailStore.openSlot primitives noteRow.slot currentKey.agreeSk).isSome = true ∧
    completedKeys primitives mailStore [beginOf revocation, commitOf revocation 1,
      beginOf secondRevocation, commitOf secondRevocation 10] = [secondRevocation.inboxKey] ∧
    ∀ key ∈ [currentKey, secondRevocation.inboxKey],
      (runCeremony primitives mailStore [beginOf revocation, commitOf revocation 1,
        beginOf secondRevocation, commitOf secondRevocation 10]).openSlot primitives noteRow.slot
          key.agreeSk = none :=
  ⟨by decide +kernel, by decide +kernel, symbolicBoxes, mailStore_mailbox, by decide +kernel,
    by decide +kernel, by decide +kernel⟩

end CruiseMesh
