import CruiseMesh.Lib.Table
import CruiseMesh.Store.Schema

/-!
# Stream positions

`sync_store.rs`: which slots of which sync streams a device holds, the end of each
stream's gap-free beginning, and the sealed copies of what it authored itself. A slot is
`(author, kind, seq)` and never depends on the bytes in it, so that a re-sealed record is
the same record.
-/

namespace CruiseMesh
open Durable Prog Table

/-- One of this device's own sealed records. -/
structure StoredSyncRecord where
  authorDeviceId : Bytes
  kind : SyncRecordKind
  streamSeq : Nat
  body : Bytes
  sealedFor : RosterVersion
  inboxKeyGeneration : Nat
deriving DecidableEq

/-! ## Reading -/

namespace Store
variable (s : Store) (authorDeviceId : Bytes) (wireKind : UInt8)

/-- The rows of one stream. -/
def streamRows : List SyncStreamRow :=
  s.syncStreamRecords.filter fun row => row.authorDeviceId = authorDeviceId ∧ row.kind = wireKind

/-- `next_stream_seq`: one above the highest position held, and 1 on an empty stream. -/
def nextStreamSeq (kind : SyncRecordKind) : Nat :=
  ((s.streamRows authorDeviceId (coreSyncRecordKindWire kind)).map (·.streamSeq)).foldl max 0 + 1

/-- `stream_cursor_by_wire`. -/
def streamCursorByWire : Nat :=
  ((lookup SyncCursorRow.stream (authorDeviceId, wireKind) s.syncStreamCursors).map
    (·.throughSeq)).getD 0

/-- The walk of `advance_cursor` over the positions above the cursor, in order. -/
def walkFrom : Nat → List Nat → Nat
  | through, [] => through
  | through, seq :: rest => if seq ≠ through + 1 then through else walkFrom seq rest

/-- Where the cursor of a stream moves to. -/
def advancedCursor : Nat :=
  let through := s.streamCursorByWire authorDeviceId wireKind
  let above := ((s.streamRows authorDeviceId wireKind).map (·.streamSeq)).filter (through < ·)
  walkFrom through (above.insertionSort (· ≤ ·))

/-- `sealed_records_at_generation`: the sealed copies of one author that are still under
the given generation, by kind and position. -/
def sealedRecordsAtGeneration (inboxKeyGeneration : Nat) : List StoredSyncRecord :=
  let rows := s.syncStreamRecords.filter fun row => row.authorDeviceId = authorDeviceId ∧
    ∃ copy ∈ row.copy, copy.inboxKeyGeneration = inboxKeyGeneration
  let sorted := rows.insertionSort fun a b =>
    a.kind < b.kind ∨ a.kind = b.kind ∧ a.streamSeq ≤ b.streamSeq
  sorted.filterMap fun row => do
    let copy ← row.copy
    let kind ← coreSyncRecordKindOf row.kind
    pure { authorDeviceId, kind, streamSeq := row.streamSeq, body := copy.body,
           sealedFor := copy.sealedFor, inboxKeyGeneration }

end Store

/-! ## Writing -/

/-- The cursor row of a stream, never moved back. -/
def Store.withCursor (s : Store) (authorDeviceId : Bytes) (wireKind : UInt8) (through : Nat) :
    Store :=
  { s with
    syncStreamCursors := upsert SyncCursorRow.stream
      ⟨authorDeviceId, wireKind, max (s.streamCursorByWire authorDeviceId wireKind) through⟩
      s.syncStreamCursors }

/-- `advance_cursor`. -/
def advanceCursor (authorDeviceId : Bytes) (wireKind : UInt8) : Prog Store CoreError Nat := do
  let through ← inspect fun s => s.advancedCursor authorDeviceId wireKind
  write fun s => s.withCursor authorDeviceId wireKind through
  pure through

/-- The store with one more slot held. -/
def Store.withSlot (s : Store) (row : SyncStreamRow) : Store :=
  { s with syncStreamRecords := insertOrIgnore SyncStreamRow.slot row s.syncStreamRecords }

/-- `hold_slot`: `INSERT OR IGNORE`, and the cursor after it. -/
def holdSlot (row : SyncStreamRow) : Prog Store CoreError Bool := do
  let taken ← inspect fun s => s.syncStreamRecords.any fun held => held.slot = row.slot
  if taken then pure false
  else do
    write fun s => s.withSlot row
    let _ ← advanceCursor row.authorDeviceId row.kind
    pure true

variable (record : SyncRecord) (copy : SealedSyncRecord)

/-- The row a retained record is kept in. -/
def SyncRecord.row (nowMs : Int) : SyncStreamRow where
  authorDeviceId := record.authorDeviceId
  kind := coreSyncRecordKindWire record.kind
  streamSeq := record.streamSeq
  personId := record.personId
  copy := some copy
  createdAtMs := nowMs

/-- `core_sync_retain_record`. -/
def coreSyncRetainRecord (nowMs : Int) : Prog Store CoreError Bool := do
  refuseWhen (coreSyncKindIsStream record.kind = false)
    (CoreError.malformed "a sync digest is not a retained stream record")
  holdSlot (record.row copy nowMs)

/-- The slot a record belongs to. -/
def SyncRecord.slot : Bytes × UInt8 × Nat :=
  (record.authorDeviceId, coreSyncRecordKindWire record.kind, record.streamSeq)

/-- The store with the sealed copy of one slot replaced. -/
def Store.resealed (s : Store) (slot : Bytes × UInt8 × Nat) (copy : SealedSyncRecord) : Store :=
  { s with
    syncStreamRecords := update SyncStreamRow.slot slot
      (fun row => { row with copy := some copy }) s.syncStreamRecords }

/-- `reseal`. -/
def reseal : Prog Store CoreError Bool := do
  let changed ← inspect fun s => s.syncStreamRecords.any fun row => row.slot = record.slot
  write fun s => s.resealed record.slot copy
  pure changed

/-! ## What the writers do -/

section Specs
variable {s s' : Store} {row : SyncStreamRow}
  {I : Store → Prop} {record : SyncRecord} {copy : SealedSyncRecord}

/-- The next position of a stream is free. -/
theorem nextStreamSeq_free (s : Store) (authorDeviceId : Bytes) (kind : SyncRecordKind) :
    ∀ held ∈ s.syncStreamRecords, held.slot ≠
      (authorDeviceId, coreSyncRecordKindWire kind, s.nextStreamSeq authorDeviceId kind) := by
  intro held hmem heq
  obtain ⟨hauthor, hkind, hseq⟩ : held.authorDeviceId = authorDeviceId ∧
      held.kind = coreSyncRecordKindWire kind ∧
        held.streamSeq = s.nextStreamSeq authorDeviceId kind := by
    simpa [SyncStreamRow.slot] using heq
  have hrow : held ∈ s.streamRows authorDeviceId (coreSyncRecordKindWire kind) :=
    List.mem_filter.mpr ⟨hmem, by simp [hauthor, hkind]⟩
  have hle : held.streamSeq ≤ ((s.streamRows authorDeviceId (coreSyncRecordKindWire kind)).map
      (·.streamSeq)).foldl max 0 :=
    (foldl_max_le.mp (le_refl _)).2 _ (List.mem_map_of_mem hrow)
  rw [hseq, Store.nextStreamSeq] at hle
  omega

/-- A free slot is taken, and then the cursor of its stream moves. -/
def Store.takingSlot (s : Store) (row : SyncStreamRow) : Store :=
  (s.withSlot row).withCursor row.authorDeviceId row.kind
    ((s.withSlot row).advancedCursor row.authorDeviceId row.kind)

theorem returns_holdSlot_free (hfree : ∀ held ∈ s.syncStreamRecords, held.slot ≠ row.slot) :
    (holdSlot row).Returns s true (s.takingSlot row) := by
  have hany : (s.syncStreamRecords.any fun held => held.slot = row.slot) = false := by
    rw [List.any_eq_false]
    intro held hmem h
    exact hfree held hmem (of_decide_eq_true h)
  unfold holdSlot advanceCursor
  simp only [returns_bind, returns_inspect]
  refine ⟨_, s, ⟨rfl, rfl⟩, ?_⟩
  rw [hany, if_neg Bool.false_ne_true]
  simp only [returns_bind, returns_inspect, returns_write, returns_pure]
  exact ⟨(), _, rfl, _, _, ⟨_, _, ⟨rfl, rfl⟩, (), _, rfl, rfl, rfl⟩, trivial, rfl⟩

theorem withSlot_free (hfree : ∀ held ∈ s.syncStreamRecords, held.slot ≠ row.slot) :
    (s.withSlot row).syncStreamRecords = s.syncStreamRecords ++ [row] := by
  unfold Store.withSlot insertOrIgnore
  rw [if_neg]
  intro ⟨held, hmem, heq⟩
  exact hfree held hmem heq

theorem throughout_coreSyncRetainRecord {nowMs : Int} (hs : I s)
    (hslot : I (s.withSlot (record.row copy nowMs)))
    (hcursor : ∀ s author kind through, I s → I (s.withCursor author kind through)) :
    (coreSyncRetainRecord record copy nowMs).Throughout s I := by
  refine throughout_lift_bind hs fun _ _ => ?_
  refine throughout_inspect_bind.mpr ?_
  split
  · exact throughout_pure.mpr hs
  · refine throughout_bind (throughout_write.mpr ⟨hs, hslot⟩) fun _ s₂ _ hs₂ => ?_
    refine throughout_bind ?_ fun _ s₃ _ hs₃ => throughout_pure.mpr hs₃
    refine throughout_inspect_bind.mpr ?_
    refine throughout_bind (throughout_write.mpr ⟨hs₂, hcursor _ _ _ _ hs₂⟩) fun _ s₃ _ hs₃ => ?_
    exact throughout_pure.mpr hs₃

/-- Sealing again moves no slot. -/
theorem slots_resealed {slot : Bytes × UInt8 × Nat} :
    (s.resealed slot copy).syncStreamRecords.map SyncStreamRow.slot =
      s.syncStreamRecords.map SyncStreamRow.slot :=
  map_key_update (f := fun row : SyncStreamRow => { row with copy := some copy })
    (fun _ => rfl) _

theorem returns_reseal {changed : Bool} :
    (reseal record copy).Returns s changed s' ↔
      (s.syncStreamRecords.any fun row => row.slot = record.slot) = changed ∧
        s.resealed record.slot copy = s' := by
  unfold reseal
  simp only [returns_bind, returns_inspect, returns_write, returns_pure]
  constructor
  · rintro ⟨_, _, ⟨rfl, rfl⟩, _, _, rfl, hchanged, rfl⟩
    exact ⟨hchanged, rfl⟩
  · rintro ⟨hchanged, hs'⟩
    exact ⟨_, s, ⟨rfl, rfl⟩, (), _, rfl, hchanged, hs'⟩

theorem throughout_reseal (hs : I s) (hre : I (s.resealed record.slot copy)) :
    (reseal record copy).Throughout s I := by
  refine throughout_inspect_bind.mpr ?_
  refine throughout_bind (throughout_write.mpr ⟨hs, hre⟩) fun _ s₂ _ hs₂ => ?_
  exact throughout_pure.mpr hs₂

end Specs
end CruiseMesh
