import CruiseMesh.Sync.AntiEntropy

/-!
# The streams over whole runs

A device retains its own records, applies those of its siblings and seals again what it retained,
in any order and as often as it likes. A cursor is moved from where it stood and never computed
anew, and still it stands where it should (`cursors_end_their_prefix`): at the largest `n` such
that the positions 1 to `n` of its stream are held.
-/

namespace CruiseMesh
open Durable Prog

/-- A call on the streams. -/
inductive StreamCall where
  | retain (record : SyncRecord) (copy : SealedSyncRecord) (nowMs : Int)
  | apply (delivery : Delivery)
  | reseal (record : SyncRecord) (copy : SealedSyncRecord)

/-- The store after a call, whether or not it succeeds. -/
def StreamCall.after (P : Primitives) (readCard : CardReader) (s : Store) : StreamCall → Store
  | .retain record copy nowMs => (coreSyncRetainRecord record copy nowMs).final s
  | .apply delivery => deliver P readCard s delivery
  | .reseal record copy => (CruiseMesh.reseal record copy).final s

variable {s : Store}

theorem streamsOk_holdSlot (hs : StreamsOk s) (row : SyncStreamRow) :
    StreamsOk ((holdSlot row).final s) := by
  by_cases hfree : ∀ held ∈ s.syncStreamRecords, held.slot ≠ row.slot
  · rw [(returns_holdSlot_free hfree).2]
    exact streamsOk_takeSlot hs hfree
  · have htaken : (s.syncStreamRecords.any fun held => held.slot = row.slot) = true := by
      simpa using hfree
    rw [holdSlot, final_inspect_bind, htaken, if_pos rfl]
    exact hs

theorem holdsSlot_iff_mem {slot : Bytes × UInt8 × Nat} :
    s.holdsSlot slot = true ↔ slot ∈ s.syncStreamRecords.map SyncStreamRow.slot := by
  rw [holdsSlot_eq_true, List.mem_map]

theorem streamsOk_resealed (hs : StreamsOk s) (slot : Bytes × UInt8 × Nat)
    (copy : SealedSyncRecord) : StreamsOk (s.resealed slot copy) := by
  have hholds : ∀ slot', (s.resealed slot copy).holdsSlot slot' = s.holdsSlot slot' := by
    intro slot'
    rw [Bool.eq_iff_iff, holdsSlot_iff_mem, holdsSlot_iff_mem, slots_resealed]
  constructor
  · rw [slots_resealed]
    exact hs.slots
  · intro author kind seq hpos hseq
    rw [hholds]
    exact hs.held author kind seq hpos hseq
  · intro author kind
    rw [hholds]
    exact hs.stops author kind

theorem streamsOk_after (P : Primitives) (readCard : CardReader) (hs : StreamsOk s)
    (call : StreamCall) : StreamsOk (call.after P readCard s) := by
  cases call with
  | retain record copy nowMs =>
    rcases lift_bind_cases (refuseWhen (coreSyncKindIsStream record.kind = false) _)
      (fun _ => holdSlot (record.row copy nowMs)) s with ⟨e, _, hsame⟩ | ⟨_, _, hgoes⟩
    · rw [StreamCall.after, coreSyncRetainRecord, hsame]
      exact hs
    · rw [StreamCall.after, coreSyncRetainRecord, hgoes]
      exact streamsOk_holdSlot hs _
  | apply delivery => exact (filed_deliver P readCard s delivery).streamsOk hs
  | reseal record copy =>
    rw [StreamCall.after, (returns_reseal.mpr ⟨rfl, rfl⟩).2]
    exact streamsOk_resealed hs _ _

/-- The store after a list of calls. -/
def storeAfterCalls (P : Primitives) (readCard : CardReader) (s : Store) (calls : List StreamCall) :
    Store := calls.foldl (StreamCall.after P readCard) s

theorem streamsOk_storeAfterCalls (P : Primitives) (readCard : CardReader) (hs : StreamsOk s)
    (calls : List StreamCall) : StreamsOk (storeAfterCalls P readCard s calls) := by
  induction calls generalizing s with
  | nil => exact hs
  | cons call calls ih => exact ih (streamsOk_after P readCard hs call)

/-- The positions up to `n` are held. -/
def Store.HoldsThrough (s : Store) (author : Bytes) (kind : UInt8) (n : Nat) : Prop :=
  ∀ seq, 1 ≤ seq → seq ≤ n → s.holdsSlot (author, kind, seq) = true

/-- **After every run of calls, from empty streams, each cursor is the largest `n` such that the
positions 1 to `n` are held, and the digest says so of every stream; to apply a record whose slot
is held changes nothing, and to seal one again changes neither a cursor nor a slot.** -/
theorem cursors_end_their_prefix (P : Primitives) (readCard : CardReader) (s : Store)
    (calls : List StreamCall) :
    let s' := storeAfterCalls P readCard { s with syncStreamRecords := [], syncStreamCursors := [] }
      calls
    (∀ author kind, IsGreatest {n | s'.HoldsThrough author kind n}
      (s'.streamCursorByWire author kind)) ∧
    (∀ person, (∀ row ∈ s'.syncStreamRecords, row.personId = person →
        ∃ line ∈ (s'.coreSyncDigest person).streams,
          line.authorDeviceId = row.authorDeviceId ∧ line.kind = row.kind) ∧
      ∀ line ∈ (s'.coreSyncDigest person).streams,
        line.throughSeq = s'.streamCursorByWire line.authorDeviceId line.kind) ∧
    (∀ delivery : Delivery, s'.holdsSlot delivery.record.slot = true →
      deliver P readCard s' delivery = s') ∧
    ∀ record copy, ((reseal record copy).final s').syncStreamCursors = s'.syncStreamCursors ∧
      ((reseal record copy).final s').syncStreamRecords.map SyncStreamRow.slot =
        s'.syncStreamRecords.map SyncStreamRow.slot := by
  intro s'
  have hempty : StreamsOk { s with syncStreamRecords := [], syncStreamCursors := [] } :=
    streamsOk_congr (s := {}) rfl streamsOk_empty
  have hs : StreamsOk s' := streamsOk_storeAfterCalls P readCard hempty calls
  refine ⟨fun author kind => ⟨hs.held author kind, fun n hn => ?_⟩, fun person =>
    ⟨fun row hrow hperson => ?_, fun line hline => ?_⟩, fun delivery hheld => ?_,
    fun record copy => ?_⟩
  · by_contra hlt
    have hnext := hn (s'.streamCursorByWire author kind + 1) (by omega) (by omega)
    rw [hs.stops] at hnext
    cases hnext
  · obtain ⟨line, hline, hauthor, hkind, _⟩ := AntiEntropy.exists_digest hrow hperson
    exact ⟨line, hline, hauthor, hkind⟩
  · exact (AntiEntropy.mem_digest hline).1
  · by_cases hkind : coreSyncKindIsStream delivery.record.kind = false
    · rw [deliver, coreApplySyncRecord, if_pos hkind]
      rfl
    · rw [deliver, coreApplySyncRecord, if_neg hkind, final_inspect_bind, hheld, if_pos rfl,
        final_inspect_bind]
      rfl
  · rw [(returns_reseal.mpr ⟨rfl, rfl⟩).2]
    exact ⟨rfl, slots_resealed⟩

end CruiseMesh
