import CruiseMesh.Sync.Payload
import CruiseMesh.Sync.Streams

/-!
# Filling gaps

`sync_stream.rs` and `sync_store.rs`: a device says how far it has come in every stream,
a sibling reads off what is missing, looks up what it can serve of that and plans which
records fit into one round. A plan never skips a record of a stream: once one of them did
not fit, the rest of its stream waits for the next round.
-/

namespace CruiseMesh

/-! ## The digest -/

/-- The order of streams: by author, then by kind. -/
def streamLe (a b : Bytes × UInt8) : Prop := a.1 < b.1 ∨ a.1 = b.1 ∧ a.2 ≤ b.2

instance : DecidableRel streamLe := fun _ _ => inferInstanceAs (Decidable (_ ∨ _))

/-- The stream a row belongs to. -/
def SyncStreamRow.stream (row : SyncStreamRow) : Bytes × UInt8 := (row.authorDeviceId, row.kind)

/-- `core_sync_digest`: one line for each stream of the person of which a slot is held. -/
def Store.coreSyncDigest (s : Store) (personId : Bytes) : SyncDigest where
  personId := personId
  streams :=
    let rows := s.syncStreamRecords.filter fun row => row.personId = personId
    ((rows.map (·.stream)).dedup.insertionSort streamLe).map fun stream =>
      { authorDeviceId := stream.1, kind := stream.2
        throughSeq := s.streamCursorByWire stream.1 stream.2
        canServe := rows.any fun row => row.stream = stream ∧ row.copy.isSome }

/-! ## Gaps -/

structure SyncGap where
  authorDeviceId : Bytes
  kind : UInt8
  afterSeq : Nat
  throughSeq : Nat
deriving DecidableEq

def SyncGap.stream (gap : SyncGap) : Bytes × UInt8 := (gap.authorDeviceId, gap.kind)

/-- How far a digest says one has come in a stream. -/
def SyncDigest.heldThrough (digest : SyncDigest) (authorDeviceId : Bytes) (kind : UInt8) : Nat :=
  ((digest.streams.find? fun mine =>
    mine.authorDeviceId = authorDeviceId ∧ mine.kind = kind).map (·.throughSeq)).getD 0

/-- The gap one line of the peer's digest shows. Nothing is asked of a peer that cannot
serve the stream, and a digest is never asked for. -/
def gapOf (held : SyncDigest) (stream : SyncStreamDigest) : Option SyncGap :=
  if stream.canServe = false then none
  else
    match coreSyncRecordKindOf stream.kind with
    | none => none
    | some kind =>
      if coreSyncKindIsStream kind = false then none
      else
        let afterSeq := held.heldThrough stream.authorDeviceId stream.kind
        if afterSeq < stream.throughSeq then
          some { authorDeviceId := stream.authorDeviceId, kind := stream.kind, afterSeq
                 throughSeq := stream.throughSeq }
        else none

/-- `core_sync_digest_gaps`. -/
def coreSyncDigestGaps (held peer : SyncDigest) : Except CoreError (List SyncGap) := do
  refuseWhen (held.personId ≠ peer.personId)
    (.malformed "sync digests describe two different people")
  pure ((peer.streams.filterMap (gapOf held)).insertionSort fun a b => streamLe a.stream b.stream)

/-! ## What can be served -/

/-- The rows that are looked up for a gap, in order. The column and the bounds are `i64`s. -/
def Store.rowsInGap (s : Store) (gap : SyncGap) : List SyncStreamRow :=
  (s.syncStreamRecords.filter fun row => row.stream = gap.stream ∧
    asI64 gap.afterSeq < asI64 row.streamSeq ∧ asI64 row.streamSeq ≤ asI64 gap.throughSeq ∧
      row.copy.isSome).insertionSort fun a b => asI64 a.streamSeq ≤ asI64 b.streamSeq

/-- A row with its sealed copy, as it is offered. -/
def SyncStreamRow.stored (kind : SyncRecordKind) (row : SyncStreamRow) : Option StoredSyncRecord :=
  row.copy.map fun copy =>
    { authorDeviceId := row.authorDeviceId, kind, streamSeq := row.streamSeq, body := copy.body
      sealedFor := copy.sealedFor, inboxKeyGeneration := copy.inboxKeyGeneration }

/-- The loop of `backfill_offers`. -/
def Store.backfillFrom (s : Store) (limit : Nat) :
    List SyncGap → List StoredSyncRecord → List StoredSyncRecord
  | [], out => out
  | gap :: rest, out =>
    if limit ≤ out.length then out
    else
      match coreSyncRecordKindOf gap.kind with
      | none => s.backfillFrom limit rest out
      | some kind => s.backfillFrom limit rest
          (out ++ ((s.rowsInGap gap).take (limit - out.length)).filterMap (·.stored kind))

/-- `core_sync_backfill_records`. -/
def Store.coreSyncBackfillRecords (s : Store) (gaps : List SyncGap) (limit : Nat) :
    List StoredSyncRecord := s.backfillFrom limit gaps []

/-! ## The plan -/

structure SyncBackfillOffer where
  authorDeviceId : Bytes
  kind : UInt8
  streamSeq : Nat
  sealedFor : RosterVersion
  inboxKeyGeneration : Nat
  byteLen : Nat
deriving DecidableEq

/-- `offer`, and `core_sync_backfill_offers` for each of a list. -/
def StoredSyncRecord.offer (record : StoredSyncRecord) : SyncBackfillOffer where
  authorDeviceId := record.authorDeviceId
  kind := coreSyncRecordKindWire record.kind
  streamSeq := record.streamSeq
  sealedFor := record.sealedFor
  inboxKeyGeneration := record.inboxKeyGeneration
  byteLen := record.body.length

def SyncBackfillOffer.stream (offer : SyncBackfillOffer) : Bytes × UInt8 :=
  (offer.authorDeviceId, offer.kind)

inductive SyncBackfillAction where
  | send
  | reseal
deriving DecidableEq

structure SyncBackfillStep where
  offerIndex : Nat
  action : SyncBackfillAction
deriving DecidableEq

structure SyncBackfillPlan where
  steps : List SyncBackfillStep := []
  deferred : List Nat := []
  plannedBytes : Nat := 0
deriving DecidableEq

/-- `core_sync_seal_is_current`. -/
def coreSyncSealIsCurrent (sealedFor : RosterVersion) (sealedGeneration : Nat)
    (current : RosterVersion) (currentGeneration : Nat) : Bool :=
  sealedFor = current ∧ sealedGeneration = currentGeneration

/-- The offer lies in the gap. -/
def SyncGap.asksFor (gap : SyncGap) (offer : SyncBackfillOffer) : Prop :=
  gap.stream = offer.stream ∧ gap.afterSeq < offer.streamSeq ∧ offer.streamSeq ≤ gap.throughSeq

instance (gap : SyncGap) (offer : SyncBackfillOffer) : Decidable (gap.asksFor offer) :=
  inferInstanceAs (Decidable (_ ∧ _))

/-- The order of a plan: by stream, then by position. -/
def offerLe (a b : SyncBackfillOffer × Nat) : Prop :=
  a.1.authorDeviceId < b.1.authorDeviceId ∨ a.1.authorDeviceId = b.1.authorDeviceId ∧
    (a.1.kind < b.1.kind ∨ a.1.kind = b.1.kind ∧ a.1.streamSeq ≤ b.1.streamSeq)

instance : DecidableRel offerLe := fun _ _ => inferInstanceAs (Decidable (_ ∨ _))

/-- The loop of `core_plan_sync_backfill`. `cut` are the streams one of whose records did
not fit. -/
def planFrom (currentRoster : RosterVersion) (currentGeneration budgetBytes : Nat) :
    List (SyncBackfillOffer × Nat) → List (Bytes × UInt8) → SyncBackfillPlan → SyncBackfillPlan
  | [], _, plan => plan
  | (offer, index) :: rest, cut, plan =>
    let nextBytes := saturatingAdd plan.plannedBytes offer.byteLen
    if offer.stream ∈ cut ∨ budgetBytes < nextBytes then
      planFrom currentRoster currentGeneration budgetBytes rest
        (if offer.stream ∈ cut then cut else cut ++ [offer.stream])
        { plan with deferred := plan.deferred ++ [index] }
    else
      let action := if coreSyncSealIsCurrent offer.sealedFor offer.inboxKeyGeneration currentRoster
        currentGeneration then .send else .reseal
      planFrom currentRoster currentGeneration budgetBytes rest cut
        { plan with steps := plan.steps ++ [⟨index, action⟩], plannedBytes := nextBytes }

/-- `core_plan_sync_backfill`. -/
def corePlanSyncBackfill (gaps : List SyncGap) (offers : List SyncBackfillOffer)
    (currentRoster : RosterVersion) (currentGeneration budgetBytes : Nat) : SyncBackfillPlan :=
  let matched := offers.zipIdx.filter fun entry => ∃ gap ∈ gaps, gap.asksFor entry.1
  planFrom currentRoster currentGeneration budgetBytes (matched.insertionSort offerLe) [] {}

end CruiseMesh
