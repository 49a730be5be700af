import CruiseMesh.Lib.Runs
import CruiseMesh.Sync.Backfill
import CruiseMesh.Sync.Cursors

/-!
# A sibling catches up

One device authors streams without gaps and keeps a sealed copy of every record; a
sibling holds some of these slots, with whatever holes. In a round the sibling's digest
is compared with the author's, the author plans records into the gaps, and the sibling
applies what arrives of the plan: its first record at least.

The first record of a plan is always the one the sibling's cursor is waiting for, because
plans are made stream by stream and position by position. So every round moves a cursor
until there is nothing left to move (`anti_entropy_converges`).
-/

namespace CruiseMesh.AntiEntropy
open Durable Runs List Store

/-- What a round is made with: whose streams, how many rows are looked up, how many bytes
fit, and the roster and key a copy must be sealed for. -/
structure Terms where
  person : Bytes
  limit : Nat
  budgetBytes : Nat
  currentRoster : RosterVersion
  currentGeneration : Nat

/-- The records the author `a` plans for the sibling `b`, in plan order. -/
def planned (terms : Terms) (a b : Store) : Except CoreError (List StoredSyncRecord) := do
  let gaps ← coreSyncDigestGaps (b.coreSyncDigest terms.person) (a.coreSyncDigest terms.person)
  let records := a.coreSyncBackfillRecords gaps terms.limit
  let plan := corePlanSyncBackfill gaps (records.map (·.offer)) terms.currentRoster
    terms.currentGeneration terms.budgetBytes
  pure (plan.steps.filterMap fun step => records[step.offerIndex]?)

/-- The slot a stored record stands in. -/
def slotOf (stored : StoredSyncRecord) : Bytes × UInt8 × Nat :=
  (stored.authorDeviceId, coreSyncRecordKindWire stored.kind, stored.streamSeq)

/-- `a` authors its streams without gaps and keeps every record of them sealed; it seals
nothing of anybody else's. -/
structure Authors (a : Store) (author person : Bytes) : Prop where
  streams : StreamsOk a
  seals : ∀ row ∈ a.syncStreamRecords, row.copy.isSome = true ↔ row.authorDeviceId = author
  person : ∀ row ∈ a.syncStreamRecords, row.authorDeviceId = author → row.personId = person
  kind : ∀ row ∈ a.syncStreamRecords, row.authorDeviceId = author →
    ∃ kind, coreSyncRecordKindOf row.kind = some kind ∧ coreSyncKindIsStream kind = true
  gapFree : ∀ row ∈ a.syncStreamRecords, row.authorDeviceId = author →
    1 ≤ row.streamSeq ∧ row.streamSeq ≤ a.streamCursorByWire author row.kind
  -- positions are counted up from 1 in an `i64` column
  range : ∀ row ∈ a.syncStreamRecords, row.authorDeviceId = author → row.streamSeq < 2 ^ 63

/-- `b` holds some slots of the author's streams. -/
structure Follows (a b : Store) (author person : Bytes) : Prop where
  streams : StreamsOk b
  slots : ∀ row ∈ b.syncStreamRecords, row.authorDeviceId = author → a.holdsSlot row.slot = true
  person : ∀ row ∈ b.syncStreamRecords, row.authorDeviceId = author → row.personId = person

variable {terms : Terms} {a b : Store} {author person : Bytes}

/-! ## Digests -/

variable {s : Store} {row : SyncStreamRow} {gap : SyncGap} {kind : SyncRecordKind}
  {stored : StoredSyncRecord} {limit : Nat}

theorem mem_digest {line : SyncStreamDigest} (h : line ∈ (s.coreSyncDigest person).streams) :
    line.throughSeq = s.streamCursorByWire line.authorDeviceId line.kind ∧
    (line.canServe = true → ∃ row ∈ s.syncStreamRecords,
      row.authorDeviceId = line.authorDeviceId ∧ row.kind = line.kind ∧ row.copy.isSome = true) := by
  obtain ⟨stream, _, rfl⟩ := mem_map.mp h
  refine ⟨rfl, fun hserve => ?_⟩
  obtain ⟨row, hmem, hrow⟩ := any_eq_true.mp hserve
  obtain ⟨hstream, hcopy⟩ := of_decide_eq_true hrow
  have hpair : (row.authorDeviceId, row.kind) = stream := hstream
  exact ⟨row, (mem_filter.mp hmem).1, congrArg Prod.fst hpair, congrArg Prod.snd hpair, hcopy⟩

/-- A row of the person has its stream in the digest. -/
theorem exists_digest (hmem : row ∈ s.syncStreamRecords) (hperson : row.personId = person) :
    ∃ line ∈ (s.coreSyncDigest person).streams,
      line.authorDeviceId = row.authorDeviceId ∧ line.kind = row.kind ∧
        (row.copy.isSome = true → line.canServe = true) := by
  have hrow : row ∈ s.syncStreamRecords.filter fun r => r.personId = person :=
    mem_filter.mpr ⟨hmem, decide_eq_true hperson⟩
  refine ⟨_, mem_map.mpr ⟨row.stream, ?_, rfl⟩, rfl, rfl, fun hcopy => ?_⟩
  · rw [mem_insertionSort, mem_dedup]
    exact mem_map_of_mem hrow
  · exact any_eq_true.mpr ⟨row, hrow, decide_eq_true ⟨rfl, hcopy⟩⟩

/-- A digest says how far the sibling has come in the author's streams. -/
theorem heldThrough_digest (hb : Follows a b author person) (kind : UInt8) :
    (b.coreSyncDigest person).heldThrough author kind = b.streamCursorByWire author kind := by
  unfold SyncDigest.heldThrough
  cases hfind : (b.coreSyncDigest person).streams.find? fun mine =>
      mine.authorDeviceId = author ∧ mine.kind = kind with
  | some line =>
    obtain ⟨hauthor, hkind⟩ : line.authorDeviceId = author ∧ line.kind = kind := by
      simpa using find?_some hfind
    have hthrough := (mem_digest (mem_of_find?_eq_some hfind)).1
    rw [hauthor, hkind] at hthrough
    exact hthrough
  | none =>
    -- no row of the stream, so its cursor never moved
    show 0 = b.streamCursorByWire author kind
    by_contra hne
    have hheld := hb.streams.held author kind 1 (by omega) (by omega)
    obtain ⟨row, hmem, hslot⟩ := holdsSlot_eq_true.mp hheld
    obtain ⟨hrowAuthor, hrowKind, _⟩ : row.authorDeviceId = author ∧ row.kind = kind ∧
        row.streamSeq = 1 := by
      simpa [SyncStreamRow.slot] using hslot
    obtain ⟨line, hline, hauthor, hkind, _⟩ := exists_digest hmem (hb.person row hmem hrowAuthor)
    have hnot := find?_eq_none.mp hfind line hline
    exact hnot (decide_eq_true ⟨hauthor.trans hrowAuthor, hkind.trans hrowKind⟩)

/-! ## Gaps -/

/-- The gap of one stream. -/
def gapAt (a b : Store) (author : Bytes) (kind : UInt8) : SyncGap where
  authorDeviceId := author
  kind := kind
  afterSeq := b.streamCursorByWire author kind
  throughSeq := a.streamCursorByWire author kind

/-- The gaps are those of the author's streams in which the sibling is behind. -/
theorem mem_gaps (ha : Authors a author person) (hb : Follows a b author person) :
    gap ∈ ((a.coreSyncDigest person).streams.filterMap (gapOf (b.coreSyncDigest person))) ↔
      ∃ kind, gap = gapAt a b author kind ∧
        b.streamCursorByWire author kind < a.streamCursorByWire author kind := by
  rw [mem_filterMap]
  constructor
  · intro ⟨line, hline, hgap⟩
    obtain ⟨hthrough, hserves⟩ := mem_digest hline
    unfold gapOf at hgap
    split at hgap
    · cases hgap
    rename_i hserve
    obtain ⟨row, hmem, hauthor, _, hcopy⟩ := hserves (by simpa using hserve)
    have hown : line.authorDeviceId = author := hauthor.symm.trans ((ha.seals row hmem).mp hcopy)
    split at hgap
    · cases hgap
    split at hgap
    · cases hgap
    dsimp only at hgap
    rw [hown, heldThrough_digest hb] at hgap
    split at hgap
    · rename_i hlt
      refine ⟨line.kind, ?_, ?_⟩
      · rw [← Option.some.inj hgap, hthrough, hown]
        rfl
      · rwa [hthrough, hown] at hlt
    · cases hgap
  · rintro ⟨kind, rfl, hlt⟩
    have hheld := ha.streams.held author kind (a.streamCursorByWire author kind) (by omega)
      (le_refl _)
    obtain ⟨row, hmem, hslot⟩ := holdsSlot_eq_true.mp hheld
    obtain ⟨hauthor, rfl, _⟩ : row.authorDeviceId = author ∧ row.kind = kind ∧
        row.streamSeq = a.streamCursorByWire author kind := by
      simpa [SyncStreamRow.slot] using hslot
    obtain ⟨line, hline, hlineAuthor, hlineKind, hserve⟩ :=
      exists_digest hmem (ha.person row hmem hauthor)
    refine ⟨line, hline, ?_⟩
    obtain ⟨kind, hkind, hstream⟩ := ha.kind row hmem hauthor
    have hthrough := (mem_digest hline).1
    rw [hlineAuthor, hauthor, hlineKind] at hthrough
    unfold gapOf
    rw [if_neg (by rw [hserve ((ha.seals row hmem).mpr hauthor)]; decide), hlineKind, hkind]
    dsimp only
    rw [if_neg (by rw [hstream]; decide), hlineAuthor, hauthor, heldThrough_digest hb, hthrough,
      if_pos hlt]
    rfl

/-! ## What is served -/

theorem mem_rowsInGap :
    row ∈ a.rowsInGap gap ↔ row ∈ a.syncStreamRecords ∧ row.stream = gap.stream ∧
      asI64 gap.afterSeq < asI64 row.streamSeq ∧ asI64 row.streamSeq ≤ asI64 gap.throughSeq ∧
        row.copy.isSome = true := by
  unfold rowsInGap
  rw [mem_insertionSort, mem_filter, decide_eq_true_iff]

theorem rowsInGap_sorted (a : Store) (gap : SyncGap) :
    (a.rowsInGap gap).Pairwise fun r r' => asI64 r.streamSeq ≤ asI64 r'.streamSeq := by
  have : Std.Total fun r r' : SyncStreamRow => asI64 r.streamSeq ≤ asI64 r'.streamSeq :=
    ⟨fun r r' => le_total _ _⟩
  have : IsTrans SyncStreamRow fun r r' => asI64 r.streamSeq ≤ asI64 r'.streamSeq :=
    ⟨fun _ _ _ h h' => le_trans h h'⟩
  exact pairwise_insertionSort _ _

/-- What a row offers. -/
theorem stored_spec (hkind : coreSyncRecordKindOf gap.kind = some kind)
    (hrow : row ∈ a.rowsInGap gap) (h : row.stored kind = some stored) :
    slotOf stored = row.slot ∧ gap.stream = stored.offer.stream ∧
      ∃ copy ∈ row.copy, copy.body.length = stored.offer.byteLen := by
  obtain ⟨copy, hcopy, rfl⟩ := Option.map_eq_some_iff.mp h
  have hstream := (mem_rowsInGap.mp hrow).2.1
  have hwire := coreSyncRecordKindOf_eq_some.mp hkind
  have hrowKind : row.kind = coreSyncRecordKindWire kind := by
    rw [← hwire]
    exact congrArg Prod.snd hstream
  refine ⟨?_, ?_, copy, hcopy, rfl⟩
  · rw [slotOf, SyncStreamRow.slot, hrowKind]
  · rw [← hstream, SyncStreamRow.stream, hrowKind]
    rfl

/-- Every row of a gap has a copy to offer. -/
theorem exists_stored (h : row ∈ a.rowsInGap gap) (kind : SyncRecordKind) :
    ∃ stored, row.stored kind = some stored := by
  obtain ⟨copy, hcopy⟩ := Option.isSome_iff_exists.mp (mem_rowsInGap.mp h).2.2.2.2
  rw [SyncStreamRow.stored, hcopy]
  exact ⟨_, rfl⟩

/-- What can be offered for a gap. -/
def offered (a : Store) (gap : SyncGap) : List StoredSyncRecord :=
  match coreSyncRecordKindOf gap.kind with
  | none => []
  | some kind => (a.rowsInGap gap).filterMap (·.stored kind)

theorem mem_offered : stored ∈ offered a gap ↔ ∃ kind, coreSyncRecordKindOf gap.kind = some kind ∧
    ∃ row ∈ a.rowsInGap gap, row.stored kind = some stored := by
  unfold offered
  cases coreSyncRecordKindOf gap.kind <;> simp

theorem take_filterMap {α β : Type} {f : α → Option β} {n : Nat} : ∀ {l : List α},
    (∀ x ∈ l, ∃ y, f x = some y) → (l.take n).filterMap f = (l.filterMap f).take n
  | [], _ => by simp
  | x :: l, h => by
    obtain ⟨y, hy⟩ := h x mem_cons_self
    cases n with
    | zero => simp
    | succ n => simp [hy, take_filterMap fun z hz => h z (mem_cons_of_mem _ hz)]

/-- The loop takes the offers gap by gap, up to the limit. -/
theorem backfillFrom_eq (limit : Nat) : ∀ (gaps : List SyncGap) (out : List StoredSyncRecord),
    a.backfillFrom limit gaps out = out ++ (gaps.flatMap (offered a)).take (limit - out.length)
  | [], out => by simp [backfillFrom]
  | gap :: rest, out => by
    unfold backfillFrom
    rw [flatMap_cons, take_append]
    split
    · rw [Nat.sub_eq_zero_of_le ‹_›]
      simp
    split
    · rename_i hkind
      rw [backfillFrom_eq limit rest out, offered, hkind]
      simp
    rename_i kind hkind
    have htake : ((a.rowsInGap gap).take (limit - out.length)).filterMap (·.stored kind) =
        (offered a gap).take (limit - out.length) := by
      rw [offered, hkind]
      exact take_filterMap fun row hrow => exists_stored hrow kind
    rw [backfillFrom_eq limit rest, htake, append_assoc, length_append, length_take]
    congr 3
    omega

theorem records_eq (gaps : List SyncGap) :
    a.coreSyncBackfillRecords gaps limit = (gaps.flatMap (offered a)).take limit := by
  unfold coreSyncBackfillRecords
  rw [backfillFrom_eq, nil_append, length_nil, Nat.sub_zero]

/-- From a gap from which any record is taken, the first one is too. -/
theorem mem_take_offered : ∀ {gaps : List SyncGap} {limit : Nat},
    stored ∈ (gaps.flatMap (offered a)).take limit → ∃ gap ∈ gaps, stored ∈ offered a gap ∧
      ∀ first ∈ (offered a gap).head?, first ∈ (gaps.flatMap (offered a)).take limit
  | [], _, h => by simp at h
  | gap :: rest, limit, h => by
    rw [flatMap_cons, take_append] at h ⊢
    rcases mem_append.mp h with h | h
    · refine ⟨gap, mem_cons_self, mem_of_mem_take h, fun first hfirst => mem_append_left _ ?_⟩
      cases hoffered : offered a gap with
      | nil => simp [hoffered] at h
      | cons head tail =>
        cases limit with
        | zero => simp at h
        | succ limit =>
          rw [hoffered] at hfirst
          cases hfirst
          exact mem_cons_self
    · obtain ⟨g, hg, hmem, hfirst⟩ := mem_take_offered h
      exact ⟨g, mem_cons_of_mem _ hg, hmem, fun first h => mem_append_right _ (hfirst first h)⟩

/-! ## The plan -/

section Plan
variable (currentRoster : RosterVersion) (currentGeneration budgetBytes : Nat)

/-- A plan only grows. -/
theorem planFrom_steps : ∀ (entries : List (SyncBackfillOffer × Nat)) (cut : List (Bytes × UInt8))
    (plan : SyncBackfillPlan) {steps : List SyncBackfillStep}, plan.steps = steps →
    steps <+: (planFrom currentRoster currentGeneration budgetBytes entries cut plan).steps
  | [], _, _, _, h => h ▸ prefix_rfl
  | (offer, index) :: rest, cut, plan, steps, h => by
    unfold planFrom
    dsimp only
    split
    · exact planFrom_steps rest _ _ h
    · subst h
      exact (prefix_append _ _).trans (planFrom_steps rest _ _ rfl)

/-- An offer that fits is planned, unless its stream was cut. -/
theorem planFrom_fits {offer : SyncBackfillOffer} {cut : List (Bytes × UInt8)}
    {plan : SyncBackfillPlan} (hcut : offer.stream ∉ cut) (hbytes : plan.plannedBytes = 0)
    (hfits : offer.byteLen ≤ budgetBytes) (index : Nat) (rest : List (SyncBackfillOffer × Nat)) :
    ∃ action, plan.steps ++ [⟨index, action⟩] <+:
      (planFrom currentRoster currentGeneration budgetBytes ((offer, index) :: rest) cut plan).steps := by
  have hroom : ¬ (offer.stream ∈ cut ∨
      budgetBytes < saturatingAdd plan.plannedBytes offer.byteLen) := by
    rw [not_or, hbytes]
    unfold saturatingAdd
    exact ⟨hcut, by omega⟩
  unfold planFrom
  rw [if_neg hroom]
  exact ⟨_, planFrom_steps _ _ _ rest cut _ rfl⟩

local instance byteOrder : LinearOrder UInt8 where
  le_refl := UInt8.le_refl
  le_trans _ _ _ := UInt8.le_trans
  lt_iff_le_not_ge _ _ := by
    rw [UInt8.not_le]
    exact (and_iff_right_of_imp UInt8.le_of_lt).symm
  le_antisymm _ _ := UInt8.le_antisymm
  le_total := UInt8.le_total
  toDecidableLE := inferInstance

/-- The offers are ordered by author, kind and position. -/
theorem offerLe_iff {x y : SyncBackfillOffer × Nat} : offerLe x y ↔
    toLex (x.1.authorDeviceId, toLex (x.1.kind, x.1.streamSeq)) ≤
      toLex (y.1.authorDeviceId, toLex (y.1.kind, y.1.streamSeq)) := by
  rw [Prod.Lex.toLex_le_toLex, Prod.Lex.toLex_le_toLex]
  rfl

instance : Std.Total offerLe := ⟨fun x y => by simpa only [offerLe_iff] using le_total _ _⟩

instance : IsTrans (SyncBackfillOffer × Nat) offerLe :=
  ⟨fun _ _ _ h h' => offerLe_iff.mpr ((offerLe_iff.mp h).trans (offerLe_iff.mp h'))⟩

/-- In one stream the order is that of the positions. -/
theorem seq_le_of_offerLe {x y : SyncBackfillOffer × Nat} (h : offerLe x y)
    (hstream : x.1.stream = y.1.stream) : x.1.streamSeq ≤ y.1.streamSeq := by
  obtain ⟨hauthor, hkind⟩ := Prod.mk.inj hstream
  rcases h with h | ⟨_, h | ⟨_, h⟩⟩
  · rw [hauthor] at h
    exact absurd h (lt_irrefl _)
  · rw [hkind] at h
    exact absurd h (UInt8.lt_irrefl _)
  · exact h

end Plan

/-! ### The order of the offers -/

variable {gaps : List SyncGap} {first other : StoredSyncRecord}

theorem stream_of_offered (h : stored ∈ offered a gap) : gap.stream = stored.offer.stream := by
  obtain ⟨kind, hkind, row, hrow, hstored⟩ := mem_offered.mp h
  exact (stored_spec hkind hrow hstored).2.1

theorem first_le (hfirst : (offered a gap).head? = some first) (h : other ∈ offered a gap) :
    asI64 first.streamSeq ≤ asI64 other.streamSeq := by
  have hsorted : (offered a gap).Pairwise fun r r' => asI64 r.streamSeq ≤ asI64 r'.streamSeq := by
    unfold offered
    split
    · exact List.Pairwise.nil
    · refine (rowsInGap_sorted a gap).filterMap _ fun r r' hle b hb b' hb' => ?_
      obtain ⟨_, _, rfl⟩ := Option.map_eq_some_iff.mp hb
      obtain ⟨_, _, rfl⟩ := Option.map_eq_some_iff.mp hb'
      exact hle
  obtain ⟨tail, hoffered⟩ := head?_eq_some_iff.mp hfirst
  rw [hoffered] at h hsorted
  rcases mem_cons.mp h with rfl | hin
  · exact le_rfl
  · exact (pairwise_cons.mp hsorted).1 other hin

/-- A record is determined by its position. -/
theorem offered_inj (hkeys : (a.syncStreamRecords.map SyncStreamRow.slot).Nodup)
    (h : stored ∈ offered a gap) (h' : other ∈ offered a gap)
    (hseq : stored.streamSeq = other.streamSeq) : stored = other := by
  obtain ⟨kind, hkind, row, hrow, hstored⟩ := mem_offered.mp h
  obtain ⟨kind', hkind', row', hrow', hstored'⟩ := mem_offered.mp h'
  cases hkind.symm.trans hkind'
  have hstream := (stream_of_offered h).symm.trans (stream_of_offered h')
  have hsame : row.slot = row'.slot := by
    rw [← (stored_spec hkind hrow hstored).1, ← (stored_spec hkind hrow' hstored').1]
    simp_all [slotOf, SyncBackfillOffer.stream, StoredSyncRecord.offer]
  have hrows := inj_on_of_nodup_map hkeys (mem_rowsInGap.mp hrow).1 (mem_rowsInGap.mp hrow').1 hsame
  subst hrows
  exact Option.some.inj (hstored.symm.trans hstored')

/-! ### The first missing record -/

/-- The first record of its stream that a gap asks for and the author could send. -/
structure FirstMissing (a : Store) (gap : SyncGap) (first : StoredSyncRecord) : Prop where
  held : ∃ kind, coreSyncRecordKindOf gap.kind = some kind ∧ ∃ row ∈ a.syncStreamRecords,
    row.stream = gap.stream ∧ row.stored kind = some first
  asked : gap.asksFor first.offer
  least : ∀ row ∈ a.syncStreamRecords, row.stream = gap.stream → row.copy.isSome = true →
    gap.afterSeq < row.streamSeq → first.streamSeq ≤ row.streamSeq

/-- The positions and bounds of a lookup are `u64`s. -/
structure Wide (a : Store) (gap : SyncGap) : Prop where
  rows : ∀ row ∈ a.syncStreamRecords, row.copy.isSome = true → row.streamSeq < 2 ^ 64
  after : gap.afterSeq < 2 ^ 64
  through : gap.throughSeq < 2 ^ 64

theorem asI64_cases {n : Nat} (h : n < 2 ^ 64) :
    asI64 n = n ∧ n < 2 ^ 63 ∨ asI64 n = n - 2 ^ 64 ∧ 2 ^ 63 ≤ n ∧ n < 2 ^ 64 := by
  by_cases hlow : n < 2 ^ 63
  · exact .inl ⟨asI64_of_lt hlow, hlow⟩
  · refine .inr ⟨?_, not_lt.mp hlow, h⟩
    unfold asI64
    rw [← Int.sub_bmod_right]
    apply Int.bmod_eq_of_le <;> omega

/-- What is looked up for a gap that is not empty is what it asks for. -/
theorem asksFor_of_offered (hwide : Wide a gap) (hgap : gap.afterSeq < gap.throughSeq)
    (h : stored ∈ offered a gap) : gap.asksFor stored.offer := by
  refine ⟨stream_of_offered h, ?_⟩
  obtain ⟨kind, _, row, hrow, hstored⟩ := mem_offered.mp h
  obtain ⟨hmem, _, hafter, hthrough, hcopy⟩ := mem_rowsInGap.mp hrow
  obtain ⟨copy, _, rfl⟩ := Option.map_eq_some_iff.mp hstored
  have := asI64_cases hwide.after
  have := asI64_cases hwide.through
  have := asI64_cases (hwide.rows row hmem hcopy)
  show gap.afterSeq < row.streamSeq ∧ row.streamSeq ≤ gap.throughSeq
  omega

/-- A record that a gap asks for is looked up, provided the casts keep the gap's bounds in
order. -/
theorem mem_rowsInGap_of_asked (hwide : Wide a gap)
    (hcast : asI64 gap.afterSeq < asI64 gap.throughSeq) (hmem : row ∈ a.syncStreamRecords)
    (hstream : row.stream = gap.stream) (hcopy : row.copy.isSome = true)
    (hafter : gap.afterSeq < row.streamSeq) (hthrough : row.streamSeq ≤ gap.throughSeq) :
    row ∈ a.rowsInGap gap := by
  have := asI64_cases hwide.after
  have := asI64_cases hwide.through
  have := asI64_cases (hwide.rows row hmem hcopy)
  refine mem_rowsInGap.mpr ⟨hmem, hstream, ?_, ?_, hcopy⟩ <;> omega

/-- Where anything that is looked up is asked for, the first that is looked up is the first
that is missing. -/
theorem firstMissing_of_offered (hwide : Wide a gap) (h : stored ∈ offered a gap)
    (hasked : gap.asksFor stored.offer) :
    asI64 gap.afterSeq < asI64 gap.throughSeq ∧
      ∃ first, (offered a gap).head? = some first ∧ FirstMissing a gap first := by
  have hgap : gap.afterSeq < gap.throughSeq := lt_of_lt_of_le hasked.2.1 hasked.2.2
  have hcast : asI64 gap.afterSeq < asI64 gap.throughSeq := by
    obtain ⟨_, _, row, hrow, _⟩ := mem_offered.mp h
    obtain ⟨_, _, hafter, hthrough, _⟩ := mem_rowsInGap.mp hrow
    exact lt_of_lt_of_le hafter hthrough
  obtain ⟨first, hfirst⟩ : ∃ first, (offered a gap).head? = some first :=
    Option.isSome_iff_exists.mp (isSome_head?.mpr (ne_nil_of_mem h))
  have hin := mem_of_head? hfirst
  obtain ⟨kind, hkind, row, hrow, hstored⟩ := mem_offered.mp hin
  obtain ⟨hmem, hstream, hafter, hthrough, hcopy⟩ := mem_rowsInGap.mp hrow
  have hfirstAsked := asksFor_of_offered hwide hgap hin
  refine ⟨hcast, first, hfirst, ⟨kind, hkind, row, hmem, hstream, hstored⟩, hfirstAsked, ?_⟩
  intro later hlater hlaterStream hlaterCopy habove
  by_cases hbelow : later.streamSeq ≤ gap.throughSeq
  · have hlaterRow := mem_rowsInGap_of_asked hwide hcast hlater hlaterStream hlaterCopy habove hbelow
    obtain ⟨last, hlast⟩ := exists_stored hlaterRow kind
    have hle := first_le hfirst (mem_offered.mpr ⟨kind, hkind, later, hlaterRow, hlast⟩)
    obtain ⟨_, _, rfl⟩ := Option.map_eq_some_iff.mp hlast
    obtain ⟨_, _, rfl⟩ := Option.map_eq_some_iff.mp hstored
    have := asI64_cases hwide.after
    have := asI64_cases (hwide.rows row hmem hcopy)
    have := asI64_cases (hwide.rows later hlater hlaterCopy)
    have := hfirstAsked.2.1
    change asI64 row.streamSeq ≤ asI64 later.streamSeq at hle
    change gap.afterSeq < row.streamSeq at this
    show row.streamSeq ≤ later.streamSeq
    omega
  · have := hfirstAsked.2.2
    change first.streamSeq ≤ gap.throughSeq at this
    omega

theorem FirstMissing.unique (h : FirstMissing a gap first) (h' : FirstMissing a gap other)
    (hkeys : (a.syncStreamRecords.map SyncStreamRow.slot).Nodup) : first = other := by
  obtain ⟨⟨kind, hkind, row, hmem, hstream, hstored⟩, hasked, hleast⟩ := h
  obtain ⟨⟨kind', hkind', row', hmem', hstream', hstored'⟩, hasked', hleast'⟩ := h'
  cases hkind.symm.trans hkind'
  have hseq : first.streamSeq = row.streamSeq ∧ row.copy.isSome = true := by
    obtain ⟨copy, hcopy, rfl⟩ := Option.map_eq_some_iff.mp hstored
    exact ⟨rfl, Option.isSome_iff_exists.mpr ⟨copy, hcopy⟩⟩
  have hseq' : other.streamSeq = row'.streamSeq ∧ row'.copy.isSome = true := by
    obtain ⟨copy, hcopy, rfl⟩ := Option.map_eq_some_iff.mp hstored'
    exact ⟨rfl, Option.isSome_iff_exists.mpr ⟨copy, hcopy⟩⟩
  have hle := hleast row' hmem' hstream' hseq'.2 (hseq'.1 ▸ hasked'.2.1)
  have hle' := hleast' row hmem hstream hseq.2 (hseq.1 ▸ hasked.2.1)
  have hslot : row.slot = row'.slot := by
    obtain ⟨hauthor, hkind⟩ := Prod.mk.inj (hstream.trans hstream'.symm)
    rw [SyncStreamRow.slot, SyncStreamRow.slot, hauthor, hkind, show row.streamSeq = row'.streamSeq
      by omega]
  have hrows := inj_on_of_nodup_map hkeys hmem hmem' hslot
  subst hrows
  exact Option.some.inj (hstored.symm.trans hstored')

/-- The first missing record is looked up first, provided the casts keep the gap's bounds in
order. -/
theorem FirstMissing.head (hmissing : FirstMissing a gap first) (hwide : Wide a gap)
    (hkeys : (a.syncStreamRecords.map SyncStreamRow.slot).Nodup)
    (hcast : asI64 gap.afterSeq < asI64 gap.throughSeq) : (offered a gap).head? = some first := by
  obtain ⟨kind, hkind, row, hmem, hstream, hstored⟩ := hmissing.held
  have hin : first ∈ offered a gap := by
    obtain ⟨copy, hcopy, rfl⟩ := Option.map_eq_some_iff.mp hstored
    exact mem_offered.mpr ⟨kind, hkind, row, mem_rowsInGap_of_asked hwide hcast hmem hstream
      (Option.isSome_iff_exists.mpr ⟨copy, hcopy⟩) hmissing.asked.2.1 hmissing.asked.2.2, hstored⟩
  obtain ⟨_, head, hhead, hleast⟩ := firstMissing_of_offered hwide hin hmissing.asked
  rw [hhead, hmissing.unique hleast hkeys]

/-- What is looked up for the gaps, in the order of the plan. -/
def planOrder (a : Store) (gaps : List SyncGap) (limit : Nat) : List (SyncBackfillOffer × Nat) :=
  (((a.coreSyncBackfillRecords gaps limit).map (·.offer)).zipIdx.filter fun entry =>
    ∃ gap ∈ gaps, gap.asksFor entry.1).insertionSort offerLe

theorem mem_planOrder {entry : SyncBackfillOffer × Nat} : entry ∈ planOrder a gaps limit ↔
    (∃ stored, (a.coreSyncBackfillRecords gaps limit)[entry.2]? = some stored ∧
      stored.offer = entry.1) ∧ ∃ gap ∈ gaps, gap.asksFor entry.1 := by
  unfold planOrder
  rw [mem_insertionSort, mem_filter, mem_zipIdx_iff_getElem?, getElem?_map, Option.map_eq_some_iff,
    decide_eq_true_iff]

variable (hkeys : (a.syncStreamRecords.map SyncStreamRow.slot).Nodup)
  (hwide : ∀ gap ∈ gaps, Wide a gap)
  (hgaps : ∀ g ∈ gaps, ∀ g' ∈ gaps, g.stream = g'.stream → g = g')

include hkeys hwide hgaps in
/-- The first entry of a stream is the first record of its gap. -/
theorem first_of_stream {pre post : List (SyncBackfillOffer × Nat)} {entry : SyncBackfillOffer × Nat}
    (hsplit : planOrder a gaps limit = pre ++ entry :: post)
    (hpre : ∀ earlier ∈ pre, earlier.1.stream ≠ entry.1.stream) :
    ∃ gap ∈ gaps, gap.stream = entry.1.stream ∧ ∃ first, FirstMissing a gap first ∧
      (a.coreSyncBackfillRecords gaps limit)[entry.2]? = some first ∧ first.offer = entry.1 := by
  have hentry : entry ∈ planOrder a gaps limit := by simp [hsplit]
  obtain ⟨⟨stored, hstored, hoffer⟩, asking, hasking, hasked⟩ := mem_planOrder.mp hentry
  have hmem := mem_of_getElem? hstored
  rw [records_eq] at hmem
  obtain ⟨gap, hgap, hoffered, hhead⟩ := mem_take_offered hmem
  have hstream : gap.stream = entry.1.stream := hoffer ▸ stream_of_offered hoffered
  -- a stream has one gap, so the record is looked up for the gap that asks for it
  obtain rfl := hgaps gap hgap asking hasking (hstream.trans hasked.1.symm)
  obtain ⟨_, first, hfirst, hmissing⟩ :=
    firstMissing_of_offered (hwide gap hgap) hoffered (hoffer ▸ hasked)
  have hin := hhead first hfirst
  rw [← records_eq] at hin
  obtain ⟨index, hindex⟩ := mem_iff_getElem?.mp hin
  have hsame : first.offer.stream = entry.1.stream := hmissing.asked.1.symm.trans hstream
  -- it does not stand in front of the entry, since nothing of its stream does
  have hle : offerLe entry (first.offer, index) := by
    have hsorted : (planOrder a gaps limit).Pairwise offerLe := pairwise_insertionSort _ _
    have hfound : (first.offer, index) ∈ planOrder a gaps limit :=
      mem_planOrder.mpr ⟨⟨_, hindex, rfl⟩, gap, hgap, hmissing.asked⟩
    rw [hsplit] at hsorted hfound
    rcases mem_append.mp hfound with hearlier | hlater
    · exact absurd hsame (hpre _ hearlier)
    rcases mem_cons.mp hlater with heq | hlater
    · rw [heq]
      exact (Std.Total.total _ _).elim id id
    · exact (pairwise_cons.mp (pairwise_append.mp hsorted).2.1).1 _ hlater
  have hseq := seq_le_of_offerLe hle hsame.symm
  rw [← hoffer] at hseq
  have hleast : first.streamSeq ≤ stored.streamSeq := by
    obtain ⟨_, _, row, hrow, hread⟩ := mem_offered.mp hoffered
    obtain ⟨copy, hcopy, rfl⟩ := Option.map_eq_some_iff.mp hread
    obtain ⟨hmem, hstream, _, _, hsome⟩ := mem_rowsInGap.mp hrow
    rw [← hoffer] at hasked
    exact hmissing.least row hmem hstream hsome hasked.2.1
  have heq := offered_inj hkeys hoffered (mem_of_head? hfirst) (le_antisymm hseq hleast)
  exact ⟨gap, hgap, hstream, first, hmissing, heq ▸ hstored, heq ▸ hoffer⟩

/-! ## One round -/

/-- The gaps of a round, in the order in which they are served. -/
def gapsOf (a b : Store) (person : Bytes) : List SyncGap :=
  ((a.coreSyncDigest person).streams.filterMap (gapOf (b.coreSyncDigest person))).insertionSort
    fun g g' => streamLe g.stream g'.stream

theorem planned_eq (terms : Terms) (a b : Store) :
    planned terms a b = .ok ((planFrom terms.currentRoster terms.currentGeneration terms.budgetBytes
      (planOrder a (gapsOf a b terms.person) terms.limit) [] {}).steps.filterMap fun step =>
        (a.coreSyncBackfillRecords (gapsOf a b terms.person) terms.limit)[step.offerIndex]?) := by
  have hgaps : coreSyncDigestGaps (b.coreSyncDigest terms.person) (a.coreSyncDigest terms.person) =
      .ok (gapsOf a b terms.person) := by
    unfold coreSyncDigestGaps
    rw [refuseWhen_neg (show ¬ ((b.coreSyncDigest terms.person).personId ≠
      (a.coreSyncDigest terms.person).personId) from not_not.mpr rfl)]
    rfl
  unfold planned
  rw [hgaps]
  rfl

theorem mem_gapsOf (ha : Authors a author person) (hb : Follows a b author person) :
    gap ∈ gapsOf a b person ↔ ∃ kind, gap = gapAt a b author kind ∧
      b.streamCursorByWire author kind < a.streamCursorByWire author kind := by
  rw [gapsOf, mem_insertionSort, mem_gaps ha hb]

/-- The cursors of an author are in range. -/
theorem Authors.cursor_lt (ha : Authors a author person) (kind : UInt8) :
    a.streamCursorByWire author kind < 2 ^ 63 := by
  by_contra hlarge
  have hheld := ha.streams.held author kind (a.streamCursorByWire author kind) (by omega) (le_refl _)
  obtain ⟨row, hmem, hslot⟩ := holdsSlot_eq_true.mp hheld
  obtain ⟨hauthor, _, hseq⟩ : row.authorDeviceId = author ∧ row.kind = kind ∧
      row.streamSeq = a.streamCursorByWire author kind := by
    simpa [SyncStreamRow.slot] using hslot
  exact hlarge (hseq ▸ ha.range row hmem hauthor)

theorem Authors.wide (ha : Authors a author person) {kind : UInt8}
    (hlt : b.streamCursorByWire author kind < a.streamCursorByWire author kind) :
    Wide a (gapAt a b author kind) := by
  have hcursor := ha.cursor_lt kind
  refine ⟨fun row hrow hcopy => ?_, ?_, ?_⟩
  · have := ha.range row hrow ((ha.seals row hrow).mp hcopy)
    omega
  · show b.streamCursorByWire author kind < 2 ^ 64
    omega
  · show a.streamCursorByWire author kind < 2 ^ 64
    omega

/-- The record a cursor of the sibling is waiting for is the first that is missing, and it is
looked up. -/
theorem exists_next (ha : Authors a author person) {kind : UInt8}
    (hlt : b.streamCursorByWire author kind < a.streamCursorByWire author kind) :
    ∃ next ∈ a.rowsInGap (gapAt a b author kind),
      next.streamSeq = b.streamCursorByWire author kind + 1 := by
  have hheld := ha.streams.held author kind (b.streamCursorByWire author kind + 1) (by omega) hlt
  obtain ⟨next, hmem, hslot⟩ := holdsSlot_eq_true.mp hheld
  obtain ⟨hauthor, hkind, hseq⟩ : next.authorDeviceId = author ∧ next.kind = kind ∧
      next.streamSeq = b.streamCursorByWire author kind + 1 := by
    simpa [SyncStreamRow.slot] using hslot
  have hcursor := ha.cursor_lt kind
  refine ⟨next, mem_rowsInGap_of_asked (ha.wide hlt) ?_ hmem ?_ ((ha.seals next hmem).mpr hauthor)
    ?_ ?_, hseq⟩
  · show asI64 (b.streamCursorByWire author kind) < asI64 (a.streamCursorByWire author kind)
    rw [asI64_of_lt hcursor, asI64_of_lt (lt_trans hlt hcursor)]
    exact_mod_cast hlt
  · rw [SyncStreamRow.stream, hauthor, hkind]
    rfl
  · exact hseq ▸ Nat.lt_succ_self _
  · exact hseq ▸ hlt

/-- The first record of the plan is the one a cursor of the sibling is waiting for. -/
theorem planned_head (ha : Authors a author terms.person) (hb : Follows a b author terms.person)
    (hlimit : 0 < terms.limit)
    (hbudget : ∀ row ∈ a.syncStreamRecords, ∀ copy ∈ row.copy,
      copy.body.length ≤ terms.budgetBytes)
    (hbehind : ∃ kind, b.streamCursorByWire author kind < a.streamCursorByWire author kind) :
    ∃ first rest kind, planned terms a b = .ok (first :: rest) ∧
      slotOf first = (author, kind, b.streamCursorByWire author kind + 1) := by
  have hwide : ∀ gap ∈ gapsOf a b terms.person, Wide a gap := by
    intro gap hgap
    obtain ⟨kind, rfl, hlt⟩ := (mem_gapsOf ha hb).mp hgap
    exact ha.wide hlt
  have hgaps : ∀ g ∈ gapsOf a b terms.person, ∀ g' ∈ gapsOf a b terms.person,
      g.stream = g'.stream → g = g' := by
    intro g hg g' hg' hstream
    obtain ⟨kind, rfl, _⟩ := (mem_gapsOf ha hb).mp hg
    obtain ⟨kind', rfl, _⟩ := (mem_gapsOf ha hb).mp hg'
    exact congrArg (gapAt a b author) (Prod.mk.inj hstream).2
  have hsome : a.coreSyncBackfillRecords (gapsOf a b terms.person) terms.limit ≠ [] := by
    obtain ⟨wire, hlt⟩ := hbehind
    have hgap := (mem_gapsOf ha hb).mpr ⟨wire, rfl, hlt⟩
    obtain ⟨row, hin, _⟩ := exists_next ha hlt
    have hrow := mem_rowsInGap.mp hin
    have hkind : row.kind = wire := congrArg Prod.snd hrow.2.1
    obtain ⟨known, hknown, _⟩ := ha.kind row hrow.1 (congrArg Prod.fst hrow.2.1)
    obtain ⟨stored, hstored⟩ := exists_stored hin known
    have hmem : stored ∈ (gapsOf a b terms.person).flatMap (offered a) :=
      mem_flatMap.mpr ⟨_, hgap, mem_offered.mpr ⟨known, hkind ▸ hknown, row, hin, hstored⟩⟩
    rw [records_eq, ne_eq, take_eq_nil_iff, not_or]
    exact ⟨Nat.ne_of_gt hlimit, ne_nil_of_mem hmem⟩
  cases hsorted : planOrder a (gapsOf a b terms.person) terms.limit with
  | nil =>
    obtain ⟨stored, hmem⟩ := exists_mem_of_ne_nil _ hsome
    obtain ⟨index, hindex⟩ := mem_iff_getElem?.mp hmem
    rw [records_eq] at hmem
    obtain ⟨gap, hgap, hoffered, _⟩ := mem_take_offered hmem
    obtain ⟨kind, rfl, hlt⟩ := (mem_gapsOf ha hb).mp hgap
    have hin : (stored.offer, index) ∈ planOrder a _ _ := mem_planOrder.mpr
      ⟨⟨stored, hindex, rfl⟩, _, hgap, asksFor_of_offered (ha.wide hlt) hlt hoffered⟩
    rw [hsorted] at hin
    cases hin
  | cons entry tail =>
    obtain ⟨offer, index⟩ := entry
    have hsplit : planOrder a (gapsOf a b terms.person) terms.limit = [] ++ (offer, index) :: tail :=
      hsorted
    obtain ⟨gap, hgap, _, first, hmissing, hindex, rfl⟩ :=
      first_of_stream ha.streams.slots hwide hgaps hsplit fun _ => nofun
    obtain ⟨wire, rfl, hlt⟩ := (mem_gapsOf ha hb).mp hgap
    obtain ⟨⟨kind, hkind, row, hmem, hstream, hstored⟩, hasked, hleast⟩ := hmissing
    obtain ⟨next, hnext, hseq⟩ := exists_next ha hlt
    obtain ⟨hnextMem, hnextStream, _, _, hnextCopy⟩ := mem_rowsInGap.mp hnext
    have hle := hleast next hnextMem hnextStream hnextCopy (hseq ▸ Nat.lt_succ_self _)
    have hfits : first.offer.byteLen ≤ terms.budgetBytes := by
      obtain ⟨copy, hcopy, rfl⟩ := Option.map_eq_some_iff.mp hstored
      exact hbudget row hmem copy hcopy
    have hstart : ({} : SyncBackfillPlan).plannedBytes = 0 := rfl
    obtain ⟨action, more, hsteps⟩ := planFrom_fits terms.currentRoster terms.currentGeneration
      terms.budgetBytes not_mem_nil hstart hfits index tail
    refine ⟨first, more.filterMap fun step =>
      (a.coreSyncBackfillRecords (gapsOf a b terms.person) terms.limit)[step.offerIndex]?, wire, ?_, ?_⟩
    · rw [planned_eq, hsorted, ← hsteps]
      exact congrArg Except.ok (filterMap_cons_some hindex)
    · obtain ⟨copy, _, rfl⟩ := Option.map_eq_some_iff.mp hstored
      have hafter : b.streamCursorByWire author wire < row.streamSeq := hasked.2.1
      have hposition : row.streamSeq = b.streamCursorByWire author wire + 1 :=
        le_antisymm (hseq ▸ hle) hafter
      obtain ⟨hauthor, hwire⟩ := Prod.mk.inj hstream
      have hwireKind : wire = coreSyncRecordKindWire kind := coreSyncRecordKindOf_eq_some.mp hkind
      show (row.authorDeviceId, coreSyncRecordKindWire kind, row.streamSeq) = _
      rw [hauthor, hposition, ← hwireKind]
      rfl

/-- What is planned stands in the author's streams. -/
theorem planned_spec (ha : Authors a author terms.person) (hb : Follows a b author terms.person)
    {plan : List StoredSyncRecord} (hplan : planned terms a b = .ok plan) (hmem : stored ∈ plan) :
    a.holdsSlot (slotOf stored) = true ∧ coreSyncKindIsStream stored.kind = true := by
  rw [planned_eq] at hplan
  cases hplan
  obtain ⟨step, _, hstored⟩ := mem_filterMap.mp hmem
  have hrecord := mem_of_getElem? hstored
  rw [records_eq] at hrecord
  obtain ⟨gap, hgap, hoffered⟩ := mem_flatMap.mp (mem_of_mem_take hrecord)
  obtain ⟨kind, hkind, row, hrow, hread⟩ := mem_offered.mp hoffered
  obtain ⟨hslot, hasks, _⟩ := stored_spec hkind hrow hread
  obtain ⟨wire, rfl, _⟩ := (mem_gapsOf ha hb).mp hgap
  have hauthor : stored.authorDeviceId = author := (congrArg Prod.fst hasks).symm
  have hheld := (mem_rowsInGap.mp hrow).1
  refine ⟨hslot ▸ holdsSlot_eq_true.mpr ⟨row, hheld, rfl⟩, ?_⟩
  obtain ⟨hrowAuthor, hrowKind, _⟩ : row.authorDeviceId = stored.authorDeviceId ∧
      row.kind = coreSyncRecordKindWire stored.kind ∧ row.streamSeq = stored.streamSeq := by
    simpa [SyncStreamRow.slot, slotOf] using hslot.symm
  obtain ⟨kind, hkind, hstream⟩ := ha.kind row hheld (hrowAuthor.trans hauthor)
  rw [hrowKind, coreSyncRecordKindOf_wire] at hkind
  rw [Option.some.inj hkind]
  exact hstream

/-- The delivery of a planned record. Only its position counts: it may have been sealed
again, and what it carries is its own. -/
structure Carries (terms : Terms) (delivery : Delivery) (stored : StoredSyncRecord) : Prop where
  author : delivery.record.authorDeviceId = stored.authorDeviceId
  kind : delivery.record.kind = stored.kind
  seq : delivery.record.streamSeq = stored.streamSeq
  person : delivery.record.personId = terms.person

theorem Carries.slot {delivery : Delivery} (h : Carries terms delivery stored) :
    delivery.record.slot = slotOf stored := by
  rw [SyncRecord.slot, slotOf, h.author, h.kind, h.seq]

/-- One round: records of the plan arrive, each any number of times or not at all and in
any order. The first one of the plan is among them and is applied; any other may be refused. -/
structure Round (P : Primitives) (readCard : CardReader) (terms : Terms) (a b b' : Store)
    (plan : List StoredSyncRecord) (deliveries : List Delivery) : Prop where
  plans : planned terms a b = .ok plan
  carries : ∀ delivery ∈ deliveries, ∃ stored ∈ plan, Carries terms delivery stored
  first : ∀ stored rest, plan = stored :: rest → ∃ before delivery after result,
    deliveries = before ++ delivery :: after ∧ Carries terms delivery stored ∧
      (coreApplySyncRecord P readCard delivery.record delivery.nowMs delivery.clock).result
        (deliverAll P readCard b before) = .ok result
  arrives : b' = deliverAll P readCard b deliveries

section Deliveries
variable {P : Primitives} {readCard : CardReader} {delivery : Delivery}

/-- Whatever is delivered, the streams stay in order and nothing is let go of. -/
theorem deliverAll_mono : ∀ (deliveries : List Delivery) {b : Store}, StreamsOk b →
    StreamsOk (deliverAll P readCard b deliveries) ∧ ∀ slot, b.holdsSlot slot = true →
      (deliverAll P readCard b deliveries).holdsSlot slot = true
  | [], _, hb => ⟨hb, fun _ h => h⟩
  | delivery :: rest, b, hb => by
    have hfiled := filed_deliver P readCard b delivery
    obtain ⟨hok, hmono⟩ := deliverAll_mono rest (hfiled.streamsOk hb)
    exact ⟨hok, fun slot h => hmono slot (hfiled.holdsSlot_mono h)⟩

theorem follows_deliver (hb : Follows a b author person)
    (hslot : a.holdsSlot delivery.record.slot = true) (hperson : delivery.record.personId = person) :
    Follows a (deliver P readCard b delivery) author person := by
  have hfiled := filed_deliver P readCard b delivery
  refine ⟨hfiled.streamsOk hb.streams, fun row hrow hauthor => ?_, fun row hrow hauthor => ?_⟩
  · rcases hfiled.mem_rows row hrow with hold | rfl
    · exact hb.slots row hold hauthor
    · exact hslot
  · rcases hfiled.mem_rows row hrow with hold | rfl
    · exact hb.person row hold hauthor
    · exact hperson

theorem follows_deliverAll : ∀ (deliveries : List Delivery) {b : Store},
    Follows a b author person → (∀ delivery ∈ deliveries,
      a.holdsSlot delivery.record.slot = true ∧ delivery.record.personId = person) →
        Follows a (deliverAll P readCard b deliveries) author person
  | [], _, hb, _ => hb
  | delivery :: rest, _, hb, hall => by
    obtain ⟨hslot, hperson⟩ := hall delivery mem_cons_self
    exact follows_deliverAll rest (follows_deliver hb hslot hperson)
      fun later hmem => hall later (mem_cons_of_mem _ hmem)

variable {b' : Store} {plan : List StoredSyncRecord} {deliveries : List Delivery}
  (h : Round P readCard terms a b b' plan deliveries)

include h

theorem Round.follows (ha : Authors a author terms.person) (hb : Follows a b author terms.person) :
    Follows a b' author terms.person := by
  rw [h.arrives]
  refine follows_deliverAll deliveries hb fun delivery hmem => ?_
  obtain ⟨stored, hstored, hcarries⟩ := h.carries delivery hmem
  rw [hcarries.slot]
  exact ⟨(planned_spec ha hb h.plans hstored).1, hcarries.person⟩

/-- No cursor moves back. -/
theorem Round.cursor_le (hb : StreamsOk b)
    (anyone : Bytes) (kind : UInt8) :
    b.streamCursorByWire anyone kind ≤ b'.streamCursorByWire anyone kind := by
  rw [h.arrives]
  obtain ⟨hok, hmono⟩ := deliverAll_mono (P := P) deliveries hb
  exact hb.cursor_mono hok fun seq => hmono _

/-- While the sibling is behind, a cursor moves. -/
theorem Round.progress (ha : Authors a author terms.person) (hb : Follows a b author terms.person)
    (hlimit : 0 < terms.limit)
    (hbudget : ∀ row ∈ a.syncStreamRecords, ∀ copy ∈ row.copy,
      copy.body.length ≤ terms.budgetBytes)
    (hbehind : ∃ kind, b.streamCursorByWire author kind < a.streamCursorByWire author kind) :
    ∃ kind, b.streamCursorByWire author kind < b'.streamCursorByWire author kind := by
  obtain ⟨first, rest, kind, hplan, hslot⟩ := planned_head ha hb hlimit hbudget hbehind
  cases h.plans.symm.trans hplan
  obtain ⟨before, delivery, after, result, rfl, hcarries, hok⟩ := h.first first rest rfl
  have hstream : coreSyncKindIsStream delivery.record.kind = true := by
    rw [hcarries.kind]
    exact (planned_spec ha hb hplan mem_cons_self).2
  -- the slot is held once its record was applied, and stays held
  have hbefore : StreamsOk (deliverAll P readCard b before) := (deliverAll_mono before hb.streams).1
  have hfiled := filed_deliver P readCard (deliverAll P readCard b before) delivery
  have hheld : b'.holdsSlot (author, kind, b.streamCursorByWire author kind + 1) = true := by
    rw [h.arrives, deliverAll, foldl_append, foldl_cons, ← hslot, ← hcarries.slot]
    exact (deliverAll_mono after (hfiled.streamsOk hbefore)).2 _
      (hfiled.holdsSlot_of_ok hstream hok)
  refine ⟨kind, lt_of_le_of_ne (h.cursor_le hb.streams author kind) fun heq => ?_⟩
  rw [heq, (h.follows ha hb).streams.stops] at hheld
  cases hheld

end Deliveries

/-! ## Rounds -/

/-- The sibling has everything. -/
def CaughtUp (a b : Store) (author : Bytes) : Prop :=
  ∀ kind, b.streamCursorByWire author kind = a.streamCursorByWire author kind

/-- How far the sibling is behind, over all kinds. -/
def lag (a b : Store) (author : Bytes) : Nat :=
  ((range 256).map fun kind => a.streamCursorByWire author (UInt8.ofNat kind) -
    b.streamCursorByWire author (UInt8.ofNat kind)).sum

/-- The sibling is never ahead. -/
theorem Follows.cursor_le (hb : Follows a b author person) (ha : Authors a author person)
    (kind : UInt8) : b.streamCursorByWire author kind ≤ a.streamCursorByWire author kind := by
  refine hb.streams.cursor_mono ha.streams fun seq hheld => ?_
  obtain ⟨row, hmem, hslot⟩ := holdsSlot_eq_true.mp hheld
  rw [← hslot]
  exact hb.slots row hmem (congrArg Prod.fst hslot)

/-- As long as the sibling is behind on a stream, every round moves one of its cursors; no
round moves one back; so after finitely many rounds it is behind on none. Its digest
never claims a position it does not hold. -/
theorem anti_entropy_converges (P : Primitives) (readCard : CardReader) (terms : Terms) (a : Store)
    (author : Bytes) (rounds : Nat → Store) (ha : Authors a author terms.person)
    (hb : Follows a (rounds 0) author terms.person) (hlimit : 0 < terms.limit)
    (hbudget : ∀ row ∈ a.syncStreamRecords, ∀ copy ∈ row.copy,
      copy.body.length ≤ terms.budgetBytes)
    (hrounds : ∀ n, ∃ plan deliveries,
      Round P readCard terms a (rounds n) (rounds (n + 1)) plan deliveries) :
    (∀ n, (∃ kind, (rounds n).streamCursorByWire author kind < a.streamCursorByWire author kind) →
      ∃ kind, (rounds n).streamCursorByWire author kind <
        (rounds (n + 1)).streamCursorByWire author kind) ∧
    (∀ n anyone kind, (rounds n).streamCursorByWire anyone kind ≤
      (rounds (n + 1)).streamCursorByWire anyone kind) ∧
    (∃ N, ∀ n, N ≤ n → CaughtUp a (rounds n) author) ∧
    (∀ n person, ∀ line ∈ ((rounds n).coreSyncDigest person).streams, ∀ seq, 1 ≤ seq →
      seq ≤ line.throughSeq →
        (rounds n).holdsSlot (line.authorDeviceId, line.kind, seq) = true) := by
  have hfollows : ∀ n, Follows a (rounds n) author terms.person := by
    intro n
    induction n with
    | zero => exact hb
    | succ n ih =>
      obtain ⟨plan, deliveries, hround⟩ := hrounds n
      exact hround.follows ha ih
  have hprogress : ∀ n, (∃ kind, (rounds n).streamCursorByWire author kind <
      a.streamCursorByWire author kind) → ∃ kind, (rounds n).streamCursorByWire author kind <
        (rounds (n + 1)).streamCursorByWire author kind := by
    intro n hbehind
    obtain ⟨plan, deliveries, hround⟩ := hrounds n
    exact hround.progress ha (hfollows n) hlimit hbudget hbehind
  have hmono : ∀ n anyone kind, (rounds n).streamCursorByWire anyone kind ≤
      (rounds (n + 1)).streamCursorByWire anyone kind := by
    intro n anyone kind
    obtain ⟨plan, deliveries, hround⟩ := hrounds n
    exact hround.cursor_le (hfollows n).streams anyone kind
  have hstays : ∀ n, CaughtUp a (rounds n) author → CaughtUp a (rounds (n + 1)) author := by
    intro n hset kind
    refine le_antisymm ((hfollows (n + 1)).cursor_le ha kind) ?_
    rw [← hset kind]
    exact hmono n author kind
  refine ⟨hprogress, hmono, ?_, ?_⟩
  · refine seq_settles rounds (fun b => lag a b author) (fun b => CaughtUp a b author)
      (fun n hbehind => ?_) hstays
    obtain ⟨kind, hlt⟩ := hprogress n <| by
      obtain ⟨kind, hne⟩ := not_forall.mp hbehind
      exact ⟨kind, lt_of_le_of_ne ((hfollows n).cursor_le ha kind) hne⟩
    refine sum_lt_sum _ _ (fun k _ => ?_) ⟨kind.toNat, mem_range.mpr kind.toNat_lt, ?_⟩
    · have := hmono n author (UInt8.ofNat k)
      omega
    · rw [UInt8.ofNat_toNat]
      have := (hfollows (n + 1)).cursor_le ha kind
      omega
  · intro n person line hline seq hpos hseq
    rw [(mem_digest hline).1] at hseq
    exact (hfollows n).streams.held _ _ _ hpos hseq

section Example
open CruiseMesh.Sample

/-- A Settings record without settings. -/
def plainRecord : SyncRecord :=
  { kind := .settings, personId := Sample.person, authorDeviceId := replicate 16 2
    rosterVersion := pairRoster.version, inboxKeyGeneration := 0, streamSeq := 1
    timestampMs := 0, payload := [1, 0, 0], signature := [] }

def plainCopy : SealedSyncRecord :=
  { body := [0, 0, 0], sealedFor := pairRoster.version, inboxKeyGeneration := 0 }

/-- A record of a second stream. -/
def plainWatermarks (streamSeq : Nat) : SyncRecord :=
  { plainRecord with kind := .watermarks, streamSeq }

/-- The author has kept two streams. -/
def keeper : Store :=
  [plainWatermarks 1, plainWatermarks 2, plainRecord].foldl
    (fun s record => (coreSyncRetainRecord record plainCopy 0).final s) {}

def arrival (record : SyncRecord) : Delivery := { record, nowMs := 0, clock := fun _ => .ok 0 }

def noCards : CardReader := fun _ => .error ⟨.data, 1, 0⟩

/-- Two rows are looked up, and one of them fits. -/
def plainTerms : Terms :=
  { person := Sample.person, limit := 2, budgetBytes := 3, currentRoster := pairRoster.version
    currentGeneration := 0 }

/-- A sibling that has the second record of one stream without the first, and nothing of the
other. -/
def holed : Store := deliverAll primitives noCards {} [arrival (plainWatermarks 2)]

def filled : Store := deliverAll primitives noCards holed [arrival (plainWatermarks 1)]

def completed : Store := deliverAll primitives noCards filled [arrival plainRecord]

def plainRounds : Nat → Store
  | 0 => holed
  | 1 => filled
  | _ + 2 => completed

theorem keeper_authors : Authors keeper plainRecord.authorDeviceId plainTerms.person := by
  have hkind : ∀ row ∈ keeper.syncStreamRecords, row.kind = 11 ∨ row.kind = 15 := by decide +kernel
  refine ⟨?_, by decide +kernel, by decide +kernel, fun row hrow _ => ?_, by decide +kernel,
    by decide +kernel⟩
  · exact streamsOk_takeSlot (streamsOk_takeSlot (streamsOk_takeSlot streamsOk_empty
      fun _ => nofun) (by decide +kernel)) (by decide +kernel)
  · rcases hkind row hrow with hkind | hkind
    · exact ⟨.watermarks, by rw [hkind]; rfl, rfl⟩
    · exact ⟨.settings, by rw [hkind]; rfl, rfl⟩

/-- The record as it is planned. -/
def plainStored : StoredSyncRecord :=
  { authorDeviceId := plainRecord.authorDeviceId, kind := .settings, streamSeq := 1
    body := plainCopy.body, sealedFor := plainCopy.sealedFor, inboxKeyGeneration := 0 }

/-- A plan of one record that arrives. -/
theorem round_of_arrival {b : Store} {record : SyncRecord} {stored : StoredSyncRecord}
    (hplan : planned plainTerms keeper b = .ok [stored])
    (hcarries : Carries plainTerms (arrival record) stored)
    (hok : ((coreApplySyncRecord primitives noCards record 0 fun _ => .ok 0).result b).isOk = true) :
    Round primitives noCards plainTerms keeper b (deliverAll primitives noCards b [arrival record])
      [stored] [arrival record] := by
  refine ⟨hplan, fun delivery hmem => ?_, fun first rest heq => ?_, rfl⟩
  · rw [mem_singleton.mp hmem]
    exact ⟨_, mem_cons_self, hcarries⟩
  · obtain ⟨rfl, _⟩ := cons.inj heq
    obtain ⟨result, hresult⟩ : ∃ result, (coreApplySyncRecord primitives noCards record 0 fun _ =>
        .ok 0).result b = .ok result := by
      cases hresult : (coreApplySyncRecord primitives noCards record 0 fun _ => .ok 0).result b with
      | error e =>
        rw [hresult] at hok
        cases hok
      | ok result => exact ⟨result, rfl⟩
    exact ⟨[], _, [], result, rfl, hcarries, hresult⟩

/-- The sibling catches up, over its hole and a plan that leaves a record out. -/
theorem anti_entropy_converges_over_hole :
    ∃ N, ∀ n, N ≤ n → CaughtUp keeper (plainRounds n) plainRecord.authorDeviceId := by
  have hrounds : ∀ n, ∃ plan deliveries, Round primitives noCards plainTerms keeper
      (plainRounds n) (plainRounds (n + 1)) plan deliveries
    | 0 => by
      have hplan : planned plainTerms keeper holed =
          .ok [{ plainStored with kind := .watermarks }] := by decide +kernel
      exact ⟨_, _, round_of_arrival hplan ⟨rfl, rfl, rfl, rfl⟩ (by decide +kernel)⟩
    | 1 => by
      have hplan : planned plainTerms keeper filled = .ok [plainStored] := by decide +kernel
      exact ⟨_, _, round_of_arrival hplan ⟨rfl, rfl, rfl, rfl⟩ (by decide +kernel)⟩
    | n + 2 => by
      have hplan : planned plainTerms keeper completed = .ok [] := by decide +kernel
      have hdone : Round primitives noCards plainTerms keeper completed completed [] [] :=
        ⟨hplan, fun _ => nofun, fun _ _ => nofun, foldl_nil.symm⟩
      exact ⟨[], [], hdone⟩
  have hfollows : Follows keeper (plainRounds 0) plainRecord.authorDeviceId plainTerms.person :=
    ⟨(deliverAll_mono _ streamsOk_empty).1, by decide +kernel, by decide +kernel⟩
  exact (anti_entropy_converges primitives noCards plainTerms keeper plainRecord.authorDeviceId
    plainRounds keeper_authors hfollows (by decide) (by decide +kernel) hrounds).2.2.1

end Example
end CruiseMesh.AntiEntropy
