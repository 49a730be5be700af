import CruiseMesh.Sync.Apply

/-!
# The cursor of a stream

A cursor ends the gap-free beginning of its stream: every position up to it is held, and
the next one is not. Taking a slot keeps that, and so does applying a record, whatever
the record carries and whether or not its merge succeeds.
-/

namespace CruiseMesh
open Durable Prog List Store

/-- Each slot is held once, and every cursor stands where its stream first breaks off. -/
structure StreamsOk (s : Store) : Prop where
  slots : (s.syncStreamRecords.map SyncStreamRow.slot).Nodup
  held : ∀ author kind seq, 1 ≤ seq → seq ≤ s.streamCursorByWire author kind →
    s.holdsSlot (author, kind, seq) = true
  stops : ∀ author kind,
    s.holdsSlot (author, kind, s.streamCursorByWire author kind + 1) = false

variable {s s' : Store} {row : SyncStreamRow}

theorem holdsSlot_eq_true {slot : Bytes × UInt8 × Nat} :
    s.holdsSlot slot = true ↔ ∃ row ∈ s.syncStreamRecords, row.slot = slot := by
  simp [holdsSlot]

/-- Nothing is held at first. -/
theorem streamsOk_empty : StreamsOk {} where
  slots := nodup_nil
  held _ _ _ hpos hseq := absurd hseq (not_le.mpr hpos)
  stops _ _ := rfl

variable {author : Bytes} {kind : UInt8}

/-- A cursor is never behind another store's that holds no more. -/
theorem StreamsOk.cursor_mono (hs : StreamsOk s) (hs' : StreamsOk s')
    (hsub : ∀ seq, s.holdsSlot (author, kind, seq) = true → s'.holdsSlot (author, kind, seq) = true) :
    s.streamCursorByWire author kind ≤ s'.streamCursorByWire author kind := by
  by_contra hlt
  have hheld := hsub _ (hs.held _ _ (s'.streamCursorByWire author kind + 1) (by omega) (by omega))
  rw [hs'.stops] at hheld
  cases hheld

/-! ## The walk -/

/-- The walk goes on as long as each position follows the one before. -/
theorem walkFrom_spec : ∀ {seqs : List Nat} {through : Nat}, seqs.Pairwise (· < ·) →
    (∀ seq ∈ seqs, through < seq) →
      through ≤ walkFrom through seqs ∧
      (∀ seq, through < seq → seq ≤ walkFrom through seqs → seq ∈ seqs) ∧
      walkFrom through seqs + 1 ∉ seqs
  | [], through, _, _ => by
    refine ⟨le_refl _, fun seq h h' => ?_, not_mem_nil⟩
    exact absurd h' (not_le.mpr h)
  | first :: rest, through, hsorted, habove => by
    obtain ⟨hfirst, hrest⟩ := pairwise_cons.mp hsorted
    have hgt := habove first mem_cons_self
    unfold walkFrom
    split
    · rename_i hgap
      refine ⟨le_refl _, fun seq h h' => absurd h' (not_le.mpr h), fun hmem => ?_⟩
      rcases mem_cons.mp hmem with heq | hmem
      · exact hgap heq.symm
      · have := hfirst _ hmem
        omega
    · obtain ⟨hle, hheld, hstop⟩ := walkFrom_spec hrest hfirst
      refine ⟨by omega, fun seq h h' => ?_, fun hmem => ?_⟩
      · by_cases heq : seq = first
        · rw [heq]
          exact mem_cons_self
        · exact mem_cons_of_mem _ (hheld seq (by omega) h')
      · rcases mem_cons.mp hmem with heq | hmem
        · omega
        · exact hstop hmem

theorem mem_streamSeqs {seq : Nat} :
    seq ∈ (s.streamRows author kind).map (·.streamSeq) ↔
      s.holdsSlot (author, kind, seq) = true := by
  rw [holdsSlot_eq_true]
  constructor
  · intro h
    obtain ⟨row, hmem, rfl⟩ := mem_map.mp h
    obtain ⟨hin, hstream⟩ := mem_filter.mp hmem
    obtain ⟨rfl, rfl⟩ := of_decide_eq_true hstream
    exact ⟨row, hin, rfl⟩
  · intro ⟨row, hin, hslot⟩
    obtain ⟨hauthor, hkind, hseq⟩ :
        row.authorDeviceId = author ∧ row.kind = kind ∧ row.streamSeq = seq := by
      simpa [SyncStreamRow.slot] using hslot
    exact mem_map.mpr
      ⟨row, mem_filter.mpr ⟨hin, decide_eq_true ⟨hauthor, hkind⟩⟩, hseq⟩

theorem nodup_streamSeqs (hslots : (s.syncStreamRecords.map SyncStreamRow.slot).Nodup)
    (author : Bytes) (kind : UInt8) : ((s.streamRows author kind).map (·.streamSeq)).Nodup := by
  have hrows : (s.streamRows author kind).Nodup := hslots.of_map.filter _
  rw [nodup_map_iff_inj_on hrows]
  intro a ha b hb hseq
  obtain ⟨hina, hstreama⟩ := mem_filter.mp ha
  obtain ⟨hinb, hstreamb⟩ := mem_filter.mp hb
  obtain ⟨rfl, rfl⟩ := of_decide_eq_true hstreama
  obtain ⟨hauthor, hkind⟩ := of_decide_eq_true hstreamb
  refine Table.eq_of_key_eq hslots hina hinb ?_
  simp [SyncStreamRow.slot, hauthor, hkind, hseq]

/-- The cursor moves to the end of the gap-free beginning. -/
theorem advancedCursor_spec (hslots : (s.syncStreamRecords.map SyncStreamRow.slot).Nodup)
    (author : Bytes) (kind : UInt8) :
    s.streamCursorByWire author kind ≤ s.advancedCursor author kind ∧
    (∀ seq, s.streamCursorByWire author kind < seq → seq ≤ s.advancedCursor author kind →
      s.holdsSlot (author, kind, seq) = true) ∧
    s.holdsSlot (author, kind, s.advancedCursor author kind + 1) = false := by
  unfold advancedCursor
  generalize hthrough : s.streamCursorByWire author kind = through
  let above := ((s.streamRows author kind).map (·.streamSeq)).filter (through < ·)
  have hmem : ∀ {seq}, seq ∈ above.insertionSort (· ≤ ·) ↔
      through < seq ∧ s.holdsSlot (author, kind, seq) = true := by
    intro seq
    rw [mem_insertionSort, mem_filter, mem_streamSeqs, decide_eq_true_iff, and_comm]
  have hsorted : (above.insertionSort (· ≤ ·)).Pairwise (· < ·) := by
    have hle : (above.insertionSort (· ≤ ·)).Pairwise (· ≤ ·) := pairwise_insertionSort _ _
    have hnd : (above.insertionSort (· ≤ ·)).Nodup :=
      (perm_insertionSort _ above).nodup_iff.mpr ((nodup_streamSeqs hslots author kind).filter _)
    exact (hle.and hnd).imp fun ⟨hle, hne⟩ => lt_of_le_of_ne hle hne
  obtain ⟨hle, hheld, hstop⟩ := walkFrom_spec hsorted fun seq hseq => (hmem.mp hseq).1
  refine ⟨hle, fun seq h h' => (hmem.mp (hheld seq h h')).2, ?_⟩
  rw [← Bool.not_eq_true]
  exact fun h => hstop (hmem.mpr ⟨by omega, h⟩)

/-! ## Taking a slot -/

theorem cursor_withCursor (author author' : Bytes) (kind kind' : UInt8) (through : Nat) :
    (s.withCursor author kind through).streamCursorByWire author' kind' =
      if (author, kind) = (author', kind') then max (s.streamCursorByWire author kind) through
      else s.streamCursorByWire author' kind' := by
  unfold withCursor streamCursorByWire
  rw [Table.lookup_upsert]
  have hkey : SyncCursorRow.stream ⟨author, kind, max (((Table.lookup SyncCursorRow.stream
      (author, kind) s.syncStreamCursors).map (·.throughSeq)).getD 0) through⟩ = (author, kind) := rfl
  split
  · rename_i h
    rw [if_pos (hkey ▸ h)]
    rfl
  · rename_i h
    rw [if_neg (hkey ▸ h)]

/-- What is held once the slot of `row` is. -/
theorem streamsOk_takeSlot (hs : StreamsOk s)
    (hfree : ∀ held ∈ s.syncStreamRecords, held.slot ≠ row.slot) :
    StreamsOk (s.takingSlot row) := by
  have hrows := withSlot_free hfree
  have hslots : ((s.withSlot row).syncStreamRecords.map SyncStreamRow.slot).Nodup := by
    rw [hrows, map_append]
    refine nodup_append.mpr ⟨hs.slots, by simp, ?_⟩
    intro slot hslot slot' hslot'
    obtain ⟨held, hmem, rfl⟩ := mem_map.mp hslot
    rw [mem_singleton.mp hslot']
    exact hfree held hmem
  have hholds : ∀ slot, (s.withSlot row).holdsSlot slot = true ↔
      s.holdsSlot slot = true ∨ slot = row.slot := by
    intro slot
    rw [holdsSlot_eq_true, holdsSlot_eq_true, hrows]
    constructor
    · intro ⟨held, hmem, heq⟩
      rcases mem_append.mp hmem with hmem | hmem
      · exact .inl ⟨held, hmem, heq⟩
      · rw [mem_singleton.mp hmem] at heq
        exact .inr heq.symm
    · rintro (⟨held, hmem, heq⟩ | rfl)
      · exact ⟨held, mem_append_left _ hmem, heq⟩
      · exact ⟨row, by simp, rfl⟩
  have hcursor : ∀ author kind, (s.withSlot row).streamCursorByWire author kind =
      s.streamCursorByWire author kind := fun _ _ => rfl
  obtain ⟨hle, hwalk, hstop⟩ := advancedCursor_spec hslots row.authorDeviceId row.kind
  rw [hcursor] at hle hwalk
  unfold takingSlot
  refine ⟨hslots, ?_, ?_⟩
  · intro author kind seq hpos hseq
    rw [cursor_withCursor, hcursor, hcursor] at hseq
    split at hseq
    · rename_i heq
      obtain ⟨rfl, rfl⟩ := Prod.mk.inj heq
      rw [Nat.max_eq_right hle] at hseq
      by_cases hold : seq ≤ s.streamCursorByWire row.authorDeviceId row.kind
      · exact (hholds _).mpr (.inl (hs.held _ _ _ hpos hold))
      · exact hwalk seq (by omega) hseq
    · exact (hholds _).mpr (.inl (hs.held _ _ _ hpos hseq))
  · intro author kind
    show (s.withSlot row).holdsSlot _ = false
    rw [cursor_withCursor, hcursor, hcursor]
    split
    · rename_i heq
      obtain ⟨rfl, rfl⟩ := Prod.mk.inj heq
      rw [Nat.max_eq_right hle]
      exact hstop
    rename_i hne
    rw [← Bool.not_eq_true, hholds]
    rintro (h | h)
    · rw [hs.stops] at h
      cases h
    · refine hne ?_
      obtain ⟨rfl, rfl, _⟩ : author = row.authorDeviceId ∧ kind = row.kind ∧
          s.streamCursorByWire author kind + 1 = row.streamSeq := by
        simpa [SyncStreamRow.slot] using h
      rfl

/-! ## Applying a record -/

section Apply
variable {P : Primitives} {readCard : CardReader} {delivery : Delivery}

theorem streamsOk_congr (h : s'.streams = s.streams) (hs : StreamsOk s) : StreamsOk s' := by
  obtain ⟨hrecords, hcursors⟩ := Prod.mk.inj h
  have hcursor : s'.streamCursorByWire = s.streamCursorByWire := by
    funext author kind
    rw [streamCursorByWire, streamCursorByWire, hcursors]
  have hholds : s'.holdsSlot = s.holdsSlot := by
    funext slot
    rw [holdsSlot, holdsSlot, hrecords]
  refine ⟨hrecords ▸ hs.slots, ?_, ?_⟩
  · rw [hcursor, hholds]
    exact hs.held
  · rw [hcursor, hholds]
    exact hs.stops

variable (hkind : ¬ coreSyncKindIsStream delivery.record.kind = false)
include hkind

/-- A record whose slot is held changes nothing. -/
theorem deliver_held (hheld : s.holdsSlot delivery.record.slot = true) :
    deliver P readCard s delivery = s := by
  rw [deliver, coreApplySyncRecord, if_neg hkind, final_inspect_bind, hheld, if_pos rfl,
    final_inspect_bind]
  rfl

/-- A record whose merge returns takes its slot in what the merge left. -/
theorem deliver_of_merged (hheld : s.holdsSlot delivery.record.slot = false) {merged : Merged} {mid : Store}
    (hmerge : (mergeRecord P readCard delivery.record delivery.nowMs delivery.clock).Returns s merged
      mid) :
    mid.streams = s.streams ∧
    (∀ held ∈ mid.syncStreamRecords,
      held.slot ≠ (delivery.record.appliedRow delivery.nowMs).slot) ∧
    deliver P readCard s delivery =
      mid.takingSlot (delivery.record.appliedRow delivery.nowMs) := by
  have hkeeps : (mergeRecord P readCard delivery.record delivery.nowMs delivery.clock).Keeps
      streams := streams_mergeRecord _ _ _
  have hmid : mid.streams = s.streams := hkeeps.returns hmerge
  have hrecords : mid.syncStreamRecords = s.syncStreamRecords := (Prod.mk.inj hmid).1
  have hfree : ∀ held ∈ mid.syncStreamRecords,
      held.slot ≠ (delivery.record.appliedRow delivery.nowMs).slot := by
    intro held hmem heq
    have hslot : s.holdsSlot delivery.record.slot = true :=
      holdsSlot_eq_true.mpr ⟨held, hrecords ▸ hmem, heq⟩
    rw [hheld] at hslot
    cases hslot
  refine ⟨hmid, hfree, ?_⟩
  rw [deliver, coreApplySyncRecord, if_neg hkind, final_inspect_bind, hheld,
    if_neg Bool.false_ne_true, (run_bind_of_returns hmerge).2, fileRecord,
    (run_bind_of_returns (returns_holdSlot_free hfree)).2, final_inspect_bind]
  rfl

omit hkind

/-- What one delivery can do to the streams: nothing, where the record is a digest, its
slot is held or its merge fails; otherwise its slot is taken. -/
inductive Filed (P : Primitives) (readCard : CardReader) (s : Store) (delivery : Delivery)
    (s' : Store) : Prop where
  | digest (hkind : coreSyncKindIsStream delivery.record.kind = false)
      (hstreams : s'.streams = s.streams)
  | held (hslot : s.holdsSlot delivery.record.slot = true) (hstreams : s'.streams = s.streams)
  | refused (e : CoreError) (hresult : (coreApplySyncRecord P readCard delivery.record
        delivery.nowMs delivery.clock).result s = .error e) (hstreams : s'.streams = s.streams)
  | taken (hrecords : s'.syncStreamRecords =
        s.syncStreamRecords ++ [delivery.record.appliedRow delivery.nowMs])
      (hok : StreamsOk s → StreamsOk s')

theorem filed_deliver (P : Primitives) (readCard : CardReader) (s : Store) (delivery : Delivery) :
    Filed P readCard s delivery (deliver P readCard s delivery) := by
  by_cases hkind : coreSyncKindIsStream delivery.record.kind = false
  · refine .digest hkind ?_
    rw [deliver, coreApplySyncRecord, if_pos hkind]
    rfl
  cases hheld : s.holdsSlot delivery.record.slot with
  | true => exact .held hheld (congrArg _ (deliver_held hkind hheld))
  | false =>
    have hkeeps : (mergeRecord P readCard delivery.record delivery.nowMs delivery.clock).Keeps
        streams := streams_mergeRecord _ _ _
    rcases run_bind_cases (mergeRecord P readCard delivery.record delivery.nowMs
      delivery.clock) (fileRecord delivery.record delivery.nowMs) s with
      ⟨e, _, hresult, hfinal⟩ | ⟨merged, mid, hmerge, _, _⟩
    · refine .refused e ?_ ?_
      · rw [coreApplySyncRecord, if_neg hkind, result_inspect_bind, hheld,
          if_neg Bool.false_ne_true]
        exact hresult
      · rw [deliver, coreApplySyncRecord, if_neg hkind, final_inspect_bind, hheld,
          if_neg Bool.false_ne_true, hfinal]
        exact hkeeps.final s
    · obtain ⟨hmid, hfree, hdeliver⟩ := deliver_of_merged hkind hheld hmerge
      rw [hdeliver]
      refine .taken ?_ fun hs => streamsOk_takeSlot (streamsOk_congr hmid hs) hfree
      rw [← (Prod.mk.inj hmid).1]
      exact withSlot_free hfree

namespace Filed
variable (h : Filed P readCard s delivery s')
include h

theorem streamsOk (hs : StreamsOk s) : StreamsOk s' := by
  cases h with
  | digest _ hstreams => exact streamsOk_congr hstreams hs
  | held _ hstreams => exact streamsOk_congr hstreams hs
  | refused _ _ hstreams => exact streamsOk_congr hstreams hs
  | taken _ hok => exact hok hs

/-- The rows there were stay, and at most the record's own row is new. -/
theorem rows : s'.syncStreamRecords = s.syncStreamRecords ∨
    s'.syncStreamRecords = s.syncStreamRecords ++ [delivery.record.appliedRow delivery.nowMs] := by
  cases h with
  | digest _ hstreams => exact .inl (Prod.mk.inj hstreams).1
  | held _ hstreams => exact .inl (Prod.mk.inj hstreams).1
  | refused _ _ hstreams => exact .inl (Prod.mk.inj hstreams).1
  | taken hrecords _ => exact .inr hrecords

theorem mem_rows :
    ∀ row ∈ s'.syncStreamRecords, row ∈ s.syncStreamRecords ∨
      row = delivery.record.appliedRow delivery.nowMs := by
  intro row hrow
  rcases h.rows with hsame | hnew
  · exact .inl (hsame ▸ hrow)
  · rw [hnew] at hrow
    exact (mem_append.mp hrow).imp_right mem_singleton.mp

/-- What was held stays held. -/
theorem holdsSlot_mono {slot : Bytes × UInt8 × Nat}
    (hslot : s.holdsSlot slot = true) : s'.holdsSlot slot = true := by
  obtain ⟨row, hmem, heq⟩ := holdsSlot_eq_true.mp hslot
  refine holdsSlot_eq_true.mpr ⟨row, ?_, heq⟩
  rcases h.rows with hsame | hnew
  · exact hsame ▸ hmem
  · rw [hnew]
    exact mem_append_left _ hmem

/-- The slot of a stream record is held once it was applied. -/
theorem holdsSlot_of_ok {result : SyncApplyResult}
    (hstream : coreSyncKindIsStream delivery.record.kind = true)
    (hok : (coreApplySyncRecord P readCard delivery.record delivery.nowMs delivery.clock).result s =
      .ok result) : s'.holdsSlot delivery.record.slot = true := by
  cases h with
  | digest hkind _ =>
    rw [hstream] at hkind
    cases hkind
  | held hslot hstreams =>
    rwa [holdsSlot, (Prod.mk.inj hstreams).1]
  | refused e hresult _ =>
    rw [hresult] at hok
    cases hok
  | taken hrecords _ =>
    refine holdsSlot_eq_true.mpr ⟨delivery.record.appliedRow delivery.nowMs, ?_, rfl⟩
    rw [hrecords]
    exact mem_append_right _ mem_cons_self

end Filed
end Apply
end CruiseMesh
