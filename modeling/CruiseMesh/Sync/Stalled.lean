import CruiseMesh.Sync.AntiEntropy

/-!
# A stalled stream

A record that is larger than a round's budget holds up its own stream only: the planner cuts
that stream and goes on to the next. But the planner plans what was looked up, and the lookup
goes gap by gap until its limit is reached, and compares as an `i64` what the gap has as a
`u64`. So the first missing record of a stream behind stalled ones is planned exactly when the
rows of the gaps in front leave it a place and the casts keep the order of its gap's bounds
(`stalled_stream_spares_iff`).
-/

namespace CruiseMesh.AntiEntropy
open List

/-- What is in front of the first stream that fits is left for later, and costs nothing. -/
theorem planFrom_stalled (currentRoster : RosterVersion) (currentGeneration budgetBytes : Nat) :
    ∀ (pre rest : List (SyncBackfillOffer × Nat)) (cut : List (Bytes × UInt8)) (plan : SyncBackfillPlan),
      plan.plannedBytes = 0 →
      (∀ before entry after, pre = before ++ entry :: after →
        (∀ earlier ∈ before, earlier.1.stream ≠ entry.1.stream) →
        entry.1.stream ∈ cut ∨ budgetBytes < saturatingAdd 0 entry.1.byteLen) →
      ∃ cut' plan', plan'.plannedBytes = 0 ∧
        (∀ stream ∈ cut', stream ∈ cut ∨ ∃ entry ∈ pre, entry.1.stream = stream) ∧
        planFrom currentRoster currentGeneration budgetBytes (pre ++ rest) cut plan =
          planFrom currentRoster currentGeneration budgetBytes rest cut' plan'
  | [], _, cut, plan, hbytes, _ => ⟨cut, plan, hbytes, fun _ h => .inl h, rfl⟩
  | (offer, index) :: pre, rest, cut, plan, hbytes, hlarge => by
    have hwaits : offer.stream ∈ cut ∨ budgetBytes < saturatingAdd plan.plannedBytes offer.byteLen :=
      hbytes ▸ hlarge [] (offer, index) pre rfl fun _ => nofun
    generalize hcut' : (if offer.stream ∈ cut then cut else cut ++ [offer.stream]) = cut'
    have hmem : ∀ stream, stream ∈ cut' ↔ stream ∈ cut ∨ offer.stream = stream := by
      intro stream
      rw [← hcut']
      split <;> grind
    obtain ⟨last, plan', hbytes', hlast, hplan⟩ := planFrom_stalled currentRoster currentGeneration
      budgetBytes pre rest cut' { plan with deferred := plan.deferred ++ [index] } hbytes
      fun before entry after hpre hfirst => by
        by_cases hstream : offer.stream = entry.1.stream
        · exact .inl ((hmem _).mpr (.inr hstream))
        · refine (hlarge ((offer, index) :: before) entry after (by rw [hpre]; rfl) ?_).imp_left
            fun hcut => (hmem _).mpr (.inl hcut)
          exact forall_mem_cons.mpr ⟨hstream, hfirst⟩
    refine ⟨last, plan', hbytes', fun stream hstream => ?_, ?_⟩
    · rcases hlast stream hstream with hcut | ⟨entry, hentry, hsame⟩
      · exact ((hmem stream).mp hcut).imp_right fun hsame => ⟨(offer, index), mem_cons_self, hsame⟩
      · exact .inr ⟨entry, mem_cons_of_mem _ hentry, hsame⟩
    · rw [← hplan, cons_append]
      conv_lhs => unfold planFrom
      rw [if_pos hwaits, hcut']

theorem streamLe_of_offerLe {x y : SyncBackfillOffer × Nat} (h : offerLe x y) :
    streamLe x.1.stream y.1.stream := by
  rcases h with h | ⟨hauthor, h | ⟨hkind, _⟩⟩
  · exact .inl h
  · exact .inr ⟨hauthor, UInt8.le_of_lt h⟩
  · exact .inr ⟨hauthor, UInt8.le_of_eq hkind⟩

variable {a : Store} {gap : SyncGap} {front back : List SyncGap} {limit budgetBytes : Nat}
  {first : StoredSyncRecord}

theorem FirstMissing.byteLen_le
    (hsizes : ∀ row ∈ a.syncStreamRecords, ∀ copy ∈ row.copy, copy.body.length ≤ u64Max)
    (h : FirstMissing a gap first) : first.offer.byteLen ≤ u64Max := by
  obtain ⟨_, _, row, hrow, _, hstored⟩ := h.held
  obtain ⟨copy, hcopy, rfl⟩ := Option.map_eq_some_iff.mp hstored
  exact hsizes row hrow copy hcopy

/-- In every round over gaps of different streams: where the first missing record of a stream
fits the budget and those of all streams before it do not, it is planned exactly when the
rows that are looked up for the gaps in front of its own are fewer than the limit and the
bounds of its gap are in order as `i64`s. -/
theorem stalled_stream_spares_iff (currentRoster : RosterVersion) (currentGeneration : Nat)
    (hkeys : (a.syncStreamRecords.map SyncStreamRow.slot).Nodup)
    (hsizes : ∀ row ∈ a.syncStreamRecords, ∀ copy ∈ row.copy, copy.body.length ≤ u64Max)
    (hwide : ∀ other ∈ front ++ gap :: back, Wide a other)
    (hgaps : ((front ++ gap :: back).map SyncGap.stream).Nodup)
    (hfirst : FirstMissing a gap first) (hfits : first.offer.byteLen ≤ budgetBytes)
    (hstalled : ∀ other ∈ front ++ gap :: back, streamLe other.stream gap.stream →
      other.stream ≠ gap.stream → ∀ stored, FirstMissing a other stored →
        budgetBytes < stored.offer.byteLen) :
    let records := a.coreSyncBackfillRecords (front ++ gap :: back) limit
    (∃ step ∈ (corePlanSyncBackfill (front ++ gap :: back) (records.map (·.offer)) currentRoster
        currentGeneration budgetBytes).steps, records[step.offerIndex]? = some first) ↔
      (front.flatMap (offered a)).length < limit ∧ asI64 gap.afterSeq < asI64 gap.throughSeq := by
  intro records
  have hstream : gap.stream = first.offer.stream := hfirst.asked.1
  have honly : ∀ g ∈ front ++ gap :: back, ∀ g' ∈ front ++ gap :: back,
      g.stream = g'.stream → g = g' := fun g hg g' hg' => inj_on_of_nodup_map hgaps hg hg'
  constructor
  · rintro ⟨step, _, hstep⟩
    have hmem : first ∈ records := mem_of_getElem? hstep
    unfold records at hmem
    rw [records_eq] at hmem
    constructor
    · by_contra hfull
      -- only rows of the gaps in front were looked up, and those are of other streams
      rw [flatMap_append, take_append_of_le_length (not_lt.mp hfull)] at hmem
      obtain ⟨other, hother, hoffered⟩ := mem_flatMap.mp (mem_of_mem_take hmem)
      rw [map_append, map_cons, nodup_append] at hgaps
      exact hgaps.2.2 _ (mem_map_of_mem hother) _ mem_cons_self
        ((stream_of_offered hoffered).trans hstream.symm)
    · obtain ⟨mine, hmine, hoffered⟩ := mem_flatMap.mp (mem_of_mem_take hmem)
      obtain rfl := honly mine hmine gap (by simp) ((stream_of_offered hoffered).trans hstream.symm)
      exact (firstMissing_of_offered (hwide mine hmine) hoffered hfirst.asked).1
  · rintro ⟨hroom, hcast⟩
    have hin : first ∈ records := by
      obtain ⟨tail, hoffered⟩ :=
        head?_eq_some_iff.mp (hfirst.head (hwide gap (by simp)) hkeys hcast)
      obtain ⟨n, hn⟩ := Nat.exists_eq_add_of_lt hroom
      unfold records
      rw [records_eq, flatMap_append, flatMap_cons, hoffered, take_append, hn]
      refine mem_append_right _ ?_
      rw [show (front.flatMap (offered a)).length + n + 1 - (front.flatMap (offered a)).length = n + 1
        by omega]
      exact mem_cons_self
    obtain ⟨index, hindex⟩ := mem_iff_getElem?.mp hin
    have hfound : (first.offer, index) ∈ planOrder a (front ++ gap :: back) limit :=
      mem_planOrder.mpr ⟨⟨_, hindex, rfl⟩, gap, by simp, hfirst.asked⟩
    -- the first entry of its stream is the record itself
    obtain ⟨entry, hfind⟩ := Option.isSome_iff_exists.mp (find?_isSome (p := fun entry =>
      decide (entry.1.stream = gap.stream)) |>.mpr ⟨_, hfound, by simp [hstream]⟩)
    obtain ⟨hmatch, pre, post, hsplit, hpre⟩ := find?_eq_some_iff_append.mp hfind
    have hentry : entry.1.stream = gap.stream := by simpa using hmatch
    have hothers : ∀ earlier ∈ pre, earlier.1.stream ≠ gap.stream := by simpa using hpre
    obtain ⟨mine, hmem, hmineStream, first', hfirst', hat, hoffer⟩ :=
      first_of_stream hkeys hwide honly hsplit (hentry ▸ hothers)
    obtain rfl := honly mine hmem gap (by simp) (hmineStream.trans hentry)
    obtain rfl := hfirst.unique hfirst' hkeys
    have hsorted : (planOrder a (front ++ mine :: back) limit).Pairwise offerLe :=
      pairwise_insertionSort _ _
    obtain ⟨cut, plan, hbytes, hcut, hplan⟩ := planFrom_stalled currentRoster currentGeneration
      budgetBytes pre (entry :: post) [] {} rfl fun before other after hbefore hearlier => by
        have hwhole : planOrder a (front ++ mine :: back) limit =
            before ++ other :: (after ++ entry :: post) := by
          rw [hsplit, hbefore]
          simp
        obtain ⟨otherGap, hotherGap, hotherStream, stored, hhead, _, hotherOffer⟩ :=
          first_of_stream hkeys hwide honly hwhole hearlier
        have hle : offerLe other entry := by
          rw [hsplit, hbefore] at hsorted
          exact (pairwise_append.mp hsorted).2.2 other (by simp) entry mem_cons_self
        have hlarge := hstalled otherGap hotherGap
          (hotherStream ▸ hentry ▸ streamLe_of_offerLe hle)
          (hotherStream ▸ hothers other (by simp [hbefore])) stored hhead
        have hsize := hhead.byteLen_le hsizes
        rw [← hotherOffer]
        unfold saturatingAdd
        omega
    obtain ⟨offer, at'⟩ := entry
    obtain rfl : first.offer = offer := hoffer
    have hnew : first.offer.stream ∉ cut := by
      intro hstale
      rcases hcut _ hstale with hnil | ⟨earlier, hearlier, hsame⟩
      · cases hnil
      · exact hothers earlier hearlier (hsame.trans hentry)
    obtain ⟨action, hsteps⟩ := planFrom_fits currentRoster currentGeneration budgetBytes hnew hbytes
      hfits at' post
    refine ⟨⟨at', action⟩, ?_, hat⟩
    show _ ∈ (planFrom _ _ _ (planOrder a (front ++ mine :: back) limit) [] {}).steps
    rw [hsplit, hplan]
    exact hsteps.subset (by simp)

section Example

/-- An author of two large history records and a small one of settings. -/
def backlog : Store where
  syncStreamRecords :=
    let large : SealedSyncRecord := { plainCopy with body := [0, 0, 0, 0, 0] }
    let history : SyncRecord := { plainRecord with kind := .history }
    [history.row large 0, { history with streamSeq := 2 }.row large 0, plainRecord.row plainCopy 0]

def historyGap : SyncGap := ⟨plainRecord.authorDeviceId, 10, 0, 2⟩
def settingsGap : SyncGap := ⟨plainRecord.authorDeviceId, 15, 0, 1⟩

/-- Whether the round with a limit of rows and three bytes plans the settings record. -/
def sparesSettings (limit : Nat) : Prop :=
  let records := backlog.coreSyncBackfillRecords ([historyGap] ++ settingsGap :: []) limit
  ∃ step ∈ (corePlanSyncBackfill ([historyGap] ++ settingsGap :: []) (records.map (·.offer))
    plainRecord.rosterVersion 0 3).steps, records[step.offerIndex]? = some plainStored

theorem settings_firstMissing : FirstMissing backlog settingsGap plainStored := by
  refine ⟨⟨.settings, rfl, plainRecord.row plainCopy 0, ?_, rfl, rfl⟩, by decide, by decide +kernel⟩
  exact mem_cons_of_mem _ (mem_cons_of_mem _ mem_cons_self)

theorem history_stalls {stored : StoredSyncRecord} (h : FirstMissing backlog historyGap stored) :
    3 < stored.offer.byteLen := by
  have hlarge : ∀ row ∈ backlog.syncStreamRecords, row.stream = historyGap.stream →
      ∀ copy ∈ row.copy, 3 < copy.body.length := by decide +kernel
  obtain ⟨_, _, row, hrow, hstream, hstored⟩ := h.held
  obtain ⟨copy, hcopy, rfl⟩ := Option.map_eq_some_iff.mp hstored
  exact hlarge row hrow hstream copy hcopy

theorem stalled_stream_spares_behind_backlog :
    FirstMissing backlog settingsGap plainStored ∧ sparesSettings 3 := by
  refine ⟨settings_firstMissing, (stalled_stream_spares_iff plainRecord.rosterVersion 0
    (by decide +kernel) (by decide +kernel) ?_ (by decide +kernel) settings_firstMissing (by decide)
    ?_).mpr (by decide +kernel)⟩
  · have hrows : ∀ row ∈ backlog.syncStreamRecords, row.copy.isSome = true →
        row.streamSeq < 2 ^ 64 := by decide +kernel
    intro gap hgap
    obtain rfl | rfl : gap = historyGap ∨ gap = settingsGap := by simpa using hgap
    · exact ⟨hrows, by decide, by decide⟩
    · exact ⟨hrows, by decide, by decide⟩
  · intro other hother _ hne stored hmissing
    obtain rfl | rfl : other = historyGap ∨ other = settingsGap := by simpa using hother
    · exact history_stalls hmissing
    · exact absurd rfl hne

/-- Two gaps and a limit of two: the history that cannot be sent takes both places. -/
theorem backlog_takes_every_place :
    FirstMissing backlog settingsGap plainStored ∧ plainStored.offer.byteLen ≤ 3 ∧
      (∀ stored, FirstMissing backlog historyGap stored → 3 < stored.offer.byteLen) ∧
      ¬ sparesSettings 2 := by
  refine ⟨settings_firstMissing, by decide, fun _ => history_stalls, ?_⟩
  unfold sparesSettings
  decide +kernel

end Example
end CruiseMesh.AntiEntropy
