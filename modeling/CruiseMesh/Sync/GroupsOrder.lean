import CruiseMesh.Lib.Latest
import CruiseMesh.Sync.Cursors

/-!
# Groups, in whatever order their records come

A group is replaced as a whole by one whose `(revision, changed_by)` is not older. So a
device keeps the latest group it was told of, and of two that are equally old the one it
was told of last. Rotating a key does not move the revision.

`groups_order_independent_iff` says when the order of the records does not matter:
exactly when the records that carry a winning group for an id carry the same one.
-/

namespace CruiseMesh.GroupsOrder
open Durable Prog Latest List Table Store

/-! ## One group -/

/-- The group as the store gives it back. -/
def canonical (group : Group) : Group :=
  { group with memberUserIds := canonicalizeMembers group.memberUserIds }

/-- The metadata of `a` is older than that of `b`. -/
def older (a b : Group) : Prop :=
  a.metadataRevision < b.metadataRevision ∨
    a.metadataRevision = b.metadataRevision ∧ a.metadataChangedBy < b.metadataChangedBy

instance : DecidableRel older := fun _ _ => inferInstanceAs (Decidable (_ ∨ _))

theorem ages_older : Ages older where
  asymm {a b} h h' := by
    rcases h with h | ⟨hr, hc⟩
    · rcases h' with h' | ⟨hr', _⟩ <;> omega
    · rcases h' with h' | ⟨_, hc'⟩
      · omega
      · exact List.lt_asymm hc hc'
  cotrans {a c} b h := by
    by_cases hab : older a b
    · exact .inl hab
    refine .inr ?_
    have hrev : b.metadataRevision ≤ a.metadataRevision :=
      Nat.le_of_not_lt fun hlt => hab (.inl hlt)
    rcases h with h | ⟨hr, hc⟩
    · exact .inl (Nat.lt_of_le_of_lt hrev h)
    · rcases Nat.lt_or_eq_of_le hrev with hlt | heq
      · exact .inl (hr ▸ hlt)
      · have hnot : ¬ a.metadataChangedBy < b.metadataChangedBy := fun hlt =>
          hab (.inr ⟨heq.symm, hlt⟩)
        exact .inr ⟨heq.trans hr, List.lt_of_le_of_lt hnot hc⟩

variable {s : Store} {group : Group} {groupId : Bytes}

theorem canonicalizeMembers_eq (ids : List Bytes) :
    canonicalizeMembers ids = (ids.insertionSort (· ≤ ·)).dedup :=
  (pairwise_insertionSort _ ids).destutter_eq_dedup

theorem nodup_canonicalizeMembers (ids : List Bytes) : (canonicalizeMembers ids).Nodup := by
  rw [canonicalizeMembers_eq]
  exact nodup_dedup _

theorem insertionSort_canonicalizeMembers (ids : List Bytes) :
    (canonicalizeMembers ids).insertionSort (· ≤ ·) = canonicalizeMembers ids := by
  refine List.Pairwise.insertionSort_eq ?_
  exact (pairwise_insertionSort _ ids).sublist (destutter_sublist _ _)

theorem groupMemberIds_withGroup (now : Int) :
    (s.withGroup group now).groupMemberIds groupId =
      if group.id = groupId then canonicalizeMembers group.memberUserIds
      else s.groupMemberIds groupId := by
  unfold groupMemberIds withGroup
  split
  · rename_i hid
    subst hid
    have hkept : (s.groupMembers.filter fun row => row.groupId ≠ group.id).filter
        (fun row => row.groupId = group.id) = [] := by
      rw [filter_eq_nil_iff]
      intro row hrow
      simpa using (mem_filter.mp hrow).2
    have hrows : ∀ previous, (memberRows group previous now).filter
        (fun row => row.groupId = group.id) = memberRows group previous now := by
      intro previous
      rw [filter_eq_self]
      intro row hrow
      obtain ⟨userId, _, rfl⟩ := mem_map.mp hrow
      simp
    have hids : ∀ previous, (memberRows group previous now).map (·.userId) =
        canonicalizeMembers group.memberUserIds := by
      intro previous
      rw [memberRows, map_map]
      exact map_id _
    simp only [filter_append, hkept, hrows, nil_append, hids]
    exact insertionSort_canonicalizeMembers _
  · rename_i hid
    have hkept : (s.groupMembers.filter fun row => row.groupId ≠ group.id).filter
        (fun row => row.groupId = groupId) =
          s.groupMembers.filter fun row => row.groupId = groupId := by
      rw [filter_filter]
      refine filter_congr fun row _ => ?_
      by_cases hrow : row.groupId = groupId
      · simp [hrow, Ne.symm hid]
      · simp [hrow]
    have hrows : ∀ previous, (memberRows group previous now).filter
        (fun row => row.groupId = groupId) = [] := by
      intro previous
      rw [filter_eq_nil_iff]
      intro row hrow
      obtain ⟨userId, _, rfl⟩ := mem_map.mp hrow
      simpa using hid
    simp only [filter_append, hkept, hrows, append_nil]

theorem getGroup_withGroup (now : Int) :
    (s.withGroup group now).getGroup groupId =
      if group.id = groupId then some (canonical group) else s.getGroup groupId := by
  unfold getGroup
  rw [groupMemberIds_withGroup]
  have hgroups : (s.withGroup group now).groups = upsert (·.groupId)
      { groupId := group.id, name := group.name, groupKey := group.key,
        metadataRevision := group.metadataRevision, metadataChangedBy := group.metadataChangedBy }
      s.groups := rfl
  rw [hgroups, lookup_upsert]
  by_cases hid : group.id = groupId
  · simp only [hid, if_true]
    rw [← hid]
    rfl
  · simp only [hid, if_false]

/-- A valid group is kept unless the one that is stored is newer. -/
theorem returns_upsertGroup (clock : ClockReading) (hvalid : validateGroup group = .ok ()) :
    ∃ s', (upsertGroup group clock).Returns s () s' ∧ ∀ groupId, s'.getGroup groupId =
      if group.id = groupId then keepLatest older (s.getGroup groupId) (canonical group)
      else s.getGroup groupId := by
  have hnewer : (∃ row ∈ lookup GroupRow.groupId group.id s.groups, row.newerThan group) ↔
      ∃ held ∈ s.getGroup group.id, older (canonical group) held := by
    unfold getGroup
    cases lookup GroupRow.groupId group.id s.groups with
    | none => simp
    | some row => simp [GroupRow.newerThan, older, canonical]
  have htx : ∀ s', upsertGroupTx group clock s = .ok ((), s') →
      (upsertGroup group clock).Returns s () s' := by
    intro s' h
    unfold upsertGroup
    rw [hvalid, lift_ok_bind]
    exact returns_transaction.mpr h
  by_cases hkeep : ∃ row ∈ lookup GroupRow.groupId group.id s.groups, row.newerThan group
  · refine ⟨s, htx s ?_, fun groupId => ?_⟩
    · unfold upsertGroupTx
      rw [hvalid, Tx.bind_apply_ok (Tx.lift_ok_apply _ _), Tx.get_bind,
        if_pos hkeep, Tx.pure_apply]
    · split
      · rename_i hid
        rw [keepLatest, if_pos (hid ▸ hnewer.mp hkeep)]
      · rfl
  · refine ⟨s.withGroup group (unixNowMs clock), htx _ ?_, fun groupId => ?_⟩
    · unfold upsertGroupTx
      rw [hvalid, Tx.bind_apply_ok (Tx.lift_ok_apply _ _), Tx.get_bind,
        if_neg hkeep]
      rfl
    · rw [getGroup_withGroup]
      split
      · rename_i hid
        rw [keepLatest, if_neg fun h => hkeep (hnewer.mpr (hid ▸ h))]
      · rfl

/-! ## One record -/

/-- The groups of a list that are about one id, as the store gives them back. -/
def about (groups : List Group) (groupId : Bytes) : List Group :=
  (groups.filter fun group => group.id = groupId).map canonical

/-- Several groups are kept one after another. -/
theorem returns_importGroups (clock : Nat → ClockReading) : ∀ {groups : List Group} {s : Store}
    (reading : Nat), (∀ group ∈ groups, validateGroup group = .ok ()) →
      ∃ s', (importGroups clock groups reading).Returns s () s' ∧ ∀ groupId,
        s'.getGroup groupId = (about groups groupId).foldl (keepLatest older) (s.getGroup groupId)
  | [], s, _, _ => ⟨s, ⟨rfl, rfl⟩, fun _ => rfl⟩
  | group :: groups, s, reading, hvalid => by
    obtain ⟨mid, hmid, hget⟩ :=
      returns_upsertGroup (s := s) (clock reading) (hvalid group mem_cons_self)
    obtain ⟨s', hs', hrest⟩ := returns_importGroups clock (s := mid) (reading + 1)
      fun g hg => hvalid g (mem_cons_of_mem _ hg)
    refine ⟨s', returns_bind.mpr ⟨(), mid, hmid, hs'⟩, fun groupId => ?_⟩
    rw [hrest, hget]
    unfold about
    by_cases hid : group.id = groupId <;> simp [hid]

/-- The groups a record carries. -/
def carried (record : SyncRecord) : List Group :=
  (coreDecodeSyncGroups record.payload).toOption.getD []

/-- The group that counts among those a record carries for one id. -/
def offered (record : SyncRecord) (groupId : Bytes) : Option Group :=
  latest older (about (carried record) groupId)

/-- A Groups record whose groups are all valid. -/
structure Valid (record : SyncRecord) : Prop where
  kind : record.kind = .groups
  decodes : coreDecodeSyncGroups record.payload = .ok (carried record)
  groups : ∀ group ∈ carried record, validateGroup group = .ok ()

section Deliver
variable (P : Primitives) (readCard : CardReader) {delivery : Delivery}

theorem Valid.isStream {record : SyncRecord} (h : Valid record) :
    ¬ coreSyncKindIsStream record.kind = false := by
  rw [h.kind]
  decide

/-- A record whose slot is free is merged, and its slot is held from then on. -/
theorem deliver_free (hvalid : Valid delivery.record)
    (hfree : s.holdsSlot delivery.record.slot = false) :
    (∀ groupId, (deliver P readCard s delivery).getGroup groupId =
      ((offered delivery.record groupId).toList).foldl (keepLatest older) (s.getGroup groupId)) ∧
    ∀ slot, (deliver P readCard s delivery).holdsSlot slot =
      (decide (slot = delivery.record.slot) || s.holdsSlot slot) := by
  obtain ⟨mid, hmid, hget⟩ :=
    returns_importGroups (s := s) delivery.clock 0 hvalid.groups
  have hmerge : (mergeRecord P readCard delivery.record delivery.nowMs delivery.clock).Returns s
      { appliedEntries := (carried delivery.record).length } mid := by
    unfold mergeRecord applyGroups
    rw [hvalid.kind]
    rw [hvalid.decodes, lift_ok_bind]
    simp only [returns_bind, returns_pure]
    exact ⟨_, mid, ⟨(), mid, hmid, rfl, rfl⟩, rfl, rfl⟩
  obtain ⟨hstreams, hslotFree, hfinal⟩ := deliver_of_merged hvalid.isStream hfree hmerge
  constructor
  · intro groupId
    have hsame : (deliver P readCard s delivery).getGroup groupId = mid.getGroup groupId := by
      rw [hfinal]
      rfl
    rw [hsame, hget, foldl_keepLatest ages_older]
    unfold offered
    cases latest older (about (carried delivery.record) groupId) <;> rfl
  · intro slot
    have hrows : (deliver P readCard s delivery).syncStreamRecords =
        s.syncStreamRecords ++ [delivery.record.appliedRow delivery.nowMs] := by
      rw [hfinal, ← (Prod.mk.inj hstreams).1]
      exact withSlot_free hslotFree
    rw [holdsSlot, hrows, any_append, Bool.or_comm, holdsSlot]
    rw [any_cons, any_nil, Bool.or_false]
    exact congrArg (· || _) (decide_eq_decide.mpr eq_comm)

/-! ## Any number of records -/

/-- The records that are merged: those whose slot is free when they come. -/
def merged (held : Bytes × UInt8 × Nat → Bool) : List SyncRecord → List SyncRecord
  | [] => []
  | record :: rest =>
    if held record.slot then merged held rest
    else record :: merged (fun slot => decide (slot = record.slot) || held slot) rest

/-- What a group id holds after a list of deliveries, and which slots are held. -/
theorem deliverAll_spec : ∀ (deliveries : List Delivery) (s : Store),
    (∀ delivery ∈ deliveries, Valid delivery.record) →
      (∀ groupId, (deliverAll P readCard s deliveries).getGroup groupId =
        ((merged s.holdsSlot (deliveries.map (·.record))).filterMap (offered · groupId)).foldl
          (keepLatest older) (s.getGroup groupId)) ∧
      ∀ slot, (deliverAll P readCard s deliveries).holdsSlot slot = true ↔
        s.holdsSlot slot = true ∨ ∃ delivery ∈ deliveries, delivery.record.slot = slot
  | [], _, _ => ⟨fun _ => rfl, fun slot => by simp [deliverAll]⟩
  | delivery :: rest, s, hvalid => by
    have hthis := hvalid delivery mem_cons_self
    obtain ⟨hget, hslots⟩ := deliverAll_spec rest (deliver P readCard s delivery)
      fun d hd => hvalid d (mem_cons_of_mem _ hd)
    have hunfold : deliverAll P readCard s (delivery :: rest) =
        deliverAll P readCard (deliver P readCard s delivery) rest := rfl
    rw [hunfold]
    cases hheld : s.holdsSlot delivery.record.slot with
    | true =>
      rw [deliver_held hthis.isStream hheld] at hget hslots ⊢
      constructor
      · intro groupId
        rw [hget, map_cons, merged, if_pos hheld]
      intro slot
      rw [hslots]
      constructor
      · rintro (h | ⟨d, hd, heq⟩)
        · exact .inl h
        · exact .inr ⟨d, mem_cons_of_mem _ hd, heq⟩
      · rintro (h | ⟨d, hd, heq⟩)
        · exact .inl h
        · rcases mem_cons.mp hd with rfl | hd
          · exact .inl (heq ▸ hheld)
          · exact .inr ⟨d, hd, heq⟩
    | false =>
      obtain ⟨hgetOne, hslotOne⟩ := deliver_free P readCard hthis hheld
      have hfun : (deliver P readCard s delivery).holdsSlot =
          fun slot => decide (slot = delivery.record.slot) || s.holdsSlot slot := funext hslotOne
      constructor
      · intro groupId
        rw [hget, map_cons, merged, if_neg (by simp [hheld]), filterMap_cons, hfun,
          hgetOne]
        cases offered delivery.record groupId <;> rfl
      intro slot
      rw [hslots, hslotOne]
      constructor
      · rintro (h | ⟨d, hd, heq⟩)
        · rcases Bool.or_eq_true_iff.mp h with h | h
          · exact .inr ⟨delivery, mem_cons_self, (of_decide_eq_true h).symm⟩
          · exact .inl h
        · exact .inr ⟨d, mem_cons_of_mem _ hd, heq⟩
      · rintro (h | ⟨d, hd, heq⟩)
        · exact .inl (Bool.or_eq_true_iff.mpr (.inr h))
        · rcases mem_cons.mp hd with rfl | hd
          · exact .inl (Bool.or_eq_true_iff.mpr (.inl (decide_eq_true heq.symm)))
          · exact .inr ⟨d, hd, heq⟩

variable {record : SyncRecord} {order : List SyncRecord}

theorem mem_merged : ∀ {records : List SyncRecord}
    {held : Bytes × UInt8 × Nat → Bool}, record ∈ merged held records →
      record ∈ records ∧ held record.slot = false
  | first :: rest, held, h => by
    unfold merged at h
    split at h
    · obtain ⟨hmem, hfree⟩ := mem_merged h
      exact ⟨mem_cons_of_mem _ hmem, hfree⟩
    · rename_i hfirst
      rcases mem_cons.mp h with rfl | h
      · exact ⟨mem_cons_self, by simpa using hfirst⟩
      · obtain ⟨hmem, hfree⟩ := mem_merged h
        exact ⟨mem_cons_of_mem _ hmem, (Bool.or_eq_false_iff.mp hfree).2⟩

/-- For every free slot among the records one record is merged. -/
theorem exists_merged : ∀ {records : List SyncRecord}
    (held : Bytes × UInt8 × Nat → Bool), record ∈ records → held record.slot = false →
      ∃ other ∈ merged held records, other.slot = record.slot
  | first :: rest, held, hmem, hfree => by
    unfold merged
    by_cases hslot : first.slot = record.slot
    · rw [if_neg (by simp [hslot, hfree])]
      exact ⟨first, mem_cons_self, hslot⟩
    have hrest : record ∈ rest := by
      rcases mem_cons.mp hmem with rfl | h
      · exact absurd rfl hslot
      · exact h
    split
    · exact exists_merged held hrest hfree
    · obtain ⟨other, hother, heq⟩ := exists_merged
        (fun slot => decide (slot = first.slot) || held slot) hrest
        (by simp [Ne.symm hslot, hfree])
      exact ⟨other, mem_cons_of_mem _ hother, heq⟩

theorem merged_eq_nil : ∀ {records : List SyncRecord} {held : Bytes × UInt8 × Nat → Bool},
    (∀ record ∈ records, held record.slot = true) → merged held records = []
  | [], _, _ => rfl
  | first :: rest, held, h => by
    rw [merged, if_pos (h first mem_cons_self)]
    exact merged_eq_nil fun record hmem => h record (mem_cons_of_mem _ hmem)

/-! ## Any order -/

variable {records : List SyncRecord}

/-- Records of one slot carry the same payload: the slot is what identifies a record. -/
def SlotsIdentify (records : List SyncRecord) : Prop :=
  ∀ record ∈ records, ∀ other ∈ records, record.slot = other.slot → record.payload = other.payload

instance : Decidable (SlotsIdentify records) := decidableBAll _ records

/-- Whatever the order in which the records are applied, and whatever the clocks say, the
same groups are stored. -/
def OrderIndependent (s : Store) (records : List SyncRecord) : Prop :=
  ∀ first second : List Delivery, (first.map (·.record)).Perm records →
    (second.map (·.record)).Perm records → ∀ groupId,
      (deliverAll P readCard s first).getGroup groupId =
        (deliverAll P readCard s second).getGroup groupId

/-- The record's group for the id is older than nothing: no other record that counts
offers a later one, and none is stored. -/
structure Wins (s : Store) (records : List SyncRecord) (groupId : Bytes) (record : SyncRecord)
    (group : Group) : Prop where
  mem : record ∈ records
  free : s.holdsSlot record.slot = false
  offers : offered record groupId = some group
  latest : ∀ other ∈ records, s.holdsSlot other.slot = false →
    ∀ rival ∈ offered other groupId, ¬ older group rival
  stored : ∀ held ∈ s.getGroup groupId, ¬ older group held

/-- All records that win an id offer the same group for it. -/
def TiesAgree (s : Store) (records : List SyncRecord) : Prop :=
  ∀ groupId record other group rival, Wins s records groupId record group →
    Wins s records groupId other rival → group = rival

theorem offered_congr {other : SyncRecord} (h : record.payload = other.payload) :
    offered record groupId = offered other groupId := by
  unfold offered carried
  rw [h]

/-- What is offered does not depend on the order. -/
theorem mem_offers (hslots : SlotsIdentify records) (horder : order.Perm records) :
    group ∈ (merged s.holdsSlot order).filterMap (offered · groupId) ↔
      ∃ record ∈ records, s.holdsSlot record.slot = false ∧ offered record groupId = some group := by
  rw [mem_filterMap]
  constructor
  · intro ⟨record, hmem, hoffer⟩
    obtain ⟨hin, hfree⟩ := mem_merged hmem
    exact ⟨record, horder.mem_iff.mp hin, hfree, hoffer⟩
  · intro ⟨record, hmem, hfree, hoffer⟩
    obtain ⟨other, hother, heq⟩ := exists_merged _ (horder.mem_iff.mpr hmem) hfree
    have hin : other ∈ records := horder.mem_iff.mp (mem_merged hother).1
    rw [offered_congr (hslots record hmem other hin heq.symm)] at hoffer
    exact ⟨other, hother, hoffer⟩

/-- A delivery at no particular time. -/
def timeless (record : SyncRecord) : Delivery := ⟨record, 0, fun _ => .ok 0⟩

/-- The order in which the records of one slot come last. -/
def endingIn (slot : Bytes × UInt8 × Nat) (records : List SyncRecord) : List SyncRecord :=
  records.filter (fun record => !decide (record.slot = slot)) ++
    records.filter (fun record => decide (record.slot = slot))

theorem endingIn_perm (slot : Bytes × UInt8 × Nat) : (endingIn slot records).Perm records :=
  perm_append_comm.trans (filter_append_perm _ records)

theorem map_timeless (l : List SyncRecord) : (l.map timeless).map (·.record) = l := by
  rw [map_map]
  exact map_id l

/-- The last record that comes is the one whose group stays, if it wins. -/
theorem getGroup_endingIn (hvalid : ∀ record ∈ records, Valid record)
    (hslots : SlotsIdentify records) (hwin : Wins s records groupId record group) :
    (deliverAll P readCard s ((endingIn record.slot records).map timeless)).getGroup groupId =
      some group := by
  have hval : ∀ {l : List SyncRecord}, l ⊆ records →
      ∀ delivery ∈ l.map timeless, Valid delivery.record := by
    intro l hl delivery hd
    obtain ⟨r, hr, rfl⟩ := mem_map.mp hd
    exact hvalid r (hl hr)
  let front := records.filter fun r => !decide (r.slot = record.slot)
  let back := records.filter fun r => decide (r.slot = record.slot)
  let mid := deliverAll P readCard s (front.map timeless)
  obtain ⟨hget, hheld⟩ := deliverAll_spec P readCard (front.map timeless) s
    (hval (filter_subset_self records))
  have hmidFree : mid.holdsSlot record.slot = false := by
    rw [← Bool.not_eq_true]
    intro h
    rcases (hheld record.slot).mp h with h | ⟨delivery, hd, heq⟩
    · rw [hwin.free] at h
      cases h
    · obtain ⟨r, hr, rfl⟩ := mem_map.mp hd
      have hne := (mem_filter.mp hr).2
      rw [decide_eq_true (show r.slot = record.slot from heq)] at hne
      cases hne
  have hmidStored : ∀ held ∈ mid.getGroup groupId, ¬ older group held := by
    intro held hmem
    have hheld' := mem_foldl_keepLatest (hget groupId ▸ hmem)
    rw [map_timeless] at hheld'
    rcases hheld' with h | h
    · exact hwin.stored held h
    · obtain ⟨r, hr, hoffer⟩ := mem_filterMap.mp h
      obtain ⟨hin, hfree⟩ := mem_merged hr
      exact hwin.latest r (mem_filter.mp hin).1 hfree held hoffer
  have hsplit : deliverAll P readCard s ((endingIn record.slot records).map timeless) =
      deliverAll P readCard mid (back.map timeless) := by
    unfold deliverAll endingIn
    rw [map_append, foldl_append]
    rfl
  rw [hsplit, (deliverAll_spec P readCard (back.map timeless) mid
    (hval (filter_subset_self records))).1, map_timeless]
  have hmemBack : record ∈ back := mem_filter.mpr ⟨hwin.mem, decide_eq_true rfl⟩
  cases hback : back with
  | nil =>
    rw [hback] at hmemBack
    cases hmemBack
  | cons last others =>
    have hslot : ∀ r ∈ last :: others, r.slot = record.slot := by
      intro r hr
      have hin : r ∈ back := hback ▸ hr
      exact of_decide_eq_true (mem_filter.mp hin).2
    have hlast : last ∈ records :=
      (mem_filter.mp (hback ▸ mem_cons_self : last ∈ back)).1
    have hoffer : offered last groupId = some group := by
      rw [← hwin.offers]
      exact offered_congr (hslots last hlast record hwin.mem (hslot last mem_cons_self))
    have hrest : merged (fun slot => decide (slot = last.slot) || mid.holdsSlot slot) others = [] :=
      merged_eq_nil fun r hr => by
        rw [hslot r (mem_cons_of_mem _ hr), hslot last mem_cons_self]
        simp
    rw [merged, if_neg (by rw [hslot last mem_cons_self, hmidFree]; exact Bool.false_ne_true),
      hrest, filterMap_cons, hoffer]
    exact keepLatest_of_not_older hmidStored

/-- The order of Groups records does not matter exactly when all records that win a group
id, by `(revision, changed_by)` and against what is stored, offer the same group for it. -/
theorem groups_order_independent_iff (s : Store) (records : List SyncRecord)
    (hvalid : ∀ record ∈ records, Valid record) (hslots : SlotsIdentify records) :
    OrderIndependent P readCard s records ↔ TiesAgree s records := by
  constructor
  · intro horder groupId record other group rival hwin hwin'
    have hsame := horder ((endingIn record.slot records).map timeless)
      ((endingIn other.slot records).map timeless)
      (by rw [map_timeless]; exact endingIn_perm _) (by rw [map_timeless]; exact endingIn_perm _)
      groupId
    rw [getGroup_endingIn P readCard hvalid hslots hwin,
      getGroup_endingIn P readCard hvalid hslots hwin'] at hsame
    exact Option.some.inj hsame
  · intro hties first second hfirst hsecond groupId
    have hval : ∀ {l : List Delivery}, (l.map (·.record)).Perm records →
        ∀ delivery ∈ l, Valid delivery.record := fun hl delivery hd =>
      hvalid _ (hl.mem_iff.mp (mem_map_of_mem hd))
    rw [(deliverAll_spec P readCard first s (hval hfirst)).1,
      (deliverAll_spec P readCard second s (hval hsecond)).1]
    -- where the winners agree, every order leaves the same group
    have hsame : ∀ g, g ∈ (merged s.holdsSlot (first.map (·.record))).filterMap (offered · groupId) ↔
        g ∈ (merged s.holdsSlot (second.map (·.record))).filterMap (offered · groupId) := fun g =>
      (mem_offers hslots hfirst).trans (mem_offers hslots hsecond).symm
    have hwins : ∀ g, Stays older (s.getGroup groupId)
        ((merged s.holdsSlot (first.map (·.record))).filterMap (offered · groupId)) g →
          ∃ record, Wins s records groupId record g := by
      intro g hstays
      obtain ⟨record, hin, hfree, hoffer⟩ := (mem_offers hslots hfirst).mp hstays.mem
      refine ⟨record, hin, hfree, hoffer, fun other hother hotherFree rival hrival => ?_,
        hstays.stored⟩
      exact hstays.latest rival ((mem_offers hslots hfirst).mpr ⟨other, hother, hotherFree, hrival⟩)
    refine foldl_keepLatest_congr ages_older hsame fun g rival hg hrival => ?_
    obtain ⟨record, hwin⟩ := hwins g hg
    obtain ⟨record', hwin'⟩ := hwins rival hrival
    exact hties _ _ _ _ _ hwin hwin'

end Deliver

/-! ## A key rotated on two devices -/

section Example
open CruiseMesh.Sample

/-- A group of two. -/
def crew : Group :=
  { id := List.replicate 16 7, name := ascii "Crew"
    memberUserIds := [List.replicate 16 1, List.replicate 16 2]
    key := List.replicate 32 0, metadataRevision := 0, metadataChangedBy := [] }

/-- What rotating the group's key to `freshKey` gives. -/
def rotated (freshKey : UInt8) : Group :=
  (rotateGroup crew crew.memberUserIds (List.replicate 32 freshKey)).toOption.getD crew

/-- A Groups record of the device with this key number, with the given groups. -/
def groupsRecord (device : Nat) (groups : List Group) : SyncRecord :=
  SyncRecord.signedBy primitives
    { kind := .groups, personId := person
      authorDeviceId := primitives.deriveUserId (publicKey (secretKey device))
      rosterVersion := pairRoster.version, inboxKeyGeneration := 0, streamSeq := 1
      timestampMs := 0, payload := (coreEncodeSyncGroups groups).toOption.getD [], signature := [] }
    (secretKey device)

/-- The group with a new name, one revision later. -/
def renamed : Group :=
  { rotated 2 with
    name := ascii "Night crew", metadataRevision := 1, metadataChangedBy := List.replicate 16 2 }

def noCards : CardReader := fun _ => .error ⟨.data, 1, 0⟩

/-- A device that has the group. -/
def crewStore : Store := ({} : Store).withGroup crew 0

/-- One device rotates the key, the other one renames the group. -/
def rotateAndRename : List SyncRecord := [groupsRecord 2 [rotated 1], groupsRecord 3 [renamed]]

/-- Both devices rotate the key. -/
def rotateTwice : List SyncRecord := [groupsRecord 2 [rotated 1], groupsRecord 3 [rotated 2]]

theorem carried_rotated : carried (groupsRecord 2 [rotated 1]) = [rotated 1] := by decide +kernel

/-- A rename that is one revision later than a rotation of the key is what is stored,
whichever of the two comes first. -/
theorem groups_order_independent_iff_renamed :
    OrderIndependent primitives noCards crewStore rotateAndRename := by
  have hvalid : ∀ record ∈ rotateAndRename, Valid record := by
    intro record hmem
    rcases mem_cons.mp hmem with rfl | hmem
    · exact ⟨rfl, by decide +kernel, by decide +kernel⟩
    · rw [mem_singleton.mp hmem]
      exact ⟨rfl, by decide +kernel, by decide +kernel⟩
  refine (groups_order_independent_iff primitives noCards crewStore rotateAndRename hvalid
    (by decide +kernel)).mpr ?_
  have hrename : ∀ {groupId record group}, Wins crewStore rotateAndRename groupId record group →
      record = groupsRecord 3 [renamed] := by
    intro groupId record group hwin
    rcases mem_cons.mp hwin.mem with rfl | hmem
    · obtain ⟨told, hmem, heq⟩ := mem_map.mp (latest_eq_some ages_older hwin.offers).1
      obtain ⟨htold, hid⟩ := mem_filter.mp hmem
      have hid := of_decide_eq_true hid
      rw [carried_rotated] at htold
      obtain rfl := mem_singleton.mp htold
      subst heq hid
      have hlater : ¬ older (canonical (rotated 1)) (canonical renamed) :=
        hwin.latest (groupsRecord 3 [renamed]) (by simp [rotateAndRename]) (by decide +kernel) _
          (by decide +kernel)
      exact absurd (by decide +kernel) hlater
    · exact mem_singleton.mp hmem
  intro groupId record other group rival hwin hwin'
  have hoffers := hwin.offers
  rw [hrename hwin, ← hrename hwin', hwin'.offers] at hoffers
  exact (Option.some.inj hoffers).symm

/-- Two devices rotate the key of a group: both records are admitted, and a third device
stores the key of whichever comes last. -/
theorem rotation_order_decides_key :
    (∀ record ∈ rotateTwice, coreSyncRecordAdmit primitives record 0 pairRoster = none) ∧
    ((deliverAll primitives noCards crewStore (rotateTwice.map timeless)).getGroup crew.id).map
        (·.key) = some (List.replicate 32 2) ∧
    ((deliverAll primitives noCards crewStore (rotateTwice.reverse.map timeless)).getGroup
        crew.id).map (·.key) = some (List.replicate 32 1) := by
  decide +kernel

end Example
end CruiseMesh.GroupsOrder
