import CruiseMesh.Routing.Hints
import CruiseMesh.Sample

/-!
# Relay acks

An ack deletes a relay row for everyone, so a device acks a row only where it was the
row's one true reader. `core_relay_ack_ids_with_consumed` decides that from the row's
disposition, from what the store has kept of it, and from the hint it was addressed
under; `relay_ack_safe` says what every id it returns stands for.
-/

namespace CruiseMesh
open List Store

inductive CoreInboundDisposition where
  | consumed
  | carried
  | expired
  | seen
  | rejected
  | failed
deriving DecidableEq

/-- One fetched relay row and what became of it. -/
structure CoreRelayEnvelopeDisposition where
  relayId : Int
  msgId : Bytes
  disposition : CoreInboundDisposition
  recipientHint : Bytes
deriving DecidableEq

structure MessageOrigin where
  chatId : Bytes
  senderUserId : Bytes

def MessageRow.origin (row : MessageRow) : MessageOrigin := ⟨row.chatId, row.senderUserId⟩

def MessageConflictRow.origin (row : MessageConflictRow) : MessageOrigin :=
  ⟨row.chatId, row.senderUserId⟩

/-- `core_should_ack_inbound`. -/
def coreShouldAckInbound (disposition : CoreInboundDisposition) : Bool := disposition = .consumed

/-- `core_consumed_seen_is_ackable`. -/
def coreConsumedSeenIsAckable (origin : Option MessageOrigin) (ownUserId : Bytes) : Bool :=
  match origin with
  | some origin => origin.senderUserId ≠ ownUserId ∧ origin.chatId = origin.senderUserId
  | none => false

/-- `core_consumed_seen_is_ackable_with_hidden`. -/
def coreConsumedSeenIsAckableWithHidden (origin : Option MessageOrigin) (ownUserId : Bytes)
    (recordedConsumedHidden hintIsOwnSelfHint : Bool) : Bool :=
  if origin.isSome then coreConsumedSeenIsAckable origin ownUserId
  else recordedConsumedHidden && hintIsOwnSelfHint

namespace Store

/-- `message_origin_by_msg_id`: accepted messages first, then quarantined ones. -/
def messageOriginByMsgId (s : Store) (msgId : Bytes) : Option MessageOrigin :=
  let accepted := (s.messages.filter fun row => row.msgId = some msgId).insertionSort
    fun a b => a.id ≤ b.id
  let quarantined := (s.messageConflicts.filter fun row => row.incomingMsgId = some msgId).insertionSort
    fun a b => a.id ≤ b.id
  (accepted.map MessageRow.origin ++ quarantined.map MessageConflictRow.origin).head?

/-- `consumed_hidden_msg_id_recorded`. -/
def consumedHiddenMsgIdRecorded (s : Store) (msgId : Bytes) (nowMs : Int) : Bool :=
  s.consumedHiddenMsgIds.any fun row => row.msgId = msgId ∧ nowMs < row.expiryMs

section Planner
variable (P : Primitives)

/-- The recent hints of every imported group. -/
def legacyGroupHints (s : Store) (nowMs : Int) : List Bytes :=
  s.groupIds.flatMap fun groupId => hintsOverWindow P groupId nowMs carryHintDayWindowDays

/-- The body of the loop: whether one item is acked. -/
def acksItem (s : Store) (ownUserId : Bytes) (nowMs : Int) (item : CoreRelayEnvelopeDisposition) :
    Bool :=
  if item.recipientHint ∈ s.legacyGroupHints P nowMs then false
  else
    let fleetHint := (s.ownFleetHints P ownUserId nowMs).classify item.recipientHint
    if fleetHint = .personShared ∨ fleetHint = .sibling then false
    else if coreShouldAckInbound item.disposition then true
    else if item.disposition = .seen then
      let origin := s.messageOriginByMsgId item.msgId
      coreConsumedSeenIsAckableWithHidden origin ownUserId
        (origin.isNone && s.consumedHiddenMsgIdRecorded item.msgId nowMs)
        (origin.isNone && (fleetHint = .ownDevice : Bool))
    else false

/-- `core_relay_ack_ids_with_consumed`. -/
def coreRelayAckIdsWithConsumed (s : Store) (items : List CoreRelayEnvelopeDisposition)
    (ownUserId : Bytes) (nowMs : Int) : List Int :=
  if s.linkGateAllows .ack = false then []
  else (items.filter (s.acksItem P ownUserId nowMs)).map (·.relayId)

end Planner
end Store

/-! ## Days -/

/-- The day a clock is in. -/
def dayOf (nowMs : Int) : Int := nowMs / msPerDay

section Days
variable {P : Primitives} {id hint : Bytes} {nowMs window forward : Int}

/-- `id` has this hint on some day from `back` days ago to `ahead` days from now. -/
def HintOn (P : Primitives) (id : Bytes) (nowMs back ahead : Int) (hint : Bytes) : Prop :=
  ∃ day, dayOf nowMs - back ≤ day ∧ day ≤ dayOf nowMs + ahead ∧ hint = dayHint P id day

/-- Days are counted in whole days before now, whatever the time of day. -/
theorem computeRecipientHint_daysAgo (i : Int) :
    computeRecipientHint P id (nowMs - i * msPerDay) = dayHint P id (dayOf nowMs - i) := by
  unfold computeRecipientHint dayOf
  have hday : (nowMs - i * msPerDay) / msPerDay = nowMs / msPerDay - i := by
    have hpos : msPerDay ≠ 0 := by decide
    rw [Int.sub_eq_add_neg, ← Int.neg_mul, Int.add_mul_ediv_right _ _ hpos]
    omega
  rw [hday]

theorem mem_hintsOverRange (hrange : 0 ≤ window + forward) :
    hint ∈ hintsOverRange P id nowMs window forward ↔ HintOn P id nowMs window forward hint := by
  unfold hintsOverRange HintOn
  simp only [mem_map, mem_range, computeRecipientHint_daysAgo]
  constructor
  · intro ⟨i, hi, heq⟩
    exact ⟨_, by omega, by omega, heq.symm⟩
  · intro ⟨day, hlow, hhigh, heq⟩
    refine ⟨(dayOf nowMs + forward - day).toNat, by omega, ?_⟩
    rw [heq]
    congr 1
    omega

/-- A hint on a day this device looks back to. -/
def RecentHint (P : Primitives) (id : Bytes) (nowMs : Int) (hint : Bytes) : Prop :=
  HintOn P id nowMs carryHintDayWindowDays 0 hint

theorem mem_hintsOverWindow :
    hint ∈ hintsOverWindow P id nowMs carryHintDayWindowDays ↔ RecentHint P id nowMs hint :=
  mem_hintsOverRange (by decide)

theorem mem_deviceHints {person device : Bytes} :
    hint ∈ deviceHintsOverRange P person device nowMs 0 ↔
      RecentHint P (coreDeviceNamespaceId P person device) nowMs hint :=
  mem_hintsOverRange (by decide)

end Days

/-! ## What an ack stands for -/

section Safety
variable {P : Primitives} {s : Store} {own : Bytes} {nowMs : Int}

/-- The other devices of the fleet. -/
def Store.siblingDeviceIds (s : Store) : List Bytes :=
  s.ownDeviceFleet.deviceIds.filter fun deviceId => some deviceId ≠ s.ownDeviceFleet.ownDeviceId

/-- The routing ids whose rows have readers besides this device: the imported groups, the
siblings' namespaces and, where there are siblings, the person. -/
def Store.sharedIds (P : Primitives) (s : Store) (own : Bytes) : List Bytes :=
  s.groupIds ++ s.siblingDeviceIds.map (coreDeviceNamespaceId P own) ++
    (if 2 ≤ s.ownDeviceFleet.deviceIds.length then [own] else [])

/-- The routing ids whose rows this device alone reads. -/
def Store.ownIds (P : Primitives) (s : Store) (own : Bytes) : List Bytes :=
  coreDeviceNamespaceId P own (s.ownDeviceFleet.ownDeviceId.getD legacyDeviceId) ::
    (if 2 ≤ s.ownDeviceFleet.deviceIds.length then [] else [own])

/-- A message from someone else, in the chat with them, accepted or quarantined. -/
def Store.ReceivedOneToOne (s : Store) (own msgId : Bytes) : Prop :=
  (∃ row ∈ s.messages, row.msgId = some msgId ∧ row.senderUserId ≠ own ∧
    row.chatId = row.senderUserId) ∨
  ∃ row ∈ s.messageConflicts, row.incomingMsgId = some msgId ∧ row.senderUserId ≠ own ∧
    row.chatId = row.senderUserId

/-- An unexpired mark that this device consumed a message of a hidden kind. -/
def Store.ConsumedHidden (s : Store) (nowMs : Int) (msgId : Bytes) : Prop :=
  ∃ row ∈ s.consumedHiddenMsgIds, row.msgId = msgId ∧ nowMs < row.expiryMs

/-- What an acked item rests on. -/
def AckEvidence (P : Primitives) (s : Store) (own : Bytes) (nowMs : Int)
    (item : CoreRelayEnvelopeDisposition) : Prop :=
  item.disposition = .consumed ∨ item.disposition = .seen ∧ (s.ReceivedOneToOne own item.msgId ∨
    s.ConsumedHidden nowMs item.msgId ∧ ∃ id ∈ s.ownIds P own, RecentHint P id nowMs item.recipientHint)

/-- The routing ids of a person and their devices. -/
def personIds (P : Primitives) (person : Bytes) (deviceIds : List Bytes) : List Bytes :=
  person :: deviceIds.map (coreDeviceNamespaceId P person)

/-- No two of the routing ids are the same, or share a hint within the window. -/
structure HintsDistinct (P : Primitives) (ids : List Bytes) (nowMs : Int) : Prop where
  nodup : ids.Nodup
  hints : ∀ a ∈ ids, ∀ b ∈ ids, ∀ hint, RecentHint P a nowMs hint → RecentHint P b nowMs hint → a = b

theorem HintsDistinct.sublist {ids ids' : List Bytes} (h : HintsDistinct P ids nowMs)
    (hsub : ids'.Sublist ids) : HintsDistinct P ids' nowMs :=
  ⟨h.nodup.sublist hsub, fun a ha b hb => h.hints a (hsub.mem ha) b (hsub.mem hb)⟩

theorem receivedOneToOne_of_origin {msgId : Bytes} {origin : MessageOrigin}
    (h : s.messageOriginByMsgId msgId = some origin)
    (hack : coreConsumedSeenIsAckable (some origin) own = true) :
    s.ReceivedOneToOne own msgId := by
  have hother : origin.senderUserId ≠ own ∧ origin.chatId = origin.senderUserId :=
    of_decide_eq_true hack
  rcases mem_append.mp (mem_of_head? h) with hmem | hmem
  · obtain ⟨row, hrow, rfl⟩ := mem_map.mp hmem
    obtain ⟨hrow, hid⟩ := mem_filter.mp ((mem_insertionSort _).mp hrow)
    exact .inl ⟨row, hrow, of_decide_eq_true hid, hother⟩
  · obtain ⟨row, hrow, rfl⟩ := mem_map.mp hmem
    obtain ⟨hrow, hid⟩ := mem_filter.mp ((mem_insertionSort _).mp hrow)
    exact .inr ⟨row, hrow, of_decide_eq_true hid, hother⟩

/-- A fleet that lists anything lists this device. -/
theorem own_of_fleet {fleet : OwnDeviceFleet} (hvalid : validateOwnDeviceFleet fleet = .ok ())
    (hsome : fleet.deviceIds ≠ []) :
    ∃ device, fleet.ownDeviceId = some device ∧ device ∈ fleet.deviceIds := by
  simp only [validateOwnDeviceFleet, bind_eq_ok, refuseWhen_eq_ok] at hvalid
  obtain ⟨_, _, _, _, _, _, hown⟩ := hvalid
  cases hid : fleet.ownDeviceId with
  | none =>
    simp only [hid, refuseWhen_eq_ok, not_not] at hown
    exact absurd hown hsome
  | some device =>
    simp only [hid, refuseWhen_eq_ok, not_not] at hown
    exact ⟨device, rfl, hown⟩

variable {device : Bytes} {item : CoreRelayEnvelopeDisposition}

theorem mem_own_iff {hint : Bytes} : hint ∈ (s.ownFleetHints P own nowMs).own ↔
    ∃ id ∈ s.ownIds P own, RecentHint P id nowMs hint := by
  unfold ownFleetHints ownIds
  by_cases hmany : 2 ≤ s.ownDeviceFleet.deviceIds.length
  · simp only [if_pos hmany, if_neg (not_lt.mpr hmany), mem_deviceHints, mem_singleton,
      exists_eq_left]
  · simp only [if_neg hmany, if_pos (not_le.mp hmany), mem_append, mem_deviceHints,
      mem_hintsOverWindow, mem_cons, not_mem_nil, or_false, exists_eq_or_imp,
      exists_eq_left]

/-- In a fleet of two or more, a hint of any other id of the person is not this device's. -/
theorem not_mem_own (hdistinct : HintsDistinct P (personIds P own s.ownDeviceFleet.deviceIds) nowMs)
    (hmany : 2 ≤ s.ownDeviceFleet.deviceIds.length) {self : Bytes}
    (hself : s.ownDeviceFleet.ownDeviceId = some self) (hlisted : self ∈ s.ownDeviceFleet.deviceIds)
    {id hint : Bytes} (hid : id ∈ personIds P own s.ownDeviceFleet.deviceIds)
    (hother : id ≠ coreDeviceNamespaceId P own self) (hhint : RecentHint P id nowMs hint) :
    hint ∉ (s.ownFleetHints P own nowMs).own := by
  rw [mem_own_iff]
  intro ⟨ownId, hownId, hownHint⟩
  rw [ownIds, if_pos hmany, mem_singleton, hself] at hownId
  have hmem : ownId ∈ personIds P own s.ownDeviceFleet.deviceIds := by
    rw [hownId]
    exact mem_cons_of_mem _ (mem_map_of_mem hlisted)
  have hsame : ownId = id := hdistinct.hints ownId hmem id hid hint hownHint hhint
  exact hother (hsame.symm.trans hownId)

/-- What is classified as shared is not acked, whatever became of it. -/
theorem acksItem_of_shared
    (h : (s.ownFleetHints P own nowMs).classify item.recipientHint = .personShared ∨
      (s.ownFleetHints P own nowMs).classify item.recipientHint = .sibling) :
    s.acksItem P own nowMs item = false := by
  unfold acksItem
  by_cases hgroup : item.recipientHint ∈ s.legacyGroupHints P nowMs
  · rw [if_pos hgroup]
  · rw [if_neg hgroup]
    exact if_pos h

section Distinct
variable (hvalid : validateOwnDeviceFleet s.ownDeviceFleet = .ok ())
  (hdistinct : HintsDistinct P (personIds P own s.ownDeviceFleet.deviceIds) nowMs)
include hvalid hdistinct

/-- A hint of a sibling's namespace is classified as such. -/
theorem classify_sibling {hint : Bytes} (hdevice : device ∈ s.siblingDeviceIds)
    (hhint : RecentHint P (coreDeviceNamespaceId P own device) nowMs hint) :
    (s.ownFleetHints P own nowMs).classify hint = .sibling := by
  -- a sibling is listed beside this device
  obtain ⟨hmem, hother⟩ := mem_filter.mp hdevice
  obtain ⟨self, hself, hlisted⟩ := own_of_fleet hvalid (ne_nil_of_mem hmem)
  have hne : device ≠ self := by
    intro heq
    rw [hself, heq] at hother
    exact absurd rfl (of_decide_eq_true hother)
  have hmany : 2 ≤ s.ownDeviceFleet.deviceIds.length := by
    by_contra hfew
    -- a list of one element has no two different members
    obtain ⟨only, honly⟩ : ∃ only, s.ownDeviceFleet.deviceIds = [only] := by
      refine length_eq_one_iff.mp ?_
      have hpos := length_pos_of_mem hmem
      omega
    rw [honly, mem_singleton] at hmem hlisted
    exact hne (hmem.trans hlisted.symm)
  have hnodup := (nodup_cons.mp hdistinct.nodup).2
  have hnotOwn : hint ∉ (s.ownFleetHints P own nowMs).own := by
    refine not_mem_own hdistinct hmany hself hlisted
      (mem_cons_of_mem _ (mem_map_of_mem hmem)) ?_ hhint
    intro heq
    exact hne (inj_on_of_nodup_map hnodup hmem hlisted heq)
  have hsibling : hint ∈ (s.ownFleetHints P own nowMs).sibling := by
    unfold ownFleetHints
    rw [if_neg (not_lt.mpr hmany)]
    refine mem_flatMap.mpr ⟨device, mem_filter.mpr ⟨hmem, ?_⟩, mem_deviceHints.mpr hhint⟩
    rw [hself]
    exact decide_eq_true hne
  unfold FleetHints.classify
  rw [if_neg hnotOwn, if_pos hsibling]

/-- With siblings, a hint of the person is nobody's alone. -/
theorem classify_person (hmany : 2 ≤ s.ownDeviceFleet.deviceIds.length) {hint : Bytes}
    (hhint : RecentHint P own nowMs hint) :
    (s.ownFleetHints P own nowMs).classify hint = .personShared ∨
      (s.ownFleetHints P own nowMs).classify hint = .sibling := by
  have hnonempty : s.ownDeviceFleet.deviceIds ≠ [] := by
    intro hnil
    rw [hnil] at hmany
    exact absurd hmany (by decide)
  obtain ⟨self, hself, hlisted⟩ := own_of_fleet hvalid hnonempty
  have hnotOwn : hint ∉ (s.ownFleetHints P own nowMs).own := by
    refine not_mem_own hdistinct hmany hself hlisted mem_cons_self ?_ hhint
    intro heq
    have hmem : coreDeviceNamespaceId P own self ∈
        s.ownDeviceFleet.deviceIds.map (coreDeviceNamespaceId P own) := mem_map_of_mem hlisted
    rw [← heq] at hmem
    exact (nodup_cons.mp hdistinct.nodup).1 hmem
  have hshared : hint ∈ (s.ownFleetHints P own nowMs).personShared := by
    unfold ownFleetHints
    rw [if_neg (not_lt.mpr hmany)]
    exact mem_hintsOverWindow.mpr hhint
  unfold FleetHints.classify
  rw [if_neg hnotOwn]
  by_cases hsibling : hint ∈ (s.ownFleetHints P own nowMs).sibling
  · rw [if_pos hsibling]
    exact .inr rfl
  · rw [if_neg hsibling, if_pos hshared]
    exact .inl rfl

/-- An item under a shared hint is not acked. -/
theorem acksItem_not_shared (h : s.acksItem P own nowMs item = true) :
    ∀ id ∈ s.sharedIds P own, ¬ RecentHint P id nowMs item.recipientHint := by
  intro id hid hhint
  rw [sharedIds, append_assoc, mem_append, mem_append] at hid
  rcases hid with hgroup | hsibling | hperson
  · have hmem : item.recipientHint ∈ s.legacyGroupHints P nowMs :=
      mem_flatMap.mpr ⟨id, hgroup, mem_hintsOverWindow.mpr hhint⟩
    unfold acksItem at h
    rw [if_pos hmem] at h
    exact Bool.noConfusion h
  · obtain ⟨device, hdevice, rfl⟩ := mem_map.mp hsibling
    rw [acksItem_of_shared (.inr (classify_sibling hvalid hdistinct hdevice hhint))] at h
    exact Bool.noConfusion h
  · by_cases hmany : 2 ≤ s.ownDeviceFleet.deviceIds.length
    · rw [if_pos hmany, mem_singleton] at hperson
      rw [hperson] at hhint
      rw [acksItem_of_shared (classify_person hvalid hdistinct hmany hhint)] at h
      exact Bool.noConfusion h
    · rw [if_neg hmany] at hperson
      cases hperson

end Distinct

/-- An item that is acked has its evidence. -/
theorem acksItem_evidence (h : s.acksItem P own nowMs item = true) :
    AckEvidence P s own nowMs item := by
  unfold acksItem at h
  split at h
  · exact Bool.noConfusion h
  simp only at h
  split at h
  · exact Bool.noConfusion h
  split at h
  · rename_i hconsumed
    exact .inl (of_decide_eq_true hconsumed)
  split at h
  · rename_i hseen
    refine .inr ⟨hseen, ?_⟩
    cases horigin : s.messageOriginByMsgId item.msgId with
    | some origin =>
      rw [horigin] at h
      exact .inl (receivedOneToOne_of_origin horigin h)
    | none =>
      rw [horigin] at h
      simp only [coreConsumedSeenIsAckableWithHidden, Option.isSome_none, Option.isNone_none,
        Bool.true_and, Bool.false_eq_true, if_false, Bool.and_eq_true] at h
      obtain ⟨hhidden, hown⟩ := h
      obtain ⟨row, hrow, hmark⟩ := any_eq_true.mp hhidden
      refine .inr ⟨⟨row, hrow, of_decide_eq_true hmark⟩, ?_⟩
      rw [← mem_own_iff]
      have hclass := of_decide_eq_true hown
      by_contra hnot
      unfold FleetHints.classify at hclass
      rw [if_neg hnot] at hclass
      split at hclass
      · cases hclass
      · split at hclass <;> cases hclass
  · exact Bool.noConfusion h

/-- The ids that are returned are those of items with evidence, none of which is under a
hint that anyone else reads. -/
theorem relay_ack_safe (items : List CoreRelayEnvelopeDisposition)
    (hvalid : validateOwnDeviceFleet s.ownDeviceFleet = .ok ())
    (hdistinct : HintsDistinct P (personIds P own s.ownDeviceFleet.deviceIds) nowMs) :
    ∃ acked : List CoreRelayEnvelopeDisposition, acked.Sublist items ∧
      s.coreRelayAckIdsWithConsumed P items own nowMs = acked.map (·.relayId) ∧
      ∀ item ∈ acked, AckEvidence P s own nowMs item ∧
        ∀ id ∈ s.sharedIds P own, ¬ RecentHint P id nowMs item.recipientHint := by
  unfold coreRelayAckIdsWithConsumed
  by_cases hgate : s.linkGateAllows .ack = false
  · rw [if_pos hgate]
    exact ⟨[], nil_sublist _, rfl, fun item hitem => absurd hitem not_mem_nil⟩
  · rw [if_neg hgate]
    refine ⟨_, filter_sublist, rfl, fun item hitem => ?_⟩
    have hacks := (mem_filter.mp hitem).2
    exact ⟨acksItem_evidence hacks, acksItem_not_shared hvalid hdistinct hacks⟩

end Safety

namespace Sample

def noon : Int := 100 * msPerDay + 500

def ownNamespace : Bytes :=
  coreDeviceNamespaceId primitives person (primitives.deriveUserId deviceKey)

def siblingNamespace : Bytes :=
  coreDeviceNamespaceId primitives person (primitives.deriveUserId otherDeviceKey)

/-- The first device of a person of two, with a group and a consumed hidden message. -/
def pairFleetStore : Store :=
  { ({} : Store).adopted primitives pairRoster (primitives.deriveUserId deviceKey) with
    groups := [{ groupId := secretKey 30, name := ascii "Crew", groupKey := secretKey 29 }]
    consumedHiddenMsgIds := [⟨secretKey 31, noon + 2000⟩] }

theorem pairFleetStore_valid : validateOwnDeviceFleet pairFleetStore.ownDeviceFleet = .ok () := by
  decide +kernel

/-- The names the rows of the pair are addressed to. -/
def pairNames : List Bytes := [person, ownNamespace, siblingNamespace, secretKey 30]

theorem pairNames_distinct : HintsDistinct primitives pairNames noon where
  nodup := by decide +kernel
  hints := by
    have hsets : ∀ a ∈ pairNames, ∀ b ∈ pairNames,
        ∀ hint ∈ hintsOverWindow primitives a noon carryHintDayWindowDays,
          hint ∈ hintsOverWindow primitives b noon carryHintDayWindowDays → a = b := by
      decide +kernel
    intro a ha b hb hint hinta hintb
    exact hsets a ha b hb hint (mem_hintsOverWindow.mpr hinta) (mem_hintsOverWindow.mpr hintb)

theorem pairFleetStore_distinct :
    HintsDistinct primitives (personIds primitives person pairFleetStore.ownDeviceFleet.deviceIds) noon :=
  pairNames_distinct.sublist (by decide +kernel)

/-- A row consumed under this device's own namespace, a sibling's row that opened here, a
hidden message met again, and a row of the group. -/
def fetchedRows : List CoreRelayEnvelopeDisposition :=
  [⟨1, secretKey 32, .consumed, computeRecipientHint primitives ownNamespace noon⟩,
    ⟨2, secretKey 33, .consumed, computeRecipientHint primitives siblingNamespace noon⟩,
    ⟨3, secretKey 31, .seen, computeRecipientHint primitives ownNamespace noon⟩,
    ⟨4, secretKey 34, .consumed, computeRecipientHint primitives (secretKey 30) noon⟩]

/-- A row that opened here under the sibling's hint of tomorrow. -/
def tomorrowRow : CoreRelayEnvelopeDisposition :=
  ⟨5, secretKey 35, .consumed, computeRecipientHint primitives siblingNamespace (noon + msPerDay)⟩

end Sample

open Sample in
/-- Of the four rows the two in this device's own namespace are acked. -/
theorem relay_ack_safe_pair :
    pairFleetStore.coreRelayAckIdsWithConsumed primitives fetchedRows person noon = [1, 3] ∧
    ∃ acked : List CoreRelayEnvelopeDisposition, acked.Sublist fetchedRows ∧
      pairFleetStore.coreRelayAckIdsWithConsumed primitives fetchedRows person noon =
        acked.map (·.relayId) ∧
      ∀ item ∈ acked, AckEvidence primitives pairFleetStore person noon item ∧
        ∀ id ∈ pairFleetStore.sharedIds primitives person,
          ¬ RecentHint primitives id noon item.recipientHint :=
  ⟨by decide +kernel, relay_ack_safe fetchedRows pairFleetStore_valid pairFleetStore_distinct⟩

open Sample in
/-- A row under the hint that the sibling subscribes to for tomorrow is acked. -/
theorem tomorrow_hint_acked :
    validateOwnDeviceFleet pairFleetStore.ownDeviceFleet = .ok () ∧
    HintsDistinct primitives (personIds primitives person pairFleetStore.ownDeviceFleet.deviceIds) noon ∧
    siblingNamespace ∈ pairFleetStore.sharedIds primitives person ∧
    HintOn primitives siblingNamespace noon carryHintDayWindowDays pushHintForwardDays
      tomorrowRow.recipientHint ∧
    pairFleetStore.coreRelayAckIdsWithConsumed primitives [tomorrowRow] person noon = [5] :=
  ⟨pairFleetStore_valid, pairFleetStore_distinct, by decide +kernel,
    ⟨101, by decide, by decide, by decide +kernel⟩, by decide +kernel⟩

end CruiseMesh
