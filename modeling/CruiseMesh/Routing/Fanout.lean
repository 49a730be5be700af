import CruiseMesh.Routing.Ack
import CruiseMesh.Roster.ContactStore

/-!
# Addressing a fleet

`core_outbound_relay_rows` decides which relay rows one 1:1 envelope is uploaded as: one
for the person, or one for each of their devices once two are known. The other end is
`FleetHints::classify` and the ack planner. The two ends never talk about it;
`fanout_agrees` says that they agree, for every device of the roster they both hold.
-/

namespace CruiseMesh
open Wire List Store

/-- One relay row to post. -/
structure CoreGroupFanoutRow where
  msgId : Bytes
  hopTtl : UInt8
  expiry : Int
  recipientHint : Bytes
  body : Bytes
deriving DecidableEq

section Rows
variable (P : Primitives)

/-- `device_fanout_msg_id`. -/
def deviceFanoutMsgId (originalMsgId deviceId : Bytes) : Bytes :=
  if deviceId.length ≠ deviceIdLen ∨ deviceId = legacyDeviceId then originalMsgId
  else P.blake2b msgIdLen (ascii "cruisemesh device fanout v1" ++ originalMsgId ++ deviceId)

/-- The row of one device. -/
def deviceFanoutRow (originalMsgId personId : Bytes) (hopTtl : UInt8) (expiry : Int) (body : Bytes)
    (envelopeTimestampMs : Int) (deviceId : Bytes) : CoreGroupFanoutRow where
  msgId := deviceFanoutMsgId P originalMsgId deviceId
  hopTtl := hopTtl
  expiry := expiry
  recipientHint :=
    computeRecipientHint P (coreDeviceNamespaceId P personId deviceId) envelopeTimestampMs
  body := body

/-- `core_device_fanout_rows`. -/
def coreDeviceFanoutRows (originalMsgId personId : Bytes) (deviceIds : List Bytes) (hopTtl : UInt8)
    (expiry : Int) (body : Bytes) (envelopeTimestampMs : Int) : List CoreGroupFanoutRow :=
  deviceIds.map (deviceFanoutRow P originalMsgId personId hopTtl expiry body envelopeTimestampMs)

/-- The row an envelope is stored as. -/
def OutboundEnvelope.storedRow (envelope : OutboundEnvelope) : CoreGroupFanoutRow where
  msgId := envelope.msgId
  hopTtl := envelope.hopTtl
  expiry := envelope.expiry
  recipientHint := envelope.recipientHint
  body := envelope.body

namespace Store

/-- `contact_active_device_ids`. -/
def contactActiveDeviceIds (s : Store) (personUserId : Bytes) : List Bytes :=
  ((s.contactDevices.filter fun row => row.personUserId = personUserId ∧
    row.revokedAtSeq = none).insertionSort fun a b => a.ordinal ≤ b.ordinal).map (·.deviceId)

/-- `core_outbound_relay_rows`. -/
def coreOutboundRelayRows (s : Store) (envelope : OutboundEnvelope) (ownUserId : Bytes)
    (ownSiblingSealed : Option Bytes) : Except CoreError (List CoreGroupFanoutRow) :=
  if s.linkGateAllows .advertise = false then .ok []
  else do
    refuseWhen (∃ group ∈ s.groups, group.groupId = envelope.recipientUserId) (.store (
      "core_outbound_relay_rows is for 1:1 envelopes only; a group-addressed envelope " ++
      "fans out per member through core_group_fanout_rows"))
    let recipientDevices := s.contactActiveDeviceIds envelope.recipientUserId
    let rows :=
      if recipientDevices.length < 2 then [envelope.storedRow]
      else coreDeviceFanoutRows P envelope.msgId envelope.recipientUserId recipientDevices
        envelope.hopTtl envelope.expiry envelope.body envelope.timestamp
    let siblingRows := match ownSiblingSealed with
      | none => []
      | some body => coreDeviceFanoutRows P envelope.msgId ownUserId s.siblingDeviceIds
          envelope.hopTtl envelope.expiry body envelope.timestamp
    pure (rows ++ siblingRows)

end Store
end Rows

/-! ## The sender's side -/

section Sender
variable {P : Primitives} {s : Store} {person : Bytes} {roster : Roster}

/-- What the store reads back as active devices is the roster it holds. -/
theorem contactActiveDeviceIds_of_holds {quarantined : Bool}
    (h : Holds P s person ⟨some roster, quarantined⟩) :
    s.contactActiveDeviceIds person = roster.deviceIds P := by
  obtain ⟨_, _, _, hrows⟩ := h
  have hactive : (s.contactDevices.filter fun row => row.personUserId = person ∧
      row.revokedAtSeq = none) =
      roster.devices.zipIdx.map fun entry => certRow P roster.personId entry.1 entry.2 := by
    have hsplit : (s.contactDevices.filter fun row => row.personUserId = person ∧
        row.revokedAtSeq = none) =
        (s.contactDevices.filter fun row => row.personUserId = person).filter
          fun row => row.revokedAtSeq = none := by
      rw [filter_filter]
      congr 1
      funext row
      simp [Bool.and_comm]
    rw [hsplit, hrows, deviceRows, filter_append]
    rw [filter_eq_self.mpr, filter_eq_nil_iff.mpr, append_nil]
    · intro row hrow
      obtain ⟨tombstone, _, rfl⟩ := mem_map.mp hrow
      simp [tombstoneRow]
    · intro row hrow
      obtain ⟨cert, _, rfl⟩ := mem_map.mp hrow
      rfl
  unfold contactActiveDeviceIds
  rw [hactive, List.Pairwise.insertionSort_eq]
  · rw [map_map, Roster.deviceIds]
    show roster.devices.zipIdx.map ((fun cert => cert.deviceId P) ∘ Prod.fst) = _
    rw [← map_map, zipIdx_map_fst]
  · rw [pairwise_map]
    exact (zipIdx_ordered roster.devices 0).imp fun h => h

end Sender

/-! ## The recipient's side -/

section Recipient
variable {P : Primitives} {r : Store} {person : Bytes} {roster : Roster} {root self : Bytes}
  {nowMs : Int}

/-- Exactly one of the rows is this device's to read and to ack; the others are its
siblings', and it acks none of them, whatever became of them here. -/
def ReadsOneRow (P : Primitives) (r : Store) (person : Bytes) (nowMs : Int)
    (rows : List CoreGroupFanoutRow) : Prop :=
  ∃ row ∈ rows, (r.ownFleetHints P person nowMs).classify row.recipientHint = .ownDevice ∧
    (r.linkGateAllows .ack = true → ∀ relayId, r.coreRelayAckIdsWithConsumed P
      [⟨relayId, row.msgId, .consumed, row.recipientHint⟩] person nowMs = [relayId]) ∧
    ∀ other ∈ rows, other ≠ row →
      (r.ownFleetHints P person nowMs).classify other.recipientHint = .sibling ∧
      ∀ relayId disposition, r.coreRelayAckIdsWithConsumed P
        [⟨relayId, other.msgId, disposition, other.recipientHint⟩] person nowMs = []

theorem classify_own {id hint : Bytes} (hid : id ∈ r.ownIds P person)
    (hhint : RecentHint P id nowMs hint) :
    (r.ownFleetHints P person nowMs).classify hint = .ownDevice :=
  if_pos (mem_own_iff.mpr ⟨id, hid, hhint⟩)

theorem acks_nil_of_not {item : CoreRelayEnvelopeDisposition}
    (h : r.acksItem P person nowMs item = false) :
    r.coreRelayAckIdsWithConsumed P [item] person nowMs = [] := by
  unfold coreRelayAckIdsWithConsumed
  by_cases hgate : r.linkGateAllows .ack = false
  · rw [if_pos hgate]
  · rw [if_neg hgate, filter_cons_of_neg (by rw [h]; exact Bool.false_ne_true)]
    rfl

/-- What was consumed under an own hint is acked, unless the hint is also a group's. -/
theorem acks_own_consumed {relayId : Int} {msgId hint : Bytes} (hgate : r.linkGateAllows .ack = true)
    (hgroup : hint ∉ r.legacyGroupHints P nowMs)
    (hown : (r.ownFleetHints P person nowMs).classify hint = .ownDevice) :
    r.coreRelayAckIdsWithConsumed P [⟨relayId, msgId, .consumed, hint⟩] person nowMs = [relayId] := by
  have hitem : r.acksItem P person nowMs ⟨relayId, msgId, .consumed, hint⟩ = true := by
    unfold acksItem
    rw [if_neg hgroup, hown]
    rfl
  unfold coreRelayAckIdsWithConsumed
  rw [hgate, if_neg (by decide), filter_cons_of_pos hitem]
  rfl

/-- The clock is within the hint window of a timestamp. -/
def WithinWindow (nowMs timestampMs : Int) : Prop :=
  dayOf nowMs - carryHintDayWindowDays ≤ dayOf timestampMs ∧ dayOf timestampMs ≤ dayOf nowMs

theorem recentHint_of_window {timestampMs : Int} (h : WithinWindow nowMs timestampMs) (id : Bytes) :
    RecentHint P id nowMs (computeRecipientHint P id timestampMs) :=
  ⟨dayOf timestampMs, h.1, by rw [Int.add_zero]; exact h.2, rfl⟩

/-- A device whose fleet is the roster reads exactly its own row. -/
theorem readsOneRow_of_fleet {msgId body : Bytes} {hopTtl : UInt8} {expiry timestampMs : Int}
    (hvalid : ValidRoster P roster root) (hself : self ∈ roster.deviceIds P)
    (hfleet : r.ownDeviceFleet = ⟨some self, roster.deviceIds P, roster.version⟩)
    (hdistinct : HintsDistinct P (personIds P person (roster.deviceIds P) ++ r.groupIds) nowMs)
    (hclock : WithinWindow nowMs timestampMs) :
    ReadsOneRow P r person nowMs (coreDeviceFanoutRows P msgId person (roster.deviceIds P) hopTtl
      expiry body timestampMs) := by
  have hdevices : r.ownDeviceFleet.deviceIds = roster.deviceIds P := by rw [hfleet]
  have hown : r.ownDeviceFleet.ownDeviceId = some self := by rw [hfleet]
  have hfleetValid : validateOwnDeviceFleet r.ownDeviceFleet = .ok () := by
    rw [hfleet]
    exact validateOwnDeviceFleet_of_valid hvalid hself
  have hperson : HintsDistinct P (personIds P person r.ownDeviceFleet.deviceIds) nowMs := by
    rw [hdevices]
    exact hdistinct.sublist (sublist_append_left _ _)
  have hselfId : coreDeviceNamespaceId P person self ∈ personIds P person (roster.deviceIds P) :=
    mem_cons_of_mem _ (mem_map_of_mem hself)
  have hclassOwn : (r.ownFleetHints P person nowMs).classify
      (computeRecipientHint P (coreDeviceNamespaceId P person self) timestampMs) = .ownDevice := by
    refine classify_own ?_ (recentHint_of_window hclock _)
    rw [ownIds, hown]
    exact mem_cons_self
  refine ⟨_, mem_map_of_mem hself, hclassOwn, ?_, ?_⟩
  · intro hgate relayId
    refine acks_own_consumed hgate ?_ hclassOwn
    -- a group's hint would be a second id with this hint
    intro hgroup
    obtain ⟨groupId, hgroupId, hhint⟩ := mem_flatMap.mp hgroup
    have hsame : coreDeviceNamespaceId P person self = groupId :=
      hdistinct.hints _ (mem_append_left _ hselfId) groupId
        (mem_append_right _ hgroupId) _ (recentHint_of_window hclock _)
        (mem_hintsOverWindow.mp hhint)
    exact (nodup_append.mp hdistinct.nodup).2.2 _ hselfId groupId hgroupId hsame
  · intro other hother hne
    obtain ⟨device, hdevice, rfl⟩ := mem_map.mp hother
    have hotherDevice : device ≠ self := by
      intro heq
      exact hne (by rw [heq])
    have hsibling : device ∈ r.siblingDeviceIds := by
      unfold siblingDeviceIds
      rw [hdevices, hown]
      exact mem_filter.mpr ⟨hdevice, decide_eq_true fun h => hotherDevice (Option.some.inj h)⟩
    have hclass := classify_sibling hfleetValid hperson hsibling
      (recentHint_of_window hclock (coreDeviceNamespaceId P person device))
    exact ⟨hclass, fun relayId disposition => acks_nil_of_not (acksItem_of_shared (.inr hclass))⟩

end Recipient

/-! ## Both ends -/

section Agreement
variable {P : Primitives} {s : Store} {own : Bytes} {envelope : OutboundEnvelope}

/-- What a sender plans for a person whose roster of two or more devices it holds: a row
for each device, and every device that holds the same roster reads exactly one of them. -/
def FanoutAgrees (P : Primitives) (s : Store) (own : Bytes) (envelope : OutboundEnvelope)
    (roster : Roster) : Prop :=
  ∃ rows, s.coreOutboundRelayRows P envelope own none = .ok rows ∧
    rows.length = (roster.deviceIds P).length ∧ (rows.map (·.msgId)).Nodup ∧
    ∀ nowMs, WithinWindow nowMs envelope.timestamp →
      HintsDistinct P (personIds P envelope.recipientUserId (roster.deviceIds P)) nowMs →
      (rows.map (·.recipientHint)).Nodup ∧
      ∀ self ∈ roster.deviceIds P, ∀ r : Store,
        r.ownDeviceFleet = ⟨some self, roster.deviceIds P, roster.version⟩ →
        HintsDistinct P
          (personIds P envelope.recipientUserId (roster.deviceIds P) ++ r.groupIds) nowMs →
        ReadsOneRow P r envelope.recipientUserId nowMs rows

/-- What a sender plans for a person of whom it knows fewer than two devices: the stored
row, which is the recipient's own where the recipient has no sibling either. -/
def StoredRowAgrees (P : Primitives) (s : Store) (own : Bytes) (envelope : OutboundEnvelope) : Prop :=
  s.coreOutboundRelayRows P envelope own none = .ok [envelope.storedRow] ∧
    ∀ nowMs, WithinWindow nowMs envelope.timestamp →
      envelope.recipientHint = computeRecipientHint P envelope.recipientUserId envelope.timestamp →
      ∀ r : Store, r.ownDeviceFleet.deviceIds.length < 2 →
        (r.ownFleetHints P envelope.recipientUserId nowMs).classify envelope.storedRow.recipientHint =
          .ownDevice

theorem plannedRows (hgate : s.linkGateAllows .advertise = true)
    (hone : ∀ group ∈ s.groups, group.groupId ≠ envelope.recipientUserId) :
    s.coreOutboundRelayRows P envelope own none = .ok
      (if (s.contactActiveDeviceIds envelope.recipientUserId).length < 2 then [envelope.storedRow]
        else coreDeviceFanoutRows P envelope.msgId envelope.recipientUserId
          (s.contactActiveDeviceIds envelope.recipientUserId) envelope.hopTtl envelope.expiry
          envelope.body envelope.timestamp) := by
  have hnone : ¬ ∃ group ∈ s.groups, group.groupId = envelope.recipientUserId :=
    fun ⟨group, hmem, heq⟩ => hone group hmem heq
  unfold coreOutboundRelayRows
  rw [hgate, if_neg (by decide), refuseWhen_neg hnone]
  show Except.ok (_ ++ []) = _
  rw [append_nil]

/-- The sender's plan and the recipient's reading agree. -/
theorem fanout_agrees (hgate : s.linkGateAllows .advertise = true)
    (hone : ∀ group ∈ s.groups, group.groupId ≠ envelope.recipientUserId) :
    (∀ roster root quarantined, Holds P s envelope.recipientUserId ⟨some roster, quarantined⟩ →
      ValidRoster P roster root → 2 ≤ (roster.deviceIds P).length →
      ((roster.deviceIds P).map (deviceFanoutMsgId P envelope.msgId)).Nodup →
      FanoutAgrees P s own envelope roster) ∧
    ((s.contactActiveDeviceIds envelope.recipientUserId).length < 2 →
      StoredRowAgrees P s own envelope) := by
  refine ⟨?_, ?_⟩
  · intro roster root quarantined hholds hvalid hmany hmsgIds
    have hknown := contactActiveDeviceIds_of_holds hholds
    have hrows : s.coreOutboundRelayRows P envelope own none = .ok
        (coreDeviceFanoutRows P envelope.msgId envelope.recipientUserId (roster.deviceIds P)
          envelope.hopTtl envelope.expiry envelope.body envelope.timestamp) := by
      rw [plannedRows hgate hone, hknown, if_neg (Nat.not_lt.mpr hmany)]
    refine ⟨_, hrows, length_map _, ?_, ?_⟩
    · rw [coreDeviceFanoutRows, map_map]
      exact hmsgIds
    intro nowMs hclock hdistinct
    refine ⟨?_, ?_⟩
    · rw [coreDeviceFanoutRows, map_map]
      refine List.Nodup.map_on ?_ hvalid.devices_nodup
      -- the hints of two devices of a roster differ on the day of the envelope
      intro a ha b hb heq
      replace heq : computeRecipientHint P _ _ = computeRecipientHint P _ _ := heq
      have hns := hdistinct.hints _ (mem_cons_of_mem _ (mem_map_of_mem ha)) _
        (mem_cons_of_mem _ (mem_map_of_mem hb)) _ (recentHint_of_window hclock _)
        (heq ▸ recentHint_of_window hclock _)
      exact inj_on_of_nodup_map (nodup_cons.mp hdistinct.nodup).2 ha hb hns
    · intro self hself r hfleet hgroups
      exact readsOneRow_of_fleet hvalid hself hfleet hgroups hclock
  · intro hfew
    refine ⟨?_, ?_⟩
    · rw [plannedRows hgate hone, if_pos hfew]
    intro nowMs hclock hhint r hsolo
    have hmem : envelope.recipientUserId ∈ r.ownIds P envelope.recipientUserId := by
      rw [ownIds, if_neg (Nat.not_le.mpr hsolo)]
      exact mem_cons_of_mem _ mem_cons_self
    refine classify_own hmem ?_
    show RecentHint P _ nowMs envelope.recipientHint
    rw [hhint]
    exact recentHint_of_window hclock _

end Agreement

namespace Sample

/-- The store of a sender, with the roster of two that the person published. -/
def senderStore : Store :=
  { contactRosters := [headerRow primitives pairRoster false]
    contactDevices := deviceRows primitives pairRoster }

/-- A letter to the person. -/
def letter : OutboundEnvelope where
  msgId := secretKey 40
  recipientUserId := person
  chatId := person
  senderUserId := secretKey 41
  kind := 1
  lamport := 1
  timestamp := noon
  hopTtl := 6
  expiry := noon + defaultExpiryMs
  recipientHint := computeRecipientHint primitives person noon
  body := [1, 2, 3]

theorem pairFleetStore_distinct_groups : HintsDistinct primitives
    (personIds primitives person (pairRoster.deviceIds primitives) ++ pairFleetStore.groupIds)
    noon :=
  pairNames_distinct.sublist (by decide +kernel)

end Sample

open Sample in
/-- The letter goes out as two rows of which the first device reads one; from a store that
knows no devices it goes out as it is stored. -/
theorem fanout_agrees_letter :
    (∃ rows, senderStore.coreOutboundRelayRows primitives letter (secretKey 41) none = .ok rows ∧
      rows.length = 2 ∧ ReadsOneRow primitives pairFleetStore person noon rows) ∧
    StoredRowAgrees primitives {} (secretKey 41) letter := by
  have hclock : WithinWindow noon letter.timestamp := ⟨by decide, by decide⟩
  have hpair : FanoutAgrees primitives senderStore (secretKey 41) letter pairRoster :=
    (fanout_agrees (by decide) (by decide)).1 pairRoster personRoot false
      ⟨rfl, by decide +kernel, by decide +kernel, by decide +kernel⟩
      (validate_eq_ok_iff.mp (by decide +kernel)) (by decide) (by decide +kernel)
  obtain ⟨rows, hrows, hlength, _, hread⟩ := hpair
  have hdistinct := pairFleetStore_distinct_groups.sublist (sublist_append_left _ _)
  refine ⟨⟨rows, hrows, hlength, ?_⟩, (fanout_agrees (by decide) (by decide)).2 (by decide)⟩
  exact (hread noon hclock hdistinct).2 (primitives.deriveUserId deviceKey) (by decide +kernel)
    pairFleetStore (by decide +kernel) pairFleetStore_distinct_groups

open Sample in
/-- A sender that is still being linked plans no row, one that is handed a body for its
own siblings plans rows for them too, and a recipient with a sibling does not take the row
of a sender that does not know its devices for its own. -/
theorem planned_rows_not_per_device :
    (senderStore.contactActiveDeviceIds person).length = 2 ∧
    ({ senderStore with linkActivation := some { stage := .awaitingRosterAck } } :
      Store).coreOutboundRelayRows primitives letter (secretKey 41) none = .ok [] ∧
    (({ senderStore with ownFleet := [⟨secretKey 50, 0, true⟩, ⟨secretKey 51, 1, false⟩] } :
      Store).coreOutboundRelayRows primitives letter (secretKey 41) (some [9])).toOption.map
        List.length = some 3 ∧
    (({} : Store).coreOutboundRelayRows primitives letter (secretKey 41) none = .ok
        [letter.storedRow] ∧
      (pairFleetStore.ownFleetHints primitives person noon).classify
        letter.storedRow.recipientHint = .personShared) :=
  ⟨by decide +kernel, by decide +kernel, by decide +kernel, by decide +kernel, by decide +kernel⟩

end CruiseMesh
