import CruiseMesh.Inbound.Invites

/-!
# Applied

A delivery that reports `Applied` says that every effect the body implies is committed, and on
its word the envelope's id is marked as seen. `EffectCommitted` says what the effect is for the
five kinds that stand for a change of state beyond the row that is stored, in terms of the
function that makes the change. `applied_commits_iff` says when a delivery that reports
`Applied` has committed it.

Two kinds have no arm of their own. A group's metadata update and a friend directory are stored
as rows, and what they say is not done.
-/

namespace CruiseMesh
open Durable Prog Latest GroupsOrder Table Store
variable {τ : Type} {view : InboundStore → τ}
  {P : Primitives} {R : InboundReaders} {w : Surroundings} {m : Inbound}
  {body : ExtendedMessageBody} {s s' : InboundStore} {delivery : CoreInboundDelivery}

/-! ## What a kind stands for -/

/-- The watermark that a receipt from this sender brings is stored. -/
def Inbound.Acknowledged (m : Inbound) (receipt : ReceiptContent) (s : InboundStore) : Prop :=
  match receipt.groupId with
  | some groupId => asI64 receipt.lamport ≤ asI64 (s.groupReceiptThrough groupId m.identity.userId
      m.senderUserId receipt.receiptType)
  | none => asI64 receipt.lamport ≤ asI64 (s.receiptThrough m.senderUserId m.identity.userId
      receipt.receiptType)

/-- What a relay update changes: the contacts, and the marks of the mail for them. -/
def Store.relayView (s : Store) : List ContactRow × List OutboundEnvelopeRow :=
  (s.contacts, s.outboundEnvelopes)

/-- It also clears marks of receipts. One that is queued afterwards has no mark, so no mark is
left that the update does not leave. -/
def Store.MarksOf (after s : Store) : Prop :=
  ∀ row ∈ s.outgoingReceiptEnvelopes, row.relayPostedAt ≠ none →
    row ∈ after.outgoingReceiptEnvelopes

/-- The change that a body's kind stands for is made. -/
structure EffectCommitted (P : Primitives) (R : InboundReaders) (m : Inbound)
    (body : ExtendedMessageBody) (s s' : InboundStore) : Prop where
  metadata : body.kind = kindGroupMetadataUpdate → ∀ update group after,
    decodeGroupMetadataUpdate body.content = .ok update → s.getGroup body.chatId = some group →
    applyGroupMetadataUpdate group update m.senderUserId = .ok after →
      s'.getGroup body.chatId = some (after.getD group)
  directory : body.kind = kindFriendDirectory → ∀ content,
    decodeFriendDirectoryContent P R body.content = .ok content →
      s'.suggestions = ((applyFriendDirectory P m.senderUserId m.identity.userId content
        m.arrival.receivedAt).final s).suggestions
  receipt : body.kind = kindReceipt → ∀ receipt,
    decodeReceiptContent body.content = .ok receipt → receipt.senderUserId = m.identity.userId →
      m.Acknowledged receipt s'
  relay : body.kind = kindRelayUpdate → ∀ content,
    decodeRelayUpdateContent body.content = .ok content →
      let after := (applyContactRelayUpdate m.senderUserId content m.arrival.receivedAt).final
        s.toStore
      s'.relayView = after.relayView ∧ after.MarksOf s'.toStore
  invite : body.kind = kindGroupInvite → ∀ group,
    decodeGroupInviteContent body.content = .ok group → s'.getGroup group.id = some group

/-- Nothing keeps the delivery of a body from making the change. -/
structure Unhindered (P : Primitives) (R : InboundReaders) (w : Surroundings) (m : Inbound)
    (body : ExtendedMessageBody) (s : InboundStore) : Prop where
  metadata : body.kind = kindGroupMetadataUpdate → ∀ update group after,
    decodeGroupMetadataUpdate body.content = .ok update → s.getGroup body.chatId = some group →
      applyGroupMetadataUpdate group update m.senderUserId ≠ .ok (some after)
  directory : body.kind = kindFriendDirectory → ∀ content,
    decodeFriendDirectoryContent P R body.content = .ok content →
      ((applyFriendDirectory P m.senderUserId m.identity.userId content
        m.arrival.receivedAt).final s).suggestions = s.suggestions
  receipt : body.kind = kindReceipt → ∀ receipt,
    decodeReceiptContent body.content = .ok receipt → receipt.senderUserId = m.identity.userId →
      m.pairwise = true ∨ m.Acknowledged receipt s
  relay : body.kind = kindRelayUpdate → ∀ content,
    decodeRelayUpdateContent body.content = .ok content →
      m.pairwise = true ∧ w.faults .relayUpdate = none ∨
        ((applyContactRelayUpdate m.senderUserId content m.arrival.receivedAt).final
          s.toStore).relayView = s.relayView
  invite : body.kind = kindGroupInvite → ∀ group,
    decodeGroupInviteContent body.content = .ok group →
      m.pairwise = true ∧ (∀ held, s.getGroup group.id = some held → ¬ held.Amended) ∨
        s.getGroup group.id = some group

/-! ## Bodies that are only stored -/

/-- A body without an arm of its own changes nothing that storing and answering do not. -/
theorem view_of_stored (hstoring : StoringFrame view) (hanswering : AnsweringFrame view)
    (hpass : passingBody w m s = some body) (harm : deliveryArm m.pairwise body.kind = .other) :
    view ((coreDeliverInbound P R w m).final s) = view s := by
  have happly : applyBody P R w m body = deliverStored P w m body := by
    unfold applyBody
    rw [harm]
  have hkeeps : (deliverPastGates P R w m body).Keeps view := by
    unfold deliverPastGates
    rw [happly]
    refine keeps_bind ?_ fun _ => keeps_bind
      (keeps_durably (keeps_answerWithReceipt hanswering)) fun _ => keeps_pure _
    exact keeps_bind (keeps_durably (keeps_persistInbound hstoring)) fun _ => keeps_pure _
  rw [final_coreDeliverInbound, hpass]
  exact hkeeps.final s

theorem deliveryArm_of_not_pairwise (h : m.pairwise = false) (kind : UInt8) :
    deliveryArm m.pairwise kind = .other := by
  rw [h]
  rfl

/-! ## Receipts -/

/-- A watermark that was raised is no lower than what it was raised to. -/
theorem le_raised (rank : Nat → Int) (held throughLamport : Nat) : rank throughLamport ≤
    rank (if rank held < rank throughLamport then throughLamport else held) := by
  split
  · exact le_refl _
  · rename_i hle
    exact not_lt.mp hle

theorem le_raiseGroupReceipt (s : InboundStore) (row : GroupReceiptRow) :
    asI64 row.throughLamport ≤ asI64 ((s.raiseGroupReceipt row).groupReceiptThrough row.groupId
      row.authorUserId row.memberUserId row.receiptType) := by
  unfold InboundStore.groupReceiptThrough InboundStore.raiseGroupReceipt
  rw [lookup_upsert]
  simp only [GroupReceiptRow.subject, if_true, Option.map_some, Option.getD_some]
  cases lookup GroupReceiptRow.subject
      (row.groupId, row.authorUserId, row.memberUserId, row.receiptType) s.groupReceipts with
  | none => exact le_refl _
  | some held => exact le_raised asI64 held.throughLamport row.throughLamport

variable {senderUserId : Bytes} {receipt : ReceiptContent} {group : Group}

/-- The retirement that follows does not touch the watermarks. -/
theorem receipts_recordReceipt {chatId : Bytes} {receiptType : UInt8} {throughLamport : Nat}
    {s s' : Store}
    (h : (recordReceipt chatId senderUserId receiptType throughLamport).Returns s () s') :
    s'.receipts = (s.raiseReceipt chatId senderUserId receiptType throughLamport).receipts := by
  obtain ⟨_, _, htx⟩ := returns_lift_bind.mp h
  obtain ⟨_, raised, hraise, hrest⟩ := Tx.bind_eq_ok.mp (returns_transaction.mp htx)
  obtain ⟨_, rfl⟩ := ok_pair_inj hraise
  split at hrest
  · obtain ⟨_, mid, hget, hretire⟩ := Tx.bind_eq_ok.mp hrest
    cases hget
    obtain ⟨_, rfl⟩ := ok_pair_inj hretire
    have hkeeps : ∀ n, (retireReceiptCovered chatId senderUserId n).Keeps (·.receipts) :=
      fun n => keeps_retireReceiptCovered (fun _ _ => rfl) _ _ n
    exact (hkeeps _).final _
  · obtain ⟨_, rfl⟩ := ok_pair_inj hrest
    rfl

theorem acknowledged_takeReceipt (h : (takeReceipt w m receipt).Returns s () s') :
    m.Acknowledged receipt s' := by
  obtain ⟨_, h⟩ := Faults.returns_call.mp h
  unfold Inbound.Acknowledged
  cases hgroup : receipt.groupId with
  | some groupId =>
    rw [hgroup] at h
    obtain ⟨_, _, h⟩ := returns_lift_bind.mp h
    obtain ⟨_, _, h⟩ := returns_lift_bind.mp h
    obtain rfl := returns_write.mp h
    exact le_raiseGroupReceipt s
      { groupId, authorUserId := m.identity.userId, memberUserId := m.senderUserId
        receiptType := receipt.receiptType, throughLamport := receipt.lamport }
  | none =>
    rw [hgroup] at h
    have hfinal : s' = _ := (h.2.symm.trans final_liftStore)
    have hreceipts := receipts_recordReceipt ⟨h.1, rfl⟩
    subst hfinal
    rw [receiptThrough_eq, hreceipts]
    unfold raiseReceipt
    rw [lookup_upsert]
    simp only [ReceiptRow.subject, if_true, Option.map_some, Option.getD_some]
    cases lookup ReceiptRow.subject _ s.receipts with
    | none => exact le_refl _
    | some held => exact le_raised asI64 held.throughLamport receipt.lamport

/-! ## Relay updates -/

theorem storingFrame_relayView : StoringFrame fun s : InboundStore => s.relayView :=
  ⟨fun _ _ _ => rfl, fun _ _ _ => rfl⟩

theorem storingFrame_receipts :
    StoringFrame fun s : InboundStore => s.outgoingReceiptEnvelopes :=
  ⟨fun _ _ _ => rfl, fun _ _ _ => rfl⟩

theorem answeringFrame_relayView : AnsweringFrame fun s : InboundStore => s.relayView :=
  fun _ _ _ => rfl

/-- An update that takes effect changes the contact. -/
theorem contacts_moving_ne {content : RelayUpdateContent} {userId : Bytes} {nowMs : Int} {s : Store}
    (h : content.Takes userId nowMs s.contacts) : (s.moving userId content).contacts ≠ s.contacts := by
  intro hsame
  obtain ⟨row, hrow, hkey, hnewer⟩ := h.newer
  have hkept := List.map_inj_left.mp (hsame.trans s.contacts.map_id.symm) row hrow
  dsimp only at hkept
  rw [if_pos hkey, if_pos hnewer] at hkept
  have hepoch : content.relayEpoch.toNat = row.relayEpoch := congrArg ContactRow.relayEpoch hkept
  omega

theorem marksOf_authorReceipt {contact : Contact} {acked : Bytes} {receiptType : UInt8}
    {through : Nat} {timestampMs : Int} {draw : AuthorDraw} {sent : Option AuthoredReceipt}
    {s s' : Store} (h : (authorReceipt P m.identity contact acked receiptType through timestampMs
      draw).Returns s sent s') : s.MarksOf s' := by
  intro row hrow hposted
  replace h := returns_inspect_bind.mp h
  obtain ⟨_, _, h⟩ := returns_lift_bind.mp h
  obtain ⟨_, _, h⟩ := returns_lift_bind.mp h
  obtain ⟨_, _, h⟩ := returns_lift_bind.mp h
  replace h := (Tx.get_bind _ _).symm.trans (returns_transaction.mp h)
  split at h
  · rw [(ok_pair_inj h).2]
    exact hrow
  · obtain ⟨envelope, mid, _, hset⟩ := Tx.bind_eq_ok.mp h
    rw [← (ok_pair_inj hset).2] at hrow
    rcases mem_upsert hrow with hold | rfl
    · exact hold
    · exact absurd rfl hposted

/-- Answering leaves no new mark. -/
theorem marksOf_answerWithReceipt {receiptFloor : Nat}
    (h : (answerWithReceipt P w m body receiptFloor).Returns s () s') :
    s.toStore.MarksOf s'.toStore := by
  unfold answerWithReceipt at h
  split at h
  · obtain ⟨contact, mid, hread, h⟩ := returns_bind.mp h
    obtain ⟨rfl, rfl⟩ := returns_inspect.mp (Faults.returns_call.mp hread).2
    cases hcontact : s.getContact m.senderUserId with
    | none =>
      rw [hcontact] at h
      rw [(returns_pure.mp h).2]
      exact fun _ hrow _ => hrow
    | some contact =>
      rw [hcontact] at h
      obtain ⟨highest, mid, hread, h⟩ := returns_bind.mp h
      obtain ⟨rfl, rfl⟩ := returns_inspect.mp (Faults.returns_call.mp hread).2
      obtain ⟨sent, mid, hauthor, h⟩ := returns_bind.mp h
      obtain ⟨_, rfl⟩ := returns_pure.mp h
      obtain ⟨_, hresult, hfinal⟩ := Faults.returns_call.mp hauthor
      rw [← hfinal, final_liftStore]
      exact marksOf_authorReceipt ⟨hresult, rfl⟩
  · rw [(returns_pure.mp h).2]
    exact fun _ hrow _ => hrow

/-! ## Groups -/

/-- An update that changes the group gives another group. -/
theorem applyGroupMetadataUpdate_ne {after : Group} {update : GroupMetadataUpdate}
    (h : applyGroupMetadataUpdate group update senderUserId = .ok (some after)) :
    after ≠ group := by
  obtain ⟨_, _, h⟩ := bind_eq_ok.mp h
  obtain ⟨_, _, h⟩ := bind_eq_ok.mp h
  obtain ⟨_, _, h⟩ := bind_eq_ok.mp h
  obtain ⟨_, _, h⟩ := bind_eq_ok.mp h
  obtain ⟨_, _, h⟩ := bind_eq_ok.mp h
  obtain ⟨_, _, h⟩ := bind_eq_ok.mp h
  split at h
  · cases h
  rename_i hchanges
  cases Except.ok.inj h
  intro hsame
  have hmembers := congrArg Group.memberUserIds hsame
  have hrevision := congrArg Group.metadataRevision hsame
  have hchangedBy := congrArg Group.metadataChangedBy hsame
  dsimp only at hmembers hrevision hchangedBy
  refine hchanges ⟨hmembers, fun hwins => ?_⟩
  rw [if_pos hwins] at hrevision hchangedBy
  rcases hwins with hlater | ⟨_, hby⟩
  · omega
  · rw [hchangedBy] at hby
    exact List.lt_irrefl _ hby

/-- What is stored of an invite that came to this person alone. -/
theorem getGroup_invite_iff (hbrought : broughtGroup w m s = some group) :
    ((coreDeliverInbound P R w m).final s).getGroup group.id = some group ↔
      (∀ held, s.getGroup group.id = some held → ¬ held.Amended) ∨
        s.getGroup group.id = some group := by
  have holder : ∀ held, older group held ↔ held.Amended := by
    intro held
    conv_lhs => rw [← (broughtGroup_fields hbrought).2]
    exact older_invited group held
  rw [getGroup_deliver, hbrought]
  dsimp only
  rw [if_pos rfl]
  by_cases hkeep : ∃ held ∈ s.getGroup group.id, older group held
  · obtain ⟨held, hheld, hold⟩ := hkeep
    rw [Option.mem_def.mp hheld, keepLatest_of_older hold]
    constructor
    · exact .inr
    · rintro (hnever | hsame)
      · exact absurd ((holder held).mp hold) (hnever held rfl)
      · exact hsame
  · have hnew : ∀ held ∈ s.getGroup group.id, ¬ older group held :=
      fun held hheld hold => hkeep ⟨held, hheld, hold⟩
    rw [keepLatest_of_not_older hnew]
    refine iff_of_true rfl (.inl fun held hheld hamended => ?_)
    exact hnew held hheld ((holder held).mpr hamended)

/-! ## The whole -/

/-- The groups are as they were when the body is only stored. -/
theorem getGroup_of_stored (hpass : passingBody w m s = some body)
    (harm : deliveryArm m.pairwise body.kind = .other) (groupId : Bytes) :
    ((coreDeliverInbound P R w m).final s).getGroup groupId = s.getGroup groupId := by
  have hframe : StoringFrame fun s : InboundStore => s.groupTables :=
    ⟨fun _ _ _ => rfl, fun _ _ _ => rfl⟩
  exact getGroup_congr (view_of_stored hframe (fun _ _ _ => rfl) hpass harm) groupId

section Whole
variable (h : (coreDeliverInbound P R w m).Returns s delivery s')
  (happlied : delivery.verdict = .applied) (hbody : decodeExtendedMessageBody m.payload = .ok body)

include h happlied hbody

/-- The body passed the gates, its arm ran to the end, and so did the answer. -/
theorem arm_of_applied : ∃ outcome mid, passingBody w m s = some body ∧
    (applyBody P R w m body).Returns s outcome mid ∧
    (answerWithReceipt P w m body outcome.receiptFloor).Returns mid () s' := by
  obtain ⟨found, outcome, mid, hpass, harm, hanswer, _⟩ := returns_applied h happlied
  cases (passingBody_eq_some.mp hpass).1.symm.trans hbody
  exact ⟨outcome, mid, hpass, harm, hanswer⟩

theorem passing_of_applied : passingBody w m s = some body := by
  obtain ⟨_, _, hpass, _⟩ := arm_of_applied h happlied hbody
  exact hpass

/-- A receipt that came to this person alone is recorded. -/
theorem acknowledged_of_applied (hkind : body.kind = kindReceipt)
    (hpairwise : m.pairwise = true) (hreceipt : decodeReceiptContent body.content = .ok receipt) :
    m.Acknowledged receipt s' := by
  obtain ⟨outcome, mid, _, harm, hanswer⟩ := arm_of_applied h happlied hbody
  have happly : applyBody P R w m body = deliverReceipt w m body := by
    unfold applyBody
    rw [hpairwise, hkind]
    rfl
  have hsilent : answerWithReceipt P w m body outcome.receiptFloor = pure () := by
    unfold answerWithReceipt
    rw [if_neg fun hsends => hsends.2 hkind]
  rw [hsilent, returns_pure] at hanswer
  obtain ⟨_, rfl⟩ := hanswer
  rw [happly] at harm
  obtain ⟨taken, hdecode, harm⟩ := returns_lift_bind.mp harm
  obtain rfl := Except.ok.inj ((decoded_eq_ok.mp hdecode).symm.trans hreceipt)
  obtain ⟨_, _, harm⟩ := returns_lift_bind.mp harm
  obtain ⟨_, mid', htake, harm⟩ := returns_bind.mp harm
  obtain ⟨_, rfl⟩ := returns_pure.mp harm
  exact acknowledged_takeReceipt (returns_durably.mp htake)

/-- A relay update that came to this person alone is made, unless the database fails at it. -/
theorem relay_of_applied (hkind : body.kind = kindRelayUpdate) (hpairwise : m.pairwise = true)
    {content : RelayUpdateContent} (hcontent : decodeRelayUpdateContent body.content = .ok content) :
    let after := if w.faults .relayUpdate = none then
      (applyContactRelayUpdate m.senderUserId content m.arrival.receivedAt).final s.toStore
      else s.toStore
    s'.relayView = after.relayView ∧ after.MarksOf s'.toStore := by
  obtain ⟨outcome, mid, _, harm, hanswer⟩ := arm_of_applied h happlied hbody
  have happly : applyBody P R w m body = deliverRelayUpdate P w m body := by
    unfold applyBody
    rw [hpairwise, hkind]
    rfl
  have hanswered : s'.relayView = mid.relayView :=
    (keeps_answerWithReceipt answeringFrame_relayView).returns hanswer
  have hmarks : mid.toStore.MarksOf s'.toStore := marksOf_answerWithReceipt hanswer
  unfold Store.MarksOf at hmarks ⊢
  rw [happly] at harm
  obtain ⟨taken, hdecode, harm⟩ := returns_lift_bind.mp harm
  obtain rfl := Except.ok.inj ((decoded_eq_ok.mp hdecode).symm.trans hcontent)
  obtain ⟨_, kept, hpersist, harm⟩ := returns_bind.mp harm
  have hkept : kept.relayView = s.relayView :=
    (keeps_persistInbound storingFrame_relayView).returns (returns_durably.mp hpersist)
  have hreceipts : kept.outgoingReceiptEnvelopes = s.outgoingReceiptEnvelopes :=
    (keeps_persistInbound storingFrame_receipts).returns (returns_durably.mp hpersist)
  obtain ⟨_, moved, hattempt, harm⟩ := returns_bind.mp harm
  obtain ⟨_, rfl⟩ := returns_pure.mp harm
  obtain ⟨_, hmoved⟩ := returns_attempt.mp hattempt
  rw [← hmoved, Faults.final_call] at hmarks hanswered
  rw [hanswered]
  by_cases hfault : w.faults .relayUpdate = none
  · rw [if_pos hfault, final_liftStore] at hmarks ⊢
    rw [if_pos hfault]
    obtain ⟨hcontacts, houtbound⟩ := Prod.mk.inj hkept
    by_cases htakes : taken.Takes m.senderUserId m.arrival.receivedAt kept.contacts
    · rw [(returns_applyContactRelayUpdate htakes).2] at hmarks ⊢
      rw [(returns_applyContactRelayUpdate (hcontacts ▸ htakes)).2]
      unfold relayView unposting moving
      unfold unposting moving at hmarks
      rw [hreceipts] at hmarks
      rw [hcontacts, houtbound]
      exact ⟨rfl, hmarks⟩
    · rw [(final_applyContactRelayUpdate_of_not htakes).1] at hmarks ⊢
      rw [(final_applyContactRelayUpdate_of_not (hcontacts ▸ htakes)).1]
      exact ⟨hkept, hreceipts ▸ hmarks⟩
  · rw [if_neg hfault] at hmarks ⊢
    rw [if_neg hfault]
    exact ⟨hkept, hreceipts ▸ hmarks⟩

/-- An invite that came to this person alone gets to the store. -/
theorem brought_of_applied (hkind : body.kind = kindGroupInvite)
    (hpairwise : m.pairwise = true) (hgroup : decodeGroupInviteContent body.content = .ok group) :
    broughtGroup w m s = some group := by
  obtain ⟨_, _, hpass, harm, _⟩ := arm_of_applied h happlied hbody
  have hinviteArm : deliveryArm m.pairwise body.kind = .groupInvite := by
    rw [hkind]
    exact deliveryArm_groupInvite.mpr hpairwise
  have happly : applyBody P R w m body = deliverGroupInvite P w m body := by
    unfold applyBody
    rw [hinviteArm]
  rw [happly] at harm
  obtain ⟨taken, hinvite, harm⟩ := returns_lift_bind.mp harm
  obtain rfl := Except.ok.inj ((inviteGroup_eq_ok.mp hinvite).1.symm.trans hgroup)
  obtain ⟨_, mid', hupsert, _⟩ := returns_bind.mp harm
  have hfault := (Faults.returns_call.mp (returns_durably.mp hupsert)).1
  exact broughtGroup_eq_some.mpr ⟨body, hpass, hinviteArm, hfault, hinvite⟩

/-- What storing and answering leave alone is as it was, for a body that is only stored. -/
theorem view_of_applied (hstoring : StoringFrame view) (hanswering : AnsweringFrame view)
    (harm : deliveryArm m.pairwise body.kind = .other) : view s' = view s := by
  rw [← h.2]
  exact view_of_stored hstoring hanswering (passing_of_applied h happlied hbody) harm

theorem receipt_committed_iff (hkind : body.kind = kindReceipt) {receipt : ReceiptContent}
    (hreceipt : decodeReceiptContent body.content = .ok receipt) :
    m.Acknowledged receipt s' ↔ m.pairwise = true ∨ m.Acknowledged receipt s := by
  cases hpairwise : m.pairwise with
  | true =>
    exact iff_of_true (acknowledged_of_applied h happlied hbody hkind hpairwise hreceipt) (.inl rfl)
  | false =>
    have hview : m.Acknowledged receipt s' = m.Acknowledged receipt s :=
      view_of_applied h happlied hbody ⟨fun _ _ _ => rfl, fun _ _ _ => rfl⟩ (fun _ _ _ => rfl)
        (deliveryArm_of_not_pairwise hpairwise _)
    simp [hview]

theorem relay_committed_iff (hkind : body.kind = kindRelayUpdate) {content : RelayUpdateContent}
    (hcontent : decodeRelayUpdateContent body.content = .ok content) :
    let after := (applyContactRelayUpdate m.senderUserId content m.arrival.receivedAt).final s.toStore
    s'.relayView = after.relayView ∧ after.MarksOf s'.toStore ↔
      m.pairwise = true ∧ w.faults .relayUpdate = none ∨ after.relayView = s.relayView := by
  intro after
  -- an update that leaves the contacts alone has not taken effect, and left everything alone
  have hidle : after.relayView = s.relayView → after = s.toStore := by
    intro hsame
    by_contra hne
    have htakes := not_not.mp (mt (fun hnot => (final_applyContactRelayUpdate_of_not hnot).1) hne)
    have hafter : after = _ := (returns_applyContactRelayUpdate htakes).2
    rw [hafter] at hsame
    exact contacts_moving_ne htakes (congrArg Prod.fst hsame)
  cases hpairwise : m.pairwise with
  | true =>
    have hdone := relay_of_applied h happlied hbody hkind hpairwise hcontent
    by_cases hfault : w.faults .relayUpdate = none
    · rw [if_pos hfault] at hdone
      exact iff_of_true hdone (.inl ⟨rfl, hfault⟩)
    · rw [if_neg hfault] at hdone
      refine ⟨fun hmade => .inr (hmade.1.symm.trans hdone.1), ?_⟩
      rintro (⟨_, hnone⟩ | hsame)
      · exact absurd hnone hfault
      · rw [hidle hsame]
        exact hdone
  | false =>
    obtain ⟨_, mid, _, harm, hanswer⟩ := arm_of_applied h happlied hbody
    have hother := deliveryArm_of_not_pairwise hpairwise body.kind
    have hview : s'.relayView = s.relayView :=
      view_of_applied h happlied hbody storingFrame_relayView answeringFrame_relayView hother
    refine ⟨fun hmade => .inr (hmade.1.symm.trans hview), ?_⟩
    rintro (⟨hnot, _⟩ | hsame)
    · cases hnot
    rw [hidle hsame]
    refine ⟨hview, fun row hrow hposted => ?_⟩
    have happly : applyBody P R w m body = deliverStored P w m body := by
      unfold applyBody
      rw [hother]
    rw [happly] at harm
    obtain ⟨_, kept, hpersist, hpure⟩ := returns_bind.mp harm
    obtain ⟨_, rfl⟩ := returns_pure.mp hpure
    have hreceipts : kept.outgoingReceiptEnvelopes = s.outgoingReceiptEnvelopes :=
      (keeps_persistInbound storingFrame_receipts).returns (returns_durably.mp hpersist)
    exact hreceipts ▸ marksOf_answerWithReceipt hanswer row hrow hposted

theorem invite_committed_iff (hkind : body.kind = kindGroupInvite) {group : Group}
    (hgroup : decodeGroupInviteContent body.content = .ok group) :
    s'.getGroup group.id = some group ↔
      m.pairwise = true ∧ (∀ held, s.getGroup group.id = some held → ¬ held.Amended) ∨
        s.getGroup group.id = some group := by
  rw [← h.2]
  cases hpairwise : m.pairwise with
  | true =>
    rw [getGroup_invite_iff (brought_of_applied h happlied hbody hkind hpairwise hgroup)]
    simp
  | false =>
    rw [getGroup_of_stored (passing_of_applied h happlied hbody)
      (deliveryArm_of_not_pairwise hpairwise _)]
    simp

/-- **A delivery that reports `Applied` has made the change that the kind of the body stands for
exactly when nothing hindered it**: a receipt, a relay update and an invite came to this person
alone, the update's transaction did not fail, the invite found no group that had been changed,
and a metadata update or a friend directory had nothing to change. -/
theorem applied_commits_iff : EffectCommitted P R m body s s' ↔ Unhindered P R w m body s := by
  have hgroups : body.kind = kindGroupMetadataUpdate →
      s'.getGroup body.chatId = s.getGroup body.chatId := by
    intro hkind
    have harm : deliveryArm m.pairwise body.kind = .other := by
      rw [hkind]
      cases m.pairwise <;> rfl
    rw [← h.2]
    exact getGroup_of_stored (passing_of_applied h happlied hbody) harm _
  have hsuggestions : body.kind = kindFriendDirectory → s'.suggestions = s.suggestions := by
    intro hkind
    have harm : deliveryArm m.pairwise body.kind = .other := by
      rw [hkind]
      cases m.pairwise <;> rfl
    exact view_of_applied h happlied hbody ⟨fun _ _ _ => rfl, fun _ _ _ => rfl⟩ (fun _ _ _ => rfl)
      harm
  constructor
  · intro hdone
    refine ⟨?_, ?_, ?_, ?_, ?_⟩
    · intro hkind update group after hupdate hgroup hafter
      have hsame := hdone.metadata hkind update group _ hupdate hgroup hafter
      rw [hgroups hkind, hgroup] at hsame
      exact applyGroupMetadataUpdate_ne hafter (Option.some.inj hsame).symm
    · intro hkind content hcontent
      rw [← hdone.directory hkind content hcontent]
      exact hsuggestions hkind
    · intro hkind receipt hreceipt hself
      exact (receipt_committed_iff h happlied hbody hkind hreceipt).mp
        (hdone.receipt hkind receipt hreceipt hself)
    · intro hkind content hcontent
      exact (relay_committed_iff h happlied hbody hkind hcontent).mp
        (hdone.relay hkind content hcontent)
    · intro hkind group hgroup
      exact (invite_committed_iff h happlied hbody hkind hgroup).mp
        (hdone.invite hkind group hgroup)
  · intro hfree
    refine ⟨?_, ?_, ?_, ?_, ?_⟩
    · intro hkind update group after hupdate hgroup hafter
      cases after with
      | none => rw [hgroups hkind, hgroup, Option.getD_none]
      | some after => exact absurd hafter (hfree.metadata hkind update group after hupdate hgroup)
    · intro hkind content hcontent
      rw [hfree.directory hkind content hcontent]
      exact hsuggestions hkind
    · intro hkind receipt hreceipt hself
      exact (receipt_committed_iff h happlied hbody hkind hreceipt).mpr
        (hfree.receipt hkind receipt hreceipt hself)
    · intro hkind content hcontent
      exact (relay_committed_iff h happlied hbody hkind hcontent).mpr
        (hfree.relay hkind content hcontent)
    · intro hkind group hgroup
      exact (invite_committed_iff h happlied hbody hkind hgroup).mpr
        (hfree.invite hkind group hgroup)

end Whole

section Example
open Sample Wire

/-- The person 2 has got the messages of the person 1 up to the third. -/
def receiptBody : MessageBody where
  kind := kindReceipt
  chatId := userNumber 2
  lamport := 0
  timestamp := 5
  content := (encodeReceiptContent
    { chatId := userNumber 2, senderUserId := userNumber 1, lamport := 3
      receiptType := receiptTypeDelivered, groupId := none }).toOption.getD []

/-- The receipt is reported as applied, and recorded. -/
theorem applied_commits_receipt : EffectCommitted primitives noReaders
    (arriving 2 none receiptBody)
    { kind := kindReceipt, chatId := userNumber 2, lamport := 0, timestamp := 5
      content := receiptBody.content }
    (memberDevice crew)
    ((coreDeliverInbound primitives noReaders calm (arriving 2 none receiptBody)).final
      (memberDevice crew)) := by
  have hreturns : (coreDeliverInbound primitives noReaders calm
      (arriving 2 none receiptBody)).Returns (memberDevice crew)
      ({ verdict := .applied, kind := kindReceipt } : CoreInboundDelivery) _ :=
    ⟨by decide +kernel, rfl⟩
  refine (applied_commits_iff hreturns rfl (by decide +kernel)).mpr
    ⟨nofun, nofun, fun _ _ _ _ => .inl rfl, nofun, nofun⟩

/-- The person 2 renames the crew. -/
def renameBody : MessageBody where
  kind := kindGroupMetadataUpdate
  chatId := crew.id
  lamport := 1
  timestamp := 5
  content := [1] ++ crew.id ++ beBytes 8 1 ++ (beBytes 2 16 ++ userNumber 2) ++
    (beBytes 2 5 ++ ascii "Watch") ++ beBytes 2 1 ++ (beBytes 2 16 ++ userNumber 2)

/-- A member's rename is reported as applied, and the group keeps its name. -/
theorem applied_rename_is_lost :
    let m := arriving 2 (some crew.id) renameBody
    let delivery := coreDeliverInbound primitives noReaders calm m
    (delivery.result (memberDevice crew)).map (·.verdict) = .ok .applied ∧
      ¬ EffectCommitted primitives noReaders m
        { kind := kindGroupMetadataUpdate, chatId := crew.id, lamport := 1, timestamp := 5
          content := renameBody.content }
        (memberDevice crew) (delivery.final (memberDevice crew)) := by
  refine ⟨by decide +kernel, fun h => ?_⟩
  have hrenamed := h.metadata rfl
    { groupId := crew.id, name := ascii "Watch", revision := 1, changedBy := userNumber 2
      memberUserIds := [userNumber 2] } crew
    (some { crew with
      name := ascii "Watch", metadataRevision := 1, metadataChangedBy := userNumber 2 })
    (by decide +kernel) (by decide) (by decide)
  exact absurd hrenamed (by decide +kernel)

end Example
end CruiseMesh
