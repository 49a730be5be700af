import CruiseMesh.Inbound.Deliver
import CruiseMesh.Sync.GroupsOrder

/-!
# What a delivery does

The gates read and write nothing, so a delivery is a matter of the body that gets past them:
`passingBody`. Past the gates an arm does its own work, stores the body, and the answer goes
out. Here stands what each of these parts leaves alone, and from it what the whole delivery
does to the groups: it hands one group at most to `upsert_group`, and `broughtGroup` says which.
-/

namespace CruiseMesh
open Durable Prog Faults

/-! ## Calls of the store -/

section Calls
variable {σ τ α : Type} {faults : Faults} {site : StoreCall} {p : Prog σ CoreError α} {s s' : σ}

theorem Faults.returns_call {a : α} :
    (faults.call site p).Returns s a s' ↔ faults site = none ∧ p.Returns s a s' := by
  unfold call
  cases faults site with
  | none => simp
  | some detail =>
    constructor
    · intro h
      cases h.1
    · intro h
      cases h.1

/-- A call does what it is for, or nothing. -/
theorem Faults.final_call :
    (faults.call site p).final s = if faults site = none then p.final s else s := by
  unfold call
  cases faults site with
  | none => rfl
  | some detail => rfl

theorem Faults.keeps_call {view : σ → τ} (h : p.Keeps view) : (faults.call site p).Keeps view := by
  unfold call
  cases faults site with
  | none => exact h
  | some detail => exact keeps_lift _

theorem keeps_durably {view : σ → τ} (h : p.Keeps view) : (durably p).Keeps view :=
  keeps_mapError h

theorem returns_durably {a : α} : (durably p).Returns s a s' ↔ p.Returns s a s' :=
  returns_mapError

end Calls

theorem decoded_eq_ok {α : Type} {kind : UInt8} {x : Except CoreError α} {a : α} :
    decoded kind x = .ok a ↔ x = .ok a := mapError_eq_ok

variable {τ : Type} {view : InboundStore → τ}
  {P : Primitives} {R : InboundReaders} {w : Surroundings} {m : Inbound}
  {body : ExtendedMessageBody} {s s' : InboundStore}

/-! ## The gates -/

theorem keeps_gateBody : (gateBody w m body).Keeps view := by
  refine keeps_bind ?_ fun revoked => ?_
  · unfold signerDeviceRevoked
    split
    · exact keeps_pure _
    · split
      · exact keeps_pure _
      · exact keeps_call (keeps_inspect _)
  · split
    · exact keeps_pure _
    split
    · split <;> exact keeps_pure _
    · split
      · exact keeps_pure _
      · refine keeps_bind (keeps_call (keeps_inspect _)) fun contact => ?_
        split <;> exact keeps_pure _

theorem final_gateBody : (gateBody w m body).final s = s := by
  have hkeeps : (gateBody w m body).Keeps id := keeps_gateBody
  exact hkeeps.final s

/-- The body of an envelope that gets past the gates. -/
def passingBody (w : Surroundings) (m : Inbound) (s : InboundStore) : Option ExtendedMessageBody :=
  match decodeExtendedMessageBody m.payload with
  | .error _ => none
  | .ok body =>
    match (gateBody w m body).result s with
    | .ok none => some body
    | _ => none

theorem passingBody_eq_some : passingBody w m s = some body ↔
    decodeExtendedMessageBody m.payload = .ok body ∧ (gateBody w m body).Returns s none s := by
  unfold passingBody Prog.Returns
  cases hdecode : decodeExtendedMessageBody m.payload with
  | error e => simp
  | ok found =>
    dsimp only
    split
    · rename_i hgate
      rw [Option.some.injEq, Except.ok.injEq]
      constructor
      · rintro rfl
        exact ⟨rfl, hgate, final_gateBody⟩
      · exact fun h => h.1
    · rename_i hgate
      constructor
      · intro h
        cases h
      · rintro ⟨hbody, hnone, _⟩
        cases hbody
        exact absurd hnone hgate

/-- A delivery is what follows the gates, for a body that gets past them. -/
theorem run_deliverInboundBody (h : passingBody w m s = some body) :
    (deliverInboundBody P R w m).result s = (deliverPastGates P R w m body).result s ∧
      (deliverInboundBody P R w m).final s = (deliverPastGates P R w m body).final s := by
  obtain ⟨hdecode, hgate⟩ := passingBody_eq_some.mp h
  unfold deliverInboundBody
  rw [hdecode]
  exact run_bind_of_returns (returns_durably.mpr hgate)

/-- The gates do not apply anything. -/
theorem gateBody_ne_applied : (gateBody w m body).result s ≠ .ok (some .applied) := by
  intro h
  obtain ⟨revoked, mid, _, hrest⟩ := result_bind_ok h
  split at hrest
  · cases hrest
  split at hrest
  · split at hrest <;> cases hrest
  · split at hrest
    · cases hrest
    · obtain ⟨contact, mid', _, hlast⟩ := result_bind_ok hrest
      split at hlast <;> cases hlast

/-- A body that is stopped by a gate, or does not decode, is not applied and leaves no trace. -/
theorem run_deliverInboundBody_stopped (h : passingBody w m s = none) :
    (∀ delivery, (deliverInboundBody P R w m).result s = .ok delivery →
      delivery.verdict ≠ .applied) ∧ (deliverInboundBody P R w m).final s = s := by
  unfold deliverInboundBody
  cases hdecode : decodeExtendedMessageBody m.payload with
  | error e => exact ⟨fun delivery hok => (nomatch hok), rfl⟩
  | ok body =>
    show (∀ delivery, Prog.result (durably (gateBody w m body) >>= _) s = .ok delivery → _) ∧
      Prog.final (durably (gateBody w m body) >>= _) s = s
    rcases run_bind_cases (durably (gateBody w m body)) _ s with
      ⟨e, _, hresult, hfinal⟩ | ⟨verdict, mid, hgate, hresult, hfinal⟩
    · refine ⟨fun delivery hok => ?_, hfinal.trans final_gateBody⟩
      rw [hresult] at hok
      cases hok
    have hreturns := returns_durably.mp hgate
    obtain rfl : s = mid := final_gateBody.symm.trans hreturns.2
    cases verdict with
    | none => cases h.symm.trans (passingBody_eq_some.mpr ⟨hdecode, hreturns⟩)
    | some verdict =>
      refine ⟨fun delivery hok => ?_, hfinal⟩
      rw [hresult] at hok
      cases hok
      rintro rfl
      exact gateBody_ne_applied hreturns.1

/-! ## What is reported -/

theorem run_coreDeliverInbound :
    (coreDeliverInbound P R w m).result s =
        (match (deliverInboundBody P R w m).result s with
        | .ok delivery => .ok delivery
        | .error failure => reportFailure failure) ∧
      (coreDeliverInbound P R w m).final s = (deliverInboundBody P R w m).final s := by
  have hattempt : (attempt (deliverInboundBody P R w m) : Prog InboundStore CoreError _).Returns
      s ((deliverInboundBody P R w m).result s) ((deliverInboundBody P R w m).final s) :=
    returns_attempt.mpr ⟨rfl, rfl⟩
  refine ⟨(run_bind_of_returns hattempt).1.trans ?_,
    (run_bind_of_returns hattempt).2.trans ?_⟩
  · cases (deliverInboundBody P R w m).result s with
    | ok delivery => rfl
    | error failure => rfl
  · cases (deliverInboundBody P R w m).result s with
    | ok delivery => rfl
    | error failure => rfl

/-- What a delivery leaves. -/
theorem final_coreDeliverInbound : (coreDeliverInbound P R w m).final s =
    match passingBody w m s with
    | some body => (deliverPastGates P R w m body).final s
    | none => s := by
  rw [run_coreDeliverInbound.2]
  cases h : passingBody w m s with
  | none => exact (run_deliverInboundBody_stopped h).2
  | some body => exact (run_deliverInboundBody h).2

/-- What was applied passed the gates, its arm returned, and so did the answer. -/
theorem returns_applied {delivery : CoreInboundDelivery}
    (h : (coreDeliverInbound P R w m).Returns s delivery s') (happlied : delivery.verdict = .applied) :
    ∃ body outcome mid, passingBody w m s = some body ∧
      (applyBody P R w m body).Returns s outcome mid ∧
      (answerWithReceipt P w m body outcome.receiptFloor).Returns mid () s' ∧
      delivery.kind = body.kind := by
  obtain ⟨hresult, hfinal⟩ := h
  rw [run_coreDeliverInbound.1] at hresult
  rw [run_coreDeliverInbound.2] at hfinal
  cases hrun : (deliverInboundBody P R w m).result s with
  | error failure =>
    rw [hrun] at hresult
    cases failure with
    | malformed kind =>
      obtain rfl := Except.ok.inj hresult
      cases happlied
    | durability e => cases hresult
  | ok found =>
    rw [hrun] at hresult
    obtain rfl := Except.ok.inj hresult
    cases hpass : passingBody w m s with
    | none => exact absurd happlied ((run_deliverInboundBody_stopped hpass).1 _ hrun)
    | some body =>
      obtain ⟨hres, hfin⟩ := run_deliverInboundBody (P := P) (R := R) hpass
      have hpast : (deliverPastGates P R w m body).Returns s found s' :=
        ⟨hres.symm.trans hrun, hfin.symm.trans hfinal⟩
      obtain ⟨outcome, mid, harm, hrest⟩ := returns_bind.mp hpast
      obtain ⟨_, last, hanswer, hpure⟩ := returns_bind.mp hrest
      obtain ⟨rfl, rfl⟩ := returns_pure.mp hpure
      exact ⟨body, outcome, mid, rfl, harm, returns_durably.mp hanswer, rfl⟩

/-! ## What the parts leave alone -/

/-- Nothing in `view` is written when a body is stored. -/
structure StoringFrame (view : InboundStore → τ) : Prop where
  messages : ∀ (s : InboundStore) messages lastMessageId,
    view { s with messages, lastMessageId } = view s
  conflicts : ∀ (s : InboundStore) messageConflicts lastConflictId,
    view { s with messageConflicts, lastConflictId } = view s

/-- Nothing in `view` is written when a receipt is sent. -/
def AnsweringFrame (view : InboundStore → τ) : Prop :=
  ∀ (s : InboundStore) outgoingReceipts outgoingReceiptEnvelopes,
    view { s with outgoingReceipts, outgoingReceiptEnvelopes } = view s

/-- Nothing in `view` is written by the arms, beyond storing the body, unless a group is. -/
structure ArmFrame (view : InboundStore → τ) : Prop where
  contacts : ∀ (s : InboundStore) contacts blockedIdentities,
    view { s with contacts, blockedIdentities } = view s
  rosters : ∀ (s : InboundStore) contactRosters contactDevices,
    view { s with contactRosters, contactDevices } = view s
  facts : ∀ (s : InboundStore) contactSafetyFacts lastSafetyFactId,
    view { s with contactSafetyFacts, lastSafetyFactId } = view s
  receipts : ∀ (s : InboundStore) receipts outboundEnvelopes,
    view { s with receipts, outboundEnvelopes } = view s
  queues : ∀ (s : InboundStore) outboundEnvelopes outgoingReceiptEnvelopes,
    view { s with outboundEnvelopes, outgoingReceiptEnvelopes } = view s
  groupReceipts : ∀ (s : InboundStore) groupReceipts, view { s with groupReceipts } = view s
  policies : ∀ (s : InboundStore) contactDiscoveryPolicies,
    view { s with contactDiscoveryPolicies } = view s
  avatars : ∀ (s : InboundStore) contactAvatars, view { s with contactAvatars } = view s
  pending : ∀ (s : InboundStore) pendingSharedRequests,
    view { s with pendingSharedRequests } = view s

theorem keeps_persistInbound (h : StoringFrame view) : (persistInbound P w m body).Keeps view := by
  refine keeps_bind ?_ fun stream => keeps_bind ?_ fun outcome => keeps_lift _
  · unfold boundedDeviceStream
    dsimp only
    split
    · exact keeps_pure _
    · exact keeps_bind (keeps_call (keeps_inspect _)) fun _ => keeps_pure _
  · refine keeps_call (keeps_liftStore fun s => ?_)
    refine keeps_lift_bind fun _ => ?_
    refine keeps_lift_bind fun _ => ?_
    refine keeps_lift_bind fun _ => ?_
    exact keeps_insertIncoming ⟨fun store _ _ => h.messages { s with toStore := store } _ _,
      fun store _ _ => h.conflicts { s with toStore := store } _ _⟩

theorem keeps_authorReceipt {τ : Type} {view : Store → τ} {identity : Identity} {contact : Contact}
    {acked : Bytes} {receiptType : UInt8} {through : Nat} {timestampMs : Int} {draw : AuthorDraw}
    (h : ∀ s outgoingReceipts outgoingReceiptEnvelopes,
      view { s with outgoingReceipts, outgoingReceiptEnvelopes } = view s) :
    (authorReceipt P identity contact acked receiptType through timestampMs draw).Keeps view := by
  refine keeps_inspect_bind fun gate => ?_
  refine keeps_lift_bind fun _ => ?_
  refine keeps_lift_bind fun _ => ?_
  refine keeps_lift_bind fun _ => keeps_transaction ?_
  intro s sent s' hrun
  rw [Tx.get_bind] at hrun
  split at hrun
  · rw [← (ok_pair_inj hrun).2]
  · obtain ⟨envelope, mid, hseal, hset⟩ := Tx.bind_eq_ok.mp hrun
    rw [← (ok_pair_inj hset).2]
    exact h s _ _

theorem keeps_answerWithReceipt (h : AnsweringFrame view) {receiptFloor : Nat} :
    (answerWithReceipt P w m body receiptFloor).Keeps view := by
  unfold answerWithReceipt
  split
  · refine keeps_bind (keeps_call (keeps_inspect _)) fun contact => ?_
    cases contact with
    | none => exact keeps_pure _
    | some contact =>
      refine keeps_bind (keeps_call (keeps_inspect _)) fun highest => ?_
      refine keeps_bind (keeps_call (keeps_liftStore fun s => ?_)) fun _ =>
        keeps_pure _
      exact keeps_authorReceipt fun store _ _ => h { s with toStore := store } _ _
  · exact keeps_pure _

/-! ## The arms -/

theorem keeps_holdSharedFriendRequest
    (h : ∀ (s : InboundStore) pendingSharedRequests, view { s with pendingSharedRequests } = view s)
    {card : FriendCard} {shared : SharedFriendCard} :
    (holdSharedFriendRequest P w m card shared).Keeps view := by
  refine keeps_bind (keeps_call (keeps_inspect _)) fun sharer => ?_
  cases sharer with
  | none => exact keeps_pure _
  | some sharer =>
    refine keeps_bind (keeps_call (keeps_inspect _)) fun blocked => ?_
    split
    · exact keeps_pure _
    split
    · exact keeps_pure _
    split
    · exact keeps_pure _
    refine keeps_lift_bind fun verified => ?_
    split
    · exact keeps_pure _
    refine keeps_bind (keeps_call (keeps_inspect _)) fun suppressed => ?_
    split
    · exact keeps_pure _
    refine keeps_bind (keeps_call (keeps_write fun s => h s _)) fun _ => ?_
    refine keeps_bind (keeps_attempt (keeps_call (keeps_write fun s => ?_)))
      fun _ => keeps_pure _
    unfold InboundStore.withPrompt
    split
    · rfl
    · exact h s _

theorem keeps_applyFriendRequest (h : ArmFrame view) {content : Bytes} :
    (applyFriendRequest P R w m content).Keeps view := by
  refine keeps_lift_bind fun request => ?_
  split
  · exact keeps_holdSharedFriendRequest h.pending
  · refine keeps_bind (keeps_call (keeps_liftStore fun s => ?_)) fun _ =>
      keeps_pure _
    exact keeps_upsertImportedContact fun store _ _ => h.contacts { s with toStore := store } _ _

theorem keeps_takeReceipt (h : ArmFrame view) {receipt : ReceiptContent} :
    (takeReceipt w m receipt).Keeps view := by
  refine keeps_call ?_
  split
  · refine keeps_lift_bind fun _ => ?_
    refine keeps_lift_bind fun _ => ?_
    exact keeps_write fun s => h.groupReceipts s _
  · exact keeps_liftStore fun s => keeps_recordReceipt fun store _ _ =>
      h.receipts { s with toStore := store } _ _

theorem keeps_takeProfile (h : ArmFrame view) {content : ProfileSyncContent} {contact : Contact} :
    (takeProfile w m content contact).Keeps view := by
  refine keeps_bind (keeps_call (keeps_write fun s => ?_)) fun _ =>
    keeps_bind (keeps_call (keeps_write fun s => ?_)) fun _ => ?_
  · unfold InboundStore.withDiscoveryPolicy
    split
    · split
      · exact h.policies s _
      · rfl
    · exact h.policies s _
  · unfold InboundStore.withAvatar
    dsimp only
    split
    · exact h.avatars s _
    · rfl
  · split
    · refine keeps_call (keeps_liftStore fun s => keeps_upsertContact fun store contacts => ?_)
      exact h.contacts { s with toStore := store } contacts store.blockedIdentities
    · exact keeps_pure _

/-- An arm that does not bring a group writes its own tables. -/
theorem keeps_applyBody (hstoring : StoringFrame view) (h : ArmFrame view)
    (harm : deliveryArm m.pairwise body.kind ≠ .groupInvite) :
    (applyBody P R w m body).Keeps view := by
  have hpersist : ∀ b, (durably (persistInbound P w m b)).Keeps view :=
    fun b => keeps_durably (keeps_persistInbound hstoring)
  unfold applyBody
  cases hkind : deliveryArm m.pairwise body.kind with
  | friendRequest =>
    refine keeps_bind (keeps_mapError (keeps_applyFriendRequest h)) fun _ => ?_
    exact keeps_bind (hpersist _) fun _ => keeps_pure _
  | receipt =>
    refine keeps_lift_bind fun receipt => ?_
    refine keeps_lift_bind fun _ => ?_
    exact keeps_bind (keeps_durably (keeps_takeReceipt h)) fun _ => keeps_pure _
  | lanEndpointHint =>
    refine keeps_lift_bind fun endpoint => ?_
    exact keeps_bind (hpersist _) fun _ => keeps_pure _
  | relayUpdate =>
    refine keeps_lift_bind fun content => ?_
    refine keeps_bind (hpersist _) fun _ => ?_
    refine keeps_bind (keeps_attempt (keeps_call (keeps_liftStore fun s => ?_)))
      fun _ => keeps_pure _
    exact keeps_applyContactRelayUpdate
      (fun store contacts =>
        h.contacts { s with toStore := store } contacts store.blockedIdentities)
      fun store _ _ => h.queues { s with toStore := store } _ _
  | rosterGossip =>
    refine keeps_lift_bind fun roster => ?_
    refine keeps_lift_bind fun _ => ?_
    refine keeps_bind (hpersist _) fun _ => ?_
    refine keeps_bind (keeps_attempt (keeps_call (keeps_liftStore fun s => ?_)))
      fun _ => keeps_pure _
    exact keeps_applyContactRoster ⟨
      fun store _ _ => h.rosters { s with toStore := store } _ _,
      fun store _ _ => h.facts { s with toStore := store } _ _,
      fun store contacts =>
        h.contacts { s with toStore := store } contacts store.blockedIdentities⟩ _
  | profileSync =>
    refine keeps_lift_bind fun content => ?_
    refine keeps_bind (hpersist _) fun _ => ?_
    refine keeps_bind (keeps_durably (keeps_call (keeps_inspect _)))
      fun contact => ?_
    cases contact with
    | none => exact keeps_pure _
    | some contact =>
      exact keeps_bind (keeps_durably (keeps_takeProfile h)) fun _ => keeps_pure _
  | groupInvite => exact absurd hkind harm
  | other => exact keeps_bind (hpersist _) fun _ => keeps_pure _

/-- What neither storing, nor an arm, nor a receipt writes is not written by a delivery. -/
theorem view_coreDeliverInbound (hstoring : StoringFrame view) (h : ArmFrame view)
    (hanswer : AnsweringFrame view)
    (hgroups : ∀ (s : InboundStore) groups groupMembers,
      view { s with groups, groupMembers } = view s) :
    view ((coreDeliverInbound P R w m).final s) = view s := by
  rw [final_coreDeliverInbound]
  cases passingBody w m s with
  | none => rfl
  | some body =>
    refine Prog.Keeps.final (keeps_bind ?_ fun outcome => ?_) s
    · by_cases harm : deliveryArm m.pairwise body.kind = .groupInvite
      · unfold applyBody
        rw [harm]
        refine keeps_lift_bind fun group => ?_
        have hupsert : (liftStore (upsertGroup group w.clock)).Keeps view :=
          keeps_liftStore fun s => keeps_upsertGroup fun store _ _ =>
            hgroups { s with toStore := store } _ _
        refine keeps_bind (keeps_durably (keeps_call hupsert)) fun _ => ?_
        exact keeps_bind (keeps_durably (keeps_persistInbound hstoring)) fun _ => keeps_pure _
      · exact keeps_applyBody hstoring h harm
    · exact keeps_bind (keeps_durably (keeps_answerWithReceipt hanswer)) fun _ =>
        keeps_pure _

/-! ## The groups -/

/-- The tables of groups. -/
def Store.groupTables (s : Store) : List GroupRow × List GroupMemberRow :=
  (s.groups, s.groupMembers)

theorem getGroup_congr {s s' : Store} (h : s'.groupTables = s.groupTables) (groupId : Bytes) :
    s'.getGroup groupId = s.getGroup groupId := by
  obtain ⟨hgroups, hmembers⟩ := Prod.mk.inj h
  unfold Store.getGroup Store.groupMemberIds
  rw [hgroups, hmembers]

/-- The group that a delivery brings to the store. -/
def broughtGroup (w : Surroundings) (m : Inbound) (s : InboundStore) : Option Group :=
  match passingBody w m s with
  | none => none
  | some body =>
    if deliveryArm m.pairwise body.kind = .groupInvite ∧ w.faults .upsertGroup = none then
      (m.inviteGroup body).toOption
    else none

/-- A delivery does to the groups what `upsert_group` does with the one it brings. -/
theorem groupTables_deliver : ((coreDeliverInbound P R w m).final s).groupTables =
    match broughtGroup w m s with
    | none => s.groupTables
    | some group => ((upsertGroup group w.clock).final s.toStore).groupTables := by
  rw [final_coreDeliverInbound]
  unfold broughtGroup
  cases passingBody w m s with
  | none => rfl
  | some body =>
    have hpast : ((deliverPastGates P R w m body).final s).groupTables =
        ((applyBody P R w m body).final s).groupTables :=
      view_final_bind (fun s : InboundStore => s.groupTables) (fun _ => keeps_bind
        (keeps_durably (keeps_answerWithReceipt fun _ _ _ => rfl)) fun _ => keeps_pure _) s
    dsimp only
    rw [hpast]
    by_cases harm : deliveryArm m.pairwise body.kind = .groupInvite
    · have happly : applyBody P R w m body = deliverGroupInvite P w m body := by
        unfold applyBody
        rw [harm]
      rw [happly, deliverGroupInvite]
      cases m.inviteGroup body with
      | error e =>
        simp only [Except.toOption, ite_self]
        rfl
      | ok group =>
        rw [lift_ok_bind]
        refine (view_final_bind (fun s : InboundStore => s.groupTables) (fun _ => keeps_bind
          (keeps_durably (keeps_persistInbound ?_)) fun _ => keeps_pure _) s).trans ?_
        · exact ⟨fun _ _ _ => rfl, fun _ _ _ => rfl⟩
        show ((w.faults.call .upsertGroup (liftStore (upsertGroup group w.clock))).final
          s).groupTables = _
        rw [final_call]
        by_cases hfault : w.faults .upsertGroup = none
        · rw [if_pos hfault, if_pos ⟨harm, hfault⟩, final_liftStore]
          rfl
        · rw [if_neg hfault, if_neg fun h => hfault h.2]
    · rw [if_neg fun h => harm h.1]
      have hkeeps : (applyBody P R w m body).Keeps fun s : InboundStore => s.groupTables := by
        refine keeps_applyBody ⟨fun _ _ _ => rfl, fun _ _ _ => rfl⟩ ?_ harm
        exact ⟨fun _ _ _ => rfl, fun _ _ _ => rfl, fun _ _ _ => rfl, fun _ _ _ => rfl,
          fun _ _ _ => rfl, fun _ _ => rfl, fun _ _ => rfl, fun _ _ => rfl, fun _ _ => rfl⟩
      exact hkeeps.final s

end CruiseMesh
