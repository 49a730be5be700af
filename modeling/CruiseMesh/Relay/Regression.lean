import CruiseMesh.Lib.Within
import CruiseMesh.Inbound.Effects

/-!
# Whether an endpoint regresses

A relay update carries an epoch, and takes effect only where it is newer than the epoch that is
stored. A card carries none: a synced card and the card of a friend request write the endpoint and
leave the epoch, so that a card from before the move puts the contact back into the mailbox they
left, under the epoch of the move. Nothing repairs that, for the update that would is not newer.

This module watches one contact through a run of the three. The endpoint under the highest epoch
is that of its notice in every state of the run, as long as the cards that come in under that epoch
have the endpoint of the notice (`endpoint_of_highest_notice`).
-/

namespace CruiseMesh
open Durable Prog Runs Table Latest Store

/-! ## Epochs -/

/-- The epoch that is stored for a contact. -/
def Store.relayEpochOf (s : Store) (userId : Bytes) : Nat :=
  ((lookup ContactRow.userId userId s.contacts).map (·.relayEpoch)).getD 0

/-- Every contact has one row. -/
def Store.ContactKeys (s : Store) : Prop := (s.contacts.map ContactRow.userId).Nodup

/-- What an endpoint consists of, and whose it is said to be. -/
abbrev Stated := Bytes → Option Bytes × Option Bytes → Prop

/-- Nothing happens to the epochs, but that some are reset, and nothing to an endpoint that is
stated again. -/
structure Store.OnlyResets (stated : Stated) (s s' : Store) : Prop where
  keys : s.ContactKeys → s'.ContactKeys
  epochs : ∀ userId, s'.relayEpochOf userId = s.relayEpochOf userId ∨ s'.relayEpochOf userId = 0
  endpoint : ∀ userId e, stated userId e → s.endpoint userId = some e → s'.endpoint userId = some e

variable {s s' : Store} {contact : Contact} {stated : Stated}

theorem onlyResets_of_contacts (h : s'.contacts = s.contacts) : s.OnlyResets stated s' := by
  refine ⟨?_, ?_, ?_⟩
  · intro hkeys
    unfold Store.ContactKeys
    rw [h]
    exact hkeys
  · intro userId
    unfold relayEpochOf
    rw [h]
    exact .inl rfl
  · intro userId e _ hbefore
    unfold Store.endpoint
    rw [h]
    exact hbefore

instance : IsPreorder Store (Store.OnlyResets stated) where
  refl _ := onlyResets_of_contacts rfl
  trans _ _ _ hfirst hthen :=
    { keys := fun h => hthen.keys (hfirst.keys h)
      endpoint := fun userId e hstated h =>
        hthen.endpoint userId e hstated (hfirst.endpoint userId e hstated h)
      epochs := fun userId => by
        rcases hthen.epochs userId with hsame | hzero
        · rw [hsame]
          exact hfirst.epochs userId
        · exact .inr hzero }

theorem contactRow_userId {rows : List ContactRow} :
    (contactRow contact (lookup ContactRow.userId contact.userId rows)).userId =
      contact.userId := by
  cases hlookup : lookup ContactRow.userId contact.userId rows with
  | none =>
    unfold contactRow
    dsimp only
    split <;> rfl
  | some held =>
    have hheld := key_of_lookup hlookup
    unfold contactRow
    dsimp only [Option.getD_some]
    split <;> exact hheld

theorem contactRow_relayEpoch (contact : Contact) (held : Option ContactRow) :
    (contactRow contact held).relayEpoch = (held.map (·.relayEpoch)).getD 0 := by
  cases held with
  | none =>
    unfold contactRow
    dsimp only
    split <;> rfl
  | some held =>
    unfold contactRow
    dsimp only [Option.getD_some]
    split <;> rfl

theorem contactRow_endpoint (contact : Contact) (held : Option ContactRow) :
    (contactRow contact held).relayUrl = contact.relayUrl ∧
      (contactRow contact held).relayToken = contact.relayToken := by
  unfold contactRow
  dsimp only
  split <;> exact ⟨rfl, rfl⟩

/-- A card does not touch the epochs, nor an endpoint that it states again. -/
theorem onlyResets_card (h : s'.contacts = upsert
    ContactRow.userId (contactRow contact (lookup ContactRow.userId contact.userId s.contacts))
      s.contacts)
    (hcard : ∀ e, stated contact.userId e → s.endpoint contact.userId = some e →
      (contact.relayUrl, contact.relayToken) = e) : s.OnlyResets stated s' := by
  have hafter : ∀ userId, lookup ContactRow.userId userId s'.contacts =
      if contact.userId = userId then
        some (contactRow contact (lookup ContactRow.userId contact.userId s.contacts))
      else lookup ContactRow.userId userId s.contacts := by
    intro userId
    rw [h, lookup_upsert, contactRow_userId]
  refine ⟨fun hkeys => ?_, fun userId => .inl ?_, fun userId e hstated hbefore => ?_⟩
  · unfold Store.ContactKeys
    rw [h]
    exact nodup_upsert hkeys
  · unfold relayEpochOf
    rw [hafter]
    by_cases hsame : contact.userId = userId
    · rw [if_pos hsame, Option.map_some, contactRow_relayEpoch, hsame]
      rfl
    · rw [if_neg hsame]
  · unfold Store.endpoint
    rw [hafter]
    by_cases hsame : contact.userId = userId
    · subst hsame
      obtain ⟨hurl, htoken⟩ :=
        contactRow_endpoint contact (lookup ContactRow.userId contact.userId s.contacts)
      rw [if_pos rfl, Option.map_some, hurl, htoken, hcard e hstated hbefore]
    · rw [if_neg hsame]
      exact hbefore

theorem onlyResets_resetRelayEpoch (who : Bytes) (s : Store) :
    s.OnlyResets stated (resetRelayEpoch who s) := by
  have hrow : ∀ row : ContactRow, ({ row with relayEpoch := 0 } : ContactRow).userId = row.userId :=
    fun _ => rfl
  refine ⟨?_, ?_, ?_⟩
  · intro hkeys
    unfold Store.ContactKeys resetRelayEpoch
    rw [map_key_update]
    · exact hkeys
    · intro row
      rfl
  · intro userId
    unfold relayEpochOf resetRelayEpoch
    rw [lookup_update]
    · by_cases hsame : who = userId
      · rw [if_pos hsame]
        right
        cases lookup ContactRow.userId userId s.contacts <;> rfl
      · rw [if_neg hsame]
        exact .inl rfl
    · intro row
      rfl
  · intro userId e _ hbefore
    unfold Store.endpoint at hbefore ⊢
    unfold resetRelayEpoch
    rw [lookup_update hrow]
    by_cases hsame : who = userId
    · rw [if_pos hsame, Option.map_map]
      exact hbefore
    · rw [if_neg hsame]
      exact hbefore

/-! ## Cards -/

theorem keepingRelay_userId (contact : Contact) (existing : Option ContactRow) :
    (contact.keepingRelay existing).userId = contact.userId := by
  unfold Contact.keepingRelay
  split
  · split <;> rfl
  · rfl

theorem within_upsertImportedContact (contact : Contact)
    (hcard : ∀ e, stated contact.userId e → (contact.relayUrl, contact.relayToken) = e ∨
      hasRelay contact.relayUrl contact.relayToken = false ∧ hasRelay e.1 e.2 = true) :
    (upsertImportedContact contact).Within (Store.OnlyResets stated) := by
  refine within_transaction fun s kept s' h => ?_
  rw [Tx.get_bind, Tx.bind_apply_ok (Tx.modify_apply _ _)] at h
  have hstate := (ok_pair_inj h).2
  have hkept : s'.contacts = upsert ContactRow.userId (contactRow (contact.keepingRelay
      (lookup ContactRow.userId contact.userId s.contacts)) (lookup ContactRow.userId
        (contact.keepingRelay (lookup ContactRow.userId contact.userId s.contacts)).userId
        s.contacts)) s.contacts := by
    rw [← hstate, keepingRelay_userId]
  refine onlyResets_card hkept fun e hstated hbefore => ?_
  rw [keepingRelay_userId] at hstated hbefore
  obtain ⟨row, hrow, rfl⟩ := Option.map_eq_some_iff.mp hbefore
  rw [hrow]
  unfold Contact.keepingRelay
  dsimp only
  -- a card that has no endpoint keeps the one of the row
  split
  · rfl
  · rename_i hwritten
    exact (hcard _ hstated).resolve_right hwritten

theorem within_applyContactRoster (P : Primitives) (incoming : Roster) :
    (applyContactRoster P incoming).Within (Store.OnlyResets stated) := by
  have hsame : ∀ s s' : Store, s'.contacts = s.contacts → s.OnlyResets stated s' :=
    fun _ _ => onlyResets_of_contacts
  have hpure : ∀ {α : Type} (a : α),
      Tx.Within (pure a : Tx Store CoreError α) (Store.OnlyResets stated) :=
    fun a => (Tx.keeps_pure a).within hsame
  refine within_transaction (Tx.within_bind (Tx.keeps_get.within hsame) fun s => ?_)
  split
  · exact hpure _
  have hload : Tx.Keeps (loadState P incoming.personId) contacts :=
    keeps_loadState (fun _ _ _ => rfl) _
  refine Tx.within_bind (hload.within hsame) fun state => ?_
  refine Tx.within_bind (Tx.within_modify fun s => onlyResets_of_contacts ?_) fun _ => ?_
  · exact view_recordChanges (fun _ _ _ => rfl) _ _ s
  refine Tx.within_bind ?_ fun _ => hpure _
  unfold writeVerdict
  split
  · have hsave : ∀ quarantined, Tx.Keeps (saveRoster P incoming quarantined) contacts :=
      keeps_saveRoster (fun _ _ _ => rfl) _
    refine Tx.within_bind ((hsave _).within hsame) fun _ => ?_
    split
    · exact Tx.within_modify fun s => onlyResets_resetRelayEpoch _ s
    · exact hpure _
  · exact Tx.within_modify fun s => onlyResets_of_contacts rfl
  · exact hpure _

/-- The cards of the entries state the endpoint of the person again. -/
def StatedBy (P : Primitives) (readCard : CardReader) (entries : List SyncContactEntry) : Stated :=
  fun userId e => ∀ entry ∈ entries, ∀ card ∈ (parseFriendCard P readCard entry.cardJson).toOption,
    entry.personId = userId → (card.relayUrl, card.relayToken) = e

theorem within_mergeContacts (P : Primitives) (readCard : CardReader) :
    ∀ entries : List SyncContactEntry,
      (∀ userId e, stated userId e → StatedBy P readCard entries userId e) →
      (mergeContacts P readCard entries).Within (Store.OnlyResets stated)
  | [], _ => within_pure _
  | entry :: rest, hcards => by
    refine within_bind ?_ fun _ => within_mergeContacts P readCard rest fun userId e h later hlater =>
      hcards userId e h later (List.mem_cons_of_mem _ hlater)
    refine within_lift_bind_ok fun card hcard => ?_
    refine within_lift_bind fun _ => within_bind ?_ fun _ => ?_
    · refine within_inspect_bind fun existing => ?_
      split
      · refine within_write fun s => onlyResets_card rfl fun e hstated _ => ?_
        exact hcards entry.personId e hstated entry List.mem_cons_self card (by rw [hcard]; rfl) rfl
      · exact within_pure _
    · unfold mergeContactRoster
      split
      · exact within_pure _
      · exact within_bind (within_applyContactRoster P _) fun _ => within_pure _

theorem within_applyContacts (P : Primitives) (readCard : CardReader) (record : SyncRecord)
    (hcards : ∀ userId e, stated userId e →
      StatedBy P readCard ((coreDecodeSyncContacts record.payload).toOption.getD []) userId e) :
    (applyContacts P readCard record).Within (Store.OnlyResets stated) := by
  refine within_lift_bind_ok fun entries hentries => ?_
  rw [hentries] at hcards
  exact within_bind (within_mergeContacts P readCard entries hcards) fun _ => within_pure _

/-! ## Friend requests -/

/-- The same of an inbound store. -/
def InboundStore.OnlyResets (stated : Stated) (s s' : InboundStore) : Prop :=
  s.toStore.OnlyResets stated s'.toStore

instance : IsPreorder InboundStore (InboundStore.OnlyResets stated) where
  refl s := refl_of (Store.OnlyResets stated) s.toStore
  trans _ _ _ hfirst hthen := trans_of (Store.OnlyResets stated) hfirst hthen

theorem within_liftStore {α : Type} {p : Prog Store CoreError α}
    (h : p.Within (Store.OnlyResets stated)) :
    (liftStore p).Within (InboundStore.OnlyResets stated) :=
  fun s => throughout_zoom (refl_of (InboundStore.OnlyResets stated) s) (h s.toStore)

/-- A friend request as it arrives: whatever its payload, it is not of another kind. -/
structure FriendRequestArrival extends Inbound where
  isRequest : ∀ body, decodeExtendedMessageBody payload = .ok body → body.kind = kindFriendRequest

/-- The card of a request states the endpoint of its sender again, or has none and leaves the one
that is known. -/
def StatedIn (P : Primitives) (R : InboundReaders) (m : Inbound) (content : Bytes) : Stated :=
  fun userId e => ∀ request ∈ (m.friendRequest P R content).toOption, request.shared.isNone →
    m.senderUserId = userId → (request.card.relayUrl, request.card.relayToken) = e ∨
      hasRelay request.card.relayUrl request.card.relayToken = false ∧ hasRelay e.1 e.2 = true

variable {P : Primitives} {R : InboundReaders} {w : Surroundings}

theorem within_deliverPastGates {m : Inbound} {body : ExtendedMessageBody}
    (hkind : body.kind = kindFriendRequest)
    (hcard : ∀ userId e, stated userId e → StatedIn P R m body.content userId e) :
    (deliverPastGates P R w m body).Within (InboundStore.OnlyResets stated) := by
  have hsame : ∀ s s' : InboundStore, s'.contacts = s.contacts → s.OnlyResets stated s' :=
    fun _ _ h => onlyResets_of_contacts h
  have hstored : (deliverStored P w m body).Within (InboundStore.OnlyResets stated) := by
    have hpersist : (persistInbound P w m body).Keeps fun s => s.contacts :=
      keeps_persistInbound ⟨fun _ _ _ => rfl, fun _ _ _ => rfl⟩
    exact within_bind ((keeps_durably hpersist).within hsame) fun _ => within_pure _
  refine within_bind ?_ fun outcome => ?_
  · unfold applyBody deliveryArm
    by_cases hpairwise : m.pairwise = false
    · rw [if_pos hpairwise]
      exact hstored
    rw [if_neg hpairwise, if_pos hkind]
    refine within_bind (within_mapError ?_) fun _ => hstored
    refine within_lift_bind_ok fun request hrequest => ?_
    split
    · have hhold : ∀ card shared,
          (holdSharedFriendRequest P w m card shared).Keeps fun s => s.contacts :=
        fun _ _ => keeps_holdSharedFriendRequest fun _ _ => rfl
      exact (hhold _ _).within hsame
    · rename_i hdirect
      refine within_bind ?_ fun _ => within_pure _
      unfold Faults.call
      split
      · exact within_lift _
      · refine within_liftStore (within_upsertImportedContact _ fun e hstated => ?_)
        exact hcard m.senderUserId e hstated request (by rw [hrequest]; rfl) (by rw [hdirect]; rfl) rfl
  · have hanswer : (answerWithReceipt P w m body outcome.receiptFloor).Keeps fun s => s.contacts :=
      keeps_answerWithReceipt fun _ _ _ => rfl
    exact within_bind ((keeps_durably hanswer).within hsame) fun _ => within_pure _

/-- The delivery of a friend request does not touch the epochs. -/
theorem onlyResets_friendRequest (m : FriendRequestArrival) (s : InboundStore)
    (hcard : ∀ userId e, stated userId e → ∀ body ∈ (decodeExtendedMessageBody m.payload).toOption,
      StatedIn P R m.toInbound body.content userId e) :
    s.OnlyResets stated ((coreDeliverInbound P R w m.toInbound).final s) := by
  rw [final_coreDeliverInbound]
  cases hpass : passingBody w m.toInbound s with
  | none => exact refl_of (InboundStore.OnlyResets stated) s
  | some body =>
    have hbody := (passingBody_eq_some.mp hpass).1
    exact (within_deliverPastGates (m.isRequest body hbody) fun userId e h =>
      hcard userId e h body (by rw [hbody]; rfl)).final s

/-! ## Notices -/

/-- The endpoint that a notice announces. -/
def RelayUpdateContent.endpoint (content : RelayUpdateContent) : Option Bytes × Option Bytes :=
  (if content.relayUrl = [] then none else some content.relayUrl,
    if content.relayToken = [] then none else some content.relayToken)

/-- A notice that takes effect leaves its epoch and its endpoint. -/
theorem stored_after_notice {userId : Bytes} {content : RelayUpdateContent} {nowMs : Int}
    (hkeys : s.ContactKeys) (h : content.Takes userId nowMs s.contacts) :
    ((s.relayEpochOf userId : Int) < content.relayEpoch) ∧
      ((((s.moving userId content).unposting userId).relayEpochOf userId : Int) =
        content.relayEpoch) ∧
      ((s.moving userId content).unposting userId).endpoint userId = some content.endpoint := by
  obtain ⟨row, hrow, hkey, hnewer⟩ := h.newer
  have hlookup : lookup ContactRow.userId userId s.contacts = some row :=
    hkey ▸ lookup_of_mem hkeys hrow
  have hafter : lookup ContactRow.userId userId
      ((s.moving userId content).unposting userId).contacts = some (content.row row) := by
    show lookup ContactRow.userId userId (s.moving userId content).contacts = _
    rw [moving, lookup_update content.userId_moved, if_pos rfl, hlookup, Option.map_some,
      if_pos hnewer]
  refine ⟨?_, ?_, ?_⟩
  · unfold relayEpochOf
    rw [hlookup]
    exact hnewer
  · unfold relayEpochOf
    rw [hafter]
    show ((content.relayEpoch.toNat : Nat) : Int) = content.relayEpoch
    omega
  · unfold endpoint
    rw [hafter]
    rfl

/-! ## One contact, watched -/

/-- What comes in about contacts. -/
inductive EndpointEvent where
  | notice (senderUserId : Bytes) (content : RelayUpdateContent) (nowMs : Int)
  | syncedContacts (record : SyncRecord)
  | friendRequest (w : Surroundings) (m : FriendRequestArrival)

/-- The store, and the notices of one contact that were applied so far. -/
structure Watched where
  store : InboundStore
  applied : List RelayUpdateContent := []

namespace EndpointEvent
variable (P : Primitives) (R : InboundReaders)

/-- The store after the event, whether it went through or failed. -/
def after (s : InboundStore) : EndpointEvent → InboundStore
  | .notice senderUserId content nowMs =>
    (liftStore (applyContactRelayUpdate senderUserId content nowMs)).final s
  | .syncedContacts record => (liftStore (applyContacts P R.card record)).final s
  | .friendRequest w m => (coreDeliverInbound P R w m.toInbound).final s

/-- Whatever cards of a person the event carries state the endpoint again. -/
def States : EndpointEvent → Stated
  | .notice _ _ _ => fun _ _ => True
  | .syncedContacts record =>
    StatedBy P R.card ((coreDecodeSyncContacts record.payload).toOption.getD [])
  | .friendRequest _ m => fun userId e => ∀ body ∈ (decodeExtendedMessageBody m.payload).toOption,
    StatedIn P R m.toInbound body.content userId e

/-- The notice of a contact that the event applies. -/
def applied (userId : Bytes) (s : InboundStore) : EndpointEvent → List RelayUpdateContent
  | .notice senderUserId content nowMs =>
    if senderUserId = userId ∧
        (applyContactRelayUpdate senderUserId content nowMs).result s.toStore = .ok true then
      [content]
    else []
  | _ => []

end EndpointEvent

section Watch
variable (P : Primitives) (R : InboundReaders) (userId : Bytes) (t : Watched)

def watch (event : EndpointEvent) : Watched where
  store := event.after P R t.store
  applied := t.applied ++ event.applied userId t.store

/-- The applied notice with the highest epoch, and the last one of these if there are several. -/
def Watched.highest : Option RelayUpdateContent :=
  latest (fun a b : RelayUpdateContent => a.relayEpoch < b.relayEpoch) t.applied

/-- Under the epoch of the highest notice that was applied, its endpoint is stored. -/
def Watched.FollowsNotices : Prop :=
  ∀ notice ∈ t.highest, (t.store.relayEpochOf userId : Int) = notice.relayEpoch →
    t.store.endpoint userId = some notice.endpoint

/-- As long as the epoch of the highest notice that was applied is stored, the cards of the contact
that the event carries have the endpoint of that notice. -/
def EndpointEvent.Agrees (event : EndpointEvent) : Prop :=
  ∀ notice ∈ t.highest, (t.store.relayEpochOf userId : Int) = notice.relayEpoch →
    event.States P R userId notice.endpoint

instance (t : Watched) : Decidable (t.FollowsNotices userId) :=
  inferInstanceAs (Decidable (∀ notice ∈ t.highest, _ → _))

instance (e : Option Bytes × Option Bytes) : (event : EndpointEvent) →
    Decidable (event.States P R userId e)
  | .notice _ _ _ => inferInstanceAs (Decidable True)
  | .syncedContacts _ => inferInstanceAs (Decidable (∀ entry ∈ _, ∀ card ∈ _, _ → _))
  | .friendRequest _ _ => inferInstanceAs (Decidable (∀ body ∈ _, ∀ request ∈ _, _ → _ → _))

instance (t : Watched) (event : EndpointEvent) : Decidable (event.Agrees P R userId t) :=
  inferInstanceAs (Decidable (∀ notice ∈ t.highest, _ → _))

/-- What is true all along: a contact has one row, and an applied notice a positive epoch. -/
structure Watched.Sound : Prop where
  keys : t.store.ContactKeys
  positive : ∀ notice ∈ t.applied, 0 < notice.relayEpoch

variable {P R userId} {t : Watched} {event : EndpointEvent}

theorem Watched.Sound.highest_pos (h : t.Sound) {notice : RelayUpdateContent}
    (hmem : notice ∈ t.highest) : 0 < notice.relayEpoch := by
  rcases mem_foldl_keepLatest hmem with hnone | happlied
  · cases hnone
  · exact h.positive notice happlied

/-- The one inversion: an event is a notice about the contact that took effect, or it applies no
notice, leaves the epoch or resets it, and leaves an endpoint that its cards state again. -/
theorem watch_cases (P : Primitives) (R : InboundReaders) (userId : Bytes) (h : t.Sound)
    (event : EndpointEvent) :
    (∃ content, watch P R userId t event =
        ⟨event.after P R t.store, t.applied ++ [content]⟩ ∧
        (t.store.relayEpochOf userId : Int) < content.relayEpoch ∧
        ((event.after P R t.store).relayEpochOf userId : Int) = content.relayEpoch ∧
        (event.after P R t.store).endpoint userId = some content.endpoint) ∨
      (watch P R userId t event = ⟨event.after P R t.store, t.applied⟩ ∧
        ((event.after P R t.store).relayEpochOf userId = t.store.relayEpochOf userId ∨
          (event.after P R t.store).relayEpochOf userId = 0) ∧
        ∀ e, event.States P R userId e → t.store.endpoint userId = some e →
          (event.after P R t.store).endpoint userId = some e) := by
  cases event with
  | notice senderUserId content nowMs =>
    by_cases htakes : content.Takes senderUserId nowMs t.store.contacts
    · obtain ⟨hresult, hfinal⟩ := returns_applyContactRelayUpdate htakes
      have hafter : (EndpointEvent.notice senderUserId content nowMs).after P R t.store =
          { t.store with
            toStore := (t.store.moving senderUserId content).unposting senderUserId } := by
        show (liftStore _).final _ = _
        rw [final_liftStore, hfinal]
      by_cases hsender : senderUserId = userId
      · subst hsender
        have happlied : (EndpointEvent.notice senderUserId content nowMs).applied senderUserId
            t.store = [content] := if_pos ⟨rfl, hresult⟩
        refine .inl ⟨content, ?_, ?_⟩
        · unfold watch
          rw [happlied]
        · rw [hafter]
          exact stored_after_notice h.keys htakes
      · have happlied : (EndpointEvent.notice senderUserId content nowMs).applied userId
            t.store = [] := if_neg fun hboth => hsender hboth.1
        have hother : lookup ContactRow.userId userId (t.store.moving senderUserId content).contacts =
            lookup ContactRow.userId userId t.store.contacts := by
          unfold moving
          rw [lookup_update content.userId_moved, if_neg hsender]
        refine .inr ⟨?_, .inl ?_, fun e _ hbefore => ?_⟩
        · unfold watch
          rw [happlied, List.append_nil]
        · rw [hafter]
          show (t.store.moving senderUserId content).relayEpochOf userId = _
          unfold relayEpochOf
          rw [hother]
        · rw [hafter]
          show (t.store.moving senderUserId content).endpoint userId = _
          unfold Store.endpoint
          rw [hother]
          exact hbefore
    · obtain ⟨hfinal, hresult⟩ := final_applyContactRelayUpdate_of_not htakes
      have hafter : (EndpointEvent.notice senderUserId content nowMs).after P R t.store =
          t.store := by
        show (liftStore _).final _ = _
        rw [final_liftStore, hfinal]
      have happlied : (EndpointEvent.notice senderUserId content nowMs).applied userId
          t.store = [] := if_neg fun hboth => hresult hboth.2
      refine .inr ⟨?_, .inl (by rw [hafter]), fun e _ hbefore => by rw [hafter]; exact hbefore⟩
      unfold watch
      rw [happlied, List.append_nil]
  | syncedContacts record =>
    have honly := (within_liftStore (within_applyContacts P R.card record fun _ _ h => h)).final t.store
    refine .inr ⟨?_, honly.epochs userId, fun e => honly.endpoint userId e⟩
    show Watched.mk _ (t.applied ++ []) = _
    rw [List.append_nil]
  | friendRequest w m =>
    have honly := onlyResets_friendRequest (P := P) (R := R) (w := w) m t.store fun _ _ h => h
    refine .inr ⟨?_, honly.epochs userId, fun e => honly.endpoint userId e⟩
    show Watched.mk _ (t.applied ++ []) = _
    rw [List.append_nil]

theorem contactKeys_after (hkeys : t.store.ContactKeys) :
    (event.after P R t.store).ContactKeys := by
  cases event with
  | notice senderUserId content nowMs =>
    show ((liftStore _).final t.store).ContactKeys
    rw [final_liftStore]
    rcases applyContactRelayUpdate_final senderUserId content nowMs t.store.toStore with hsame | hmoved
    · rw [hsame]
      exact hkeys
    · rw [hmoved]
      show ((moving t.store.toStore senderUserId content).contacts.map ContactRow.userId).Nodup
      unfold moving
      rw [map_key_update content.userId_moved]
      exact hkeys
  | syncedContacts record =>
    exact ((within_liftStore (within_applyContacts P R.card record fun _ _ h => h)).final
      t.store).keys hkeys
  | friendRequest w m => exact (onlyResets_friendRequest m t.store fun _ _ h => h).keys hkeys

theorem sound_watch (h : t.Sound) : (watch P R userId t event).Sound := by
  refine ⟨contactKeys_after h.keys, ?_⟩
  rcases watch_cases P R userId h event with ⟨content, hwatch, hnewer, _, _⟩ | ⟨hwatch, _, _⟩
  · rw [hwatch]
    intro notice hmem
    rcases List.mem_append.mp hmem with hold | hnew
    · exact h.positive notice hold
    · rw [List.mem_singleton.mp hnew]
      omega
  · rw [hwatch]
    exact h.positive

/-- One event: the endpoint follows the notices after it, if the cards of the event do. -/
theorem followsNotices_watch (h : t.Sound) (hfollows : t.FollowsNotices userId)
    (hagrees : event.Agrees P R userId t) : (watch P R userId t event).FollowsNotices userId := by
  rcases watch_cases P R userId h event with ⟨content, hwatch, _, hepoch, hendpoint⟩ | ⟨hwatch, hepoch, hkeeps⟩
  · rw [hwatch]
    intro notice hmem hsame
    have hlatest : notice ∈ keepLatest (fun a b : RelayUpdateContent =>
        a.relayEpoch < b.relayEpoch) t.highest content := by
      rw [Watched.highest, ← latest_concat]
      exact hmem
    unfold keepLatest at hlatest
    split at hlatest
    · -- an older notice, taken after a reset: the stored epoch is not the highest one
      obtain ⟨held, hheld, holder⟩ := ‹∃ _ ∈ _, _›
      have heq : held = notice := Option.some.inj (hheld.symm.trans hlatest)
      subst heq
      exact absurd (hepoch.symm.trans hsame) (by omega)
    · cases hlatest
      exact hendpoint
  · rw [hwatch]
    intro notice hmem hsame
    have hpos := h.highest_pos hmem
    rcases hepoch with hkept | hzero
    · have hbefore : (t.store.relayEpochOf userId : Int) = notice.relayEpoch := by
        rw [← hkept]
        exact hsame
      exact hkeeps _ (hagrees notice hmem hbefore) (hfollows notice hmem hbefore)
    · have hnone : ((event.after P R t.store).relayEpochOf userId : Int) = notice.relayEpoch := hsame
      omega

/-- The contact at a moment of the run. -/
def watchedAt (P : Primitives) (R : InboundReaders) (userId : Bytes) (s : InboundStore)
    (events : List EndpointEvent) (n : Nat) : Watched :=
  stateAt (watch P R userId) ⟨s, []⟩ events n

/-- **Under the highest epoch of an applied notice the endpoint of that notice is stored, all along
a run in which the cards that come in under that epoch have that endpoint.** -/
theorem endpoint_of_highest_notice (P : Primitives) (R : InboundReaders) (userId : Bytes)
    (s : InboundStore) (hkeys : s.ContactKeys) (events : List EndpointEvent)
    (hagrees : ∀ (k : Nat) (hk : k < events.length),
      events[k].Agrees P R userId (watchedAt P R userId s events k)) (n : Nat) :
    (watchedAt P R userId s events n).FollowsNotices userId := by
  have hstart : (Watched.mk s []).Sound := ⟨hkeys, nofun⟩
  have hboth : (watchedAt P R userId s events n).Sound ∧
      (watchedAt P R userId s events n).FollowsNotices userId := by
    refine stateAt_invariant_along (fun t : Watched => t.Sound ∧ t.FollowsNotices userId)
      (fun t event => EndpointEvent.Agrees P R userId t event) ?_ ⟨hstart, ?_⟩ ?_ n
    · intro t event hagrees hinv
      exact ⟨sound_watch hinv.1, followsNotices_watch hinv.1 hinv.2 hagrees⟩
    · intro notice hnone
      cases hnone
    · intro k event hevent
      obtain ⟨hk, rfl⟩ := List.getElem?_eq_some_iff.mp hevent
      exact hagrees k hk
  exact hboth.2

end Watch

section Example
open Sample

def boId : Bytes := primitives.deriveUserId (publicKey (secretKey 2))

/-- A card of theirs is the text of its url. -/
def cardReaders : InboundReaders where
  card url := .ok
    { name := ascii "Bo", signPk := publicKey (secretKey 2), agreePk := agreeKey (secretKey 2)
      relayUrl := some url, relayToken := some (ascii "cmdep1-bo") }
  shared _ := .ok .absent
  directory _ := .error ⟨.data, 1, 0⟩
  base64 _ := .error ""
  ipAddr _ := none

/-- They are a contact, with the first endpoint they had. -/
def boStore : InboundStore where
  contacts := [{ userId := boId, name := ascii "Bo", signPk := publicKey (secretKey 2)
                 agreePk := agreeKey (secretKey 2), relayUrl := some (ascii "https://old")
                 relayToken := some (ascii "cmdep1-bo") }]

def noticeOf (epoch : Int) (url : String) : EndpointEvent :=
  .notice boId
    { subjectUserId := boId, relayEpoch := epoch, relayUrl := ascii url
      relayToken := ascii "cmdep1-bo" } 10

/-- The body of a friend request with a card of theirs. -/
def requestBody (url : String) : MessageBody where
  kind := kindFriendRequest
  chatId := boId
  lamport := 1
  timestamp := 5
  content := ascii url

def requestOf (url : String) (h : ∀ body, decodeExtendedMessageBody
    ((encodeMessageBody (requestBody url)).toOption.getD []) = .ok body →
      body.kind = kindFriendRequest) : EndpointEvent :=
  .friendRequest calm
    { arriving 2 none (requestBody url) with
      senderUserId := boId
      isRequest := h }

theorem kind_of_decoded {payload : Bytes} {kind : UInt8}
    (h : (decodeExtendedMessageBody payload).map (·.kind) = .ok kind) (body : ExtendedMessageBody)
    (hbody : decodeExtendedMessageBody payload = .ok body) : body.kind = kind := by
  rw [hbody] at h
  exact Except.ok.inj h

/-- Two notices the wrong way round, and a new card, leave the endpoint of the later notice. -/
theorem new_card_follows_notices :
    let events := [noticeOf 5 "https://new", noticeOf 3 "https://mid",
      requestOf "https://new" (kind_of_decoded (by decide +kernel))]
    ∀ n, (watchedAt primitives cardReaders boId boStore events n).FollowsNotices boId :=
  endpoint_of_highest_notice primitives cardReaders boId boStore (List.nodup_singleton _) _
    (by decide +kernel)

/-- An old card puts them back under the epoch of the notice, and the notice cannot repair it. -/
theorem old_card_displaces_notice :
    let events := [noticeOf 5 "https://new",
      requestOf "https://old" (kind_of_decoded (by decide +kernel)), noticeOf 5 "https://new"]
    (watchedAt primitives cardReaders boId boStore events 1).store.endpoint boId =
        some (some (ascii "https://new"), some (ascii "cmdep1-bo")) ∧
      ∀ n ∈ [2, 3],
        (watchedAt primitives cardReaders boId boStore events n).store.endpoint boId =
            some (some (ascii "https://old"), some (ascii "cmdep1-bo")) ∧
          ¬ (watchedAt primitives cardReaders boId boStore events n).FollowsNotices boId := by
  decide +kernel

end Example
end CruiseMesh
