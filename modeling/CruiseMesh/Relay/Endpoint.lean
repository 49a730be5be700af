import CruiseMesh.Relayd.Families
import CruiseMesh.Sync.Apply

/-!
# A contact moves to another mailbox

Mail that was posted to a contact's mailbox is marked with the time it was posted, and a
marked row is not posted again. The mark does not say where. So when the contact moves to
another mailbox, everything that was posted to the old one has to lose its mark.

Four operations write a contact's endpoint. A relay update, `apply_contact_relay_update`,
clears the marks in the transaction that moves the endpoint. A friend card, whether it is
scanned, imported or synced, moves the endpoint as well and leaves the marks alone.
-/

namespace CruiseMesh
open Durable Prog List Table Store

/-! ## The writers -/

structure RelayUpdateContent where
  subjectUserId : Bytes
  relayEpoch : Int
  relayUrl : Bytes
  relayToken : Bytes

/-- `validate_relay_update_credential`. -/
def validateRelayUpdateCredential (relayUrl relayToken : Bytes) : Except CoreError Unit := do
  refuseWhen (relayUrl.isEmpty ≠ relayToken.isEmpty)
    (.malformed "relay update must carry both a url and a token, or neither")
  refuseWhen (relayToken ≠ [] ∧ Relayd.isDepositToken relayToken = false)
    (.malformed "relay update credential must be deposit-class")

/-- A url and a token that are there and not blank. -/
def hasRelay (url token : Option Bytes) : Bool :=
  url.any (fun value => trim value ≠ []) && token.any fun value => trim value ≠ []

/-- The imported card, with the endpoint that is known where the card has none. -/
def Contact.keepingRelay (contact : Contact) (existing : Option ContactRow) : Contact :=
  match existing with
  | some row =>
    if hasRelay contact.relayUrl contact.relayToken = false ∧ hasRelay row.relayUrl row.relayToken then
      { contact with relayUrl := row.relayUrl, relayToken := row.relayToken }
    else contact
  | none => contact

/-- `upsert_imported_contact`. Scanning a card also lifts a block. -/
def upsertImportedContact (contact : Contact) : Prog Store CoreError Contact := transaction do
  let s ← get
  let existing := lookup ContactRow.userId contact.userId s.contacts
  let contact := contact.keepingRelay existing
  modify fun s => { s with
    contacts := upsert ContactRow.userId (contactRow contact existing) s.contacts
    blockedIdentities := s.blockedIdentities.filter (·.userId ≠ contact.userId) }
  pure contact

/-- The row a relay update leaves. -/
def RelayUpdateContent.row (content : RelayUpdateContent) (row : ContactRow) : ContactRow :=
  { row with
    relayUrl := if content.relayUrl = [] then none else some content.relayUrl
    relayToken := if content.relayToken = [] then none else some content.relayToken
    relayEpoch := content.relayEpoch.toNat
    relayRejectStreak := 0, relayRejectedAt := 0
    relayUnreachableEndpointKey := none, relayUnreachableStreak := 0, relayUnreachableAt := 0 }

variable (s : Store) (userId : Bytes)

/-- The contact's row moved to the new endpoint, if that is newer. -/
def Store.moving (content : RelayUpdateContent) : Store :=
  { s with
    contacts := update ContactRow.userId userId
      (fun row => if row.relayEpoch < content.relayEpoch then content.row row else row) s.contacts }

/-- The rows of the two queues that are addressed to one person, without their marks. -/
def Store.unposting : Store :=
  { s with
    outboundEnvelopes := update (·.recipientUserId) userId
      (fun row => { row with relayPostedAt := none }) s.outboundEnvelopes
    outgoingReceiptEnvelopes := update (·.recipientUserId) userId
      (fun row => { row with relayPostedAt := none }) s.outgoingReceiptEnvelopes }

/-- `apply_contact_relay_update`. -/
def applyContactRelayUpdate (senderUserId : Bytes) (content : RelayUpdateContent) (nowMs : Int) :
    Prog Store CoreError Bool := do
  refuseWhen (content.subjectUserId ≠ senderUserId)
    (CoreError.malformed "relay update may only change the sending contact's own endpoint")
  if saturateI64 (nowMs + relayEpochMaxSkewMs) < content.relayEpoch then pure false
  else do
    validateRelayUpdateCredential content.relayUrl content.relayToken
    transaction do
      let s ← get
      let changed := s.contacts.any fun row =>
        row.userId = senderUserId ∧ row.relayEpoch < content.relayEpoch
      if changed then do
        modify fun s => (s.moving senderUserId content).unposting senderUserId
        pure true
      else pure false

/-! ## Moving an endpoint -/

/-- What writes an endpoint. -/
inductive EndpointWrite where
  | card (contact : Contact)
  | importedCard (contact : Contact)
  | relayUpdate (senderUserId : Bytes) (content : RelayUpdateContent) (nowMs : Int)
  | syncedCards (record : SyncRecord)

/-- The endpoint that is stored for a contact. -/
def Store.endpoint : Option (Option Bytes × Option Bytes) :=
  (lookup ContactRow.userId userId s.contacts).map fun row => (row.relayUrl, row.relayToken)

/-- Some mail for a person is marked as posted. -/
def Store.HasPosted : Prop :=
  (∃ row ∈ s.outboundEnvelopes, row.recipientUserId = userId ∧ row.relayPostedAt ≠ none) ∨
    ∃ row ∈ s.outgoingReceiptEnvelopes, row.recipientUserId = userId ∧ row.relayPostedAt ≠ none

instance (s : Store) (userId : Bytes) : Decidable (s.HasPosted userId) :=
  inferInstanceAs (Decidable (_ ∨ _))

/-- The mail that waits for a person. -/
def Store.queueFor : List OutboundEnvelopeRow × List OutgoingReceiptEnvelopeRow :=
  (s.outboundEnvelopes.filter (·.recipientUserId = userId),
    s.outgoingReceiptEnvelopes.filter (·.recipientUserId = userId))

namespace EndpointWrite
variable (P : Primitives) (readCard : CardReader)

/-- The store after the operation, whether it went through or failed. -/
def after (s : Store) : EndpointWrite → Store
  | .card contact => (upsertContact contact).final s
  | .importedCard contact => (upsertImportedContact contact).final s
  | .relayUpdate senderUserId content nowMs =>
    (applyContactRelayUpdate senderUserId content nowMs).final s
  | .syncedCards record => (applyContacts P readCard record).final s

/-- The contacts an operation is about. -/
def subjects : EndpointWrite → List Bytes
  | .card contact => [contact.userId]
  | .importedCard contact => [contact.userId]
  | .relayUpdate senderUserId _ _ => [senderUserId]
  | .syncedCards record =>
    match coreDecodeSyncContacts record.payload with
    | .ok entries => entries.map (·.personId)
    | .error _ => []

/-- The operation changes the endpoint that was stored for a contact. -/
def Moves (s : Store) (write : EndpointWrite) (userId : Bytes) : Prop :=
  s.endpoint userId ≠ none ∧ (write.after P readCard s).endpoint userId ≠ s.endpoint userId

instance (s : Store) (write : EndpointWrite) (userId : Bytes) :
    Decidable (write.Moves P readCard s userId) := inferInstanceAs (Decidable (_ ∧ _))

/-- A contact who has moved has no marked mail, and the mail of everybody else is as it was. -/
structure Unposts (s : Store) (write : EndpointWrite) : Prop where
  moved : ∀ userId, write.Moves P readCard s userId → ¬ (write.after P readCard s).HasPosted userId
  others : ∀ userId ∉ write.subjects,
    (write.after P readCard s).queueFor userId = s.queueFor userId

def isRelayUpdate : EndpointWrite → Bool
  | .relayUpdate _ _ _ => true
  | _ => false

end EndpointWrite

/-! ## What the writers do to the queues -/

/-- The two queues of authored mail. -/
def Store.queues : List OutboundEnvelopeRow × List OutgoingReceiptEnvelopeRow :=
  (s.outboundEnvelopes, s.outgoingReceiptEnvelopes)

variable {s s' : Store} {τ : Type} {view : Store → τ} {userId other senderUserId : Bytes}
  {content : RelayUpdateContent} {nowMs : Int}

theorem hasPosted_congr (h : s'.queues = s.queues) (userId : Bytes) :
    s'.HasPosted userId ↔ s.HasPosted userId := by
  unfold Store.HasPosted
  rw [(Prod.mk.inj h).1, (Prod.mk.inj h).2]

theorem queueFor_congr (h : s'.queues = s.queues) (userId : Bytes) :
    s'.queueFor userId = s.queueFor userId := by
  unfold queueFor
  rw [(Prod.mk.inj h).1, (Prod.mk.inj h).2]

theorem keeps_upsertImportedContact {contact : Contact}
    (h : ∀ s contacts blockedIdentities, view { s with contacts, blockedIdentities } = view s) :
    (upsertImportedContact contact).Keeps view := by
  refine keeps_transaction (Tx.keeps_bind Tx.keeps_get fun s => ?_)
  exact Tx.keeps_bind (Tx.keeps_modify fun s => h s _ _) fun _ => Tx.keeps_pure _

/-- A card does not touch the queues, by whatever way it comes. -/
theorem queues_after_card (P : Primitives) (readCard : CardReader) (s : Store) {write : EndpointWrite}
    (h : write.isRelayUpdate = false) : (write.after P readCard s).queues = s.queues := by
  cases write with
  | card contact => exact (keeps_upsertContact fun _ _ => rfl).final s
  | importedCard contact => exact (keeps_upsertImportedContact fun _ _ _ => rfl).final s
  | relayUpdate senderUserId content nowMs => cases h
  | syncedCards record =>
    refine Prog.Keeps.final (keeps_lift_bind fun entries => ?_) s
    exact keeps_bind (keeps_mergeContacts ⟨fun _ _ _ => rfl, fun _ _ _ => rfl, fun _ _ => rfl⟩ _)
      fun _ => keeps_pure _

theorem not_hasPosted_unposting (s : Store) (userId : Bytes) :
    ¬ (s.unposting userId).HasPosted userId := by
  rintro (⟨row, hrow, hfor, hposted⟩ | ⟨row, hrow, hfor, hposted⟩)
  · obtain ⟨old, _, rfl⟩ := mem_map.mp hrow
    by_cases hold : old.recipientUserId = userId
    · rw [if_pos hold] at hposted
      exact hposted rfl
    · rw [if_neg hold] at hfor
      exact hold hfor
  · obtain ⟨old, _, rfl⟩ := mem_map.mp hrow
    by_cases hold : old.recipientUserId = userId
    · rw [if_pos hold] at hposted
      exact hposted rfl
    · rw [if_neg hold] at hfor
      exact hold hfor

theorem queueFor_unposting (hne : other ≠ userId) :
    (s.unposting userId).queueFor other = s.queueFor other := by
  refine Prod.ext ?_ ?_
  · exact filter_update_of_ne (fun row : OutboundEnvelopeRow => row.recipientUserId)
      (f := fun row => { row with relayPostedAt := none }) (fun _ => rfl) hne _
  · exact filter_update_of_ne (fun row : OutgoingReceiptEnvelopeRow => row.recipientUserId)
      (f := fun row => { row with relayPostedAt := none }) (fun _ => rfl) hne _

theorem RelayUpdateContent.userId_moved (content : RelayUpdateContent) (row : ContactRow) :
    (if row.relayEpoch < content.relayEpoch then content.row row else row).userId = row.userId := by
  split <;> rfl

theorem endpoint_moving (hne : other ≠ userId) (content : RelayUpdateContent) :
    (s.moving userId content).endpoint other = s.endpoint other := by
  unfold endpoint
  rw [moving, lookup_update content.userId_moved, if_neg hne.symm]

/-- A relay update is about its sender, comes from no clock too far ahead, names an endpoint that
may be stored, and is newer than what is stored. -/
structure RelayUpdateContent.Takes (content : RelayUpdateContent) (senderUserId : Bytes)
    (nowMs : Int) (contacts : List ContactRow) : Prop where
  subject : content.subjectUserId = senderUserId
  inTime : ¬ saturateI64 (nowMs + relayEpochMaxSkewMs) < content.relayEpoch
  credential : validateRelayUpdateCredential content.relayUrl content.relayToken = .ok ()
  newer : ∃ row ∈ contacts, row.userId = senderUserId ∧ row.relayEpoch < content.relayEpoch

/-- A relay update that takes effect moves the one contact and clears the marks of the mail for
them. -/
theorem returns_applyContactRelayUpdate (h : content.Takes senderUserId nowMs s.contacts) :
    (applyContactRelayUpdate senderUserId content nowMs).Returns s true
      ((s.moving senderUserId content).unposting senderUserId) := by
  unfold applyContactRelayUpdate
  rw [refuseWhen_neg (not_not.mpr h.subject), lift_ok_bind, if_neg h.inTime, h.credential,
    lift_ok_bind, returns_transaction, Tx.get_bind]
  have hany : (s.contacts.any fun row =>
      row.userId = senderUserId ∧ row.relayEpoch < content.relayEpoch) = true := by
    obtain ⟨row, hrow, hnewer⟩ := h.newer
    exact any_eq_true.mpr ⟨row, hrow, decide_eq_true hnewer⟩
  rw [if_pos hany]
  rfl

/-- Any other does nothing. -/
theorem final_applyContactRelayUpdate_of_not (h : ¬ content.Takes senderUserId nowMs s.contacts) :
    (applyContactRelayUpdate senderUserId content nowMs).final s = s ∧
      (applyContactRelayUpdate senderUserId content nowMs).result s ≠ .ok true := by
  unfold applyContactRelayUpdate
  by_cases hsubject : content.subjectUserId = senderUserId
  · rw [refuseWhen_neg (not_not.mpr hsubject), lift_ok_bind]
    by_cases htime : saturateI64 (nowMs + relayEpochMaxSkewMs) < content.relayEpoch
    · rw [if_pos htime]
      exact ⟨rfl, nofun⟩
    rw [if_neg htime]
    cases hcred : validateRelayUpdateCredential content.relayUrl content.relayToken with
    | error e => exact ⟨rfl, nofun⟩
    | ok u =>
      have hany : ¬ (s.contacts.any fun row =>
          row.userId = senderUserId ∧ row.relayEpoch < content.relayEpoch) = true := by
        intro hany
        obtain ⟨row, hrow, hnewer⟩ := any_eq_true.mp hany
        exact h ⟨hsubject, htime, hcred, row, hrow, of_decide_eq_true hnewer⟩
      rw [lift_ok_bind]
      have htx : ∀ t : Tx Store CoreError Bool, t s = .ok (false, s) →
          (transaction t).final s = s ∧ (transaction t).result s ≠ .ok true := by
        intro t ht
        obtain ⟨hresult, hfinal⟩ := transaction_ok ht
        exact ⟨hfinal, fun hok => by cases hresult.symm.trans hok⟩
      refine htx _ ?_
      rw [Tx.get_bind, if_neg hany]
      rfl
  · rw [refuseWhen_pos hsubject]
    exact ⟨rfl, nofun⟩

/-- A relay update does nothing, or it moves the one contact and clears the marks of the
mail for them. -/
theorem applyContactRelayUpdate_final (senderUserId : Bytes) (content : RelayUpdateContent)
    (nowMs : Int) (s : Store) :
    (applyContactRelayUpdate senderUserId content nowMs).final s = s ∨
      (applyContactRelayUpdate senderUserId content nowMs).final s =
        (s.moving senderUserId content).unposting senderUserId := by
  by_cases h : content.Takes senderUserId nowMs s.contacts
  · exact .inr (returns_applyContactRelayUpdate h).2
  · exact .inl (final_applyContactRelayUpdate_of_not h).1

theorem keeps_applyContactRelayUpdate (hcontacts : ∀ s contacts, view { s with contacts } = view s)
    (hqueues : ∀ s outboundEnvelopes outgoingReceiptEnvelopes,
      view { s with outboundEnvelopes, outgoingReceiptEnvelopes } = view s) :
    (applyContactRelayUpdate senderUserId content nowMs).Keeps view := by
  refine keeps_lift_bind fun _ => ?_
  split
  · exact keeps_pure _
  refine keeps_lift_bind fun _ => keeps_transaction ?_
  refine Tx.keeps_bind Tx.keeps_get fun s => ?_
  dsimp only
  split
  · refine Tx.keeps_bind (Tx.keeps_modify fun s => ?_) fun _ => Tx.keeps_pure _
    exact (hqueues _ _ _).trans (hcontacts s _)
  · exact Tx.keeps_pure _

/-- **Moving an endpoint un-posts the mail for the contact exactly when it is a relay update
that moves it, or when there was no posted mail.** -/
theorem endpoint_move_unposts_iff (P : Primitives) (readCard : CardReader) (s : Store)
    (write : EndpointWrite) :
    write.Unposts P readCard s ↔ write.isRelayUpdate = true ∨
      ∀ userId, write.Moves P readCard s userId → ¬ s.HasPosted userId := by
  cases hkind : write.isRelayUpdate with
  | false =>
    have hqueues := queues_after_card P readCard s hkind
    constructor
    · intro h
      refine .inr fun userId hmoves => ?_
      rw [← hasPosted_congr hqueues]
      exact h.moved userId hmoves
    · rintro (hupdate | h)
      · cases hupdate
      · refine ⟨fun userId hmoves => ?_, fun userId _ => queueFor_congr hqueues userId⟩
        rw [hasPosted_congr hqueues]
        exact h userId hmoves
  | true =>
    refine ⟨fun _ => .inl rfl, fun _ => ?_⟩
    cases write with
    | card contact => cases hkind
    | importedCard contact => cases hkind
    | syncedCards record => cases hkind
    | relayUpdate senderUserId content nowMs =>
      rcases applyContactRelayUpdate_final senderUserId content nowMs s with hsame | hdone
      · refine ⟨fun userId hmoves => ?_, fun userId _ => ?_⟩
        · exact absurd (congrArg (endpoint · userId) hsame) hmoves.2
        · exact congrArg (queueFor · userId) hsame
      refine ⟨fun userId hmoves => ?_, fun userId hother => ?_⟩
      · -- nobody but the sender moves
        obtain rfl : userId = senderUserId := by
          by_contra hne
          exact hmoves.2 ((congrArg (endpoint · userId) hdone).trans
            (endpoint_moving hne content))
        rw [show (EndpointWrite.relayUpdate userId content nowMs).after P readCard s = _ from hdone]
        exact not_hasPosted_unposting _ userId
      · have hne : userId ≠ senderUserId := fun heq => hother (mem_singleton.mpr heq)
        exact (congrArg (queueFor · userId) hdone).trans (queueFor_unposting hne)

section Example

/-- A contact at one mailbox, with a message that was posted there. -/
def postedStore : Store where
  contacts := [{ userId := ascii "bo", name := ascii "Bo", signPk := [], agreePk := []
                 relayUrl := some (ascii "https://old"), relayToken := some (ascii "cmdep1-old") }]
  outboundEnvelopes :=
    [{ msgId := [1], recipientUserId := ascii "bo", chatId := ascii "bo", senderUserId := ascii "me"
       kind := 1, lamport := 1, timestamp := 0, hopTtl := 3, expiry := 1000, recipientHint := []
       body := [], dedupeKey := [1], queuedAt := 0, relayPostedAt := some 1 }]

/-- Their new card, with another mailbox. -/
def movedCard : Contact where
  userId := ascii "bo"
  name := ascii "Bo"
  signPk := []
  agreePk := []
  relayUrl := some (ascii "https://new")
  relayToken := some (ascii "cmdep1-new")

/-- Both calls with the card move the contact, and the message stays marked as posted. -/
theorem moved_card_leaves_mail_posted :
    [EndpointWrite.card movedCard, .importedCard movedCard].Forall fun write =>
      write.Moves Sample.primitives (fun _ => .error ⟨.data, 1, 0⟩) postedStore (ascii "bo") ∧
        (write.after Sample.primitives (fun _ => .error ⟨.data, 1, 0⟩) postedStore).HasPosted
          (ascii "bo") := by
  decide

end Example
end CruiseMesh
