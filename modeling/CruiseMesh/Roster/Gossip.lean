import CruiseMesh.Routing.Authoring

/-!
# Telling contacts about the roster

`roster_gossip.rs`: a ledger with one row for each contact who was ever told, with the head they
were told, when, and the counter of the envelope that carried it. A contact is passed over as
current when the row is of the head this device holds and either the contact's delivered
watermark has reached the counter, or the envelope could still arrive.

The first of the two is not proof. A watermark is the largest counter the contact has, so a
later message carries it past an announcement that was lost, and from then on the contact is
never told again (`lost_announcement_is_taken_as_proof`). `gossip_skips_on_proof` says that
while no announcement is lost below a counter whose receipt is recorded, every contact passed
over does hold the head or can still get it, and for which contacts the read half and the write
half agree.

A history is what this device sends and records, and what arrives of it. Where the rest of the
store changes (contacts, blocks, the roster itself), the change is arbitrary.
-/

namespace CruiseMesh
open Durable Prog List Table AuthorStore

/-! ## The ledger -/

/-- `roster_gossip_announcements`. -/
structure RosterGossipRow where
  personUserId : Bytes
  rosterHead : Bytes
  announcedAtMs : Int
  announcedLamport : Int

/-- The store with the ledger. -/
structure GossipStore extends AuthorStore where
  rosterGossipAnnouncements : List RosterGossipRow := []

/-- A program over the other tables. -/
def onAuthorStore {α : Type} (p : Prog AuthorStore CoreError α) : Prog GossipStore CoreError α :=
  p.zoom GossipStore.toAuthorStore fun store s => { s with toAuthorStore := store }

structure AnnouncedEntry where
  head : Bytes
  announcedAtMs : Int
  announcedLamport : Int

/-- `announcement_stands_for_ms`. -/
def announcementStandsForMs : Int := authoredDeliveryLifetimeMs kindRosterGossip

/-- `announcement_covers`. -/
def announcementCovers (told : Option AnnouncedEntry) (head : Bytes) (nowMs deliveredThrough : Int) :
    Bool :=
  match told with
  | none => false
  | some entry =>
    if entry.head ≠ head then false
    else if 0 < entry.announcedLamport ∧ entry.announcedLamport ≤ deliveredThrough then true
    else nowMs < saturateI64 (entry.announcedAtMs + announcementStandsForMs)

namespace GossipStore
variable (s : GossipStore)

/-- `announced_head`. -/
def announcedHead (personUserId : Bytes) : Option AnnouncedEntry :=
  (lookup RosterGossipRow.personUserId personUserId s.rosterGossipAnnouncements).map
    fun row =>
      { head := row.rosterHead, announcedAtMs := row.announcedAtMs
        announcedLamport := row.announcedLamport }

/-- `delivered_through`. -/
def deliveredThrough (personUserId ownUserId : Bytes) : Int :=
  asI64 (s.receiptThrough personUserId ownUserId receiptTypeDelivered)

/-- `record_announced`. -/
def recordAnnounced (personUserId rosterHead : Bytes) (nowMs : Int)
    (announcedLamport : Int) : GossipStore :=
  { s with
    rosterGossipAnnouncements := upsert RosterGossipRow.personUserId
      { personUserId, rosterHead, announcedAtMs := nowMs, announcedLamport }
      s.rosterGossipAnnouncements }

/-- `forget_person`. -/
def forgetPerson (personUserId : Bytes) : GossipStore :=
  { s with
    rosterGossipAnnouncements := s.rosterGossipAnnouncements.filter fun row =>
      row.personUserId ≠ personUserId }

/-- `list_contacts`. -/
def listContacts : List Contact :=
  (s.contacts.insertionSort fun a b => a.name ≤ b.name).map fun row =>
    { userId := row.userId, name := row.name, signPk := row.signPk, agreePk := row.agreePk
      relayUrl := row.relayUrl, relayToken := row.relayToken, nickname := row.nickname }

/-- The test both calls make of a contact. -/
def coversContact (identity : Identity) (head : Bytes) (nowMs : Int) (contact : Contact) : Bool :=
  announcementCovers (s.announcedHead contact.userId) head nowMs
    (s.deliveredThrough contact.userId identity.userId)

end GossipStore

/-! ## Announcing -/

structure RosterGossipAnnouncement where
  rosterHead : Bytes := []
  envelopes : List AuthoredEnvelope := []
  alreadyCurrent : Nat := 0
  skippedBlocked : Nat := 0
  failed : Nat := 0

/-- `nothing_to_gossip`. -/
def RosterGossipAnnouncement.nothingToGossip : RosterGossipAnnouncement := {}

section Announce
variable (P : Primitives) (identity : Identity)

/-- One pass of the loop. Nothing is recorded for a contact whose envelope fails. -/
def announceContact (document head : Bytes) (nowMs : Int)
    (draw : Bytes → AuthorDraw) (contact : Contact) (announcement : RosterGossipAnnouncement) :
    Prog GossipStore CoreError RosterGossipAnnouncement := do
  if (← inspect (·.isUserBlocked contact.userId)) then
    pure { announcement with skippedBlocked := announcement.skippedBlocked + 1 }
  else if (← inspect (·.coversContact identity head nowMs contact)) then
    pure { announcement with alreadyCurrent := announcement.alreadyCurrent + 1 }
  else
    match ← attempt (onAuthorStore (authorPairwiseMessage P identity contact kindRosterGossip
      document none nowMs (draw contact.userId))) with
    | .error _ => pure { announcement with failed := announcement.failed + 1 }
    | .ok authored => do
      write (·.recordAnnounced contact.userId head nowMs (asI64 authored.message.lamport))
      pure { announcement with envelopes := announcement.envelopes ++ [authored] }

/-- The loop. -/
def announceContacts (identity : Identity) (document head : Bytes) (nowMs : Int)
    (draw : Bytes → AuthorDraw) :
    List Contact → RosterGossipAnnouncement → Prog GossipStore CoreError RosterGossipAnnouncement
  | [], announcement => pure announcement
  | contact :: rest, announcement => do
    let announcement ← announceContact P identity document head nowMs draw contact announcement
    announceContacts identity document head nowMs draw rest announcement

/-- What a call does that finds a roster about its identity. -/
def announceRoster (roster : Roster) (nowMs : Int)
    (draw : Bytes → AuthorDraw) : Prog GossipStore CoreError RosterGossipAnnouncement := do
  let gate ← inspect (·.guardLinkGate .author)
  gate
  let document ← (coreEncodeRoster roster : Except CoreError Bytes)
  let contacts ← inspect (·.listContacts)
  announceContacts P identity document (rosterHeadHash P roster) nowMs draw contacts
    { rosterHead := rosterHeadHash P roster }

/-- `announce_own_roster`. -/
def announceOwnRoster (nowMs : Int) (draw : Bytes → AuthorDraw) :
    Prog GossipStore CoreError RosterGossipAnnouncement := do
  match ← inspect (·.ownRoster) with
  | none => pure .nothingToGossip
  | some roster =>
    if identity.userId ≠ roster.personId then pure .nothingToGossip
    else announceRoster P identity roster nowMs draw

/-- `roster_gossip_pending`. -/
def GossipStore.rosterGossipPending (s : GossipStore) (identity : Identity) (nowMs : Int) :
    List Bytes :=
  match s.ownRoster with
  | none => []
  | some roster =>
    if identity.userId ≠ roster.personId then []
    else (s.listContacts.filter fun contact => ¬ s.isUserBlocked contact.userId ∧
      ¬ s.coversContact identity (rosterHeadHash P roster) nowMs contact).map (·.userId)

end Announce

/-! ## One contact -/

namespace GossipStore
variable (s : GossipStore) (identity : Identity)

/-- What the loop reads about a contact. -/
def facing (document : Bytes) (nowMs : Int)
    (contact : Contact) : Bool × Option AnnouncedEntry × Int × Bool × StoredMessage :=
  (s.isUserBlocked contact.userId, s.announcedHead contact.userId,
    s.deliveredThrough contact.userId identity.userId, s.linkGateAllows .author,
    s.authoredMessage identity contact.userId kindRosterGossip document nowMs)

/-- The contact is owed the document. -/
def Owed (head : Bytes) (nowMs : Int) (contact : Contact) : Prop :=
  ¬ s.isUserBlocked contact.userId = true ∧ ¬ s.coversContact identity head nowMs contact = true

/-- The contact is taken to have it. -/
def Current (head : Bytes) (nowMs : Int) (contact : Contact) : Prop :=
  ¬ s.isUserBlocked contact.userId = true ∧ s.coversContact identity head nowMs contact = true

instance (s : GossipStore) (identity : Identity) (head : Bytes) (nowMs : Int) :
    DecidablePred (s.Owed identity head nowMs) := fun _ => inferInstanceAs (Decidable (_ ∧ _))

instance (s : GossipStore) (identity : Identity) (head : Bytes) (nowMs : Int) :
    DecidablePred (s.Current identity head nowMs) := fun _ => inferInstanceAs (Decidable (_ ∧ _))

variable {s s' : GossipStore} {identity : Identity} {document head : Bytes} {nowMs : Int}
  {contact : Contact}

theorem covers_congr (h : s'.facing identity document nowMs contact =
    s.facing identity document nowMs contact) :
    s'.isUserBlocked contact.userId = s.isUserBlocked contact.userId ∧
      s'.coversContact identity head nowMs contact = s.coversContact identity head nowMs contact := by
  simp only [facing, Prod.mk.injEq] at h
  obtain ⟨hblocked, htold, hdelivered, -, -⟩ := h
  unfold coversContact
  rw [hblocked, htold, hdelivered]
  exact ⟨rfl, rfl⟩

theorem sendable_congr (h : s'.facing identity document nowMs contact =
    s.facing identity document nowMs contact) :
    s'.Sendable identity contact document nowMs ↔ s.Sendable identity contact document nowMs := by
  simp only [facing, Prod.mk.injEq] at h
  obtain ⟨-, -, -, hgate, hmessage⟩ := h
  constructor
  · intro ⟨hopen, hbody, hagree, hsign⟩
    exact ⟨hgate ▸ hopen, hmessage ▸ hbody, hagree, hsign⟩
  · intro ⟨hopen, hbody, hagree, hsign⟩
    exact ⟨hgate.symm ▸ hopen, hmessage.symm ▸ hbody, hagree, hsign⟩

end GossipStore

section Loop
variable {P : Primitives} {identity : Identity} {document head : Bytes} {nowMs : Int}
  {draw : Bytes → AuthorDraw}

theorem keeps_onAuthorStore {α τ : Type} {p : Prog AuthorStore CoreError α}
    {view : GossipStore → τ}
    (h : ∀ s : GossipStore, p.Keeps fun store => view { s with toAuthorStore := store }) :
    (onAuthorStore p).Keeps view :=
  fun s => throughout_zoom rfl (h s s.toAuthorStore)

variable {other : Contact} {announcement announcement' : RosterGossipAnnouncement}
  {mid : GossipStore} {contact : Contact} {s s' : GossipStore}

theorem authorFrame_facing (hne : contact.userId ≠ other.userId) (s : GossipStore) :
    AuthorFrame contact.userId identity.userId fun store =>
      { s with toAuthorStore := store }.facing identity document nowMs other where
  watermark store message hchat hsender := by
    have hmessage := (authorFrame_authoredMessage identity kindRosterGossip document nowMs
      hne).watermark store message hchat hsender
    exact congrArg (fun m => (store.isUserBlocked other.userId,
      s.announcedHead other.userId, _, store.linkGateAllows .author, m)) hmessage
  message store message msgId reply hchat := by
    have hrest := view_insertMessage (fun s => (s.isUserBlocked other.userId,
      s.receiptThrough other.userId identity.userId receiptTypeDelivered,
      s.linkGateAllows .author)) (fun _ _ _ => rfl) store message msgId reply
    have hmessage := (authorFrame_authoredMessage identity kindRosterGossip document nowMs
      hne).message store message msgId reply hchat
    simp only [GossipStore.facing, Prod.mk.injEq] at hrest ⊢
    exact ⟨hrest.1, rfl, congrArg asI64 hrest.2.1, hrest.2.2, hmessage⟩
  queue _ _ := rfl
  settings _ _ := rfl

/-- What one pass of the loop does, by what it finds. -/
inductive AnnounceStep (identity : Identity) (document head : Bytes) (nowMs : Int)
    (contact : Contact) (s : GossipStore) (announcement : RosterGossipAnnouncement) :
    RosterGossipAnnouncement → GossipStore → Prop
  | blocked (h : s.isUserBlocked contact.userId = true) :
    AnnounceStep identity document head nowMs contact s announcement
      { announcement with skippedBlocked := announcement.skippedBlocked + 1 } s
  | current (h : s.Current identity head nowMs contact) :
    AnnounceStep identity document head nowMs contact s announcement
      { announcement with alreadyCurrent := announcement.alreadyCurrent + 1 } s
  | failed {s' : GossipStore} (h : s.Owed identity head nowMs contact)
    (hsend : ¬ s.Sendable identity contact document nowMs)
    (hledger : s'.rosterGossipAnnouncements = s.rosterGossipAnnouncements) :
    AnnounceStep identity document head nowMs contact s announcement
      { announcement with failed := announcement.failed + 1 } s'
  | told {s' : GossipStore} {authored : AuthoredEnvelope}
    (h : s.Owed identity head nowMs contact) (hsend : s.Sendable identity contact document nowMs)
    (hmessage : authored.message =
      s.authoredMessage identity contact.userId kindRosterGossip document nowMs)
    (hexpiry : authored.envelope.expiry = authoredExpiry kindRosterGossip nowMs)
    (hledger : s'.rosterGossipAnnouncements = (s.recordAnnounced contact.userId head nowMs
      (asI64 authored.message.lamport)).rosterGossipAnnouncements) :
    AnnounceStep identity document head nowMs contact s announcement
      { announcement with envelopes := announcement.envelopes ++ [authored] } s'

variable (P identity document head nowMs draw) in
/-- The loop never fails on a contact. -/
theorem returns_announceContact (contact : Contact) (s : GossipStore)
    (announcement : RosterGossipAnnouncement) :
    ∃ announcement' s', (announceContact P identity document head nowMs draw contact
        announcement).Returns s announcement' s' ∧
      AnnounceStep identity document head nowMs contact s announcement announcement' s' := by
  by_cases hblocked : s.isUserBlocked contact.userId = true
  · refine ⟨_, s, returns_inspect_bind.mpr ?_, .blocked hblocked⟩
    rw [if_pos hblocked]
    exact ⟨rfl, rfl⟩
  by_cases hcovers : s.coversContact identity head nowMs contact = true
  · refine ⟨_, s, returns_inspect_bind.mpr ?_, .current ⟨hblocked, hcovers⟩⟩
    rw [if_neg hblocked]
    refine returns_inspect_bind.mpr ?_
    rw [if_pos hcovers]
    exact ⟨rfl, rfl⟩
  have howed : s.Owed identity head nowMs contact := ⟨hblocked, hcovers⟩
  set author := authorPairwiseMessage P identity contact kindRosterGossip document none nowMs
    (draw contact.userId) with hauthor
  have hkeeps : (onAuthorStore author).Keeps GossipStore.rosterGossipAnnouncements :=
    keeps_onAuthorStore fun _ _ _ _ => rfl
  have hledger := hkeeps.final s
  unfold announceContact
  simp only [returns_inspect_bind, if_neg hblocked, if_neg hcovers]
  cases hres : author.result s.toAuthorStore with
  | error e =>
    have hsend : ¬ s.Sendable identity contact document nowMs := by
      intro hsend
      obtain ⟨a, ha⟩ := author_gossip_ok_iff.mpr hsend
      rw [hres] at ha
      cases ha
    refine ⟨_, (onAuthorStore author).final s, ?_, .failed howed hsend hledger⟩
    refine returns_bind.mpr ⟨.error e, _, returns_attempt.mpr ⟨hres, rfl⟩, ?_⟩
    exact ⟨rfl, rfl⟩
  | ok authored =>
    have hsend : s.Sendable identity contact document nowMs := author_gossip_ok_iff.mp ⟨_, hres⟩
    obtain ⟨hmessage, hexpiry⟩ := returns_author ⟨hres, rfl⟩
    refine ⟨_, ((onAuthorStore author).final s).recordAnnounced contact.userId head nowMs
      (asI64 authored.message.lamport), ?_, .told howed hsend hmessage hexpiry ?_⟩
    · refine returns_bind.mpr ⟨.ok authored, _, returns_attempt.mpr ⟨hres, rfl⟩, ?_⟩
      refine returns_bind.mpr ⟨(), _, returns_write.mpr rfl, ?_⟩
      exact ⟨rfl, rfl⟩
    · unfold GossipStore.recordAnnounced
      rw [hledger]

/-- A pass over one contact changes nothing the loop reads about another. -/
theorem keeps_facing_announceContact (hne : contact.userId ≠ other.userId)
    (announcement : RosterGossipAnnouncement) :
    (announceContact P identity document head nowMs draw contact announcement).Keeps
      fun s => s.facing identity document nowMs other := by
  refine keeps_inspect_bind fun blocked => ?_
  split
  · exact keeps_pure _
  refine keeps_inspect_bind fun covers => ?_
  split
  · exact keeps_pure _
  refine keeps_bind (fun s => ?_) fun outcome => ?_
  · exact keeps_onAuthorStore (fun s => (authorFrame_facing hne s).keeps_author) s
  · split
    · exact keeps_pure _
    · refine keeps_bind (keeps_write fun s => ?_) fun _ => keeps_pure _
      simp only [GossipStore.facing, GossipStore.announcedHead, GossipStore.recordAnnounced,
        lookup_upsert, if_neg hne]
      rfl

/-- What a run of the loop reports, in terms of the state it started in. -/
structure Reports (identity : Identity) (document head : Bytes) (nowMs : Int) (s : GossipStore)
    (contacts : List Contact) (announcement announcement' : RosterGossipAnnouncement) : Prop where
  told : announcement'.envelopes.map (·.message.chatId) =
    announcement.envelopes.map (·.message.chatId) ++ (contacts.filter fun contact =>
      s.Owed identity head nowMs contact ∧
        s.Sendable identity contact document nowMs).map (·.userId)
  current : announcement'.alreadyCurrent = announcement.alreadyCurrent +
    contacts.countP fun contact => s.Current identity head nowMs contact

theorem AnnounceStep.reports
    (h : AnnounceStep identity document head nowMs contact s announcement announcement' s') :
    Reports identity document head nowMs s [contact] announcement announcement' := by
  cases h with
  | blocked h =>
    have howed : ¬ s.Owed identity head nowMs contact := fun howed => howed.1 h
    have hcurrent : ¬ s.Current identity head nowMs contact := fun hcurrent => hcurrent.1 h
    constructor <;> simp [howed, hcurrent]
  | current h =>
    have howed : ¬ s.Owed identity head nowMs contact := fun howed => howed.2 h.2
    constructor <;> simp [howed, h]
  | failed h hsend hledger =>
    have hcurrent : ¬ s.Current identity head nowMs contact := fun hcurrent => h.2 hcurrent.2
    constructor <;> simp [hsend, hcurrent]
  | told h hsend hmessage hexpiry hledger =>
    have hcurrent : ¬ s.Current identity head nowMs contact := fun hcurrent => h.2 hcurrent.2
    constructor <;> simp [h, hsend, hcurrent, hmessage, authoredMessage]

/-- Two runs one after the other, when the first leaves what the second reads. -/
theorem Reports.append {first second : List Contact} {a b c : RosterGossipAnnouncement}
    (hfirst : Reports identity document head nowMs s first a b)
    (hsecond : Reports identity document head nowMs mid second b c)
    (hsame : ∀ contact ∈ second, mid.facing identity document nowMs contact =
      s.facing identity document nowMs contact) :
    Reports identity document head nowMs s (first ++ second) a c where
  told := by
    have hfilter : (second.filter fun contact => mid.Owed identity head nowMs contact ∧
          mid.Sendable identity contact document nowMs) =
        second.filter fun contact => s.Owed identity head nowMs contact ∧
          s.Sendable identity contact document nowMs := by
      refine filter_congr fun contact hcontact => ?_
      obtain ⟨hblocked, hcovers⟩ := GossipStore.covers_congr (hsame contact hcontact)
      rw [decide_eq_decide, GossipStore.Owed, hblocked, hcovers,
        GossipStore.sendable_congr (hsame contact hcontact)]
      rfl
    rw [hsecond.told, hfirst.told, hfilter, filter_append, map_append, append_assoc]
  current := by
    have hcount : second.countP (fun contact => mid.Current identity head nowMs contact) =
        second.countP fun contact => s.Current identity head nowMs contact := by
      refine countP_congr fun contact hcontact => ?_
      obtain ⟨hblocked, hcovers⟩ := GossipStore.covers_congr (hsame contact hcontact)
      rw [decide_eq_true_iff, decide_eq_true_iff, GossipStore.Current, hblocked, hcovers]
      rfl
    rw [hsecond.current, hfirst.current, hcount, countP_append, Nat.add_assoc]

/-- What the loop adds: every row of the ledger was there before or is of an envelope in the
report. -/
structure LedgerGrows (head : Bytes) (nowMs : Int) (s : GossipStore)
    (announcement : RosterGossipAnnouncement) (s' : GossipStore)
    (announcement' : RosterGossipAnnouncement) : Prop where
  rows : ∀ row ∈ s'.rosterGossipAnnouncements, row ∈ s.rosterGossipAnnouncements ∨
    ∃ authored ∈ announcement'.envelopes, authored.message.chatId = row.personUserId ∧
      row.rosterHead = head ∧ row.announcedAtMs = nowMs ∧
      row.announcedLamport = asI64 authored.message.lamport ∧
      authored.envelope.expiry = authoredExpiry kindRosterGossip nowMs
  kept : announcement.envelopes ⊆ announcement'.envelopes

theorem AnnounceStep.ledgerGrows
    (h : AnnounceStep identity document head nowMs contact s announcement announcement' s') :
    LedgerGrows head nowMs s announcement s' announcement' := by
  cases h with
  | blocked h => exact ⟨fun row hrow => .inl hrow, fun _ h => h⟩
  | current h => exact ⟨fun row hrow => .inl hrow, fun _ h => h⟩
  | failed h hsend hledger => exact ⟨fun row hrow => .inl (hledger ▸ hrow), fun _ h => h⟩
  | told h hsend hmessage hexpiry hledger =>
    refine ⟨fun row hrow => ?_, subset_append_left _ _⟩
    rw [hledger] at hrow
    rcases mem_upsert hrow with hold | rfl
    · exact .inl hold
    · refine .inr ⟨_, mem_append_right _ (mem_singleton_self _), ?_, rfl, rfl, ?_, hexpiry⟩
      · rw [hmessage]
        rfl
      · dsimp only

theorem LedgerGrows.trans {between : RosterGossipAnnouncement}
    (hfirst : LedgerGrows head nowMs s announcement mid between)
    (hsecond : LedgerGrows head nowMs mid between s' announcement') :
    LedgerGrows head nowMs s announcement s' announcement' where
  rows row hrow := by
    rcases hsecond.rows row hrow with hmid | hnew
    · rcases hfirst.rows row hmid with hold | ⟨authored, hauthored, hrest⟩
      · exact .inl hold
      · exact .inr ⟨authored, hsecond.kept hauthored, hrest⟩
    · exact .inr hnew
  kept := List.Subset.trans hfirst.kept hsecond.kept

variable (P identity document head nowMs draw) in
/-- The loop from beginning to end, and its report, when no contact is listed twice. -/
theorem returns_announceContacts : ∀ (contacts : List Contact) (s : GossipStore)
    (announcement : RosterGossipAnnouncement),
    ∃ announcement' s', (announceContacts P identity document head nowMs draw contacts
        announcement).Returns s announcement' s' ∧
      LedgerGrows head nowMs s announcement s' announcement' ∧
      ((contacts.map (·.userId)).Nodup →
        Reports identity document head nowMs s contacts announcement announcement')
  | [], s, announcement =>
    ⟨announcement, s, ⟨rfl, rfl⟩, ⟨fun _ hrow => .inl hrow, fun _ h => h⟩,
      fun _ => ⟨by simp, by simp⟩⟩
  | contact :: rest, s, announcement => by
    obtain ⟨between, mid, hfirst, hstep⟩ :=
      returns_announceContact P identity document head nowMs draw contact s announcement
    obtain ⟨announcement', s', hrun, hgrows, hreports⟩ := returns_announceContacts rest mid between
    refine ⟨announcement', s', returns_bind.mpr ⟨between, mid, hfirst, hrun⟩,
      hstep.ledgerGrows.trans hgrows, fun hnd => ?_⟩
    obtain ⟨hfresh, hrest⟩ := nodup_cons.mp hnd
    refine hstep.reports.append (hreports hrest) fun other hother => ?_
    have hne : contact.userId ≠ other.userId :=
      fun heq => hfresh (mem_map.mpr ⟨other, hother, heq.symm⟩)
    exact (keeps_facing_announceContact hne announcement).returns hfirst

end Loop

/-! ## A whole call -/

section Call
variable (P : Primitives)

/-- A call with this identity comes to the contacts: there is a roster, it is about the
identity, the gate is open, and the document encodes. -/
structure GossipStore.Announcing (s : GossipStore) (identity : Identity) (roster : Roster)
    (document : Bytes) : Prop where
  held : s.ownRoster = some roster
  person : identity.userId = roster.personId
  gate : s.linkGateAllows .author = true
  encoded : coreEncodeRoster roster = .ok document

/-- Whom a call would tell. -/
def GossipStore.toldBy (s : GossipStore) (identity : Identity) (nowMs : Int)
    (draw : Bytes → AuthorDraw) : List Bytes :=
  match (announceOwnRoster P identity nowMs draw).result s with
  | .ok announcement => announcement.envelopes.map (·.message.chatId)
  | .error _ => []

variable {P} {s : GossipStore} {identity : Identity} {roster : Roster} {document : Bytes}
  {nowMs : Int} {draw : Bytes → AuthorDraw}

theorem announceOwnRoster_apply : announceOwnRoster P identity nowMs draw s =
    (match s.ownRoster with
      | none => pure .nothingToGossip
      | some roster => if identity.userId ≠ roster.personId then pure .nothingToGossip
        else announceRoster P identity roster nowMs draw :
      Prog GossipStore CoreError RosterGossipAnnouncement) s := rfl

theorem announceRoster_apply : announceRoster P identity roster nowMs draw s =
    (do
      (s.guardLinkGate .author : Except CoreError Unit)
      let document ← (coreEncodeRoster roster : Except CoreError Bytes)
      announceContacts P identity document (rosterHeadHash P roster) nowMs draw s.listContacts
        { rosterHead := rosterHeadHash P roster } :
      Prog GossipStore CoreError RosterGossipAnnouncement) s := rfl

/-- Such a call is the loop. -/
theorem GossipStore.Announcing.run (h : s.Announcing identity roster document) :
    announceOwnRoster P identity nowMs draw s =
      announceContacts P identity document (rosterHeadHash P roster) nowMs draw s.listContacts
        { rosterHead := rosterHeadHash P roster } s := by
  have hgate : s.guardLinkGate .author = .ok () := guardLinkGate_eq_ok.mpr h.gate
  rw [announceOwnRoster_apply, h.held]
  dsimp only
  rw [if_neg (not_not.mpr h.person), announceRoster_apply, hgate, h.encoded]
  rfl

theorem GossipStore.Announcing.returns (h : s.Announcing identity roster document)
    {announcement : RosterGossipAnnouncement} {s' : GossipStore}
    (hrun : (announceContacts P identity document (rosterHeadHash P roster) nowMs draw
      s.listContacts { rosterHead := rosterHeadHash P roster }).Returns s announcement s') :
    (announceOwnRoster P identity nowMs draw).Returns s announcement s' := by
  unfold Returns Prog.result Prog.final
  rw [h.run]
  exact hrun

variable (P nowMs draw) in
/-- Any other call tells nobody, and changes nothing. -/
theorem announceOwnRoster_idle
    (h : ∀ roster document, ¬ s.Announcing identity roster document) :
    (∀ announcement, (announceOwnRoster P identity nowMs draw).result s = .ok announcement →
      announcement.envelopes = []) ∧ (announceOwnRoster P identity nowMs draw).final s = s := by
  unfold Prog.result Prog.final
  rw [announceOwnRoster_apply]
  cases hheld : s.ownRoster with
  | none => exact ⟨fun _ heq => Except.ok.inj heq ▸ rfl, rfl⟩
  | some roster =>
    dsimp only
    by_cases hperson : identity.userId ≠ roster.personId
    · rw [if_pos hperson]
      exact ⟨fun _ heq => Except.ok.inj heq ▸ rfl, rfl⟩
    rw [if_neg hperson, announceRoster_apply]
    cases hgate : s.guardLinkGate .author with
    | error e => exact ⟨fun _ heq => (nomatch heq), rfl⟩
    | ok u =>
      cases hencoded : coreEncodeRoster roster with
      | error e => exact ⟨fun _ heq => (nomatch heq), rfl⟩
      | ok document =>
        exact absurd ⟨hheld, not_not.mp hperson, guardLinkGate_eq_ok.mp hgate, hencoded⟩
          (h roster document)

variable (P nowMs draw) in
/-- What a call reports, when no contact is listed twice. -/
theorem GossipStore.Announcing.reports (h : s.Announcing identity roster document)
    (hnd : (s.listContacts.map (·.userId)).Nodup) :
    ∃ announcement, (announceOwnRoster P identity nowMs draw).result s = .ok announcement ∧
      Reports identity document (rosterHeadHash P roster) nowMs s s.listContacts
        { rosterHead := rosterHeadHash P roster } announcement := by
  obtain ⟨announcement, s', hrun, -, hreports⟩ := returns_announceContacts P identity document
    (rosterHeadHash P roster) nowMs draw s.listContacts s { rosterHead := rosterHeadHash P roster }
  exact ⟨announcement, (h.returns hrun).1, hreports hnd⟩

/-- The contacts that would be told are those that are owed the roster and to whom it can be
sent. -/
theorem GossipStore.Announcing.toldBy_eq (h : s.Announcing identity roster document)
    (hnd : (s.listContacts.map (·.userId)).Nodup) :
    s.toldBy P identity nowMs draw = ((s.listContacts.filter fun contact =>
      s.Owed identity (rosterHeadHash P roster) nowMs contact).filter fun contact =>
        s.Sendable identity contact document nowMs).map (·.userId) := by
  obtain ⟨announcement, hres, hreports⟩ := h.reports P nowMs draw hnd
  have htold : announcement.envelopes.map (·.message.chatId) = _ := hreports.told
  unfold GossipStore.toldBy
  rw [hres]
  dsimp only
  rw [htold, filter_filter]
  simp [and_comm]

end Call

/-! ## Histories -/

/-- An envelope on its way to a contact, and the roster it announces, if it does. -/
structure SentEnvelope where
  recipient : Bytes
  lamport : Nat
  announces : Option Roster
  expiry : Int

/-- This device, the envelopes it has sent, and the places in that list of those that have
arrived, in the order of their arrival. -/
structure GossipWorld where
  store : GossipStore
  sent : List SentEnvelope := []
  received : List Nat := []

inductive GossipStep where
  /-- A call of `announce_own_roster`. -/
  | announce (nowMs : Int) (draw : Bytes → AuthorDraw)
  /-- Any other message to a contact. -/
  | message (contact : Contact) (kind : UInt8) (payload : Bytes) (reply : Option Bytes)
    (nowMs : Int) (draw : AuthorDraw)
  /-- An envelope arrives; one that never does is lost. -/
  | arrive (index : Nat)
  /-- The delivered receipt of a contact, sent when `arrivals` envelopes had arrived. -/
  | receipt (contact : Bytes) (arrivals : Nat)
  | forget (person : Bytes)
  /-- Whatever else happens to the store. -/
  | elsewhere (other : Store)

/-- The largest counter a contact holds after a number of arrivals. -/
def GossipWorld.watermark (w : GossipWorld) (contact : Bytes) (arrivals : Nat) : Nat :=
  (((w.received.take arrivals).filterMap (w.sent[·]?)).filter fun envelope =>
    envelope.recipient = contact).foldl (fun high envelope => max high envelope.lamport) 0

/-- The envelopes a result authored. -/
def sentBy (roster : Option Roster) (authored : List AuthoredEnvelope) : List SentEnvelope :=
  authored.map fun authored =>
    { recipient := authored.message.chatId, lamport := authored.message.lamport
      announces := roster, expiry := authored.envelope.expiry }

section History
variable (P : Primitives) (identity : Identity) (w : GossipWorld)

def GossipWorld.step : GossipStep → GossipWorld
  | .announce nowMs draw =>
    let call := announceOwnRoster P identity nowMs draw
    { w with
      store := call.final w.store
      sent := w.sent ++ match call.result w.store with
        | .ok announcement => sentBy w.store.ownRoster announcement.envelopes
        | .error _ => [] }
  | .message contact kind payload reply nowMs draw =>
    let call := onAuthorStore
      (authorPairwiseMessage P identity contact kind payload reply nowMs draw)
    { w with
      store := call.final w.store
      sent := w.sent ++ match call.result w.store with
        | .ok authored => sentBy none [authored]
        | .error _ => [] }
  | .arrive index =>
    if index < w.sent.length then { w with received := w.received ++ [index] } else w
  | .receipt contact arrivals =>
    let call := recordReceipt contact identity.userId receiptTypeDelivered
      (w.watermark contact arrivals)
    { w with store := { w.store with toStore := call.final w.store.toStore } }
  | .forget person => { w with store := w.store.forgetPerson person }
  | .elsewhere other =>
    { w with store := { w.store with toStore := { other with receipts := w.store.receipts } } }

/-- A device that has told nobody yet. -/
def GossipWorld.start (store : AuthorStore) : GossipWorld := { store := { store with } }

/-- The envelope at a place announces the roster, or a later one, to the contact. -/
def GossipWorld.Tells (roster : Roster) (contact : Bytes) (index : Nat)
    (envelope : SentEnvelope) : Prop :=
  w.sent[index]? = some envelope ∧ envelope.recipient = contact ∧
    ∃ announced, envelope.announces = some announced ∧
      (rosterHeadHash P announced = rosterHeadHash P roster ∨ roster.version < announced.version)

/-- A contact is passed over as current only when an announcement of the roster, or of a later
one, can still reach them or has. -/
def GossipWorld.SkipsOnProof (nowMs : Int) : Prop :=
  ∀ roster document, w.store.Announcing identity roster document →
    ∀ contact ∈ w.store.listContacts,
      w.store.Current identity (rosterHeadHash P roster) nowMs contact →
      ∃ index envelope, w.Tells P roster contact.userId index envelope ∧
        (nowMs < envelope.expiry ∨ index ∈ w.received)

/-- No announcement was lost below a counter whose receipt is recorded: those the delivered
watermark of a contact has passed have arrived. -/
def GossipWorld.NoneLostBelow : Prop :=
  ∀ (index : Nat) (envelope : SentEnvelope), w.sent[index]? = some envelope →
    envelope.announces.isSome →
    asI64 envelope.lamport ≤ w.store.deliveredThrough envelope.recipient identity.userId →
    index ∈ w.received

/-- Every row of the ledger is of an envelope that was sent. -/
def GossipWorld.LedgerSound : Prop :=
  ∀ row ∈ w.store.rosterGossipAnnouncements, ∃ envelope ∈ w.sent,
    envelope.recipient = row.personUserId ∧
      (∃ announced, envelope.announces = some announced ∧
        rosterHeadHash P announced = row.rosterHead) ∧
      asI64 envelope.lamport = row.announcedLamport ∧
      envelope.expiry = saturateI64 (row.announcedAtMs + announcementStandsForMs)

end History

section Soundness
variable {P : Primitives} {identity : Identity} {w : GossipWorld}

/-- More envelopes and fewer rows change nothing. -/
theorem GossipWorld.LedgerSound.mono {w' : GossipWorld} (h : w.LedgerSound P)
    (hrows : w'.store.rosterGossipAnnouncements ⊆ w.store.rosterGossipAnnouncements)
    (hsent : w.sent ⊆ w'.sent) : w'.LedgerSound P := by
  intro row hrow
  obtain ⟨envelope, henvelope, hrest⟩ := h row (hrows hrow)
  exact ⟨envelope, hsent henvelope, hrest⟩

theorem GossipWorld.LedgerSound.announce (h : w.LedgerSound P) (nowMs : Int)
    (draw : Bytes → AuthorDraw) : (w.step P identity (.announce nowMs draw)).LedgerSound P := by
  by_cases hcall : ∃ roster document, w.store.Announcing identity roster document
  · obtain ⟨roster, document, hcall⟩ := hcall
    obtain ⟨announcement, s', hrun, hgrows, -⟩ := returns_announceContacts P identity document
      (rosterHeadHash P roster) nowMs draw w.store.listContacts w.store
      { rosterHead := rosterHeadHash P roster }
    obtain ⟨hres, hfinal⟩ := hcall.returns hrun
    have hstep : w.step P identity (.announce nowMs draw) = { w with
        store := s', sent := w.sent ++ sentBy (some roster) announcement.envelopes } := by
      unfold GossipWorld.step
      simp only [hres, hfinal, hcall.held]
    rw [hstep]
    intro row hrow
    rcases hgrows.rows row hrow with
      hold | ⟨authored, hauthored, hperson, hhead, hat, hlamport, hexpiry⟩
    · obtain ⟨envelope, henvelope, hrest⟩ := h row hold
      exact ⟨envelope, mem_append_left _ henvelope, hrest⟩
    · refine ⟨_, mem_append_right _ (mem_map_of_mem hauthored), hperson,
        ⟨roster, rfl, hhead.symm⟩, hlamport.symm, ?_⟩
      rw [hat]
      exact hexpiry
  · push Not at hcall
    obtain ⟨-, hfinal⟩ := announceOwnRoster_idle P nowMs draw hcall
    have hstore : (w.step P identity (.announce nowMs draw)).store = w.store := hfinal
    refine h.mono ?_ (subset_append_left _ _)
    rw [hstore]
    exact List.Subset.refl _

theorem GossipWorld.LedgerSound.step (h : w.LedgerSound P) (step : GossipStep) :
    (w.step P identity step).LedgerSound P := by
  cases step with
  | announce nowMs draw => exact h.announce nowMs draw
  | message contact kind payload reply nowMs draw =>
    set call := authorPairwiseMessage P identity contact kind payload reply nowMs draw with hcall
    have hkeeps : (onAuthorStore call).Keeps GossipStore.rosterGossipAnnouncements :=
      keeps_onAuthorStore fun _ _ _ _ => rfl
    refine h.mono ?_ (subset_append_left _ _)
    rw [← hkeeps.final w.store]
    exact List.Subset.refl _
  | arrive index =>
    unfold GossipWorld.step
    dsimp only
    split
    · exact h.mono (List.Subset.refl _) (List.Subset.refl _)
    · exact h
  | receipt contact arrivals =>
    exact h.mono (List.Subset.refl _) (List.Subset.refl _)
  | forget person =>
    exact h.mono filter_sublist.subset (List.Subset.refl _)
  | elsewhere other =>
    exact h.mono (List.Subset.refl _) (List.Subset.refl _)

/-- In a sound state where no announcement was lost below a receipt, the contacts are passed over
on proof. -/
theorem GossipWorld.LedgerSound.skipsOnProof (h : w.LedgerSound P)
    (hlost : w.NoneLostBelow identity) (nowMs : Int) : w.SkipsOnProof P identity nowMs := by
  intro roster document hcall contact hcontact ⟨hblocked, hcovers⟩
  unfold GossipStore.coversContact announcementCovers at hcovers
  split at hcovers
  · cases hcovers
  next entry htold =>
    split at hcovers
    · cases hcovers
    next hhead =>
      -- the row is of an envelope that was sent to this contact
      obtain ⟨row, hrow, rfl⟩ := Option.map_eq_some_iff.mp htold
      obtain ⟨envelope, henvelope, hperson, ⟨announced, hannounced, hheads⟩, hlamport, hexpiry⟩ :=
        h row (mem_of_lookup hrow)
      obtain ⟨index, hindex⟩ := mem_iff_getElem?.mp henvelope
      have hrecipient := hperson.trans (key_of_lookup hrow)
      refine ⟨index, envelope, ⟨hindex, hrecipient, announced, hannounced,
        .inl (hheads.trans (not_not.mp hhead))⟩, ?_⟩
      split at hcovers
      next hproof =>
        refine .inr (hlost index envelope hindex (by simp [hannounced]) ?_)
        rw [hlamport, hrecipient]
        exact hproof.2
      next =>
        rw [hexpiry]
        exact .inl (of_decide_eq_true hcovers)

end Soundness

/-! ## The two halves -/

section Halves
variable {P : Primitives} {s : GossipStore} {identity : Identity} {nowMs : Int}
  {draw : Bytes → AuthorDraw}

/-- The contact can be told: a call comes to it, and the document can be sent. -/
def GossipStore.Tellable (s : GossipStore) (identity : Identity) (nowMs : Int)
    (contact : Contact) : Prop :=
  ∃ roster document, s.Announcing identity roster document ∧
    s.Sendable identity contact document nowMs

/-- A filter that drops nothing. -/
theorem map_filter_eq_iff {α β : Type} (f : α → β) (p : α → Bool) (l : List α) :
    (l.filter p).map f = l.map f ↔ ∀ a ∈ l, p a = true := by
  constructor
  · intro h
    have hlength : (l.filter p).length = l.length := by
      simpa using congrArg length h
    exact length_filter_eq_length_iff.mp hlength
  · intro h
    rw [filter_eq_self.mpr h]

theorem GossipStore.nodup_listContacts (hnd : (s.contacts.map (·.userId)).Nodup) :
    (s.listContacts.map (·.userId)).Nodup := by
  unfold GossipStore.listContacts
  rw [map_map]
  exact ((perm_insertionSort _ _).map _).nodup_iff.mpr hnd

variable {roster : Roster} {document : Bytes}

theorem GossipStore.Announcing.pending_eq (h : s.Announcing identity roster document) :
    s.rosterGossipPending P identity nowMs = (s.listContacts.filter fun contact =>
      s.Owed identity (rosterHeadHash P roster) nowMs contact).map (·.userId) := by
  unfold GossipStore.rosterGossipPending
  rw [h.held]
  dsimp only
  rw [if_neg (not_not.mpr h.person)]
  rfl

theorem GossipStore.exists_of_pending {id : Bytes}
    (h : id ∈ s.rosterGossipPending P identity nowMs) :
    ∃ contact ∈ s.listContacts, contact.userId = id := by
  unfold GossipStore.rosterGossipPending at h
  split at h
  · cases h
  · split at h
    · cases h
    · obtain ⟨contact, hcontact, hid⟩ := mem_map.mp h
      exact ⟨contact, mem_of_mem_filter hcontact, hid⟩

/-- A roster that is announced is the one that is held. -/
theorem GossipStore.Announcing.unique {other : Roster} {document' : Bytes}
    (h : s.Announcing identity roster document) (h' : s.Announcing identity other document') :
    other = roster ∧ document' = document := by
  obtain rfl : other = roster := Option.some.inj (h'.held.symm.trans h.held)
  exact ⟨rfl, Except.ok.inj (h'.encoded.symm.trans h.encoded)⟩

variable (P identity nowMs draw) in
/-- Who is pending is who would be told, exactly when everybody pending can be. -/
theorem toldBy_eq_pending_iff (hnd : (s.contacts.map (·.userId)).Nodup) :
    s.toldBy P identity nowMs draw = s.rosterGossipPending P identity nowMs ↔
      ∀ contact ∈ s.listContacts, contact.userId ∈ s.rosterGossipPending P identity nowMs →
        s.Tellable identity nowMs contact := by
  have hlisted := s.nodup_listContacts hnd
  by_cases hcall : ∃ roster document, s.Announcing identity roster document
  · obtain ⟨roster, document, hcall⟩ := hcall
    rw [hcall.toldBy_eq hlisted, hcall.pending_eq, map_filter_eq_iff]
    constructor
    · intro hall contact hcontact hpending
      obtain ⟨owed, howed, hid⟩ := mem_map.mp hpending
      obtain rfl : owed = contact :=
        inj_on_of_nodup_map hlisted (mem_of_mem_filter howed) hcontact hid
      exact ⟨roster, document, hcall, of_decide_eq_true (hall owed howed)⟩
    · intro hall contact howed
      obtain ⟨other, document', hcall', hsend⟩ :=
        hall contact (mem_of_mem_filter howed) (mem_map_of_mem howed)
      obtain ⟨rfl, rfl⟩ := hcall.unique hcall'
      exact decide_eq_true hsend
  · push Not at hcall
    have hnobody : s.toldBy P identity nowMs draw = [] := by
      unfold GossipStore.toldBy
      cases hres : (announceOwnRoster P identity nowMs draw).result s with
      | error e => rfl
      | ok announcement =>
        simp [(announceOwnRoster_idle P nowMs draw hcall).1 announcement hres]
    rw [hnobody]
    constructor
    · intro hnone contact hcontact hpending
      rw [← hnone] at hpending
      cases hpending
    · intro hall
      refine (eq_nil_iff_forall_not_mem.mpr fun id hid => ?_).symm
      obtain ⟨contact, hcontact, rfl⟩ := GossipStore.exists_of_pending hid
      obtain ⟨roster, document, hcall', -⟩ := hall contact hcontact hid
      exact hcall roster document hcall'

end Halves

/-- **Which contacts are passed over, and which are pending.** At every point of every history
of announcements, other messages, arrivals, losses and receipts:

* every contact passed over as current has received an announcement of the roster or of a later
  one, or can still get it, if no announcement was lost below a counter whose receipt is recorded;
* the contacts passed over are the ones counted as current;
* the pending contacts are those a call would tell, exactly when each of them can be told. -/
theorem gossip_skips_on_proof (P : Primitives) (identity : Identity) (store : AuthorStore)
    (history : List GossipStep) (n : Nat) {w : GossipWorld}
    (hw : Runs.stateAt (GossipWorld.step P identity) (GossipWorld.start store) history n = w)
    (hkeys : (w.store.contacts.map (·.userId)).Nodup) :
    (w.NoneLostBelow identity → ∀ nowMs, w.SkipsOnProof P identity nowMs) ∧
      ∀ nowMs draw,
        (∀ announcement roster document, w.store.Announcing identity roster document →
          (announceOwnRoster P identity nowMs draw).result w.store = .ok announcement →
          announcement.alreadyCurrent = w.store.listContacts.countP fun contact =>
            w.store.Current identity (rosterHeadHash P roster) nowMs contact) ∧
        (w.store.toldBy P identity nowMs draw = w.store.rosterGossipPending P identity nowMs ↔
          ∀ contact ∈ w.store.listContacts,
            contact.userId ∈ w.store.rosterGossipPending P identity nowMs →
              w.store.Tellable identity nowMs contact) := by
  have hsound : w.LedgerSound P := by
    rw [← hw]
    exact Runs.stateAt_invariant (GossipWorld.LedgerSound P) (fun _ step h => h.step step)
      (fun _ => (absurd · not_mem_nil)) n
  refine ⟨hsound.skipsOnProof, fun nowMs draw => ⟨?_, ?_⟩⟩
  · intro announcement roster document hcall hres
    obtain ⟨announcement', hres', hreports⟩ :=
      hcall.reports P nowMs draw (w.store.nodup_listContacts hkeys)
    cases hres'.symm.trans hres
    simpa using hreports.current
  · exact toldBy_eq_pending_iff P identity nowMs draw hkeys

/-! Two histories of one announcement. -/

section Histories
open Sample

def gossipIdentity : Identity where
  userId := person
  signPk := personRoot
  signSk := secretKey 1
  agreePk := agreeKey (secretKey 4)
  agreeSk := secretKey 4

def gossipFriend : Contact where
  userId := [66]
  name := [66]
  signPk := publicKey (secretKey 5)
  agreePk := agreeKey (secretKey 5)

def gossipDraw : AuthorDraw where
  msgId := replicate msgIdLen 1
  entropy := ⟨[], replicate nonceLen 0, length_zeroNonce⟩

/-- A person with one device and one contact, whose agreement key is `agreePk`. -/
def gossipStore (agreePk : Bytes) : AuthorStore where
  contacts := [contactRow { gossipFriend with agreePk } none]
  ownRoster := some firstRoster

/-- The announcement arrives, and the friend says so. -/
def heardAnnouncement : List GossipStep :=
  [.announce 0 fun _ => gossipDraw, .arrive 0, .receipt gossipFriend.userId 1]

/-- The announcement is lost. A text sent after it arrives, and the friend says so. -/
def lostAnnouncement : List GossipStep :=
  [.announce 0 fun _ => gossipDraw, .message gossipFriend kindText [104] none 0 gossipDraw,
    .arrive 1, .receipt gossipFriend.userId 1]

/-- Where a history ends. -/
def gossipEnd (history : List GossipStep) : GossipWorld :=
  Runs.stateAt (GossipWorld.step primitives gossipIdentity)
    (GossipWorld.start (gossipStore gossipFriend.agreePk)) history history.length

theorem sample_gossip_on_proof :
    (∀ nowMs, (gossipEnd heardAnnouncement).SkipsOnProof primitives gossipIdentity nowMs) ∧
      (gossipEnd heardAnnouncement).store.toldBy primitives gossipIdentity 0
          (fun _ => gossipDraw) =
        (gossipEnd heardAnnouncement).store.rosterGossipPending primitives gossipIdentity 0 := by
  have hkeys : ((gossipEnd heardAnnouncement).store.contacts.map (·.userId)).Nodup := by
    decide +kernel
  have hsent : (gossipEnd heardAnnouncement).sent.length = 1 := by decide +kernel
  have hreceived : 0 ∈ (gossipEnd heardAnnouncement).received := by decide +kernel
  have hpending : (gossipEnd heardAnnouncement).store.rosterGossipPending primitives
      gossipIdentity 0 = [] := by decide +kernel
  obtain ⟨hskips, hrest⟩ := gossip_skips_on_proof primitives gossipIdentity
    (gossipStore gossipFriend.agreePk) heardAnnouncement heardAnnouncement.length rfl hkeys
  refine ⟨hskips ?_, (hrest 0 fun _ => gossipDraw).2.mpr ?_⟩
  · intro index envelope hindex _ _
    obtain ⟨hlt, -⟩ := List.getElem?_eq_some_iff.mp hindex
    obtain rfl : index = 0 := Nat.lt_one_iff.mp (hsent ▸ hlt)
    exact hreceived
  · intro contact _ hin
    have hnone : contact.userId ∈ ([] : List Bytes) := hpending ▸ hin
    cases hnone

/-- A week after an announcement that was lost, the friend who acknowledged a later text is
passed over, and not pending either. And a friend whose key is too short is pending, but is
not told. -/
theorem lost_announcement_is_taken_as_proof :
    (¬ (gossipEnd lostAnnouncement).SkipsOnProof primitives gossipIdentity defaultExpiryMs ∧
      (gossipEnd lostAnnouncement).store.rosterGossipPending primitives gossipIdentity
        defaultExpiryMs = []) ∧
      (GossipWorld.start (gossipStore [7, 7, 7])).store.rosterGossipPending primitives
        gossipIdentity 0 = [gossipFriend.userId] ∧
      (GossipWorld.start (gossipStore [7, 7, 7])).store.toldBy primitives gossipIdentity 0
        (fun _ => gossipDraw) = [] := by
  refine ⟨⟨fun hskips => ?_, by decide +kernel⟩, by decide +kernel, by decide +kernel⟩
  have hheld : (gossipEnd lostAnnouncement).store.ownRoster = some firstRoster := by
    decide +kernel
  have hgate : (gossipEnd lostAnnouncement).store.linkGateAllows .author = true := by
    decide +kernel
  obtain ⟨document, hencoded⟩ : ∃ document, coreEncodeRoster firstRoster = .ok document := by
    decide +kernel
  have hlisted : gossipFriend ∈ (gossipEnd lostAnnouncement).store.listContacts := by
    decide +kernel
  have hcurrent : (gossipEnd lostAnnouncement).store.Current gossipIdentity
      (rosterHeadHash primitives firstRoster) defaultExpiryMs gossipFriend := by decide +kernel
  have hexpired : ∀ envelope ∈ (gossipEnd lostAnnouncement).sent, envelope.announces.isSome →
      ¬ defaultExpiryMs < envelope.expiry := by decide +kernel
  have hlost : ∀ index ∈ (gossipEnd lostAnnouncement).received,
      ∀ envelope ∈ (gossipEnd lostAnnouncement).sent[index]?, envelope.announces = none := by
    decide +kernel
  obtain ⟨index, envelope, ⟨hsent, _, announced, hannounces, _⟩, harrives | hreceived⟩ :=
    hskips firstRoster document ⟨hheld, rfl, hgate, hencoded⟩ gossipFriend hlisted hcurrent
  · exact hexpired envelope (mem_of_getElem? hsent) (by simp [hannounces]) harrives
  · have hnone := hlost index hreceived envelope hsent
    rw [hannounces] at hnone
    cases hnone

end Histories
end CruiseMesh
