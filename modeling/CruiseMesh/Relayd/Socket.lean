import CruiseMesh.Relayd.Steps

/-!
# Replay and live push

A socket subscribes to the broadcasts, replays what is stored behind its cursor, and then
pushes what is broadcast. A post inserts its row in one step and broadcasts it in a later
one, so a broadcast may overtake that of a row with a lower id. The socket remembers only
the last id it has sent, and drops whatever is not above it: ids go out in ascending
order, so nothing is sent twice, but a broadcast that was overtaken is never sent.

`Delivery` says how a stored row stands to the socket at any moment: it has been sent, the
replay saw it expired, the replay is still to read it, or its broadcast is on its way and
nothing that would hide it is in front of it. Where broadcasts are made in the order of the
ids this is an invariant (`sound_next`), and `rows_sent_exactly_once` follows: once
nothing is on its way any more, every row has been sent exactly once.
-/

namespace CruiseMesh.Relayd
open RelayStore List

/-! ## The socket -/

/-- What `ws_handler` has decoded and checked. -/
structure Subscription where
  familyToken : Bytes
  hints : List Bytes
  after : Int
  someHints : hints ≠ []
  fewHints : hints.length ≤ maxFetchHints

namespace Subscription
variable (sub : Subscription)

/-- The broadcast is for this socket. -/
def Wants (b : BroadcastEnvelope) : Prop :=
  b.familyToken = sub.familyToken ∧ b.recipientHint ∈ sub.hints

instance (b : BroadcastEnvelope) : Decidable (sub.Wants b) := by
  unfold Wants; infer_instance

/-- The row is one the socket has asked for. -/
def Covers (row : EnvelopeRow) : Prop :=
  row.familyToken = sub.familyToken ∧ row.recipientHint ∈ sub.hints ∧ sub.after < row.id

instance (row : EnvelopeRow) : Decidable (sub.Covers row) := by
  unfold Covers; infer_instance

end Subscription

inductive Phase where
  | connecting
  | replay
  | live
  | closed
deriving DecidableEq

/-- The tables, the posts that have inserted and not yet broadcast, and one socket: its
queue of broadcasts, its cursor and what it has sent. `clocks` are the readings of the
replay. -/
structure Socket where
  store : RelayStore
  pending : List BroadcastEnvelope
  channel : List BroadcastEnvelope
  phase : Phase
  after : Int
  sent : List StoredEnvelope
  clocks : List Clock

inductive SocketStep where
  | insert (access : FamilyAccess) (request : PostEnvelopeRequest) (now : Clock)
  | broadcast (b : BroadcastEnvelope)
  | subscribe
  | replay (now : Clock)
  | receive

section Next
variable (sub : Subscription)

/-- A socket before it subscribes. -/
def Socket.start (store : RelayStore) : Socket where
  store
  pending := []
  channel := []
  phase := .connecting
  after := sub.after
  sent := []
  clocks := []

/-- One batch of the replay loop of `handle_ws`. -/
def Socket.replayBatch (s : Socket) (now : Clock) : Socket :=
  match s.store.fetchEnvelopes sub.familyToken sub.hints s.after defaultFetchLimit now.1 with
  | .error _ => { s with phase := .closed }
  -- the replay ends on an empty batch, never on a short one
  | .ok [] => { s with phase := .live, clocks := now :: s.clocks }
  | .ok page =>
    { s with
      sent := s.sent ++ page
      after := page.foldl (fun after e => max after e.id) s.after
      clocks := now :: s.clocks }

/-- `rx.recv()` in the live loop of `handle_ws`. -/
def Socket.receive (s : Socket) : Socket :=
  match s.channel with
  | [] => s
  | b :: rest =>
    if sub.Wants b ∧ s.after < b.envelope.id then
      { s with
        channel := rest
        after := max s.after b.envelope.id
        sent := s.sent ++ [b.envelope] }
    else { s with channel := rest }

/-- The socket and the tables after a step. -/
def SocketStep.next (s : Socket) : SocketStep → Socket
  | .insert access request now =>
    let (answer, store) := postEnvelope access request now.1 s.store
    { s with store, pending := s.pending ++ (answer.toOption.map (·.broadcast)).toList }
  | .broadcast b =>
    if b ∈ s.pending then
      { s with
        pending := s.pending.erase b
        -- a broadcast reaches whoever has subscribed by then
        channel := if s.phase = .replay ∨ s.phase = .live then s.channel ++ [b] else s.channel }
    else s
  | .subscribe => if s.phase = .connecting then { s with phase := .replay } else s
  | .replay now => if s.phase = .replay then s.replayBatch sub now else s
  | .receive => if s.phase = .live then s.receive sub else s

end Next

/-! ## Steps in order -/

/-- While the socket is live, what it wants is broadcast in the order of the ids; and a post
that finds its row stored already finds it unexpired, by the clocks the replay has read, if
the replay can not read it any more. -/
def SocketStep.InOrder (sub : Subscription) (s : Socket) : SocketStep → Prop
  | .broadcast b =>
    s.phase = .live → sub.Wants b → ∀ other ∈ s.pending, sub.Wants other →
      s.after < other.envelope.id → other.envelope.id < b.envelope.id →
      ∃ c ∈ s.channel, sub.Wants c ∧ c.envelope.id = other.envelope.id
  | .insert access request _ =>
    ∀ held ∈ s.store.envelopes.find access.token request.msgId, held.sealed = request.sealed →
      sub.Covers held → s.phase = .live ∨ held.id ≤ s.after →
      ∀ clock ∈ s.clocks, clock.1 < held.expiryMs
  | _ => True

instance (sub : Subscription) (s : Socket) (step : SocketStep) : Decidable (step.InOrder sub s) := by
  cases step <;> unfold SocketStep.InOrder <;> infer_instance

/-! ## What is sent -/

variable {sub : Subscription} {s : Socket}

/-- What holds of a socket in every run: ids go out in ascending order up to its cursor. -/
structure Ascending (sub : Subscription) (s : Socket) : Prop where
  sent : (s.sent.map (·.id)).Pairwise (· < ·)
  upTo : ∀ e ∈ s.sent, e.id ≤ s.after
  cursor : s.after = sub.after ∨ s.after ≤ s.store.envelopes.lastId
  pendingIssued : ∀ b ∈ s.pending, b.envelope.id ≤ s.store.envelopes.lastId
  channelIssued : ∀ b ∈ s.channel, b.envelope.id ≤ s.store.envelopes.lastId
  opened : s.phase ≠ .closed

/-- How a row stands to the socket. -/
inductive Delivery (sub : Subscription) (s : Socket) (row : EnvelopeRow) : Prop where
  | sent (h : ∃ e ∈ s.sent, e.id = row.id)
  /-- the replay saw it expired -/
  | expired {clock : Clock} (hclock : clock ∈ s.clocks) (h : row.expiryMs ≤ clock.1)
  /-- the replay is still to read it -/
  | ahead (hphase : s.phase = .connecting ∨ s.phase = .replay) (hafter : s.after < row.id)
  /-- its broadcast is in the queue, behind nothing with a higher id -/
  | queued {before behind : List BroadcastEnvelope} {b : BroadcastEnvelope}
      (hphase : s.phase = .live) (hafter : s.after < row.id)
      (hchannel : s.channel = before ++ b :: behind) (hwants : sub.Wants b)
      (hid : b.envelope.id = row.id)
      (hbefore : ∀ other ∈ before, sub.Wants other → other.envelope.id ≤ row.id)
  /-- its broadcast is still to be made, and nothing with a higher id is in the queue -/
  | pending {b : BroadcastEnvelope} (hphase : s.phase = .live) (hafter : s.after < row.id)
      (hpending : b ∈ s.pending) (hwants : sub.Wants b) (hid : b.envelope.id = row.id)
      (hchannel : ∀ other ∈ s.channel, sub.Wants other → other.envelope.id ≤ row.id)

/-- Every row that the socket has asked for stands in one of these ways. -/
def Delivered (sub : Subscription) (s : Socket) : Prop :=
  ∀ row ∈ s.store.envelopes.rows, sub.Covers row → Delivery sub s row

/-! ### A post -/

variable {store : RelayStore} {request : PostEnvelopeRequest} {access : FamilyAccess}

/-- What a post broadcasts when it is answered. -/
theorem broadcast_of_posted {nowMs : Int} {posted : Posted}
    (h : (postEnvelope access request nowMs store).1.toOption = some posted) :
    posted.broadcast.familyToken = access.token ∧
      posted.broadcast.recipientHint = request.recipientHint ∧
      posted.broadcast.envelope.id = posted.id := by
  rcases postEnvelope_cases access request nowMs store with ⟨e, he⟩ | ⟨result, s', _, hpost⟩
  · rw [he] at h
    cases h
  rw [hpost] at h
  cases result with
  | stored id =>
    cases h
    exact ⟨rfl, rfl, rfl⟩
  | quotaExceeded _ => cases h
  | depositShareExceeded _ _ _ => cases h
  | msgIdConflict => cases h

/-- What is kept of every run, and what is kept where the steps are in order. -/
structure Sound (sub : Subscription) (s : Socket) : Prop where
  ascending : Ascending sub s
  delivered : Delivered sub s

variable {pending : List BroadcastEnvelope}

/-- Only the tables and the pending broadcasts have changed. -/
theorem Ascending.of_insert (h : Ascending sub s)
    (hlast : s.store.envelopes.lastId ≤ store.envelopes.lastId)
    (hpending : ∀ b ∈ pending, b ∈ s.pending ∨ b.envelope.id ≤ store.envelopes.lastId) :
    Ascending sub { s with store, pending } := by
  refine ⟨h.sent, h.upTo, h.cursor.imp_right fun hle => ?_, fun b hb => ?_, fun b hb => ?_, h.opened⟩
  · exact hle.trans (Int.ofNat_le.mpr hlast)
  · rcases hpending b hb with hold | hnew
    · exact (h.pendingIssued b hold).trans (Int.ofNat_le.mpr hlast)
    · exact hnew
  · exact (h.channelIssued b hb).trans (Int.ofNat_le.mpr hlast)

/-- More may be pending, and a post may have extended the row's expiry. -/
theorem Delivery.again {held row' : EnvelopeRow} (h : Delivery sub s held) (hopened : s.phase ≠ .closed)
    (hpending : ∀ b ∈ s.pending, b ∈ pending) (hid : row'.id = held.id)
    (hlive : row'.expiryMs = held.expiryMs ∨
      (s.phase = .live ∨ held.id ≤ s.after → ∀ clock ∈ s.clocks, clock.1 < held.expiryMs)) :
    Delivery sub { s with store, pending } row' := by
  cases h with
  | expired hclock hgone =>
    rcases hlive with hsame | hlive
    · exact .expired hclock (hsame ▸ hgone)
    -- the condition says that the replay is still to read the row
    have hnot : ¬ (s.phase = .live ∨ held.id ≤ s.after) := fun hlate =>
      absurd (hlive hlate _ hclock) (not_lt.mpr hgone)
    rw [not_or, not_le] at hnot
    refine .ahead ?_ (by rw [hid]; exact hnot.2)
    cases hphase : s.phase with
    | connecting => exact .inl rfl
    | replay => exact .inr rfl
    | live => exact absurd hphase hnot.1
    | closed => exact absurd hphase hopened
  | sent hsent => exact .sent (by rw [hid]; exact hsent)
  | ahead hphase hafter => exact .ahead hphase (by rw [hid]; exact hafter)
  | queued hphase hafter hchannel hwants hb hbefore =>
    exact .queued hphase (by rw [hid]; exact hafter) hchannel hwants (hb.trans hid.symm)
      (by rw [hid]; exact hbefore)
  | pending hphase hafter hb hwants hbid hchannel =>
    exact .pending hphase (by rw [hid]; exact hafter) (hpending _ hb) hwants (hbid.trans hid.symm)
      (by rw [hid]; exact hchannel)

variable {now : Clock}

theorem sound_insert (h : Sound sub s)
    (hok : (SocketStep.insert access request now).InOrder sub s) :
    Sound sub ((SocketStep.insert access request now).next sub s) := by
  have hpost := postStep access request now.1 s.store
  have hbroadcast := fun posted => @broadcast_of_posted s.store request access now.1 posted
  show Sound sub { s with
    store := (postEnvelope access request now.1 s.store).2
    pending := s.pending ++
      ((postEnvelope access request now.1 s.store).1.toOption.map (·.broadcast)).toList }
  generalize (postEnvelope access request now.1 s.store).1.toOption = answer at hpost hbroadcast ⊢
  generalize (postEnvelope access request now.1 s.store).2 = store at hpost ⊢
  have hkeep : ∀ pending : List BroadcastEnvelope, ∀ row ∈ s.store.envelopes.rows, sub.Covers row →
      Delivery sub { s with store, pending := s.pending ++ pending } row := fun pending row hrow hcovers =>
    (h.delivered row hrow hcovers).again h.ascending.opened (fun _ hb => mem_append_left _ hb) rfl
      (.inl rfl)
  have hpruned : ∀ row ∈ (s.store.pruneExpired now.1).envelopes.rows, row ∈ s.store.envelopes.rows := by
    intro row hrow
    rw [rows_pruneExpired] at hrow
    exact (mem_filter.mp hrow).1
  cases hpost with
  | refused =>
    refine ⟨h.ascending.of_insert (le_refl _) fun b hb => .inl (by simpa using hb), ?_⟩
    exact fun row hrow => hkeep _ row hrow
  | full =>
    refine ⟨h.ascending.of_insert (le_refl _) fun b hb => .inl (by simpa using hb), ?_⟩
    exact fun row hrow => hkeep _ row (hpruned row hrow)
  | @again held posted hfind hsame hid =>
    have hmem := Envelopes.key_of_find hfind
    obtain ⟨_, _, hbid⟩ := hbroadcast posted rfl
    constructor
    · refine h.ascending.of_insert (le_refl _) fun b hb => ?_
      rcases mem_append.mp hb with hold | hnew
      · exact .inl hold
      · obtain rfl : b = posted.broadcast := by simpa using hnew
        rw [hbid, hid]
        exact .inr (s.store.envelopes.issued held hmem.1).2
    · intro row' hrow' hcovers'
      obtain ⟨row, hrow, rfl⟩ := mem_map.mp (show row' ∈ s.store.envelopes.rows.map _ from hrow')
      by_cases hkey : row.familyToken = access.token ∧ row.msgId = request.msgId
      · obtain rfl : row = held := by
          refine Table.eq_of_key_eq s.store.envelopes.unique hrow hmem.1 ?_
          rw [EnvelopeRow.key, EnvelopeRow.key, hkey.1, hkey.2, hmem.2.1, hmem.2.2]
        have hcovers : sub.Covers row := by
          have hextended : (newEnvelope access request now.1).extend row =
            { row with hopTtl := _, expiryMs := _ } := if_pos hkey
          rw [hextended] at hcovers'
          exact hcovers'
        exact (h.delivered row hrow hcovers).again h.ascending.opened
          (fun _ hb => mem_append_left _ hb) (NewEnvelope.extend_id _ row)
          (.inr (hok row hfind hsame hcovers))
      · have hother : (newEnvelope access request now.1).extend row = row := if_neg hkey
        rw [hother] at hcovers' ⊢
        exact hkeep _ row hrow hcovers'
  | @fresh base _ posted hfind hbase hrows hlast hfamilies hid =>
    obtain ⟨hfor, hhint, hbid⟩ := hbroadcast posted rfl
    constructor
    · refine h.ascending.of_insert (by omega) fun b hb => ?_
      rcases mem_append.mp hb with hold | hnew
      · exact .inl hold
      · obtain rfl : b = posted.broadcast := by simpa using hnew
        rw [hbid, hid, hlast]
        exact .inr (le_refl _)
    · intro row' hrow' hcovers'
      have hrow' : row' ∈ store.envelopes.rows := hrow'
      rw [hrows, mem_append, mem_singleton] at hrow'
      rcases hrow' with hold | rfl
      · refine hkeep _ row' ?_ hcovers'
        rcases hbase with rfl | rfl
        · exact hold
        · exact hpruned row' hold
      -- the row is new, so its id is above everything that is on its way
      have hafter : s.after < s.store.envelopes.lastId + 1 := by
        rcases h.ascending.cursor with heq | hle
        · rw [heq]
          exact hcovers'.2.2
        · omega
      cases hphase : s.phase with
      | connecting => exact .ahead (.inl rfl) hafter
      | replay => exact .ahead (.inr rfl) hafter
      | live =>
        refine .pending rfl hafter
          (mem_append_right _ (by simp : posted.broadcast ∈ _)) ?_ (hbid.trans hid) ?_
        · exact ⟨hfor.trans hcovers'.1, hhint ▸ hcovers'.2.1⟩
        · intro other hother _
          have := h.ascending.channelIssued other hother
          show other.envelope.id ≤ (s.store.envelopes.lastId : Int) + 1
          omega
      | closed => exact absurd hphase h.ascending.opened

/-! ### A broadcast -/

theorem sound_broadcast (h : Sound sub s) {b : BroadcastEnvelope}
    (hok : (SocketStep.broadcast b).InOrder sub s) :
    Sound sub ((SocketStep.broadcast b).next sub s) := by
  rw [SocketStep.next]
  split
  · rename_i hb
    have hqueue : s.phase = .live → (if s.phase = .replay ∨ s.phase = .live then s.channel ++ [b]
        else s.channel) = s.channel ++ [b] := fun hlive => if_pos (.inr hlive)
    refine ⟨⟨h.ascending.sent, h.ascending.upTo, h.ascending.cursor,
      fun c hc => h.ascending.pendingIssued c (mem_of_mem_erase hc), ?_, h.ascending.opened⟩, ?_⟩
    · intro c hc
      split at hc
      · rcases mem_append.mp hc with hold | hnew
        · exact h.ascending.channelIssued c hold
        · rw [mem_singleton.mp hnew]
          exact h.ascending.pendingIssued b hb
      · exact h.ascending.channelIssued c hc
    · intro row hrow hcovers
      cases h.delivered row hrow hcovers with
      | sent hsent => exact .sent hsent
      | expired hclock hgone => exact .expired hclock hgone
      | ahead hphase hafter => exact .ahead hphase hafter
      | @queued before behind c hphase hafter hchannel hwants hid hbefore =>
        have hsplit : s.channel ++ [b] = before ++ c :: (behind ++ [b]) := by
          rw [hchannel, append_assoc, cons_append]
        exact .queued hphase hafter ((hqueue hphase).trans hsplit) hwants hid hbefore
      | @pending c hphase hafter hc hwants hid hchannel =>
        by_cases hsame : c = b
        · subst hsame
          exact .queued hphase hafter (hqueue hphase) hwants hid hchannel
        by_cases hlater : sub.Wants b ∧ row.id < b.envelope.id
        · -- the row's own broadcast is in the queue already
          obtain ⟨d, hd, hdwants, hdid⟩ := hok hphase hlater.1 c hc hwants (hid ▸ hafter)
            (hid ▸ hlater.2)
          obtain ⟨before, behind, hsplit⟩ := append_of_mem hd
          have hgrown : s.channel ++ [b] = before ++ d :: (behind ++ [b]) := by
            rw [hsplit, append_assoc, cons_append]
          exact .queued hphase hafter ((hqueue hphase).trans hgrown) hdwants (hdid.trans hid)
            fun other hother => hchannel other (hsplit ▸ mem_append_left _ hother)
        · refine .pending hphase hafter ((mem_erase_of_ne hsame).mpr hc) hwants hid ?_
          rw [hqueue hphase]
          intro other hother hother'
          rcases mem_append.mp hother with hold | hnew
          · exact hchannel other hold hother'
          · rw [mem_singleton.mp hnew] at hother' ⊢
            exact not_lt.mp fun hlt => hlater ⟨hother', hlt⟩
  · exact h

/-! ### Replaying -/

theorem sound_subscribe (h : Sound sub s) : Sound sub (SocketStep.subscribe.next sub s) := by
  rw [SocketStep.next]
  split
  · rename_i hphase
    refine ⟨⟨h.ascending.sent, h.ascending.upTo, h.ascending.cursor, h.ascending.pendingIssued,
      h.ascending.channelIssued, nofun⟩, fun row hrow hcovers => ?_⟩
    cases h.delivered row hrow hcovers with
    | sent hsent => exact .sent hsent
    | expired hclock hgone => exact .expired hclock hgone
    | ahead _ hafter => exact .ahead (.inr rfl) hafter
    | queued hlive => rw [hphase] at hlive; cases hlive
    | pending hlive => rw [hphase] at hlive; cases hlive
  · exact h

/-- What is behind the cursor goes out in ascending order, up to a new cursor. -/
theorem Ascending.sends {page : List StoredEnvelope} {after : Int} (h : Ascending sub s)
    (hafter : s.after ≤ after) (hpage : page.Pairwise (·.id < ·.id))
    (hbehind : ∀ e ∈ page, s.after < e.id) (hall : ∀ e ∈ page, e.id ≤ after) :
    ((s.sent ++ page).map (·.id)).Pairwise (· < ·) ∧ ∀ e ∈ s.sent ++ page, e.id ≤ after := by
  constructor
  · rw [map_append]
    refine pairwise_append.mpr ⟨h.sent, pairwise_map.mpr hpage, ?_⟩
    intro i hi j hj
    obtain ⟨e, he, rfl⟩ := mem_map.mp hi
    obtain ⟨e', he', rfl⟩ := mem_map.mp hj
    exact (h.upTo e he).trans_lt (hbehind e' he')
  · intro e he
    rcases mem_append.mp he with hold | hnew
    · exact (h.upTo e hold).trans hafter
    · exact hall e hnew

theorem le_foldl_max (page : List StoredEnvelope) (after : Int) :
    after ≤ page.foldl (fun after e => max after e.id) after ∧
      ∀ e ∈ page, e.id ≤ page.foldl (fun after e => max after e.id) after := by
  rw [← foldl_map (g := max)]
  obtain ⟨hle, hall⟩ := foldl_max_le.mp (le_refl ((page.map (·.id)).foldl max after))
  exact ⟨hle, fun e he => hall _ (mem_map_of_mem he)⟩

/-- A row behind the cursor that the batch could see. -/
theorem mem_behind_visible (s : Socket) {row : EnvelopeRow} (hrow : row ∈ s.store.envelopes.rows)
    (hcovers : sub.Covers row) (hafter : s.after < row.id) (hlive : now.1 < row.expiryMs) :
    StoredEnvelope.ofRow row ∈ Paging.behind (·.id) s.after
      ((s.store.visible sub.familyToken sub.hints now.1).map StoredEnvelope.ofRow) := by
  refine mem_filter.mpr ⟨mem_map_of_mem (mem_filter.mpr ⟨hrow, ?_⟩), ?_⟩
  · exact decide_eq_true ⟨hcovers.1, hcovers.2.1, hlive⟩
  · exact decide_eq_true hafter

/-- A batch of the replay. -/
theorem sound_replay_page (h : Sound sub s) (hphase : s.phase = .replay)
    {page : List StoredEnvelope}
    (hpage : Paging.IsPage (·.id)
      ((s.store.visible sub.familyToken sub.hints now.1).map StoredEnvelope.ofRow) s.after page) :
    Sound sub { s with
      sent := s.sent ++ page
      after := page.foldl (fun after e => max after e.id) s.after
      clocks := now :: s.clocks } := by
  obtain ⟨rest, hsplit⟩ := hpage.isPrefix
  obtain ⟨hle, hall⟩ := le_foldl_max page s.after
  have hsorted : (page ++ rest).Pairwise (·.id < ·.id) :=
    hsplit ▸ (ascending_visible s.store sub.familyToken sub.hints now.1).filter _
  have hparts := pairwise_append.mp hsorted
  have hbehind : ∀ e ∈ page ++ rest, s.after < e.id := by
    intro e he
    rw [hsplit] at he
    simpa using (mem_filter.mp he).2
  constructor
  · obtain ⟨hsent, hupTo⟩ := h.ascending.sends hle hparts.1
      (fun e he => hbehind e (mem_append_left _ he)) hall
    refine ⟨hsent, hupTo, ?_, h.ascending.pendingIssued, h.ascending.channelIssued,
      h.ascending.opened⟩
    rw [← foldl_map (g := max)]
    rcases page with _ | ⟨first, others⟩
    · exact h.ascending.cursor
    · have hlast : ∀ e ∈ first :: others, e.id ≤ s.store.envelopes.lastId := by
        intro e he
        have hmem : e ∈ Paging.behind (·.id) s.after _ := hsplit ▸ mem_append_left rest he
        obtain ⟨row, hrow, rfl⟩ := mem_map.mp (mem_filter.mp hmem).1
        exact (s.store.envelopes.issued row (mem_filter.mp hrow).1).2
      refine .inr (foldl_max_le.mpr ⟨?_, forall_mem_map.mpr hlast⟩)
      exact (hbehind first mem_cons_self).le.trans (hlast first mem_cons_self)
  · intro row hrow hcovers
    cases h.delivered row hrow hcovers with
    | sent hsent =>
      obtain ⟨e, he, hid⟩ := hsent
      exact .sent ⟨e, mem_append_left _ he, hid⟩
    | expired hclock hgone => exact .expired (mem_cons_of_mem _ hclock) hgone
    | ahead _ hafter =>
      by_cases hlive : now.1 < row.expiryMs
      · have hmem := mem_behind_visible s hrow hcovers hafter hlive
        rw [← hsplit, mem_append] at hmem
        rcases hmem with hin | hbeyond
        · exact .sent ⟨_, mem_append_right _ hin, rfl⟩
        · refine .ahead (.inr hphase) ?_
          rw [← foldl_map (g := max)]
          exact foldl_max_lt.mpr ⟨hafter, forall_mem_map.mpr fun e he => hparts.2.2 e he _ hbeyond⟩
      · exact .expired mem_cons_self (not_lt.mp hlive)
    | queued hlive => rw [hphase] at hlive; cases hlive
    | pending hlive => rw [hphase] at hlive; cases hlive

variable (sub) in
/-- What a batch reads is a page. -/
theorem replayBatch_cases (s : Socket) (now : Clock) :
    ∃ page, Paging.IsPage (·.id)
        ((s.store.visible sub.familyToken sub.hints now.1).map StoredEnvelope.ofRow) s.after page ∧
      ((page = [] ∧ s.replayBatch sub now = { s with phase := .live, clocks := now :: s.clocks }) ∨
        (page ≠ [] ∧ s.replayBatch sub now = { s with
          sent := s.sent ++ page
          after := page.foldl (fun after e => max after e.id) s.after
          clocks := now :: s.clocks })) := by
  obtain ⟨page, hfetch, hpage⟩ := s.store.fetchEnvelopes_isPage sub.familyToken now.1 sub.someHints
    sub.fewHints (show 0 < defaultFetchLimit by decide) s.after
  refine ⟨page, hpage, ?_⟩
  unfold Socket.replayBatch
  rw [hfetch]
  cases page with
  | nil => exact .inl ⟨rfl, rfl⟩
  | cons first rest => exact .inr ⟨cons_ne_nil _ _, rfl⟩

theorem sound_replay (h : Sound sub s) (now : Clock) : Sound sub ((SocketStep.replay now).next sub s) := by
  rw [SocketStep.next]
  split
  · rename_i hphase
    obtain ⟨page, hpage, ⟨rfl, hnext⟩ | ⟨_, hnext⟩⟩ := replayBatch_cases sub s now
    · rw [hnext]
      -- the batch that ends the replay: whatever is behind the cursor has expired
      refine ⟨⟨h.ascending.sent, h.ascending.upTo, h.ascending.cursor, h.ascending.pendingIssued,
        h.ascending.channelIssued, nofun⟩, fun row hrow hcovers => ?_⟩
      cases h.delivered row hrow hcovers with
      | sent hsent => exact .sent hsent
      | expired hclock hgone => exact .expired (mem_cons_of_mem _ hclock) hgone
      | ahead _ hafter =>
        refine .expired mem_cons_self (not_lt.mp fun hlive => ?_)
        have hmem := mem_behind_visible s hrow hcovers hafter hlive
        rw [hpage.done rfl] at hmem
        cases hmem
      | queued hlive => rw [hphase] at hlive; cases hlive
      | pending hlive => rw [hphase] at hlive; cases hlive
    · rw [hnext]
      exact sound_replay_page h hphase hpage
  · exact h

/-! ### Receiving -/

/-- The head of the queue is gone: it was the row's own broadcast, and the row is sent, or the
row stands as it did. -/
theorem Delivery.receive {row : EnvelopeRow} {b : BroadcastEnvelope} {after : Int}
    {rest : List BroadcastEnvelope} {sent : List StoredEnvelope} (h : Delivery sub s row)
    (hqueue : s.channel = b :: rest) (hlive : s.phase = .live) (hsub : s.sent ⊆ sent)
    (hpass : s.after < row.id → (sub.Wants b → b.envelope.id ≤ row.id) →
      (∃ e ∈ sent, e.id = row.id) ∨ after < row.id ∧ ¬ (sub.Wants b ∧ b.envelope.id = row.id)) :
    Delivery sub { s with channel := rest, after, sent } row := by
  cases h with
  | sent hsent =>
    obtain ⟨e, he, hid⟩ := hsent
    exact .sent ⟨e, hsub he, hid⟩
  | expired hclock hgone => exact .expired hclock hgone
  | ahead hahead => rw [hlive] at hahead; rcases hahead with hahead | hahead <;> cases hahead
  | @queued before behind c _ hafter hchannel hwants hid hbefore =>
    rw [hqueue] at hchannel
    cases before with
    | nil =>
      obtain ⟨rfl, rfl⟩ := cons.inj hchannel
      rcases hpass hafter fun _ => hid.le with hsent | ⟨_, hnot⟩
      · exact .sent hsent
      · exact absurd ⟨hwants, hid⟩ hnot
    | cons first before =>
      obtain ⟨rfl, rfl⟩ := cons.inj hchannel
      rcases hpass hafter (hbefore b mem_cons_self) with hsent | ⟨hafter, _⟩
      · exact .sent hsent
      · exact .queued hlive hafter rfl hwants hid
          fun other hother => hbefore other (mem_cons_of_mem _ hother)
  | pending _ hafter hc hwants hid hchannel =>
    rcases hpass hafter (hchannel b (hqueue ▸ mem_cons_self)) with hsent | ⟨hafter, _⟩
    · exact .sent hsent
    · exact .pending hlive hafter hc hwants hid
        fun other hother => hchannel other (hqueue ▸ mem_cons_of_mem _ hother)

theorem sound_receive (h : Sound sub s) : Sound sub (SocketStep.receive.next sub s) := by
  rw [SocketStep.next]
  split
  · rename_i hphase
    unfold Socket.receive
    cases hqueue : s.channel with
    | nil => exact h
    | cons b rest =>
      have hissued : ∀ c ∈ b :: rest, c.envelope.id ≤ s.store.envelopes.lastId :=
        hqueue ▸ h.ascending.channelIssued
      have hrest := fun c hc => hissued c (mem_cons_of_mem _ hc)
      dsimp only
      split
      · rename_i htake
        obtain ⟨hwants, hnew⟩ := htake
        rw [max_eq_right (le_of_lt hnew)]
        constructor
        · obtain ⟨hsent, hupTo⟩ := h.ascending.sends (le_of_lt hnew)
            (pairwise_singleton _ b.envelope) (by simpa using hnew) (by simp)
          exact ⟨hsent, hupTo, .inr (hissued b mem_cons_self), h.ascending.pendingIssued, hrest,
            h.ascending.opened⟩
        · refine fun row hrow hcovers => (h.delivered row hrow hcovers).receive hqueue hphase
            (subset_append_left _ _) fun _ hle => ?_
          by_cases heq : b.envelope.id = row.id
          · exact .inl ⟨_, mem_append_right _ (mem_singleton_self _), heq⟩
          · exact .inr ⟨lt_of_le_of_ne (hle hwants) heq, fun hboth => heq hboth.2⟩
      · rename_i hskip
        refine ⟨⟨h.ascending.sent, h.ascending.upTo, h.ascending.cursor, h.ascending.pendingIssued,
          hrest, h.ascending.opened⟩, fun row hrow hcovers => ?_⟩
        exact (h.delivered row hrow hcovers).receive hqueue hphase (List.Subset.refl _)
          fun hafter _ => .inr ⟨hafter, fun hboth => hskip ⟨hboth.1, hboth.2 ▸ hafter⟩⟩
  · exact h

/-- Every step that is in order keeps the socket sound. -/
theorem sound_next (h : Sound sub s) {step : SocketStep} (hok : step.InOrder sub s) :
    Sound sub (step.next sub s) := by
  cases step with
  | insert access request now => exact sound_insert h hok
  | broadcast b => exact sound_broadcast h hok
  | subscribe => exact sound_subscribe h
  | replay now => exact sound_replay h now
  | receive => exact sound_receive h

theorem sound_start (store : RelayStore) : Sound sub (Socket.start sub store) :=
  ⟨⟨List.Pairwise.nil, fun _ => nofun, .inl rfl, fun _ => nofun, fun _ => nofun, nofun⟩,
    fun _ _ hcovers => .ahead (.inl rfl) hcovers.2.2⟩

/-! ## Coming to rest -/

/-- Nothing is on its way to the socket. -/
def Quiet (s : Socket) : Prop := s.phase = .live ∧ s.pending = [] ∧ s.channel = []

/-- The step is one of a post's first transaction. -/
def SocketStep.IsInsert : SocketStep → Prop
  | .insert _ _ _ => True
  | _ => False

/-- What is left to do: broadcasts to be made and received, rows the replay may still read. -/
def Socket.work (s : Socket) : Nat :=
  2 * s.pending.length + s.channel.length +
    match s.phase with
    | .connecting => 2 + s.store.envelopes.rows.countP (s.after < ·.id)
    | .replay => 1 + s.store.envelopes.rows.countP (s.after < ·.id)
    | .live => 0
    | .closed => 0

/-- A batch of the replay leaves fewer rows to read. -/
theorem work_replay (hphase : s.phase = .replay) (now : Clock) :
    ((SocketStep.replay now).next sub s).work < s.work := by
  rw [SocketStep.next, if_pos hphase]
  obtain ⟨page, hpage, ⟨_, hnext⟩ | ⟨hsome, hnext⟩⟩ := replayBatch_cases sub s now
  · rw [hnext]
    simp only [Socket.work, hphase]
    omega
  rw [hnext]
  simp only [Socket.work, hphase]
  -- the first row of the page is behind the old cursor and not behind the new one
  obtain ⟨e, he⟩ := exists_mem_of_ne_nil page hsome
  obtain ⟨hle, hall⟩ := le_foldl_max page s.after
  have hmem := hpage.isPrefix.subset he
  obtain ⟨row, hrow, rfl⟩ := mem_map.mp (mem_filter.mp hmem).1
  have hbehind : s.after < (StoredEnvelope.ofRow row).id := by
    simpa using (mem_filter.mp hmem).2
  have hpassed := hall _ he
  have hfewer : s.store.envelopes.rows.countP
      (page.foldl (fun after e => max after e.id) s.after < ·.id) <
      s.store.envelopes.rows.countP (s.after < ·.id) := by
    rw [countP_eq_length_filter, countP_eq_length_filter]
    have hsub : (s.store.envelopes.rows.filter
        (page.foldl (fun after e => max after e.id) s.after < ·.id)).Sublist
        (s.store.envelopes.rows.filter (s.after < ·.id)) := by
      refine monotone_filter_right _ fun other hother => ?_
      exact decide_eq_true (lt_of_le_of_lt hle (of_decide_eq_true hother))
    refine lt_of_le_of_ne hsub.length_le fun heq => ?_
    have hthere : row ∈ s.store.envelopes.rows.filter (s.after < ·.id) :=
      mem_filter.mpr ⟨(mem_filter.mp hrow).1, decide_eq_true hbehind⟩
    rw [← hsub.eq_of_length heq] at hthere
    have hlate := of_decide_eq_true (mem_filter.mp hthere).2
    exact absurd hpassed (not_le.mpr hlate)
  omega

/-- As long as the socket is not at rest there is a step that brings it closer to it. -/
theorem exists_step (hopened : s.phase ≠ .closed) (hbusy : ¬ Quiet s) :
    ∃ step : SocketStep, ¬ step.IsInsert ∧ step.InOrder sub s ∧ (step.next sub s).work < s.work := by
  cases hphase : s.phase with
  | connecting =>
    refine ⟨.subscribe, id, trivial, ?_⟩
    rw [SocketStep.next, if_pos hphase]
    simp only [Socket.work, hphase]
    omega
  | replay => exact ⟨.replay (day 0), id, trivial, work_replay hphase _⟩
  | live =>
    cases hqueue : s.channel with
    | cons b rest =>
      refine ⟨.receive, id, trivial, ?_⟩
      rw [SocketStep.next, if_pos hphase]
      unfold Socket.receive
      rw [hqueue]
      dsimp only
      split
      · simp only [Socket.work, hphase, hqueue, length_cons]
        omega
      · simp only [Socket.work, hphase, hqueue, length_cons]
        omega
    | nil =>
      have hpending : s.pending ≠ [] := fun hnil => hbusy ⟨hphase, hnil, hqueue⟩
      obtain ⟨b, hb, hlowest⟩ := Finset.exists_min_image s.pending.toFinset (·.envelope.id)
        (toFinset_nonempty_iff _ |>.mpr hpending)
      simp only [mem_toFinset] at hb hlowest
      refine ⟨.broadcast b, id, ?_, ?_⟩
      · intro _ _ other hother _ _ hlower
        exact absurd (hlowest other hother) (not_le.mpr hlower)
      · rw [SocketStep.next, if_pos hb]
        have hlength := length_erase_of_mem hb
        have hpos := length_pos_of_mem hb
        simp only [Socket.work, hphase, hqueue, reduceCtorEq, or_true, if_true, nil_append,
          length_nil, length_singleton, hlength]
        omega
  | closed => exact absurd hphase hopened

/-- Without further posts the socket comes to rest, by steps that are in order. -/
theorem exists_rest (h : Sound sub s) :
    ∃ more : List SocketStep, (∀ step ∈ more, ¬ step.IsInsert) ∧
      Runs.Along (SocketStep.next sub) (SocketStep.InOrder sub) s more ∧
      Quiet (more.foldl (SocketStep.next sub) s) := by
  induction hwork : s.work using Nat.strong_induction_on generalizing s with
  | _ work ih =>
    by_cases hquiet : Quiet s
    · exact ⟨[], fun _ => nofun, trivial, hquiet⟩
    · obtain ⟨step, hstep, hok, hless⟩ := exists_step h.ascending.opened hquiet
      obtain ⟨more, hmore, halong, hrest⟩ := ih _ (hwork ▸ hless) (sound_next h hok) rfl
      refine ⟨step :: more, fun other hother => ?_, ⟨hok, halong⟩, hrest⟩
      rcases mem_cons.mp hother with rfl | hlater
      · exact hstep
      · exact hmore other hlater

/-- In every interleaving whose steps are in order: the ids the socket has sent ascend, so
none is sent twice; once nothing is on its way any more, every stored row it has asked for
and that had not expired when the replay looked has been sent exactly once; and without
further posts that state is reached. -/
theorem rows_sent_exactly_once (sub : Subscription) (store : RelayStore) (steps : List SocketStep)
    (hok : Runs.Along (SocketStep.next sub) (SocketStep.InOrder sub) (Socket.start sub store) steps) :
    let s := steps.foldl (SocketStep.next sub) (Socket.start sub store)
    (s.sent.map (·.id)).Pairwise (· < ·) ∧
    (Quiet s → ∀ row ∈ s.store.envelopes.rows, sub.Covers row →
      (∀ clock ∈ s.clocks, clock.1 < row.expiryMs) → (s.sent.map (·.id)).count row.id = 1) ∧
    ∃ more : List SocketStep, (∀ step ∈ more, ¬ step.IsInsert) ∧
      Runs.Along (SocketStep.next sub) (SocketStep.InOrder sub) s more ∧
      Quiet (more.foldl (SocketStep.next sub) s) := by
  intro s
  have hsound : Sound sub s := Runs.foldl_invariant_along (Sound sub)
    (fun _ _ hok h => sound_next h hok) hok (sound_start store)
  refine ⟨hsound.ascending.sent, fun hquiet row hrow hcovers hfresh => ?_, exists_rest hsound⟩
  have hnodup : (s.sent.map (·.id)).Nodup := hsound.ascending.sent.imp fun hlt => ne_of_lt hlt
  refine count_eq_one_of_mem hnodup ?_
  obtain ⟨hlive, hpending, hchannel⟩ := hquiet
  cases hsound.delivered row hrow hcovers with
  | sent hsent =>
    obtain ⟨e, he, hid⟩ := hsent
    exact mem_map.mpr ⟨e, he, hid⟩
  | expired hclock hgone => exact absurd (hfresh _ hclock) (not_lt.mpr hgone)
  | ahead hahead =>
    rw [hlive] at hahead
    rcases hahead with hahead | hahead <;> cases hahead
  | queued _ _ hsplit =>
    rw [hchannel] at hsplit
    exact absurd hsplit.symm (by simp)
  | pending _ _ hmem =>
    rw [hpending] at hmem
    cases hmem

/-! ### Two posts at once -/

section Example

/-- A socket of one family, from the start of its mailbox. -/
def listener : Subscription where
  familyToken := ascii "family"
  hints := [replicate 8 2]
  after := 0
  someHints := by decide
  fewHints := by decide

def sender : FamilyAccess where
  token := ascii "family"
  tokenClass := .member
  familyKey := ascii "family"
  quotaBytes := 1000
  depositor := none

def note (n : UInt8) : PostEnvelopeRequest where
  msgId := replicate 16 n
  hopTtl := 3
  recipientHint := replicate 8 2
  sealed := [n]
  expiryMs := (day 7).1

/-- The broadcast of a note that was stored with an id. -/
def broadcastOf (n : UInt8) (id : Int) : BroadcastEnvelope where
  familyToken := ascii "family"
  recipientHint := replicate 8 2
  envelope :=
    { id, msgId := replicate 16 n, hopTtl := 3, recipientHint := replicate 8 2, sealed := [n]
      expiryMs := (day 7).1, createdAtMs := 0 }

/-- The socket has replayed an empty mailbox, and two posts have inserted their rows. -/
def twoPosts : List SocketStep :=
  [.subscribe, .replay (day 0), .insert sender (note 1) (day 0), .insert sender (note 2) (day 0)]

def inOrder : List SocketStep :=
  twoPosts ++ [.broadcast (broadcastOf 1 1), .broadcast (broadcastOf 2 2), .receive, .receive]

def overtaken : List SocketStep :=
  twoPosts ++ [.broadcast (broadcastOf 2 2), .broadcast (broadcastOf 1 1), .receive, .receive]

theorem both_notes_sent :
    let s := inOrder.foldl (SocketStep.next listener) (Socket.start listener {})
    s.sent.map (·.id) = [1, 2] ∧
      ∀ row ∈ s.store.envelopes.rows, (s.sent.map (·.id)).count row.id = 1 := by
  intro s
  have hrows : ∀ row ∈ s.store.envelopes.rows, listener.Covers row ∧
      ∀ clock ∈ s.clocks, clock.1 < row.expiryMs := by decide +kernel
  have hquiet : s.phase = .live ∧ s.pending = [] ∧ s.channel = [] := by decide +kernel
  have hsent := (rows_sent_exactly_once listener {} inOrder (by decide +kernel)).2.1 hquiet
  exact ⟨by decide +kernel, fun row hrow => hsent row hrow (hrows row hrow).1 (hrows row hrow).2⟩

/-- The broadcast of the second row overtakes that of the first one: everything is
delivered, nothing is on its way any more, and the first row was never sent. -/
theorem overtaken_row_is_skipped :
    let s := overtaken.foldl (SocketStep.next listener) (Socket.start listener {})
    s.phase = .live ∧ s.pending = [] ∧ s.channel = [] ∧
      (∃ row ∈ s.store.envelopes.rows, row.id = 1 ∧ listener.Covers row ∧
        ∀ clock ∈ s.clocks, clock.1 < row.expiryMs) ∧
      s.sent.map (·.id) = [2] := by
  decide +kernel

end Example
end CruiseMesh.Relayd
