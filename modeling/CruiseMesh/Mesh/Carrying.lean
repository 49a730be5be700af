import CruiseMesh.Mesh.Meet
import CruiseMesh.Mesh.Node

/-!
# Carried mail

A device receives copies and meets peers, in any order and with any clocks. A row of its carry
queue goes because it has expired, because the budgets took it, or because its recipient was proved
to have it. A digest takes nothing else.
-/

namespace CruiseMesh
open Durable Prog Carry List

/-! ## The queue within its bounds -/

/-- The queue as receiving leaves it: no empty body, and no more than the budget. -/
structure CarryOk (rows : List CarriedRow) : Prop extends QueueOk rows where
  total : bytes rows ≤ defaultTotalCarryBudgetBytes
  bodies : ∀ row ∈ rows, row.body ≠ []

section Bounds
variable {rows more : List CarriedRow}

theorem CarryOk.sublist (h : CarryOk rows) (hsub : more.Sublist rows) : CarryOk more where
  toQueueOk := h.toQueueOk.sublist hsub
  total := le_trans (bytes_le_of_sublist hsub) h.total
  bodies row hrow := h.bodies row (hsub.subset hrow)

theorem bytes_cons (row : CarriedRow) (rows : List CarriedRow) :
    bytes (row :: rows) = row.body.length + bytes rows := by
  simp [bytes]

theorem bytes_perm (h : rows.Perm more) : bytes rows = bytes more :=
  (h.map fun row : CarriedRow => (row.body.length : Int)).sum_eq

/-- Each row takes at least one byte. -/
theorem length_le_bytes (h : ∀ row ∈ rows, row.body ≠ []) : (rows.length : Int) ≤ bytes rows := by
  induction rows with
  | nil => exact le_refl _
  | cons row rest ih =>
    have hrest := ih fun other hother => h other (mem_cons_of_mem _ hother)
    have hrow := length_pos_of_ne_nil (h row mem_cons_self)
    rw [bytes_cons, length_cons]
    omega

/-- A page with room for everything has everything. -/
theorem hintsPage_all {budgetBytes maxRows : Nat} (hbudget : budgetBytes ≤ u64Max) :
    ∀ {rows : List CarriedRow} {selected : List CarriedEnvelope} {next : Option CoreCarriedCursor}
      {used : Nat}, selected.length + rows.length ≤ maxRows → used + bytes rows ≤ budgetBytes →
      (hintsPage budgetBytes maxRows rows selected next used).rows =
        selected ++ rows.map (·.toCarriedEnvelope) := by
  intro rows
  induction rows with
  | nil =>
    intro selected next used _ _
    exact (append_nil selected).symm
  | cons row rest ih =>
    intro selected next used hrows hbytes
    rw [bytes_cons] at hbytes
    rw [length_cons] at hrows
    have hrest := bytes_nonneg rest
    have hused : saturatingAdd used row.body.length = used + row.body.length := by
      unfold saturatingAdd
      omega
    unfold hintsPage
    rw [if_neg (by omega), if_neg (by omega), if_neg (by omega), hused,
      ih (by rw [length_append, length_singleton]; omega) (by push_cast; omega),
      map_cons, append_assoc]
    rfl

end Bounds

/-! ## Confirmations -/

section Confirm
variable {s : Store}

/-- The rows for some hints: none is left out of a queue within its bounds. -/
theorem mem_carriedEnvelopesForHints (h : CarryOk s.carriedEnvelopes) {hints : List Bytes}
    (hhints : hints ≠ []) {nowMs : Int} {envelope : CarriedEnvelope} :
    envelope ∈ s.carriedEnvelopesForHints hints nowMs ↔
      ∃ row ∈ s.carriedEnvelopes, nowMs < row.expiry ∧ row.recipientHint ∈ hints ∧
        row.toCarriedEnvelope = envelope := by
  let matching := s.carriedEnvelopes.filter fun row =>
    nowMs < row.expiry ∧ decide (row.recipientHint ∈ hints) ∧
      ∀ cursor ∈ (none : Option CoreCarriedCursor), row.after cursor
  have hperm : (pageRows (·.recipientHint ∈ hints) nowMs none s.carriedEnvelopes).Perm matching :=
    perm_insertionSort CarriedRow.Older _
  have hok : CarryOk matching := h.sublist filter_sublist
  have hlength := length_le_bytes hok.bodies
  have htotal := hok.total
  have hpage : s.carriedEnvelopesForHints hints nowMs =
      (pageRows (·.recipientHint ∈ hints) nowMs none s.carriedEnvelopes).map
        (·.toCarriedEnvelope) := by
    have hrows : ([] : List CarriedEnvelope).length +
        (pageRows (·.recipientHint ∈ hints) nowMs none s.carriedEnvelopes).length ≤ u32Max := by
      rw [hperm.length_eq, length_nil]
      unfold defaultTotalCarryBudgetBytes at htotal
      unfold u32Max
      omega
    have hbytes : ((0 : Nat) : Int) +
        bytes (pageRows (·.recipientHint ∈ hints) nowMs none s.carriedEnvelopes) ≤
          (u64Max : Nat) := by
      rw [bytes_perm hperm]
      unfold defaultTotalCarryBudgetBytes at htotal
      unfold u64Max
      omega
    unfold Store.carriedEnvelopesForHints Store.carriedEnvelopesForHintsPage
    rw [if_neg (not_or.mpr ⟨hhints, by decide⟩), hintsPage_all (le_refl _) hrows hbytes]
    rfl
  rw [hpage, mem_map]
  constructor
  · rintro ⟨row, hrow, rfl⟩
    obtain ⟨hheld, hmatch⟩ := mem_filter.mp (hperm.mem_iff.mp hrow)
    obtain ⟨hlive, hhint, _⟩ := of_decide_eq_true hmatch
    exact ⟨row, hheld, hlive, of_decide_eq_true hhint, rfl⟩
  · rintro ⟨row, hheld, hlive, hhint, rfl⟩
    refine ⟨row, hperm.mem_iff.mpr (mem_filter.mpr ⟨hheld, decide_eq_true ?_⟩), rfl⟩
    exact ⟨hlive, decide_eq_true hhint, fun cursor hcursor => nomatch hcursor⟩

theorem returns_removeCarriedEnvelope (msgId : Bytes) (s : Store) :
    ∃ held, (removeCarriedEnvelope msgId).Returns s held { s with
      carriedEnvelopes := s.carriedEnvelopes.filter fun row => row.msgId ≠ msgId } :=
  ⟨_, returns_inspect_bind.mpr (returns_bind.mpr ⟨(), _, returns_write.mpr rfl, ⟨rfl, rfl⟩⟩)⟩

/-- The loop over the candidates takes those whose id is known, and no other row. -/
theorem returns_confirmEach (known : List Bytes) : ∀ (candidates : List CarriedEnvelope)
    (removed : Nat) (s : Store), ∃ count, (confirmEach known candidates removed).Returns s count
      { s with carriedEnvelopes := s.carriedEnvelopes.filter fun row =>
        ∀ candidate ∈ candidates, candidate.msgId ∈ known → row.msgId ≠ candidate.msgId } := by
  intro candidates
  induction candidates with
  | nil =>
    intro removed s
    refine ⟨removed, returns_pure.mpr ⟨rfl, ?_⟩⟩
    rw [filter_eq_self.mpr (by simp)]
  | cons candidate rest ih =>
    intro removed s
    unfold confirmEach
    by_cases hknown : candidate.msgId ∈ known
    · rw [if_pos hknown]
      obtain ⟨held, hremove⟩ := returns_removeCarriedEnvelope candidate.msgId s
      obtain ⟨count, hrest⟩ := ih (if held then removed + 1 else removed) { s with
        carriedEnvelopes := s.carriedEnvelopes.filter fun row => row.msgId ≠ candidate.msgId }
      refine ⟨count, returns_bind.mpr ⟨held, _, hremove, ?_⟩⟩
      convert hrest using 2
      rw [filter_filter]
      refine filter_congr fun row _ => ?_
      simp only [forall_mem_cons, hknown, forall_const, Bool.decide_and]
      exact Bool.and_comm _ _
    · rw [if_neg hknown]
      obtain ⟨count, hrest⟩ := ih removed s
      refine ⟨count, ?_⟩
      convert hrest using 2
      simp only [forall_mem_cons, hknown, false_implies, true_and]

/-- The peer of the meeting is proved to have the envelope of the row. -/
def Confirms (P : Primitives) (request : CoreMeetRequest) (s : Store) (row : CarriedRow) : Prop :=
  request.peerAuthenticated = true ∧ s.linkGateAllows .ack = true ∧
    row.msgId ∈ request.peerKnownMsgIds ∧ ∃ daysAgo : Nat, (daysAgo : Int) ≤ carryHintDayWindowDays ∧
      row.recipientHint =
        computeRecipientHint P request.peerUserId (request.nowMs - daysAgo * msPerDay)

/-- A confirmation takes exactly the rows that have not expired and that it proves. -/
theorem returns_confirm (P : Primitives) (request : CoreMeetRequest)
    (h : CarryOk s.carriedEnvelopes) : ∃ count rows,
    (coreConfirmCarriedDeliveries P request.peerUserId request.peerKnownMsgIds
      request.peerAuthenticated request.nowMs).Returns s count { s with carriedEnvelopes := rows } ∧
      rows.Sublist s.carriedEnvelopes ∧ ∀ row ∈ s.carriedEnvelopes,
        (row ∈ rows ↔ ¬ (request.nowMs < row.expiry ∧ Confirms P request s row)) := by
  have hidle : (∀ row, ¬ Confirms P request s row) → ∀ row ∈ s.carriedEnvelopes,
      (row ∈ s.carriedEnvelopes ↔ ¬ (request.nowMs < row.expiry ∧ Confirms P request s row)) :=
    fun hnone row hrow => iff_of_true hrow fun hgone => hnone row hgone.2
  unfold coreConfirmCarriedDeliveries
  by_cases hauthenticated : request.peerAuthenticated = false
  · rw [if_pos hauthenticated]
    refine ⟨0, s.carriedEnvelopes, ⟨rfl, rfl⟩, List.Sublist.refl _,
      hidle fun row hproof => ?_⟩
    exact absurd (hproof.1.symm.trans hauthenticated) (by decide)
  rw [if_neg hauthenticated]
  by_cases hstop : s.linkGateAllows .ack = false ∨ request.peerKnownMsgIds = []
  · refine ⟨0, s.carriedEnvelopes, returns_inspect_bind.mpr ?_, List.Sublist.refl _,
      hidle fun row hproof => ?_⟩
    · rw [if_pos hstop]
      exact ⟨rfl, rfl⟩
    · obtain ⟨_, hopen, hknown, _⟩ := hproof
      rcases hstop with hclosed | hempty
      · exact absurd (hopen.symm.trans hclosed) (by decide)
      · rw [hempty] at hknown
        exact not_mem_nil hknown
  · let hints := (List.range (carryHintDayWindowDays + 1).toNat).map fun (daysAgo : Nat) =>
      computeRecipientHint P request.peerUserId (request.nowMs - daysAgo * msPerDay)
    let candidates := s.carriedEnvelopesForHints hints request.nowMs
    obtain ⟨count, hconfirm⟩ := returns_confirmEach request.peerKnownMsgIds candidates 0 s
    refine ⟨count, s.carriedEnvelopes.filter fun row => ∀ candidate ∈ candidates,
      candidate.msgId ∈ request.peerKnownMsgIds → row.msgId ≠ candidate.msgId,
      returns_inspect_bind.mpr ?_, filter_sublist, ?_⟩
    · rw [if_neg hstop]
      exact returns_inspect_bind.mpr hconfirm
    intro row hrow
    have hhint : row.recipientHint ∈ hints ↔ ∃ daysAgo : Nat,
        (daysAgo : Int) ≤ carryHintDayWindowDays ∧ row.recipientHint =
          computeRecipientHint P request.peerUserId (request.nowMs - daysAgo * msPerDay) := by
      constructor
      · intro hmem
        obtain ⟨daysAgo, hday, hsame⟩ := mem_map.mp hmem
        rw [mem_range] at hday
        exact ⟨daysAgo, by omega, hsame.symm⟩
      · rintro ⟨daysAgo, hday, hsame⟩
        exact mem_map.mpr ⟨daysAgo, mem_range.mpr (by omega), hsame.symm⟩
    have hproof : Confirms P request s row ↔
        row.msgId ∈ request.peerKnownMsgIds ∧ row.recipientHint ∈ hints := by
      rw [hhint]
      have hopen : s.linkGateAllows .ack = true := by
        simpa using (not_or.mp hstop).1
      exact ⟨fun hproof => hproof.2.2, fun hrest => ⟨by simpa using hauthenticated, hopen, hrest⟩⟩
    have hwindow : hints ≠ [] := cons_ne_nil _ _
    rw [mem_filter, decide_eq_true_eq, hproof]
    -- a candidate with the id of the row is the row, since ids are keys
    constructor
    · rintro ⟨_, hothers⟩ ⟨hlive, hknown, hmatch⟩
      exact hothers _ ((mem_carriedEnvelopesForHints h hwindow).mpr
        ⟨row, hrow, hlive, hmatch, rfl⟩) hknown rfl
    · intro hstays
      refine ⟨hrow, fun candidate hcandidate hknown hsame => hstays ?_⟩
      obtain ⟨other, hother, hlive, hmatch, rfl⟩ :=
        (mem_carriedEnvelopesForHints h hwindow).mp hcandidate
      obtain rfl := h.eq_of_msgId hrow hother hsame
      exact ⟨hlive, hknown, hmatch⟩

end Confirm

/-! ## Meetings -/

section Meeting
variable {P : Primitives} {answers : MeetAnswers} {request : CoreMeetRequest} {s : Store}

theorem returns_pruneExpiredCarried (nowMs : Int) (s : Store) :
    ∃ count, (pruneExpiredCarried nowMs).Returns s count
      { s with carriedEnvelopes := unexpired nowMs s.carriedEnvelopes } :=
  ⟨_, returns_inspect_bind.mpr (returns_bind.mpr ⟨(), _, returns_write.mpr rfl, ⟨rfl, rfl⟩⟩)⟩

/-- The spray prunes once more, under the same clock. -/
theorem carried_sprayFrames {peerHints : List Bytes} {rows : List CarriedRow}
    (hpruned : unexpired request.nowMs rows = rows) (hs : s.carriedEnvelopes = rows) :
    (sprayFrames answers request peerHints).Throughout s fun s' => s'.carriedEnvelopes = rows := by
  unfold sprayFrames
  split
  · refine throughout_bind ?_ fun plan mid _ hmid => throughout_pure.mpr hmid
    refine throughout_inspect_bind.mpr ?_
    split
    · exact throughout_pure.mpr hs
    refine throughout_bind ?_ fun _ mid _ hmid => throughout_inspect.mpr hmid
    refine throughout_inspect_bind.mpr ?_
    refine throughout_bind (throughout_write.mpr ⟨hs, ?_⟩) fun _ mid _ hmid =>
      throughout_pure.mpr hmid
    show unexpired request.nowMs s.carriedEnvelopes = rows
    rw [hs, hpruned]
  · exact throughout_pure.mpr hs

/-- A meeting takes exactly the rows that have expired and those it proves. -/
theorem carried_meet (h : CarryOk s.carriedEnvelopes) :
    ((planMeshMeet P answers request).final s).carriedEnvelopes.Sublist s.carriedEnvelopes ∧
      ∀ row ∈ s.carriedEnvelopes, row ∈ ((planMeshMeet P answers request).final s).carriedEnvelopes ↔
        request.nowMs < row.expiry ∧ ¬ Confirms P request s row := by
  obtain ⟨_, hprune⟩ := returns_pruneExpiredCarried request.nowMs s
  let pruned : Store := { s with carriedEnvelopes := unexpired request.nowMs s.carriedEnvelopes }
  have hsublist : pruned.carriedEnvelopes.Sublist s.carriedEnvelopes := unexpired_sublist
  obtain ⟨removed, rows, hconfirm, hleft, hrows⟩ :=
    returns_confirm P request (s := pruned) (h.sublist hsublist)
  have hlive : unexpired request.nowMs rows = rows := by
    refine filter_eq_self.mpr fun row hrow => ?_
    exact (mem_filter.mp (hleft.subset hrow)).2
  have hfinal : ((planMeshMeet P answers request).final s).carriedEnvelopes = rows := by
    unfold planMeshMeet
    rw [(run_bind_of_returns hprune).2, (run_bind_of_returns hconfirm).2]
    refine Prog.Throughout.final (I := fun s' : Store => s'.carriedEnvelopes = rows) ?_
    refine throughout_inspect_bind.mpr (throughout_inspect_bind.mpr ?_)
    refine throughout_lift_bind rfl fun digestFrames _ => ?_
    split
    · refine throughout_inspect_bind.mpr ?_
      exact throughout_bind (carried_sprayFrames hlive rfl) fun _ mid _ hmid =>
        throughout_pure.mpr hmid
    · exact throughout_pure.mpr rfl
  rw [hfinal]
  refine ⟨hleft.trans hsublist, fun row hrow => ?_⟩
  have hheld : row ∈ pruned.carriedEnvelopes ↔ request.nowMs < row.expiry := by
    rw [show pruned.carriedEnvelopes = unexpired request.nowMs s.carriedEnvelopes from rfl, unexpired,
      mem_filter, decide_eq_true_eq]
    exact ⟨And.right, fun hlive => ⟨hrow, hlive⟩⟩
  constructor
  · intro hstays
    have hexpiry := hheld.mp (hleft.subset hstays)
    exact ⟨hexpiry, fun hproof =>
      (hrows row (hleft.subset hstays)).mp hstays ⟨hexpiry, hproof⟩⟩
  · rintro ⟨hexpiry, hunproved⟩
    exact (hrows row (hheld.mpr hexpiry)).mpr fun hgone => hunproved hgone.2

end Meeting

/-! ## Runs -/

/-- What happens to a device that carries mail. -/
inductive Encounter where
  | received (a : Arrival)
  | met (answers : MeetAnswers) (request : CoreMeetRequest)

section Run
variable (P : Primitives) (G : GroupCipher) (R : InboundReaders) (identity : Identity)

/-- The device after an event. -/
def Node.after (node : Node) : Encounter → Node
  | .received a => (node.receive P G R identity a).1
  | .met answers request =>
    { node with store := (liftStore (planMeshMeet P answers request)).final node.store }

/-- The device after the first `n` events. -/
def nodeAt (node : Node) (events : List Encounter) (n : Nat) : Node :=
  Runs.stateAt (Node.after P G R identity) node events n

end Run

section Steps
variable {P : Primitives} {G : GroupCipher} {R : InboundReaders} {identity : Identity}

theorem carried_met (node : Node) (answers : MeetAnswers) (request : CoreMeetRequest) :
    (node.after P G R identity (.met answers request)).store.carriedEnvelopes =
      ((planMeshMeet P answers request).final node.store.toStore).carriedEnvelopes := by
  show ((liftStore (planMeshMeet P answers request)).final node.store).carriedEnvelopes = _
  rw [final_liftStore]

theorem carryOk_received {node : Node} (h : CarryOk node.store.carriedEnvelopes) (a : Arrival) :
    CarryOk (node.receive P G R identity a).1.store.carriedEnvelopes := by
  rcases queued_receive P G R identity node a with
    hsame | ⟨envelope, isFamily, hparse, hnext⟩
  · rw [hsame]
    exact h
  rw [hnext]
  refine ⟨queueOk_next h.toQueueOk _, bytes_next_le h.toQueueOk ?_ h.total, fun row hrow => ?_⟩
  · cases a.source <;> exact le_refl _
  · -- what admission leaves comes from the queue, or is what was to be carried
    have hfrom : row ∈ node.store.carriedEnvelopes ∨ row.body = envelope.body := by
      generalize a.source = source at hrow
      cases source <;>
        exact (mem_enqueueValidated h.toQueueOk (by decide) (by decide) rfl hrow).imp_right
          (congrArg fun row : CarriedRow => row.body)
    rcases hfrom with hold | hbody
    · exact h.bodies row hold
    · rw [hbody]
      exact body_of_parsed hparse

theorem carryOk_after {node : Node} (h : CarryOk node.store.carriedEnvelopes) (event : Encounter) :
    CarryOk (node.after P G R identity event).store.carriedEnvelopes := by
  cases event with
  | received a => exact carryOk_received h a
  | met answers request =>
    rw [carried_met]
    exact h.sublist (carried_meet h).1

/-- The bytes that foreign rows may take when a copy comes by a link: a row from the relay is never
foreign, and makes no foreign row go. -/
def CoreInboundSource.foreignBudget : CoreInboundSource → Int
  | .mesh => foreignCarryBudgetBytes
  | .relay => i64Max

/-- Rows leave the queue when a copy comes in because they have expired, or because they are among
those that the budgets have no room for: the oldest foreign rows, and no more than needed. -/
def MakesRoom (a : Arrival) (before after : List CarriedRow) : Prop :=
  ∃ admitted gone, Admission a.source.foreignBudget defaultTotalCarryBudgetBytes
      (unexpired a.nowMs before) admitted gone (unexpired a.nowMs after) ∧
    ∀ row ∈ before, row ∉ after → row.expiry ≤ a.nowMs ∨ row ∈ gone

theorem makesRoom_received {node : Node} (h : QueueOk node.store.carriedEnvelopes) (a : Arrival) :
    MakesRoom a node.store.carriedEnvelopes
      (node.receive P G R identity a).1.store.carriedEnvelopes := by
  rcases queued_receive P G R identity node a with
    hsame | ⟨envelope, isFamily, _, hnext⟩
  · rw [hsame]
    exact ⟨[], [], Admission.refl _ _ _, fun row hrow hgone => absurd hrow hgone⟩
  rw [hnext]
  obtain ⟨admitted, gone, _, hadmission⟩ :=
    (step_spec (P := P) h (carryCall a.source envelope isFamily a.nowMs)).pressure
  have hclock : (carryCall a.source envelope isFamily a.nowMs).nowMs = a.nowMs := by
    cases a.source <;> rfl
  rw [hclock] at hadmission
  refine ⟨admitted, gone, ?_, fun row hrow hgone => ?_⟩
  · cases hsource : a.source with
    | mesh => rw [hsource] at hadmission; exact hadmission
    | relay => rw [hsource] at hadmission; exact hadmission
  by_contra hreasons
  obtain ⟨hlive, hkept⟩ := not_or.mp hreasons
  refine hgone (unexpired_sublist.subset (?_ : row ∈ unexpired a.nowMs _))
  rw [hadmission.rows]
  refine mem_append_left _ (mem_filter.mpr ⟨mem_filter.mpr ⟨hrow, ?_⟩, ?_⟩)
  · exact decide_eq_true (not_le.mp hlive)
  · exact decide_eq_true hkept

end Steps

/-- Carried mail leaves for a reason: a copy that comes in takes rows that have expired, and rows
that the budgets have no room for; a meeting takes the rows that have expired and, of the others,
exactly those that the peer is proved to have. -/
theorem carried_rows_leave_for_a_reason (P : Primitives) (G : GroupCipher) (R : InboundReaders)
    (identity : Identity) {node : Node} (hnode : CarryOk node.store.carriedEnvelopes)
    (events : List Encounter) {n : Nat} (hn : n < events.length) :
    let before := (nodeAt P G R identity node events n).store
    let after := (nodeAt P G R identity node events (n + 1)).store
    (∀ a, events[n] = .received a → MakesRoom a before.carriedEnvelopes after.carriedEnvelopes) ∧
      ∀ answers request, events[n] = .met answers request → ∀ row ∈ before.carriedEnvelopes,
        (row ∉ after.carriedEnvelopes ↔
          row.expiry ≤ request.nowMs ∨ Confirms P request before.toStore row) := by
  have hok : CarryOk (nodeAt P G R identity node events n).store.carriedEnvelopes :=
    Runs.stateAt_invariant (fun node : Node => CarryOk node.store.carriedEnvelopes)
      (fun _ event h => carryOk_after h event) hnode n
  have hstep : nodeAt P G R identity node events (n + 1) =
      (nodeAt P G R identity node events n).after P G R identity events[n] := Runs.stateAt_succ hn
  rw [hstep]
  constructor
  · intro a hevent
    rw [hevent]
    exact makesRoom_received hok.toQueueOk a
  intro answers request hevent row hrow
  rw [hevent, carried_met, (carried_meet hok).2 row hrow]
  constructor
  · intro hgone
    by_cases hexpired : row.expiry ≤ request.nowMs
    · exact .inl hexpired
    · by_contra hreasons
      exact hgone ⟨not_le.mp hexpired, fun hproof => hreasons (.inr hproof)⟩
  · rintro (hexpired | hproof) ⟨hlive, hunproved⟩
    · exact absurd hlive (not_lt.mpr hexpired)
    · exact hunproved hproof

namespace Sample

/-- A cipher that refuses everything. -/
def noCipher : GroupCipher where
  encrypt _ _ _ := none
  decrypt _ _ _ := none
  decrypt_encrypt _ _ _ _ h := nomatch h

def muleNode : Node := ⟨{ toStore := muleStore }, .new 8⟩

theorem muleNode_ok : CarryOk muleNode.store.carriedEnvelopes :=
  ⟨muleStore_ok, by decide +kernel, by decide +kernel⟩

/-- Nothing is offered in the meeting. -/
def noOffers : MeetAnswers where
  digest _ := .ok []
  slotFree := false
  targetedLane := ⟨true, none⟩
  gate := ⟨false, 0, 0, 0⟩
  lane := ⟨true, none⟩
  peerAcksHiddenKinds := []
  hiddenAlreadyOffered := []
  admitPlan _ := ⟨false, false, false⟩

/-- A peer that says that it has both parcels. -/
def peerWithBoth (n : Nat) (peerAuthenticated : Bool) : CoreMeetRequest where
  ownUserId := secretKey 1
  peerUserId := secretKey n
  peerKnownMsgIds := [secretKey 60, secretKey 61]
  peerAuthenticated
  nowMs := noon + 1

/-- A parcel for somebody else, which another device hands over. -/
def passing : Arrival where
  source := .mesh
  frame := frameCarried { parcel 62 2 with msgId := List.replicate 16 62 }
  nowMs := noon + 1
  receiving := ⟨fun _ => none, fun _ => .ok 0⟩
  delivering := calm
  arrival := { transport := 0, hopsTaken := 1, receivedAt := noon + 1 }
  discovery := { enabled := true, revision := 0 }

/-- A third parcel comes in. Then the recipient of one parcel is met, who did not prove who they
are, and then that of the other, who did. -/
def muleDay : List Encounter :=
  [.received passing, .met noOffers (peerWithBoth 61 false), .met noOffers (peerWithBoth 60 true)]

abbrev muleAt (n : Nat) : InboundStore :=
  (nodeAt primitives noCipher noReaders receiver muleNode muleDay n).store

end Sample

open Sample in
theorem mule_keeps_what_is_not_proved :
    (muleAt 1).carriedEnvelopes.map (·.msgId) =
      [secretKey 60, secretKey 61, List.replicate 16 62] ∧
    MakesRoom passing (muleAt 0).carriedEnvelopes (muleAt 1).carriedEnvelopes ∧
    (muleAt 2).carriedEnvelopes = (muleAt 1).carriedEnvelopes ∧
    (muleAt 3).carriedEnvelopes.map (·.msgId) = [secretKey 61, List.replicate 16 62] ∧
    Confirms primitives (peerWithBoth 60 true) (muleAt 2).toStore
      (carriedRow primitives (parcel 60 3) false false noon) := by
  have hfirst : _ ∧ _ := carried_rows_leave_for_a_reason primitives noCipher noReaders receiver
    muleNode_ok muleDay (n := 0) (by decide)
  have hthird : _ ∧ _ := carried_rows_leave_for_a_reason primitives noCipher noReaders receiver
    muleNode_ok muleDay (n := 2) (by decide)
  have hroom := hfirst.1 passing rfl
  rw [Nat.zero_add] at hroom
  unfold muleAt
  refine ⟨by decide +kernel, hroom, by decide +kernel, by decide +kernel, ?_⟩
  have hgone : carriedRow primitives (parcel 60 3) false false noon ∉ (nodeAt primitives noCipher
      noReaders receiver muleNode muleDay (2 + 1)).store.carriedEnvelopes := by decide +kernel
  have hheld : carriedRow primitives (parcel 60 3) false false noon ∈ (muleAt 2).carriedEnvelopes := by
    decide +kernel
  have hmet := hthird.2 noOffers (peerWithBoth 60 true) rfl
  have hleft := (hmet (carriedRow primitives (parcel 60 3) false false noon) hheld).mp hgone
  exact hleft.resolve_left (by decide +kernel)

end CruiseMesh
