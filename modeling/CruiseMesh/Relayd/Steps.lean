import CruiseMesh.Relayd.Credentials
import CruiseMesh.Relayd.Service

/-!
# Requests step by step

A handler is authorised in one transaction and does its work in a later one, under the
access it was granted then. Here the two are steps of their own, so that any number of
requests can be interleaved: the server remembers what it has granted, and a step that
touches a mailbox has to name a grant. It also remembers, for the statements about whole
histories, which posts it has answered as stored.

`origin_next` says where a row of the next table comes from.
-/

namespace CruiseMesh.Relayd
open RelayStore List Envelopes

/-- A reading of `now_ms`, which panics before the epoch. -/
abbrev Clock : Type := { ms : Int // 0 ≤ ms ∧ ms ≤ i64Max }

/-- The first reading of a day. -/
def day (n : Nat) : Clock := ⟨min (n * 24 * 60 * 60 * 1000) i64Max, by unfold i64Max; omega⟩

/-- The access a request was granted, for what it wants to do. -/
structure Grant where
  op : FamilyOp
  access : FamilyAccess
deriving DecidableEq

/-- A post that was answered with an id. -/
structure Answered where
  id : Int
  access : FamilyAccess
  request : PostEnvelopeRequest
  nowMs : Int

structure Server where
  store : RelayStore
  granted : List Grant := []
  answered : List Answered := []

/-- The rows of the table `envelopes`. -/
abbrev Server.rows (v : Server) : List EnvelopeRow := v.store.envelopes.rows

/-- One transaction of one request, or of the prune task, or of the operator. A fetch changes nothing
and is no step. -/
inductive Step where
  | authorize (credential : Bytes) (op : FamilyOp) (now : Clock)
  | post (access : FamilyAccess) (request : PostEnvelopeRequest) (now : Clock)
  | rotate (access : FamilyAccess) (request : RotateFamilyRequest)
  | ack (access : FamilyAccess) (ids : List Int)
  | prune (now : Clock)
  | delete (idOrToken : Bytes)

/-- What a post is answered. -/
def Step.posted (v : Server) : Step → Option Posted
  | .post access request now =>
    if ⟨.post, access⟩ ∈ v.granted then (postEnvelope access request now.1 v.store).1.toOption
    else none
  | _ => none

section Next
variable (P : Primitives) (config : Config)

/-- The tables after a step. -/
def Step.nextStore (v : Server) : Step → RelayStore
  | .authorize _ _ _ => v.store
  | .post access request now =>
    if ⟨.post, access⟩ ∈ v.granted then (postEnvelope access request now.1 v.store).2 else v.store
  | .rotate access request =>
    if ⟨.rotate, access⟩ ∈ v.granted then (rotateFamily P config v.store access.token request).2
    else v.store
  | .ack access ids =>
    if ⟨.read, access⟩ ∈ v.granted then committed v.store (ackRequest access ids v.store)
    else v.store
  | .prune now => v.store.pruneExpired now.1
  | .delete idOrToken => committed v.store (adminDeleteFamily v.store idOrToken)

/-- What has been granted after a step. -/
def Step.nextGranted (v : Server) : Step → List Grant
  | .authorize credential op now =>
    match authorizeFamily P config v.store credential op now.1 with
    | .ok access => ⟨op, access⟩ :: v.granted
    | .error _ => v.granted
  | _ => v.granted

/-- The posts that have been answered after a step. -/
def Step.nextAnswered (v : Server) (step : Step) : List Answered :=
  match step, step.posted v with
  | .post access request now, some posted =>
    v.answered ++ [{ id := posted.id, access, request, nowMs := now.1 }]
  | _, _ => v.answered

/-- The server after a step. -/
def Step.next (v : Server) (step : Step) : Server where
  store := step.nextStore P config v
  granted := step.nextGranted P config v
  answered := step.nextAnswered v

/-- The server after the first `n` steps. -/
def serverAt (initial : Server) (steps : List Step) (n : Nat) : Server :=
  Runs.stateAt (Step.next P config) initial steps n

end Next

variable {P : Primitives} {config : Config}
  {step : Step} {v : Server} {access : FamilyAccess} {request : PostEnvelopeRequest}
  {now : Clock} {s' : RelayStore} {row' : EnvelopeRow}

theorem serverAt_succ {initial : Server} {steps : List Step} {k : Nat}
    (hstep : steps[k]? = some step) :
    serverAt P config initial steps (k + 1) =
      step.next P config (serverAt P config initial steps k) := by
  obtain ⟨hk, rfl⟩ := List.getElem?_eq_some_iff.mp hstep
  exact Runs.stateAt_succ hk

/-! ## A post -/

/-- What a step that posts has done to the tables, and what it was answered. -/
inductive PostStep (access : FamilyAccess) (request : PostEnvelopeRequest) (nowMs : Int)
    (s : RelayStore) : Option Posted → RelayStore → Prop where
  /-- it was refused before the tables were asked, or the message id holds other content -/
  | refused : PostStep access request nowMs s none s
  /-- a ceiling said no, also after pruning -/
  | full : PostStep access request nowMs s none (s.pruneExpired nowMs)
  /-- the envelope was there already -/
  | again {held : EnvelopeRow} {posted : Posted}
      (hfind : s.envelopes.find access.token request.msgId = some held)
      (hsame : held.sealed = request.sealed) (hid : posted.id = held.id) :
      PostStep access request nowMs s (some posted)
        (s.repost (newEnvelope access request nowMs))
  /-- it was inserted, maybe after pruning -/
  | fresh {base s' : RelayStore} {posted : Posted}
      (hfind : s.envelopes.find access.token request.msgId = none)
      (hbase : base = s ∨ base = s.pruneExpired nowMs)
      (hrows : s'.envelopes.rows = base.envelopes.rows ++
        [{ (newEnvelope access request nowMs).row access.depositor with
            id := s.envelopes.lastId + 1 }])
      (hlast : s'.envelopes.lastId = s.envelopes.lastId + 1)
      (hfamilies : s'.families = s.families) (hid : posted.id = s.envelopes.lastId + 1) :
      PostStep access request nowMs s (some posted) s'

theorem postStep (access : FamilyAccess) (request : PostEnvelopeRequest) (nowMs : Int)
    (s : RelayStore) :
    PostStep access request nowMs s (postEnvelope access request nowMs s).1.toOption
      (postEnvelope access request nowMs s).2 := by
  rcases postEnvelope_cases access request nowMs s with ⟨e, he⟩ | ⟨result, s', hinserted, hpost⟩
  · rw [he]
    exact .refused
  rw [hpost]
  cases hinserted with
  | conflict => exact .refused
  | same hfind hsame => exact .again hfind hsame rfl
  | refused hfind hno =>
    obtain ⟨usage, _, hno⟩ := bind_eq_ok.mp hno
    cases hresult : result with
    | stored id =>
      -- no refusal says that the envelope was stored
      have hno := hresult ▸ Except.ok.inj hno
      unfold quotaRejection at hno
      grind
    | quotaExceeded _ => exact .full
    | depositShareExceeded _ _ _ => exact .full
    | msgIdConflict => exact .full
  | @fresh base s' hfind hsize hbase hroom hrows hlast hfamilies =>
    have hid : base.envelopes.lastId = s.envelopes.lastId := by
      rcases hbase with rfl | rfl
      · rfl
      · rfl
    rw [hid] at hrows hlast
    exact .fresh hfind hbase hrows hlast hfamilies (by rw [hid])

variable (P config) in
/-- The step that posts; without a grant it is refused. -/
theorem postStep_next (v : Server) (access : FamilyAccess) (request : PostEnvelopeRequest)
    (now : Clock) :
    PostStep access request now.1 v.store ((Step.post access request now).posted v)
      ((Step.post access request now).nextStore P config v) := by
  unfold Step.posted Step.nextStore
  dsimp only
  by_cases hgrant : ⟨.post, access⟩ ∈ v.granted
  · rw [if_pos hgrant, if_pos hgrant]
    exact postStep access request now.1 v.store
  · rw [if_neg hgrant, if_neg hgrant]
    exact .refused

/-! ## The other steps -/

theorem rows_ackRequest (access : FamilyAccess) (ids : List Int) (s : RelayStore) :
    let s' := committed s (ackRequest access ids s)
    s'.families = s.families ∧ s'.envelopes.lastId = s.envelopes.lastId ∧
      s'.envelopes.rows.Sublist s.envelopes.rows ∧
      ∀ row ∈ s.envelopes.rows, row ∈ s'.envelopes.rows ∨
        row.familyToken = access.token ∧ row.id ∈ ids := by
  have hsame : (s.families = s.families ∧ s.envelopes.lastId = s.envelopes.lastId ∧
      s.envelopes.rows.Sublist s.envelopes.rows ∧
      ∀ row ∈ s.envelopes.rows, row ∈ s.envelopes.rows ∨
        row.familyToken = access.token ∧ row.id ∈ ids) :=
    ⟨rfl, rfl, List.Sublist.refl _, fun _ hrow => .inl hrow⟩
  cases hcall : ackRequest access ids s with
  | error e => exact hsame
  | ok answer =>
    obtain ⟨_, _, hcall⟩ := bind_eq_ok.mp hcall
    obtain ⟨_, _, hcall⟩ := bind_eq_ok.mp hcall
    rw [mapError_eq_ok] at hcall
    unfold ackEnvelopes at hcall
    split at hcall
    · cases hcall
      exact hsame
    split at hcall
    · cases hcall
    · cases hcall
      refine ⟨rfl, rfl, filter_sublist, fun row hrow => ?_⟩
      by_cases hgone : row.familyToken = access.token ∧ row.id ∈ ids
      · exact .inr hgone
      · refine .inl (mem_filter.mpr ⟨hrow, ?_⟩)
        simpa [mem_eraseDups, -not_and, not_and_or] using hgone

theorem adminDeleteFamily_cases (s : RelayStore) (idOrToken : Bytes) :
    committed s (adminDeleteFamily s idOrToken) = s ∨
      ∃ held, s.families.resolveFamily idOrToken = some held ∧
        committed s (adminDeleteFamily s idOrToken) = (s.deleteFamily held.token).2 := by
  cases hcall : adminDeleteFamily s idOrToken with
  | error e => exact .inl rfl
  | ok answer =>
    obtain ⟨held, hheld, hcall⟩ := bind_eq_ok.mp hcall
    obtain ⟨_, _, hcall⟩ := bind_eq_ok.mp hcall
    cases hcall
    exact .inr ⟨held, okOr_eq_ok.mp hheld, rfl⟩

variable (P config) in
/-- A rotation leaves the tables alone, or it moves one family with its rows to a token no
family had, and which the server itself does not have either. -/
theorem rotateFamily_store (s : RelayStore) (currentToken : Bytes) (request : RotateFamilyRequest) :
    (rotateFamily P config s currentToken request).2 = s ∨
    ∃ newToken rotationPk s', (rotateFamily P config s currentToken request).2 = s' ∧
      newToken ∉ config.authTokens ∧
      (∃ held ∈ s.families.rows, held.token = currentToken) ∧
      s'.envelopes.rows = s.envelopes.rows.map (moved currentToken newToken) ∧
      s'.envelopes.lastId = s.envelopes.lastId ∧
      s'.families.rows = s.families.rows.map (rekeyed P currentToken newToken rotationPk) := by
  rcases rotateFamily_cases P config s currentToken request with ⟨hsame, _⟩ |
    ⟨newToken, authority, family, n, s', response, hcheck, hcall, _, _, _, hnext⟩
  · exact .inl hsame
  obtain hresult | ⟨hheld, hne, hfree, hrows, hlast, hfamilies, hfamily⟩ := rotated_of_ok P hcall
  · exact absurd rfl (hresult _ _)
  refine .inr ⟨newToken, _, s', hnext, ?_, ⟨_, Families.getFamily_eq_some.mp hheld⟩, hrows, hlast,
    hfamilies⟩
  obtain ⟨_, hnew, hcheck⟩ := bind_eq_ok.mp hcheck
  obtain ⟨_, _, hcheck⟩ := bind_eq_ok.mp hcheck
  obtain ⟨_, _, hcheck⟩ := bind_eq_ok.mp hcheck
  obtain ⟨rfl, _⟩ := ok_pair_inj hcheck
  simp only [checkNewToken, bind_eq_ok, refuseWhen_eq_ok, exists_const] at hnew
  obtain ⟨_, _, _, _, hnot⟩ := hnew
  exact fun hmem => hnot (.inr (.inl hmem))

/-! ## Where a row comes from -/

/-- Where a row of the table after a step comes from. -/
inductive Origin (v : Server) (step : Step) (row' : EnvelopeRow) : Prop where
  | kept {row : EnvelopeRow} (hrow : row ∈ v.rows) (hid : row'.id = row.id)
      (hcreated : row'.createdAtMs = row.createdAtMs) (hexpiry : row'.expiryMs = row.expiryMs)
  | again {held : EnvelopeRow} {access : FamilyAccess} {request : PostEnvelopeRequest} {now : Clock}
      {posted : Posted} (hstep : step = .post access request now)
      (hposted : step.posted v = some posted) (hid : posted.id = held.id)
      (hfind : v.store.envelopes.find access.token request.msgId = some held)
      (hsame : held.sealed = request.sealed)
      (hrow' : row' = (newEnvelope access request now.1).extend held)
  | fresh {access : FamilyAccess} {request : PostEnvelopeRequest} {now : Clock} {posted : Posted}
      (hstep : step = .post access request now) (hposted : step.posted v = some posted)
      (hid : posted.id = v.store.envelopes.lastId + 1)
      (hrow' : row' = { (newEnvelope access request now.1).row access.depositor with
        id := v.store.envelopes.lastId + 1 })

theorem Origin.of_mem {row : EnvelopeRow} (h : row ∈ v.rows) :
    Origin v step row := .kept h rfl rfl rfl

theorem origin_post (hpost : PostStep access request now.1 v.store
      ((Step.post access request now).posted v) s') (hrow' : row' ∈ s'.envelopes.rows) :
    Origin v (.post access request now) row' := by
  have hpruned : ∀ row ∈ (v.store.pruneExpired now.1).envelopes.rows, row ∈ v.rows := by
    intro row hrow
    rw [rows_pruneExpired] at hrow
    exact (mem_filter.mp hrow).1
  generalize hanswer : (Step.post access request now).posted v = answer at hpost
  cases hpost with
  | refused => exact .of_mem hrow'
  | full => exact .of_mem (hpruned row' hrow')
  | @again held posted hfind hsame hid =>
    rw [rows_repost] at hrow'
    obtain ⟨row, hrow, rfl⟩ := mem_map.mp hrow'
    by_cases hkey : row.familyToken = access.token ∧ row.msgId = request.msgId
    · obtain rfl : row = held := by
        have hheld := key_of_find hfind
        refine Table.eq_of_key_eq v.store.envelopes.unique hrow hheld.1 ?_
        rw [EnvelopeRow.key, EnvelopeRow.key, hkey.1, hkey.2, hheld.2.1, hheld.2.2]
      exact .again rfl hanswer hid hfind hsame rfl
    · have hother : (newEnvelope access request now.1).extend row = row := if_neg hkey
      rw [hother]
      exact .of_mem hrow
  | @fresh base _ posted hfind hbase hrows hlast hfamilies hid =>
    rw [hrows, mem_append, mem_singleton] at hrow'
    rcases hrow' with hold | hnew
    · rcases hbase with rfl | rfl
      · exact .of_mem hold
      · exact .of_mem (hpruned row' hold)
    · exact .fresh rfl hanswer hid hnew

variable (P config) in
theorem origin_next (v : Server) (step : Step) (hrow' : row' ∈ (step.next P config v).rows) :
    Origin v step row' := by
  cases step with
  | authorize credential op now => exact .of_mem hrow'
  | post access request now => exact origin_post (postStep_next P config v access request now) hrow'
  | rotate access request =>
    rw [Server.rows, Step.next, Step.nextStore] at hrow'
    split at hrow'
    · rcases rotateFamily_store P config v.store access.token request with
        hsame | ⟨newToken, _, s', hnext, _, _, hrows, _⟩
      · rw [hsame] at hrow'
        exact .of_mem hrow'
      · rw [hnext, hrows] at hrow'
        obtain ⟨row, hrow, rfl⟩ := mem_map.mp hrow'
        unfold moved
        split
        · exact .kept hrow rfl rfl rfl
        · exact .of_mem hrow
    · exact .of_mem hrow'
  | ack access ids =>
    rw [Server.rows, Step.next, Step.nextStore] at hrow'
    split at hrow'
    · exact .of_mem ((rows_ackRequest access ids v.store).2.2.1.subset hrow')
    · exact .of_mem hrow'
  | prune now =>
    rw [Server.rows, Step.next, Step.nextStore, rows_pruneExpired] at hrow'
    exact .of_mem (mem_filter.mp hrow').1
  | delete idOrToken =>
    rw [Server.rows, Step.next, Step.nextStore] at hrow'
    rcases adminDeleteFamily_cases v.store idOrToken with hsame | ⟨held, _, hdeleted⟩
    · rw [hsame] at hrow'
      exact .of_mem hrow'
    · rw [hdeleted] at hrow'
      exact .of_mem (mem_filter.mp hrow').1

/-! ## Ids -/

theorem nextAnswered_of_none (h : step.posted v = none) :
    step.nextAnswered v = v.answered := by
  unfold Step.nextAnswered
  rw [h]
  split
  · rename_i heq
    cases heq
  · rfl

theorem nextAnswered_post {posted : Posted}
    (h : (Step.post access request now).posted v = some posted) :
    (Step.post access request now).nextAnswered v =
      v.answered ++ [{ id := posted.id, access, request, nowMs := now.1 }] := by
  unfold Step.nextAnswered
  rw [h]

/-- The ids that were answered have been issued. -/
def Issued (v : Server) : Prop := ∀ post ∈ v.answered, post.id ≤ v.store.envelopes.lastId

theorem issued_next (h : Issued v) (step : Step) : Issued (step.next P config v) := by
  cases step with
  | authorize credential op now => exact h
  | post access request now =>
    have hpost := postStep_next P config v access request now
    unfold Issued Step.next
    dsimp only
    generalize (Step.post access request now).nextStore P config v = store at hpost ⊢
    generalize hanswer : (Step.post access request now).posted v = answer at hpost
    cases hpost with
    | refused =>
      rw [nextAnswered_of_none hanswer]
      exact h
    | full =>
      rw [nextAnswered_of_none hanswer]
      exact h
    | again hfind hsame hid =>
      rw [nextAnswered_post hanswer]
      intro post hmem
      rcases mem_append.mp hmem with hold | hnew
      · exact h post hold
      · rw [mem_singleton.mp hnew, hid]
        exact (v.store.envelopes.issued _ (key_of_find hfind).1).2
    | fresh hfind hbase hrows hlast hfamilies hid =>
      rw [nextAnswered_post hanswer, hlast]
      intro post hmem
      rcases mem_append.mp hmem with hold | hnew
      · have := h post hold
        omega
      · rw [mem_singleton.mp hnew, hid]
        exact Int.le_refl _
  | rotate access request =>
    rw [Issued, Step.next, Step.nextStore]
    split
    · rcases rotateFamily_store P config v.store access.token request with
        hsame | ⟨_, _, s', hnext, _, _, _, hlast, _⟩
      · rw [hsame]
        exact h
      · rw [hnext, hlast]
        exact h
    · exact h
  | ack access ids =>
    rw [Issued, Step.next, Step.nextStore]
    split
    · rw [(rows_ackRequest access ids v.store).2.1]
      exact h
    · exact h
  | prune now => exact h
  | delete idOrToken =>
    rw [Issued, Step.next, Step.nextStore]
    rcases adminDeleteFamily_cases v.store idOrToken with hsame | ⟨held, _, hdeleted⟩
    · rw [hsame]
      exact h
    · rw [hdeleted]
      exact h

end CruiseMesh.Relayd
