import CruiseMesh.Relayd.Steps

/-!
# Retention

A row may live for thirty days behind its first post, and for eight when it came with a
friend's card. The prune task looks at both columns, the expiry and the day of the first
post; a fetch looks at the expiry alone, because an insertion has cut it to the ceiling.

An identical re-post cuts too, but from its own clock, and then takes the later expiry. So
a row that is posted again can be fetched beyond its ceiling. What holds is stated in
`retained_of_withinCeiling`: as long as no re-post asks for more than the ceiling of the row it
meets, everything a fetch returns would survive pruning at the same clock.
-/

namespace CruiseMesh.Relayd
open RelayStore List
variable {P : Primitives} {config : Config}

namespace Server

/-- The first post that was answered with an id. -/
def firstPost (v : Server) (id : Int) : Option Answered := v.answered.find? (·.id = id)

/-- Every post that was answered with the id came with a deposit credential. -/
def DepositOnly (v : Server) (id : Int) : Prop :=
  ∀ post ∈ v.answered, post.id = id → post.access.tokenClass = .deposit

instance (v : Server) (id : Int) : Decidable (v.DepositOnly id) := by
  unfold DepositOnly; infer_instance

end Server

/-- The ceiling of a row. -/
def ceiling (depositOnly : Prop) [Decidable depositOnly] : Int :=
  if depositOnly then maxDepositRetentionMs else maxRetentionMs

variable {p : Prop} {access : FamilyAccess} {request : PostEnvelopeRequest} {now : Clock}
  {v : Server} {posted : Posted}

theorem ceiling_le {q : Prop} [Decidable p] [Decidable q] (h : q → p) : ceiling p ≤ ceiling q := by
  unfold ceiling maxDepositRetentionMs maxRetentionMs
  by_cases hq : q
  · rw [if_pos hq, if_pos (h hq)]
  · rw [if_neg hq]
    split <;> decide

theorem ceiling_le_maxRetentionMs (p : Prop) [Decidable p] : ceiling p ≤ maxRetentionMs := by
  have := ceiling_le (p := p) (q := False) False.elim
  simpa [ceiling] using this

/-- A re-post asks for no more than the ceiling of the row it meets. -/
def Step.WithinCeiling (v : Server) : Step → Prop
  | .post access request now =>
    ∀ held ∈ v.store.envelopes.find access.token request.msgId, held.sealed = request.sealed →
      effectiveExpiry now.1 (requestedExpiry access request now.1) ≤
        held.createdAtMs + ceiling (v.DepositOnly held.id ∧ access.tokenClass = .deposit)
  | _ => True

/-! ## The rows of a history -/

/-- What holds of a stored row. -/
structure Bounded (v : Server) (row : EnvelopeRow) : Prop where
  first : ∃ post, v.firstPost row.id = some post ∧ post.nowMs = row.createdAtMs
  created : 0 ≤ row.createdAtMs
  expiry : row.expiryMs ≤ row.createdAtMs + ceiling (v.DepositOnly row.id)

theorem saturateI64_le {n : Int} (h : 0 ≤ n) : saturateI64 n ≤ n := by
  unfold saturateI64 i64Min
  omega

/-- The expiry of an insertion is within the ceiling of its class. -/
theorem effectiveExpiry_le [Decidable p] (hp : p → access.tokenClass = .deposit) :
    effectiveExpiry now.1 (requestedExpiry access request now.1) ≤ now.1 + ceiling p := by
  have hnow := now.2.1
  by_cases h : p
  · have hclass := hp h
    have hsat : saturateI64 (now.1 + maxDepositRetentionMs) ≤ now.1 + maxDepositRetentionMs :=
      saturateI64_le (by unfold maxDepositRetentionMs; omega)
    simp only [effectiveExpiry, requestedExpiry, hclass, ceiling, if_pos h]
    omega
  · have hsat : saturateI64 (now.1 + maxRetentionMs) ≤ now.1 + maxRetentionMs :=
      saturateI64_le (by unfold maxRetentionMs; omega)
    simp only [effectiveExpiry, ceiling, if_neg h]
    omega

/-- What was answered later changes neither the first post of an id nor makes more rows
deposits. -/
theorem answered_prefix_next (v : Server) (step : Step) :
    v.answered <+: (step.next P config v).answered := by
  show v.answered <+: step.nextAnswered v
  unfold Step.nextAnswered
  split
  · exact prefix_append _ _
  · exact prefix_rfl

theorem Bounded.mono {v' : Server} {row row' : EnvelopeRow} (h : Bounded v row)
    (hanswered : v.answered <+: v'.answered) (hid : row'.id = row.id)
    (hcreated : row'.createdAtMs = row.createdAtMs) (hexpiry : row'.expiryMs = row.expiryMs) :
    Bounded v' row' := by
  obtain ⟨later, hlater⟩ := hanswered
  obtain ⟨post, hpost, hclock⟩ := h.first
  refine ⟨⟨post, ?_, hcreated ▸ hclock⟩, hcreated ▸ h.created, ?_⟩
  · rw [Server.firstPost] at hpost ⊢
    rw [hid, ← hlater, find?_append, hpost, Option.some_or]
  have hfewer : v'.DepositOnly row'.id → v.DepositOnly row.id := by
    intro hall old hold
    rw [← hid]
    exact hall old (hlater ▸ mem_append_left _ hold)
  have := ceiling_le hfewer
  have := h.expiry
  rw [hexpiry, hcreated]
  omega

/-- A row that is posted again within its ceiling. -/
theorem Bounded.again {held : EnvelopeRow} (h : Bounded v held)
    (hposted : (Step.post access request now).posted v = some posted) (hid : posted.id = held.id)
    (hfind : v.store.envelopes.find access.token request.msgId = some held)
    (hsame : held.sealed = request.sealed)
    (hwithin : (Step.post access request now).WithinCeiling v) :
    Bounded ((Step.post access request now).next P config v)
      ((newEnvelope access request now.1).extend held) := by
  have hkey := (Envelopes.key_of_find hfind).2
  have hextended : (newEnvelope access request now.1).extend held =
      { held with
        hopTtl := max held.hopTtl request.hopTtl
        expiryMs := max held.expiryMs
          (effectiveExpiry now.1 (requestedExpiry access request now.1)) } := if_pos hkey
  have hold : Bounded ((Step.post access request now).next P config v) held :=
    h.mono (answered_prefix_next v _) rfl rfl rfl
  rw [hextended]
  refine ⟨hold.first, hold.created, max_le hold.expiry ?_⟩
  refine (hwithin held hfind hsame).trans (Int.add_le_add_left (ceiling_le fun hall => ?_) _)
  have hall : ∀ post ∈ (Step.post access request now).nextAnswered v, post.id = held.id →
      post.access.tokenClass = .deposit := hall
  rw [nextAnswered_post hposted] at hall
  exact ⟨fun post hpost => hall post (mem_append_left _ hpost),
    hall _ (mem_append_right _ (mem_singleton_self _)) hid⟩

/-- A row that is new. -/
theorem Bounded.fresh (hissued : Issued v)
    (hposted : (Step.post access request now).posted v = some posted)
    (hid : posted.id = v.store.envelopes.lastId + 1) :
    Bounded ((Step.post access request now).next P config v)
      { (newEnvelope access request now.1).row access.depositor with
        id := v.store.envelopes.lastId + 1 } := by
  have hanswered : ((Step.post access request now).next P config v).answered =
      v.answered ++ [{ id := posted.id, access, request, nowMs := now.1 }] := nextAnswered_post hposted
  -- nobody was answered with this id before
  have hnew : v.answered.find? (·.id = posted.id) = none := by
    refine find?_eq_none.mpr fun post hpost => ?_
    have := hissued post hpost
    simp only [decide_eq_true_eq]
    omega
  refine ⟨⟨{ id := posted.id, access, request, nowMs := now.1 }, ?_, rfl⟩, now.2.1,
    effectiveExpiry_le fun hall => ?_⟩
  · rw [Server.firstPost, hanswered, find?_append]
    rw [← hid, hnew]
    simp
  · refine hall { id := posted.id, access, request, nowMs := now.1 } ?_ hid
    rw [hanswered]
    exact mem_append_right _ (mem_singleton_self _)

/-- One step keeps every row bounded. -/
theorem bounded_next (hissued : Issued v) (h : ∀ row ∈ v.rows, Bounded v row) {step : Step}
    (hwithin : step.WithinCeiling v) :
    ∀ row ∈ (step.next P config v).rows, Bounded (step.next P config v) row := by
  intro row' hrow'
  cases origin_next P config v step hrow' with
  | kept hrow hid hcreated hexpiry =>
    exact (h _ hrow).mono (answered_prefix_next v step) hid hcreated hexpiry
  | again hstep hposted hid hfind hsame hextended =>
    subst hstep hextended
    exact (h _ (Envelopes.key_of_find hfind).1).again hposted hid hfind hsame hwithin
  | fresh hstep hposted hid hnew =>
    subst hstep hnew
    exact .fresh hissued hposted hid

/-! ## What a fetch returns -/

/-- Whatever is fetched would survive pruning at the same clock, its first post is less than
thirty days ago, and at most eight days if nobody posted it but with deposit credentials. -/
def Retained (v : Server) : Prop :=
  ∀ (familyToken : Bytes) (hints : List Bytes) (afterId : Int) (limit : Nat) (now : Clock)
    (page : List StoredEnvelope),
    v.store.fetchEnvelopes familyToken hints afterId limit now.1 = .ok page →
      ∀ e ∈ page,
        (∃ row ∈ (v.store.pruneExpired now.1).envelopes.rows, StoredEnvelope.ofRow row = e) ∧
        now.1 < e.createdAtMs + maxRetentionMs ∧
        ∃ first, v.firstPost e.id = some first ∧ first.nowMs = e.createdAtMs ∧
          (v.DepositOnly e.id → now.1 ≤ first.nowMs + maxDepositRetentionMs)

theorem retained_of_bounded (h : ∀ row ∈ v.rows, Bounded v row) : Retained v := by
  intro familyToken hints afterId limit now page hpage e he
  unfold RelayStore.fetchEnvelopes at hpage
  split at hpage
  · cases hpage
    cases he
  split at hpage
  · cases hpage
  cases hpage
  obtain ⟨row, hfetched, rfl⟩ := mem_map.mp he
  have hbehind := mem_of_mem_take (Paging.fillPage_isPrefix.subset hfetched)
  obtain ⟨hrow, hsees⟩ := mem_filter.mp (mem_filter.mp hbehind).1
  have hlive : now.1 < row.expiryMs := (of_decide_eq_true hsees).2.2
  obtain ⟨hfirst, hcreated, hexpiry⟩ := h row hrow
  have hceiling := ceiling_le_maxRetentionMs (v.DepositOnly row.id)
  have hwithin : now.1 < row.createdAtMs + maxRetentionMs := by omega
  refine ⟨⟨row, ?_, rfl⟩, hwithin, ?_⟩
  · rw [rows_pruneExpired]
    refine mem_filter.mpr ⟨hrow, decide_eq_true ?_⟩
    -- neither column is behind the clock
    rintro (hgone | hgone)
    · omega
    · have hnow := now.2
      simp only [i64Max] at hnow
      unfold saturateI64 i64Min i64Max at hgone
      omega
  · obtain ⟨first, hfound, hclock⟩ := hfirst
    refine ⟨first, hfound, hclock, fun hdeposit => ?_⟩
    have hdeposit : v.DepositOnly row.id := hdeposit
    rw [ceiling, if_pos hdeposit] at hexpiry
    omega

/-- In every history from an empty mailbox in which no re-post asks for more than the
ceiling of the row it meets, a fetch returns nothing beyond its retention. -/
theorem retained_of_withinCeiling (initial : Server) (hrows : initial.rows = [])
    (hanswered : initial.answered = []) (steps : List Step)
    (hwithin : ∀ (k : Nat) (step : Step), steps[k]? = some step →
      step.WithinCeiling (serverAt P config initial steps k)) (n : Nat) :
    Retained (serverAt P config initial steps n) := by
  refine retained_of_bounded (Runs.stateAt_invariant_along
    (fun v => Issued v ∧ ∀ row ∈ v.rows, Bounded v row) (fun v step => step.WithinCeiling v)
    (fun v step hwithin h => ⟨issued_next h.1 step, bounded_next h.1 h.2 hwithin⟩) ?_ hwithin n).2
  rw [hrows]
  exact ⟨by simp [Issued, hanswered], by simp⟩

/-! ### Posting again -/

section Example

def selfHosted : Config where
  adminToken := none
  authTokens := [ascii "family"]
  familyQuotaBytes := 1000

/-- An envelope that asks to be kept for a hundred days. -/
def longLived : PostEnvelopeRequest where
  msgId := replicate 16 1
  hopTtl := 3
  recipientHint := replicate 8 2
  sealed := [1, 2, 3]
  expiryMs := (day 100).1

def memberAccess : FamilyAccess where
  token := ascii "family"
  tokenClass := .member
  familyKey := ascii "family"
  quotaBytes := 1000
  depositor := none

def cardToken : Bytes := depositTokenFor Sample.primitives (ascii "family")

def depositAccess : FamilyAccess :=
  { memberAccess with tokenClass := .deposit, depositor := some cardToken }

/-- The envelope is posted, and posted again on another day with the same credential. -/
def postedAgainOn (credential : Bytes) (access : FamilyAccess) (again : Nat) : List Step :=
  [.authorize credential .post (day 0), .post access longLived (day 0),
    .post access longLived (day again)]

/-- The server after both posts. -/
def servedAgain (credential : Bytes) (access : FamilyAccess) (again : Nat) : Server :=
  serverAt Sample.primitives selfHosted { store := {} } (postedAgainOn credential access again) 3

/-- Posted twice on one day, the envelope keeps to its ceiling. -/
theorem retained_posted_twice : Retained (servedAgain cardToken depositAccess 0) := by
  refine retained_of_withinCeiling { store := {} } rfl rfl _ (fun k step hstep => ?_) 3
  match k with
  | 0 => obtain rfl := Option.some.inj hstep; exact trivial
  | 1 => obtain rfl := Option.some.inj hstep; exact nofun
  | 2 =>
    cases hstep
    intro held hheld _
    obtain rfl : held = { (newEnvelope depositAccess longLived 0).row (some cardToken) with id := 1 } := by
      have hfound : (serverAt Sample.primitives selfHosted { store := {} }
          (postedAgainOn cardToken depositAccess 0) 2).store.envelopes.find depositAccess.token
            longLived.msgId =
          some { (newEnvelope depositAccess longLived 0).row (some cardToken) with id := 1 } := by
        decide +kernel
      exact Option.some.inj (hheld.symm.trans hfound)
    decide +kernel
  | _ + 3 => cases hstep

/-- Posted again after twenty days, the family's own envelope is fetched on day 31, when
pruning would delete it; posted again after seven days, an envelope that came with a
friend's card is fetched on day 10. -/
theorem reposts_outlive_retention :
    (let v := servedAgain (ascii "family") memberAccess 20;
      (v.store.fetchEnvelopes (ascii "family") [longLived.recipientHint] 0 1 (day 31).1).toOption.map
          (·.map (·.id)) = some [1] ∧
        (v.store.pruneExpired (day 31).1).envelopes.rows = [] ∧ ¬ Retained v) ∧
    (let v := servedAgain cardToken depositAccess 7;
      v.DepositOnly 1 ∧ (v.firstPost 1).map (·.nowMs) = some 0 ∧
        (v.store.fetchEnvelopes (ascii "family") [longLived.recipientHint] 0 1 (day 10).1).toOption.map
          (·.map (·.id)) = some [1] ∧ ¬ Retained v) := by
  have hfetched : ∀ {answer : Except String (List StoredEnvelope)},
      answer.toOption.map (·.map (·.id)) = some [1] →
      ∃ e, answer = .ok [e] ∧ e.id = 1 := by
    intro answer h
    match answer with
    | .ok [e] => exact ⟨e, rfl, by simpa [Except.toOption] using h⟩
    | .ok [] => simp [Except.toOption] at h
    | .ok (_ :: _ :: _) => simp [Except.toOption] at h
    | .error _ => cases h
  refine ⟨?_, ?_⟩
  · intro v
    have hpage : (v.store.fetchEnvelopes (ascii "family") [longLived.recipientHint] 0 1
        (day 31).1).toOption.map (·.map (·.id)) = some [1] := by decide +kernel
    have hpruned : (v.store.pruneExpired (day 31).1).envelopes.rows = [] := by decide +kernel
    refine ⟨hpage, hpruned, fun hretained => ?_⟩
    obtain ⟨e, hanswer, _⟩ := hfetched hpage
    obtain ⟨⟨row, hrow, _⟩, _⟩ := hretained _ _ _ _ _ _ hanswer e (mem_singleton_self e)
    rw [hpruned] at hrow
    cases hrow
  · intro v
    have hpage : (v.store.fetchEnvelopes (ascii "family") [longLived.recipientHint] 0 1
        (day 10).1).toOption.map (·.map (·.id)) = some [1] := by decide +kernel
    have hdeposit : v.DepositOnly 1 := by decide +kernel
    have hfirst : (v.firstPost 1).map (·.nowMs) = some 0 := by decide +kernel
    refine ⟨hdeposit, hfirst, hpage, fun hretained => ?_⟩
    obtain ⟨e, hanswer, hid⟩ := hfetched hpage
    obtain ⟨_, _, first, hfound, _, hlate⟩ :=
      hretained _ _ _ _ _ _ hanswer e (mem_singleton_self e)
    rw [hid] at hfound hlate
    rw [hfound] at hfirst
    have hclock : first.nowMs = 0 := Option.some.inj hfirst
    have hlate := hlate hdeposit
    rw [hclock] at hlate
    exact absurd hlate (by decide +kernel)

end Example
end CruiseMesh.Relayd
