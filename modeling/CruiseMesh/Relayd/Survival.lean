import CruiseMesh.Relayd.Steps

/-!
# Accepted posts and rotations

A post that is answered as stored has to be there when the family comes for it, under
whatever token the family has by then. A rotation moves every row it finds, so the one row
that can be missed is a row that is not there yet: the post was authorised under the old
token, the family rotates, and only then is the row inserted, under the old token, which
nobody can fetch with any more.

`carries_next` says that each step takes the rows and the families through the same
renaming of tokens. So a row that is inserted under the current token of its family stays
under the current token, and `accepted_post_is_fetched` says that every full walk reads it.
-/

namespace CruiseMesh.Relayd
open RelayStore List Envelopes Paging
variable {P : Primitives} {config : Config}

/-! ## What ends an envelope -/

/-- The step acknowledges the row, reads a clock by which the row has expired, or deletes
the family the row is stored under. -/
def Step.Ends (v : Server) (row : EnvelopeRow) : Step → Prop
  | .authorize _ _ _ => False
  | .post access _ now => ⟨.post, access⟩ ∈ v.granted ∧ row.Expired now.1
  | .rotate _ _ => False
  | .ack access ids =>
    ⟨.read, access⟩ ∈ v.granted ∧ row.familyToken = access.token ∧ row.id ∈ ids
  | .prune now => row.Expired now.1
  | .delete idOrToken =>
    ∃ held ∈ v.store.families.resolveFamily idOrToken, held.token = row.familyToken

/-- The columns an envelope keeps for as long as it is stored. -/
def EnvelopeRow.contents (row : EnvelopeRow) : Int × Bytes × Bytes × Bytes :=
  (row.id, row.msgId, row.recipientHint, row.sealed)

variable (config) in
/-- A step takes rows and families through one renaming of tokens, and leaves the tokens of
the server alone. -/
structure Carries (v v' : Server) (step : Step) (rename : Bytes → Bytes) : Prop where
  rows : ∀ row ∈ v.rows, step.Ends v row ∨
    ∃ row' ∈ v'.rows, row'.contents = row.contents ∧ row'.familyToken = rename row.familyToken
  families : ∀ family' ∈ v'.store.families.rows, ∃ family ∈ v.store.families.rows,
    family'.familyId = family.familyId ∧ family'.token = rename family.token
  static : ∀ token, rename token ∈ config.authTokens ↔ token ∈ config.authTokens
  fixed : ∀ token ∈ config.authTokens, rename token = token

variable (config) in
/-- No family has a token of the server, which provisioning and rotating check. -/
def Separate (v : Server) : Prop :=
  ∀ family ∈ v.store.families.rows, family.token ∉ config.authTokens

variable {v v' : Server} {step : Step} {access : FamilyAccess} {request : PostEnvelopeRequest}
  {now : Clock}

/-- Steps that rename nothing. -/
theorem Carries.of_id (hrows : ∀ row ∈ v.rows, step.Ends v row ∨
      ∃ row' ∈ v'.rows, row'.contents = row.contents ∧ row'.familyToken = row.familyToken)
    (hfamilies : v'.store.families.rows ⊆ v.store.families.rows) :
    Carries config v v' step id :=
  ⟨hrows, fun family hfamily => ⟨family, hfamilies hfamily, rfl, rfl⟩, fun _ => Iff.rfl,
    fun _ _ => rfl⟩

theorem Carries.of_store_eq (h : v'.store = v.store) :
    Carries config v v' step id :=
  .of_id (fun row hrow => .inr ⟨row, by rw [Server.rows, h]; exact hrow, rfl, rfl⟩)
    (by rw [h]; exact List.Subset.refl _)

theorem not_expired_of_not_mem {s : RelayStore} {nowMs : Int} {row : EnvelopeRow}
    (hrow : row ∈ s.envelopes.rows) : row.Expired nowMs ∨
      row ∈ (s.pruneExpired nowMs).envelopes.rows := by
  by_cases h : row.Expired nowMs
  · exact .inl h
  · rw [rows_pruneExpired]
    exact .inr (mem_filter.mpr ⟨hrow, decide_eq_true h⟩)

theorem extend_contents (e : NewEnvelope) (row : EnvelopeRow) :
    (e.extend row).contents = row.contents ∧ (e.extend row).familyToken = row.familyToken := by
  unfold NewEnvelope.extend
  split <;> exact ⟨rfl, rfl⟩

theorem carries_post (hgrant : ⟨.post, access⟩ ∈ v.granted)
    (hpost : PostStep access request now.1 v.store
      ((Step.post access request now).posted v) v'.store) :
    Carries config v v' (.post access request now) id := by
  -- the rows that pruning leaves
  have hpruned : ∀ row ∈ v.rows, (Step.post access request now).Ends v row ∨
      ∃ row' ∈ (v.store.pruneExpired now.1).envelopes.rows,
        row'.contents = row.contents ∧ row'.familyToken = row.familyToken := by
    intro row hrow
    rcases not_expired_of_not_mem hrow with hgone | hkept
    · exact .inl ⟨hgrant, hgone⟩
    · exact .inr ⟨row, hkept, rfl, rfl⟩
  generalize (Step.post access request now).posted v = answer at hpost
  generalize hstore : v'.store = s' at hpost
  cases hpost with
  | refused => exact .of_store_eq hstore
  | full =>
    refine .of_id (by rw [Server.rows, Server.rows, hstore]; exact hpruned) ?_
    rw [hstore]
    exact List.Subset.refl _
  | again hfind hsame hid =>
    refine .of_id (fun row hrow =>
      .inr ⟨_, ?_, extend_contents (newEnvelope access request now.1) row⟩) ?_
    · rw [Server.rows, hstore, rows_repost]
      exact mem_map_of_mem hrow
    · rw [hstore]
      exact List.Subset.refl _
  | @fresh base _ posted hfind hbase hrows hlast hfamilies hid =>
    refine .of_id (fun row hrow => ?_) (by rw [hstore, hfamilies]; exact List.Subset.refl _)
    have hbefore : (Step.post access request now).Ends v row ∨
        ∃ row' ∈ base.envelopes.rows,
          row'.contents = row.contents ∧ row'.familyToken = row.familyToken := by
      rcases hbase with rfl | rfl
      · exact .inr ⟨row, hrow, rfl, rfl⟩
      · exact hpruned row hrow
    refine hbefore.imp_right ?_
    rintro ⟨row', hrow', hsame⟩
    exact ⟨row', by rw [Server.rows, hstore, hrows]; exact mem_append_left _ hrow', hsame⟩

theorem carries_rotate {request : RotateFamilyRequest} (hseparate : Separate config v)
    (hnext : v'.store = (rotateFamily P config v.store access.token request).2) :
    ∃ rename, Carries config v v' (.rotate access request) rename := by
  rcases rotateFamily_store P config v.store access.token request with hsame |
    ⟨newToken, rotationPk, s', hrotated, hnew, ⟨held, hheld, hcurrent⟩, hrows, hlast, hfamilies⟩
  · exact ⟨id, .of_store_eq (hnext.trans hsame)⟩
  have hold : access.token ∉ config.authTokens := hcurrent ▸ hseparate held hheld
  rw [hrotated] at hnext
  refine ⟨fun token => if token = access.token then newToken else token, ?_, ?_, ?_, ?_⟩
  · intro row hrow
    refine .inr ⟨moved access.token newToken row, ?_, ?_⟩
    · rw [Server.rows, hnext, hrows]
      exact mem_map_of_mem hrow
    · unfold moved
      split
      · exact ⟨rfl, rfl⟩
      · exact ⟨rfl, rfl⟩
  · intro family' hfamily'
    rw [hnext, hfamilies] at hfamily'
    obtain ⟨family, hfamily, rfl⟩ := mem_map.mp hfamily'
    refine ⟨family, hfamily, ?_⟩
    unfold rekeyed
    split
    · exact ⟨rfl, rfl⟩
    · exact ⟨rfl, rfl⟩
  · intro token
    split
    · rename_i htoken
      exact ⟨fun h => absurd h hnew, fun h => absurd (htoken ▸ h) hold⟩
    · exact Iff.rfl
  · intro token htoken
    exact if_neg fun h : token = access.token => hold (h ▸ htoken)

variable (P) in
/-- Every step carries the envelopes that it does not end. -/
theorem carries_next (hseparate : Separate config v) (step : Step) :
    ∃ rename, Carries config v (step.next P config v) step rename := by
  cases step with
  | authorize credential op now => exact ⟨id, .of_store_eq rfl⟩
  | post access request now =>
    by_cases hgrant : ⟨.post, access⟩ ∈ v.granted
    · exact ⟨id, carries_post hgrant (postStep_next P config v access request now)⟩
    · exact ⟨id, .of_store_eq (if_neg hgrant)⟩
  | rotate access request =>
    by_cases hgrant : ⟨.rotate, access⟩ ∈ v.granted
    · exact carries_rotate hseparate (if_pos hgrant)
    · exact ⟨id, .of_store_eq (if_neg hgrant)⟩
  | ack access ids =>
    by_cases hgrant : ⟨.read, access⟩ ∈ v.granted
    · have hstore : ((Step.ack access ids).next P config v).store =
          committed v.store (ackRequest access ids v.store) := if_pos hgrant
      obtain ⟨hfamilies, _, _, hrows⟩ := rows_ackRequest access ids v.store
      refine ⟨id, .of_id (fun row hrow => ?_) (by rw [hstore, hfamilies]; exact List.Subset.refl _)⟩
      rcases hrows row hrow with hkept | hacked
      · exact .inr ⟨row, by rw [Server.rows, hstore]; exact hkept, rfl, rfl⟩
      · exact .inl ⟨hgrant, hacked⟩
    · exact ⟨id, .of_store_eq (if_neg hgrant)⟩
  | prune now =>
    refine ⟨id, .of_id (fun row hrow => ?_) (List.Subset.refl _)⟩
    exact (not_expired_of_not_mem hrow).imp_right fun hkept => ⟨row, hkept, rfl, rfl⟩
  | delete idOrToken =>
    have hstore : ((Step.delete idOrToken).next P config v).store =
      committed v.store (adminDeleteFamily v.store idOrToken) := rfl
    rcases adminDeleteFamily_cases v.store idOrToken with hsame | ⟨held, hheld, hdeleted⟩
    · exact ⟨id, .of_store_eq (hstore.trans hsame)⟩
    refine ⟨id, .of_id (fun row hrow => ?_) ?_⟩
    · by_cases hfamily : held.token = row.familyToken
      · exact .inl ⟨held, hheld, hfamily⟩
      · refine .inr ⟨row, ?_, rfl, rfl⟩
        rw [Server.rows, hstore, hdeleted]
        exact mem_filter.mpr ⟨hrow, by simpa using fun h => hfamily h.symm⟩
    · rw [hstore, hdeleted]
      exact filter_subset_self _

theorem separate_next (h : Separate config v) (step : Step) :
    Separate config (step.next P config v) := by
  obtain ⟨rename, hcarries⟩ := carries_next P h step
  intro family' hfamily'
  obtain ⟨family, hfamily, _, htoken⟩ := hcarries.families family' hfamily'
  rw [htoken, hcarries.static]
  exact h family hfamily

/-! ## The family's current token -/

variable (config) in
/-- The current member token of the family an access was granted for. A family is known by
its stable id; a family of the server's configuration has no other token than its own. -/
def IsCurrent (v : Server) (access : FamilyAccess) (token : Bytes) : Prop :=
  if access.token ∈ config.authTokens then token = access.token
  else ∃ family ∈ v.store.families.rows, family.familyId = access.familyKey ∧ family.token = token

instance (v : Server) (access : FamilyAccess) (token : Bytes) :
    Decidable (IsCurrent config v access token) := by
  unfold IsCurrent; infer_instance

/-- The envelope is stored under the family's current token, if there still is one. -/
def Held (config : Config) (v : Server) (access : FamilyAccess)
    (contents : Int × Bytes × Bytes × Bytes) : Prop :=
  ∃ row ∈ v.rows, row.contents = contents ∧
    ∀ token, IsCurrent config v access token → row.familyToken = token

/-- A step that does not end an envelope keeps it under the current token. -/
theorem held_next (hseparate : Separate config v) {contents : Int × Bytes × Bytes × Bytes}
    (h : Held config v access contents)
    (hlive : ∀ row ∈ v.rows, row.id = contents.1 → ¬ step.Ends v row) :
    Held config (step.next P config v) access contents := by
  obtain ⟨rename, hcarries⟩ := carries_next P hseparate step
  obtain ⟨row, hrow, rfl, hcurrent⟩ := h
  rcases hcarries.rows row hrow with hends | ⟨row', hrow', hsame, htoken'⟩
  · exact absurd hends (hlive row hrow rfl)
  refine ⟨row', hrow', hsame, fun token htoken => ?_⟩
  rw [htoken']
  unfold IsCurrent at htoken hcurrent
  by_cases hstatic : access.token ∈ config.authTokens
  · rw [if_pos hstatic] at htoken
    rw [hcurrent access.token (by rw [if_pos hstatic]), htoken]
    exact hcarries.fixed _ hstatic
  · rw [if_neg hstatic] at htoken
    obtain ⟨family', hfamily', hid', rfl⟩ := htoken
    obtain ⟨family, hfamily, hid, hmoved⟩ := hcarries.families family' hfamily'
    rw [hmoved, hcurrent family.token]
    rw [if_neg hstatic]
    exact ⟨family, hfamily, hid ▸ hid', rfl⟩

/-! ## Posting under the current token -/

variable (config) in
/-- A post names the token its family still has, and an envelope that is there already is
posted for the same recipient. -/
def Step.Current (v : Server) : Step → Prop
  | .post access request _ =>
    (∀ token, IsCurrent config v access token → token = access.token) ∧
    ∀ held ∈ v.store.envelopes.find access.token request.msgId,
      held.sealed = request.sealed → held.recipientHint = request.recipientHint
  | _ => True

theorem held_of_posted {posted : Posted}
    (hcurrent : (Step.post access request now).Current config v)
    (hposted : (Step.post access request now).posted v = some posted) :
    Held config ((Step.post access request now).next P config v) access
      (posted.id, request.msgId, request.recipientHint, request.sealed) := by
  have hpost := postStep_next P config v access request now
  have hstill : ((Step.post access request now).next P config v).store.families = v.store.families →
      ∀ token, IsCurrent config ((Step.post access request now).next P config v) access token →
        access.token = token := by
    intro hfamilies token htoken
    refine (hcurrent.1 token ?_).symm
    unfold IsCurrent at htoken ⊢
    rw [hfamilies] at htoken
    exact htoken
  rw [hposted] at hpost
  generalize hstore : (Step.post access request now).nextStore P config v = s' at hpost
  have hrowsOf : ((Step.post access request now).next P config v).rows = s'.envelopes.rows :=
    congrArg (·.envelopes.rows) hstore
  cases hpost with
  | @again held _ hfind hsame hid =>
    obtain ⟨hmem, htoken, hmsg⟩ := key_of_find hfind
    obtain ⟨hcontents, hfor⟩ := extend_contents (newEnvelope access request now.1) held
    refine ⟨_, ?_, hcontents.trans ?_, fun token hnow => ?_⟩
    · rw [hrowsOf, rows_repost]
      exact mem_map_of_mem hmem
    · rw [EnvelopeRow.contents, hid, hmsg, hsame, hcurrent.2 held hfind hsame]
    · rw [hfor, htoken]
      exact hstill (congrArg (·.families) hstore) token hnow
  | fresh hfind hbase hrows hlast hfamilies hid =>
    refine ⟨{ (newEnvelope access request now.1).row access.depositor with
      id := v.store.envelopes.lastId + 1 }, ?_, ?_,
      hstill ((congrArg (·.families) hstore).trans hfamilies)⟩
    · rw [hrowsOf, hrows]
      exact mem_append_right _ (mem_singleton_self _)
    · rw [hid]
      rfl

/-! ## Reading it -/

/-- A page of a walk: the moment, the token, the limit and the clock of the fetch. -/
structure Fetch where
  moment : Nat
  token : Bytes
  limit : Nat
  now : Clock

section Walks
variable (P config) (initial : Server) (steps : List Step) (hints : List Bytes)

/-- The page that is fetched behind a cursor. -/
def Fetch.page (fetch : Fetch) (after : Int) : List StoredEnvelope :=
  ((serverAt P config initial steps fetch.moment).store.fetchEnvelopes fetch.token hints after
    fetch.limit fetch.now.1).toOption.getD []

end Walks

section Runs
variable {initial : Server} {steps : List Step}

/-- From its post on, and for as long as no step ends it, an envelope is held. -/
theorem held_serverAt (hseparate : Separate config initial)
    (hcurrent : ∀ (k : Nat) (step : Step), steps[k]? = some step →
      step.Current config (serverAt P config initial steps k))
    {k : Nat} {access : FamilyAccess} {request : PostEnvelopeRequest} {now : Clock} {posted : Posted}
    (hpost : steps[k]? = some (.post access request now))
    (hposted : (Step.post access request now).posted (serverAt P config initial steps k) = some posted)
    {n : Nat} (hn : k < n)
    (hlive : ∀ j, k < j → j < n → ∀ step, steps[j]? = some step →
      ∀ row ∈ (serverAt P config initial steps j).rows, row.id = posted.id →
        ¬ step.Ends (serverAt P config initial steps j) row) :
    Held config (serverAt P config initial steps n) access
      (posted.id, request.msgId, request.recipientHint, request.sealed) := by
  refine Runs.stateAt_from (fun server => Held config server access _) hn ?_ ?_
  · show Held config (serverAt P config initial steps (k + 1)) access _
    rw [serverAt_succ hpost]
    exact held_of_posted (hcurrent k _ hpost) hposted
  · intro j step hkj hjn hstep ih
    have hapart : Separate config (serverAt P config initial steps j) :=
      Runs.stateAt_invariant (Separate config) (fun _ step h => separate_next h step) hseparate j
    exact held_next hapart ih (hlive j hkj hjn step hstep)

/-- A fetch with some hints and a positive limit reads a page of what it may see. -/
theorem isPage_page {hints : List Bytes} (hsome : hints ≠ []) (hmany : hints.length ≤ maxFetchHints)
    {fetch : Fetch} (hlimit : 0 < fetch.limit) (after : Int) :
    Paging.IsPage (·.id)
      (((serverAt P config initial steps fetch.moment).store.visible fetch.token hints
        fetch.now.1).map StoredEnvelope.ofRow) after
      (fetch.page P config initial steps hints after) := by
  obtain ⟨page, hpage, hisPage⟩ :=
    (serverAt P config initial steps fetch.moment).store.fetchEnvelopes_isPage fetch.token
      fetch.now.1 hsome hmany hlimit after
  rw [Fetch.page, hpage]
  exact hisPage

end Runs

/-- In every interleaving whose posts are stored under a token their family still has: an
envelope that was answered as stored is read by every finished walk with the family's
current token, at whatever moments its pages are fetched, as long as nothing has ended the
envelope; and a walk at one moment finishes. -/
theorem accepted_post_is_fetched (initial : Server) (hseparate : Separate config initial)
    (steps : List Step)
    (hcurrent : ∀ (k : Nat) (step : Step), steps[k]? = some step →
      step.Current config (serverAt P config initial steps k))
    (k : Nat) (access : FamilyAccess) (request : PostEnvelopeRequest) (now : Clock) (posted : Posted)
    (hpost : steps[k]? = some (.post access request now))
    (hposted : (Step.post access request now).posted (serverAt P config initial steps k) = some posted)
    (n : Nat)
    (hlive : ∀ j, k < j → j < n → ∀ step, steps[j]? = some step →
      ∀ row ∈ (serverAt P config initial steps j).rows, row.id = posted.id →
        ¬ step.Ends (serverAt P config initial steps j) row)
    (hints : List Bytes) (hhint : request.recipientHint ∈ hints)
    (hmany : hints.length ≤ maxFetchHints) :
    (∀ fetches : List Fetch,
      (∀ fetch ∈ fetches, (k < fetch.moment ∧ fetch.moment ≤ n) ∧ 0 < fetch.limit ∧
        IsCurrent config (serverAt P config initial steps fetch.moment) access fetch.token ∧
        ∀ row ∈ (serverAt P config initial steps fetch.moment).rows, row.id = posted.id →
          ¬ row.Expired fetch.now.1) →
      ∀ read, walk (·.id) (fun fetch after => fetch.page P config initial steps hints after)
        fetches 0 = some read →
      ∃ e ∈ read, e.id = posted.id ∧ e.msgId = request.msgId ∧
        e.recipientHint = request.recipientHint ∧ e.sealed = request.sealed) ∧
    ∀ fetch : Fetch, 0 < fetch.limit → ∃ pages read,
      walk (·.id) (fun fetch after => fetch.page P config initial steps hints after)
        (replicate pages fetch) 0 = some read := by
  have hsome : hints ≠ [] := ne_nil_of_mem hhint
  constructor
  · intro fetches hfetches read hwalk
    -- the rows a fetch of the walk may see contain the envelope
    have hthere : ∀ fetch ∈ fetches, ∃ e ∈ ((serverAt P config initial steps
        fetch.moment).store.visible fetch.token hints fetch.now.1).map StoredEnvelope.ofRow,
        e.id = posted.id ∧ e.msgId = request.msgId ∧ e.recipientHint = request.recipientHint ∧
          e.sealed = request.sealed := by
      intro fetch hfetch
      obtain ⟨⟨hk, hn⟩, _, hnow, hfresh⟩ := hfetches fetch hfetch
      obtain ⟨row, hrow, hcontents, htoken⟩ := held_serverAt hseparate hcurrent hpost hposted hk
        fun j hj hjm => hlive j hj (lt_of_lt_of_le hjm hn)
      simp only [EnvelopeRow.contents, Prod.mk.injEq] at hcontents
      obtain ⟨hid, hmsg, hfor, hsealed⟩ := hcontents
      have hunexpired := hfresh row hrow hid
      refine ⟨StoredEnvelope.ofRow row, mem_map_of_mem (mem_filter.mpr ⟨hrow, ?_⟩), hid, hmsg,
        hfor, hsealed⟩
      refine decide_eq_true ⟨htoken _ hnow, hfor ▸ hhint, ?_⟩
      exact not_le.mp fun hgone => hunexpired (.inl hgone)
    -- ids are positive, so a walk from the start is in front of the envelope
    have hpositive : 0 < posted.id := by
      obtain ⟨row, hrow, hcontents, _⟩ := held_serverAt hseparate hcurrent hpost hposted
        (Nat.lt_succ_self k) fun j hj hjk => absurd hj (by omega)
      have hid : row.id = posted.id := congrArg Prod.fst hcontents
      exact hid ▸ ((serverAt P config initial steps (k + 1)).store.envelopes.issued row hrow).1
    exact mem_of_walk (fun fetch _ => ascending_visible _ _ _ _)
      (fun fetch hfetch after => isPage_page hsome hmany (hfetches fetch hfetch).2.1 after)
      hthere hpositive hwalk
  · intro fetch hlimit
    exact ⟨_, _, walk_const (ascending_visible _ _ _ _)
      (fun after => isPage_page hsome hmany hlimit after) _ 0 (le_refl _)⟩

/-! ### A rotation between two steps of a post -/

section Example

/-- A server with one family. -/
def oneFamily : Server where
  store := storeAt Sample.primitives hosted {}
    [.provision { token := oldToken } 0 (ascii "cmfid1-one")] 1

def ownAccess : FamilyAccess where
  token := oldToken
  tokenClass := .member
  familyKey := ascii "cmfid1-one"
  quotaBytes := 1000
  depositor := none

def letter : PostEnvelopeRequest where
  msgId := replicate 16 1
  hopTtl := 3
  recipientHint := replicate 8 2
  sealed := [1, 2, 3]
  expiryMs := (day 7).1

def postThenRotate : List Step :=
  [.authorize oldToken .post (day 0), .authorize oldToken .rotate (day 0),
    .post ownAccess letter (day 0), .rotate ownAccess (signedRotation oldToken newToken)]

def rotateThenPost : List Step :=
  [.authorize oldToken .post (day 0), .authorize oldToken .rotate (day 0),
    .rotate ownAccess (signedRotation oldToken newToken), .post ownAccess letter (day 0)]

/-- Pages fetched on the next day with the new token, when all four steps are done. -/
def nextDay : Fetch where
  moment := 4
  token := newToken
  limit := 100
  now := day 1

/-- The walk of the next day. -/
def nextDayWalk (steps : List Step) : Option (List StoredEnvelope) :=
  walk (·.id)
    (fun fetch after => fetch.page Sample.primitives hosted oneFamily steps [letter.recipientHint] after)
    [nextDay, nextDay] 0

theorem posted_before_rotation_is_fetched :
    ∃ read, nextDayWalk postThenRotate = some read ∧ ∃ e ∈ read, e.id = 1 ∧ e.sealed = [1, 2, 3] := by
  have hposted : ((Step.post ownAccess letter (day 0)).posted
      (serverAt Sample.primitives hosted oneFamily postThenRotate 2)).map (·.id) = some 1 := by
    decide +kernel
  obtain ⟨posted, hposted, hid⟩ := Option.map_eq_some_iff.mp hposted
  have hfound : (serverAt Sample.primitives hosted oneFamily postThenRotate 2).store.envelopes.find
      ownAccess.token letter.msgId = none := by decide +kernel
  have htokens : ∀ family ∈ (serverAt Sample.primitives hosted oneFamily postThenRotate
      2).store.families.rows, family.token = oldToken := by decide +kernel
  have hwalk : (nextDayWalk postThenRotate).isSome := by decide +kernel
  obtain ⟨read, hread⟩ := Option.isSome_iff_exists.mp hwalk
  have hall := (accepted_post_is_fetched oneFamily (fun _ _ => not_mem_nil) postThenRotate
    (fun k step hstep => ?_) 2 ownAccess letter (day 0) posted rfl hposted 4
    (fun j hj hj4 step hstep row _ _ => ?_) [letter.recipientHint] (mem_singleton_self _)
    (by decide)).1 [nextDay, nextDay] (fun fetch hfetch => ?_) read hread
  · obtain ⟨e, he, heid, _, _, hsealed⟩ := hall
    exact ⟨read, hread, e, he, heid.trans hid, hsealed⟩
  · match k with
    | 0 => obtain rfl := Option.some.inj hstep; exact trivial
    | 1 => obtain rfl := Option.some.inj hstep; exact trivial
    | 2 =>
      cases hstep
      refine ⟨fun token htoken => ?_, by rw [hfound]; exact nofun⟩
      obtain ⟨family, hfamily, _, rfl⟩ := htoken
      exact htokens family hfamily
    | 3 => obtain rfl := Option.some.inj hstep; exact trivial
    | _ + 4 => cases hstep
  · obtain rfl : j = 3 := by omega
    cases hstep
    exact id
  · obtain rfl : fetch = nextDay := by simpa using hfetch
    rw [hid]
    decide +kernel

/-- A post is authorised, the family rotates, the post is stored and answered: the walk with
the new token finishes and has read nothing, though nothing has ended the envelope. -/
theorem rotation_strands_accepted_post :
    let v := serverAt Sample.primitives hosted oneFamily rotateThenPost
    ((Step.post ownAccess letter (day 0)).posted (v 3)).map (·.id) = some 1 ∧
      IsCurrent hosted (v 4) ownAccess newToken ∧
      (∃ row ∈ (v 4).rows, row.id = 1 ∧ row.recipientHint = letter.recipientHint ∧
        ¬ row.Expired (day 1).1) ∧
      nextDayWalk rotateThenPost = some [] := by
  decide +kernel

end Example
end CruiseMesh.Relayd
