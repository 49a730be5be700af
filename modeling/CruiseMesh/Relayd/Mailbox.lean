import CruiseMesh.Lib.Paging
import CruiseMesh.Relayd.Tables

/-!
# The mailbox of a family

Storing an envelope is one transaction: a message id that is there already is resolved by
content, a new one has to pass the quota, and a quota that is full of expired rows is
pruned once and asked again. Fetching reads a page behind a cursor and deletes nothing;
an acknowledgement is what deletes.

`Inserted` says once what the transaction can do; whatever is proved about insertion is
proved from it.
-/

namespace CruiseMesh.Relayd
open Paging

def maxFetchHints : Nat := 256
def maxAckIds : Nat := 512
def defaultFetchLimit : Nat := 100
def maxFetchLimit : Nat := 500
def maxFetchPageSealedBytes : Nat := 8 * 1024 * 1024
def maxEnvelopeSealedBytes : Nat := 512 * 1024
def maxRetentionMs : Int := 30 * 24 * 60 * 60 * 1000
def presenceRetentionMs : Int := 48 * 60 * 60 * 1000
def pushRegistrationRetentionMs : Int := 45 * 24 * 60 * 60 * 1000

/-! ## Quotas -/

def depositQuotaTotalPercent : Nat := 50
def depositQuotaPerDepositorPercent : Nat := 25

def percentOf (value percent : Nat) : Nat := value * percent / 100

def depositTotalShareBytes (familyQuotaBytes : Nat) : Nat :=
  percentOf familyQuotaBytes depositQuotaTotalPercent

def depositPerDepositorShareBytes (familyQuotaBytes : Nat) : Nat :=
  percentOf familyQuotaBytes depositQuotaPerDepositorPercent

/-- `MEMBER_DEPOSITOR`: the depositor of what the family posted itself. -/
def memberDepositor : Bytes := []

inductive DepositShareScope where
  | depositor
  | allDepositors
deriving DecidableEq

inductive QuotaInsertResult where
  | stored (id : Int)
  | quotaExceeded (usageBytes : Nat)
  | depositShareExceeded (scope : DepositShareScope) (usageBytes shareBytes : Nat)
  | msgIdConflict
deriving DecidableEq

structure QuotaUsage where
  familyBytes : Nat
  depositBytes : Nat
  depositorBytes : Nat
deriving DecidableEq

variable (rows : List EnvelopeRow)

def sealedBytes : Nat := (rows.map (·.sealed.length)).sum

variable (familyToken : Bytes)

/-- The rows of a family. -/
def ofFamily (rows : List EnvelopeRow) : List EnvelopeRow :=
  rows.filter (·.familyToken = familyToken)

/-- The rows of a family that came with a deposit credential. -/
def deposits (rows : List EnvelopeRow) : List EnvelopeRow :=
  rows.filter fun row => row.familyToken = familyToken ∧ row.depositor ≠ memberDepositor

/-- The rows of a family that one depositor left. -/
def depositsBy (familyToken depositor : Bytes) (rows : List EnvelopeRow) : List EnvelopeRow :=
  rows.filter fun row => row.familyToken = familyToken ∧ row.depositor = depositor

/-- `SUM(LENGTH(sealed))`, which SQLite refuses to wrap around. -/
def sealedBytesSum : Except String Nat := do
  refuseWhen (i64Max < sealedBytes rows) "integer overflow"
  pure (sealedBytes rows)

/-- `quota_usage_on`. -/
def quotaUsageOn (depositor : Option Bytes) : Except String QuotaUsage := do
  let familyBytes ← sealedBytesSum (ofFamily familyToken rows)
  match depositor with
  | none => pure { familyBytes, depositBytes := 0, depositorBytes := 0 }
  | some depositor =>
    let depositBytes ← sealedBytesSum (deposits familyToken rows)
    let depositorBytes ← sealedBytesSum (depositsBy familyToken depositor rows)
    pure { familyBytes, depositBytes, depositorBytes }

/-- `quota_rejection`: which ceiling says no, if one does. -/
def quotaRejection (usage : QuotaUsage) (candidateBytes familyQuotaBytes : Nat)
    (depositor : Option Bytes) : Option QuotaInsertResult :=
  if familyQuotaBytes < saturatingAdd usage.familyBytes candidateBytes then
    some (.quotaExceeded usage.familyBytes)
  else if depositor = none then none
  else
    let perDepositor := depositPerDepositorShareBytes familyQuotaBytes
    let totalShare := depositTotalShareBytes familyQuotaBytes
    if perDepositor < saturatingAdd usage.depositorBytes candidateBytes then
      some (.depositShareExceeded .depositor usage.depositorBytes perDepositor)
    else if totalShare < saturatingAdd usage.depositBytes candidateBytes then
      some (.depositShareExceeded .allDepositors usage.depositBytes totalShare)
    else none

/-! ## Retention -/

/-- `RelayStore::effective_expiry`. -/
def effectiveExpiry (createdAtMs expiryMs : Int) : Int :=
  min expiryMs (saturateI64 (createdAtMs + maxRetentionMs))

/-- What `prune_expired_on` deletes at a clock reading: rows past their expiry or past the
retention ceiling. -/
def EnvelopeRow.Expired (row : EnvelopeRow) (nowMs : Int) : Prop :=
  row.expiryMs ≤ nowMs ∨ row.createdAtMs ≤ saturateI64 (nowMs - maxRetentionMs)

instance (row : EnvelopeRow) (nowMs : Int) : Decidable (row.Expired nowMs) := by
  unfold EnvelopeRow.Expired; infer_instance

namespace RelayStore
variable (s : RelayStore)

/-- `prune_expired_on`. -/
def pruneExpired (nowMs : Int) : RelayStore :=
  let pushFloor := saturateI64 (nowMs - pushRegistrationRetentionMs)
  { s with
    envelopes := s.envelopes.deleteWhere fun row => row.Expired nowMs
    presence := s.presence.filter fun row =>
      ¬ row.lastSeenMs ≤ saturateI64 (nowMs - presenceRetentionMs)
    pushRegistrationHints := s.pushRegistrationHints.filter fun hint =>
      ¬ ∃ r ∈ s.pushRegistrations, r.familyToken = hint.familyToken ∧
        r.deviceToken = hint.deviceToken ∧ r.updatedMs < pushFloor
    pushRegistrations := s.pushRegistrations.filter fun r => ¬ r.updatedMs < pushFloor }

/-! ## Storing -/

/-- The columns a post brings. -/
structure NewEnvelope where
  familyToken : Bytes
  msgId : Bytes
  hopTtl : UInt8
  recipientHint : Bytes
  sealed : Bytes
  expiryMs : Int
  createdAtMs : Int
deriving DecidableEq

variable (e : NewEnvelope)

/-- The row of a post, still without an id. -/
def NewEnvelope.row (depositor : Option Bytes) : EnvelopeRow where
  id := 0
  familyToken := e.familyToken
  msgId := e.msgId
  hopTtl := e.hopTtl
  recipientHint := e.recipientHint
  sealed := e.sealed
  expiryMs := effectiveExpiry e.createdAtMs e.expiryMs
  createdAtMs := e.createdAtMs
  depositor := depositor.getD memberDepositor

/-- What an identical re-post does to the row it meets: `hop_ttl = MAX(hop_ttl, ?3),
expiry_ms = MAX(expiry_ms, ?4)`. -/
def NewEnvelope.extend (row : EnvelopeRow) : EnvelopeRow :=
  if row.familyToken = e.familyToken ∧ row.msgId = e.msgId then
    { row with
      hopTtl := max row.hopTtl e.hopTtl
      expiryMs := max row.expiryMs (effectiveExpiry e.createdAtMs e.expiryMs) }
  else row

theorem NewEnvelope.extend_id (e : NewEnvelope) (row : EnvelopeRow) : (e.extend row).id = row.id := by
  unfold extend; split <;> rfl

theorem NewEnvelope.extend_key (e : NewEnvelope) (row : EnvelopeRow) :
    (e.extend row).key = row.key := by
  unfold extend; split <;> rfl

/-- The database with the row of an identical re-post extended. -/
def repost : RelayStore :=
  { s with envelopes := s.envelopes.update e.extend e.extend_id e.extend_key }

variable (familyQuotaBytes : Nat) (depositor : Option Bytes)

/-- The quota asked about a candidate. -/
def quotaCheck : Except String (Option QuotaInsertResult) := do
  let usage ← quotaUsageOn s.envelopes.rows e.familyToken depositor
  pure (quotaRejection usage e.sealed.length familyQuotaBytes depositor)

/-- Ask the quota, and if it says no, prune and ask again. -/
def pruneThenRecheck : Except String (Option QuotaInsertResult × RelayStore) := do
  match ← s.quotaCheck e familyQuotaBytes depositor with
  | none => pure (none, s)
  | some _ =>
    let pruned := s.pruneExpired e.createdAtMs
    let rejection ← pruned.quotaCheck e familyQuotaBytes depositor
    pure (rejection, pruned)

/-- `insert_envelope_with_quota`. -/
def insertEnvelopeWithQuota : Except String (QuotaInsertResult × RelayStore) := do
  refuseWhen (maxEnvelopeSealedBytes < e.sealed.length)
    ("sealed envelope of " ++ toString e.sealed.length ++ " bytes exceeds the " ++
      toString maxEnvelopeSealedBytes ++ "-byte cap")
  match s.envelopes.find e.familyToken e.msgId with
  | some held =>
    if held.sealed ≠ e.sealed then pure (.msgIdConflict, s)
    else pure (.stored held.id, s.repost e)
  | none =>
    let (rejection, s) ← s.pruneThenRecheck e familyQuotaBytes depositor
    match rejection with
    | some rejection => pure (rejection, s)
    | none =>
      let (id, envelopes) ← s.envelopes.insert (e.row depositor)
      pure (.stored id, { s with envelopes })

/-! ## Reading and deleting -/

structure StoredEnvelope where
  id : Int
  msgId : Bytes
  hopTtl : UInt8
  recipientHint : Bytes
  sealed : Bytes
  expiryMs : Int
  createdAtMs : Int
deriving DecidableEq

def StoredEnvelope.ofRow (row : EnvelopeRow) : StoredEnvelope where
  id := row.id
  msgId := row.msgId
  hopTtl := row.hopTtl
  recipientHint := row.recipientHint
  sealed := row.sealed
  expiryMs := row.expiryMs
  createdAtMs := row.createdAtMs

/-- The rows of a family that carry one of the hints and have not expired. -/
def visible (familyToken : Bytes) (hints : List Bytes) (nowMs : Int) : List EnvelopeRow :=
  s.envelopes.rows.filter fun row =>
    row.familyToken = familyToken ∧ row.recipientHint ∈ hints ∧ nowMs < row.expiryMs

/-- `fetch_envelopes`. The table is in the order of its ids. -/
def fetchEnvelopes (familyToken : Bytes) (hints : List Bytes) (afterId : Int)
    (limit : Nat) (nowMs : Int) : Except String (List StoredEnvelope) :=
  if hints.isEmpty then .ok []
  else if maxFetchHints < hints.length then
    .error ("at most " ++ toString maxFetchHints ++ " hints are allowed")
  else
    let rows := (behind (·.id) afterId (s.visible familyToken hints nowMs)).take
      (min limit maxFetchLimit)
    .ok ((fillPage (·.sealed.length) saturatingAdd maxFetchPageSealedBytes rows).map
      StoredEnvelope.ofRow)

variable {s : RelayStore} {hints : List Bytes} {limit : Nat} {e : NewEnvelope}
  {familyQuotaBytes : Nat} {depositor : Option Bytes}

/-- With some hints and a positive limit a fetch reads a page of what it may see. -/
theorem fetchEnvelopes_isPage (s : RelayStore) (familyToken : Bytes) (nowMs : Int)
    (hsome : hints ≠ []) (hmany : hints.length ≤ maxFetchHints) (hlimit : 0 < limit)
    (afterId : Int) :
    ∃ page, s.fetchEnvelopes familyToken hints afterId limit nowMs = .ok page ∧
      Paging.IsPage (·.id) ((s.visible familyToken hints nowMs).map StoredEnvelope.ofRow) afterId
        page := by
  unfold fetchEnvelopes
  rw [if_neg (by simpa using hsome), if_neg (Nat.not_lt.mpr hmany)]
  have hlimit : 0 < min limit maxFetchLimit := Nat.lt_min.mpr ⟨hlimit, by decide⟩
  exact ⟨_, rfl, (isPage_fillPage hlimit _ afterId).map fun _ => rfl⟩

theorem ascending_visible (s : RelayStore) (familyToken : Bytes) (hints : List Bytes) (nowMs : Int) :
    ((s.visible familyToken hints nowMs).map StoredEnvelope.ofRow).Pairwise (·.id < ·.id) :=
  List.pairwise_map.mpr (s.envelopes.ascending.filter _)

/-- **Page by page, a reader of an unchanged mailbox gets each row behind its cursor once.** -/
theorem fetch_walk_reads_all (s : RelayStore) (token : Bytes) (now : Int) (hsome : hints ≠ [])
    (hmany : hints.length ≤ maxFetchHints) (hlimit : 0 < limit) (after : Int) :
    let rows := (s.visible token hints now).map StoredEnvelope.ofRow
    walk (·.id) (fun _ i => (s.fetchEnvelopes token hints i limit now).toOption.getD [])
      (List.replicate (rows.length + 1) ()) after = some (behind (·.id) after rows) := by
  refine walk_const (s.ascending_visible token hints now) (fun i => ?_) _ _
    (List.length_filter_le ..)
  obtain ⟨page, hpage, hisPage⟩ := s.fetchEnvelopes_isPage token now hsome hmany hlimit i
  rw [hpage]
  exact hisPage

/-- Three rows of one family, with another family's row and an expired one between them. -/
def threeRows : RelayStore where
  envelopes := ⟨[⟨1, [1], [1], 0, [9], [5], 9, 0, []⟩, ⟨2, [2], [1], 0, [9], [5], 9, 0, []⟩,
    ⟨3, [1], [2], 0, [9], [6], 9, 0, []⟩, ⟨4, [1], [3], 0, [9], [7], 1, 0, []⟩,
    ⟨5, [1], [4], 0, [9], [8], 9, 0, []⟩], 5, by decide, by decide, by decide⟩

theorem three_page_walk :
    let page := fun i => (threeRows.fetchEnvelopes [1] [[9]] i 1 1).toOption.getD []
    (page 0).length = 1 ∧
      (walk (·.id) (fun _ => page) (List.replicate 4 ()) 0).map (·.map (·.id)) = some [1, 3, 5] :=
  ⟨by decide, (congrArg (Option.map (List.map (·.id))) (fetch_walk_reads_all threeRows [1] 1
    (by decide) (by decide) one_pos 0)).trans (by decide)⟩

/-- `ack_envelopes`. -/
def ackEnvelopes (s : RelayStore) (familyToken : Bytes) (ids : List Int) :
    Except String (Nat × RelayStore) :=
  if ids.isEmpty then .ok (0, s)
  else if maxAckIds < ids.length then
    .error ("at most " ++ toString maxAckIds ++ " ack ids are allowed")
  else
    let acked := fun row : EnvelopeRow => decide (row.familyToken = familyToken ∧ row.id ∈ ids)
    .ok (s.envelopes.rows.countP acked,
      { s with envelopes := s.envelopes.deleteWhere acked })

/-! ## What insertion does -/

@[simp] theorem rows_pruneExpired (s : RelayStore) (nowMs : Int) :
    (s.pruneExpired nowMs).envelopes.rows = s.envelopes.rows.filter fun row => ¬ row.Expired nowMs := by
  simp [pruneExpired]

@[simp] theorem rows_repost (s : RelayStore) (e : NewEnvelope) :
    (s.repost e).envelopes.rows = s.envelopes.rows.map e.extend := rfl

/-- Every way the transaction can end. -/
inductive Inserted (s : RelayStore) (e : NewEnvelope) (familyQuotaBytes : Nat)
    (depositor : Option Bytes) : QuotaInsertResult → RelayStore → Prop where
  /-- the message id is there with other content -/
  | conflict {held : EnvelopeRow} (hfind : s.envelopes.find e.familyToken e.msgId = some held)
      (hother : held.sealed ≠ e.sealed) : Inserted s e familyQuotaBytes depositor .msgIdConflict s
  /-- it is there with this content -/
  | same {held : EnvelopeRow} (hfind : s.envelopes.find e.familyToken e.msgId = some held)
      (hsame : held.sealed = e.sealed) :
      Inserted s e familyQuotaBytes depositor (.stored held.id) (s.repost e)
  /-- a ceiling says no, also after pruning -/
  | refused {rejection : QuotaInsertResult}
      (hfind : s.envelopes.find e.familyToken e.msgId = none)
      (hno : (s.pruneExpired e.createdAtMs).quotaCheck e familyQuotaBytes depositor =
        .ok (some rejection)) :
      Inserted s e familyQuotaBytes depositor rejection (s.pruneExpired e.createdAtMs)
  /-- there is room, at once or after pruning -/
  | fresh {base s' : RelayStore} (hfind : s.envelopes.find e.familyToken e.msgId = none)
      (hsize : e.sealed.length ≤ maxEnvelopeSealedBytes)
      (hbase : base = s ∨ base = s.pruneExpired e.createdAtMs)
      (hroom : base.quotaCheck e familyQuotaBytes depositor = .ok none)
      (hrows : s'.envelopes.rows =
        base.envelopes.rows ++ [{ e.row depositor with id := base.envelopes.lastId + 1 }])
      (hlast : s'.envelopes.lastId = base.envelopes.lastId + 1)
      (hfamilies : s'.families = s.families) :
      Inserted s e familyQuotaBytes depositor (.stored (base.envelopes.lastId + 1)) s'

theorem pruneThenRecheck_eq_ok {base : RelayStore} {rejection : Option QuotaInsertResult}
    (h : s.pruneThenRecheck e familyQuotaBytes depositor = .ok (rejection, base)) :
    (rejection = none ∧ base = s ∧ s.quotaCheck e familyQuotaBytes depositor = .ok none) ∨
    (base = s.pruneExpired e.createdAtMs ∧
      base.quotaCheck e familyQuotaBytes depositor = .ok rejection) := by
  obtain ⟨first, hfirst, h⟩ := bind_eq_ok.mp h
  cases first with
  | none =>
    cases h
    exact .inl ⟨rfl, rfl, hfirst⟩
  | some _ =>
    obtain ⟨second, hsecond, h⟩ := bind_eq_ok.mp h
    cases h
    exact .inr ⟨rfl, hsecond⟩

theorem inserted_of_ok {s' : RelayStore} {result : QuotaInsertResult}
    (h : s.insertEnvelopeWithQuota e familyQuotaBytes depositor = .ok (result, s')) :
    Inserted s e familyQuotaBytes depositor result s' := by
  obtain ⟨_, hsize, h⟩ := bind_eq_ok.mp h
  have hsize : e.sealed.length ≤ maxEnvelopeSealedBytes := Nat.not_lt.mp (refuseWhen_eq_ok.mp hsize)
  cases hfind : s.envelopes.find e.familyToken e.msgId with
  | some held =>
    rw [hfind] at h
    dsimp only at h
    split at h
    · cases h
      exact .conflict hfind ‹_›
    · cases h
      exact .same hfind (not_not.mp ‹_›)
  | none =>
    rw [hfind] at h
    obtain ⟨⟨rejection, base⟩, hcheck, h⟩ := bind_eq_ok.mp h
    have hbase := pruneThenRecheck_eq_ok hcheck
    cases rejection with
    | some rejection =>
      cases h
      rcases hbase with ⟨hnone, _⟩ | ⟨rfl, hno⟩
      · cases hnone
      · exact .refused hfind hno
    | none =>
      obtain ⟨⟨id, envelopes⟩, hinsert, h⟩ := bind_eq_ok.mp h
      cases h
      obtain ⟨rfl, hrows, hlast⟩ := Envelopes.insert_eq_ok hinsert
      rcases hbase with ⟨_, rfl, hroom⟩ | ⟨rfl, hroom⟩
      · exact .fresh hfind hsize (.inl rfl) hroom hrows hlast rfl
      · exact .fresh hfind hsize (.inr rfl) hroom hrows hlast rfl

end RelayStore
end CruiseMesh.Relayd
