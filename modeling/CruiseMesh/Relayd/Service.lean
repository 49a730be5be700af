import CruiseMesh.Relayd.Families
import CruiseMesh.Relayd.Mailbox

/-!
# Requests to the mailbox

A request is authorised first: its bearer credential is looked up, and what comes back is
the family's member token, the class of the credential and the family's quota. Only then
is the store asked to insert, to fetch or to delete, under the token that was looked up.
These are separate transactions, so another request can come between them; whatever a
handler does after its authorisation is here a function of the access it was granted.

Rate limits, the decoding of JSON and base64, logging and the wake-up of sleeping phones
are left out: they end a request or accompany it, and touch none of the tables.
-/

namespace CruiseMesh.Relayd

def recipientHintLen : Nat := 8
def msgIdLen : Nat := 16
def maxDepositRetentionMs : Int := 8 * 24 * 60 * 60 * 1000
def familyExpiryGraceMs : Int := 7 * 24 * 60 * 60 * 1000

namespace ApiError

def depositOnly : ApiError where
  status := 403
  message := "deposit tokens can only post envelopes and query presence; fetch, " ++
    "ack, and websocket access require the family's member token"
  code := "deposit_only"

def familySuspended : ApiError where
  status := 403
  message := "family is suspended"
  code := "family_suspended"

def familyExpired (readOnlyGrace : Bool) : ApiError where
  status := 403
  message :=
    if readOnlyGrace then
      "relay pass expired: fetching queued envelopes still works during " ++
        "the grace window, but new envelopes are rejected until renewal"
    else "relay pass expired"
  code := "family_expired"

def envelopeTooLarge (sealedLen : Nat) : ApiError where
  status := 413
  message := "sealed envelope of " ++ toString sealedLen ++ " bytes exceeds the " ++
    toString maxEnvelopeSealedBytes ++ "-byte per-envelope cap"
  code := "envelope_too_large"

def familyQuotaExceeded (usageBytes quotaBytes : Nat) : ApiError where
  status := 507
  message := "family storage quota exceeded: " ++ toString usageBytes ++ " bytes used, " ++
    toString quotaBytes ++ " byte quota (expired rows already pruned)"
  code := "family_quota_exceeded"

def depositShareExceeded (scope : DepositShareScope) (usageBytes shareBytes quotaBytes : Nat) :
    ApiError where
  status := 507
  message :=
    (match scope with
      | .depositor => "this deposit credential's share of"
      | .allDepositors => "the deposit-class share of") ++
    " the family mailbox is full: " ++ toString usageBytes ++ " bytes used of a " ++
    toString shareBytes ++ "-byte share (" ++ toString quotaBytes ++ "-byte family quota, " ++
    "expired rows already pruned). The family mailbox itself is not full."
  code :=
    match scope with
    | .depositor => "depositor_share_exceeded"
    | .allDepositors => "deposit_share_exceeded"

def msgIdConflict : ApiError where
  status := 409
  message := "msg_id already holds different content; this post was not stored"
  code := "msg_id_conflict"

end ApiError

/-! ## Authorisation -/

/-- What a request is trying to do. -/
inductive FamilyOp where
  | post
  | read
  | presence
  | rotate
  | status
deriving DecidableEq

/-- `allowed_for_deposit`. -/
def FamilyOp.allowedForDeposit (op : FamilyOp) : Bool := op = .post ∨ op = .presence

/-- The result of authenticating a credential. `token` is the member token also when a
deposit credential was presented; `depositor` is whom a post is charged to. -/
structure FamilyAccess where
  token : Bytes
  tokenClass : TokenClass
  familyKey : Bytes
  quotaBytes : Nat
  depositor : Option Bytes
deriving DecidableEq

/-- `family_limit_key`: what stays the same of a family when it rotates. -/
def familyLimitKey (familyId token : Bytes) : Bytes := if familyId = [] then token else familyId

section Authorize
variable (P : Primitives) (config : Config)

/-- The billing state of a provisioned family, which only a status request survives. -/
def checkBilling (family : FamilyRow) (op : FamilyOp) (nowMs : Int) : Except ApiError Unit := do
  if op = .status then pure ()
  else
    refuseWhen (family.status ≠ .active) .familySuspended
    match family.expiresMs with
    | none => pure ()
    | some expiresMs =>
      refuseWhen (saturateI64 (expiresMs + familyExpiryGraceMs) < nowMs) (.familyExpired false)
      refuseWhen (expiresMs < nowMs ∧ op = .post) (.familyExpired true)

/-- `authorize_family`: the static tokens first, then their deposit tokens, then the
provisioned families. -/
def authorizeFamily (s : RelayStore) (credential : Bytes) (op : FamilyOp) (nowMs : Int) :
    Except ApiError FamilyAccess :=
  if credential ∈ config.authTokens then
    .ok { token := credential, tokenClass := .member, familyKey := credential
          quotaBytes := config.familyQuotaBytes, depositor := none }
  else
    match config.staticDepositToken P credential with
    | some member => do
      refuseWhen (op.allowedForDeposit = false) .depositOnly
      pure { token := member, tokenClass := .deposit, familyKey := member
             quotaBytes := config.familyQuotaBytes, depositor := some credential }
    | none => do
      let (family, tokenClass) ←
        okOr (s.families.getFamilyByCredential credential) (.unauthorized "unknown family token")
      refuseWhen (tokenClass = .deposit ∧ op.allowedForDeposit = false) .depositOnly
      checkBilling family op nowMs
      pure
        { token := family.token, tokenClass
          familyKey := familyLimitKey family.familyId family.token
          quotaBytes := family.quotaBytes.getD config.familyQuotaBytes
          depositor := match tokenClass with
            | .member => none
            | .deposit => some credential }

end Authorize

/-! ## Posting -/

open RelayStore

structure PostEnvelopeRequest where
  msgId : Bytes
  hopTtl : UInt8
  recipientHint : Bytes
  sealed : Bytes
  expiryMs : Int
deriving DecidableEq

/-- What is sent to the live subscribers. -/
structure BroadcastEnvelope where
  familyToken : Bytes
  recipientHint : Bytes
  envelope : StoredEnvelope
deriving DecidableEq

/-- The checks of `post_envelope` on the decoded fields. -/
def checkPost (request : PostEnvelopeRequest) : Except ApiError Unit := do
  refuseWhen (request.msgId.length ≠ msgIdLen)
    (.badRequest "msg_id must be 16 bytes after base64url decoding")
  refuseWhen (request.recipientHint.length ≠ recipientHintLen)
    (.badRequest "recipient_hint must be 8 bytes after base64url decoding")
  refuseWhen (request.sealed = []) (.badRequest "sealed must not be empty")
  refuseWhen (maxEnvelopeSealedBytes < request.sealed.length)
    (.envelopeTooLarge request.sealed.length)

variable (access : FamilyAccess) (request : PostEnvelopeRequest) (nowMs : Int)

/-- The expiry that is asked of the store: what a deposit credential posts lives for
`MAX_DEPOSIT_RETENTION_MS` at most. -/
def requestedExpiry : Int :=
  match access.tokenClass with
  | .deposit => min request.expiryMs (saturateI64 (nowMs + maxDepositRetentionMs))
  | .member => request.expiryMs

/-- The columns of a post. -/
def newEnvelope : NewEnvelope where
  familyToken := access.token
  msgId := request.msgId
  hopTtl := request.hopTtl
  recipientHint := request.recipientHint
  sealed := request.sealed
  expiryMs := requestedExpiry access request nowMs
  createdAtMs := nowMs

/-- The answer to a post, with what is broadcast. -/
structure Posted where
  id : Int
  broadcast : BroadcastEnvelope
deriving DecidableEq

/-- What `post_envelope` answers when the store has answered. -/
def postAnswer : QuotaInsertResult → Except ApiError Posted
  | .stored id =>
    .ok
      { id
        broadcast :=
          { familyToken := access.token
            recipientHint := request.recipientHint
            envelope :=
              { id, msgId := request.msgId, hopTtl := request.hopTtl
                recipientHint := request.recipientHint, sealed := request.sealed
                expiryMs := effectiveExpiry nowMs (requestedExpiry access request nowMs)
                createdAtMs := nowMs } } }
  | .quotaExceeded usageBytes => .error (.familyQuotaExceeded usageBytes access.quotaBytes)
  | .depositShareExceeded scope usageBytes shareBytes =>
    .error (.depositShareExceeded scope usageBytes shareBytes access.quotaBytes)
  | .msgIdConflict => .error .msgIdConflict

/-- `post_envelope`, behind its authorisation. -/
def postEnvelope (s : RelayStore) : Except ApiError Posted × RelayStore :=
  match checkPost request with
  | .error e => (.error e, s)
  | .ok () =>
    match s.insertEnvelopeWithQuota (newEnvelope access request nowMs) access.quotaBytes
        access.depositor with
    | .error detail => (.error (.internal detail), s)
    | .ok (result, s') => (postAnswer access request nowMs result, s')

/-- A post leaves the tables alone, or the store has inserted and answered. -/
theorem postEnvelope_cases (access : FamilyAccess) (request : PostEnvelopeRequest) (nowMs : Int)
    (s : RelayStore) :
    (∃ e, postEnvelope access request nowMs s = (.error e, s)) ∨
    ∃ result s', Inserted s (newEnvelope access request nowMs) access.quotaBytes access.depositor
        result s' ∧
      postEnvelope access request nowMs s = (postAnswer access request nowMs result, s') := by
  unfold postEnvelope
  cases checkPost request with
  | error e => exact .inl ⟨e, rfl⟩
  | ok _ =>
    cases hcall : s.insertEnvelopeWithQuota (newEnvelope access request nowMs) access.quotaBytes
        access.depositor with
    | error detail => exact .inl ⟨_, rfl⟩
    | ok answer => exact .inr ⟨answer.1, answer.2, inserted_of_ok hcall, rfl⟩

/-! ## Acknowledging -/

/-- `ack_envelopes`, the handler, behind its authorisation. -/
def ackRequest (ids : List Int) (s : RelayStore) : Except ApiError (Nat × RelayStore) := do
  refuseWhen (maxAckIds < ids.length) (.badRequest "ids must contain at most 512 entries")
  refuseWhen (∃ id ∈ ids, id ≤ 0) (.badRequest "ids must contain only positive relay ids")
  (s.ackEnvelopes access.token (ids.mergeSort (· ≤ ·)).eraseDups).mapError .internal

end CruiseMesh.Relayd
