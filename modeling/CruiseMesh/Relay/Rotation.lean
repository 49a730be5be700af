import CruiseMesh.Relayd.Families
import CruiseMesh.Roster.Revocation
import CruiseMesh.Sync.BlockList

/-!
# Rotating the relay credential

`relay_rotation.rs`: a device that revokes another one also takes its mailbox away. It
mints a new member token, writes the plan down before it asks the relay, and when the relay
has confirmed it publishes the token to its siblings, as a shared setting.

The setting is merged by its epoch, and a sibling refuses an epoch that lies more than
three days ahead of its own clock. The epoch that is published is above the one that is
stored already, and the stored one may lie three days ahead itself.
-/

namespace CruiseMesh
open Wire Durable Prog

def relayMemberTokenPrefix : Bytes := ascii "cmfam1-"
def relayMemberTokenEntropyBytes : Nat := 32
def relayRotationAnsweredRetryMs : Int := 15 * 60 * 1000
def relayRotationUnreachedRetryMs : Int := 30 * 1000
def relayRotationRetryCeilingMs : Int := 60 * 60 * 1000

/-- `core_mint_relay_member_token`, from what the system's generator gives. -/
def coreMintRelayMemberToken (entropy : Vector UInt8 relayMemberTokenEntropyBytes) : Bytes :=
  relayMemberTokenPrefix ++ Base64.encode entropy.toList

/-! ## The plan and its journal -/

structure RelayRotationPlan where
  relayUrl : Bytes
  supersededToken : Bytes
  newToken : Bytes
  newDepositToken : Bytes
  relayEpoch : Int
  inboxKeyGeneration : Nat
  revokedDeviceIds : List Bytes
deriving DecidableEq

/-- `relay_rotation`, a table of one row at most. -/
structure RelayRotationRow where
  relayUrl : Bytes
  supersededToken : Bytes
  newToken : Bytes
  relayEpoch : Int
  inboxKeyGeneration : Nat
  revokedDeviceIds : Bytes
  startedAtMs : Int
  committedAtMs : Option Int := none

/-- The store with the journal of its rotation. -/
structure RotationStore extends Store where
  relayRotation : Option RelayRotationRow := none

/-- A program over the other tables. -/
def onStore {α : Type} (p : Prog Store CoreError α) : Prog RotationStore CoreError α :=
  p.zoom RotationStore.toStore fun store s => { s with toStore := store }

variable {s s' : RotationStore}

theorem returns_onStore {α : Type} {p : Prog Store CoreError α} {a : α} :
    (onStore p).Returns s a s' ↔ ∃ store, p.Returns s.toStore a store ∧
      { s with toStore := store } = s' := by
  unfold Prog.Returns onStore
  rw [final_zoom fun _ => rfl]
  exact ⟨fun ⟨hresult, hfinal⟩ => ⟨_, ⟨hresult, rfl⟩, hfinal⟩,
    fun ⟨_, ⟨hresult, hstore⟩, hfinal⟩ => ⟨hresult, hstore ▸ hfinal⟩⟩

section Plan
variable (P : Primitives)

/-- `plan_relay_rotation_for_generation`. `minted` is what `core_mint_relay_member_token`
gives. -/
def planRelayRotation (inboxKeyGeneration : Nat) (revokedDeviceIds : List Bytes)
    (relayUrl currentToken : Bytes) (previousRelayEpoch nowMs : Int) (minted : Bytes) :
    Except CoreError (Option RelayRotationPlan) := do
  let relayUrl := trim relayUrl
  let currentToken := trim currentToken
  if relayUrl = [] ∨ currentToken = [] then pure none
  else
    refuseWhen (Relayd.isDepositToken currentToken)
      (.malformed "this device holds a deposit-class relay credential, which cannot be rotated")
    pure (some
      { relayUrl, supersededToken := currentToken, newToken := minted
        newDepositToken := Relayd.depositTokenFor P minted
        relayEpoch := max nowMs (saturateI64 (previousRelayEpoch + 1))
        inboxKeyGeneration, revokedDeviceIds })

/-- The journal row of a plan. -/
def RelayRotationPlan.row (plan : RelayRotationPlan) (nowMs : Int) : RelayRotationRow where
  relayUrl := plan.relayUrl
  supersededToken := plan.supersededToken
  newToken := plan.newToken
  relayEpoch := plan.relayEpoch
  inboxKeyGeneration := plan.inboxKeyGeneration
  revokedDeviceIds := packDeviceIds plan.revokedDeviceIds
  startedAtMs := nowMs

/-- `begin_relay_rotation`: a second call replaces what the first one has written. -/
def beginRelayRotation (plan : RelayRotationPlan) (nowMs : Int) :
    Prog RotationStore CoreError Unit := do
  refuseWhen (trim plan.newToken = [] ∨ Relayd.isDepositToken plan.newToken)
    (CoreError.malformed "a rotation must name a member-class replacement credential")
  refuseWhen (plan.newToken = plan.supersededToken)
    (CoreError.malformed "a rotation must move to a different credential")
  write fun s => { s with relayRotation := some (plan.row nowMs) }

/-- The plan a journal row was written from. -/
def RelayRotationRow.plan (row : RelayRotationRow) : RelayRotationPlan where
  relayUrl := row.relayUrl
  supersededToken := row.supersededToken
  newToken := row.newToken
  newDepositToken := Relayd.depositTokenFor P row.newToken
  relayEpoch := row.relayEpoch
  inboxKeyGeneration := row.inboxKeyGeneration
  revokedDeviceIds := unpackDeviceIds row.revokedDeviceIds

/-- `pending_relay_rotation`. -/
def RotationStore.pendingRelayRotation (s : RotationStore) : Option RelayRotationPlan :=
  (s.relayRotation.filter (·.committedAtMs = none)).map (·.plan P)

end Plan

theorem throughout_beginRelayRotation (plan : RelayRotationPlan) (nowMs : Int) (s : RotationStore) :
    (beginRelayRotation plan nowMs).Throughout s fun s' =>
      s' = s ∨ s' = { s with relayRotation := some (plan.row nowMs) } := by
  refine throughout_lift_bind (.inl rfl) fun _ _ => throughout_lift_bind (.inl rfl) fun _ _ => ?_
  exact throughout_write.mpr ⟨.inl rfl, .inr rfl⟩

/-! ## Asking the relay -/

/-- `relay_encode_rotate_request`, before it is written as JSON. The replacement is trimmed
as the relay will trim it. -/
def relayEncodeRotateRequest (P : Primitives) (currentToken newToken personRootSignSk : Bytes) :
    Except CoreError Relayd.RotateFamilyRequest := do
  refuseWhen (Relayd.isDepositToken newToken)
    (.malformed "a family's member token may not be deposit-class")
  refuseWhen (trim newToken = [] ∨ trim currentToken = [])
    (.malformed "a family token cannot be empty")
  refuseWhen (personRootSignSk.length ≠ keyLen)
    (.invalidKeyLength keyLen personRootSignSk.length)
  let newToken := trim newToken
  pure
    { newToken
      rotationPk := some (P.verifyingKey personRootSignSk)
      rotationSig := some (P.sign personRootSignSk (Relayd.rotationSignedBytes currentToken newToken)) }

/-- `relay_decode_rotate_response`, after the JSON was read. -/
def relayDecodeRotateResponse (P : Primitives) (response : Relayd.RotateFamilyResponse)
    (expectedToken : Bytes) : Except CoreError Relayd.RotateFamilyResponse := do
  refuseWhen (response.familyToken ≠ expectedToken)
    (.malformed "the relay rotated to a different token than the one requested")
  refuseWhen (response.depositToken ≠ Relayd.depositTokenFor P response.familyToken)
    (.malformed "the relay's deposit token does not attenuate from the rotated member token")
  pure response

inductive RelayRotationNextStep where
  | confirm
  | retry (delayMs : Int)
  | remint
  | serverManagedToken
  | notTheAuthority

/-- `core_relay_rotation_next_step`. No answer at all is the status 0. -/
def coreRelayRotationNextStep (httpStatus : Nat) (relayCode : Option String) (retryAfterMs : Int)
    (confirming : Bool) (consecutiveFailures : Nat) : RelayRotationNextStep :=
  if relayCode = some "rotation_unsupported" then .serverManagedToken
  else if relayCode = some "rotation_token_taken" then .remint
  else if relayCode = some "rotation_unauthorized" then .notTheAuthority
  else if confirming = false ∧ (httpStatus = 401 ∨ httpStatus = 403) then .confirm
  else
    let base := if httpStatus = 0 then relayRotationUnreachedRetryMs else relayRotationAnsweredRetryMs
    let widened := saturateI64 (base * 2 ^ min consecutiveFailures 8)
    .retry (max (max (min widened relayRotationRetryCeilingMs) retryAfterMs) 0)

/-! ## Committing -/

structure RelayRotationCommit where
  endpoint : RelayEndpoint
  depositToken : Bytes
  relayEpoch : Int
  supersededToken : Bytes
  contactUserIds : List Bytes
  publishedEpoch : Nat

/-- One field of `encode_relay_credential`. -/
def encodeCredentialField (field : Bytes) : Bytes :=
  beBytes 2 (min field.length u16Max) ++ field.take (min field.length u16Max)

/-- `encode_relay_credential`. -/
def encodeRelayCredential (url token : Bytes) : Bytes :=
  encodeCredentialField url ++ encodeCredentialField token

/-- The inbox key generation of `core_own_sync_context`, zero where there is none. -/
def Store.ownSyncGeneration (s : Store) : Except CoreError Nat :=
  match s.ownSyncContext with
  | none => .ok 0
  | some row => do
    let _ ← coreDecodeRoster row.roster
    pure row.inboxKeyGeneration

/-- The epoch of the credential that is stored, zero where there is none. -/
def Store.relayCredentialEpoch (s : Store) : Nat :=
  ((s.setting syncRelayCredentialSettingKey).map (·.epoch)).getD 0

/-- The epoch a rotation is published at: the plan's, but above what is stored. -/
def RelayRotationPlan.publishedEpoch (plan : RelayRotationPlan) (storedEpoch : Nat) : Nat :=
  max plan.relayEpoch.toNat (saturatingAdd storedEpoch 1)

/-- The setting a rotation is published as. -/
def RelayRotationPlan.entry (plan : RelayRotationPlan) (s : Store) : SyncSettingEntry where
  key := syncRelayCredentialSettingKey
  value := encodeRelayCredential plan.relayUrl plan.newToken
  epoch := plan.publishedEpoch s.relayCredentialEpoch
  authorDeviceId := s.ownAuthoringDeviceId

/-- `list_contacts`, of which only the ids are used. -/
def Store.listContactIds (s : Store) : List Bytes :=
  (s.contacts.insertionSort fun a b => a.name ≤ b.name).map (·.userId)

/-- The journal says that the rotation to this token is over. -/
def RotationStore.closing (s : RotationStore) (newToken : Bytes) (nowMs : Int) : RotationStore :=
  { s with relayRotation := s.relayRotation.map fun row =>
      if row.newToken = newToken then { row with committedAtMs := some nowMs } else row }

variable {plan : RelayRotationPlan}

theorem pending_closing {P : Primitives} (h : s.pendingRelayRotation P = some plan) (nowMs : Int) :
    (s.closing plan.newToken nowMs).pendingRelayRotation P = none := by
  obtain ⟨row, hrow, rfl⟩ := Option.map_eq_some_iff.mp h
  obtain ⟨hrow, _⟩ := Option.filter_eq_some_iff.mp hrow
  simp [RotationStore.pendingRelayRotation, RotationStore.closing, hrow, RelayRotationRow.plan]

/-- `commit_relay_rotation`: the setting first, the journal last. -/
def commitRelayRotation (plan : RelayRotationPlan) (nowMs : Int) :
    Prog RotationStore CoreError RelayRotationCommit := do
  let own ← inspect fun s => s.ownSyncGeneration
  let generation ← own
  refuseWhen (generation < plan.inboxKeyGeneration)
    (CoreError.store ("this device is still at inbox key generation " ++ toString generation ++
      ", so it cannot announce a relay credential for generation " ++
      toString plan.inboxKeyGeneration))
  let storedEpoch ← inspect fun s => s.relayCredentialEpoch
  let entry ← inspect fun s => plan.entry s.toStore
  let published ← onStore (putSetting entry)
  refuseWhen (published = false)
    (CoreError.store ("the rotated relay credential could not be published to this person's " ++
      "other devices: a stored entry at epoch " ++ toString storedEpoch ++
      " still wins the settings merge, so no sibling would ever learn the replacement"))
  let contactUserIds ← inspect fun s => s.listContactIds
  write fun s => s.closing plan.newToken nowMs
  pure
    { endpoint := { url := plan.relayUrl, token := plan.newToken }
      depositToken := plan.newDepositToken
      relayEpoch := plan.relayEpoch
      supersededToken := plan.supersededToken
      contactUserIds
      publishedEpoch := entry.epoch }

/-- `relay_credential_setting`. -/
def Store.relayCredentialSetting (s : Store) : Option RelayEndpoint :=
  (s.setting syncRelayCredentialSettingKey).bind fun entry => decodeRelayCredential entry.value

/-- The store with the plan announced, and with its journal closed as well. -/
def RotationStore.announcing (s : RotationStore) (plan : RelayRotationPlan) : RotationStore :=
  { s with toStore := s.withSetting (plan.entry s.toStore) }

/-- A commit that goes through has put the plan's entry over everything that was stored, and
closed the journal. -/
theorem commitRelayRotation_returns {nowMs : Int} {commit : RelayRotationCommit}
    (h : (commitRelayRotation plan nowMs).Returns s commit s') :
    (∀ held ∈ s.setting syncRelayCredentialSettingKey, (plan.entry s.toStore).supersedes held) ∧
      s' = (s.announcing plan).closing plan.newToken nowMs ∧
      commit.endpoint = { url := plan.relayUrl, token := plan.newToken } := by
  simp only [commitRelayRotation, returns_bind, returns_inspect, returns_lift,
    returns_write, returns_pure, refuseWhen_eq_ok, returns_onStore] at h
  obtain ⟨_, _, ⟨_, rfl⟩, _, _, ⟨_, rfl⟩, _, _, ⟨_, rfl⟩, _, _, ⟨_, rfl⟩, _, _, ⟨rfl, rfl⟩, took, _,
    ⟨store, hput, rfl⟩, _, _, ⟨htook, rfl⟩, _, _, ⟨_, rfl⟩, _, _, rfl, rfl, rfl⟩ := h
  have hauthor : (plan.entry s.toStore).authorDeviceId.length = deviceIdLen :=
    ownAuthoringDeviceId_length _
  obtain ⟨hresult, hfinal⟩ := returns_putSetting (s := s.toStore) hauthor
  have htaken : took = true := by simpa using htook
  have hwins : ∀ held ∈ s.setting syncRelayCredentialSettingKey,
      (plan.entry s.toStore).supersedes held :=
    of_decide_eq_true ((Except.ok.inj (hresult.symm.trans hput.1)).trans htaken)
  obtain rfl : s.withSetting (plan.entry s.toStore) = store := by
    rw [← hput.2, hfinal]
    exact (if_pos hwins).symm
  exact ⟨hwins, rfl, rfl⟩

/-- A commit that is cut short has done nothing, or has announced the plan, or has closed its
journal too. -/
theorem throughout_commitRelayRotation (plan : RelayRotationPlan) (nowMs : Int) (s : RotationStore) :
    (commitRelayRotation plan nowMs).Throughout s fun s' => s' = s ∨ s' = s.announcing plan ∨
      s' = (s.announcing plan).closing plan.newToken nowMs := by
  refine throughout_inspect_bind.mpr ?_
  refine throughout_lift_bind (.inl rfl) fun _ _ => throughout_lift_bind (.inl rfl) fun _ _ => ?_
  refine throughout_inspect_bind.mpr (throughout_inspect_bind.mpr ?_)
  refine throughout_bind ?_ fun took mid hput hmid => ?_
  · refine throughout_zoom (.inl rfl) fun store hstore => ?_
    rcases throughout_putSetting _ _ store hstore with rfl | rfl
    · exact .inl rfl
    · exact .inr (.inl rfl)
  refine throughout_lift_bind hmid fun _ htook => ?_
  -- past the check the entry has been put
  have hannounced : mid = s.announcing plan := by
    obtain ⟨store, hrun, rfl⟩ := returns_onStore.mp hput
    obtain rfl : took = true := by simpa using refuseWhen_eq_ok.mp htook
    have hauthor : (plan.entry s.toStore).authorDeviceId.length = deviceIdLen :=
      ownAuthoringDeviceId_length _
    obtain ⟨hresult, hfinal⟩ := returns_putSetting (s := s.toStore) hauthor
    have hwins := of_decide_eq_true (Except.ok.inj (hresult.symm.trans hrun.1))
    rw [← hrun.2, hfinal, if_pos hwins]
    rfl
  subst hannounced
  refine throughout_inspect_bind.mpr ?_
  refine throughout_bind (throughout_write.mpr ⟨hmid, .inr (.inr rfl)⟩) fun _ _ _ hend => ?_
  exact throughout_pure.mpr hend

end CruiseMesh
