import CruiseMesh.Relay.Announcement
import CruiseMesh.Relayd.Steps

/-!
# A rotation against a relay that may not answer

The device writes the new token down, asks the relay to move the family to it, and adopts
it when the relay has confirmed. The answer can be lost after the relay has moved the
family, and the device can stop at any moment. It must not be left without a token the
relay takes.

What protects it is the row of the journal: as long as the plan is in it, the new token is
known. `begin_relay_rotation` replaces the row, whatever became of its plan, and with it
the one copy of a token the relay may have moved to. As long as a plan is begun only when
none is pending, the invariant `Safe` holds of every run.
-/

namespace CruiseMesh.LockOut
open Durable Relayd Families RelayStore

/-! ## The two parties -/

/-- A `POST /family/rotate` that is on its way: the bearer it presents and the token of the
plan it was made for. -/
structure RotateCall where
  bearer : Bytes
  newToken : Bytes

/-- Where the driver stands in a rotation. `call` is the position of its request. -/
inductive Turn where
  | idle
  | asking (plan : RelayRotationPlan) (confirming : Bool) (call : Nat)
  | toConfirm (plan : RelayRotationPlan)
  | confirmed (plan : RelayRotationPlan)

/-- The plan a turn is about. -/
def Turn.plan : Turn → Option RelayRotationPlan
  | .idle => none
  | .asking plan _ _ | .toConfirm plan | .confirmed plan => some plan

/-- The device. `saved` is the pass in the shell's settings; the turn is in memory only. -/
structure Device where
  saved : RelayEndpoint
  store : RotationStore
  turn : Turn := .idle

/-- The pass the device works with: `adoptAnnouncedCredential`, with which every pass
begins, takes what was announced for the same relay over what is saved. -/
def Device.configured (d : Device) : RelayEndpoint :=
  match d.store.relayCredentialSetting with
  | some announced => if announced.url = d.saved.url then announced else d.saved
  | none => d.saved

structure World where
  relay : RelayStore
  device : Device
  sent : List RotateCall := []
  granted : List (Nat × FamilyAccess) := []

/-- What the driver knows of its pace when an answer reaches it. -/
structure Pace where
  retryAfterMs : Int
  consecutiveFailures : Nat

/-- What can happen. A request is authorised and worked on in two transactions of the
relay; after either its answer reaches the device, or is lost. -/
inductive Step where
  | begin (inboxKeyGeneration : Nat) (revokedDeviceIds : List Bytes) (previousRelayEpoch nowMs : Int)
      (entropy : Vector UInt8 relayMemberTokenEntropyBytes)
  | ask
  | authorize (call : Nat) (nowMs : Int) (heard : Option Pace)
  | work (call : Nat) (heard : Option Pace)
  | giveUpWaiting
  | commit (nowMs : Int)
  | crash (nowMs : Int) (writes : Nat)
  | restart

section Next
variable (P : Primitives) (config : Config) (personRootSignSk : Bytes) (w : World)

/-- A token that nobody has used: the generator's next one. -/
def World.Fresh (token : Bytes) : Prop :=
  (∀ row ∈ w.relay.families.rows, row.token ≠ token) ∧
    (∀ call ∈ w.sent, call.bearer ≠ token ∧ call.newToken ≠ token) ∧
    w.device.configured.token ≠ token

instance (w : World) (token : Bytes) : Decidable (w.Fresh token) :=
  inferInstanceAs (Decidable (_ ∧ _ ∧ _))

/-- A fresh plan for the pass the device works with is written down. -/
def World.begin (inboxKeyGeneration : Nat) (revokedDeviceIds : List Bytes)
    (previousRelayEpoch nowMs : Int) (minted : Bytes) : World :=
  let pass := w.device.configured
  match planRelayRotation P inboxKeyGeneration revokedDeviceIds pass.url pass.token
    previousRelayEpoch nowMs minted with
  | .ok (some plan) =>
    if w.Fresh minted then
      { w with device.store := (beginRelayRotation plan nowMs).final w.device.store }
    else w
  | _ => w

/-- The request goes out. -/
def World.send (plan : RelayRotationPlan) (confirming : Bool) : World :=
  let bearer := if confirming then plan.newToken else plan.supersededToken
  { w with
    sent := w.sent ++ [{ bearer, newToken := plan.newToken }]
    device.turn := .asking plan confirming w.sent.length }

/-- `rotateIfPending` up to the request: the pending plan under the old token, or the same
plan once more under the new one. -/
def World.ask : World :=
  match w.device.turn, w.device.store.pendingRelayRotation P with
  | .idle, some plan => w.send plan false
  | .toConfirm plan, _ => w.send plan true
  | _, _ => w

/-- What the driver does with an answer. -/
def Turn.hear (turn : Turn) (call : Nat) (pace : Pace)
    (answer : Except ApiError RotateFamilyResponse) : Turn :=
  match turn with
  | .asking plan confirming asked =>
    if asked ≠ call then turn
    else
      match answer with
      | .ok response =>
        match relayDecodeRotateResponse P response plan.newToken with
        | .ok _ => .confirmed plan
        | .error _ => .idle
      | .error e =>
        match coreRelayRotationNextStep e.status e.code pace.retryAfterMs confirming
          pace.consecutiveFailures with
        | .confirm => .toConfirm plan
        | _ => .idle
  | _ => turn

/-- The turn after an answer that was heard or lost. -/
def Turn.hears (turn : Turn) (call : Nat) (heard : Option Pace)
    (answer : Except ApiError RotateFamilyResponse) : Turn :=
  match heard with
  | some pace => turn.hear P call pace answer
  | none => turn

/-- The relay authorises a request, or answers that it does not. -/
def World.authorize (i : Nat) (nowMs : Int) (heard : Option Pace) : World :=
  match w.sent[i]? with
  | none => w
  | some call =>
    match authorizeFamily P config w.relay call.bearer .rotate nowMs with
    | .ok access => { w with granted := (i, access) :: w.granted }
    | .error e => { w with device.turn := w.device.turn.hears P i heard (.error e) }

/-- The relay works on a request it has authorised, and answers. -/
def World.work (i : Nat) (heard : Option Pace) : World :=
  match w.sent[i]?, w.granted.find? (·.1 = i) with
  | some call, some (_, access) =>
    match relayEncodeRotateRequest P call.bearer call.newToken personRootSignSk with
    | .error _ => w
    | .ok request =>
      let out := rotateFamily P config w.relay access.token request
      { w with relay := out.2, device.turn := w.device.turn.hears P i heard out.1 }
  | _, _ => w

/-- `commit_relay_rotation`, and the new pass is saved, also when it could not be announced. -/
def Device.commit (d : Device) (plan : RelayRotationPlan) (nowMs : Int) : Device where
  saved := { url := plan.relayUrl, token := plan.newToken }
  store := (commitRelayRotation plan nowMs).final d.store

/-- The device stops during a commit, after some of its writes. -/
def Device.crash (d : Device) (plan : RelayRotationPlan) (nowMs : Int) (writes : Nat) : Device where
  saved := d.saved
  store := (commitRelayRotation plan nowMs).survivor writes d.store

/-- The plan the relay has confirmed. -/
def Turn.confirmedPlan : Turn → Option RelayRotationPlan
  | .confirmed plan => some plan
  | _ => none

def Step.next : Step → World
  | .begin generation revoked previousRelayEpoch nowMs entropy =>
    w.begin P generation revoked previousRelayEpoch nowMs (coreMintRelayMemberToken entropy)
  | .ask => w.ask P
  | .authorize call nowMs heard => w.authorize P config call nowMs heard
  | .work call heard => w.work P config personRootSignSk call heard
  | .giveUpWaiting => { w with device.turn := .idle }
  | .commit nowMs =>
    match w.device.turn.confirmedPlan with
    | some plan => { w with device := w.device.commit plan nowMs }
    | none => w
  | .crash nowMs writes =>
    match w.device.turn.confirmedPlan with
    | some plan => { w with device := w.device.crash plan nowMs writes }
    | none => w
  | .restart => { w with device.turn := .idle }

end Next

variable {P : Primitives} {config : Config} {personRootSignSk familyId : Bytes}

/-! ## What the device knows -/

variable (P) in
/-- The tokens the device has in durable storage: the one it works with and the one of the
pending plan. -/
def Device.knownTokens (d : Device) : List Bytes :=
  d.configured.token :: ((d.store.pendingRelayRotation P).map (·.newToken)).toList

/-- The relay takes the token for a member token of the family. -/
def accepts (relay : RelayStore) (familyId token : Bytes) : Bool :=
  (relay.families.getFamilyByCredential token).any fun (row, tokenClass) =>
    tokenClass = .member ∧ row.familyId = familyId

variable {relay s s' : RelayStore} {current new : Bytes} {turn : Turn} {call : Nat}
  {heard : Option Pace} {answer : Except ApiError RotateFamilyResponse}
  {plan : RelayRotationPlan} {token : Bytes}

variable (P) in
/-- The family is not locked out. -/
def HasLiveToken (familyId : Bytes) (w : World) : Prop :=
  ∃ token ∈ w.device.knownTokens P, accepts w.relay familyId token = true

instance (w : World) : Decidable (HasLiveToken P familyId w) :=
  inferInstanceAs (Decidable (∃ token ∈ w.device.knownTokens P, _))

theorem configured_url (d : Device) : d.configured.url = d.saved.url := by
  unfold Device.configured
  split
  · split
    · assumption
    · rfl
  · rfl

/-! ## What a request does to the relay -/

/-- Every family of the one table is in the other, under the same token or moved from the
one token to the other. -/
structure Moves (s s' : RelayStore) (current new : Bytes) : Prop where
  back : ∀ row' ∈ s'.families.rows, ∃ row ∈ s.families.rows, row'.familyId = row.familyId ∧
    (row'.token = row.token ∨ row.token = current ∧ row'.token = new)
  forth : ∀ row ∈ s.families.rows, ∃ row' ∈ s'.families.rows, row'.familyId = row.familyId ∧
    (row'.token = row.token ∨ row.token = current ∧ row'.token = new)

theorem Moves.refl (s : RelayStore) (current new : Bytes) : Moves s s current new :=
  ⟨fun row hrow => ⟨row, hrow, rfl, .inl rfl⟩, fun row hrow => ⟨row, hrow, rfl, .inl rfl⟩⟩

theorem moves_of_rekeyed {rotationPk : Option Bytes} (h : s'.families.rows =
      s.families.rows.map (rekeyed P current new rotationPk)) :
    Moves s s' current new := by
  have hrekeyed : ∀ row, (rekeyed P current new rotationPk row).familyId =
      row.familyId ∧ ((rekeyed P current new rotationPk row).token = row.token ∨
        row.token = current ∧ (rekeyed P current new rotationPk row).token = new) := by
    intro row
    unfold rekeyed
    split
    · exact ⟨rfl, .inr ⟨by assumption, rfl⟩⟩
    · exact ⟨rfl, .inl rfl⟩
  constructor
  · intro row' hrow'
    rw [h] at hrow'
    obtain ⟨row, hrow, rfl⟩ := List.mem_map.mp hrow'
    exact ⟨row, hrow, hrekeyed row⟩
  · intro row hrow
    exact ⟨_, h ▸ List.mem_map_of_mem hrow, hrekeyed row⟩

variable (P config) in
theorem moves_rotateFamily (s : RelayStore) (current : Bytes)
    (request : RotateFamilyRequest) :
    Moves s (rotateFamily P config s current request).2 current (trim request.newToken) := by
  rcases rotateFamily_cases P config s current request with ⟨hsame, _⟩ |
    ⟨newToken, authority, family, n, s', response, hcheck, hcall, _, _, _, hnext⟩
  · rw [hsame]
    exact .refl s _ _
  have hnew : newToken = trim request.newToken := by
    obtain ⟨_, _, hcheck⟩ := bind_eq_ok.mp hcheck
    obtain ⟨_, _, hcheck⟩ := bind_eq_ok.mp hcheck
    obtain ⟨_, _, hcheck⟩ := bind_eq_ok.mp hcheck
    exact (ok_pair_inj hcheck).1.symm
  rw [hnext, ← hnew]
  obtain hresult | ⟨_, _, _, _, _, hfamilies, _⟩ := rotated_of_ok P hcall
  · exact absurd rfl (hresult _ _)
  exact moves_of_rekeyed hfamilies

/-- A call that finds its work done names a family that is there. -/
theorem mem_of_alreadyRotated {authority : RotationAuthority} {family : FamilyRow}
    (h : s.rotateFamilyToken P current new authority = .ok (.alreadyRotated family, s')) :
    family ∈ s'.families.rows := by
  have hmove : ∀ inside, moveFamily P s inside current new ≠
      .ok (.alreadyRotated family, s') := by
    intro inside hcall
    rcases moveFamily_eq_ok P hcall with ⟨hresult, _⟩ | ⟨_, _, hresult, _⟩
    · cases hresult
    · cases hresult
  have hfound : ∀ token row, s.families.getFamily token = some row → row ∈ s.families.rows :=
    fun token row hrow => (getFamily_eq_some.mp hrow).1
  unfold rotateFamilyToken at h
  dsimp only at h
  split at h
  · cases h
  rename_i row done hrow
  have hmem : row ∈ s.families.rows := by
    cases hcurrent : s.families.getFamily current with
    | some held =>
      rw [hcurrent] at hrow
      exact (Prod.mk.inj (Option.some.inj hrow)).1 ▸ hfound current held hcurrent
    | none =>
      rw [hcurrent] at hrow
      obtain ⟨held, hheld, hpair⟩ := Option.map_eq_some_iff.mp hrow
      exact (Prod.mk.inj hpair).1 ▸ hfound new held hheld
  split at h
  · cases h
  · cases h
  · cases h
    exact hmem
  · exact absurd h (hmove _)
  · exact absurd h (hmove _)

/-- An answer that is no error names a token that a family has. -/
theorem row_of_rotateFamily {request : RotateFamilyRequest}
    {response : RotateFamilyResponse}
    (h : (rotateFamily P config s current request).1 = .ok response) :
    ∃ row ∈ (rotateFamily P config s current request).2.families.rows,
      row.token = response.familyToken := by
  unfold rotateFamily at h ⊢
  cases hcheck : checkRotation P config request with
  | error e =>
    rw [hcheck] at h
    cases h
  | ok checked =>
    obtain ⟨newToken, authority⟩ := checked
    rw [hcheck] at h
    dsimp only at h ⊢
    cases hcall : s.rotateFamilyToken P current newToken authority with
    | error detail =>
      rw [hcall] at h
      cases h
    | ok answer =>
      obtain ⟨result, s'⟩ := answer
      rw [hcall] at h
      cases result with
      | rotated family n =>
        cases h
        obtain hresult | ⟨_, _, _, _, _, _, hfamily⟩ := rotated_of_ok P hcall
        · exact absurd rfl (hresult _ _)
        exact ⟨family, (getFamily_eq_some.mp hfamily).1, rfl⟩
      | alreadyRotated family =>
        cases h
        exact ⟨family, mem_of_alreadyRotated hcall, rfl⟩
      | unknownFamily => cases h
      | tokenTaken => cases h
      | unauthorized => cases h

/-! ## What an answer does to the driver -/

variable (P) in
theorem plan_of_hears (h : (turn.hears P call heard answer).plan = some plan) :
    turn.plan = some plan := by
  unfold Turn.hears at h
  split at h
  · unfold Turn.hear at h
    split at h
    · split at h
      · exact h
      · split at h
        · split at h
          · exact h
          · cases h
        · split at h
          · exact h
          · cases h
    · exact h
  · exact h

theorem plan_of_confirmed (h : turn.confirmedPlan = some plan) : turn.plan = some plan := by
  unfold Turn.confirmedPlan at h
  split at h
  · exact h
  · cases h

/-- The driver takes a rotation for confirmed when it did so before, or on an answer that
names the new token. -/
theorem confirmed_of_hears (h : (turn.hears P call heard answer).confirmedPlan = some plan) :
    turn.confirmedPlan = some plan ∨
      turn.plan = some plan ∧ ∃ response, answer = .ok response ∧
        response.familyToken = plan.newToken := by
  unfold Turn.hears at h
  split at h
  · unfold Turn.hear at h
    split at h
    · split at h
      · cases h
      split at h
      · split at h
        · rename_i response _ _ hdecoded
          cases h
          simp only [relayDecodeRotateResponse, bind_eq_ok, refuseWhen_eq_ok, exists_const] at hdecoded
          exact .inr ⟨rfl, response, rfl, not_not.mp hdecoded.1⟩
        · cases h
      · split at h <;> cases h
    · exact .inl h
  · exact .inl h

/-! ## The invariant -/

/-- No other family has the token. -/
def Ours (relay : RelayStore) (familyId token : Bytes) : Prop :=
  ∀ row ∈ relay.families.rows, row.token = token → row.familyId = familyId

/-- What is true of a plan as long as it is in the journal. -/
structure Planned (familyId : Bytes) (w : World) (plan : RelayRotationPlan) : Prop where
  url : plan.relayUrl = w.device.saved.url
  urlFits : FitsCredential plan.relayUrl
  tokenFits : FitsCredential plan.newToken
  trimmed : trim plan.newToken = plan.newToken
  oldIsOurs : Ours w.relay familyId plan.supersededToken
  newIsOurs : Ours w.relay familyId plan.newToken
  /-- under the new token the relay is only ever asked to stay -/
  confirms : ∀ call ∈ w.sent, call.bearer = plan.newToken → call.newToken = plan.newToken

variable (P) in
/-- The relay has the family under the token `live`, and the device knows it: as the token
of its pending plan, or as the one it works with. No request that is still on its way can
move the family to a token that the device has forgotten. -/
structure Safe (familyId live : Bytes) (w : World) : Prop where
  accepted : ∃ row ∈ w.relay.families.rows, row.familyId = familyId ∧ row.token = live
  liveTrimmed : trim live = live
  urlTrimmed : trim w.device.saved.url = w.device.saved.url
  known : (∃ plan, w.device.store.pendingRelayRotation P = some plan ∧ live = plan.newToken) ∨
    w.device.configured.token = live ∧
      ∀ plan, w.device.store.pendingRelayRotation P = some plan → plan.supersededToken = live
  planned : ∀ plan, w.device.store.pendingRelayRotation P = some plan → Planned familyId w plan
  callsOurs : ∀ call ∈ w.sent, Ours w.relay familyId call.bearer ∧ trim call.newToken = call.newToken
  callsKnown : ∀ call ∈ w.sent, call.bearer = live → call.newToken = live ∨
    ∃ plan, w.device.store.pendingRelayRotation P = some plan ∧ call.newToken = plan.newToken
  granted : ∀ grant ∈ w.granted, ∃ call, w.sent[grant.1]? = some call ∧ grant.2.token = call.bearer
  turn : ∀ plan, w.device.turn.plan = some plan →
    w.device.store.pendingRelayRotation P = some plan
  confirmed : ∀ plan, w.device.turn.confirmedPlan = some plan → live = plan.newToken

theorem Safe.hasLiveToken {live : Bytes} {w : World} (h : Safe P familyId live w) :
    HasLiveToken P familyId w := by
  obtain ⟨row, hrow, rfl, rfl⟩ := h.accepted
  have hfound : w.relay.families.getFamily row.token = some row :=
    getFamily_eq_some.mpr ⟨hrow, rfl⟩
  refine ⟨row.token, ?_, by simp [accepts, getFamilyByCredential, hfound]⟩
  rcases h.known with ⟨plan, hpending, hnew⟩ | ⟨hconfigured, _⟩
  · rw [Device.knownTokens, hpending, hnew]
    exact List.mem_cons_of_mem _ (List.mem_singleton.mpr rfl)
  · rw [Device.knownTokens, hconfigured]
    exact List.mem_cons_self

theorem Moves.ours (h : Moves s s' current new) (hcurrent : Ours s familyId current)
    (htoken : Ours s familyId token) :
    Ours s' familyId token := by
  intro row' hrow' hsame
  obtain ⟨row, hrow, hid, hkept | ⟨hmoved, _⟩⟩ := h.back row' hrow'
  · exact hid.trans (htoken row hrow (hkept.symm.trans hsame))
  · exact hid.trans (hcurrent row hrow hmoved)

/-! ## Steps of the relay, and of the driver's memory -/

section Relay
variable {live : Bytes} {w : World} {relay : RelayStore} {turn : Turn}

/-- The relay changes, or the driver's turn: the family is under the same token as before or
under that of the pending plan, and what was ours stays ours. -/
theorem Safe.after (h : Safe P familyId live w) {live' : Bytes}
    (hours : ∀ {token}, Ours w.relay familyId token → Ours relay familyId token)
    (haccepted : ∃ row ∈ relay.families.rows, row.familyId = familyId ∧ row.token = live')
    (hlive : live' = live ∨
      ∃ plan, w.device.store.pendingRelayRotation P = some plan ∧ live' = plan.newToken)
    (hturn : ∀ plan, turn.plan = some plan → w.device.turn.plan = some plan)
    (hconfirmed : ∀ plan, turn.confirmedPlan = some plan → live' = plan.newToken) :
    Safe P familyId live' { w with relay, device.turn := turn } := by
  have hplanned : ∀ plan, w.device.store.pendingRelayRotation P = some plan →
      Planned familyId { w with relay, device.turn := turn } plan := by
    intro plan hpending
    have hplan := h.planned plan hpending
    exact ⟨hplan.url, hplan.urlFits, hplan.tokenFits, hplan.trimmed, hours hplan.oldIsOurs,
      hours hplan.newIsOurs, hplan.confirms⟩
  have hcalls : ∀ call ∈ w.sent, Ours relay familyId call.bearer ∧ trim call.newToken = call.newToken :=
    fun call hcall => ⟨hours (h.callsOurs call hcall).1, (h.callsOurs call hcall).2⟩
  have hpendingOf : ∀ plan, turn.plan = some plan →
      w.device.store.pendingRelayRotation P = some plan := fun plan hplan => h.turn plan (hturn plan hplan)
  rcases hlive with rfl | ⟨plan, hpending, rfl⟩
  · exact ⟨haccepted, h.liveTrimmed, h.urlTrimmed, h.known, hplanned, hcalls, h.callsKnown, h.granted,
      hpendingOf, hconfirmed⟩
  · exact ⟨haccepted, (h.planned plan hpending).trimmed, h.urlTrimmed, .inl ⟨plan, hpending, rfl⟩,
      hplanned, hcalls, fun call hcall hbearer => .inl ((h.planned plan hpending).confirms call hcall hbearer),
      h.granted, hpendingOf, hconfirmed⟩

/-- Only the turn changes, and no rotation is newly taken for confirmed. -/
theorem Safe.withTurn (h : Safe P familyId live w)
    (hturn : ∀ plan, turn.plan = some plan → w.device.turn.plan = some plan)
    (hconfirmed : ∀ plan, turn.confirmedPlan = some plan → w.device.turn.confirmedPlan = some plan) :
    Safe P familyId live { w with device.turn := turn } :=
  h.after (fun hours => hours) h.accepted (.inl rfl) hturn
    fun plan hplan => h.confirmed plan (hconfirmed plan hplan)

/-- A request that may rotate was authorised under the member token it presents. -/
theorem token_of_authorizeFamily {bearer : Bytes} {nowMs : Int} {access : FamilyAccess}
    (h : authorizeFamily P config relay bearer .rotate nowMs = .ok access) :
    access.token = bearer := by
  unfold authorizeFamily at h
  split at h
  · cases h
    rfl
  split at h
  · obtain ⟨_, hrefused, _⟩ := bind_eq_ok.mp h
    exact absurd rfl (refuseWhen_eq_ok.mp hrefused)
  obtain ⟨⟨family, tokenClass⟩, hfound, h⟩ := bind_eq_ok.mp h
  obtain ⟨_, hclass, h⟩ := bind_eq_ok.mp h
  obtain ⟨_, _, h⟩ := bind_eq_ok.mp h
  cases h
  have hmember : tokenClass ≠ .deposit := fun hdeposit =>
    refuseWhen_eq_ok.mp hclass ⟨hdeposit, rfl⟩
  obtain ⟨row, _, hrow⟩ := Option.map_eq_some_iff.mp (okOr_eq_ok.mp hfound)
  obtain ⟨rfl, rfl⟩ := Prod.mk.inj hrow
  by_contra hne
  exact hmember (if_neg hne)

theorem safe_authorize (h : Safe P familyId live w) (i : Nat) (nowMs : Int) (heard : Option Pace) :
    Safe P familyId live (w.authorize P config i nowMs heard) := by
  unfold World.authorize
  cases hcall : w.sent[i]? with
  | none => exact h
  | some call =>
    dsimp only
    cases haccess : authorizeFamily P config w.relay call.bearer .rotate nowMs with
    | ok access =>
      refine ⟨h.accepted, h.liveTrimmed, h.urlTrimmed, h.known,
        fun plan hpending => { h.planned plan hpending with }, h.callsOurs, h.callsKnown,
        fun grant hgrant => ?_, h.turn, h.confirmed⟩
      rcases List.mem_cons.mp hgrant with rfl | hold
      · exact ⟨call, hcall, token_of_authorizeFamily haccess⟩
      · exact h.granted grant hold
    | error e =>
      refine h.withTurn (fun plan => plan_of_hears P) fun plan hplan => ?_
      rcases confirmed_of_hears hplan with hbefore | ⟨_, response, hanswer, _⟩
      · exact hbefore
      · cases hanswer

theorem safe_work (h : Safe P familyId live w) (i : Nat) (heard : Option Pace) :
    ∃ live', Safe P familyId live' (w.work P config personRootSignSk i heard) := by
  unfold World.work
  split
  · rename_i call j access hcall hgrant
    cases hrequest : relayEncodeRotateRequest P call.bearer call.newToken personRootSignSk with
    | error e => exact ⟨live, h⟩
    | ok request =>
      -- the request moves the family from the bearer to the token of its plan
      obtain ⟨other, hother, htoken⟩ := h.granted _ (List.mem_of_find?_eq_some hgrant)
      obtain rfl : j = i := by simpa using List.find?_some hgrant
      obtain rfl : call = other := Option.some.inj (hcall.symm.trans hother)
      rw [show access.token = call.bearer from htoken]
      have hmem : call ∈ w.sent := List.mem_of_getElem? hcall
      obtain ⟨hbearer, htrimmed⟩ := h.callsOurs call hmem
      have hnew : trim request.newToken = call.newToken := by
        simp only [relayEncodeRotateRequest, bind_eq_ok, refuseWhen_eq_ok, exists_const] at hrequest
        obtain ⟨_, _, _, hrequest⟩ := hrequest
        rw [← Except.ok.inj hrequest]
        rw [htrimmed, htrimmed]
      have hmoves := moves_rotateFamily P config w.relay call.bearer request
      rw [hnew] at hmoves
      by_cases hnews : ∃ plan response, w.device.turn.plan = some plan ∧
          (rotateFamily P config w.relay call.bearer request).1 = .ok response ∧
          response.familyToken = plan.newToken
      · -- the answer names the new token: some family has it, and only ours can
        obtain ⟨plan, response, hplan, hanswer, hnamed⟩ := hnews
        have hpending := h.turn plan hplan
        obtain ⟨row, hrow, hrowToken⟩ := row_of_rotateFamily hanswer
        have hid := hmoves.ours hbearer (h.planned plan hpending).newIsOurs row hrow
          (hrowToken.trans hnamed)
        refine ⟨plan.newToken, h.after (hmoves.ours hbearer) ⟨row, hrow, hid, hrowToken.trans hnamed⟩
          (.inr ⟨plan, hpending, rfl⟩) (fun plan => plan_of_hears P) fun other hother => ?_⟩
        have hsame := plan_of_hears P (plan_of_confirmed hother)
        rw [Option.some.inj (hplan.symm.trans hsame)]
      · obtain ⟨row, hrow, hid, rfl⟩ := h.accepted
        obtain ⟨row', hrow', hid', hmoved⟩ := hmoves.forth row hrow
        have hlive : row'.token = row.token ∨
            ∃ plan, w.device.store.pendingRelayRotation P = some plan ∧ row'.token = plan.newToken := by
          rcases hmoved with hkept | ⟨hfrom, hto⟩
          · exact .inl hkept
          · rcases h.callsKnown call hmem hfrom.symm with hstays | ⟨plan, hpending, hplan⟩
            · exact .inl (hto.trans hstays)
            · exact .inr ⟨plan, hpending, hto.trans hplan⟩
        refine ⟨row'.token, h.after (hmoves.ours hbearer) ⟨row', hrow', hid'.trans hid, rfl⟩ hlive
          (fun plan => plan_of_hears P) fun plan hplan => ?_⟩
        rcases confirmed_of_hears hplan with hbefore | ⟨hturn, response, hanswer, hnamed⟩
        · rcases hlive with hsame | ⟨other, hother, hnew⟩
          · exact hsame.trans (h.confirmed plan hbefore)
          · have hpending := h.turn plan (plan_of_confirmed hbefore)
            rw [hnew, Option.some.inj (hother.symm.trans hpending)]
        · exact absurd ⟨plan, response, hturn, hanswer, hnamed⟩ hnews
  · exact ⟨live, h⟩

end Relay

/-! ## Steps of the device -/

section Device
variable {live : Bytes} {w : World}

theorem mint_visible (entropy : Vector UInt8 relayMemberTokenEntropyBytes) :
    ∀ b ∈ coreMintRelayMemberToken entropy, 0x20 < b ∧ b < 0x7F := by
  have hmark : ∀ b ∈ relayMemberTokenPrefix, 0x20 < b ∧ b < 0x7F := by decide +kernel
  intro b hb
  rcases List.mem_append.mp hb with hb | hb
  · exact hmark b hb
  · exact Base64.encode_visible _ b hb

/-- A minted token fits every format it is written in. -/
theorem mint_fits (entropy : Vector UInt8 relayMemberTokenEntropyBytes) :
    FitsCredential (coreMintRelayMemberToken entropy) := by
  have hlen : (coreMintRelayMemberToken entropy).length ≤ u16Max := by
    have hcode := Base64.length_encode_le entropy.toList
    have hentropy : entropy.toList.length = 32 := Vector.length_toList
    have hmark : relayMemberTokenPrefix.length = 7 := by decide
    rw [coreMintRelayMemberToken, List.length_append]
    unfold u16Max
    omega
  refine ⟨List.append_ne_nil_of_left_ne_nil (by decide) _, hlen, Utf8.fault_ascii fun b hb => ?_⟩
  exact UInt8.le_of_lt (mint_visible entropy b hb).2

variable (P) in
/-- Fresh plans are begun while nothing is pending, and for a relay whose address fits the
format it is announced in. -/
def Step.Orderly (w : World) : Step → Prop
  | .begin _ _ _ _ _ =>
    w.device.store.pendingRelayRotation P = none ∧ FitsCredential w.device.configured.url
  | _ => True

theorem safe_begin (h : Safe P familyId live w)
    (hnone : w.device.store.pendingRelayRotation P = none)
    (hfits : FitsCredential w.device.configured.url) (inboxKeyGeneration : Nat)
    (revokedDeviceIds : List Bytes) (previousRelayEpoch nowMs : Int)
    (entropy : Vector UInt8 relayMemberTokenEntropyBytes) :
    Safe P familyId live (w.begin P inboxKeyGeneration revokedDeviceIds previousRelayEpoch nowMs
      (coreMintRelayMemberToken entropy)) := by
  unfold World.begin
  dsimp only
  split
  · rename_i plan hplan
    split
    · rename_i hfresh
      obtain ⟨hrows, hcalls, _⟩ := hfresh
      have hlive : w.device.configured.token = live := by
        rcases h.known with ⟨_, hpending, _⟩ | ⟨hconfigured, _⟩
        · rw [hnone] at hpending
          cases hpending
        · exact hconfigured
      obtain ⟨hurl, hold, hnew⟩ : plan.relayUrl = trim w.device.configured.url ∧
          plan.supersededToken = trim w.device.configured.token ∧
          plan.newToken = coreMintRelayMemberToken entropy := by
        unfold planRelayRotation at hplan
        dsimp only at hplan
        split at hplan
        · cases hplan
        · obtain ⟨_, _, hplan⟩ := bind_eq_ok.mp hplan
          cases hplan
          exact ⟨rfl, rfl, rfl⟩
      have hsaved : trim w.device.configured.url = w.device.saved.url := by
        rw [configured_url, h.urlTrimmed]
      rw [hlive, h.liveTrimmed] at hold
      rw [hsaved] at hurl
      rw [configured_url, ← hurl] at hfits
      rcases (throughout_beginRelayRotation plan nowMs w.device.store).final with hsame | hwritten
      · rw [hsame]
        exact h
      rw [hwritten]
      have hplanned : Planned familyId
          { w with device.store.relayRotation := some (plan.row nowMs) } ((plan.row nowMs).plan P) := by
        refine ⟨hurl, hfits, hnew ▸ mint_fits entropy, ?_, ?_, ?_, ?_⟩
        · exact hnew ▸ trim_visible (mint_visible entropy)
        · -- a token the family has is no other family's
          obtain ⟨row, hrow, hid, htoken⟩ := h.accepted
          intro other hother hsame
          rw [Table.eq_of_key_eq w.relay.families.unique hother hrow
            (hsame.trans (hold.trans htoken.symm))]
          exact hid
        · exact fun row hrow htoken => absurd (htoken.trans hnew) (hrows row hrow)
        · exact fun call hcall hbearer => absurd (hbearer.trans hnew) (hcalls call hcall).1
      have hstale : ∀ plan, w.device.store.pendingRelayRotation P ≠ some plan := by
        intro plan hpending
        rw [hnone] at hpending
        cases hpending
      refine ⟨h.accepted, h.liveTrimmed, h.urlTrimmed, .inr ⟨hlive, ?_⟩, ?_, h.callsOurs, ?_, h.granted,
        fun plan hturn => absurd (h.turn plan hturn) (hstale plan), h.confirmed⟩
      · rintro _ ⟨⟩
        exact hold
      · rintro _ ⟨⟩
        exact hplanned
      · intro call hcall hbearer
        rcases h.callsKnown call hcall hbearer with hstays | ⟨plan, hpending, _⟩
        · exact .inl hstays
        · exact absurd hpending (hstale plan)
    · exact h
  · exact h

variable {plan : RelayRotationPlan}

theorem safe_send (h : Safe P familyId live w)
    (hpending : w.device.store.pendingRelayRotation P = some plan) (confirming : Bool) :
    Safe P familyId live (w.send plan confirming) := by
  have hplan := h.planned plan hpending
  have hsame : ∀ other, w.device.store.pendingRelayRotation P = some other → other = plan :=
    fun other hother => Option.some.inj (hother.symm.trans hpending)
  refine ⟨h.accepted, h.liveTrimmed, h.urlTrimmed, h.known, fun other hother => ?_, fun call hcall => ?_,
    fun call hcall hbearer => ?_, fun grant hgrant => ?_, ?_, fun _ hnone => nomatch hnone⟩
  · obtain rfl := hsame other hother
    refine { hplan with confirms := fun call hcall hbearer => ?_ }
    rcases List.mem_append.mp hcall with hcall | hcall
    · exact hplan.confirms call hcall hbearer
    · rw [List.mem_singleton.mp hcall]
  · rcases List.mem_append.mp hcall with hcall | hcall
    · exact h.callsOurs call hcall
    · rw [List.mem_singleton.mp hcall]
      refine ⟨?_, hplan.trimmed⟩
      cases confirming
      · exact hplan.oldIsOurs
      · exact hplan.newIsOurs
  · rcases List.mem_append.mp hcall with hcall | hcall
    · exact h.callsKnown call hcall hbearer
    · rw [List.mem_singleton.mp hcall]
      exact .inr ⟨plan, hpending, rfl⟩
  · obtain ⟨call, hcall, htoken⟩ := h.granted grant hgrant
    exact ⟨call, List.getElem?_append_left (List.getElem?_eq_some_iff.mp hcall).1 ▸ hcall, htoken⟩
  · rintro _ ⟨⟩
    exact hpending

theorem safe_ask (h : Safe P familyId live w) : Safe P familyId live (w.ask P) := by
  unfold World.ask
  split
  · rename_i hpending
    exact safe_send h hpending false
  · rename_i hturn
    exact safe_send h (h.turn _ (congrArg Turn.plan hturn)) true
  · exact h

/-- The device has committed a confirmed rotation, or has stopped on the way. In either case
the new token is in the journal or in force. -/
theorem safe_stored (h : Safe P familyId live w)
    (hconfirmed : w.device.turn.confirmedPlan = some plan) {saved : RelayEndpoint}
    {store : RotationStore} {nowMs : Int} (hurl : saved.url = plan.relayUrl)
    (hstore : store = w.device.store ∨ store = w.device.store.announcing plan ∨
      store = (w.device.store.announcing plan).closing plan.newToken nowMs) :
    Safe P familyId live { w with device := { saved, store } } := by
  have hpending := h.turn plan (plan_of_confirmed hconfirmed)
  have hplan := h.planned plan hpending
  have hlive := h.confirmed plan hconfirmed
  have htrimmed : trim saved.url = saved.url := by rw [hurl, hplan.url, h.urlTrimmed]
  have hcalls : ∀ call ∈ w.sent, call.bearer = live → call.newToken = live := by
    intro call hcall hbearer
    rw [hlive] at hbearer ⊢
    exact hplan.confirms call hcall hbearer
  by_cases hopen : store.pendingRelayRotation P = some plan
  · refine ⟨h.accepted, h.liveTrimmed, htrimmed, .inl ⟨plan, hopen, hlive⟩, fun other hother => ?_,
      h.callsOurs, fun call hcall hbearer => .inl (hcalls call hcall hbearer), h.granted, nofun, nofun⟩
    obtain rfl : plan = other := Option.some.inj (hopen.symm.trans hother)
    exact { hplan with url := hurl.symm }
  -- the journal is closed, so the plan was announced before
  have hclosed : store = (w.device.store.announcing plan).closing plan.newToken nowMs := by
    rcases hstore with rfl | rfl | hclosed
    · exact absurd hpending hopen
    · exact absurd hpending hopen
    · exact hclosed
  have hnone : store.pendingRelayRotation P = none := by
    rw [hclosed]
    exact pending_closing hpending nowMs
  have hannounced : store.relayCredentialSetting =
      some { url := plan.relayUrl, token := plan.newToken } := by
    have hheld : store.setting syncRelayCredentialSettingKey =
        some (plan.entry w.device.store.toStore) := by
      rw [hclosed]
      exact (setting_withSetting _ (plan.entry w.device.store.toStore) _).trans (if_pos rfl)
    rw [Store.relayCredentialSetting, hheld]
    exact (decodeRelayCredential_encoded _ _).mpr ⟨hplan.urlFits, hplan.tokenFits⟩
  have hconfigured : (Device.mk saved store .idle).configured.token = live := by
    rw [Device.configured, hannounced, hlive]
    exact congrArg RelayEndpoint.token (if_pos hurl.symm)
  refine ⟨h.accepted, h.liveTrimmed, htrimmed, .inr ⟨hconfigured, fun other hother => ?_⟩,
    fun other hother => ?_, h.callsOurs, fun call hcall hbearer => .inl (hcalls call hcall hbearer),
    h.granted, nofun, nofun⟩
  · cases hnone.symm.trans hother
  · cases hnone.symm.trans hother

theorem safe_next (h : Safe P familyId live w) (step : Step) (horderly : step.Orderly P w) :
    ∃ live', Safe P familyId live' (step.next P config personRootSignSk w) := by
  cases step with
  | begin generation revoked previousRelayEpoch nowMs entropy =>
    exact ⟨live, safe_begin h horderly.1 horderly.2 generation revoked previousRelayEpoch nowMs entropy⟩
  | ask => exact ⟨live, safe_ask h⟩
  | authorize call nowMs heard => exact ⟨live, safe_authorize h call nowMs heard⟩
  | work call heard => exact safe_work h call heard
  | giveUpWaiting => exact ⟨live, h.withTurn nofun nofun⟩
  | commit nowMs =>
    rw [Step.next]
    split
    · rename_i plan hconfirmed
      exact ⟨live, safe_stored h hconfirmed rfl (throughout_commitRelayRotation plan nowMs _).final⟩
    · exact ⟨live, h⟩
  | crash nowMs writes =>
    rw [Step.next]
    split
    · rename_i plan hconfirmed
      have hurl := (h.planned plan (h.turn plan (plan_of_confirmed hconfirmed))).url
      exact ⟨live, safe_stored h hconfirmed hurl.symm
        ((throughout_commitRelayRotation plan nowMs _).survivor writes)⟩
    · exact ⟨live, h⟩
  | restart => exact ⟨live, h.withTurn nofun nofun⟩

end Device

/-! ## Runs -/

variable (P) in
/-- A device that works with the token the relay has for its family, with no rotation under
way. The shell saves a pass in its trimmed form. -/
structure Ready (familyId : Bytes) (w : World) : Prop where
  accepted : ∃ row ∈ w.relay.families.rows, row.familyId = familyId ∧
    row.token = w.device.configured.token
  tokenTrimmed : trim w.device.configured.token = w.device.configured.token
  urlTrimmed : trim w.device.saved.url = w.device.saved.url
  nothingPending : w.device.store.pendingRelayRotation P = none
  nothingSent : w.sent = []
  nothingGranted : w.granted = []
  idle : w.device.turn = .idle

theorem Ready.safe {w : World} (h : Ready P familyId w) :
    Safe P familyId w.device.configured.token w := by
  have hpending : ∀ plan, w.device.store.pendingRelayRotation P ≠ some plan := by
    intro plan hplan
    cases h.nothingPending.symm.trans hplan
  have hsent : ∀ call, call ∉ w.sent := by
    rw [h.nothingSent]
    exact fun _ => List.not_mem_nil
  refine ⟨h.accepted, h.tokenTrimmed, h.urlTrimmed,
    .inr ⟨rfl, fun plan hplan => absurd hplan (hpending plan)⟩,
    fun plan hplan => absurd hplan (hpending plan), fun call hcall => absurd hcall (hsent call),
    fun call hcall => absurd hcall (hsent call), ?_, ?_, ?_⟩
  · rw [h.nothingGranted]
    exact nofun
  · rw [h.idle]
    exact nofun
  · rw [h.idle]
    exact nofun

instance (w : World) (step : Step) : Decidable (step.Orderly P w) := by
  cases step <;> unfold Step.Orderly <;> infer_instance

variable (P config personRootSignSk) in
/-- **A rotation that is begun only while nothing is pending never locks the family out.**
Whatever answers are lost, whatever requests arrive late, and wherever the device stops,
the relay has the family under a token the device knows. -/
theorem rotation_keeps_live_token {initial : World} (hready : Ready P familyId initial)
    {steps : List Step}
    (horderly : Runs.Along (Step.next P config personRootSignSk) (Step.Orderly P) initial steps)
    (n : Nat) :
    HasLiveToken P familyId (Runs.stateAt (Step.next P config personRootSignSk) initial steps n) := by
  obtain ⟨live, hsafe⟩ := Runs.foldl_invariant_along (fun w => ∃ live, Safe P familyId live w)
    (fun w step hok ⟨live, hsafe⟩ => safe_next hsafe step hok) (horderly.take n)
    ⟨_, hready.safe⟩
  exact hsafe.hasLiveToken

section Example
open Sample

/-- A device and a relay with its family. -/
def paired : World where
  relay := Relayd.storeAt primitives hosted {}
    [.provision { token := oldToken } 0 (ascii "cmfid1-one")] 1
  device :=
    { saved := { url := ascii "https://relay", token := oldToken }
      store := {} }

/-- The two after a number of steps. -/
def pairedAt (steps : List Step) (n : Nat) : World :=
  Runs.stateAt (Step.next primitives hosted (secretKey 1)) paired steps n

def beginAt (nowMs : Int) (seed : UInt8) : Step :=
  .begin 0 [] 0 nowMs (Vector.replicate relayMemberTokenEntropyBytes seed)

/-- A rotation whose answer is lost, and which is found done after a restart. -/
def lostAnswer : List Step :=
  [beginAt 1000 1, .ask, .authorize 0 1000 none, .work 0 none, .restart,
    .ask, .authorize 1 2000 (some ⟨0, 0⟩), .ask, .authorize 2 2000 none, .work 2 (some ⟨0, 0⟩),
    .commit 2000]

theorem lost_answer_keeps_live_token :
    Runs.Along (Step.next primitives hosted (secretKey 1)) (Step.Orderly primitives)
        paired lostAnswer ∧
      (pairedAt lostAnswer 11).device.saved.token ≠ oldToken ∧
      HasLiveToken primitives (ascii "cmfid1-one") (pairedAt lostAnswer 11) := by
  have hready : Ready primitives (ascii "cmfid1-one") paired :=
    ⟨by decide +kernel, by decide +kernel, by decide +kernel, rfl, rfl, rfl, rfl⟩
  have horderly : Runs.Along (Step.next primitives hosted (secretKey 1))
      (Step.Orderly primitives) paired lostAnswer := by decide +kernel
  exact ⟨horderly, by decide +kernel, rotation_keeps_live_token _ _ _ hready horderly 11⟩

/-- A second plan is begun where the answer to the first was lost. -/
def secondPlan : List Step :=
  [beginAt 1000 1, .ask, .authorize 0 1000 none, .work 0 none, beginAt 2000 2]

/-- The relay has moved the family, and the one copy of its new token is overwritten. -/
theorem second_plan_locks_out :
    Ready primitives (ascii "cmfid1-one") paired ∧
      HasLiveToken primitives (ascii "cmfid1-one") (pairedAt secondPlan 4) ∧
      ¬ HasLiveToken primitives (ascii "cmfid1-one") (pairedAt secondPlan 5) :=
  ⟨⟨by decide +kernel, by decide +kernel, by decide +kernel, rfl, rfl, rfl, rfl⟩,
    by decide +kernel, by decide +kernel⟩

end Example
end CruiseMesh.LockOut
