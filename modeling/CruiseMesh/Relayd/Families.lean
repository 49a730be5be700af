import CruiseMesh.Lib.Base64
import CruiseMesh.Relayd.Tables

/-!
# Families and their credentials

A family authenticates with its member token. The deposit token it hands out on friend
cards is derived from the member token by a hash, so a family row always has both, and a
bearer credential is looked up in both columns.

Two kinds of writers change the credentials: the operator's provisioning interface, which
inserts or refreshes the row of a token, and the family itself, which may move its row and
everything stored under it to a token of its own choice, on the signature of the key that
signed its first rotation.
-/

namespace CruiseMesh.Relayd
open Wire List Families

def depositTokenPrefix : Bytes := ascii "cmdep1-"
def depositTokenContext : Bytes := ascii "cruisemesh relay deposit token v1"
def familyIdPrefix : Bytes := ascii "cmfid1-"
def rotationSigningDomain : Bytes := ascii "CruiseMesh family token rotation v1\x00"
def maxFamilyTokenLen : Nat := 1024
def minRotationTokenLen : Nat := 24
def rotationPkLen : Nat := 32
def rotationSigLen : Nat := 64
def depositHashLen : Nat := 32

/-! ## Tokens -/

/-- The UTF-8 forms of the control characters. -/
def controlCharacters : List Bytes :=
  (range 0x20).map (fun i => [UInt8.ofNat i]) ++ [[0x7F]] ++
    (range 0x20).map fun i => [0xC2, UInt8.ofNat (0x80 + i)]

/-- `chars().any(|c| c.is_whitespace() || c.is_control())`. -/
def hasBlankOrControl (token : Bytes) : Bool :=
  token.tails.any fun tail => (whiteSpace ++ controlCharacters).any (·.isPrefixOf tail)

def isDepositToken (token : Bytes) : Bool := depositTokenPrefix.isPrefixOf (trim token)

def isFamilyId (value : Bytes) : Bool := familyIdPrefix.isPrefixOf (trim value)

section Deposit
variable (P : Primitives)

/-- The hash in a deposit token. -/
def depositHash (member : Bytes) : Bytes := P.blake2b depositHashLen (depositTokenContext ++ member)

/-- `deposit_token_for`. -/
def depositTokenFor (memberToken : Bytes) : Bytes :=
  let member := trim memberToken
  if member = [] ∨ depositTokenPrefix.isPrefixOf member then member
  else depositTokenPrefix ++ Base64.encode (depositHash P member)

end Deposit

/-! ## Reading families -/

inductive TokenClass where
  | member
  | deposit
deriving DecidableEq

namespace Families

/-- `get_family_by_credential_on`: an exact member match wins. -/
def getFamilyByCredential (t : Families) (credential : Bytes) : Option (FamilyRow × TokenClass) :=
  let family := (t.getFamily credential).or (t.rows.find? (·.depositToken = credential))
  family.map fun row => (row, if row.token = credential then .member else .deposit)

/-- `resolve_family_on`: the stable id first, then the token. -/
def resolveFamily (t : Families) (idOrToken : Bytes) : Option FamilyRow :=
  (t.rows.find? (·.familyId = idOrToken)).or (t.getFamily idOrToken)

/-- A credential resolves exactly when it is a token of some row. -/
theorem getFamilyByCredential_eq_none {t : Families} {credential : Bytes} :
    t.getFamilyByCredential credential = none ↔
      ∀ row ∈ t.rows, row.token ≠ credential ∧ row.depositToken ≠ credential := by
  unfold getFamilyByCredential getFamily Table.lookup
  rw [Option.map_eq_none_iff, Option.or_eq_none_iff, find?_eq_none, find?_eq_none]
  simp only [decide_eq_true_eq]
  constructor
  · rintro ⟨hmember, hdeposit⟩ row hrow
    exact ⟨hmember row hrow, hdeposit row hrow⟩
  · intro h
    exact ⟨fun row hrow => (h row hrow).1, fun row hrow => (h row hrow).2⟩

end Families

/-! ## Rotation -/

section Rotation
variable (P : Primitives)

/-- `rotation_signed_bytes`: each token behind its length as a big-endian `u16`. -/
def rotationSignedBytes (currentToken newToken : Bytes) : Bytes :=
  rotationSigningDomain ++
    [currentToken, newToken].flatMap fun token => beBytes 2 token.length ++ token

structure RotationAuthority where
  publicKey : Bytes
  signature : Bytes
deriving DecidableEq

/-- `verify_rotation_signature`. -/
def verifyRotationSignature (publicKey message signature : Bytes) : Bool :=
  P.isVerifyingKey publicKey && P.verify publicKey message signature

inductive RotationAuthorityCheck where
  | accepted
  | register
  | refused
deriving DecidableEq

/-- `check_rotation_authority`: the stored key wins; a family without one takes the key
that signs. -/
def checkRotationAuthority (storedPk : Option Bytes) (message : Bytes)
    (authority : RotationAuthority) : RotationAuthorityCheck :=
  let verified := verifyRotationSignature P authority.publicKey message authority.signature
  match storedPk with
  | some stored =>
    if stored ≠ authority.publicKey then .refused
    else if verified then .accepted else .refused
  | none => if verified then .register else .refused

inductive FamilyRotation where
  | rotated (family : FamilyRow) (envelopesMoved : Nat)
  | alreadyRotated (family : FamilyRow)
  | unknownFamily
  | tokenTaken
  | unauthorized
deriving DecidableEq

namespace RelayStore

/-- `UPDATE families SET rotation_pk = ?2 WHERE token = ?1`. -/
def registerRotationKey (s : RelayStore) (token publicKey : Bytes) : RelayStore :=
  { s with
    families := s.families.update token (fun row => { row with rotationPk := some publicKey })
      fun _ => rfl }

/-- The part of a rotation that moves the family and its rows. `s` is the database inside
the transaction, `before` the one a dropped transaction leaves. -/
def moveFamily (before s : RelayStore) (currentToken newToken : Bytes) :
    Except String (FamilyRotation × RelayStore) := do
  let newDeposit := depositTokenFor P newToken
  if (s.families.getFamilyByCredential newToken).isSome ∨
      (s.families.getFamilyByCredential newDeposit).isSome then
    pure (.tokenTaken, before)
  else
    let envelopes ← s.envelopes.rekey currentToken newToken
    let presence ← rekeyPresence s.presence currentToken newToken
    let families ← s.families.rekey currentToken newToken newDeposit
    let family ← okOr (families.getFamily newToken) "family vanished during rotation"
    pure (.rotated family (s.envelopes.rows.countP (·.familyToken = currentToken)),
      { envelopes, presence, families
        pushRegistrationHints := s.pushRegistrationHints.filter (·.familyToken ≠ currentToken)
        pushRegistrations := s.pushRegistrations.filter (·.familyToken ≠ currentToken) })

/-- `rotate_family_token`. -/
def rotateFamilyToken (s : RelayStore) (currentToken newToken : Bytes)
    (authority : RotationAuthority) : Except String (FamilyRotation × RelayStore) :=
  -- which row the call is about, and whether the work is already done
  let found := match s.families.getFamily currentToken with
    | some row => some (row, decide (currentToken = newToken))
    | none => (s.families.getFamily newToken).map (·, true)
  match found with
  | none => .ok (.unknownFamily, s)
  | some (row, alreadyRotated) =>
    let message := rotationSignedBytes currentToken newToken
    match checkRotationAuthority P row.rotationPk message authority, alreadyRotated with
    | .refused, _ => .ok (.unauthorized, s)
    -- a call that moves nothing may not claim the authority
    | .register, true => .ok (.unauthorized, s)
    | .accepted, true => .ok (.alreadyRotated row, s)
    | .register, false =>
      moveFamily P s (s.registerRotationKey row.token authority.publicKey) currentToken newToken
    | .accepted, false => moveFamily P s s currentToken newToken

/-! ## What a rotation does -/

/-- The row of the family that rotates, with the key that may rotate it from now on. -/
def rekeyed (currentToken newToken : Bytes) (rotationPk : Option Bytes) (row : FamilyRow) :
    FamilyRow :=
  if row.token = currentToken then
    { row with token := newToken, depositToken := depositTokenFor P newToken, rotationPk }
  else row

/-- Every way a rotation can end: it leaves the database alone, or it moves one family and
all its envelopes to a token that nobody had. -/
inductive Rotated (s : RelayStore) (currentToken newToken : Bytes) :
    FamilyRotation → RelayStore → Prop where
  | unchanged {result : FamilyRotation} (hresult : ∀ family n, result ≠ .rotated family n) :
      Rotated s currentToken newToken result s
  | moved {s' : RelayStore} {held family : FamilyRow} {n : Nat} {rotationPk : Option Bytes}
      (hheld : s.families.getFamily currentToken = some held) (hne : currentToken ≠ newToken)
      (hfree : ∀ row ∈ s.families.rows,
        (row.token ≠ newToken ∧ row.depositToken ≠ newToken) ∧
          row.token ≠ depositTokenFor P newToken ∧ row.depositToken ≠ depositTokenFor P newToken)
      (hrows : s'.envelopes.rows = s.envelopes.rows.map (Envelopes.moved currentToken newToken))
      (hlast : s'.envelopes.lastId = s.envelopes.lastId)
      (hfamilies : s'.families.rows =
        s.families.rows.map (rekeyed P currentToken newToken rotationPk))
      (hfamily : s'.families.getFamily newToken = some family) :
      Rotated s currentToken newToken (.rotated family n) s'

variable {s s' : RelayStore} {currentToken newToken : Bytes} {result : FamilyRotation}

theorem moveFamily_eq_ok {before : RelayStore}
    (h : moveFamily P before s currentToken newToken = .ok (result, s')) :
    (result = .tokenTaken ∧ s' = before) ∨
    ∃ family n, result = .rotated family n ∧
      s.families.getFamilyByCredential newToken = none ∧
      s.families.getFamilyByCredential (depositTokenFor P newToken) = none ∧
      s'.envelopes.rows = s.envelopes.rows.map (Envelopes.moved currentToken newToken) ∧
      s'.envelopes.lastId = s.envelopes.lastId ∧
      s'.families.rows = s.families.rows.map
        (moved currentToken newToken (depositTokenFor P newToken)) ∧
      s'.families.getFamily newToken = some family := by
  unfold moveFamily at h
  dsimp only at h
  split at h
  · cases h
    exact .inl ⟨rfl, rfl⟩
  rename_i htaken
  rw [not_or, Bool.not_eq_true, Bool.not_eq_true, Option.isSome_eq_false_iff,
    Option.isSome_eq_false_iff, Option.isNone_iff_eq_none, Option.isNone_iff_eq_none] at htaken
  obtain ⟨envelopes, henvelopes, h⟩ := bind_eq_ok.mp h
  obtain ⟨presence, _, h⟩ := bind_eq_ok.mp h
  obtain ⟨families, hfamilies, h⟩ := bind_eq_ok.mp h
  obtain ⟨family, hfamily, h⟩ := bind_eq_ok.mp h
  cases h
  obtain ⟨hrows, hlast⟩ := Envelopes.rekey_eq_ok henvelopes
  exact .inr ⟨family, _, rfl, htaken.1, htaken.2, hrows, hlast, rekey_eq_ok hfamilies,
    okOr_eq_ok.mp hfamily⟩

/-- Moving the family after its key was registered, or as it was. -/
theorem rotated_of_moveFamily {inside : RelayStore} {held : FamilyRow} {rotationPk : Option Bytes}
    (hheld : s.families.getFamily currentToken = some held) (hne : currentToken ≠ newToken)
    (hinside : inside.families.rows = s.families.rows.map fun row =>
      if row.token = currentToken then { row with rotationPk } else row)
    (henvelopes : inside.envelopes = s.envelopes)
    (h : moveFamily P s inside currentToken newToken = .ok (result, s')) :
    Rotated P s currentToken newToken result s' := by
  rcases moveFamily_eq_ok P h with ⟨rfl, rfl⟩ | ⟨family, n, rfl, hfree, hfree', hrows, hlast,
    hfamilies, hfamily⟩
  · exact .unchanged fun _ _ => nofun
  rw [getFamilyByCredential_eq_none, hinside] at hfree hfree'
  rw [henvelopes] at hrows hlast
  have hmoved : s'.families.rows =
      s.families.rows.map (rekeyed P currentToken newToken rotationPk) := by
    rw [hfamilies, hinside, map_map]
    refine map_congr_left fun row _ => ?_
    by_cases hrow : row.token = currentToken
    · simp [rekeyed, moved, hrow]
    · simp [rekeyed, moved, hrow]
  refine .moved hheld hne (fun row hrow => ?_) hrows hlast hmoved hfamily
  -- the columns that are compared are those of the row before its key was written
  have h1 := hfree _ (mem_map_of_mem hrow)
  have h2 := hfree' _ (mem_map_of_mem hrow)
  split at h1 <;> exact ⟨h1, by simpa [*] using h2⟩

theorem rotated_of_ok {authority : RotationAuthority}
    (h : s.rotateFamilyToken P currentToken newToken authority = .ok (result, s')) :
    Rotated P s currentToken newToken result s' := by
  unfold rotateFamilyToken at h
  cases hheld : s.families.getFamily currentToken with
  | none =>
    rw [hheld] at h
    cases hnew : s.families.getFamily newToken with
    | none =>
      rw [hnew] at h
      cases h
      exact .unchanged fun _ _ => nofun
    | some row =>
      rw [hnew] at h
      dsimp only [Option.map_some] at h
      split at h
      all_goals first
        | (obtain ⟨rfl, rfl⟩ := ok_pair_inj h; exact .unchanged fun _ _ => nofun)
        | (rename_i hfalse; cases hfalse)
  | some held =>
    rw [hheld] at h
    dsimp only at h
    have htoken : held.token = currentToken := (getFamily_eq_some.mp hheld).2
    split at h
    · obtain ⟨rfl, rfl⟩ := ok_pair_inj h; exact .unchanged fun _ _ => nofun
    · obtain ⟨rfl, rfl⟩ := ok_pair_inj h; exact .unchanged fun _ _ => nofun
    · obtain ⟨rfl, rfl⟩ := ok_pair_inj h; exact .unchanged fun _ _ => nofun
    · rename_i _ hne
      have hinside : (s.registerRotationKey held.token authority.publicKey).families.rows =
          s.families.rows.map fun row =>
            if row.token = currentToken then { row with rotationPk := some authority.publicKey }
            else row := by
        simp [registerRotationKey, update, Table.update, htoken]
      exact rotated_of_moveFamily P hheld (of_decide_eq_false hne) hinside rfl h
    · rename_i _ hne
      -- the family keeps the key it has
      have hinside : s.families.rows = s.families.rows.map fun row =>
          if row.token = currentToken then { row with rotationPk := held.rotationPk } else row := by
        refine ((map_congr_left fun row hrow => ?_).trans (map_id _)).symm
        by_cases hcurrent : row.token = currentToken
        · have hsame := (getFamily_eq_some.mpr ⟨hrow, hcurrent⟩).symm.trans hheld
          rw [if_pos hcurrent, Option.some.inj hsame]
          rfl
        · rw [if_neg hcurrent]
          rfl
      exact rotated_of_moveFamily P hheld (of_decide_eq_false hne) hinside rfl h

/-! ## The operator's writers -/

/-- The row `upsert_family` leaves. The stable id and the rotation key of a family that is
there already stay as they are; `mintedId` is the id a new family gets. -/
def upsertedRow (held : Option FamilyRow) (token : Bytes) (plan : Option Bytes)
    (quotaBytes : Option Nat) (expiresMs : Option Int) (note : Option Bytes) (nowMs : Int)
    (mintedId : Bytes) : FamilyRow :=
  match held with
  | some held =>
    { held with
      token, status := .active, plan, quotaBytes, expiresMs, note
      depositToken := depositTokenFor P token }
  | none =>
    { token, familyId := mintedId, status := .active, plan, quotaBytes, createdMs := nowMs,
      expiresMs, note, depositToken := depositTokenFor P token, rotationPk := none }

/-- `upsert_family`. -/
def upsertFamily (s : RelayStore) (token : Bytes) (plan : Option Bytes) (quotaBytes : Option Nat)
    (expiresMs : Option Int) (note : Option Bytes) (nowMs : Int) (mintedId : Bytes) :
    Except String (FamilyRow × RelayStore) := do
  let row := upsertedRow P (s.families.getFamily token) token plan quotaBytes expiresMs note nowMs
    mintedId
  let families := s.families.upsert row
  let family ← okOr (families.getFamily token) "family vanished after upsert"
  pure (family, { s with families })

/-- `patch_family`: what is `none` keeps its stored value. -/
def patchFamily (s : RelayStore) (token : Bytes) (status : Option FamilyStatus)
    (plan : Option Bytes) (quotaBytes : Option Nat) (expiresMs : Option Int) (note : Option Bytes) :
    Option FamilyRow × RelayStore :=
  let families := s.families.update token
    (fun row => { row with
      status := status.getD row.status
      plan := plan.or row.plan
      quotaBytes := quotaBytes.or row.quotaBytes
      expiresMs := expiresMs.or row.expiresMs
      note := note.or row.note })
    fun _ => rfl
  (families.getFamily token, { s with families })

/-- `delete_family`: the family and everything stored under its token. -/
def deleteFamily (s : RelayStore) (token : Bytes) : Bool × RelayStore :=
  ((s.families.getFamily token).isSome,
    { envelopes := s.envelopes.deleteWhere (·.familyToken = token)
      families := s.families.delete token
      presence := s.presence.filter (·.familyToken ≠ token)
      pushRegistrations := s.pushRegistrations.filter (·.familyToken ≠ token)
      pushRegistrationHints := s.pushRegistrationHints.filter (·.familyToken ≠ token) })

end RelayStore
end Rotation

/-! ## The requests -/

/-- `ApiError`: the status, the text and the stable code of an answer that is no success. -/
structure ApiError where
  status : Nat
  message : String
  code : Option String := none
deriving DecidableEq

namespace ApiError

def badRequest (message : String) : ApiError := { status := 400, message }

def unauthorized (message : String) : ApiError := { status := 401, message }

def internal (_detail : String) : ApiError := { status := 500, message := "internal server error" }

def notFound : ApiError := { status := 404, message := "not found" }

def rotationUnsupported : ApiError where
  status := 409
  message := "this family's token is configured on the server and cannot be " ++
    "rotated from a device; provision a new token instead"
  code := "rotation_unsupported"

def rotationTokenTaken : ApiError where
  status := 409
  message := "the proposed family token is already in use"
  code := "rotation_token_taken"

def rotationUnauthorized : ApiError where
  status := 403
  message := "this rotation is not signed by the family's registered rotation key"
  code := "rotation_unauthorized"

end ApiError

/-- What the operator configures: the tokens of the families that have no row. -/
structure Config where
  adminToken : Option Bytes
  authTokens : List Bytes
  familyQuotaBytes : Nat

section Requests
variable (P : Primitives) (config : Config)

/-- `static_deposit_tokens`: the member token a static deposit token stands for. -/
def Config.staticDepositToken (credential : Bytes) : Option Bytes :=
  config.authTokens.find? fun token => depositTokenFor P token = credential

def validateQuotaBytes (quotaBytes : Option Nat) : Except ApiError Unit :=
  refuseWhen (quotaBytes = some 0)
    (.badRequest "quota_bytes must be greater than 0 (omit it for the server default)")

structure ProvisionFamilyRequest where
  token : Bytes
  plan : Option Bytes := none
  quotaBytes : Option Nat := none
  expiresMs : Option Int := none
  note : Option Bytes := none
deriving DecidableEq

/-- The checks of `admin_provision_family` on the token. -/
def checkProvisionedToken (token : Bytes) : Except ApiError Unit := do
  refuseWhen (token = [] ∨ maxFamilyTokenLen < token.length)
    (.badRequest "token must be 1..=1024 characters")
  refuseWhen (hasBlankOrControl token)
    (.badRequest "token must not contain whitespace or control characters")
  refuseWhen (config.adminToken = some token ∨ token ∈ config.authTokens)
    (.badRequest "token collides with a server-configured token")
  refuseWhen (isDepositToken token)
    (.badRequest "token must not start with the deposit-token prefix \"cmdep1-\"")
  refuseWhen (isFamilyId token)
    (.badRequest "token must not start with the family-id prefix \"cmfid1-\"")

variable (s : RelayStore)

/-- `admin_provision_family`, behind `authorize_admin`. -/
def adminProvisionFamily (request : ProvisionFamilyRequest) (nowMs : Int)
    (mintedId : Bytes) : Except ApiError (FamilyRow × RelayStore) := do
  let token := trim request.token
  checkProvisionedToken config token
  validateQuotaBytes request.quotaBytes
  (s.upsertFamily P token request.plan request.quotaBytes request.expiresMs request.note nowMs
    mintedId).mapError .internal

structure PatchFamilyRequest where
  status : Option Bytes := none
  plan : Option Bytes := none
  quotaBytes : Option Nat := none
  expiresMs : Option Int := none
  note : Option Bytes := none
deriving DecidableEq

/-- The two values the status column takes. -/
def FamilyStatus.parse (text : Bytes) : Except ApiError FamilyStatus :=
  if text = ascii "active" then .ok .active
  else if text = ascii "suspended" then .ok .suspended
  else .error (.badRequest "status must be \"active\" or \"suspended\"")

/-- `admin_patch_family`, behind `authorize_admin`. -/
def adminPatchFamily (idOrToken : Bytes) (request : PatchFamilyRequest) :
    Except ApiError (FamilyRow × RelayStore) := do
  let status ← request.status.mapM FamilyStatus.parse
  validateQuotaBytes request.quotaBytes
  let held ← okOr (s.families.resolveFamily idOrToken) .notFound
  let (row, s) := s.patchFamily held.token status request.plan request.quotaBytes
    request.expiresMs request.note
  let row ← okOr row .notFound
  pure (row, s)

/-- `admin_delete_family`, behind `authorize_admin`. -/
def adminDeleteFamily (idOrToken : Bytes) : Except ApiError (Bool × RelayStore) := do
  let held ← okOr (s.families.resolveFamily idOrToken) .notFound
  let (deleted, s) := s.deleteFamily held.token
  refuseWhen (deleted = false) .notFound
  pure (true, s)

structure RotateFamilyRequest where
  newToken : Bytes
  rotationPk : Option Bytes
  rotationSig : Option Bytes
deriving DecidableEq

/-- The checks of `rotate_family` on the token it is to move to. -/
def checkNewToken (newToken : Bytes) : Except ApiError Unit := do
  refuseWhen (newToken.length < minRotationTokenLen ∨ maxFamilyTokenLen < newToken.length)
    (.badRequest "new_token must be 24..=1024 characters")
  refuseWhen (hasBlankOrControl newToken)
    (.badRequest "new_token must not contain whitespace or control characters")
  refuseWhen (isDepositToken newToken)
    (.badRequest "new_token must not start with the deposit-token prefix \"cmdep1-\"")
  refuseWhen (isFamilyId newToken)
    (.badRequest "new_token must not start with the family-id prefix \"cmfid1-\"")
  refuseWhen (config.adminToken = some newToken ∨ newToken ∈ config.authTokens ∨
    (config.staticDepositToken P newToken).isSome) .rotationTokenTaken

/-- `decode_fixed_base64_field`, behind the decoding. -/
def fixedField (value : Option Bytes) (len : Nat) (field : String) : Except ApiError Bytes := do
  let bytes ← okOr value (.badRequest (field ++ " is required"))
  refuseWhen (bytes.length ≠ len)
    (.badRequest (field ++ " must decode to exactly " ++ toString len ++ " bytes"))
  pure bytes

structure RotateFamilyResponse where
  familyToken : Bytes
  depositToken : Bytes
  envelopesMoved : Nat
  rotated : Bool
deriving DecidableEq

/-- The checks `rotate_family` makes before it asks the store: the token to move to and the
authority to do it. -/
def checkRotation (request : RotateFamilyRequest) : Except ApiError (Bytes × RotationAuthority) := do
  let newToken := trim request.newToken
  checkNewToken P config newToken
  let publicKey ← fixedField request.rotationPk rotationPkLen "rotation_pk"
  let signature ← fixedField request.rotationSig rotationSigLen "rotation_sig"
  pure (newToken, { publicKey, signature })

/-- `rotate_family`, behind the authorisation of `currentToken`. -/
def rotateFamily (currentToken : Bytes) (request : RotateFamilyRequest) :
    Except ApiError RotateFamilyResponse × RelayStore :=
  match checkRotation P config request with
  | .error e => (.error e, s)
  | .ok (newToken, authority) =>
    let call := s.rotateFamilyToken P currentToken newToken authority
    let answer := match call with
      | .error detail => .error (.internal detail)
      | .ok (.rotated family envelopesMoved, _) =>
        .ok { familyToken := family.token, depositToken := family.depositToken, envelopesMoved
              rotated := true }
      | .ok (.alreadyRotated family, _) =>
        .ok { familyToken := family.token, depositToken := family.depositToken
              envelopesMoved := 0, rotated := false }
      | .ok (.unknownFamily, _) => .error .rotationUnsupported
      | .ok (.tokenTaken, _) => .error .rotationTokenTaken
      | .ok (.unauthorized, _) => .error .rotationUnauthorized
    (answer, committed s call)

end Requests
end CruiseMesh.Relayd
