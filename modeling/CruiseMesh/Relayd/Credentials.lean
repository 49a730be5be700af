import CruiseMesh.Lib.Runs
import CruiseMesh.Relayd.Families
import CruiseMesh.Sample

/-!
# Superseded credentials

A family rotates to lock out a device it lost: from then on neither the old member token
nor the deposit token derived from it may resolve. Whether they stay dead depends on the
later writers, and none of them remembers a token that was given up. Provisioning takes
any token that is well formed, and a rotation takes any token that no row has.

So the old pair is dead for as long as no request names the old token again, and a
provision that names it brings it back (`superseded_dead_unless_named`).
-/

namespace CruiseMesh.Relayd
open List Sample Table Runs Families RelayStore
variable (P : Primitives) (config : Config)

/-! ## Well-formed tokens -/

/-- What provisioning and rotation check of a member token. -/
structure Plain (token : Bytes) : Prop where
  nonempty : token ≠ []
  solid : hasBlankOrControl token = false
  isMember : isDepositToken token = false

/-- Every family has a well-formed token and the deposit token that belongs to it. -/
def WellIssued (t : Families) : Prop :=
  ∀ row ∈ t.rows, Plain row.token ∧ row.depositToken = depositTokenFor P row.token

variable {P} {config}

namespace Plain
variable {token : Bytes} (h : Plain token)
include h

theorem not_mem_of_solid {tail space : Bytes} (htail : tail <:+ token) (hspace : space ∈ whiteSpace) :
    ¬ space <+: tail := by
  intro hprefix
  have hall := h.solid
  rw [hasBlankOrControl, any_eq_false] at hall
  have htail' := hall tail ((mem_tails _ _).mpr htail)
  refine htail' (any_eq_true.mpr ⟨space, mem_append_left _ hspace, ?_⟩)
  exact List.isPrefixOf_iff_prefix.mpr hprefix

theorem trim_eq : trim token = token :=
  trim_eq_self (fun _ hspace => h.not_mem_of_solid suffix_rfl hspace)
    fun _ hspace hsuffix => h.not_mem_of_solid hsuffix hspace prefix_rfl

theorem not_deposit : ¬ depositTokenPrefix <+: token := by
  have hclass := h.isMember
  rw [isDepositToken, h.trim_eq] at hclass
  intro hprefix
  rw [List.isPrefixOf_iff_prefix.mpr hprefix] at hclass
  cases hclass

theorem depositTokenFor_eq :
    depositTokenFor P token = depositTokenPrefix ++ Base64.encode (depositHash P token) := by
  unfold depositTokenFor
  rw [h.trim_eq, if_neg]
  rw [not_or]
  exact ⟨h.nonempty, fun hprefix => h.not_deposit (List.isPrefixOf_iff_prefix.mp hprefix)⟩

end Plain

theorem plain_of_checkProvisionedToken {token : Bytes}
    (h : checkProvisionedToken config token = .ok ()) : Plain token := by
  simp only [checkProvisionedToken, bind_eq_ok, refuseWhen_eq_ok, exists_const] at h
  obtain ⟨hlen, hsolid, _, hclass, _⟩ := h
  exact ⟨fun hnil => hlen (.inl hnil), by simpa using hsolid, by simpa using hclass⟩

variable {request : RotateFamilyRequest}

theorem checkRotation_eq_ok {newToken : Bytes} {authority : RotationAuthority}
    (h : checkRotation P config request = .ok (newToken, authority)) :
    trim request.newToken = newToken ∧ Plain newToken := by
  obtain ⟨_, hcheck, h⟩ := bind_eq_ok.mp h
  obtain ⟨_, _, h⟩ := bind_eq_ok.mp h
  obtain ⟨_, _, h⟩ := bind_eq_ok.mp h
  obtain ⟨rfl, _⟩ := ok_pair_inj h
  simp only [checkNewToken, bind_eq_ok, refuseWhen_eq_ok, exists_const] at hcheck
  obtain ⟨hlen, hsolid, hclass, _⟩ := hcheck
  refine ⟨rfl, fun hnil => ?_, by simpa using hsolid, by simpa using hclass⟩
  rw [hnil] at hlen
  exact hlen (.inl (by decide))

/-! ## Dead credentials -/

/-- No family answers to the credential. -/
def Dead (s : RelayStore) (credential : Bytes) : Prop :=
  s.families.getFamilyByCredential credential = none

instance (s : RelayStore) (credential : Bytes) : Decidable (Dead s credential) := by
  unfold Dead; infer_instance

variable {s : RelayStore}

/-- In a well-issued table a member token and its deposit token are dead together, and
exactly when no family has the member token. The hash must not take another family's token
to the same deposit token. -/
theorem dead_pair_iff {token : Bytes} (hissued : WellIssued P s.families) (htoken : Plain token)
    (hhash : ∀ row ∈ s.families.rows, depositHash P row.token = depositHash P token →
      row.token = token) :
    Dead s token ∧ Dead s (depositTokenFor P token) ↔ ∀ row ∈ s.families.rows, row.token ≠ token := by
  rw [Dead, Dead, getFamilyByCredential_eq_none, getFamilyByCredential_eq_none]
  constructor
  · rintro ⟨hmember, _⟩ row hrow
    exact (hmember row hrow).1
  intro habsent
  have hdeposit : ∀ {t : Bytes}, Plain t → depositTokenPrefix <+: depositTokenFor P t := by
    intro t ht
    rw [ht.depositTokenFor_eq]
    exact prefix_append _ _
  refine ⟨fun row hrow => ⟨habsent row hrow, fun heq => ?_⟩,
    fun row hrow => ⟨fun heq => ?_, fun heq => ?_⟩⟩
  · -- a deposit token has the prefix a member token must not have
    obtain ⟨hplain, hown⟩ := hissued row hrow
    exact htoken.not_deposit (heq ▸ hown ▸ hdeposit hplain)
  · exact (hissued row hrow).1.not_deposit (heq ▸ hdeposit htoken)
  · -- equal deposit tokens are equal hashes
    obtain ⟨hplain, hown⟩ := hissued row hrow
    rw [hown, hplain.depositTokenFor_eq, htoken.depositTokenFor_eq] at heq
    exact habsent row hrow
      (hhash row hrow (Base64.encode_injective (append_cancel_left heq)))

/-! ## The writers -/

/-- The requests that change families. -/
inductive Change where
  | rotate (currentToken : Bytes) (request : RotateFamilyRequest)
  | provision (request : ProvisionFamilyRequest) (nowMs : Int) (mintedId : Bytes)
  | patch (idOrToken : Bytes) (request : PatchFamilyRequest)
  | delete (idOrToken : Bytes)
deriving DecidableEq

variable (P) (config)

/-- The database after a request. -/
def Change.next (s : RelayStore) : Change → RelayStore
  | .rotate currentToken request => (rotateFamily P config s currentToken request).2
  | .provision request nowMs mintedId =>
    committed s (adminProvisionFamily P config s request nowMs mintedId)
  | .patch idOrToken request => committed s (adminPatchFamily s idOrToken request)
  | .delete idOrToken => committed s (adminDeleteFamily s idOrToken)

/-- The request names the token as the one a family is to have. -/
def Change.Names (token : Bytes) : Change → Prop
  | .rotate _ request => trim request.newToken = token
  | .provision request _ _ => trim request.token = token
  | .patch _ _ => False
  | .delete _ => False

instance (token : Bytes) (change : Change) : Decidable (change.Names token) := by
  cases change <;> unfold Change.Names <;> infer_instance

variable {P} {config}
variable (P config) in
/-- A rotation request is refused or changes nothing, or it moves a family. -/
theorem rotateFamily_cases (s : RelayStore) (currentToken : Bytes) (request : RotateFamilyRequest) :
    ((rotateFamily P config s currentToken request).2 = s ∧
      ∀ response, (rotateFamily P config s currentToken request).1 = .ok response →
        response.rotated = false) ∨
    ∃ newToken authority family n s' response,
      checkRotation P config request = .ok (newToken, authority) ∧
      s.rotateFamilyToken P currentToken newToken authority = .ok (.rotated family n, s') ∧
      (rotateFamily P config s currentToken request).1 = .ok response ∧
      response.rotated = true ∧ response.familyToken = family.token ∧
      (rotateFamily P config s currentToken request).2 = s' := by
  unfold rotateFamily
  cases hcheck : checkRotation P config request with
  | error e => exact .inl ⟨rfl, fun _ => nofun⟩
  | ok checked =>
    obtain ⟨newToken, authority⟩ := checked
    dsimp only
    cases hcall : s.rotateFamilyToken P currentToken newToken authority with
    | error detail => exact .inl ⟨rfl, fun _ => nofun⟩
    | ok answer =>
      obtain ⟨result, s'⟩ := answer
      cases rotated_of_ok P hcall with
      | moved hheld hne hfree hrows hlast hfamilies hfamily =>
        exact .inr ⟨newToken, authority, _, _, s', _, rfl, hcall, rfl, rfl, rfl, rfl⟩
      | unchanged hresult =>
        refine .inl ⟨rfl, fun response hresponse => ?_⟩
        cases result with
        | rotated family n => exact absurd rfl (hresult family n)
        | alreadyRotated family =>
          cases hresponse
          rfl
        | unknownFamily => cases hresponse
        | tokenTaken => cases hresponse
        | unauthorized => cases hresponse

/-- Provisioning puts one row into the table, the one it answers with. A family that is
there keeps its id and its key. -/
theorem adminProvisionFamily_eq_ok {s' : RelayStore} {request : ProvisionFamilyRequest}
    {nowMs : Int} {mintedId : Bytes} {row : FamilyRow}
    (h : adminProvisionFamily P config s request nowMs mintedId = .ok (row, s')) :
    trim request.token = row.token ∧ Plain row.token ∧
      row.depositToken = depositTokenFor P row.token ∧
      s'.families.rows = upsert FamilyRow.token row s.families.rows ∧
      match s.families.getFamily row.token with
      | some held => row.familyId = held.familyId ∧ row.rotationPk = held.rotationPk
      | none => row.rotationPk = none := by
  obtain ⟨_, hcheck, h⟩ := bind_eq_ok.mp h
  obtain ⟨_, _, h⟩ := bind_eq_ok.mp h
  rw [mapError_eq_ok] at h
  obtain ⟨family, hfamily, h⟩ := bind_eq_ok.mp h
  cases h
  have hplain := plain_of_checkProvisionedToken hcheck
  unfold upsertedRow at hfamily ⊢
  cases hheld : s.families.getFamily (trim request.token) with
  | none =>
    rw [hheld, okOr_eq_ok, getFamily, rows_upsert, lookup_upsert,
      if_pos rfl] at hfamily
    cases hfamily
    exact ⟨rfl, hplain, rfl, rfl, by rw [hheld]⟩
  | some held =>
    rw [hheld, okOr_eq_ok, getFamily, rows_upsert, lookup_upsert,
      if_pos rfl] at hfamily
    cases hfamily
    exact ⟨rfl, hplain, rfl, rfl, by rw [hheld]; exact ⟨rfl, rfl⟩⟩

/-- A provision that passes the checks on what it says is carried out. -/
theorem provision_leaves {request : ProvisionFamilyRequest} (s : RelayStore) (nowMs : Int)
    (mintedId : Bytes) (hcheck : checkProvisionedToken config (trim request.token) = .ok ())
    (hquota : validateQuotaBytes request.quotaBytes = .ok ()) :
    ∃ row ∈ ((Change.provision request nowMs mintedId).next P config s).families.rows,
      row.token = trim request.token := by
  have hrow : (upsertedRow P (s.families.getFamily (trim request.token)) (trim request.token)
      request.plan request.quotaBytes request.expiresMs request.note nowMs mintedId).token =
      trim request.token := by
    unfold upsertedRow
    split <;> rfl
  cases hcall : adminProvisionFamily P config s request nowMs mintedId with
  | error e =>
    rw [adminProvisionFamily, hcheck, hquota, upsertFamily, getFamily, rows_upsert, lookup_upsert,
      if_pos hrow] at hcall
    cases hcall
  | ok answer =>
    obtain ⟨row, s'⟩ := answer
    obtain ⟨hnamed, _, _, hrows, _⟩ := adminProvisionFamily_eq_ok hcall
    rw [Change.next, hcall, committed, hrows]
    exact ⟨row, mem_of_lookup (by rw [lookup_upsert, if_pos rfl]), hnamed.symm⟩

/-! ## Where credentials come from -/

variable (P) in
/-- A pair of credentials is one that was there or is that of a token the request names. -/
def Adds (change : Change) (t t' : Families) : Prop :=
  ∀ row ∈ t'.rows,
    (∃ old ∈ t.rows, row.token = old.token ∧ row.depositToken = old.depositToken) ∨
      change.Names row.token ∧ Plain row.token ∧ row.depositToken = depositTokenFor P row.token

/-- The rows agree in what only provisioning and rotation write. -/
def SameFamily (old new : FamilyRow) : Prop :=
  new.familyId = old.familyId ∧ new.token = old.token ∧ new.depositToken = old.depositToken ∧
    new.rotationPk = old.rotationPk

variable {change : Change}

theorem adds_of_sameFamily {t t' : Families}
    (h : ∀ row ∈ t'.rows, ∃ old ∈ t.rows, SameFamily old row) : Adds P change t t' := by
  intro row hrow
  obtain ⟨old, hold, _, htoken, hdeposit, _⟩ := h row hrow
  exact .inl ⟨old, hold, htoken, hdeposit⟩

theorem adds_refl (t : Families) : Adds P change t t :=
  adds_of_sameFamily fun row hrow => ⟨row, hrow, rfl, rfl, rfl, rfl⟩

theorem adds_rotate (s : RelayStore) (currentToken : Bytes) (request : RotateFamilyRequest) :
    Adds P (.rotate currentToken request) s.families
      (rotateFamily P config s currentToken request).2.families := by
  rcases rotateFamily_cases P config s currentToken request with ⟨hsame, _⟩ |
    ⟨newToken, authority, family, n, s', response, hcheck, hcall, _, _, _, hnext⟩
  · rw [hsame]
    exact adds_refl _
  obtain hresult | ⟨hheld, hne, hfree, hrows, hlast, hfamilies, hfamily⟩ := rotated_of_ok P hcall
  · exact absurd rfl (hresult _ _)
  rw [hnext]
  intro row hrow
  rw [hfamilies] at hrow
  obtain ⟨old, hold, rfl⟩ := mem_map.mp hrow
  unfold rekeyed
  split
  · obtain ⟨hnamed, hplain⟩ := checkRotation_eq_ok hcheck
    exact .inr ⟨hnamed, hplain, rfl⟩
  · exact .inl ⟨old, hold, rfl, rfl⟩

variable {idOrToken : Bytes}

theorem sameFamily_patch {request : PatchFamilyRequest} :
    ∀ row ∈ (committed s (adminPatchFamily s idOrToken request)).families.rows,
      ∃ old ∈ s.families.rows, SameFamily old row := by
  intro row hrow
  cases hcall : adminPatchFamily s idOrToken request with
  | error e =>
    rw [hcall] at hrow
    exact ⟨row, hrow, rfl, rfl, rfl, rfl⟩
  | ok answer =>
    rw [hcall] at hrow
    obtain ⟨status, _, hcall⟩ := bind_eq_ok.mp hcall
    obtain ⟨_, _, hcall⟩ := bind_eq_ok.mp hcall
    obtain ⟨held, _, hcall⟩ := bind_eq_ok.mp hcall
    obtain ⟨row', _, hcall⟩ := bind_eq_ok.mp hcall
    cases hcall
    obtain ⟨old, hold, rfl⟩ := mem_map.mp hrow
    refine ⟨old, hold, ?_⟩
    split <;> exact ⟨rfl, rfl, rfl, rfl⟩

theorem sameFamily_delete : ∀ row ∈ (committed s (adminDeleteFamily s idOrToken)).families.rows,
      ∃ old ∈ s.families.rows, SameFamily old row := by
  intro row hrow
  refine ⟨row, ?_, rfl, rfl, rfl, rfl⟩
  cases hcall : adminDeleteFamily s idOrToken with
  | error e => rwa [hcall] at hrow
  | ok answer =>
    rw [hcall] at hrow
    obtain ⟨held, _, hcall⟩ := bind_eq_ok.mp hcall
    obtain ⟨_, _, hcall⟩ := bind_eq_ok.mp hcall
    cases hcall
    exact (mem_filter.mp hrow).1

variable (P config) in
theorem adds_next (s : RelayStore) (change : Change) :
    Adds P change s.families (change.next P config s).families := by
  cases change with
  | rotate currentToken request => exact adds_rotate s currentToken request
  | provision request nowMs mintedId =>
    cases hcall : adminProvisionFamily P config s request nowMs mintedId with
    | error e =>
      rw [Change.next, hcall]
      exact adds_refl _
    | ok answer =>
      obtain ⟨row, s'⟩ := answer
      obtain ⟨hnamed, hplain, hdeposit, hrows, _⟩ := adminProvisionFamily_eq_ok hcall
      rw [Change.next, hcall]
      intro other hother
      have hother : other ∈ upsert FamilyRow.token row s.families.rows := hrows ▸ hother
      rcases mem_upsert hother with hold | rfl
      · exact .inl ⟨other, hold, rfl, rfl⟩
      · exact .inr ⟨hnamed, hplain, hdeposit⟩
  | patch idOrToken request => exact adds_of_sameFamily sameFamily_patch
  | delete idOrToken => exact adds_of_sameFamily sameFamily_delete

theorem wellIssued_next (h : WellIssued P s.families) (change : Change) :
    WellIssued P (change.next P config s).families := by
  intro row hrow
  rcases adds_next P config s change row hrow with ⟨old, hold, htoken, hdeposit⟩ | ⟨_, hplain, hdeposit⟩
  · rw [htoken, hdeposit]
    exact h old hold
  · exact ⟨hplain, hdeposit⟩

/-- A token that nobody has and the request does not name is nobody's after it. -/
theorem absent_next {token : Bytes} (habsent : ∀ row ∈ s.families.rows, row.token ≠ token)
    (hnot : ¬ change.Names token) :
    ∀ row ∈ (change.next P config s).families.rows, row.token ≠ token := by
  intro row hrow htoken
  rcases adds_next P config s change row hrow with ⟨old, hold, hsame, _⟩ | ⟨hnamed, _⟩
  · exact habsent old hold (hsame.symm.trans htoken)
  · exact hnot (htoken ▸ hnamed)

/-- A rotation leaves nobody with the old token. -/
theorem absent_of_rotated {currentToken : Bytes} {response : RotateFamilyResponse}
    (hanswer : (rotateFamily P config s currentToken request).1 = .ok response)
    (hrotated : response.rotated = true) :
    (∃ row ∈ s.families.rows, row.token = currentToken) ∧
      ∀ row ∈ ((Change.rotate currentToken request).next P config s).families.rows,
        row.token ≠ currentToken := by
  rcases rotateFamily_cases P config s currentToken request with ⟨_, hno⟩ |
    ⟨newToken, authority, family, n, s', response', hcheck, hcall, _, _, _, hnext⟩
  · rw [hno response hanswer] at hrotated
    cases hrotated
  obtain hresult | ⟨hheld, hne, hfree, hrows, hlast, hfamilies, hfamily⟩ :=
    rotated_of_ok P hcall
  · exact absurd rfl (hresult _ _)
  refine ⟨⟨_, getFamily_eq_some.mp hheld⟩, fun row hrow => ?_⟩
  rw [Change.next, hnext, hfamilies] at hrow
  obtain ⟨old, hold, rfl⟩ := mem_map.mp hrow
  unfold rekeyed
  split
  · exact fun h => hne h.symm
  · assumption

/-! ## Histories -/

variable (P) (config) in
/-- The database after the first `n` requests. -/
def storeAt (initial : RelayStore) (changes : List Change) (n : Nat) : RelayStore :=
  stateAt (Change.next P config) initial changes n

section Histories
variable {initial : RelayStore} {changes : List Change}

theorem storeAt_succ {k : Nat} (hchange : changes[k]? = some change) :
    storeAt P config initial changes (k + 1) =
      change.next P config (storeAt P config initial changes k) := by
  obtain ⟨hk, rfl⟩ := List.getElem?_eq_some_iff.mp hchange
  exact stateAt_succ hk

theorem wellIssued_storeAt (hinitial : WellIssued P initial.families) (k : Nat) :
    WellIssued P (storeAt P config initial changes k).families :=
  stateAt_invariant (fun s : RelayStore => WellIssued P s.families)
    (fun _ change h => wellIssued_next h change) hinitial k

end Histories

/-- In every history: after a family has rotated away from a token, neither that token nor
its deposit token resolves again for as long as no request names the token, whatever else is
asked of the relay; and the next provision that names it and passes its checks brings it back.
The hash is taken to have no collision with it among the tokens of the history. -/
theorem superseded_dead_unless_named (initial : RelayStore) (changes : List Change)
    (hinitial : WellIssued P initial.families) {n m : Nat} {token : Bytes}
    {request : RotateFamilyRequest} {response : RotateFamilyResponse}
    (hrotate : changes[n]? = some (.rotate token request))
    (hanswer : (rotateFamily P config (storeAt P config initial changes n) token request).1 =
      .ok response)
    (hrotated : response.rotated = true)
    (hhash : ∀ k ≤ m, ∀ row ∈ (storeAt P config initial changes k).families.rows,
      depositHash P row.token = depositHash P token → row.token = token)
    (hnot : ∀ k, n < k → k < m → ∀ change, changes[k]? = some change → ¬ change.Names token) :
    (∀ k, n < k → k ≤ m → Dead (storeAt P config initial changes k) token ∧
        Dead (storeAt P config initial changes k) (depositTokenFor P token)) ∧
      ∀ request nowMs mintedId, changes[m]? = some (.provision request nowMs mintedId) →
        trim request.token = token → checkProvisionedToken config token = .ok () →
        validateQuotaBytes request.quotaBytes = .ok () →
        ¬ Dead (storeAt P config initial changes (m + 1)) token := by
  have hwell : ∀ k, WellIssued P (storeAt P config initial changes k).families :=
    wellIssued_storeAt hinitial
  obtain ⟨⟨row, hrow, hcurrent⟩, hgone⟩ := absent_of_rotated hanswer hrotated
  have hplain : Plain token := hcurrent ▸ (hwell n row hrow).1
  rw [← storeAt_succ hrotate] at hgone
  constructor
  · intro k hnk hkm
    -- while nobody names a token that nobody has, nobody has it
    refine (dead_pair_iff (hwell k) hplain (hhash k hkm)).mpr (stateAt_from
      (fun s : RelayStore => ∀ row ∈ s.families.rows, row.token ≠ _) hnk hgone
      fun j change hj hjk hchange ih => ?_)
    exact absent_next ih (hnot j hj (lt_of_lt_of_le hjk hkm) change hchange)
  · rintro request nowMs mintedId hchange rfl hcheck hquota hdead
    obtain ⟨row, hrow, htoken⟩ := provision_leaves (P := P) (storeAt P config initial changes m)
      nowMs mintedId hcheck hquota
    rw [storeAt_succ hchange, Dead, getFamilyByCredential_eq_none] at hdead
    exact (hdead row hrow).1 htoken

/-! ### A lost phone -/

section Example

def hosted : Config where
  adminToken := some (ascii "operator")
  authTokens := []
  familyQuotaBytes := 1000

def oldToken : Bytes := ascii "fam-before-the-revocation"
def newToken : Bytes := ascii "cmfam1-after-the-revocation"

/-- A rotation that the key number 7 signs. -/
def signedRotation (current new : Bytes) : RotateFamilyRequest where
  newToken := new
  rotationPk := some (publicKey (secretKey 7))
  rotationSig := some
    (primitives.sign (secretKey 7) (rotationSignedBytes current new))

/-- The family is provisioned, rotates, and is suspended and renewed under its new token. -/
def rotatedAway : List Change :=
  [.provision { token := oldToken } 0 (ascii "cmfid1-one"),
    .rotate oldToken (signedRotation oldToken newToken),
    .patch (ascii "cmfid1-one") { status := some (ascii "suspended") },
    .provision { token := newToken } 5 (ascii "cmfid1-two")]

theorem superseded_dead_after_renewal :
    (rotateFamily primitives hosted (storeAt primitives hosted {} rotatedAway 1) oldToken
      (signedRotation oldToken newToken)).1 =
        .ok ⟨newToken, depositTokenFor primitives newToken, 0, true⟩ ∧
    ∀ k, 1 < k → k ≤ 4 →
      Dead (storeAt primitives hosted {} rotatedAway k) oldToken ∧
      Dead (storeAt primitives hosted {} rotatedAway k)
        (depositTokenFor primitives oldToken) := by
  have hanswer : (rotateFamily primitives hosted
      (storeAt primitives hosted {} rotatedAway 1) oldToken
      (signedRotation oldToken newToken)).1 =
      .ok ⟨newToken, depositTokenFor primitives newToken, 0, true⟩ := by decide +kernel
  refine ⟨hanswer, (superseded_dead_unless_named {} rotatedAway (fun _ => nofun) rfl hanswer rfl
    (by decide +kernel) ?_).1⟩
  intro k hk hk4 change hchange
  obtain rfl | rfl : k = 2 ∨ k = 3 := by omega
  · cases hchange
    decide +kernel
  · cases hchange
    decide +kernel

/-- The operator's shop posts the token it stored once more, as it does when an answer got
lost: the token that the lost phone holds resolves again, and so does the deposit token on
the old friend cards. -/
theorem reprovision_revives_superseded :
    let s := storeAt primitives hosted {}
      [.provision { token := oldToken } 0 (ascii "cmfid1-one"),
        .rotate oldToken (signedRotation oldToken newToken),
        .provision { token := oldToken } 5 (ascii "cmfid1-two")]
    Dead (s 2) oldToken ∧ Dead (s 2) (depositTokenFor primitives oldToken) ∧
      ¬ Dead (s 3) oldToken ∧ ¬ Dead (s 3) (depositTokenFor primitives oldToken) := by
  decide +kernel

end Example
end CruiseMesh.Relayd
