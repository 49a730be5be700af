import CruiseMesh.Relayd.Credentials

/-!
# Who may move a family

Member and deposit tokens share one lookup, and four requests write them. In every history
a credential belongs to one family at most, in one class. From one request to the next a
family keeps its id, and its token and its rotation key unless it rotates, which takes a
signature over both tokens by the key that is registered or is registered with it.
-/

namespace CruiseMesh.Relayd
open List Table Families RelayStore
variable {P : Primitives} {config : Config} {s s' : RelayStore} {change : Change}

/-- The credential is the token of the class. -/
def FamilyRow.Answers (row : FamilyRow) (credential : Bytes) : TokenClass → Prop
  | .member => row.token = credential
  | .deposit => row.depositToken = credential

/-- The tokens of the table have different hashes. -/
def HashesApart (P : Primitives) (t : Families) : Prop :=
  ∀ a ∈ t.rows, ∀ b ∈ t.rows, depositHash P a.token = depositHash P b.token → a.token = b.token

/-- A credential resolves to the one family that has it, in the class in which it has it. -/
theorem getFamilyByCredential_iff {t : Families} (hissued : WellIssued P t) (hhash : HashesApart P t)
    {credential : Bytes} {row : FamilyRow} {tokenClass : TokenClass} :
    t.getFamilyByCredential credential = some (row, tokenClass) ↔
      row ∈ t.rows ∧ row.Answers credential tokenClass := by
  have happart : ∀ a ∈ t.rows, ∀ b ∈ t.rows, a.token ≠ b.depositToken := by
    intro a ha b hb heq
    rw [(hissued b hb).2, (hissued b hb).1.depositTokenFor_eq] at heq
    exact (hissued a ha).1.not_deposit (heq ▸ prefix_append _ _)
  have hsame : ∀ a ∈ t.rows, ∀ b ∈ t.rows, a.depositToken = b.depositToken → a = b := by
    intro a ha b hb heq
    rw [(hissued a ha).2, (hissued a ha).1.depositTokenFor_eq, (hissued b hb).2,
      (hissued b hb).1.depositTokenFor_eq] at heq
    exact eq_of_key_eq t.unique ha hb
      (hhash a ha b hb (Base64.encode_injective (append_cancel_left heq)))
  unfold getFamilyByCredential
  rw [Option.map_eq_some_iff]
  constructor
  · rintro ⟨found, hfound, hrow⟩
    obtain ⟨hsame, rfl⟩ := Prod.mk.inj hrow
    subst hsame
    rcases Option.or_eq_some_iff.mp hfound with hmember | ⟨_, hdeposit⟩
    · obtain ⟨hmem, htoken⟩ := getFamily_eq_some.mp hmember
      rw [if_pos htoken]
      exact ⟨hmem, htoken⟩
    · have hmem := mem_of_find?_eq_some hdeposit
      have htoken : found.depositToken = credential := by simpa using find?_some hdeposit
      rw [if_neg (htoken ▸ happart found hmem found hmem)]
      exact ⟨hmem, htoken⟩
  · rintro ⟨hmem, hanswers⟩
    cases tokenClass with
    | member =>
      refine ⟨row, Option.or_eq_some_iff.mpr (.inl ?_), by rw [if_pos (show row.token = _ from hanswers)]⟩
      exact getFamily_eq_some.mpr ⟨hmem, hanswers⟩
    | deposit =>
      obtain rfl : row.depositToken = credential := hanswers
      refine ⟨row, Option.or_eq_some_iff.mpr (.inr ⟨?_, ?_⟩), by rw [if_neg (happart row hmem row hmem)]⟩
      · exact lookup_eq_none.mpr fun other hother => happart other hother row hmem
      · cases hfind : t.rows.find? (·.depositToken = row.depositToken) with
        | none => exact absurd (find?_eq_none.mp hfind row hmem) (by simp)
        | some other =>
          have htoken : other.depositToken = row.depositToken := by simpa using find?_some hfind
          rw [hsame other (mem_of_find?_eq_some hfind) row hmem htoken]

/-! ## From one request to the next -/

variable (P) (config) in
/-- What a request may make of a family. -/
inductive Succeeds (s : RelayStore) (change : Change) (old new : FamilyRow) : Prop where
  | kept (hid : new.familyId = old.familyId) (htoken : new.token = old.token)
      (hkey : new.rotationPk = old.rotationPk)
  | rotated (hid : new.familyId = old.familyId) {request : RotateFamilyRequest}
      {authority : RotationAuthority} (hchange : change = .rotate old.token request)
      (hrequest : checkRotation P config request = .ok (new.token, authority))
      (hsigned : verifyRotationSignature P authority.publicKey
        (rotationSignedBytes old.token new.token) authority.signature = true)
      (hheld : ∀ key ∈ old.rotationPk, key = authority.publicKey)
      (hkey : new.rotationPk = some authority.publicKey) (hmoves : new.token ≠ old.token)
      (henvelopes : (change.next P config s).envelopes.rows =
        s.envelopes.rows.map (Envelopes.moved old.token new.token))

/-- The family was provisioned under a token nobody had, and has no key yet. -/
def Provisioned (s : RelayStore) (change : Change) (new : FamilyRow) : Prop :=
  (∃ request nowMs mintedId, change = .provision request nowMs mintedId) ∧
    new.rotationPk = none ∧ ∀ old ∈ s.families.rows, old.token ≠ new.token

theorem checkRotationAuthority_cases (storedPk : Option Bytes) (message : Bytes)
    (authority : RotationAuthority) :
    checkRotationAuthority P storedPk message authority = .refused ∨
      verifyRotationSignature P authority.publicKey message authority.signature = true ∧
        (checkRotationAuthority P storedPk message authority = .register ∧ storedPk = none ∨
          checkRotationAuthority P storedPk message authority = .accepted ∧
            storedPk = some authority.publicKey) := by
  unfold checkRotationAuthority
  cases storedPk with
  | none => cases verifyRotationSignature P authority.publicKey message authority.signature <;> simp
  | some stored =>
    by_cases hstored : stored = authority.publicKey
    · cases verifyRotationSignature P authority.publicKey message authority.signature <;> simp [hstored]
    · exact .inl (if_pos hstored)

/-- A rotation was signed by the key that its family has from then on. -/
theorem signed_of_rotated {currentToken newToken : Bytes} {authority : RotationAuthority}
    {family : FamilyRow} {n : Nat}
    (h : s.rotateFamilyToken P currentToken newToken authority = .ok (.rotated family n, s')) :
    ∃ held inside, s.families.getFamily currentToken = some held ∧
      verifyRotationSignature P authority.publicKey (rotationSignedBytes currentToken newToken)
        authority.signature = true ∧
      (∀ key ∈ held.rotationPk, key = authority.publicKey) ∧
      inside.families.getFamily currentToken =
        some { held with rotationPk := some authority.publicKey } ∧
      moveFamily P s inside currentToken newToken = .ok (.rotated family n, s') := by
  obtain hresult | @⟨_, held, _, _, _, hheld, hne, _, _, _, _, _⟩ := rotated_of_ok P h
  · exact absurd rfl (hresult _ _)
  have htoken : held.token = currentToken := (getFamily_eq_some.mp hheld).2
  unfold rotateFamilyToken at h
  rw [hheld, decide_eq_false hne] at h
  dsimp only at h
  rcases checkRotationAuthority_cases (P := P) held.rotationPk
    (rotationSignedBytes currentToken newToken) authority with hcheck |
    ⟨hsigned, ⟨hcheck, hkey⟩ | ⟨hcheck, hkey⟩⟩
  · rw [hcheck] at h
    cases h
  · rw [hcheck] at h
    refine ⟨held, _, hheld, hsigned, by simp [hkey], ?_, h⟩
    refine (lookup_update ?_ _).trans ((if_pos htoken).trans (congrArg (Option.map _) hheld))
    exact fun _ => rfl
  · rw [hcheck] at h
    refine ⟨held, s, hheld, hsigned, by simp [hkey], ?_, h⟩
    rw [hheld, ← hkey]

theorem origin_rotate {currentToken : Bytes} {request : RotateFamilyRequest} {new : FamilyRow}
    (hnew : new ∈ ((Change.rotate currentToken request).next P config s).families.rows) :
    ∃ old ∈ s.families.rows, Succeeds P config s (.rotate currentToken request) old new := by
  rcases rotateFamily_cases P config s currentToken request with ⟨hsame, _⟩ |
    ⟨newToken, authority, family, n, s', _, hcheck, hcall, _, _, _, hnext⟩
  · rw [Change.next, hsame] at hnew
    exact ⟨new, hnew, .kept rfl rfl rfl⟩
  obtain ⟨held, inside, hheld, hsigned, hkeys, hinside, hmove⟩ := signed_of_rotated hcall
  have hs' : (Change.rotate currentToken request).next P config s = s' := hnext
  obtain hresult | ⟨_, hne, _, hrows, _, hfamilies, hfamily⟩ := rotated_of_ok P hcall
  · exact absurd rfl (hresult _ _)
  rw [hs', hfamilies] at hnew
  obtain ⟨old, hold, rfl⟩ := mem_map.mp hnew
  refine ⟨old, hold, ?_⟩
  by_cases hcurrent : old.token = currentToken
  · -- the row that moved is the one the call answers with
    rcases moveFamily_eq_ok P hmove with ⟨h, _⟩ | ⟨_, _, _, _, _, _, _, hmoved, _⟩
    · cases h
    obtain rfl : old = held :=
      Option.some.inj ((getFamily_eq_some.mpr ⟨hold, hcurrent⟩).symm.trans hheld)
    have hfound : moved currentToken newToken (depositTokenFor P newToken)
        { old with rotationPk := some authority.publicKey } ∈ s'.families.rows :=
      hmoved ▸ mem_map_of_mem (getFamily_eq_some.mp hinside).1
    have hrow := eq_of_key_eq s'.families.unique (hfamilies ▸ hnew) hfound
      (by simp [rekeyed, moved, hcurrent])
    subst hcurrent
    rw [hrow, moved, if_pos rfl]
    exact .rotated rfl rfl hcheck hsigned hkeys rfl hne.symm (hs' ▸ hrows)
  · rw [rekeyed, if_neg hcurrent]
    exact .kept rfl rfl rfl

/-- In every history of requests, whatever envelopes the families hold: a credential resolves to one family at most and in the
right class, a deposit token is the one derived from the member token, and the next request
keeps every family's id, token and key or rotates it with the right signature, together
with its envelopes and no others. -/
theorem credential_namespace_and_authority (initial : RelayStore)
    (hinitial : WellIssued P initial.families) (changes : List Change) (n : Nat)
    (hhash : HashesApart P (storeAt P config initial changes n).families) :
    let s := storeAt P config initial changes n
    (∀ credential row tokenClass,
      s.families.getFamilyByCredential credential = some (row, tokenClass) ↔
        row ∈ s.families.rows ∧ row.Answers credential tokenClass) ∧
    (∀ row ∈ s.families.rows, row.depositToken = depositTokenFor P row.token) ∧
    ∀ change, changes[n]? = some change →
      ∀ new ∈ (storeAt P config initial changes (n + 1)).families.rows,
        (∃ old ∈ s.families.rows, Succeeds P config s change old new) ∨ Provisioned s change new := by
  intro s
  have hissued : WellIssued P s.families := wellIssued_storeAt hinitial n
  refine ⟨fun _ _ _ => getFamilyByCredential_iff hissued hhash, fun row hrow => (hissued row hrow).2,
    fun change hchange new hnew => ?_⟩
  rw [storeAt_succ hchange] at hnew
  cases change with
  | rotate currentToken request => exact .inl (origin_rotate hnew)
  | provision request nowMs mintedId =>
    rw [Change.next] at hnew
    cases hcall : adminProvisionFamily P config s request nowMs mintedId with
    | error e =>
      rw [hcall] at hnew
      exact .inl ⟨new, hnew, .kept rfl rfl rfl⟩
    | ok answer =>
      obtain ⟨row, s'⟩ := answer
      obtain ⟨_, _, _, hrows, hheld⟩ := adminProvisionFamily_eq_ok hcall
      rw [hcall] at hnew
      have hnew : new ∈ upsert FamilyRow.token row s.families.rows := hrows ▸ hnew
      rcases mem_upsert hnew with hold | rfl
      · exact .inl ⟨new, hold, .kept rfl rfl rfl⟩
      split at hheld
      · rename_i held hfound
        obtain ⟨hmem, htoken⟩ := getFamily_eq_some.mp hfound
        exact .inl ⟨held, hmem, .kept hheld.1 htoken.symm hheld.2⟩
      · rename_i hfree
        exact .inr ⟨⟨_, _, _, rfl⟩, hheld, lookup_eq_none.mp hfree⟩
  | patch idOrToken request =>
    obtain ⟨old, hold, hid, htoken, _, hkey⟩ := sameFamily_patch new hnew
    exact .inl ⟨old, hold, .kept hid htoken hkey⟩
  | delete idOrToken =>
    obtain ⟨old, hold, hid, htoken, _, hkey⟩ := sameFamily_delete new hnew
    exact .inl ⟨old, hold, .kept hid htoken hkey⟩

def otherToken : Bytes := ascii "fam-next-door"

/-- Two families, with envelopes of both. -/
def twoFamilies : RelayStore :=
  { storeAt Sample.primitives hosted {} [.provision { token := oldToken } 0 (ascii "cmfid1-one"),
      .provision { token := otherToken } 0 (ascii "cmfid1-two")] 2 with
    envelopes := ⟨[⟨1, oldToken, [1], 0, [], [5], 9, 0, []⟩, ⟨2, otherToken, [1], 0, [], [6], 9, 0, []⟩,
      ⟨3, oldToken, [2], 0, [], [7], 9, 0, []⟩], 3, by decide, by decide, by decide⟩ }

theorem credential_namespace_and_authority_rotated :
    let rotation := Change.rotate oldToken (signedRotation oldToken newToken)
    let s := storeAt Sample.primitives hosted twoFamilies [rotation]
    HashesApart Sample.primitives (s 0).families ∧
      (s (0 + 1)).envelopes.rows.map (·.familyToken) = [newToken, otherToken, newToken] ∧
      ∀ change, [rotation][0]? = some change → ∀ new ∈ (s (0 + 1)).families.rows,
        (∃ old ∈ (s 0).families.rows, Succeeds Sample.primitives hosted (s 0) change old new) ∨
          Provisioned (s 0) change new := by
  have hempty : WellIssued Sample.primitives ({} : RelayStore).families := fun _ => nofun
  have hissued : WellIssued Sample.primitives twoFamilies.families := by
    dsimp only [twoFamilies]
    exact wellIssued_storeAt hempty 2
  have hhash : HashesApart Sample.primitives (storeAt Sample.primitives hosted twoFamilies
      [.rotate oldToken (signedRotation oldToken newToken)] 0).families := by
    unfold HashesApart
    decide +kernel
  exact ⟨hhash, by decide +kernel,
    (credential_namespace_and_authority twoFamilies hissued _ 0 hhash).2.2⟩

end CruiseMesh.Relayd
