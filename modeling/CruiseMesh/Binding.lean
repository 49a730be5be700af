import CruiseMesh.Crypto
import CruiseMesh.Sample

/-!
# What a signature is bound to

A version-2 transcript frames its domain, the recipient or the group, and the payload; a
version-1 transcript is the bare payload, told from the others by how it begins. So no
two honest signing acts of one key cover the same bytes, and a signature that verifies
says in which context it was made.
-/

namespace CruiseMesh
open Wire List

/-! ## Transcripts -/

section Transcripts
variable {signPk payload payload' domain domain' key key' m : Bytes}
  {binding binding' : SignatureBinding}

theorem writeFramed_eq_ok :
    writeFramed key = .ok m ↔ key.length < 256 ^ 4 ∧ beBytes 4 key.length ++ key = m := by
  simp [writeFramed, bind_eq_ok, pure, Except.pure]

/-- The four parts of a version-2 transcript. -/
theorem bound_eq_ok (h : SignatureBinding.transcript.bound signPk payload domain key = .ok m) :
    domain.length < 256 ^ 4 ∧ key.length < 256 ^ 4 ∧ payload.length < 256 ^ 4 ∧
      m = beBytes 4 domain.length ++ (domain ++ (beBytes 4 key.length ++ (key ++
        (signPk ++ (beBytes 4 payload.length ++ (payload ++ [])))))) := by
  obtain ⟨_, hframed, h⟩ := bind_eq_ok.mp h
  obtain ⟨hdomain, rfl⟩ := writeFramed_eq_ok.mp hframed
  obtain ⟨_, hframed, h⟩ := bind_eq_ok.mp h
  obtain ⟨hkey, rfl⟩ := writeFramed_eq_ok.mp hframed
  obtain ⟨_, hframed, h⟩ := bind_eq_ok.mp h
  obtain ⟨hpayload, rfl⟩ := writeFramed_eq_ok.mp hframed
  refine ⟨hdomain, hkey, hpayload, ?_⟩
  rw [← Except.ok.inj h]
  simp only [append_assoc, append_nil]

theorem bound_inj (h : SignatureBinding.transcript.bound signPk payload domain key = .ok m)
    (h' : SignatureBinding.transcript.bound signPk payload' domain' key' = .ok m) :
    domain = domain' ∧ key = key' ∧ payload = payload' := by
  obtain ⟨hdomain, hkey, hpayload, hm⟩ := bound_eq_ok h
  obtain ⟨hdomain', hkey', hpayload', hm'⟩ := bound_eq_ok h'
  obtain ⟨rfl, hafter⟩ := prefixed_inj hdomain hdomain' (hm.symm.trans hm')
  obtain ⟨rfl, hbody⟩ := prefixed_inj hkey hkey' hafter
  obtain ⟨rfl, _⟩ := prefixed_inj hpayload hpayload' (append_cancel_left hbody)
  exact ⟨rfl, rfl, rfl⟩

/-- A version-2 transcript begins like one. -/
theorem looksLikeBoundTranscript_bound
    (hmem : domain ∈ [pairwiseSignatureDomain, groupSignatureDomain])
    (h : SignatureBinding.transcript.bound signPk payload domain key = .ok m) :
    looksLikeBoundTranscript m = true := by
  obtain ⟨_, _, _, rfl⟩ := bound_eq_ok h
  have hlen : (beBytes 4 domain.length).length = 4 := beBytes_length _ _
  refine any_eq_true.mpr ⟨domain, hmem, ?_⟩
  rw [take_left' hlen, drop_left' hlen, take_left]
  simp

/-- How a transcript begins says whether it is a bare payload. -/
theorem looksLikeBoundTranscript_transcript
    (hplain : binding = .legacy → looksLikeBoundTranscript payload = false)
    (h : binding.transcript signPk payload = .ok m) :
    looksLikeBoundTranscript m = true ↔ binding ≠ .legacy := by
  cases binding with
  | legacy =>
    cases h
    simp [hplain rfl]
  | pairwise => simp [looksLikeBoundTranscript_bound (by simp) h]
  | group => simp [looksLikeBoundTranscript_bound (by simp) h]

/-- One key signs the same bytes only in one context and for one payload. -/
theorem transcript_inj (hplain : binding = .legacy → looksLikeBoundTranscript payload = false)
    (hplain' : binding' = .legacy → looksLikeBoundTranscript payload' = false)
    (h : binding.transcript signPk payload = .ok m)
    (h' : binding'.transcript signPk payload' = .ok m) :
    binding = binding' ∧ payload = payload' := by
  have hsame : binding ≠ .legacy ↔ binding' ≠ .legacy :=
    (looksLikeBoundTranscript_transcript hplain h).symm.trans
      (looksLikeBoundTranscript_transcript hplain' h')
  have happart : pairwiseSignatureDomain ≠ groupSignatureDomain := by decide
  cases binding with
  | legacy =>
    obtain rfl : binding' = .legacy := by simpa using hsame
    exact ⟨rfl, Except.ok.inj (h.trans h'.symm)⟩
  | pairwise key =>
    cases binding' with
    | legacy => simp at hsame
    | pairwise key' =>
      obtain ⟨_, rfl, rfl⟩ := bound_inj h h'
      exact ⟨rfl, rfl⟩
    | group => exact absurd (bound_inj h h').1 happart
  | group key =>
    cases binding' with
    | legacy => simp at hsame
    | pairwise => exact absurd (bound_inj h h').1.symm happart
    | group key' =>
      obtain ⟨_, rfl, rfl⟩ := bound_inj h h'
      exact ⟨rfl, rfl⟩

end Transcripts

/-! ## Signing acts -/

/-- An honest use of a signing key: for a recipient, for a group, or over a bare payload
that does not begin like a version-2 transcript. -/
structure SigningAct where
  sender : Identity
  binding : SignatureBinding
  payload : Bytes
  plain : binding = .legacy → looksLikeBoundTranscript payload = false

/-- The act signs these bytes with this key. -/
def SigningAct.Signs (act : SigningAct) (signPk m : Bytes) : Prop :=
  act.sender.signPk = signPk ∧ act.binding.transcript signPk act.payload = .ok m

/-- The key a signed body names as its sender's. -/
def bodySender (body : Bytes) : Bytes := body.take signPkLen

/-- The signature a signed body carries. -/
def bodySignature (body : Bytes) : Bytes := (body.drop signPkLen).take signatureLen

section Acts
variable (P : Primitives) (acts : Set SigningAct) (honest parts : Set Bytes)

/-- Signatures are ideal: of those an adversary can put into a body, one verifies under an
honest key only for what the key's owner signed. -/
def IdealSignatures : Prop :=
  ∀ signature ∈ parts, ∀ signPk ∈ honest, ∀ m, P.verifyRaw signPk m signature = .ok () →
    ∃ act ∈ acts, act.Signs signPk m

/-- The adversary can put the body together. -/
def Assembled (padded : Bytes) : Prop :=
  ∀ body, unpad padded = .ok body → bodySignature body ∈ parts

/-- The body was signed by the sender it names, in this context and over this payload. -/
def SignedInContext (binding : SignatureBinding) (padded : Bytes) (opened : OpenedMessage) : Prop :=
  ∃ body, unpad padded = .ok body ∧ opened.senderUserId = P.deriveUserId (bodySender body) ∧
    (bodySender body ∈ honest → ∃ act ∈ acts,
      act.sender.signPk = bodySender body ∧ act.binding = binding ∧ act.payload = opened.payload)

/-- What the box of an envelope holds for the reader with this secret. -/
def boxedBody (agreeSk envelope : Bytes) : Option Bytes :=
  let rest := envelope.drop 1
  P.boxOpen (rest.take ephemeralPkLen) agreeSk ((rest.drop ephemeralPkLen).take nonceLen)
    ((rest.drop ephemeralPkLen).drop nonceLen)

variable {P acts honest parts} (hideal : IdealSignatures P acts honest parts)
include hideal

theorem IdealSignatures.signedInContext {padded : Bytes} {binding : SignatureBinding}
    {opened : OpenedMessage} (hparts : Assembled parts padded)
    (h : openSignedPayload P padded binding = .ok opened) :
    SignedInContext P acts honest binding padded opened := by
  obtain ⟨body, hbody, h⟩ := bind_eq_ok.mp h
  obtain ⟨_, _, h⟩ := bind_eq_ok.mp h
  obtain ⟨_, hplain, h⟩ := bind_eq_ok.mp h
  obtain ⟨m, hm, h⟩ := bind_eq_ok.mp h
  obtain ⟨_, hverify, h⟩ := bind_eq_ok.mp h
  cases h
  refine ⟨body, hbody, rfl, fun hhonest => ?_⟩
  obtain ⟨act, hact, hsigner, hsigned⟩ := hideal _ (hparts body hbody) _ hhonest m hverify
  -- The reader's own look-alike test keeps what it takes for a bare payload apart.
  have hbare := fun hlegacy => Bool.eq_false_iff.mpr fun hlike =>
    refuseWhen_eq_ok.mp hplain ⟨hlegacy, hlike⟩
  obtain ⟨hbinding, hpayload⟩ := transcript_inj act.plain hbare hsigned hm
  exact ⟨act, hact, hsigner, hbinding, hpayload⟩

/-- A body that opens was signed by the sender it names in exactly the context it is opened
under. An envelope is opened for the reader's own key, or as a bare payload. -/
theorem opened_in_signed_context :
    (∀ padded binding opened, Assembled parts padded →
      openSignedPayload P padded binding = .ok opened →
      SignedInContext P acts honest binding padded opened) ∧
    (∀ agreeSk envelope opened, openSealedWithAgreeSk P agreeSk envelope = .ok opened →
      ∃ padded, boxedBody P agreeSk envelope = some padded ∧ (Assembled parts padded →
        SignedInContext P acts honest
          (if envelope.headD 0 = envelopeVersionBound then .pairwise (P.agreePublicKey agreeSk)
            else .legacy) padded opened)) := by
  refine ⟨fun _ _ _ => hideal.signedInContext, ?_⟩
  intro agreeSk envelope opened h
  obtain ⟨_, _, h⟩ := bind_eq_ok.mp h
  obtain ⟨_, _, h⟩ := bind_eq_ok.mp h
  obtain ⟨_, hephemeral, h⟩ := bind_eq_ok.mp h
  obtain ⟨_, hsecret, h⟩ := bind_eq_ok.mp h
  obtain ⟨_, rfl⟩ := keyFromBytes_eq_ok.mp hephemeral
  obtain ⟨_, rfl⟩ := keyFromBytes_eq_ok.mp hsecret
  split at h
  · cases h
  · rename_i padded hbox
    exact ⟨padded, hbox, fun hparts => hideal.signedInContext hparts h⟩

end Acts

namespace Sample

def signer : Identity := ⟨[], publicKey (secretKey 1), secretKey 1, [], []⟩

/-- The signer writes to a reader. -/
def boundAct : SigningAct := ⟨signer, .pairwise (agreeKey (secretKey 8)), [9], nofun⟩

/-- And once without saying to whom. -/
def bareAct : SigningAct := ⟨signer, .legacy, [5], fun _ => by decide⟩

/-- The bytes that an act covers. -/
def coveredBy (act : SigningAct) : Bytes :=
  (act.binding.transcript act.sender.signPk act.payload).toOption.getD []

/-- Signatures that number the two acts. -/
def numberedSignature (m : Bytes) : Bytes :=
  replicate signatureLen (if m = coveredBy boundAct then 1 else if m = coveredBy bareAct then 2 else 0)

def actSigner : Primitives :=
  { primitives with
    sign := fun _ m => numberedSignature m
    verify := fun _ m signature => signature == numberedSignature m
    sign_length := fun _ _ => length_replicate
    verify_sign := fun _ _ => beq_self_eq_true _ }

/-- The signatures of the two acts verify for nothing else. -/
theorem actSigner_ideal : IdealSignatures actSigner {boundAct, bareAct} {signer.signPk}
    {replicate signatureLen 1, replicate signatureLen 2} := by
  intro signature hsignature _ hpk m h
  obtain rfl := hpk
  obtain ⟨_, _, h⟩ := bind_eq_ok.mp h
  obtain ⟨_, _, h⟩ := bind_eq_ok.mp h
  obtain ⟨_, _, h⟩ := bind_eq_ok.mp h
  have hsame : signature = numberedSignature m :=
    eq_of_beq (Bool.eq_true_of_not_eq_false (refuseWhen_eq_ok.mp h))
  have hbound : boundAct.Signs signer.signPk (coveredBy boundAct) := ⟨rfl, by decide +kernel⟩
  have hbare : bareAct.Signs signer.signPk (coveredBy bareAct) := ⟨rfl, rfl⟩
  unfold numberedSignature at hsame
  split at hsame
  · rename_i hm
    exact ⟨boundAct, .inl rfl, hm ▸ hbound⟩
  · split at hsame
    · rename_i hm
      exact ⟨bareAct, .inr rfl, hm ▸ hbare⟩
    · rcases hsignature with rfl | rfl
      · exact absurd hsame (by decide)
      · exact absurd hsame (by decide)

/-- What the signer sends to the reader, as a version-2 body. -/
def boundBody : Bytes := padToBucket (signer.signPk ++ replicate signatureLen 1 ++ [9])

def boundEnvelope : Bytes :=
  envelopeVersionBound :: (secretKey 4 ++ (replicate nonceLen 0 ++ (agreeKey (secretKey 8) ++ boundBody)))

/-- A version-2 envelope opens for its reader, and was signed for that reader. -/
theorem nine_signed_for_reader : ∃ opened,
    openSealedWithAgreeSk actSigner (secretKey 8) boundEnvelope = .ok opened ∧ opened.payload = [9] ∧
      SignedInContext actSigner {boundAct, bareAct} {signer.signPk}
        (.pairwise (agreeKey (secretKey 8))) boundBody opened := by
  have hpayload : (openSealedWithAgreeSk actSigner (secretKey 8) boundEnvelope).toOption.map
      (·.payload) = some [9] := by decide +kernel
  have hbox : boxedBody actSigner (secretKey 8) boundEnvelope = some boundBody := by decide +kernel
  have hsignature : (unpad boundBody).toOption.map bodySignature =
      some (replicate signatureLen 1) := by decide +kernel
  cases hopen : openSealedWithAgreeSk actSigner (secretKey 8) boundEnvelope with
  | error e =>
    rw [hopen] at hpayload
    cases hpayload
  | ok opened =>
    rw [hopen] at hpayload
    refine ⟨opened, rfl, Option.some.inj hpayload, ?_⟩
    obtain ⟨padded, hpadded, hsigned⟩ :=
      (opened_in_signed_context actSigner_ideal).2 _ _ _ hopen
    obtain rfl : boundBody = padded := Option.some.inj (hbox.symm.trans hpadded)
    refine hsigned fun body hbody => .inl ?_
    rw [hbody] at hsignature
    exact Option.some.inj hsignature

end Sample
end CruiseMesh
