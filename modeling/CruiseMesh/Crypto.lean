import CruiseMesh.Base

/-!
# Sealing

`crypto.rs`: a payload is signed by its sender, padded to a bucket and boxed to the
recipient's X25519 key. This build seals version 1, whose signature covers the bare
payload, and opens version 2 as well, whose signature is bound to the recipient.

The ephemeral secret and the nonce come from the operating system's generator and are
arguments here. `openSealedWithAgreeSk_legacyEnvelope` is the round
trip.
-/

namespace CruiseMesh
open Wire List

def envelopeVersionLegacy : UInt8 := 1
def envelopeVersionBound : UInt8 := 2

/-- Whether this build seals bound signatures. -/
def sealBoundSignature : Bool := false

def sealEnvelopeVersion : UInt8 :=
  if sealBoundSignature then envelopeVersionBound else envelopeVersionLegacy

def ephemeralPkLen : Nat := 32
def nonceLen : Nat := 24
def padBucket : Nat := 256
def signPkLen : Nat := 32

def pairwiseSignatureDomain : Bytes := ascii "cruisemesh/sealed-body/pairwise/v2"
def groupSignatureDomain : Bytes := ascii "cruisemesh/sealed-body/group/v2"

/-- A person's or a device's key material. -/
structure Identity where
  userId : Bytes
  signPk : Bytes
  signSk : Bytes
  agreePk : Bytes
  agreeSk : Bytes

structure OpenedMessage where
  senderUserId : Bytes
  payload : Bytes

/-- What the generator gives for one box. -/
structure SealEntropy where
  ephemeralSk : Bytes
  nonce : Bytes
  nonce_length : nonce.length = nonceLen

theorem length_zeroNonce : (List.replicate nonceLen (0 : UInt8)).length = nonceLen :=
  length_replicate

/-- What a signature is bound to, beyond the payload itself. -/
inductive SignatureBinding where
  | legacy
  | pairwise (recipientAgreePk : Bytes)
  | group (groupId : Bytes)
deriving DecidableEq

/-- `write_framed`. -/
def writeFramed (field : Bytes) : Except CoreError Bytes := do
  refuseWhen (2 ^ 32 ≤ field.length) (.crypto "signed field too long")
  pure (beBytes 4 field.length ++ field)

/-- The bytes a signature covers. -/
def SignatureBinding.transcript (binding : SignatureBinding) (senderSignPk payload : Bytes) :
    Except CoreError Bytes :=
  match binding with
  | .legacy => .ok payload
  | .pairwise recipientAgreePk => bound pairwiseSignatureDomain recipientAgreePk
  | .group groupId => bound groupSignatureDomain groupId
where
  bound (domain binding : Bytes) : Except CoreError Bytes := do
    let domain ← writeFramed domain
    let binding ← writeFramed binding
    let payload ← writeFramed payload
    pure (domain ++ binding ++ senderSignPk ++ payload)

/-- Whether a payload begins like a version-2 transcript. -/
def looksLikeBoundTranscript (payload : Bytes) : Bool :=
  [pairwiseSignatureDomain, groupSignatureDomain].any fun domain =>
    decide (4 ≤ payload.length) && payload.take 4 == beBytes 4 domain.length &&
      (payload.drop 4).take domain.length == domain

/-- Both domains are short, so the first byte of a version-2 transcript is zero. -/
theorem looksLikeBoundTranscript_of_ne_zero {b : UInt8} {rest : Bytes} (hb : b ≠ 0) :
    looksLikeBoundTranscript (b :: rest) = false := by
  have hpairwise : beBytes 4 pairwiseSignatureDomain.length = [0, 0, 0, 34] := by decide
  have hgroup : beBytes 4 groupSignatureDomain.length = [0, 0, 0, 31] := by decide
  simp [looksLikeBoundTranscript, hpairwise, hgroup, hb]

/-- `pad_to_bucket`: a little-endian length, the data, and zeros up to the bucket. -/
def padToBucket (data : Bytes) : Bytes :=
  let out := leBytes 4 data.length ++ data
  let paddedLen := (out.length + padBucket - 1) / padBucket * padBucket
  out ++ List.replicate (max paddedLen padBucket - out.length) 0

def unpad (data : Bytes) : Except CoreError Bytes := do
  refuseWhen (data.length < 4) (.crypto "padded body too short")
  let len := natOfLe (data.take 4)
  refuseWhen (data.length < 4 + len) (.crypto "corrupt padding length")
  pure ((data.drop 4).take len)

section Sealing
variable (P : Primitives)

/-- `public_key_from_bytes`, `secret_key_from_bytes` and `signing_key_from_bytes`: the
keys are any 32 bytes. -/
def keyFromBytes (bytes : Bytes) : Except CoreError Bytes := do
  refuseWhen (bytes.length ≠ keyLen) (.invalidKeyLength keyLen bytes.length)
  pure bytes

def signAndPad (sender : Identity) (binding : SignatureBinding) (payload : Bytes) :
    Except CoreError Bytes := do
  let signingKey ← keyFromBytes sender.signSk
  let transcript ← binding.transcript sender.signPk payload
  pure (padToBucket (sender.signPk ++ P.sign signingKey transcript ++ payload))

def openSignedPayload (padded : Bytes) (binding : SignatureBinding) :
    Except CoreError OpenedMessage := do
  let signedBody ← unpad padded
  refuseWhen (signedBody.length < signPkLen + signatureLen) (.crypto "signed body too short")
  let senderSignPk := signedBody.take signPkLen
  let signature := (signedBody.drop signPkLen).take signatureLen
  let messagePayload := (signedBody.drop signPkLen).drop signatureLen
  refuseWhen (binding = .legacy ∧ looksLikeBoundTranscript messagePayload = true) .signatureInvalid
  let transcript ← binding.transcript senderSignPk messagePayload
  P.verifyRaw senderSignPk transcript signature
  pure { senderUserId := P.deriveUserId senderSignPk, payload := messagePayload }

/-- `seal_message_as_version`. -/
def sealMessageAsVersion (sender : Identity) (recipientAgreePk payload : Bytes) (version : UInt8)
    (entropy : SealEntropy) : Except CoreError Bytes := do
  let recipientPk ← keyFromBytes recipientAgreePk
  refuseWhen (version ≠ envelopeVersionLegacy ∧ version ≠ envelopeVersionBound)
    (.crypto ("cannot seal envelope version " ++ toString version.toNat))
  let binding := if version = envelopeVersionLegacy then .legacy else .pairwise recipientPk
  let padded ← signAndPad P sender binding payload
  pure (version :: (P.agreePublicKey entropy.ephemeralSk ++ entropy.nonce ++
    P.boxSeal recipientPk entropy.ephemeralSk entropy.nonce padded))

def sealMessage (sender : Identity) (recipientAgreePk payload : Bytes) (entropy : SealEntropy) :
    Except CoreError Bytes :=
  sealMessageAsVersion P sender recipientAgreePk payload sealEnvelopeVersion entropy

/-- `open_sealed_with_agree_sk`. -/
def openSealedWithAgreeSk (agreeSk : Bytes) (envelope : Bytes) : Except CoreError OpenedMessage := do
  refuseWhen (envelope.length < 1 + ephemeralPkLen + nonceLen) (.crypto "envelope too short")
  let version := envelope.headD 0
  refuseWhen (version ≠ envelopeVersionLegacy ∧ version ≠ envelopeVersionBound)
    (.crypto ("unsupported envelope version " ++ toString version.toNat ++
      " (this client opens 1 and 2)"))
  let rest := envelope.drop 1
  let ephemeralPk ← keyFromBytes (rest.take ephemeralPkLen)
  let nonce := (rest.drop ephemeralPkLen).take nonceLen
  let ciphertext := (rest.drop ephemeralPkLen).drop nonceLen
  let recipientSk ← keyFromBytes agreeSk
  match P.boxOpen ephemeralPk recipientSk nonce ciphertext with
  | none => .error (.crypto "open failed")
  | some padded =>
    openSignedPayload P padded
      (if version = envelopeVersionBound then .pairwise (P.agreePublicKey recipientSk) else .legacy)

end Sealing

/-! ## The round trip -/

theorem keyFromBytes_eq_ok {bytes key : Bytes} :
    keyFromBytes bytes = .ok key ↔ bytes.length = keyLen ∧ bytes = key := by
  simp [keyFromBytes, bind_eq_ok, pure, Except.pure]

variable {data : Bytes} {sender : Identity} {recipientPk payload : Bytes} {entropy : SealEntropy}
  {sk : Bytes}

/-- A body behind its length comes back, whatever follows it. -/
theorem unpad_framed {zeros : Bytes} (h : data.length < 2 ^ 32) :
    unpad (leBytes 4 data.length ++ data ++ zeros) = .ok data := by
  have hlen : (leBytes 4 data.length).length = 4 := by simp [leBytes]
  have htake : (leBytes 4 data.length ++ data ++ zeros).take 4 = leBytes 4 data.length := by
    rw [append_assoc, take_left' hlen]
  have hdrop : (leBytes 4 data.length ++ data ++ zeros).drop 4 = data ++ zeros := by
    rw [append_assoc, drop_left' hlen]
  have hread : natOfLe (leBytes 4 data.length) = data.length := by
    rw [natOfLe_leBytes]
    exact Nat.mod_eq_of_lt h
  have hlong : (leBytes 4 data.length ++ data ++ zeros).length =
      4 + data.length + zeros.length := by
    rw [length_append, length_append, hlen]
  unfold unpad
  simp only [htake, hread, hdrop, take_left]
  rw [refuseWhen_neg (by omega), refuseWhen_neg (by omega)]
  rfl

theorem unpad_padToBucket (h : data.length < 2 ^ 32) :
    unpad (padToBucket data) = .ok data := unpad_framed h

variable {P : Primitives}

/-- The body of a version-1 envelope. -/
def legacyBody (P : Primitives) (sender : Identity) (payload : Bytes) : Bytes :=
  sender.signPk ++ P.sign sender.signSk payload ++ payload

/-- A version-1 envelope. -/
def legacyEnvelope (P : Primitives) (sender : Identity) (recipientPk payload : Bytes)
    (entropy : SealEntropy) : Bytes :=
  envelopeVersionLegacy :: (P.agreePublicKey entropy.ephemeralSk ++ entropy.nonce ++
    P.boxSeal recipientPk entropy.ephemeralSk entropy.nonce
      (padToBucket (legacyBody P sender payload)))

/-- Sealing succeeds exactly when the two keys have the right width. -/
theorem sealMessage_eq_ok {out : Bytes} :
    sealMessage P sender recipientPk payload entropy = .ok out ↔
      recipientPk.length = keyLen ∧ sender.signSk.length = keyLen ∧
        legacyEnvelope P sender recipientPk payload entropy = out := by
  simp [sealMessage, sealMessageAsVersion, signAndPad, bind_eq_ok, keyFromBytes_eq_ok,
    sealEnvelopeVersion, sealBoundSignature, SignatureBinding.transcript, pure, Except.pure,
    legacyEnvelope, legacyBody]

/-- What a sender signed opens, unless it looks like a version-2 transcript. -/
theorem openSignedPayload_legacy (hpair : sender.signPk = P.verifyingKey sender.signSk)
    (hshort : payload.length + (signPkLen + signatureLen) < 2 ^ 32)
    (hplain : looksLikeBoundTranscript payload = false) :
    openSignedPayload P (padToBucket (legacyBody P sender payload)) .legacy =
      .ok ⟨P.deriveUserId sender.signPk, payload⟩ := by
  have hpk : sender.signPk.length = signPkLen := by rw [hpair]; exact P.verifyingKey_length _
  have hsig : (P.sign sender.signSk payload).length = signatureLen := P.sign_length _ _
  have hlen : (legacyBody P sender payload).length =
      signPkLen + signatureLen + payload.length := by
    simp [legacyBody, hpk, hsig, Nat.add_assoc]
  have htake : (legacyBody P sender payload).take signPkLen = sender.signPk := by
    rw [legacyBody, append_assoc, take_left' hpk]
  have hdrop : (legacyBody P sender payload).drop signPkLen =
      P.sign sender.signSk payload ++ payload := by
    rw [legacyBody, append_assoc, drop_left' hpk]
  unfold openSignedPayload
  rw [unpad_padToBucket (by omega)]
  show (do refuseWhen _ _; _) = _
  rw [refuseWhen_neg (by omega), htake, hdrop, take_left' hsig, drop_left' hsig,
    hpair]
  simp only [hplain, SignatureBinding.transcript, Bool.false_eq_true, and_false]
  rw [refuseWhen_neg not_false]
  show (do P.verifyRaw _ _ _; _) = _
  rw [P.verifyRaw_sign]
  rfl

/-- Opening a version-1 envelope is opening the box in it. -/
theorem openSealedWithAgreeSk_box :
    openSealedWithAgreeSk P sk (legacyEnvelope P sender recipientPk payload entropy) =
      (keyFromBytes sk).bind fun sk =>
        match P.boxOpen (P.agreePublicKey entropy.ephemeralSk) sk entropy.nonce
          (P.boxSeal recipientPk entropy.ephemeralSk entropy.nonce
            (padToBucket (legacyBody P sender payload))) with
        | none => .error (.crypto "open failed")
        | some padded => openSignedPayload P padded .legacy := by
  have hephemeral : (P.agreePublicKey entropy.ephemeralSk).length = ephemeralPkLen :=
    P.agreePublicKey_length _
  have hnonce := entropy.nonce_length
  have hlong : ¬ (legacyEnvelope P sender recipientPk payload entropy).length <
      1 + ephemeralPkLen + nonceLen := by
    simp only [legacyEnvelope, length_cons, length_append, hephemeral, hnonce]
    omega
  unfold openSealedWithAgreeSk
  rw [refuseWhen_neg hlong]
  simp only [legacyEnvelope, headD_cons, drop_succ_cons, drop_zero,
    append_assoc, take_left' hephemeral, drop_left' hephemeral,
    take_left' hnonce, drop_left' hnonce]
  rw [refuseWhen_neg (by simp), keyFromBytes_eq_ok.mpr ⟨P.agreePublicKey_length _, rfl⟩]
  rfl

/-- What was sealed to a key opens with its secret, to the sender and the payload. -/
theorem openSealedWithAgreeSk_legacyEnvelope (hsk : sk.length = keyLen)
    (hpair : sender.signPk = P.verifyingKey sender.signSk)
    (hshort : payload.length + (signPkLen + signatureLen) < 2 ^ 32)
    (hplain : looksLikeBoundTranscript payload = false) :
    openSealedWithAgreeSk P sk (legacyEnvelope P sender (P.agreePublicKey sk) payload entropy) =
      .ok ⟨P.deriveUserId sender.signPk, payload⟩ := by
  rw [openSealedWithAgreeSk_box, keyFromBytes_eq_ok.mpr ⟨hsk, rfl⟩]
  show (match P.boxOpen _ _ _ _ with | none => _ | some padded => _) = _
  rw [P.boxOpen_boxSeal]
  exact openSignedPayload_legacy hpair hshort hplain

/-! ## Symbolic boxes -/

/-- A box opens with the key it was sealed to and with no other. -/
def SymbolicBoxes (P : Primitives) : Prop :=
  ∀ sk sk' ephemeral nonce plaintext opened,
    P.boxOpen (P.agreePublicKey ephemeral) sk' nonce
      (P.boxSeal (P.agreePublicKey sk) ephemeral nonce plaintext) = some opened →
    P.agreePublicKey sk' = P.agreePublicKey sk

/-- What opens an envelope is the key it was sealed to. -/
theorem SymbolicBoxes.key_of_open (hbox : SymbolicBoxes P) {sk' : Bytes} {opened : OpenedMessage}
    (h : openSealedWithAgreeSk P sk'
      (legacyEnvelope P sender (P.agreePublicKey sk) payload entropy) = .ok opened) :
    sk'.length = keyLen ∧ P.agreePublicKey sk' = P.agreePublicKey sk := by
  rw [openSealedWithAgreeSk_box] at h
  obtain ⟨key, hkey, h⟩ := bind_eq_ok.mp h
  obtain ⟨hlen, rfl⟩ := keyFromBytes_eq_ok.mp hkey
  refine ⟨hlen, ?_⟩
  cases hopen : P.boxOpen (P.agreePublicKey entropy.ephemeralSk) sk' entropy.nonce
      (P.boxSeal (P.agreePublicKey sk) entropy.ephemeralSk entropy.nonce
        (padToBucket (legacyBody P sender payload))) with
  | none =>
    rw [hopen] at h
    cases h
  | some padded => exact hbox sk sk' _ _ _ padded hopen

end CruiseMesh
