import CruiseMesh.Roster.Document

/-!
# An executable instance of the primitives

A polynomial digest in place of BLAKE2b, a keyed digest in place of Ed25519 and a
plaintext behind its recipient's key in place of a box, so that the model can be run. It is no cryptography:
anyone can compute the "signature" of a public key. It behaves as the real primitives do
wherever nobody forges.
-/

namespace CruiseMesh.Sample
open Wire

def digest (width : Nat) (bytes : Bytes) : Bytes :=
  beBytes width (bytes.foldl (fun acc b => (acc * 1000003 + b.toNat + 1) % 2 ^ 521) 5381)

def publicKey (secret : Bytes) : Bytes := digest keyLen (ascii "public" ++ secret)

def keyedDigest (signPk message : Bytes) : Bytes := digest signatureLen (signPk ++ message)

def agreeKey (secret : Bytes) : Bytes := digest keyLen (ascii "agree" ++ secret)

/-- The plaintext of a box that carries the recipient's public key. -/
def openBox (secret ciphertext : Bytes) : Option Bytes :=
  if ciphertext.take keyLen = agreeKey secret then some (ciphertext.drop keyLen) else none

def primitives : Primitives where
  blake2b := digest
  verifyingKey := publicKey
  sign secret message := keyedDigest (publicKey secret) message
  isVerifyingKey _ := true
  verify signPk message signature := signature == keyedDigest signPk message
  agreePublicKey := agreeKey
  boxSeal recipientPk _ _ plaintext := recipientPk ++ plaintext
  boxOpen _ secret _ ciphertext := openBox secret ciphertext
  blake2b_length _ _ := beBytes_length _ _
  verifyingKey_length _ := beBytes_length _ _
  sign_length _ _ := beBytes_length _ _
  isVerifyingKey_verifyingKey _ := rfl
  verify_sign _ _ := beq_self_eq_true _
  agreePublicKey_length _ := beBytes_length _ _
  boxOpen_boxSeal sk _ _ plaintext := by
    have hlen : (agreeKey sk).length = keyLen := beBytes_length _ _
    simp [openBox, List.take_left' hlen, List.drop_left' hlen]

/-- The secret key number `n`. -/
def secretKey (n : Nat) : Bytes := beBytes keyLen n

def personRoot : Bytes := publicKey (secretKey 1)
def person : Bytes := primitives.deriveUserId personRoot
def deviceKey : Bytes := publicKey (secretKey 2)
def otherDeviceKey : Bytes := publicKey (secretKey 3)

/-- A certificate for `signPk`, signed with the secret key `signer`. -/
def certBy (signer signPk : Bytes) (epoch : Nat) (flags : UInt32) : DeviceCert :=
  DeviceCert.signedBy primitives
    { personId := person, deviceSignPk := signPk, deviceAgreePk := secretKey 9,
      addedEpoch := epoch, flags, signerSignPk := [], signature := [] } signer

/-- The person's first roster, made by the root for the first device. -/
def firstRoster : Roster :=
  Roster.signedBy primitives
    { personId := person, recoveryEpoch := 0, seq := 0,
      devices := [certBy (secretKey 1) deviceKey 0 1], tombstones := [],
      approvingDeviceId := primitives.deriveUserId deviceKey, inboxKeyGeneration := 0,
      signerSignPk := [], signature := [] } (secretKey 1)

/-- The first device links a second one. -/
def pairRoster : Roster :=
  Roster.signedBy primitives
    { firstRoster with
      seq := 1
      devices := firstRoster.devices ++ [certBy (secretKey 2) otherDeviceKey 0 0] } (secretKey 2)

/-- The first device revokes the second one. -/
def revokedRoster : Roster :=
  Roster.signedBy primitives
    { pairRoster with
      seq := 2, devices := firstRoster.devices,
      tombstones := [⟨primitives.deriveUserId otherDeviceKey, 2⟩],
      inboxKeyGeneration := 1 } (secretKey 2)

end CruiseMesh.Sample
