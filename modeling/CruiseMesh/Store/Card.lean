import CruiseMesh.Roster.Document

/-!
# Friend cards

`identity.rs`: the card someone hands out, as JSON. Reading JSON is the business of
`serde_json`, a parameter here: the function from the text to the card, or to the error
it reports. What the core adds are the limits on the fields and the card's signature
over itself, which may be absent but may not be wrong.
-/

namespace CruiseMesh

structure FriendCard where
  name : Bytes
  signPk : Bytes
  agreePk : Bytes
  relayUrl : Option Bytes := none
  relayToken : Option Bytes := none
  signature : Option Bytes := none
  rosterHeadHash : Option Bytes := none

inductive JsonCategory where
  | io
  | syntactic
  | data
  | eof

/-- What `serde_json::Error` tells about a failure. -/
structure JsonError where
  category : JsonCategory
  line : Nat
  column : Nat

/-- `serde_json::from_str` for a friend card. -/
abbrev CardReader : Type := Bytes → Except JsonError FriendCard

def JsonCategory.label : JsonCategory → String
  | .io => "io"
  | .syntactic => "syntax"
  | .data => "data"
  | .eof => "eof"

/-- `json_fault`. -/
def jsonFault (error : JsonError) (len : Nat) : String :=
  if error.line = 0 ∧ error.column = 0 then
    error.category.label ++ " error in " ++ toString len ++ "B"
  else
    error.category.label ++ " error at line " ++ toString error.line ++ " column " ++
      toString error.column ++ " of " ++ toString len ++ "B"

def maxFriendCardJsonBytes : Nat := 16 * 1024
def maxDisplayNameBytes : Nat := 128
def maxRelayUrlBytes : Nat := 2 * 1024
def maxRelayTokenBytes : Nat := 1024
def friendCardSignatureLen : Nat := 64

def friendCardSignDomain : Bytes := ascii "CruiseMesh friend card self-signature v1\x00"

/-- `validate_friend_card`. -/
def validateFriendCard (card : FriendCard) : Except CoreError Unit := do
  refuseWhen (maxDisplayNameBytes < card.name.length) (.invalidFriendCard (
    "display name exceeds " ++ toString maxDisplayNameBytes ++ " UTF-8 bytes"))
  refuseWhen (∃ url ∈ card.relayUrl, maxRelayUrlBytes < url.length)
    (.invalidFriendCard "relay URL is too long")
  refuseWhen (∃ token ∈ card.relayToken, maxRelayTokenBytes < token.length)
    (.invalidFriendCard "relay token is too long")
  refuseWhen (card.signPk.length ≠ keyLen) (.invalidKeyLength keyLen card.signPk.length)
  refuseWhen (card.agreePk.length ≠ keyLen) (.invalidKeyLength keyLen card.agreePk.length)
  refuseWhen (∃ signature ∈ card.signature, signature.length ≠ friendCardSignatureLen)
    .signatureInvalid
  refuseWhen (∃ hash ∈ card.rosterHeadHash, hash.length ≠ rosterHeadHashLen) (.invalidFriendCard (
    "roster head hash must be " ++ toString rosterHeadHashLen ++ " bytes"))

/-- `push_opt_len_prefixed`. -/
def optLenPrefixed : Option Bytes → Bytes
  | none => [0]
  | some bytes => [1] ++ lenPrefixed bytes

/-- `friend_card_signed_bytes`. The roster head is appended only when there is one. -/
def friendCardSignedBytes (card : FriendCard) : Bytes :=
  friendCardSignDomain ++ lenPrefixed card.signPk ++ lenPrefixed card.agreePk ++
    optLenPrefixed card.relayUrl ++ optLenPrefixed card.relayToken ++ lenPrefixed card.name ++
    (card.rosterHeadHash.map lenPrefixed).getD []

section Card
variable (P : Primitives)

/-- `verify_friend_card_self_signature`. A card without a signature is taken as unsigned. -/
def verifyFriendCardSelfSignature (card : FriendCard) : Except CoreError Unit :=
  match card.signature with
  | none => .ok ()
  | some signature => do
    refuseWhen (signature.length ≠ friendCardSignatureLen) .signatureInvalid
    refuseWhen (card.signPk.length ≠ keyLen) (.invalidKeyLength keyLen card.signPk.length)
    refuseWhen (P.isVerifyingKey card.signPk = false) (.crypto "invalid Ed25519 public key")
    refuseWhen (P.verify card.signPk (friendCardSignedBytes card) signature = false)
      .signatureInvalid

/-- `friend_card_from_json`. -/
def friendCardFromJson (readCard : CardReader) (json : Bytes) : Except CoreError FriendCard := do
  refuseWhen (maxFriendCardJsonBytes < json.length) (.invalidFriendCard "friend card is too large")
  let card ← (readCard json).mapError fun error =>
    .invalidFriendCard ("invalid card JSON: " ++ jsonFault error json.length)
  validateFriendCard card
  pure card

/-- `parse_friend_card`. -/
def parseFriendCard (readCard : CardReader) (json : Bytes) : Except CoreError FriendCard := do
  let card ← friendCardFromJson readCard json
  verifyFriendCardSelfSignature P card
  pure card

end Card
end CruiseMesh
