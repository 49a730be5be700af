import CruiseMesh.Relay.Endpoint
import CruiseMesh.Routing.Hints

/-!
# What the kinds of inbound mail carry

One decoder for each kind of body that has a structure of its own: a relay change, a LAN
address, a profile, a friend request with the card it may have been introduced by, a friend
directory and the metadata of a group. (Receipts, rosters and group invites stand with the
message bodies, the rosters and the sync records.)

Reading JSON, base64 and an address literal is the business of `serde_json`, `data_encoding`
and the standard library; `InboundReaders` has what they return. Everything the core checks
after that is here, with the texts of its errors.
-/

namespace CruiseMesh
open Wire

/-! ## Relay changes -/

def relayUpdateVersion : Nat := 1
def relayUpdateMaxUrlBytes : Nat := 512
def relayUpdateMaxTokenBytes : Nat := 256
def relayUpdateMaxSubjectBytes : Nat := 64

variable (truncated : Nat → Nat → CoreError)

def readRelayUpdateContent : Reader CoreError RelayUpdateContent := do
  let version ← takeNat truncated 1
  refuseWhen (version ≠ relayUpdateVersion)
    (CoreError.malformed ("unknown relay-update version: " ++ toString version))
  let subjectUserId ← takePrefixed truncated 2
  refuseWhen (subjectUserId = [] ∨ relayUpdateMaxSubjectBytes < subjectUserId.length)
    (CoreError.malformed "relay update subject user id is out of range")
  let relayEpoch ← takeInt truncated 8
  let relayUrl ← takePrefixed truncated 2
  refuseWhen (relayUpdateMaxUrlBytes < relayUrl.length) (CoreError.malformed (
    "relay update url exceeds " ++ toString relayUpdateMaxUrlBytes ++ " bytes"))
  let relayToken ← takePrefixed truncated 2
  refuseWhen (relayUpdateMaxTokenBytes < relayToken.length) (CoreError.malformed (
    "relay update token exceeds " ++ toString relayUpdateMaxTokenBytes ++ " bytes"))
  pure { subjectUserId, relayEpoch, relayUrl, relayToken }

variable (bytes : Bytes)

/-- `decode_relay_update_content`. -/
def decodeRelayUpdateContent : Except CoreError RelayUpdateContent := do
  let content ← readAll wireTrailing (readRelayUpdateContent (wireTruncated bytes.length)) bytes
  requireUtf8 "" content.relayUrl
  requireUtf8 "" content.relayToken
  validateRelayUpdateCredential content.relayUrl content.relayToken
  pure content

/-! ## LAN addresses -/

structure LanEndpointContent where
  instanceToken : Bytes
  networkId : Bytes
  host : Bytes
  port : Nat
  expiresAtMs : Int
deriving DecidableEq

/-- `IpAddr`: four octets, or the eight segments of version 6, the first of them apart. -/
inductive IpAddr where
  | v4 (a b c d : UInt8)
  | v6 (first : UInt16) (rest : List UInt16)

def lanEndpointContentVersion : Nat := 1
def lanInstanceTokenLen : Nat := 8
def maxLanHostBytes : Nat := 255
def maxLanHostZoneBytes : Nat := 32
def maxLanNetworkIdBytes : Nat := 32

/-- `is_local_ipv4`: the private ranges, the self-assigned one and the shared one. -/
def isLocalIpv4 (a b : UInt8) : Bool :=
  a = 10 ∨ (a = 172 ∧ 16 ≤ b ∧ b ≤ 31) ∨ (a = 192 ∧ b = 168) ∨ (a = 169 ∧ b = 254) ∨
    (a = 100 ∧ 64 ≤ b ∧ b ≤ 127)

/-- `is_ipv6_link_local`. -/
def isIpv6LinkLocal (first : UInt16) : Bool := first &&& 0xffc0 = 0xfe80

/-- `is_local_ipv6`. -/
def isLocalIpv6 (first : UInt16) : Bool := isIpv6LinkLocal first ∨ first &&& 0xfe00 = 0xfc00

/-- What may follow the `%` of a scoped address. -/
def isPlausibleZone (zone : Bytes) : Bool :=
  zone ≠ [] ∧ zone.length ≤ maxLanHostZoneBytes ∧ ∀ b ∈ zone,
    (0x30 ≤ b ∧ b ≤ 0x39) ∨ (0x41 ≤ b ∧ b ≤ 0x5A) ∨ (0x61 ≤ b ∧ b ≤ 0x7A) ∨
      b ∈ ascii "-_."

/-- `split_once('%')`. -/
def splitZone (host : Bytes) : Bytes × Option Bytes :=
  match host.dropWhile (· ≠ 0x25) with
  | [] => (host, none)
  | _ :: zone => (host.takeWhile (· ≠ 0x25), some zone)

variable (readIpAddr : Bytes → Option IpAddr)

/-- `is_local_lan_host`. -/
def isLocalLanHost (host : Bytes) : Bool :=
  let (literal, zone) := splitZone host
  if zone.any fun zone => ¬ isPlausibleZone zone then false
  else match readIpAddr literal with
    | some (.v4 a b _ _) => zone = none ∧ isLocalIpv4 a b
    | some (.v6 first _) => (zone = none ∨ isIpv6LinkLocal first) ∧ isLocalIpv6 first
    | none => false

/-- `validate_lan_endpoint_fields`. -/
def validateLanEndpointFields (content : LanEndpointContent) : Except CoreError Unit := do
  refuseWhen (content.instanceToken.length ≠ lanInstanceTokenLen) (.malformed (
    "LAN instance token must be " ++ toString lanInstanceTokenLen ++ " bytes"))
  refuseWhen (content.port = 0) (.malformed "LAN endpoint port must be non-zero")
  refuseWhen (content.host = [] ∨ maxLanHostBytes < content.host.length ∨
      ∃ space ∈ whiteSpace, space <:+: content.host)
    (.malformed "LAN endpoint host is empty, too long, or contains whitespace")
  refuseWhen (isLocalLanHost readIpAddr content.host = false)
    (.malformed "LAN endpoint host must be a local network address")

def readLanEndpointContent : Reader CoreError LanEndpointContent := do
  let version ← takeNat truncated 1
  refuseWhen (version ≠ lanEndpointContentVersion)
    (CoreError.malformed ("unsupported LAN endpoint content version: " ++ toString version))
  let instanceToken ← take truncated lanInstanceTokenLen
  let port ← takeNat truncated 2
  let expiresAtMs ← takeInt truncated 8
  let networkIdLen ← takeNat truncated 1
  refuseWhen (maxLanNetworkIdBytes < networkIdLen)
    (CoreError.malformed "LAN network id exceeds 32 bytes")
  let networkId ← take truncated networkIdLen
  let host ← takePrefixed truncated 1
  refuseWhen (Utf8.fault host ≠ none) (CoreError.malformed "LAN endpoint host is not UTF-8")
  pure { instanceToken, networkId, host, port, expiresAtMs }

/-- `decode_lan_endpoint_content`. -/
def decodeLanEndpointContent (bytes : Bytes) : Except CoreError LanEndpointContent := do
  let content ← readAll wireTrailing (readLanEndpointContent (wireTruncated bytes.length)) bytes
  validateLanEndpointFields readIpAddr content
  pure content

/-! ## Profiles -/

structure ProfileSyncContent where
  avatarEpoch : Int
  name : Bytes
  avatar : Bytes
  friendsOfFriendsVersion : UInt8
  friendsOfFriendsEnabled : Bool
  friendsOfFriendsRevision : Nat

def profileSyncVersion : Nat := 2
def profileSyncMaxAvatarBytes : Nat := 64 * 1024
def profileSyncMaxNameBytes : Nat := 128

/-- The switch of the friends-of-friends fields. -/
def enabledOf (wire : Nat) : Except CoreError Bool :=
  if wire = 0 then .ok false else if wire = 1 then .ok true
  else .error (.malformed ("invalid friends-of-friends enabled value: " ++ toString wire))

/-- The friends-of-friends fields, which version 1 does not have. -/
def readDiscovery (version : Nat) : Reader CoreError (UInt8 × Bool × Nat) := do
  if 2 ≤ version then do
    let protocolVersion ← takeNat truncated 1
    let wire ← takeNat truncated 1
    let enabled ← enabledOf wire
    let revision ← takeNat truncated 8
    pure (UInt8.ofNat protocolVersion, enabled, revision)
  else pure (0, false, 0)

def readProfileSyncContent : Reader CoreError ProfileSyncContent := do
  let version ← takeNat truncated 1
  refuseWhen (version ≠ 1 ∧ version ≠ profileSyncVersion)
    (CoreError.malformed ("unknown profile-sync version: " ++ toString version))
  let avatarEpoch ← takeInt truncated 8
  let name ← takePrefixed truncated 2
  refuseWhen (profileSyncMaxNameBytes < name.length) (CoreError.malformed (
    "profile name exceeds " ++ toString profileSyncMaxNameBytes ++ " UTF-8 bytes"))
  requireUtf8 "" name
  let avatarLen ← takeNat truncated 4
  refuseWhen (profileSyncMaxAvatarBytes < avatarLen)
    (CoreError.malformed ("profile avatar too large: " ++ toString avatarLen ++ " bytes"))
  let avatar ← take truncated avatarLen
  let discovery ← readDiscovery truncated version
  pure { avatarEpoch, name, avatar, friendsOfFriendsVersion := discovery.1
         friendsOfFriendsEnabled := discovery.2.1, friendsOfFriendsRevision := discovery.2.2 }

/-- `decode_profile_sync_content`. -/
def decodeProfileSyncContent : Except CoreError ProfileSyncContent :=
  readAll wireTrailing (readProfileSyncContent (wireTruncated bytes.length)) bytes

/-! ## Cards that were shared -/

structure SharedFriendCard where
  version : Nat
  card : FriendCard
  sharerUserId : Bytes
  sharedPolicyRevision : Nat
  issuedAtMs : Int
  expiresAtMs : Int
  signature : Bytes

structure FriendRequestContent where
  card : FriendCard
  shared : Option SharedFriendCard

/-- What `serde_json::Value::get("shared")` finds in a friend request. -/
inductive SharedField where
  | absent
  | text (encoded : Bytes)
  | other

def sharedCardVersion : Nat := 1
def sharedCardLifetimeMs : Int := 7 * msPerDay
def sharedCardClockSkewMs : Int := 24 * 60 * 60 * 1000
def sharedCardSignDomain : Bytes := ascii "CruiseMesh shared contact v1\x00"

/-- `read_binary_slice`, which says nothing about where it stopped. -/
def cardTruncated (_n _pos : Nat) : CoreError := .invalidFriendCard "truncated friend card"

/-- `str::from_utf8` of a card's text. -/
def requireCardUtf8 : Except CoreError Unit :=
  match Utf8.fault bytes with
  | none => .ok ()
  | some fault => .error (.invalidFriendCard (Utf8.describe fault))

/-- `decode_opt_field`. -/
def readOptField : Reader CoreError (Option Bytes) := do
  let flag ← takeNat cardTruncated 1
  if flag = 0 then pure none
  else if flag = 1 then do
    let value ← takePrefixed cardTruncated 2
    requireCardUtf8 value
    pure (some value)
  else throw (.invalidFriendCard ("invalid optional-field flag " ++ toString flag))

def readFriendCardBinary : Reader CoreError FriendCard := do
  let signPk ← take cardTruncated keyLen
  let agreePk ← take cardTruncated keyLen
  let name ← takePrefixed cardTruncated 1
  requireCardUtf8 name
  let relayUrl ← readOptField
  let relayToken ← readOptField
  pure { name, signPk, agreePk, relayUrl, relayToken }

/-- `decode_friend_card_binary`. -/
def decodeFriendCardBinary : Except CoreError FriendCard := do
  let card ← readAll (fun _ => .invalidFriendCard "trailing bytes after friend card")
    readFriendCardBinary bytes
  validateFriendCard card
  pure card

/-- `encode_opt_field`. -/
def optField16 : Option Bytes → Bytes
  | some value => [1] ++ beBytes 2 value.length ++ value
  | none => [0]

/-- `encode_friend_card_binary`. -/
def encodeFriendCardBinary (card : FriendCard) : Except CoreError Bytes := do
  validateFriendCard card
  refuseWhen (255 < card.name.length) (.invalidFriendCard "display name too long to encode")
  pure (card.signPk ++ card.agreePk ++ beBytes 1 card.name.length ++ card.name ++
    optField16 card.relayUrl ++ optField16 card.relayToken)

/-- `shared_card_body_bytes`. -/
def sharedCardBodyBytes (shared : SharedFriendCard) : Except CoreError Bytes := do
  refuseWhen (shared.sharerUserId.length ≠ userIdLen) (.malformed "invalid sharer UserID")
  let cardBinary ← encodeFriendCardBinary shared.card
  refuseWhen (u16Max < cardBinary.length) (.invalidFriendCard "shared card is too large")
  pure (beBytes 1 shared.version ++ beBytes 2 cardBinary.length ++ cardBinary ++
    shared.sharerUserId ++ beBytes 8 shared.sharedPolicyRevision ++ intBytes 8 shared.issuedAtMs ++
    intBytes 8 shared.expiresAtMs)

/-- `validate_shared_card_shape`. -/
def validateSharedCardShape (shared : SharedFriendCard) : Except CoreError Unit := do
  refuseWhen (shared.version ≠ sharedCardVersion)
    (.invalidFriendCard ("unknown shared card version: " ++ toString shared.version))
  validateFriendCard shared.card
  refuseWhen (shared.sharerUserId.length ≠ userIdLen) (.malformed "invalid sharer UserID")
  refuseWhen (shared.signature.length ≠ signatureLen)
    (.malformed "invalid shared card signature length")
  refuseWhen (shared.expiresAtMs ≤ shared.issuedAtMs ∨
      sharedCardLifetimeMs < saturateI64 (shared.expiresAtMs - shared.issuedAtMs))
    (.malformed "invalid shared card validity window")

def readSharedFriendCard : Reader CoreError SharedFriendCard := do
  let version ← takeNat cardTruncated 1
  refuseWhen (version ≠ sharedCardVersion)
    (CoreError.invalidFriendCard ("unknown shared card version: " ++ toString version))
  let cardBinary ← takePrefixed cardTruncated 2
  let card ← decodeFriendCardBinary cardBinary
  let sharerUserId ← take cardTruncated userIdLen
  let sharedPolicyRevision ← takeNat cardTruncated 8
  let issuedAtMs ← takeInt cardTruncated 8
  let expiresAtMs ← takeInt cardTruncated 8
  let signature ← take cardTruncated signatureLen
  pure { version, card, sharerUserId, sharedPolicyRevision, issuedAtMs, expiresAtMs, signature }

/-- `decode_shared_friend_card`. -/
def decodeSharedFriendCard : Except CoreError SharedFriendCard := do
  let shared ← readAll (fun _ => .invalidFriendCard "trailing bytes after shared card")
    readSharedFriendCard bytes
  validateSharedCardShape shared
  pure shared

/-! ## Friend directories -/

structure SuggestedFriendCard where
  name : Bytes
  userId : Bytes
  signPk : Bytes
  agreePk : Bytes

structure IntroductionTicket where
  version : Nat
  introducerUserId : Bytes
  candidateUserId : Bytes
  inviteeUserId : Bytes
  candidatePolicyRevision : Nat
  issuedAtMs : Int
  expiresAtMs : Int
  offerId : Bytes
  signature : Bytes

structure FriendDirectoryEntry where
  candidate : SuggestedFriendCard
  candidatePolicyRevision : Nat
  ticket : IntroductionTicket

structure FriendDirectoryContent where
  version : Nat
  revision : Nat
  entries : List FriendDirectoryEntry

def friendDirectoryVersion : Nat := 1
def friendDirectoryMaxBytes : Nat := 64 * 1024
def friendDirectoryMaxEntries : Nat := 64
def introductionMaxLifetimeMs : Int := 30 * msPerDay
def introductionClockSkewMs : Int := 24 * 60 * 60 * 1000
def introductionTicketDomain : Bytes := ascii "CruiseMesh introduction ticket v1\x00"

/-- `validate_id`. -/
def validateId (label : String) : Except CoreError Unit :=
  refuseWhen (bytes.length ≠ 16) (.malformed (
    "invalid " ++ label ++ " length: expected 16, got " ++ toString bytes.length))

variable (ticket : IntroductionTicket)

/-- The four ids of a ticket. -/
def validateTicketIds : Except CoreError Unit := do
  validateId ticket.introducerUserId "introducer UserID"
  validateId ticket.candidateUserId "candidate UserID"
  validateId ticket.inviteeUserId "invitee UserID"
  validateId ticket.offerId "offer ID"

/-- `validate_ticket_shape`. -/
def validateTicketShape : Except CoreError Unit := do
  refuseWhen (ticket.version ≠ 1)
    (.malformed ("unknown introduction ticket version: " ++ toString ticket.version))
  validateTicketIds ticket
  refuseWhen (ticket.signature.length ≠ signatureLen) (.malformed "invalid ticket signature length")
  refuseWhen (ticket.expiresAtMs ≤ ticket.issuedAtMs ∨
      introductionMaxLifetimeMs < saturateI64 (ticket.expiresAtMs - ticket.issuedAtMs))
    (.malformed "invalid ticket validity window")

/-- `introduction_ticket_bytes`. -/
def introductionTicketBytes : Except CoreError Bytes := do
  validateTicketIds ticket
  pure (introductionTicketDomain ++ beBytes 1 ticket.version ++ ticket.introducerUserId ++
    ticket.candidateUserId ++ ticket.inviteeUserId ++ beBytes 8 ticket.candidatePolicyRevision ++
    intBytes 8 ticket.issuedAtMs ++ intBytes 8 ticket.expiresAtMs ++ ticket.offerId)

/-! ## Group metadata -/

structure GroupMetadataUpdate where
  groupId : Bytes
  name : Bytes
  revision : Nat
  changedBy : Bytes
  memberUserIds : List Bytes
deriving DecidableEq

def groupMetadataVersion : Nat := 1

/-- `validate_group_metadata_update`. -/
def validateGroupMetadataUpdate (update : GroupMetadataUpdate) : Except CoreError Unit := do
  validateGroupId update.groupId
  refuseWhen (update.revision = 0) (.malformed "group metadata revision must be positive")
  validateUserId update.changedBy "group metadata changed_by"
  validateGroupName update.name
  validateMemberUserIds update.memberUserIds

def readGroupMetadataUpdate : Reader CoreError GroupMetadataUpdate := do
  let version ← takeNat truncated 1
  refuseWhen (version ≠ groupMetadataVersion)
    (CoreError.malformed ("unsupported group metadata version " ++ toString version))
  let groupId ← take truncated groupIdLen
  let revision ← takeNat truncated 8
  let changedBy ← takeUserId truncated "group metadata changed_by"
  let name ← takePrefixed truncated 2
  requireUtf8 "group metadata name is not UTF-8: " name
  validateGroupName name
  let count ← takeNat truncated 2
  refuseWhen (maxGroupMembers < count)
    (CoreError.malformed ("group metadata has too many members: " ++ toString count))
  let memberUserIds ← takeMany (takeUserId truncated "group member UserID") count
  pure { groupId, name, revision, changedBy, memberUserIds := canonicalizeMembers memberUserIds }

/-- `decode_group_metadata_update`. -/
def decodeGroupMetadataUpdate : Except CoreError GroupMetadataUpdate := do
  let update ← readAll wireTrailing (readGroupMetadataUpdate (wireTruncated bytes.length)) bytes
  validateGroupMetadataUpdate update
  pure update

/-- The update's name is the later one, by revision and then by who changed it. -/
def GroupMetadataUpdate.nameWins (update : GroupMetadataUpdate) (group : Group) : Prop :=
  group.metadataRevision < update.revision ∨
    group.metadataRevision = update.revision ∧ group.metadataChangedBy < update.changedBy

instance (update : GroupMetadataUpdate) (group : Group) : Decidable (update.nameWins group) :=
  inferInstanceAs (Decidable (_ ∨ _))

/-- `apply_group_metadata_update`: members are only ever added. -/
def applyGroupMetadataUpdate (group : Group) (update : GroupMetadataUpdate) (senderUserId : Bytes) :
    Except CoreError (Option Group) := do
  validateGroup group
  validateGroupMetadataUpdate update
  refuseWhen (update.groupId ≠ group.id)
    (.malformed "group metadata update id does not match group")
  refuseWhen (update.changedBy ≠ senderUserId)
    (.malformed "group metadata signer does not match changed_by")
  refuseWhen (senderUserId ∉ group.memberUserIds)
    (.malformed "group metadata signer is not a member")
  let mergedMembers := canonicalizeMembers (group.memberUserIds ++ update.memberUserIds)
  validateMemberUserIds mergedMembers
  if mergedMembers = group.memberUserIds ∧ ¬ update.nameWins group then pure none
  else pure (some { group with
    name := if update.nameWins group then update.name else group.name
    memberUserIds := mergedMembers
    metadataRevision := if update.nameWins group then update.revision else group.metadataRevision
    metadataChangedBy :=
      if update.nameWins group then update.changedBy else group.metadataChangedBy })

/-! ## Texts that others read -/

/-- What the libraries make of a text. -/
structure InboundReaders where
  /-- `serde_json::from_str` for a friend card. -/
  card : CardReader
  /-- `serde_json::from_str` for a document, and its field `shared`. -/
  shared : Bytes → Except JsonError SharedField
  /-- `serde_json::from_slice` for a friend directory. -/
  directory : Bytes → Except JsonError FriendDirectoryContent
  /-- `BASE64URL_NOPAD.decode`, with the text of its error. -/
  base64 : Bytes → Except String Bytes
  /-- `str::parse::<IpAddr>`. -/
  ipAddr : Bytes → Option IpAddr

section Checked
variable (P : Primitives) (R : InboundReaders)

/-- The `shared` tail of a friend request. -/
def sharedTail : SharedField → Except CoreError (Option SharedFriendCard)
  | .absent => pure none
  | .text encoded => do
    let binary ← (R.base64 encoded).mapError fun detail => .invalidFriendCard detail
    let shared ← decodeSharedFriendCard binary
    pure (some shared)
  | .other => .error (.invalidFriendCard "invalid shared tail")

/-- `parse_friend_request_content`. -/
def parseFriendRequestContent (json : Bytes) : Except CoreError FriendRequestContent := do
  let card ← parseFriendCard P R.card json
  let field ← (R.shared json).mapError fun error =>
    .invalidFriendCard ("invalid friend request JSON: " ++ jsonFault error json.length)
  let shared ← sharedTail R field
  pure { card, shared }

/-- `verifying_key_from_bytes`. -/
def verifyingKeyFromBytes (signPk : Bytes) : Except CoreError Unit := do
  refuseWhen (signPk.length ≠ keyLen) (.invalidKeyLength keyLen signPk.length)
  refuseWhen (P.isVerifyingKey signPk = false) (.crypto "invalid Ed25519 public key")

/-- `verify_shared_friend_card`. -/
def verifySharedFriendCard (shared : SharedFriendCard) (sharerSignPk expectedCardUserId : Bytes)
    (expectedPolicyRevision : Nat) (nowMs : Int) : Except CoreError Bool :=
  if (validateSharedCardShape shared).isOk = false then pure false
  else if P.deriveUserId shared.card.signPk ≠ expectedCardUserId ∨
      P.deriveUserId sharerSignPk ≠ shared.sharerUserId ∨
      shared.sharedPolicyRevision ≠ expectedPolicyRevision ∨
      nowMs < saturateI64 (shared.issuedAtMs - sharedCardClockSkewMs) ∨
      saturateI64 (shared.expiresAtMs + sharedCardClockSkewMs) < nowMs then pure false
  else do
    verifyingKeyFromBytes P sharerSignPk
    refuseWhen (shared.signature.length ≠ signatureLen)
      (.malformed "invalid shared card signature length")
    let body ← sharedCardBodyBytes shared
    pure (P.verify sharerSignPk (sharedCardSignDomain ++ body) shared.signature)

/-- One entry of `validate_friend_directory`. -/
def validateDirectoryEntry (entry : FriendDirectoryEntry) : Except CoreError Unit := do
  validateId entry.candidate.userId "candidate UserID"
  refuseWhen (profileSyncMaxNameBytes < entry.candidate.name.length)
    (.malformed "candidate name is too long")
  refuseWhen (entry.candidate.signPk.length ≠ keyLen ∨ entry.candidate.agreePk.length ≠ keyLen)
    (.malformed "candidate key has invalid length")
  refuseWhen (P.deriveUserId entry.candidate.signPk ≠ entry.candidate.userId)
    (.malformed "candidate UserID does not match signing key")
  validateTicketShape entry.ticket
  refuseWhen (entry.ticket.candidateUserId ≠ entry.candidate.userId ∨
      entry.ticket.candidatePolicyRevision ≠ entry.candidatePolicyRevision)
    (.malformed "directory entry does not match introduction ticket")

/-- `validate_friend_directory`. -/
def validateFriendDirectory (content : FriendDirectoryContent) : Except CoreError Unit := do
  refuseWhen (content.version ≠ friendDirectoryVersion)
    (.malformed ("unknown friend directory version: " ++ toString content.version))
  refuseWhen (friendDirectoryMaxEntries < content.entries.length)
    (.malformed "too many friend directory entries")
  content.entries.forM (validateDirectoryEntry P)

/-- `decode_friend_directory_content`. -/
def decodeFriendDirectoryContent (bytes : Bytes) : Except CoreError FriendDirectoryContent := do
  refuseWhen (friendDirectoryMaxBytes < bytes.length) (.malformed "friend directory is too large")
  let content ← (R.directory bytes).mapError fun error =>
    .malformed ("invalid friend directory: " ++ jsonFault error bytes.length)
  validateFriendDirectory P content
  pure content

/-- `verify_introduction_ticket`. -/
def verifyIntroductionTicket (ticket : IntroductionTicket)
    (introducerSignPk expectedCandidateUserId expectedInviteeUserId : Bytes)
    (expectedCandidatePolicyRevision : Nat) (nowMs : Int) : Except CoreError Bool := do
  validateTicketShape ticket
  if ticket.candidateUserId ≠ expectedCandidateUserId ∨
      ticket.inviteeUserId ≠ expectedInviteeUserId ∨
      ticket.candidatePolicyRevision ≠ expectedCandidatePolicyRevision ∨
      P.deriveUserId introducerSignPk ≠ ticket.introducerUserId ∨
      nowMs < saturateI64 (ticket.issuedAtMs - introductionClockSkewMs) ∨
      saturateI64 (ticket.expiresAtMs + introductionClockSkewMs) < nowMs then pure false
  else do
    verifyingKeyFromBytes P introducerSignPk
    refuseWhen (ticket.signature.length ≠ signatureLen)
      (.malformed "invalid ticket signature length")
    let bytes ← introductionTicketBytes ticket
    pure (P.verify introducerSignPk bytes ticket.signature)

end Checked
end CruiseMesh
