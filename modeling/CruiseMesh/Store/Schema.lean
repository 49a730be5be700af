import CruiseMesh.Sync.Record

/-!
# The message store's tables

One record with a list of rows for each table the model uses, in the order of
insertion. A `u64` counter is stored by the source as the `i64` with the same bits
and read back the same way, so the rows hold the counters themselves; a nullable
column is an `Option`. A table that holds one row at most is an `Option` too.
-/

namespace CruiseMesh

def msgIdLen : Nat := 16

def receiptTypeDelivered : UInt8 := 1
def receiptTypeRead : UInt8 := 2

/-- `contacts`, without the avatar. A text column is the bytes of its UTF-8 form. -/
structure ContactRow where
  userId : Bytes
  name : Bytes
  signPk : Bytes
  agreePk : Bytes
  relayUrl : Option Bytes := none
  relayToken : Option Bytes := none
  nickname : Option Bytes := none
  relayEpoch : Nat := 0
  relayRejectStreak : Nat := 0
  relayRejectedAt : Int := 0
  relayUnreachableEndpointKey : Option Bytes := none
  relayUnreachableStreak : Nat := 0
  relayUnreachableAt : Int := 0
deriving DecidableEq

/-- `contact_rosters`: the scalars of a contact's roster, its head hash and the
quarantine bit. -/
structure ContactRosterRow where
  personUserId : Bytes
  recoveryEpoch : Nat
  seq : Nat
  approvingDeviceId : Bytes
  inboxKeyGeneration : Nat
  signerSignPk : Bytes
  signature : Bytes
  headHash : Bytes
  quarantined : Bool
deriving DecidableEq

/-- `contact_devices`: one row for each certificate, and one for each tombstone, whose
certificate columns are null. -/
structure ContactDeviceRow where
  personUserId : Bytes
  deviceId : Bytes
  ordinal : Nat
  deviceSignPk : Option Bytes
  deviceAgreePk : Option Bytes
  addedEpoch : Option Nat
  flags : Option UInt32
  signerSignPk : Option Bytes
  signature : Option Bytes
  revokedAtSeq : Option Nat
deriving DecidableEq

/-- `contact_safety_facts`. -/
structure ContactSafetyFactRow where
  id : Nat
  personUserId : Bytes
  reason : Nat
  recoveryEpoch : Nat
  seq : Nat
  deviceIds : Bytes
  acknowledged : Bool
deriving DecidableEq

/-- `own_device_fleet`. -/
structure OwnFleetRow where
  deviceId : Bytes
  ordinal : Nat
  isSelf : Bool
deriving DecidableEq

/-- `own_sync_context`, a table of one row at most. -/
structure OwnSyncContextRow where
  roster : Bytes
  recoveryEpoch : Nat
  seq : Nat
  inboxKeyGeneration : Nat
deriving DecidableEq

/-- The roster version the row was written from. -/
def OwnSyncContextRow.version (row : OwnSyncContextRow) : RosterVersion :=
  ⟨row.recoveryEpoch, row.seq⟩

/-- `sync_stream_records`: one row for each slot of a stream that is held. The four
sealed columns are written together, and only for streams this device authors. -/
structure SyncStreamRow where
  authorDeviceId : Bytes
  kind : UInt8
  streamSeq : Nat
  personId : Bytes
  copy : Option SealedSyncRecord
  createdAtMs : Int
deriving DecidableEq

/-- The primary key of `sync_stream_records`. -/
def SyncStreamRow.slot (row : SyncStreamRow) : Bytes × UInt8 × Nat :=
  (row.authorDeviceId, row.kind, row.streamSeq)

/-- `sync_stream_cursors`. -/
structure SyncCursorRow where
  authorDeviceId : Bytes
  kind : UInt8
  throughSeq : Nat
deriving DecidableEq

/-- The primary key of `sync_stream_cursors`. -/
def SyncCursorRow.stream (row : SyncCursorRow) : Bytes × UInt8 := (row.authorDeviceId, row.kind)

/-- `own_revocation`, the journal of at most one rotation. -/
structure OwnRevocationRow where
  rosterHead : Bytes
  inboxKeyGeneration : Nat
  revokedDeviceIds : Bytes
  streamSeq : Option Nat
  startedAtMs : Int
  committedAtMs : Option Int
deriving DecidableEq

/-- Where a device is in being linked to its person. -/
inductive CoreLinkActivationStage where
  | notLinking
  | awaitingBootstrap
  | awaitingRosterAck
  | activated
  | revoked
deriving DecidableEq

/-- `device_link_activation`, a table of one row at most. -/
structure CoreLinkActivation where
  stage : CoreLinkActivationStage := .notLinking
  expectedRosterHead : Option Bytes := none
  ownDeviceId : Option Bytes := none
  channelBinding : Option Bytes := none
  startedAtMs : Int := 0
  bootstrapImportedAtMs : Int := 0
  activatedAtMs : Int := 0
deriving DecidableEq

/-- `groups`. -/
structure GroupRow where
  groupId : Bytes
  name : Bytes
  groupKey : Bytes
  metadataRevision : Nat := 0
  metadataChangedBy : Bytes := []
deriving DecidableEq

/-- `group_members`. -/
structure GroupMemberRow where
  groupId : Bytes
  userId : Bytes
  addedAtMs : Int := 0
deriving DecidableEq

/-- `messages`. The envelope id is null for the hidden kinds. -/
structure MessageRow where
  id : Nat
  chatId : Bytes
  senderUserId : Bytes
  senderDeviceId : Bytes
  lamport : Nat
  timestamp : Int
  kind : UInt8
  payload : Bytes
  arrivalTransport : Option UInt8 := none
  hopsTaken : Option UInt8 := none
  receivedAt : Option Int := none
  msgId : Option Bytes := none
  replyToMsgId : Option Bytes := none
deriving DecidableEq

/-- The unique key of `messages`: a position in the stream of one device. -/
def MessageRow.slot (row : MessageRow) : Bytes × Bytes × Bytes × Nat :=
  (row.chatId, row.senderUserId, row.senderDeviceId, row.lamport)

/-- `message_conflicts`: an alternative that was quarantined. -/
structure MessageConflictRow where
  id : Nat
  chatId : Bytes
  senderUserId : Bytes
  senderDeviceId : Bytes
  lamport : Nat
  existingFingerprint : Bytes
  incomingFingerprint : Bytes
  incomingTimestamp : Int
  incomingKind : UInt8
  incomingPayload : Bytes
  incomingMsgId : Option Bytes := none
  incomingReplyToMsgId : Option Bytes := none
  arrivalTransport : Option UInt8 := none
  hopsTaken : Option UInt8 := none
  firstSeenAt : Int
  lastSeenAt : Int
  seenCount : Nat := 1
deriving DecidableEq

/-- The unique key of `message_conflicts`. -/
def MessageConflictRow.branch (row : MessageConflictRow) : Bytes × Bytes × Bytes × Nat × Bytes :=
  (row.chatId, row.senderUserId, row.senderDeviceId, row.lamport, row.incomingFingerprint)

/-- `consumed_hidden_msg_ids`. -/
structure ConsumedHiddenRow where
  msgId : Bytes
  expiryMs : Int
deriving DecidableEq

/-- `CarriedEnvelope`, an envelope under way to someone else. The sealed bytes are its
`body`. -/
structure CarriedEnvelope where
  msgId : Bytes
  hopTtl : UInt8
  expiry : Int
  recipientHint : Bytes
  body : Bytes
deriving DecidableEq

/-- `carried_envelopes`. Opening a store fills every digest that is missing. -/
structure CarriedRow extends CarriedEnvelope where
  isFamily : Bool
  receivedAt : Int
  sizeBytes : Int
  fromRelay : Bool := false
  contentDigest : Bytes
deriving DecidableEq

/-- `OutboundEnvelope`: an authored envelope with its sealed bytes. -/
structure OutboundEnvelope where
  msgId : Bytes
  recipientUserId : Bytes
  chatId : Bytes
  senderUserId : Bytes
  kind : UInt8
  lamport : Nat
  timestamp : Int
  hopTtl : UInt8
  expiry : Int
  recipientHint : Bytes
  body : Bytes
deriving DecidableEq

/-- `outbound_envelopes`. -/
structure OutboundEnvelopeRow extends OutboundEnvelope where
  dedupeKey : Bytes
  queuedAt : Int
  relayPostedAt : Option Int := none
deriving DecidableEq

/-- `OutgoingReceiptEnvelope`: a sealed receipt. -/
structure OutgoingReceiptEnvelope where
  msgId : Bytes
  recipientUserId : Bytes
  chatId : Bytes
  senderUserId : Bytes
  receiptType : UInt8
  throughLamport : Nat
  timestamp : Int
  hopTtl : UInt8
  expiry : Int
  recipientHint : Bytes
  body : Bytes
deriving DecidableEq

/-- `outgoing_receipt_envelopes`. -/
structure OutgoingReceiptEnvelopeRow extends OutgoingReceiptEnvelope where
  queuedAt : Int
  relayPostedAt : Option Int := none
deriving DecidableEq

/-- `receipts`, and `outgoing_receipts`. -/
structure ReceiptRow where
  chatId : Bytes
  senderUserId : Bytes
  receiptType : UInt8
  throughLamport : Nat
deriving DecidableEq

/-- The primary key of both. -/
def ReceiptRow.subject (row : ReceiptRow) : Bytes × Bytes × UInt8 :=
  (row.chatId, row.senderUserId, row.receiptType)

/-- `SyncSettingEntry`, and a row of `sync_settings`. -/
structure SyncSettingEntry where
  key : Bytes
  value : Bytes
  epoch : Nat
  authorDeviceId : Bytes
deriving DecidableEq

/-- `blocked_identities`. -/
structure BlockedIdentityRow where
  userId : Bytes
  blockedAtMs : Int
deriving DecidableEq

/-- The durable state of a `MessageStore`. -/
structure Store where
  contacts : List ContactRow := []
  contactRosters : List ContactRosterRow := []
  contactDevices : List ContactDeviceRow := []
  contactSafetyFacts : List ContactSafetyFactRow := []
  /-- The last id `contact_safety_facts` handed out, kept by `AUTOINCREMENT`. -/
  lastSafetyFactId : Nat := 0
  /-- The document of `own_roster`, as the roster it encodes. -/
  ownRoster : Option Roster := none
  ownFleetVersion : Option RosterVersion := none
  ownFleet : List OwnFleetRow := []
  ownSyncContext : Option OwnSyncContextRow := none
  syncStreamRecords : List SyncStreamRow := []
  syncStreamCursors : List SyncCursorRow := []
  ownRevocation : Option OwnRevocationRow := none
  linkActivation : Option CoreLinkActivation := none
  groups : List GroupRow := []
  groupMembers : List GroupMemberRow := []
  messages : List MessageRow := []
  /-- The last ids `AUTOINCREMENT` handed out. -/
  lastMessageId : Nat := 0
  messageConflicts : List MessageConflictRow := []
  lastConflictId : Nat := 0
  consumedHiddenMsgIds : List ConsumedHiddenRow := []
  carriedEnvelopes : List CarriedRow := []
  outboundEnvelopes : List OutboundEnvelopeRow := []
  outgoingReceiptEnvelopes : List OutgoingReceiptEnvelopeRow := []
  receipts : List ReceiptRow := []
  outgoingReceipts : List ReceiptRow := []
  syncSettings : List SyncSettingEntry := []
  blockedIdentities : List BlockedIdentityRow := []
deriving DecidableEq

end CruiseMesh
