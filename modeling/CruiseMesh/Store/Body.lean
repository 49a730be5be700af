import CruiseMesh.Lib.Utf8
import CruiseMesh.Roster.Wire
import CruiseMesh.Store.Import

/-!
# Message bodies

`protocol.rs`: what stands inside a sealed envelope. A body has fixed fields and then
extensions, of which the known ones are checked and the unknown ones skipped. The
content of the structured kinds (receipts, attachments, reactions, rosters) must decode.
-/

namespace CruiseMesh
open Wire

def kindReceipt : UInt8 := 2
def kindAttachmentManifest : UInt8 := 16
def kindReaction : UInt8 := 18
def kindRosterGossip : UInt8 := 21

/-- `Cursor::take` of `protocol.rs` and `groups.rs`, on `len` bytes in all. -/
def wireTruncated (len n pos : Nat) : CoreError :=
  .malformed ("truncated: need " ++ toString n ++ " more byte(s) at offset " ++ toString pos ++
    ", have " ++ toString (len - pos))

/-- `Cursor::finish`. -/
def wireTrailing (left : Nat) : CoreError :=
  .malformed (toString left ++ " unexpected trailing byte(s) after decoding")

/-- `String::from_utf8`, whose error `label` is put in front of. -/
def requireUtf8 (label : String) (bytes : Bytes) : Except CoreError Unit :=
  match Utf8.fault bytes with
  | none => .ok ()
  | some fault => .error (.malformed (label ++ Utf8.describe fault))

/-! ## Contents that are structured -/

structure ReceiptContent where
  chatId : Bytes
  senderUserId : Bytes
  lamport : Nat
  receiptType : UInt8
  groupId : Option Bytes

/-- `validate_receipt_content`. -/
def validateReceiptContent (content : ReceiptContent) : Except CoreError Unit := do
  refuseWhen (content.receiptType ≠ receiptTypeDelivered ∧ content.receiptType ≠ receiptTypeRead)
    (.malformed "invalid receipt type")
  refuseWhen (2 ^ 63 - 1 < content.lamport)
    (.malformed "receipt lamport exceeds the supported range")
  refuseWhen (∃ groupId ∈ content.groupId, groupId.length ≠ groupIdLen)
    (.malformed ("group receipt id must be exactly " ++ toString groupIdLen ++ " bytes"))

/-- Whether the cursor is at the end. -/
def atEnd : Reader CoreError Bool := do
  let cursor ← get
  pure (cursor.pos = cursor.data.length)

variable (truncated : Nat → Nat → CoreError)

/-- The group of a receipt, where there is one. -/
def readReceiptGroup : Reader CoreError (Option Bytes) := do
  if (← atEnd) then pure none
  else do
    let groupId ← takePrefixed truncated 2
    pure (some groupId)

def readReceiptContent : Reader CoreError ReceiptContent := do
  let chatId ← takePrefixed truncated 2
  let senderUserId ← takePrefixed truncated 2
  let lamport ← takeNat truncated 8
  let receiptType ← takeNat truncated 1
  let groupId ← readReceiptGroup truncated
  pure { chatId, senderUserId, lamport, receiptType := UInt8.ofNat receiptType, groupId }

variable (bytes : Bytes)

/-- `decode_receipt_content`. -/
def decodeReceiptContent : Except CoreError ReceiptContent := do
  let content ← readAll wireTrailing (readReceiptContent (wireTruncated bytes.length)) bytes
  validateReceiptContent content
  pure content

def attachmentWireVersion : Nat := 1
def attachmentMaxBlobBytes : Nat := 180 * 1024
def reactionWireVersion : Nat := 1
def reactionMaxEmojiBytes : Nat := 32

/-- `read_exact` of `content.rs`, which says nothing about where it stopped. -/
def contentCut (_n _pos : Nat) : Unit := ()

/-- `read_string16`. -/
def readString16 (maxBytes : Option Nat) : Reader Unit Bytes := do
  let bytes ← takePrefixed contentCut 2
  (refuseWhen (∃ limit ∈ maxBytes, limit < bytes.length) () : Except Unit Unit)
  (refuseWhen (Utf8.fault bytes ≠ none) () : Except Unit Unit)
  pure bytes

inductive AttachmentMediaType where
  | image
  | audio

structure CoreAttachmentPayload where
  mediaType : AttachmentMediaType
  mimeType : Bytes
  durationMs : Nat
  blob : Bytes
  caption : Bytes

def attachmentMediaTypeOf (wire : Nat) : Except Unit AttachmentMediaType :=
  if wire = 1 then .ok .image else if wire = 2 then .ok .audio else .error ()

def readAttachmentPayload : Reader Unit CoreAttachmentPayload := do
  let version ← takeNat contentCut 1
  (refuseWhen (version ≠ attachmentWireVersion) () : Except Unit Unit)
  let wire ← takeNat contentCut 1
  let mediaType ← attachmentMediaTypeOf wire
  let mimeType ← readString16 none
  let durationMs ← takeNat contentCut 4
  let blobLen ← takeNat contentCut 4
  (refuseWhen (attachmentMaxBlobBytes < blobLen) () : Except Unit Unit)
  let blob ← take contentCut blobLen
  let caption ← readString16 none
  pure { mediaType, mimeType, durationMs, blob, caption }

/-- `decode_attachment_payload`. Bytes behind the caption are allowed. -/
def decodeAttachmentPayload : Option CoreAttachmentPayload :=
  ((readAttachmentPayload ⟨bytes, 0⟩).toOption).map (·.1)

structure CoreReactionPayload where
  senderUserId : Bytes
  lamport : Nat
  kind : UInt8
  emoji : Bytes

def readReactionPayload : Reader Unit CoreReactionPayload := do
  let version ← takeNat contentCut 1
  (refuseWhen (version ≠ reactionWireVersion) () : Except Unit Unit)
  let senderUserId ← takePrefixed contentCut 2
  let lamport ← takeNat contentCut 8
  let kind ← takeNat contentCut 1
  let emoji ← readString16 (some reactionMaxEmojiBytes)
  pure { senderUserId, lamport, kind := UInt8.ofNat kind, emoji }

/-- `decode_reaction_payload`. -/
def decodeReactionPayload : Option CoreReactionPayload :=
  (readAll (fun _ => ()) readReactionPayload bytes).toOption

/-- `validate_message_body_fields`. -/
def validateMessageBodyFields (kind : UInt8) (chatId : Bytes) (lamport : Nat) (content : Bytes) :
    Except CoreError Unit := do
  refuseWhen (2 ^ 63 - 1 < lamport) (.malformed "message lamport exceeds the supported range")
  if kind = kindReceipt then do
    let receipt ← decodeReceiptContent content
    refuseWhen (receipt.chatId ≠ chatId)
      (.malformed "receipt chat id does not match its message body")
  else if kind = kindAttachmentManifest then
    refuseWhen (decodeAttachmentPayload content = none) (.malformed "invalid attachment payload")
  else if kind = kindReaction then
    refuseWhen (decodeReactionPayload content = none) (.malformed "invalid reaction payload")
  else if kind = kindRosterGossip then do
    let _ ← coreDecodeRoster content
    pure ()
  else pure ()

/-! ## Bodies -/

structure ExtendedMessageBody where
  kind : UInt8
  chatId : Bytes
  lamport : Nat
  timestamp : Int
  content : Bytes
  replyToMsgId : Option Bytes := none
  senderDeviceId : Option Bytes := none
  senderRosterHead : Option Bytes := none
deriving DecidableEq

def messageExtensionReplyToMsgId : Nat := 1
def messageExtensionSenderDeviceId : Nat := 0x20
def messageExtensionSenderRosterHead : Nat := 0x21

/-- `take_extension`. -/
def takeExtension (slot : Option Bytes) (value : Bytes) (expectedLen : Nat) (field : String) :
    Except CoreError (Option Bytes) := do
  refuseWhen (value.length ≠ expectedLen) (.malformed (
    field ++ " extension must be exactly " ++ toString expectedLen ++ " bytes"))
  refuseWhen (slot.isSome) (.malformed ("duplicate " ++ field ++ " extension"))
  pure (some value)

/-- One extension: known types are checked, every other one is skipped. -/
def withExtension (body : ExtendedMessageBody) (extensionType : Nat) (value : Bytes) :
    Except CoreError ExtendedMessageBody :=
  if extensionType = messageExtensionReplyToMsgId then do
    let slot ← takeExtension body.replyToMsgId value msgIdLen "reply-to"
    pure { body with replyToMsgId := slot }
  else if extensionType = messageExtensionSenderDeviceId then do
    let slot ← takeExtension body.senderDeviceId value deviceIdLen "sender device id"
    pure { body with senderDeviceId := slot }
  else if extensionType = messageExtensionSenderRosterHead then do
    let slot ← takeExtension body.senderRosterHead value rosterHeadHashLen "sender roster head"
    pure { body with senderRosterHead := slot }
  else .ok body

/-- The loop over the extensions. Each takes three bytes at least, so the length of the
whole is enough fuel. -/
def readExtensions (truncated : Nat → Nat → CoreError) :
    Nat → ExtendedMessageBody → Reader CoreError ExtendedMessageBody
  | 0, body => pure body
  | fuel + 1, body => do
    if (← atEnd) then pure body
    else do
      let extensionType ← takeNat truncated 1
      let value ← takePrefixed truncated 2
      let body ← withExtension body extensionType value
      readExtensions truncated fuel body

def readMessageBody (fuel : Nat) : Reader CoreError ExtendedMessageBody := do
  let kind ← takeNat truncated 1
  let chatId ← takePrefixed truncated 2
  let lamport ← takeNat truncated 8
  let timestamp ← takeInt truncated 8
  let content ← takePrefixed truncated 4
  readExtensions truncated fuel { kind := UInt8.ofNat kind, chatId, lamport, timestamp, content }

/-- `decode_extended_message_body`. -/
def decodeExtendedMessageBody : Except CoreError ExtendedMessageBody := do
  let body ← readAll wireTrailing (readMessageBody (wireTruncated bytes.length) bytes.length) bytes
  validateMessageBodyFields body.kind body.chatId body.lamport body.content
  pure body

end CruiseMesh
