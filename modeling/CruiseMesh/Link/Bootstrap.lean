import CruiseMesh.Roster.Validate
import CruiseMesh.Store.Import

/-!
# The bootstrap of a new device

`device_link/bootstrap.rs`: what the approving device streams into the device it adopts.
The export carries the person's identity and inbox key, the roster that lists the new
device, the contacts, the groups and the head of the history. It is bound to one
ceremony and to a moment it stops being valid, and signed by the device that signs this
person's rosters.
-/

namespace CruiseMesh
open Wire

def channelBindingLen : Nat := 32

structure LinkBootstrapPerson where
  personId : Bytes
  personSignPk : Bytes
  inboxKeyGeneration : Nat
  inboxAgreePk : Bytes
  inboxAgreeSk : Bytes

structure LinkBootstrapProfile where
  displayName : Option Bytes := none
  avatar : Bytes := []
  avatarEpoch : Int := 0

structure LinkBootstrapContact where
  contact : Contact
  roster : Option Roster

structure LinkBootstrap where
  version : Nat
  createdAtMs : Int
  person : LinkBootstrapPerson
  roster : Roster
  contacts : List LinkBootstrapContact
  groups : List Group
  historyHead : List StoredMessage
  profile : LinkBootstrapProfile
  channelBinding : Bytes
  expiresAtMs : Int
  signerSignPk : Bytes
  signature : Bytes

/-! ## What the signature covers -/

def linkBootstrapMagic : Bytes := ascii "CMBOOT1\x00"
def linkBootstrapVersion : Nat := 3

def sectionPerson : UInt8 := 1
def sectionRoster : UInt8 := 2
def sectionContacts : UInt8 := 3
def sectionGroups : UInt8 := 4
def sectionHistoryHead : UInt8 := 5
def sectionProfile : UInt8 := 7

/-- `push_bytes` and `push_text`. -/
def pushLinkBytes (value : Bytes) : Bytes := beBytes 4 value.length ++ value

/-- `push_section`. -/
def pushSection (tag : UInt8) (body : Bytes) : Bytes := [tag] ++ pushLinkBytes body

/-- `push_optional_text`. -/
def pushOptionalText : Option Bytes → Bytes
  | some text => [1] ++ pushLinkBytes text
  | none => [0]

/-- `push_count`, and then each element. -/
def pushList {α : Type} (push : α → Bytes) (items : List α) : Bytes :=
  beBytes 4 items.length ++ items.flatMap push

/-- `push_cert`. -/
def pushCert (cert : DeviceCert) : Bytes :=
  pushLinkBytes cert.personId ++ pushLinkBytes cert.deviceSignPk ++
    pushLinkBytes cert.deviceAgreePk ++ beBytes 8 cert.addedEpoch ++ beBytes 4 cert.flags.toNat ++
    pushLinkBytes cert.signerSignPk ++ pushLinkBytes cert.signature

/-- `push_roster`, which is also `encode_roster_document`. -/
def pushRoster (roster : Roster) : Bytes :=
  pushLinkBytes roster.personId ++ beBytes 8 roster.recoveryEpoch ++ beBytes 8 roster.seq ++
    pushList pushCert roster.devices ++
    pushList (fun t => pushLinkBytes t.deviceId ++ beBytes 8 t.revokedAtSeq) roster.tombstones ++
    pushLinkBytes roster.approvingDeviceId ++ beBytes 8 roster.inboxKeyGeneration ++
    pushLinkBytes roster.signerSignPk ++ pushLinkBytes roster.signature

/-- `push_contact`. -/
def pushContact (contact : Contact) : Bytes :=
  pushLinkBytes contact.userId ++ pushLinkBytes contact.name ++ pushLinkBytes contact.signPk ++
    pushLinkBytes contact.agreePk ++ pushOptionalText contact.relayUrl ++
    pushOptionalText contact.relayToken ++ pushOptionalText contact.nickname

/-- A contact and the roster known of them. -/
def pushBootstrapContact (entry : LinkBootstrapContact) : Bytes :=
  pushContact entry.contact ++ match entry.roster with
    | some roster => [1] ++ pushRoster roster
    | none => [0]

/-- `push_group`. -/
def pushGroup (group : Group) : Bytes :=
  pushLinkBytes group.id ++ pushLinkBytes group.name ++ pushList pushLinkBytes group.memberUserIds ++
    pushLinkBytes group.key ++ beBytes 8 group.metadataRevision ++
    pushLinkBytes group.metadataChangedBy

/-- `push_message`. -/
def pushMessage (message : StoredMessage) : Bytes :=
  pushLinkBytes message.chatId ++ pushLinkBytes message.senderUserId ++ beBytes 8 message.lamport ++
    intBytes 8 message.timestamp ++ [message.kind] ++ pushLinkBytes message.payload ++
    pushLinkBytes message.senderDeviceId

/-- The identity section. -/
def pushPerson (person : LinkBootstrapPerson) : Bytes :=
  pushLinkBytes person.personId ++ pushLinkBytes person.personSignPk ++
    beBytes 8 person.inboxKeyGeneration ++ pushLinkBytes person.inboxAgreePk ++
    pushLinkBytes person.inboxAgreeSk

/-- The profile section. -/
def pushProfile (profile : LinkBootstrapProfile) : Bytes :=
  pushOptionalText profile.displayName ++ pushLinkBytes profile.avatar ++
    intBytes 8 profile.avatarEpoch

/-- `bootstrap_prefix`: the header and every section, in the one order they are written. -/
def bootstrapPrefix (bootstrap : LinkBootstrap) : Bytes :=
  linkBootstrapMagic ++ beBytes 2 linkBootstrapVersion ++ intBytes 8 bootstrap.createdAtMs ++
    pushSection sectionPerson (pushPerson bootstrap.person) ++
    pushSection sectionRoster (pushRoster bootstrap.roster) ++
    pushSection sectionContacts (pushList pushBootstrapContact bootstrap.contacts) ++
    pushSection sectionGroups (pushList pushGroup bootstrap.groups) ++
    pushSection sectionHistoryHead (pushList pushMessage bootstrap.historyHead) ++
    pushSection sectionProfile (pushProfile bootstrap.profile)

/-- `bootstrap_signed_message`. -/
def bootstrapSignedMessage (body channelBinding : Bytes) (expiresAtMs : Int) : Bytes :=
  body ++ channelBinding ++ intBytes 8 expiresAtMs

def deviceLinkBootstrapSignDomain : Bytes := ascii "CruiseMesh device link bootstrap v1\x00"

/-! ## Whether it belongs to this ceremony -/

/-- `check_len` of the bootstrap. -/
def checkBootstrapLen (bytes : Bytes) (len : Nat) (what : String) : Except CoreError Unit :=
  refuseWhen (bytes.length ≠ len) (.malformed ("device-link bootstrap " ++ what ++ " is " ++
    toString bytes.length ++ " bytes, not " ++ toString len))

/-- `core_link_bootstrap_verify`. -/
def coreLinkBootstrapVerify (P : Primitives) (bootstrap : LinkBootstrap) (channelBinding : Bytes)
    (nowMs : Int) : Except CoreError Unit := do
  checkBootstrapLen channelBinding channelBindingLen "channel binding"
  refuseWhen (bootstrap.channelBinding ≠ channelBinding)
    (.malformed "this bootstrap was made for a different link ceremony")
  refuseWhen (bootstrap.expiresAtMs < nowMs) (.malformed "this bootstrap has expired")
  refuseWhen (P.deriveUserId bootstrap.signerSignPk ≠ bootstrap.roster.approvingDeviceId)
    (.malformed "this bootstrap was not signed by the device that signs this person's rosters")
  refuseWhen (bootstrap.signerSignPk ∉ bootstrap.roster.devices.map (·.deviceSignPk))
    (.malformed "this bootstrap's signer is not a device its own roster lists")
  let message := bootstrapSignedMessage (bootstrapPrefix bootstrap) bootstrap.channelBinding
    bootstrap.expiresAtMs
  P.verifyRaw bootstrap.signerSignPk (deviceLinkBootstrapSignDomain ++ lenPrefixed message)
    bootstrap.signature

/-! ## What is left to catch up on -/

structure CoreLinkCatchUp where
  chatId : Bytes
  headFromLamport : Nat
  headThroughLamport : Nat

/-- One message of `core_link_catch_up_plan`: it widens the first entry of its chat, or
adds one. -/
def catchUpStep (plan : List CoreLinkCatchUp) (message : StoredMessage) : List CoreLinkCatchUp :=
  match plan.findIdx? fun entry => entry.chatId = message.chatId with
  | some index => plan.modify index fun entry => { entry with
      headFromLamport := min entry.headFromLamport message.lamport
      headThroughLamport := max entry.headThroughLamport message.lamport }
  | none => plan ++ [⟨message.chatId, message.lamport, message.lamport⟩]

/-- `core_link_catch_up_plan`. -/
def coreLinkCatchUpPlan (bootstrap : LinkBootstrap) : List CoreLinkCatchUp :=
  bootstrap.historyHead.foldl catchUpStep []

end CruiseMesh
