import CruiseMesh.Link.Bootstrap
import CruiseMesh.Link.Gate
import CruiseMesh.Roster.ApplyContact
import CruiseMesh.Roster.OwnRoster

/-!
# Activation in two phases

`device_link/activation.rs`, on the device being linked. A ceremony opens the window, and
from there the device is silent. The bootstrap is imported through the store's ordinary
writers, one durable write after another, and only when all of them have landed does the
stage move on. The window closes when the head of the imported roster has been
acknowledged, or when the ceremony is abandoned.
-/

namespace CruiseMesh
open Durable Prog Store

/-- The stage as the refusals print it. -/
def CoreLinkActivationStage.debug : CoreLinkActivationStage → String
  | .notLinking => "NotLinking"
  | .awaitingBootstrap => "AwaitingBootstrap"
  | .awaitingRosterAck => "AwaitingRosterAck"
  | .activated => "Activated"
  | .revoked => "Revoked"

variable (s : Store)

/-- An `UPDATE` of the activation row. -/
def Store.updateActivation (f : CoreLinkActivation → CoreLinkActivation) : Store :=
  { s with linkActivation := s.linkActivation.map f }

/-! ## Opening the window and leaving it -/

/-- `begin_link_activation`. -/
def beginLinkActivation (channelBinding : Bytes) (nowMs : Int) :
    Prog Store CoreError CoreLinkActivation := do
  checkLen channelBinding channelBindingLen "channel binding"
  let current ← inspect activation
  refuseWhen (current.stage = .activated) (CoreError.store
    "this device is already linked; linking it again starts from a fresh install")
  refuseWhen (current.stage = .revoked) (CoreError.store
    "this device was removed; setting it up again starts from a fresh install")
  write fun s => { s with
    linkActivation := some
      { stage := .awaitingBootstrap, channelBinding := some channelBinding, startedAtMs := nowMs } }
  inspect activation

/-- `abandon_link_activation`. -/
def abandonLinkActivation (nowMs : Int) : Prog Store CoreError CoreLinkActivation := do
  let current ← inspect activation
  refuseWhen (current.stage = .activated) (CoreError.store
    "this device is linked; removing it is a roster change, not a local reset")
  refuseWhen (current.stage = .revoked) (CoreError.store
    "this device was removed from its person's devices; that is not a local state to reset")
  if current.stage = .notLinking then pure current
  else do
    write fun s => s.updateActivation fun _ => { stage := .notLinking, startedAtMs := nowMs }
    inspect activation

/-! ## Importing the bootstrap -/

inductive CoreLinkImportReadiness where
  | ready
  | storeHoldsSomeone
  | storeHoldsAnotherPerson

/-- `store_is_factory_fresh`. -/
def Store.factoryFresh : Prop := s.contacts = [] ∧ s.groups = [] ∧ s.messages = []

instance (s : Store) : Decidable s.factoryFresh := inferInstanceAs (Decidable (_ ∧ _))

/-- `link_import_readiness`. -/
def Store.linkImportReadiness (expectedPersonId : Option Bytes) : CoreLinkImportReadiness :=
  match s.ownRoster with
  | some existing =>
    if expectedPersonId = some existing.personId then .ready else .storeHoldsAnotherPerson
  | none =>
    if s.factoryFresh ∨ expectedPersonId.isSome then .ready else .storeHoldsSomeone

/-- A phone that may not be adopted says why. -/
def requireReady : CoreLinkImportReadiness → Except CoreError Unit
  | .ready => .ok ()
  | .storeHoldsSomeone => .error (.store (
      "this phone already holds someone's contacts and messages, so it cannot be " ++
      "adopted as a new device"))
  | .storeHoldsAnotherPerson => .error (.store "this phone already belongs to a different person")

structure CoreLinkBootstrapImport where
  person : LinkBootstrapPerson
  profile : LinkBootstrapProfile
  ownDeviceId : Bytes
  rosterHead : Bytes
  contactsImported : Nat
  contactRostersImported : Nat
  groupsImported : Nat
  messagesImported : Nat
  catchUp : List CoreLinkCatchUp

section Import
variable (P : Primitives) (bootstrap : LinkBootstrap)

/-- Everything that is checked before anything is written. Returns the certificate the
roster carries for this device. -/
def checkBootstrap (ownDeviceSignPk : Bytes)
    (expectedPersonId : Option Bytes) (nowMs : Int) : Prog Store CoreError DeviceCert := do
  let activation ← inspect activation
  refuseWhen (activation.stage ≠ .awaitingBootstrap) (CoreError.store
    ("a bootstrap can only be imported while awaiting one, not in " ++ activation.stage.debug))
  let recordedBinding ← okOr activation.channelBinding (CoreError.store
    "no link ceremony was recorded for this window, so no bootstrap belongs to it")
  coreLinkBootstrapVerify P bootstrap recordedBinding nowMs
  let person := bootstrap.person
  refuseWhen (∃ expected ∈ expectedPersonId, expected ≠ person.personId) (CoreError.malformed
    "this bootstrap is for a different person than the one being restored")
  let readiness ← inspect fun s => s.linkImportReadiness expectedPersonId
  requireReady readiness
  let ownRoster ← inspect (·.ownRoster)
  refuseWhen (∃ existing ∈ ownRoster, existing.personId ≠ person.personId)
    (CoreError.store "this phone already belongs to a different person")
  checkLen person.personSignPk keyLen "person root key"
  checkLen person.inboxAgreePk keyLen "inbox key"
  checkLen person.inboxAgreeSk keyLen "inbox key"
  refuseWhen (P.deriveUserId person.personSignPk ≠ person.personId)
    (CoreError.malformed "bootstrap identity does not match its own person id")
  refuseWhen (bootstrap.roster.personId ≠ person.personId)
    (CoreError.malformed "bootstrap roster is for a different person")
  (validate P bootstrap.roster person.personSignPk).mapError fun rejection =>
    CoreError.malformed ("bootstrap roster is not acceptable: " ++ rejection.debug)
  okOr (bootstrap.roster.devices.find? fun cert => cert.deviceSignPk = ownDeviceSignPk)
    (CoreError.malformed "bootstrap roster does not carry a certificate for this device")

/-- The contacts, each with the name this person gave them. -/
def importContacts : List LinkBootstrapContact → Prog Store CoreError Unit
  | [] => pure ()
  | entry :: rest => do
    upsertContact entry.contact
    if entry.contact.nickname.isSome then do
      let _ ← setContactNickname entry.contact.userId entry.contact.nickname
      importContacts rest
    else importContacts rest

/-- The contacts' rosters, and how many of them were accepted. -/
def importContactRosters : List LinkBootstrapContact → Nat → Prog Store CoreError Nat
  | [], imported => pure imported
  | entry :: rest, imported =>
    match entry.roster with
    | none => importContactRosters rest imported
    | some roster => do
      let decision ← applyContactRoster P roster
      importContactRosters rest
        (if decision.outcome = .accepted then imported + 1 else imported)

/-- The groups. The clock is read once for each. -/
def importGroups (clock : Nat → ClockReading) : List Group → Nat → Prog Store CoreError Unit
  | [], _ => pure ()
  | group :: rest, reading => do
    upsertGroup group (clock reading)
    importGroups clock rest (reading + 1)

/-- The head of the history, and how many messages of it were new. -/
def importMessages (clock : Nat → ClockReading) :
    List StoredMessage → Nat → Nat → Prog Store CoreError Nat
  | [], _, imported => pure imported
  | message :: rest, reading, imported => do
    let inserted ← insertMessageFromDevice P message (some message.senderDeviceId) (clock reading)
    importMessages clock rest (reading + 1) (if inserted then imported + 1 else imported)

/-- What the import writes before the stage moves. -/
def importContents (clock : Nat → ClockReading) : Prog Store CoreError (Nat × Nat) := do
  -- a contact's roster is checked against the contact's row, so the contacts come first
  importContacts bootstrap.contacts
  let contactRosters ← importContactRosters P bootstrap.contacts 0
  importGroups clock bootstrap.groups 0
  let messages ← importMessages P clock bootstrap.historyHead bootstrap.groups.length 0
  storeOwnRoster bootstrap.roster
  pure (contactRosters, messages)

/-- `import_link_bootstrap`. -/
def importLinkBootstrap (ownDeviceSignPk : Bytes)
    (expectedPersonId : Option Bytes) (nowMs : Int) (clock : Nat → ClockReading) :
    Prog Store CoreError CoreLinkBootstrapImport := do
  let ownCert ← checkBootstrap P bootstrap ownDeviceSignPk expectedPersonId nowMs
  let ownDeviceId := ownCert.deviceId P
  let rosterHead := rosterHeadHash P bootstrap.roster
  let (contactRosters, messages) ← importContents P bootstrap clock
  write fun s => s.updateActivation fun row => { row with
    stage := .awaitingRosterAck, expectedRosterHead := some rosterHead
    ownDeviceId := some ownDeviceId, bootstrapImportedAtMs := nowMs }
  pure
    { person := bootstrap.person, profile := bootstrap.profile, ownDeviceId, rosterHead
      contactsImported := bootstrap.contacts.length
      contactRostersImported := contactRosters, groupsImported := bootstrap.groups.length
      messagesImported := messages, catchUp := coreLinkCatchUpPlan bootstrap }

/-! ## Closing the window -/

/-- What must hold before the device becomes one: the acknowledged head is the imported
one, and the stored roster is the imported one. -/
def checkAcknowledged (ackedRosterHead : Bytes) : Prog Store CoreError (Roster × Bytes) := do
  let activation ← inspect activation
  refuseWhen (activation.stage ≠ .awaitingRosterAck) (CoreError.store
    ("activation closes only after a bootstrap import, not in " ++ activation.stage.debug))
  let expected ← okOr activation.expectedRosterHead
    (CoreError.store "no roster head is awaiting acknowledgement")
  refuseWhen (ackedRosterHead ≠ expected)
    (CoreError.malformed "the acknowledged roster is not the roster that was imported")
  let ownDeviceId ← okOr activation.ownDeviceId (CoreError.store "no device id was imported")
  let held ← inspect (·.ownRoster)
  let roster ← okOr held (CoreError.store "no own roster was imported")
  refuseWhen (rosterHeadHash P roster ≠ expected)
    (CoreError.store "the stored own roster is not the one that was acknowledged")
  pure (roster, ownDeviceId)

/-- `complete_link_activation`. -/
def completeLinkActivation (ackedRosterHead : Bytes) (nowMs : Int) :
    Prog Store CoreError CoreLinkActivation := do
  let (roster, ownDeviceId) ← checkAcknowledged P ackedRosterHead
  projectOwnFleet P roster ownDeviceId
  write fun s => s.updateActivation fun row => { row with
    stage := .activated, activatedAtMs := nowMs }
  inspect activation

end Import
end CruiseMesh
