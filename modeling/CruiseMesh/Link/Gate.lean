import CruiseMesh.Store.Schema

/-!
# The activation gate

What a device may do while it is being linked, and after it has been removed: nothing
that anyone else would notice. The rule is one function of the stored stage, and the
paths that have something to offer offer nothing where it says no.
-/

namespace CruiseMesh

inductive CoreLinkGatedAction where
  | advertise
  | author
  | ack

inductive CoreLinkGateReason where
  | neverLinked
  | activated
  | bootstrapPending
  | rosterAckPending
  | deviceRevoked

structure CoreLinkGateVerdict where
  allowed : Bool
  stage : CoreLinkActivationStage
  action : CoreLinkGatedAction
  reason : CoreLinkGateReason

/-- `core_link_activation_gate`. -/
def coreLinkActivationGate (activation : CoreLinkActivation) (action : CoreLinkGatedAction) :
    CoreLinkGateVerdict :=
  let (allowed, reason) : Bool × CoreLinkGateReason := match activation.stage with
    | .notLinking => (true, .neverLinked)
    | .activated => (true, .activated)
    | .awaitingBootstrap => (false, .bootstrapPending)
    | .awaitingRosterAck => (false, .rosterAckPending)
    | .revoked => (false, .deviceRevoked)
  { allowed, stage := activation.stage, action, reason }

namespace Store

/-- `link_activation`. -/
def activation (s : Store) : CoreLinkActivation := s.linkActivation.getD {}

/-- `link_gate`. -/
def linkGate (s : Store) (action : CoreLinkGatedAction) : CoreLinkGateVerdict :=
  coreLinkActivationGate s.activation action

/-- `link_gate_allows`. -/
def linkGateAllows (s : Store) (action : CoreLinkGatedAction) : Bool := (s.linkGate action).allowed

end Store

/-- The stages in which a device is silent. -/
def CoreLinkActivationStage.Silent (stage : CoreLinkActivationStage) : Prop :=
  stage = .awaitingBootstrap ∨ stage = .awaitingRosterAck ∨ stage = .revoked

/-- The gate looks at the stage and at nothing else: not at the action either. -/
theorem linkGate_closed {s : Store} (h : s.activation.stage.Silent) (action : CoreLinkGatedAction) :
    s.linkGateAllows action = false := by
  unfold Store.linkGateAllows Store.linkGate coreLinkActivationGate
  rcases h with h | h | h <;> simp [h]

end CruiseMesh
