import CruiseMesh.Relayd.Families
import CruiseMesh.Sync.Apply

/-!
# The mailbox a group's copies go to

`core_group_fanout_relay_target` of `relay_wire.rs` picks one mailbox for all the rows of a
group envelope: it takes the first member that resolves somewhere. A member blocks our own
mailbox while its endpoint rests for silence, and when it is written off and carries another
family's deposit token, since it would never read what is posted there.

`fanoutFrom_eq` says what the walk computes. That a member blocks is looked at when nobody
resolves, and only then: another member that resolves to our own mailbox takes the whole
group there.
-/

namespace CruiseMesh
open List

/-! ## Relay addresses -/

/-- `str::split_once`. -/
def splitOnce (separator : Bytes) : Bytes → Option (Bytes × Bytes)
  | [] => none
  | b :: rest =>
    if separator.isPrefixOf (b :: rest) then some ([], (b :: rest).drop separator.length)
    else (splitOnce separator rest).map fun (before, after) => (b :: before, after)

/-- `char::to_ascii_lowercase`, of a byte. -/
def asciiLower (b : UInt8) : UInt8 := if 65 ≤ b ∧ b ≤ 90 then b + 32 else b

/-- `relay_url_host`. -/
def relayUrlHost (url : Bytes) : Bytes :=
  let afterScheme := ((splitOnce (ascii "://") url).map (·.2)).getD url
  let authority := afterScheme.takeWhile (· ∉ ascii "/?#")
  let hostPort := authority.rtakeWhile (· ∉ ascii "@")
  match hostPort with
  | 91 :: literal => literal.takeWhile (· ∉ ascii "]")
  | _ =>
    if 58 ∈ hostPort then (hostPort.rdropWhile (· ∉ ascii ":")).dropLast else hostPort

/-- One of the four numbers of an address: digits, with no zero in front. -/
def ipv4Octet (text : Bytes) : Option Nat :=
  let value := text.foldl (fun n b => 10 * n + (b.toNat - 48)) 0
  if text ≠ [] ∧ text.length ≤ 3 ∧ (∀ b ∈ text, 48 ≤ b ∧ b ≤ 57) ∧
    (text.head? = some 48 → text.length = 1) ∧ value ≤ 255 then some value else none

/-- `Ipv4Addr::from_str` and `is_loopback`. -/
def isLoopbackIpv4 (host : Bytes) : Bool :=
  match (host.splitOn 46).mapM ipv4Octet with
  | some [first, _, _, _] => first = 127
  | _ => false

/-- `is_loopback_relay_host`. -/
def isLoopbackRelayHost (host : Bytes) : Bool :=
  let host := host.rdropWhile (· = 46)
  host.map asciiLower = ascii "localhost" ∨ host = ascii "::1" ∨ host = ascii "10.0.2.2" ∨
    isLoopbackIpv4 host

/-- `relay_url_transport_is_secure`. -/
def relayUrlTransportIsSecure (url : Bytes) : Bool :=
  match splitOnce (ascii "://") url with
  | some (scheme, _) =>
    scheme = ascii "https" ∨ scheme = ascii "http" ∧ isLoopbackRelayHost (relayUrlHost url)
  | none => false

/-- `normalize_relay_url`. -/
def normalizeRelayUrl (value : Bytes) : Bytes :=
  let trimmed := (trim value).rdropWhile (· = 47)
  if trimmed = [] then []
  else
    let candidate := match splitOnce (ascii "://") trimmed with
      | some (scheme, rest) => scheme.map asciiLower ++ ascii "://" ++ rest
      | none => ascii "https://" ++ trimmed
    if relayUrlTransportIsSecure candidate then candidate else []

/-- `relay_endpoint_from`. -/
def relayEndpointFrom (url token : Option Bytes) : Option RelayEndpoint :=
  let url := normalizeRelayUrl (url.getD [])
  let token := trim (token.getD [])
  if url = [] ∨ token = [] then none else some { url, token }

/-! ## Resolving a contact -/

section Resolve
variable (P : Primitives)

/-- `resolved_contact_relay`, of the two endpoints it reads from its arguments. -/
def resolvedContactRelay (contact fallback : Option RelayEndpoint) : Option RelayEndpoint :=
  match contact, fallback with
  | some contact, some fallback =>
    if contact.url = fallback.url ∧ Relayd.isDepositToken contact.token ∧
      Relayd.depositTokenFor P fallback.token = contact.token then some fallback
    else some contact
  | contact, fallback => contact.or fallback

/-- `card_is_another_familys_deposit`. -/
def cardIsAnotherFamilysDeposit (contact own : RelayEndpoint) : Bool :=
  Relayd.isDepositToken contact.token ∧ Relayd.depositTokenFor P own.token ≠ contact.token

/-- `resolved_contact_delivery_relay`, of the same two. -/
def resolvedContactDeliveryRelay (contact fallback : Option RelayEndpoint)
    (contactEndpointUsable : Bool) : Option RelayEndpoint :=
  if contactEndpointUsable then resolvedContactRelay P contact fallback
  else do
    let fallback ← fallback
    match contact with
    | some contact =>
      if contact.url = fallback.url then none
      else if cardIsAnotherFamilysDeposit P contact fallback then none
      else some fallback
    | none => some fallback

structure GroupRelayMember where
  relayUrl : Option Bytes
  relayToken : Option Bytes
  endpointUsable : Bool
  endpointAnswering : Bool

namespace GroupRelayMember
variable (member : GroupRelayMember) (own : Option RelayEndpoint)

def card : Option RelayEndpoint := relayEndpointFrom member.relayUrl member.relayToken

/-- Where the member resolves to. -/
def resolved : Option RelayEndpoint :=
  resolvedContactDeliveryRelay P member.card own member.endpointUsable

/-- It is written off and carries another family's deposit token. -/
def Foreign : Prop :=
  member.endpointUsable = false ∧
    ∃ card ∈ member.card, ∃ ours ∈ own, cardIsAnotherFamilysDeposit P card ours

instance : Decidable (member.Foreign P own) := inferInstanceAs (Decidable (_ ∧ _))

/-- The member blocks our own mailbox: its endpoint rests for silence, or it is foreign. -/
def Blocks : Prop := member.endpointAnswering = false ∨ member.Foreign P own

instance : Decidable (member.Blocks P own) := inferInstanceAs (Decidable (_ ∨ _))

/-- What the member offers the group. -/
def offer : Option RelayEndpoint := if member.Blocks P own then none else member.resolved P own

end GroupRelayMember

/-- The loop of `core_group_fanout_relay_target`. -/
def fanoutFrom (own : Option RelayEndpoint) (anyMemberBlocksFallback : Bool) :
    List GroupRelayMember → Option RelayEndpoint
  | [] => if anyMemberBlocksFallback then none else own
  | member :: rest =>
    if member.endpointAnswering = false then fanoutFrom own true rest
    else if member.Foreign P own then fanoutFrom own true rest
    else
      match member.resolved P own with
      | some endpoint => some endpoint
      | none => fanoutFrom own anyMemberBlocksFallback rest

def coreGroupFanoutRelayTarget (members : List GroupRelayMember)
    (fallbackUrl fallbackToken : Option Bytes) : Option RelayEndpoint :=
  fanoutFrom P (relayEndpointFrom fallbackUrl fallbackToken) false members

/-! ## What the walk computes -/

variable {P} {member : GroupRelayMember} {own : Option RelayEndpoint} {endpoint : RelayEndpoint}

theorem fanoutFrom_eq (members : List GroupRelayMember) (blocked : Bool) :
    fanoutFrom P own blocked members = (members.findSome? (·.offer P own)).or
      (if blocked ∨ ∃ member ∈ members, member.Blocks P own then none else own) := by
  induction members generalizing blocked with
  | nil => simp [fanoutFrom]
  | cons member rest ih =>
    rw [findSome?_cons]
    by_cases hblocks : member.Blocks P own
    · have hskip : fanoutFrom P own blocked (member :: rest) = fanoutFrom P own true rest := by
        rcases hblocks with hsilent | hforeign
        · rw [fanoutFrom, if_pos hsilent]
        · rw [fanoutFrom, if_pos hforeign, ite_self]
      rw [hskip, ih, GroupRelayMember.offer, if_pos hblocks]
      simp [hblocks]
    · obtain ⟨hanswers, hours⟩ := not_or.mp hblocks
      rw [fanoutFrom, if_neg hanswers, if_neg hours, GroupRelayMember.offer, if_neg hblocks]
      cases member.resolved P own with
      | some endpoint => rfl
      | none => simp [ih, hblocks]

theorem offer_eq_none : member.offer P own = none ↔
    member.Blocks P own ∨ member.resolved P own = none := by
  unfold GroupRelayMember.offer
  split <;> simp [*]

theorem offer_eq_some : member.offer P own = some endpoint ↔
    ¬ member.Blocks P own ∧ member.resolved P own = some endpoint := by
  unfold GroupRelayMember.offer
  split <;> simp [*]

/-- For every list of members: the group goes to the first member that does not block and
resolves somewhere; where there is none, to our own mailbox if no member blocks; and nowhere
exactly if every member blocks or resolves nowhere, and one blocks or we have no mailbox. -/
theorem group_fanout_target (P : Primitives) (members : List GroupRelayMember)
    (fallbackUrl fallbackToken : Option Bytes) :
    let own := relayEndpointFrom fallbackUrl fallbackToken
    let target := coreGroupFanoutRelayTarget P members fallbackUrl fallbackToken
    (∀ endpoint, target = some endpoint ↔
      (∃ front member back, members = front ++ member :: back ∧
        (¬ member.Blocks P own ∧ member.resolved P own = some endpoint) ∧
        ∀ earlier ∈ front, earlier.Blocks P own ∨ earlier.resolved P own = none) ∨
      (∀ member ∈ members, ¬ member.Blocks P own ∧ member.resolved P own = none) ∧
        own = some endpoint) ∧
    (target = none ↔ (∀ member ∈ members, member.Blocks P own ∨ member.resolved P own = none) ∧
      ((∃ member ∈ members, member.Blocks P own) ∨ own = none)) := by
  intro own target
  have hfree : ∀ endpoint, ((if ∃ member ∈ members, member.Blocks P own then none else own) =
      some endpoint ↔ (∀ member ∈ members, ¬ member.Blocks P own) ∧ own = some endpoint) := by
    intro endpoint
    split <;> simp_all
  have htarget : target = (members.findSome? (·.offer P own)).or
      (if ∃ member ∈ members, member.Blocks P own then none else own) := by
    have hwalk := @fanoutFrom_eq P own members false
    simp only [Bool.false_eq_true, false_or] at hwalk
    exact hwalk
  rw [htarget]
  constructor
  · intro endpoint
    rw [Option.or_eq_some_iff, findSome?_eq_some_iff, findSome?_eq_none_iff, hfree]
    simp only [offer_eq_none, offer_eq_some]
    refine or_congr_right ⟨fun ⟨hnone, hnot, hown⟩ => ⟨fun member hmem => ?_, hown⟩, ?_⟩
    · exact ⟨hnot member hmem, (hnone member hmem).resolve_left (hnot member hmem)⟩
    · rintro ⟨hall, hown⟩
      exact ⟨fun member hmem => .inr (hall member hmem).2, fun member hmem => (hall member hmem).1, hown⟩
  · rw [Option.or_eq_none_iff, findSome?_eq_none_iff]
    simp only [offer_eq_none]
    refine and_congr_right fun _ => ?_
    split <;> simp_all

/-- A member that has stopped answering, and one whose relay refuses its card. -/
def silentMember : GroupRelayMember :=
  ⟨some (ascii "https://silent.example"), some (ascii "their-token"), true, false⟩

def refusedMember : GroupRelayMember :=
  ⟨some (ascii "https://refused.example"), some (ascii "their-token"), false, true⟩

end Resolve

/-- The refused card resolves to our own mailbox, and takes the copy of the member that
blocks it along. -/
theorem refused_card_takes_group_home :
    let own : RelayEndpoint := ⟨ascii "https://ours.example", ascii "our-token"⟩
    relayEndpointFrom (some own.url) (some own.token) = some own ∧
      silentMember.Blocks Sample.primitives (some own) ∧
      coreGroupFanoutRelayTarget Sample.primitives [silentMember, refusedMember] (some own.url)
        (some own.token) = some own := by
  decide +kernel

end CruiseMesh
