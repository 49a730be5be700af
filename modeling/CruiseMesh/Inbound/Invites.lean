import CruiseMesh.Inbound.Effects

/-!
# Group invites

An invite carries a group's id, key, name and members, and neither its revision nor who
changed it last: what is decoded is always a group of revision 0. The arm looks whether the
sender is on the list in the invite. The upsert looks whether the stored group is newer. Nobody
looks whether the sender is on the list that is stored.

So an invite from somebody who is no member replaces a group that was never renamed
(`invite_authority_iff`), and one from a member, with a rotated key, does not get through to a
group that was (`rotated_key_reaches_iff`).
-/

namespace CruiseMesh
open Wire Durable Latest GroupsOrder List Utf8

/-! ## The encoding -/

/-- What is left of a group in an invite. -/
def Group.invited (group : Group) : Group :=
  { group with
    memberUserIds := canonicalizeMembers group.memberUserIds
    metadataRevision := 0
    metadataChangedBy := [] }

theorem mem_canonicalizeMembers {id : Bytes} {ids : List Bytes} :
    id ∈ canonicalizeMembers ids ↔ id ∈ ids := by
  rw [canonicalizeMembers_eq, mem_dedup, mem_insertionSort]

theorem canonicalizeMembers_idem (ids : List Bytes) :
    canonicalizeMembers (canonicalizeMembers ids) = canonicalizeMembers ids := by
  rw [canonicalizeMembers_eq (canonicalizeMembers ids), insertionSort_canonicalizeMembers]
  exact (nodup_canonicalizeMembers ids).dedup

theorem validateIdWidth_eq_ok {id : Bytes} {width : Nat} {label : String} {u : Unit} :
    validateIdWidth id width label = .ok u ↔ id.length = width := by
  unfold validateIdWidth
  rw [refuseWhen_eq_ok, not_not]

theorem validateMemberUserIds_eq_ok {ids : List Bytes} {u : Unit} :
    validateMemberUserIds ids = .ok u ↔
      ids.length ≤ maxGroupMembers ∧ ∀ member ∈ ids, member.length = userIdLen := by
  unfold validateMemberUserIds validateUserId
  simp only [bind_eq_ok, refuseWhen_eq_ok, not_lt, exists_const]
  exact and_congr_right fun _ => forM_eq_ok.trans (forall₂_congr fun _ _ => validateIdWidth_eq_ok)

/-- What a group that validates is like. -/
theorem validateGroup_eq_ok {group : Group} {u : Unit} : validateGroup group = .ok u ↔
    group.id.length = groupIdLen ∧ validateGroupName group.name = .ok () ∧
      (group.memberUserIds.length ≤ maxGroupMembers ∧
        ∀ member ∈ group.memberUserIds, member.length = userIdLen) ∧
      group.key.length = groupKeyLen ∧
      (group.metadataChangedBy ≠ [] → group.metadataChangedBy.length = userIdLen) := by
  unfold validateGroup validateGroupId validateUserId
  have hlast : ∀ v : Unit, (if group.metadataChangedBy ≠ [] then
      validateIdWidth group.metadataChangedBy userIdLen "group metadata changed_by"
      else pure ()) = .ok v ↔
        (group.metadataChangedBy ≠ [] → group.metadataChangedBy.length = userIdLen) := by
    intro v
    split
    · rename_i hchanged
      rw [validateIdWidth_eq_ok]
      exact ⟨fun h _ => h, fun h => h hchanged⟩
    · rename_i hchanged
      exact ⟨fun _ h => absurd h hchanged, fun _ => rfl⟩
  simp only [bind_eq_ok, refuseWhen_eq_ok, validateIdWidth_eq_ok, validateMemberUserIds_eq_ok,
    hlast, not_not, exists_const]
  exact Iff.rfl.and (⟨fun ⟨_, h⟩ => h, fun h => ⟨(), h⟩⟩)

/-- An invite says nothing about revisions. -/
theorem decodeGroupInviteContent_fields {bytes : Bytes} {group : Group}
    (h : decodeGroupInviteContent bytes = .ok group) :
    validateGroup group = .ok () ∧ group.invited = group := by
  obtain ⟨found, hread, h⟩ := bind_eq_ok.mp h
  obtain ⟨_, hvalid, h⟩ := bind_eq_ok.mp h
  cases h
  refine ⟨hvalid, ?_⟩
  obtain ⟨_, hread, _⟩ := readAll_eq_ok hread
  obtain ⟨id, _, _, hread⟩ := reader_bind_eq_ok.mp hread
  obtain ⟨key, _, _, hread⟩ := reader_bind_eq_ok.mp hread
  obtain ⟨name, _, _, hread⟩ := reader_bind_eq_ok.mp hread
  obtain ⟨_, _, _, hread⟩ := reader_bind_eq_ok.mp hread
  obtain ⟨_, _, _, hread⟩ := reader_bind_eq_ok.mp hread
  obtain ⟨count, _, _, hread⟩ := reader_bind_eq_ok.mp hread
  obtain ⟨_, _, _, hread⟩ := reader_bind_eq_ok.mp hread
  obtain ⟨members, _, _, hread⟩ := reader_bind_eq_ok.mp hread
  obtain ⟨rfl, _⟩ := ok_pair_inj hread
  unfold Group.invited
  rw [canonicalizeMembers_idem]

theorem reads_takeUserId (truncated : Nat → Nat → CoreError) (label : String) {userId : Bytes}
    (h : userId.length = userIdLen) :
    Reads (takeUserId truncated label) (beBytes 2 userId.length ++ userId) userId := by
  have hfits : userId.length < 256 ^ 2 := by
    rw [h]
    decide
  have hvalid : validateUserId userId label = .ok () := validateIdWidth_eq_ok.mpr h
  rw [← append_nil (_ ++ userId)]
  refine (reads_takePrefixed hfits).bind ?_
  rw [hvalid]
  exact (Reads.lift ()).bind (Reads.pure userId)

/-- An invite is decoded as the group it was made of, without the revision. The name of a group
is text. -/
theorem decodeGroupInviteContent_encoded {group : Group} {content : Bytes}
    (hname : fault group.name = none) (henc : encodeGroupInviteContent group = .ok content) :
    decodeGroupInviteContent content = .ok group.invited := by
  obtain ⟨_, hvalid, henc⟩ := bind_eq_ok.mp henc
  cases henc
  obtain ⟨hid, hname', ⟨hcount, hmembers⟩, hkey, -⟩ := validateGroup_eq_ok.mp hvalid
  have hsub : (canonicalizeMembers group.memberUserIds).length ≤ maxGroupMembers := by
    refine le_trans (destutter_sublist _ _).length_le ?_
    rwa [length_insertionSort]
  have hinvited : validateGroup group.invited = .ok () := by
    refine validateGroup_eq_ok.mpr ⟨hid, hname', ⟨hsub, fun member hmem => ?_⟩, hkey, fun h => ?_⟩
    · exact hmembers member (mem_canonicalizeMembers.mp hmem)
    · exact absurd rfl h
  have hutf8 : requireUtf8 "group invite name is not UTF-8: " group.name = .ok () := by
    rw [requireUtf8, hname]
  have hnameLen : group.name.length < 256 ^ 2 := by
    obtain ⟨_, _, hlen⟩ := bind_eq_ok.mp hname'
    rw [refuseWhen_eq_ok] at hlen
    unfold maxGroupNameBytes at hlen
    omega
  have hcount : (canonicalizeMembers group.memberUserIds).length < 256 ^ 2 :=
    hsub.trans_lt (by decide)
  have hread : ∀ truncated, Reads (readGroupInvite truncated) (group.id ++ (group.key ++
      ((beBytes 2 group.name.length ++ group.name) ++
        (beBytes 2 (canonicalizeMembers group.memberUserIds).length ++
          (canonicalizeMembers group.memberUserIds).flatMap fun member =>
            beBytes 2 member.length ++ member)))) group.invited := by
    intro truncated
    refine (reads_take hid).bind ((reads_take hkey).bind ((reads_takePrefixed hnameLen).bind ?_))
    rw [hutf8]
    refine (Reads.lift ()).bind ?_
    rw [hname']
    refine (Reads.lift ()).bind ((reads_takeNat_of_lt hcount).bind ?_)
    rw [refuseWhen_neg (not_lt.mpr hsub)]
    refine (Reads.lift ()).bind ?_
    have hlist := (reads_takeMany (canonicalizeMembers group.memberUserIds) fun member hmem =>
      reads_takeUserId truncated "group member UserID"
        (hmembers member (mem_canonicalizeMembers.mp hmem))).bind_pure fun members : List Bytes =>
          ({ group.invited with memberUserIds := canonicalizeMembers members } : Group)
    rw [canonicalizeMembers_idem] at hlist
    exact hlist
  unfold decodeGroupInviteContent
  simp only [append_assoc] at hread ⊢
  rw [(hread _).readAll]
  show (validateGroup group.invited >>= fun _ => pure group.invited) = _
  rw [hinvited]
  rfl

/-! ## What an invite does -/

/-- What an invite can change about a group. -/
def Group.face (group : Group) : Bytes × Bytes × List Bytes :=
  (group.key, group.name, group.memberUserIds)

/-- The name or the members of the group were changed at some time. -/
def Group.Amended (group : Group) : Prop :=
  0 < group.metadataRevision ∨ group.metadataChangedBy ≠ []

instance (group : Group) : Decidable group.Amended := inferInstanceAs (Decidable (_ ∨ _))

/-- An invite is older than a group that was changed, and no older than any other. -/
theorem older_invited (group held : Group) : older group.invited held ↔ held.Amended := by
  unfold older Group.Amended Group.invited
  cases hby : held.metadataChangedBy with
  | nil => simp [not_lt_nil]
  | cons b rest =>
    have hlt : ([] : Bytes) < b :: rest := nil_lt_cons b rest
    simp only [hlt, and_true, ne_eq, reduceCtorEq, not_false_eq_true, or_true, iff_true]
    omega

variable {P : Primitives} {R : InboundReaders} {w : Surroundings} {m : Inbound}
  {body : ExtendedMessageBody} {s : InboundStore} {group held : Group}

theorem inviteGroup_eq_ok : m.inviteGroup body = .ok group ↔
    decodeGroupInviteContent body.content = .ok group ∧ m.senderUserId ∈ group.memberUserIds ∧
      m.identity.userId ∈ group.memberUserIds := by
  unfold Inbound.inviteGroup
  simp only [bind_eq_ok, decoded_eq_ok, refuseWhen_eq_ok, not_or, not_not]
  constructor
  · rintro ⟨found, hdecode, _, hlisted, hok⟩
    cases hok
    exact ⟨hdecode, hlisted⟩
  · rintro ⟨hdecode, hlisted⟩
    exact ⟨group, hdecode, (), hlisted, rfl⟩

theorem broughtGroup_eq_some : broughtGroup w m s = some group ↔
    ∃ body, passingBody w m s = some body ∧ deliveryArm m.pairwise body.kind = .groupInvite ∧
      w.faults .upsertGroup = none ∧ m.inviteGroup body = .ok group := by
  unfold broughtGroup
  cases passingBody w m s with
  | none => simp
  | some body =>
    simp [toOption_eq_some, and_assoc]

/-- A group that is brought is valid, and of revision 0. -/
theorem broughtGroup_fields (h : broughtGroup w m s = some group) :
    validateGroup group = .ok () ∧ group.invited = group := by
  obtain ⟨body, _, _, _, hinvite⟩ := broughtGroup_eq_some.mp h
  exact decodeGroupInviteContent_fields (inviteGroup_eq_ok.mp hinvite).1

/-- The groups after a delivery. -/
theorem getGroup_deliver (groupId : Bytes) :
    ((coreDeliverInbound P R w m).final s).getGroup groupId =
      match broughtGroup w m s with
      | none => s.getGroup groupId
      | some group =>
        if group.id = groupId then keepLatest older (s.getGroup groupId) group
        else s.getGroup groupId := by
  have htables := groupTables_deliver (P := P) (R := R) (w := w) (m := m) (s := s)
  cases hgroup : broughtGroup w m s with
  | none =>
    rw [hgroup] at htables
    exact getGroup_congr htables groupId
  | some group =>
    rw [hgroup] at htables
    obtain ⟨hvalid, hinvited⟩ := broughtGroup_fields hgroup
    have hcanonical : canonical group = group := by
      rw [← hinvited]
      unfold canonical Group.invited
      rw [canonicalizeMembers_idem]
    obtain ⟨s', hreturns, hget⟩ := returns_upsertGroup (s := s.toStore) w.clock hvalid
    rw [hcanonical] at hget
    rw [getGroup_congr htables groupId, hreturns.2, hget]

/-! ## Who may change a group -/

/-- A group that a delivery changes is changed by one of its members. -/
def ChangedByMembers (P : Primitives) (R : InboundReaders) (w : Surroundings) (m : Inbound)
    (s : InboundStore) : Prop :=
  ∀ groupId held, s.getGroup groupId = some held →
    (((coreDeliverInbound P R w m).final s).getGroup groupId).map Group.face ≠ some held.face →
      m.senderUserId ∈ held.memberUserIds

/-- **A delivery changes a group on a member's word exactly when an invite from anybody else
finds the group changed before, or says what is stored.** -/
theorem invite_authority_iff (P : Primitives) (R : InboundReaders) (w : Surroundings) (m : Inbound)
    (s : InboundStore) : ChangedByMembers P R w m s ↔
      ∀ group held, broughtGroup w m s = some group → s.getGroup group.id = some held →
        m.senderUserId ∈ held.memberUserIds ∨ held.Amended ∨ group.face = held.face := by
  constructor
  · intro h group held hbrought hheld
    by_contra hnot
    rw [not_or, not_or] at hnot
    obtain ⟨hstranger, hnever, hother⟩ := hnot
    refine hstranger (h group.id held hheld ?_)
    have holder : ¬ older group held := by
      rw [← (broughtGroup_fields hbrought).2, older_invited]
      exact hnever
    rw [getGroup_deliver, hbrought, hheld]
    simpa [keepLatest, holder] using hother
  · intro h groupId held hheld hchanged
    rw [getGroup_deliver, hheld] at hchanged
    cases hbrought : broughtGroup w m s with
    | none =>
      rw [hbrought] at hchanged
      exact absurd rfl hchanged
    | some group =>
      rw [hbrought] at hchanged
      dsimp only at hchanged
      by_cases hid : group.id = groupId
      · subst hid
        rw [if_pos rfl] at hchanged
        rcases h group held hbrought hheld with hmember | hamended | hsame
        · exact hmember
        · have holder : older group held := by
            rw [← (broughtGroup_fields hbrought).2, older_invited]
            exact hamended
          rw [keepLatest_of_older holder] at hchanged
          exact absurd rfl hchanged
        · by_cases holder : older group held
          · rw [keepLatest_of_older holder] at hchanged
            exact absurd rfl hchanged
          · refine absurd ?_ hchanged
            simpa [keepLatest, holder] using hsame
      · rw [if_neg hid] at hchanged
        exact absurd rfl hchanged

section Example
open Sample

/-- A device that has the group of the persons 1 and 2, and the person 3 as a contact. -/
def crewDevice : InboundStore where
  toStore := { crewStore with contacts := [contactNumber 3] }

/-- An invite of the person 3 to that group, with a key of their own and without the person 2. -/
def takeoverInvite : Inbound :=
  arriving 3 none
    { kind := kindGroupInvite, chatId := userNumber 3, lamport := 1, timestamp := 5
      content := (encodeGroupInviteContent
        { crew with memberUserIds := [userNumber 1, userNumber 3], key := replicate 32 9 }
        ).toOption.getD [] }

/-- Somebody who is no member takes the group over. -/
theorem invite_takes_over_group :
    ¬ ChangedByMembers primitives noReaders calm takeoverInvite crewDevice := by
  intro h
  have hheld : crewDevice.getGroup crew.id = some crew := by decide
  have hmember := h crew.id crew hheld (by decide +kernel)
  exact absurd hmember (by decide)

end Example

/-! ## Rotating the key -/

/-- The envelope brings the invite to a group whose key has been rotated. -/
structure BringsRotation (m : Inbound) (body : ExtendedMessageBody) (group : Group)
    (memberUserIds : List Bytes) (freshKey : Bytes) : Prop where
  payload : decodeExtendedMessageBody m.payload = .ok body
  kind : body.kind = kindGroupInvite
  content : (rotateGroup group memberUserIds freshKey >>= encodeGroupInviteContent) =
    .ok body.content

/-- The group has the new key, and the new members. -/
def Group.HasRotation (group : Group) (memberUserIds : List Bytes) (freshKey : Bytes) : Prop :=
  group.key = freshKey ∧ group.memberUserIds = canonicalizeMembers memberUserIds

instance (group : Group) (memberUserIds : List Bytes) (freshKey : Bytes) :
    Decidable (group.HasRotation memberUserIds freshKey) := inferInstanceAs (Decidable (_ ∧ _))

/-- What the invite is decoded as. -/
def Group.rotatedInvite (group : Group) (memberUserIds : List Bytes) (freshKey : Bytes) : Group :=
  Group.invited { group with memberUserIds := canonicalizeMembers memberUserIds, key := freshKey }

variable {memberUserIds : List Bytes} {freshKey : Bytes}

theorem BringsRotation.decoded (h : BringsRotation m body group memberUserIds freshKey)
    (hname : fault group.name = none) :
    decodeGroupInviteContent body.content = .ok (group.rotatedInvite memberUserIds freshKey) := by
  obtain ⟨rotated, hrotate, hencode⟩ := bind_eq_ok.mp h.content
  obtain ⟨_, _, hrotate⟩ := bind_eq_ok.mp hrotate
  obtain ⟨_, _, hrotate⟩ := bind_eq_ok.mp hrotate
  cases hrotate
  exact decodeGroupInviteContent_encoded hname hencode

theorem deliveryArm_groupInvite : deliveryArm m.pairwise kindGroupInvite = .groupInvite ↔
    m.pairwise = true := by
  cases m.pairwise with
  | false => decide
  | true => decide

/-- The invite gets to the store exactly when it passes the gates and lists its sender. -/
theorem BringsRotation.brought_iff (h : BringsRotation m body group memberUserIds freshKey)
    (hname : fault group.name = none) (hkept : m.identity.userId ∈ memberUserIds)
    {found : Group} : broughtGroup w m s = some found ↔
      (passingBody w m s = some body ∧ m.pairwise = true ∧ w.faults .upsertGroup = none ∧
        m.senderUserId ∈ memberUserIds) ∧ group.rotatedInvite memberUserIds freshKey = found := by
  have hmem : ∀ id, id ∈ (group.rotatedInvite memberUserIds freshKey).memberUserIds ↔
      id ∈ memberUserIds := fun id => mem_canonicalizeMembers.trans mem_canonicalizeMembers
  rw [broughtGroup_eq_some]
  constructor
  · rintro ⟨body', hpass, harm, hfault, hinvite⟩
    cases (passingBody_eq_some.mp hpass).1.symm.trans h.payload
    rw [h.kind, deliveryArm_groupInvite] at harm
    obtain ⟨hdecode, hsender, _⟩ := inviteGroup_eq_ok.mp hinvite
    cases (h.decoded hname).symm.trans hdecode
    exact ⟨⟨hpass, harm, hfault, (hmem _).mp hsender⟩, rfl⟩
  · rintro ⟨⟨hpass, hpairwise, hfault, hsender⟩, rfl⟩
    refine ⟨body, hpass, ?_, hfault, inviteGroup_eq_ok.mpr ⟨h.decoded hname, ?_, ?_⟩⟩
    · rw [h.kind]
      exact deliveryArm_groupInvite.mpr hpairwise
    · exact (hmem _).mpr hsender
    · exact (hmem _).mpr hkept

/-- **A rotated key reaches a member exactly when the invite passes the gates, lists its sender,
and finds a group whose name and members were never changed.** Otherwise the group has the key
and the members only if it had them before. -/
theorem rotated_key_reaches_iff (P : Primitives) (R : InboundReaders)
    (hbrings : BringsRotation m body held memberUserIds freshKey)
    (hname : fault held.name = none) (hheld : s.getGroup held.id = some held)
    (hkept : m.identity.userId ∈ memberUserIds) :
    (∃ after, ((coreDeliverInbound P R w m).final s).getGroup held.id = some after ∧
      after.HasRotation memberUserIds freshKey) ↔
      (passingBody w m s = some body ∧ m.pairwise = true ∧ w.faults .upsertGroup = none ∧
        m.senderUserId ∈ memberUserIds) ∧ ¬ held.Amended ∨
      held.HasRotation memberUserIds freshKey := by
  rw [getGroup_deliver, hheld]
  cases hbrought : broughtGroup w m s with
  | none =>
    have hnot : ¬ (passingBody w m s = some body ∧ m.pairwise = true ∧
        w.faults .upsertGroup = none ∧ m.senderUserId ∈ memberUserIds) := by
      intro hreach
      cases hbrought.symm.trans ((hbrings.brought_iff hname hkept).mpr ⟨hreach, rfl⟩)
    simp [hnot]
  | some found =>
    obtain ⟨hreach, rfl⟩ := (hbrings.brought_iff hname hkept).mp hbrought
    have hid : (held.rotatedInvite memberUserIds freshKey).id = held.id := rfl
    have holder : older (held.rotatedInvite memberUserIds freshKey) held ↔ held.Amended :=
      older_invited _ held
    dsimp only
    rw [if_pos hid]
    by_cases hamended : held.Amended
    · rw [keepLatest_of_older (holder.mpr hamended)]
      simp [hamended]
    have hnew : ∀ a ∈ some held, ¬ older (held.rotatedInvite memberUserIds freshKey) a := by
      intro a ha
      cases ha
      exact fun h => hamended (holder.mp h)
    rw [keepLatest_of_not_older hnew]
    constructor
    · exact fun _ => .inl ⟨hreach, hamended⟩
    · exact fun _ => ⟨_, rfl, rfl, canonicalizeMembers_idem memberUserIds⟩

section Example
open Sample

/-- The crew with the person 3 on board. -/
def fullCrew : Group := { crew with memberUserIds := [userNumber 1, userNumber 2, userNumber 3] }

/-- The same crew when the person 2 has renamed it. -/
def nightCrew : Group :=
  { fullCrew with
    name := ascii "Night crew", metadataRevision := 1, metadataChangedBy := userNumber 2 }

/-- The device of a member, with the person 2 as a contact. -/
def memberDevice (group : Group) : InboundStore where
  toStore := { ({} : Store).withGroup group 0 with contacts := [contactNumber 2] }

/-- The body of an invite that takes the person 3 out and rotates the key. -/
def rotationBody (group : Group) : MessageBody where
  kind := kindGroupInvite
  chatId := userNumber 2
  lamport := 1
  timestamp := 5
  content := (do
    let rotated ← rotateGroup group [userNumber 1, userNumber 2] (replicate 32 8)
    encodeGroupInviteContent rotated).toOption.getD []

theorem bringsRotation_arriving (group : Group) (hgroup : group = fullCrew ∨ group = nightCrew) :
    BringsRotation (arriving 2 none (rotationBody group))
      { kind := kindGroupInvite, chatId := userNumber 2, lamport := 1, timestamp := 5
        content := (rotationBody group).content }
      group [userNumber 1, userNumber 2] (replicate 32 8) := by
  rcases hgroup with rfl | rfl
  · exact ⟨by decide +kernel, rfl, by decide +kernel⟩
  · exact ⟨by decide +kernel, rfl, by decide +kernel⟩

/-- The key of a group that was never renamed is rotated. -/
theorem rotated_key_reaches_crew :
    ∃ after, ((coreDeliverInbound primitives noReaders calm
        (arriving 2 none (rotationBody fullCrew))).final (memberDevice fullCrew)).getGroup
          fullCrew.id = some after ∧
      after.HasRotation [userNumber 1, userNumber 2] (replicate 32 8) :=
  (rotated_key_reaches_iff primitives noReaders (bringsRotation_arriving fullCrew (.inl rfl))
    (by decide) (by decide) (by decide)).mpr (.inl ⟨by decide +kernel, by decide⟩)

/-- A member of a group that was renamed keeps the old key, and reports the invite as applied. -/
theorem rotated_key_lost_after_rename :
    let m := arriving 2 none (rotationBody nightCrew)
    let delivery := coreDeliverInbound primitives noReaders calm m
    (∃ body, BringsRotation m body nightCrew [userNumber 1, userNumber 2] (replicate 32 8)) ∧
      m.senderUserId ∈ nightCrew.memberUserIds ∧
      (delivery.result (memberDevice nightCrew)).map (·.verdict) = .ok .applied ∧
      ∀ after ∈ (delivery.final (memberDevice nightCrew)).getGroup nightCrew.id,
        after = nightCrew ∧
          ¬ after.HasRotation [userNumber 1, userNumber 2] (replicate 32 8) :=
  ⟨⟨_, bringsRotation_arriving nightCrew (.inr rfl)⟩, by decide, by decide +kernel,
    by decide +kernel⟩

end Example
end CruiseMesh
