import CruiseMesh.Inbound.Invites

/-!
# Updates of a group's metadata

An update carries a name, the revision and the member it is from, and a list of members. Of
two names the later one stays, by revision and then by who chose it. Members are only ever
added, also by an update whose name loses. So the updates of a group may come in any order and
more than once (`metadata_updates_converge`).
-/

namespace CruiseMesh
open Latest GroupsOrder List

/-- An update comes in; one that is refused or stale leaves the group as it is. -/
def Group.updated (group : Group) (update : GroupMetadataUpdate) : Group :=
  match applyGroupMetadataUpdate group update update.changedBy with
  | .ok (some after) => after
  | _ => group

/-- The group as an update of itself. -/
def Group.ownUpdate (group : Group) : GroupMetadataUpdate where
  groupId := group.id
  name := group.name
  revision := group.metadataRevision
  changedBy := group.metadataChangedBy
  memberUserIds := group.memberUserIds

/-- The later of the two names, and the members of both. -/
def Group.mergedWith (group : Group) (update : GroupMetadataUpdate) : Group :=
  let later := if update.nameWins group then update else group.ownUpdate
  { group with
    name := later.name
    metadataRevision := later.revision
    metadataChangedBy := later.changedBy
    memberUserIds := canonicalizeMembers (group.memberUserIds ++ update.memberUserIds) }

/-- Valid updates of `base` by members of it, with room for all the members, no two of them of
one revision by one member. Those above `base` differ from it in that too. -/
structure Mergeable (base : Group) (updates : List GroupMetadataUpdate) : Prop where
  valid : ∀ u ∈ updates, validateGroupMetadataUpdate u = .ok () ∧ u.groupId = base.id
  author : ∀ u ∈ updates, u.changedBy ∈ base.memberUserIds
  room : (canonicalizeMembers (base.memberUserIds ++ updates.flatMap (·.memberUserIds))).length ≤
    maxGroupMembers
  distinct : ∀ u ∈ base.ownUpdate :: updates, ∀ v ∈ base.ownUpdate :: updates,
    u.revision = v.revision → u.changedBy = v.changedBy → u = v

variable {base group : Group} {update : GroupMetadataUpdate}
  {updates told : List GroupMetadataUpdate}

/-- A valid update by a member is merged, if there is room for the members it adds. -/
theorem updated_eq (hgroup : validateGroup group = .ok ())
    (hvalid : validateGroupMetadataUpdate update = .ok ()) (hid : update.groupId = group.id)
    (hauthor : update.changedBy ∈ group.memberUserIds)
    (hroom : (canonicalizeMembers (group.memberUserIds ++ update.memberUserIds)).length ≤
      maxGroupMembers) :
    group.updated update = group.mergedWith update ∧
      validateGroup (group.mergedWith update) = .ok () := by
  obtain ⟨hgid, hname, ⟨-, hheld⟩, hkey, hby⟩ := validateGroup_eq_ok.mp hgroup
  obtain ⟨_, -, hfields⟩ := bind_eq_ok.mp hvalid
  obtain ⟨_, -, hfields⟩ := bind_eq_ok.mp hfields
  obtain ⟨_, hchanged, hfields⟩ := bind_eq_ok.mp hfields
  obtain ⟨_, hnew, hadded⟩ := bind_eq_ok.mp hfields
  have hmerged : validateMemberUserIds
      (canonicalizeMembers (group.memberUserIds ++ update.memberUserIds)) = .ok () := by
    refine validateMemberUserIds_eq_ok.mpr ⟨hroom, fun member hmem => ?_⟩
    rcases mem_append.mp (mem_canonicalizeMembers.mp hmem) with h | h
    · exact hheld member h
    · exact (validateMemberUserIds_eq_ok.mp hadded).2 member h
  constructor
  · unfold Group.updated applyGroupMetadataUpdate
    rw [bind_of_ok hgroup, bind_of_ok hvalid, bind_of_ok (refuseWhen_neg (not_not.mpr hid)),
      bind_of_ok (refuseWhen_neg (not_not.mpr rfl)),
      bind_of_ok (refuseWhen_neg (not_not.mpr hauthor))]
    dsimp only
    rw [bind_of_ok hmerged, Group.mergedWith]
    by_cases hwins : update.nameWins group
    · simp [hwins, pure, Except.pure]
    · by_cases hsame : canonicalizeMembers (group.memberUserIds ++ update.memberUserIds) =
          group.memberUserIds
      · simp [hwins, hsame, pure, Except.pure, Group.ownUpdate]
      · simp [hwins, hsame, pure, Except.pure, Group.ownUpdate]
  · rw [validateGroup_eq_ok, ← validateMemberUserIds_eq_ok, Group.mergedWith]
    split
    · exact ⟨hgid, hnew, hmerged, hkey, fun _ => validateIdWidth_eq_ok.mp hchanged⟩
    · exact ⟨hgid, hname, hmerged, hkey, hby⟩

variable (base told) in
/-- The group has the latest of the names it was told of, and all the members. -/
structure MetadataMerged (group : Group) : Prop where
  id : group.id = base.id
  valid : validateGroup group = .ok ()
  name : ∃ v ∈ told, group.name = v.name ∧ group.metadataRevision = v.revision ∧
    group.metadataChangedBy = v.changedBy
  latest : ∀ u ∈ told, ¬ u.nameWins group
  members : ∀ id, id ∈ group.memberUserIds ↔ ∃ u ∈ told, id ∈ u.memberUserIds

theorem MetadataMerged.updated (h : MetadataMerged base told group)
    (hmerge : Mergeable base updates) (hown : base.ownUpdate ∈ told)
    (htold : told ++ [update] ⊆ base.ownUpdate :: updates) (hmem : update ∈ updates) :
    MetadataMerged base (told ++ [update]) (group.updated update) := by
  have hmembers : ∀ id, id ∈ (group.mergedWith update).memberUserIds ↔
      ∃ u ∈ told ++ [update], id ∈ u.memberUserIds := by
    intro id
    refine mem_canonicalizeMembers.trans ?_
    rw [mem_append, h.members]
    simp [or_and_right, exists_or]
  have hroom : (group.mergedWith update).memberUserIds.length ≤ maxGroupMembers := by
    refine le_trans (Subperm.length_le ?_) hmerge.room
    refine (nodup_canonicalizeMembers _).subperm fun id hid => mem_canonicalizeMembers.mpr ?_
    obtain ⟨u, hu, hid⟩ := (hmembers id).mp hid
    exact mem_flatMap.mpr ⟨u, htold hu, hid⟩
  obtain ⟨hvalid, hid⟩ := hmerge.valid update hmem
  have hauthor := (h.members _).mpr ⟨_, hown, hmerge.author update hmem⟩
  obtain ⟨heq, hafter⟩ := updated_eq h.valid hvalid (hid.trans h.id.symm) hauthor hroom
  rw [heq]
  refine ⟨h.id, hafter, ?_, fun u hu hwins => ?_, hmembers⟩
  · obtain ⟨v, hv, hname⟩ := h.name
    unfold Group.mergedWith
    split
    · exact ⟨update, by simp, rfl, rfl, rfl⟩
    · exact ⟨v, mem_append_left _ hv, hname⟩
  · rw [mem_append, mem_singleton] at hu
    unfold Group.mergedWith at hwins
    split at hwins
    · rename_i hnew
      rcases hu with hu | rfl
      · exact h.latest u hu (ages_older.trans (b := { group with
          metadataRevision := update.revision, metadataChangedBy := update.changedBy })
          (c := { group with metadataRevision := u.revision, metadataChangedBy := u.changedBy })
          hnew hwins)
      · exact ages_older.irrefl { group with
          metadataRevision := u.revision, metadataChangedBy := u.changedBy } hwins
    · rename_i hold
      rcases hu with hu | rfl
      · exact h.latest u hu hwins
      · exact hold hwins

theorem metadataMerged_foldl (hmerge : Mergeable base updates) (hbase : validateGroup base = .ok ())
    {order : List GroupMetadataUpdate} (horder : order ⊆ updates) :
    MetadataMerged base ([base.ownUpdate] ++ order) (order.foldl Group.updated base) := by
  induction order using reverseRecOn with
  | nil =>
    refine ⟨rfl, hbase, ⟨base.ownUpdate, by simp, rfl, rfl, rfl⟩, fun u hu => ?_, ?_⟩
    · rw [mem_singleton.mp hu]
      exact ages_older.irrefl base
    · simp [Group.ownUpdate]
  | append_singleton front update ih =>
    rw [← append_assoc, foldl_append]
    refine (ih fun u hu => horder (mem_append_left _ hu)).updated hmerge (by simp) ?_
      (horder (by simp))
    rw [append_assoc]
    exact cons_subset_cons _ horder

/-- Whatever the order in which the updates come, and however often each of them does, the group
gets the same name, of the same revision by the same member, and the same members. -/
theorem metadata_updates_converge {updates' : List GroupMetadataUpdate}
    (hmerge : Mergeable base updates) (hsame : ∀ u, u ∈ updates ↔ u ∈ updates') :
    let group := updates.foldl Group.updated base
    let group' := updates'.foldl Group.updated base
    group.name = group'.name ∧ group.metadataRevision = group'.metadataRevision ∧
      group.metadataChangedBy = group'.metadataChangedBy ∧
      ∀ id, id ∈ group.memberUserIds ↔ id ∈ group'.memberUserIds := by
  intro group group'
  cases hbase : validateGroup base with
  | error e =>
    -- a group that does not validate takes no update
    have hstuck : ∀ u, base.updated u = base := by
      intro u
      simp only [Group.updated, applyGroupMetadataUpdate, hbase]
      rfl
    simp only [group, group', foldl_fixed' hstuck, implies_true, and_self]
  | ok =>
    have h := metadataMerged_foldl hmerge hbase (Subset.refl updates)
    have h' := metadataMerged_foldl hmerge hbase fun u hu => (hsame u).mpr hu
    have htold : ∀ u, u ∈ [base.ownUpdate] ++ updates ↔ u ∈ [base.ownUpdate] ++ updates' := by
      intro u
      rw [mem_append, mem_append, hsame]
    obtain ⟨v, hv, hname, hrev, hby⟩ := h.name
    obtain ⟨v', hv', hname', hrev', hby'⟩ := h'.name
    have hge := h.latest v' ((htold v').mpr hv')
    have hle := h'.latest v ((htold v).mp hv)
    unfold GroupMetadataUpdate.nameWins at hge hle
    rw [← hrev', ← hby'] at hge
    rw [← hrev, ← hby] at hle
    push Not at hge hle
    have hrevs := Nat.le_antisymm hle.1 hge.1
    have hbys := List.le_antisymm (hle.2 hrevs.symm) (hge.2 hrevs)
    refine ⟨?_, hrevs, hbys, fun id => ?_⟩
    · rw [hname, hname', hmerge.distinct v hv v' ((htold v').mpr hv')
        (hrev.symm.trans (hrevs.trans hrev')) (hby.symm.trans (hbys.trans hby'))]
    · rw [h.members, h'.members]
      simp only [htold]

/-- Both members of the crew rename it, and one of them brings in a third. -/
def twoNames : List GroupMetadataUpdate :=
  [{ groupId := crew.id, name := ascii "Day crew", revision := 1
     changedBy := replicate 16 1, memberUserIds := [replicate 16 3] },
   { groupId := crew.id, name := ascii "Night crew", revision := 1
     changedBy := replicate 16 2, memberUserIds := [] }]

theorem two_names_converge :
    let group := twoNames.foldl Group.updated crew
    let group' := (twoNames.reverse ++ twoNames).foldl Group.updated crew
    group.name = group'.name ∧ group.metadataRevision = group'.metadataRevision ∧
      group.metadataChangedBy = group'.metadataChangedBy ∧
      ∀ id, id ∈ group.memberUserIds ↔ id ∈ group'.memberUserIds :=
  metadata_updates_converge (by constructor <;> decide +kernel) (by simp)

end CruiseMesh
