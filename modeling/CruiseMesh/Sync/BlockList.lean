import CruiseMesh.Lib.Runs
import CruiseMesh.Sync.Cursors

/-!
# The block list of a fleet

Blocking somebody writes a row of this device's own table, and `core_sync_publish_block_list`
puts the whole table into one shared setting, which travels in Settings records. A sibling
merges the setting by its order `(epoch, author, value)` and blocks what it lists, but only
if the setting was taken. So a list that loses the merge blocks nobody: two devices that
block different people before they hear of each other stay apart, whatever is delivered
afterwards (`concurrent_block_is_lost`). In a history in which every list that has news is
also taken, all of them are blocked everywhere (`block_lists_converge`).
-/

namespace CruiseMesh
open Wire Durable Prog List Table Store

/-! ## Publishing -/

variable (s : Store)

/-- `own_authoring_device_id`. -/
def Store.ownAuthoringDeviceId : Bytes :=
  coreDeviceStreamId ((s.ownFleet.find? (·.isSelf)).map (·.deviceId))

/-- `is_user_blocked`. -/
def Store.isUserBlocked (userId : Bytes) : Bool :=
  s.blockedIdentities.any fun row => row.userId = userId

/-- `list_blocked_users`. -/
def Store.listBlockedUsers : List Bytes :=
  (s.blockedIdentities.insertionSort fun a b => a.blockedAtMs ≤ b.blockedAtMs).map (·.userId)

/-- The setting a block list is published as. -/
def Store.blockEntry (epoch : Nat) : SyncSettingEntry where
  key := syncBlockedSettingKey
  value := encodeBlockList s.listBlockedUsers
  epoch := epoch
  authorDeviceId := s.ownAuthoringDeviceId

/-- `core_sync_publish_block_list`. -/
def coreSyncPublishBlockList (epoch : Nat) : Prog Store CoreError Bool := do
  let entry ← inspect fun s => s.blockEntry epoch
  putSetting entry

/-- `core_sync_settings_page`. -/
def Store.coreSyncSettingsPage (limit : Nat) : List SyncSettingEntry :=
  (s.syncSettings.insertionSort fun a b => a.key ≤ b.key).take limit

/-- The Settings record with a payload, in the next slot of this device's stream. What else
it says is taken from the draft. -/
def Store.settingsRecord (draft : SyncRecord) (payload : Bytes) : SyncRecord :=
  { draft with
    kind := .settings, authorDeviceId := s.ownAuthoringDeviceId
    streamSeq := s.nextStreamSeq s.ownAuthoringDeviceId .settings, payload }

/-- A Settings record of the current page, kept for siblings. -/
def authorSettings (limit : Nat) (draft : SyncRecord) (copy : SealedSyncRecord) (nowMs : Int) :
    Prog Store CoreError SyncRecord := do
  let page ← inspect fun s => s.coreSyncSettingsPage limit
  let payload ← coreEncodeSyncSettings page
  let record ← inspect fun s => s.settingsRecord draft payload
  let _ ← coreSyncRetainRecord record copy nowMs
  pure record

/-! ## The list as bytes -/

theorem mem_destutter (x : Bytes) : ∀ (l : List Bytes) (a : Bytes), x ∈ a :: l →
    x ∈ destutter' (· ≠ ·) a l
  | [], _, h => h
  | b :: l, a, h => by
    rw [destutter'_cons]
    split
    · rcases mem_cons.mp h with rfl | h
      · exact mem_cons_self
      · exact mem_cons_of_mem _ (mem_destutter x l b h)
    · rename_i heq
      obtain rfl := not_not.mp heq
      rcases mem_cons.mp h with rfl | h
      · exact mem_destutter x l x mem_cons_self
      · exact mem_destutter x l a h

theorem decodeBlockIds_encoded : ∀ ids : List Bytes, (∀ id ∈ ids, id.length ≤ u16Max) →
    decodeBlockIds ids.length (ids.flatMap fun id => beBytes 2 id.length ++ id) = ids
  | [], _ => rfl
  | id :: rest, hlen => by
    have hid : id.length % 256 ^ 2 = id.length :=
      Nat.mod_eq_of_lt (Nat.lt_succ_of_le (hlen id mem_cons_self))
    have htwo : (beBytes 2 id.length).length = 2 := beBytes_length _ _
    rw [length_cons, decodeBlockIds, flatMap_cons, append_assoc]
    rw [if_neg (by rw [length_append, htwo]; omega), take_left' htwo,
      drop_left' htwo, natOfBe_beBytes, hid]
    rw [if_neg (by rw [length_append]; omega), take_left' rfl, drop_left' rfl,
      decodeBlockIds_encoded rest fun later hmem => hlen later (mem_cons_of_mem _ hmem)]

/-- A list that fits the format lists everybody. -/
theorem mem_decodeBlockList {ids : List Bytes} (hcount : ids.length ≤ u16Max)
    (hlen : ∀ id ∈ ids, id.length ≤ u16Max) {id : Bytes} (hid : id ∈ ids) :
    id ∈ decodeBlockList (encodeBlockList ids) := by
  let sorted := (ids.insertionSort (· ≤ ·)).destutter (· ≠ ·)
  have hsub : sorted.Sublist (ids.insertionSort (· ≤ ·)) := destutter_sublist _ _
  have hshort : sorted.length ≤ u16Max := by
    have := hsub.length_le
    rw [length_insertionSort] at this
    omega
  have hbytes : encodeBlockList ids =
      beBytes 2 sorted.length ++ sorted.flatMap fun id => beBytes 2 id.length ++ id := by
    show beBytes 2 (min sorted.length u16Max) ++ _ = _
    rw [Nat.min_eq_left hshort, take_of_length_le hshort]
  have hmem : id ∈ sorted := by
    have hin : id ∈ ids.insertionSort (· ≤ ·) := (mem_insertionSort _).mpr hid
    cases hs : ids.insertionSort (· ≤ ·) with
    | nil =>
      rw [hs] at hin
      cases hin
    | cons a l =>
      show id ∈ (ids.insertionSort (· ≤ ·)).destutter (· ≠ ·)
      rw [hs] at hin ⊢
      exact mem_destutter id l a hin
  have htwo : (beBytes 2 sorted.length).length = 2 := beBytes_length _ _
  have hmod : sorted.length % 256 ^ 2 = sorted.length :=
    Nat.mod_eq_of_lt (Nat.lt_succ_of_le hshort)
  rw [hbytes, decodeBlockList, if_neg (by rw [length_append, htwo]; omega),
    take_left' htwo, drop_left' htwo, natOfBe_beBytes, hmod, decodeBlockIds_encoded]
  · exact hmem
  · exact fun other h => hlen other ((mem_insertionSort _).mp (hsub.subset h))

/-! ## Settings that can be sent -/

/-- Every stored setting can be sent and merged. -/
structure SettingsOk : Prop where
  keys : (s.syncSettings.map (·.key)).Nodup
  wellTyped : ∀ entry ∈ s.syncSettings, entry.WellTyped
  author : ∀ entry ∈ s.syncSettings, entry.authorDeviceId.length = deviceIdLen

variable {entry : SyncSettingEntry}

theorem SettingsOk.withSetting {s : Store} (h : SettingsOk s) (hwell : entry.WellTyped)
    (hauthor : entry.authorDeviceId.length = deviceIdLen) :
    SettingsOk (s.withSetting entry) := by
  refine ⟨nodup_upsert h.keys, fun held hheld => ?_, fun held hheld => ?_⟩
  · rcases mem_upsert hheld with hold | rfl
    · exact h.wellTyped held hold
    · exact hwell
  · rcases mem_upsert hheld with hold | rfl
    · exact h.author held hold
    · exact hauthor

theorem ownAuthoringDeviceId_length (s : Store) : s.ownAuthoringDeviceId.length = deviceIdLen := by
  unfold ownAuthoringDeviceId coreDeviceStreamId
  split
  · split
    · assumption
    · rfl
  · rfl

theorem setting_withSetting (s : Store) (entry : SyncSettingEntry) (key : Bytes) :
    (s.withSetting entry).setting key = if entry.key = key then some entry else s.setting key :=
  lookup_upsert _ _ _

/-- A proper entry is put, or passed over because the stored one stands. -/
theorem returns_putSetting {s : Store} (hauthor : entry.authorDeviceId.length = deviceIdLen) :
    (putSetting entry).Returns s (decide (∀ held ∈ s.setting entry.key, entry.supersedes held))
      (if ∀ held ∈ s.setting entry.key, entry.supersedes held then s.withSetting entry else s) := by
  unfold putSetting
  rw [refuseWhen_neg (not_not.mpr hauthor), lift_ok_bind]
  refine returns_inspect_bind.mpr ?_
  by_cases htakes : ∀ held ∈ s.setting entry.key, entry.supersedes held
  · rw [if_neg (by rintro ⟨held, hheld, hnot⟩; exact hnot (htakes held hheld)), if_pos htakes,
      decide_eq_true htakes]
    exact returns_bind.mpr ⟨(), _, returns_write.mpr rfl, ⟨rfl, rfl⟩⟩
  · have hstands : ∃ held ∈ s.setting entry.key, ¬ entry.supersedes held := by
      simpa using htakes
    rw [if_pos hstands, if_neg htakes, decide_eq_false htakes]
    exact ⟨rfl, rfl⟩

/-- Whatever it is cut short by, the entry is in the table or the table is as it was. -/
theorem throughout_putSetting (entry : SyncSettingEntry) (s : Store) :
    (putSetting entry).Throughout s fun s' => s' = s ∨ s' = s.withSetting entry := by
  refine throughout_lift_bind (.inl rfl) fun _ _ => throughout_inspect_bind.mpr ?_
  split
  · exact throughout_pure.mpr (.inl rfl)
  · refine throughout_bind (throughout_write.mpr ⟨.inl rfl, .inr rfl⟩) fun _ _ _ hmid => ?_
    exact throughout_pure.mpr hmid

/-! ## Merging a page -/

section Merge
variable {s : Store} (ownRoster : Option Roster) (nowMs : Int)

/-- What merging settings leaves alone. -/
def Store.besideSettings (s : Store) : List BlockedIdentityRow × List OwnFleetRow :=
  (s.blockedIdentities, s.ownFleet)

/-- A page of proper entries is merged as a whole. If it has a block list and that is
taken, the list is what is found. -/
theorem mergeSettings_spec : ∀ (entries : List SyncSettingEntry) (found : SettingsFound) {s : Store},
    SettingsOk s → (entries.map (·.key)).Nodup → (∀ entry ∈ entries, entry.WellTyped) →
    (∀ entry ∈ entries, entry.authorDeviceId.length = deviceIdLen) →
      ∃ found' s', (mergeSettings ownRoster nowMs entries found).Returns s found' s' ∧
        SettingsOk s' ∧ s'.besideSettings = s.besideSettings ∧
        ((∀ entry ∈ entries, entry.key ≠ syncBlockedSettingKey) →
          found'.newlyBlocked = found.newlyBlocked) ∧
        ∀ entry ∈ entries, entry.key = syncBlockedSettingKey →
          (∀ held ∈ s.setting syncBlockedSettingKey, entry.supersedes held) →
            found'.newlyBlocked = decodeBlockList entry.value
  | [], found, s, hs, _, _, _ =>
    ⟨found, s, ⟨rfl, rfl⟩, hs, rfl, fun _ => rfl, fun _ h => nomatch h⟩
  | entry :: rest, found, s, hs, hkeys, hwell, hauthor => by
    obtain ⟨hfresh, hkeys'⟩ := nodup_cons.mp hkeys
    have hwell' : ∀ later ∈ rest, later.WellTyped := fun later h => hwell later (mem_cons_of_mem _ h)
    have hauthor' : ∀ later ∈ rest, later.authorDeviceId.length = deviceIdLen :=
      fun later h => hauthor later (mem_cons_of_mem _ h)
    have hothers : entry.key = syncBlockedSettingKey →
        ∀ later ∈ rest, later.key ≠ syncBlockedSettingKey := by
      intro hentry later hmem hlater
      exact hfresh (mem_map.mpr ⟨later, hmem, hlater.trans hentry.symm⟩)
    unfold mergeSettings
    split
    · -- a credential that is not admitted is passed over
      rename_i hskip
      have hne : entry.key ≠ syncBlockedSettingKey := by
        rw [hskip.1]
        decide
      obtain ⟨found', s', hrun, hs', hbeside, hnone, hlist⟩ :=
        mergeSettings_spec rest { found with applied := found.applied + 1 } hs hkeys' hwell' hauthor'
      refine ⟨found', s', hrun, hs', hbeside, fun hno => hnone fun later hmem =>
        hno later (mem_cons_of_mem _ hmem), fun listed hmem hkey htakes => ?_⟩
      rcases mem_cons.mp hmem with rfl | hmem
      · exact absurd hkey hne
      · exact hlist listed hmem hkey htakes
    · have hput := returns_putSetting (s := s) (hauthor entry mem_cons_self)
      generalize hmid : (if ∀ held ∈ s.setting entry.key, entry.supersedes held then
        s.withSetting entry else s) = mid at hput
      have hsMid : SettingsOk mid := by
        rw [← hmid]
        split
        · exact hs.withSetting (hwell entry mem_cons_self) (hauthor entry mem_cons_self)
        · exact hs
      have hbesideMid : mid.besideSettings = s.besideSettings := by
        rw [← hmid]
        split <;> rfl
      have hsame : entry.key ≠ syncBlockedSettingKey →
          mid.setting syncBlockedSettingKey = s.setting syncBlockedSettingKey := by
        intro hne
        rw [← hmid]
        split
        · rw [setting_withSetting, if_neg hne]
        · rfl
      obtain ⟨found', s', hrun, hs', hbeside, hnone, hlist⟩ := mergeSettings_spec rest _ hsMid hkeys'
        hwell' hauthor'
      refine ⟨found', s', returns_bind.mpr ⟨_, mid, hput, hrun⟩, hs', hbeside.trans hbesideMid,
        fun hno => ?_, fun listed hmem hkey htakes => ?_⟩
      · rw [hnone fun later hmem => hno later (mem_cons_of_mem _ hmem)]
        exact if_neg fun h => hno entry mem_cons_self h.2
      · rcases mem_cons.mp hmem with rfl | hmem
        · rw [hnone (hothers hkey)]
          refine if_pos ⟨decide_eq_true ?_, hkey⟩
          rwa [hkey]
        · have hne : entry.key ≠ syncBlockedSettingKey := fun hentry =>
            hothers hentry listed hmem hkey
          exact hlist listed hmem hkey (hsame hne ▸ htakes)

theorem isUserBlocked_eq_true {s : Store} {id : Bytes} :
    s.isUserBlocked id = true ↔ ∃ row ∈ s.blockedIdentities, row.userId = id := by
  simp [isUserBlocked]

theorem isUserBlocked_blockUser (userId id : Bytes) :
    ((blockUser userId nowMs).final s).isUserBlocked id = true ↔
      s.isUserBlocked id = true ∨ id = userId := by
  have hrows : ((blockUser userId nowMs).final s).blockedIdentities =
      insertOrIgnore BlockedIdentityRow.userId { userId, blockedAtMs := nowMs }
        s.blockedIdentities := rfl
  rw [isUserBlocked_eq_true, isUserBlocked_eq_true, hrows]
  constructor
  · rintro ⟨row, hmem, rfl⟩
    rcases mem_insertOrIgnore hmem with hold | rfl
    · exact .inl ⟨row, hold, rfl⟩
    · exact .inr rfl
  · rintro (⟨row, hmem, hid⟩ | rfl)
    · exact ⟨row, subset_insertOrIgnore hmem, hid⟩
    · unfold insertOrIgnore
      split
      · assumption
      · exact ⟨_, mem_append_right _ mem_cons_self, rfl⟩

/-- Blocking a list blocks everybody on it, and nobody else. -/
theorem blockUsers_spec : ∀ (userIds : List Bytes) (s : Store), ∃ s',
    (blockUsers nowMs userIds).Returns s () s' ∧ s'.syncSettings = s.syncSettings ∧
      s'.ownFleet = s.ownFleet ∧
      ∀ id, s'.isUserBlocked id = true ↔ s.isUserBlocked id = true ∨ id ∈ userIds
  | [], s => ⟨s, ⟨rfl, rfl⟩, rfl, rfl, fun id => by simp⟩
  | userId :: rest, s => by
    obtain ⟨s', hrun, hsettings, hfleet, hblocked⟩ :=
      blockUsers_spec rest ((blockUser userId nowMs).final s)
    refine ⟨s', returns_bind.mpr ⟨(), _, ⟨rfl, rfl⟩, hrun⟩, hsettings, hfleet, fun id => ?_⟩
    rw [hblocked, isUserBlocked_blockUser, mem_cons, or_assoc]

end Merge

/-! ## A Settings record arrives -/

section Deliver
variable (P : Primitives) (readCard : CardReader) {s : Store} (delivery : Delivery)

/-- A record with these settings. -/
structure CarriesSettings (record : SyncRecord) (entries : List SyncSettingEntry) : Prop where
  kind : record.kind = .settings
  decodes : coreDecodeSyncSettings record.payload = .ok entries
  keys : (entries.map (·.key)).Nodup
  wellTyped : ∀ entry ∈ entries, entry.WellTyped
  author : ∀ entry ∈ entries, entry.authorDeviceId.length = deviceIdLen

/-- The ids a list of settings blocks. -/
def listedIds (entries : List SyncSettingEntry) (id : Bytes) : Prop :=
  ∃ entry ∈ entries, entry.key = syncBlockedSettingKey ∧ id ∈ decodeBlockList entry.value

/-- What a device whose table has news must do with a list: take it. -/
def Takes (s : Store) (entries : List SyncSettingEntry) : Prop :=
  ∀ entry ∈ entries, entry.key = syncBlockedSettingKey →
    (∀ held ∈ s.setting syncBlockedSettingKey, entry.supersedes held) ∨
      ∀ id ∈ decodeBlockList entry.value, s.isUserBlocked id = true

instance (s : Store) (entries : List SyncSettingEntry) : Decidable (Takes s entries) :=
  inferInstanceAs (Decidable (∀ entry ∈ entries, _ → _ ∨ _))

/-- A Settings record is merged when its slot is free, and changes nothing when it is not. -/
theorem deliver_settings {entries : List SyncSettingEntry} (hs : SettingsOk s)
    (hcarries : CarriesSettings delivery.record entries) :
    SettingsOk (deliver P readCard s delivery) ∧
    (deliver P readCard s delivery).ownFleet = s.ownFleet ∧
    (∀ id, s.isUserBlocked id = true → (deliver P readCard s delivery).isUserBlocked id = true) ∧
    (s.holdsSlot delivery.record.slot = false → Takes s entries → ∀ id, listedIds entries id →
      (deliver P readCard s delivery).isUserBlocked id = true) := by
  have hkind : ¬ coreSyncKindIsStream delivery.record.kind = false := by
    rw [hcarries.kind]
    decide
  cases hheld : s.holdsSlot delivery.record.slot with
  | true =>
    rw [deliver_held hkind hheld]
    exact ⟨hs, rfl, fun _ h => h, fun h => absurd h (by decide)⟩
  | false =>
    obtain ⟨found, mid, hmerge, hsMid, hbeside, _, hlist⟩ := mergeSettings_spec
      s.ownRoster delivery.nowMs entries {} hs hcarries.keys hcarries.wellTyped hcarries.author
    obtain ⟨s', hblock, hsettings, hfleet, hblocked⟩ :=
      blockUsers_spec delivery.nowMs found.newlyBlocked mid
    have hreturns : (mergeRecord P readCard delivery.record delivery.nowMs delivery.clock).Returns s
        { appliedEntries := found.applied, relayCredential := found.relayCredential } s' := by
      unfold mergeRecord
      rw [hcarries.kind]
      refine returns_bind.mpr ⟨(found.applied, found.relayCredential), s', ?_,
        ⟨rfl, rfl⟩⟩
      unfold applySettings
      rw [hcarries.decodes, lift_ok_bind]
      refine returns_inspect_bind.mpr ?_
      refine returns_bind.mpr ⟨_, mid, hmerge, ?_⟩
      exact returns_bind.mpr ⟨_, s', hblock, ⟨rfl, rfl⟩⟩
    obtain ⟨_, _, hdeliver⟩ := deliver_of_merged hkind hheld hreturns
    have hmidBlocked : ∀ id, mid.isUserBlocked id = s.isUserBlocked id := by
      intro id
      rw [isUserBlocked, isUserBlocked, (Prod.mk.inj hbeside).1]
    rw [hdeliver]
    refine ⟨⟨?_, ?_, ?_⟩, hfleet.trans (Prod.mk.inj hbeside).2, fun id hid => ?_,
      fun _ htakes id hid => ?_⟩
    · exact hsettings ▸ hsMid.keys
    · exact hsettings ▸ hsMid.wellTyped
    · exact hsettings ▸ hsMid.author
    · exact (hblocked id).mpr (.inl ((hmidBlocked id).trans hid))
    · obtain ⟨entry, hmem, hkey, hlisted⟩ := hid
      refine (hblocked id).mpr ?_
      rcases htakes entry hmem hkey with hwins | hknown
      · rw [hlist entry hmem hkey hwins]
        exact .inr hlisted
      · exact .inl ((hmidBlocked id).trans (hknown id hlisted))

end Deliver

/-! ## A block is published -/

section Publish
variable {s : Store} {limit : Nat}

/-- The store once somebody was blocked. -/
def Store.blocking (s : Store) (userId : Bytes) (nowMs : Int) : Store :=
  (blockUser userId nowMs).final s

/-- The list goes out whole: it fits its format and wins over what this device has, and the
page it is in can be sent. -/
structure Publishes (s : Store) (epoch limit : Nat) : Prop where
  wins : ∀ held ∈ s.setting syncBlockedSettingKey, (s.blockEntry epoch).supersedes held
  count : s.listBlockedUsers.length ≤ u16Max
  fits : ∀ id ∈ s.listBlockedUsers, id.length ≤ u16Max
  paged : s.blockEntry epoch ∈ (s.withSetting (s.blockEntry epoch)).coreSyncSettingsPage limit
  encodes : ∃ payload, coreEncodeSyncSettings
    ((s.withSetting (s.blockEntry epoch)).coreSyncSettingsPage limit) = .ok payload

theorem mem_listBlockedUsers {id : Bytes} :
    id ∈ s.listBlockedUsers ↔ s.isUserBlocked id = true := by
  rw [isUserBlocked_eq_true, listBlockedUsers, mem_map]
  simp only [mem_insertionSort]

theorem mem_page {entry : SyncSettingEntry} (h : entry ∈ s.coreSyncSettingsPage limit) :
    entry ∈ s.syncSettings := (mem_insertionSort _).mp (mem_of_mem_take h)

variable {payload : Bytes}

/-- The settings of the page become the next record of this device's stream. -/
theorem returns_authorSettings (nowMs : Int) (draft : SyncRecord) (copy : SealedSyncRecord)
    (henc : coreEncodeSyncSettings (s.coreSyncSettingsPage limit) = .ok payload) :
    ∃ s', (authorSettings limit draft copy nowMs).Returns s (s.settingsRecord draft payload) s' ∧
      s'.syncSettings = s.syncSettings ∧ s'.blockedIdentities = s.blockedIdentities ∧
      s'.ownFleet = s.ownFleet ∧ s'.syncStreamRecords = s.syncStreamRecords ++
        [(s.settingsRecord draft payload).row copy nowMs] := by
  let row := (s.settingsRecord draft payload).row copy nowMs
  have hfree : ∀ held ∈ s.syncStreamRecords, held.slot ≠ row.slot :=
    nextStreamSeq_free s s.ownAuthoringDeviceId .settings
  refine ⟨s.takingSlot row, ?_, rfl, rfl, rfl, withSlot_free hfree⟩
  refine returns_inspect_bind.mpr ?_
  rw [henc, lift_ok_bind]
  refine returns_inspect_bind.mpr ?_
  refine returns_bind.mpr ⟨true, _, ?_, ⟨rfl, rfl⟩⟩
  exact returns_bind.mpr ⟨(), s, returns_lift.mpr ⟨rfl, rfl⟩, returns_holdSlot_free hfree⟩

end Publish

namespace BlockList
open Runs

/-! ## Two devices -/

/-- A device, the Settings records it has made, and whom its user has blocked on it. -/
structure Side where
  store : Store
  records : List SyncRecord := []
  blockedHere : List Bytes := []

/-- The two devices of a person. -/
abbrev Fleet : Type := Bool → Side

inductive Event where
  | block (userId : Bytes) (nowMs : Int) (epoch : UInt64) (limit : Nat) (draft : SyncRecord)
      (copy : SealedSyncRecord)
  | receive (index : Nat) (nowMs : Int) (clock : Nat → ClockReading)

/-- Somebody is blocked, the list is published and a Settings record is made of it. -/
def Side.block (side : Side) (userId : Bytes) (nowMs : Int) (epoch limit : Nat)
    (draft : SyncRecord) (copy : SealedSyncRecord) : Side :=
  let published := (coreSyncPublishBlockList epoch).final (side.store.blocking userId nowMs)
  let authored := authorSettings limit draft copy nowMs
  { store := authored.final published
    records := match authored.result published with
      | .ok record => side.records ++ [record]
      | .error _ => side.records
    blockedHere := side.blockedHere ++ [userId] }

section Run
variable (P : Primitives) (readCard : CardReader)

/-- What an event on the device `who` makes of it. -/
def Event.next (fleet : Fleet) (who : Bool) : Event → Side
  | .block userId nowMs epoch limit draft copy =>
    (fleet who).block userId nowMs epoch.toNat limit draft copy
  | .receive index nowMs clock =>
    match (fleet !who).records[index]? with
    | none => fleet who
    | some record =>
      { fleet who with store := deliver P readCard (fleet who).store ⟨record, nowMs, clock⟩ }

def step (fleet : Fleet) (happens : Bool × Event) : Fleet :=
  Function.update fleet happens.1 (happens.2.next P readCard fleet happens.1)

/-- The two devices after the first `n` events. -/
def fleetAt (start : Fleet) (events : List (Bool × Event)) (n : Nat) : Fleet :=
  stateAt (step P readCard) start events n

end Run

variable (fleet : Fleet)

/-- The device has applied every Settings record of the other one. -/
def HeardAll (who : Bool) : Prop :=
  ∀ record ∈ (fleet !who).records, (fleet who).store.holdsSlot record.slot = true

/-- Once both have heard everything, everybody blocked on either is blocked on both. -/
def Converged : Prop :=
  HeardAll fleet true → HeardAll fleet false →
    ∀ id ∈ (fleet true).blockedHere ++ (fleet false).blockedHere, ∀ who,
      (fleet who).store.isUserBlocked id = true

/-- A list that is published goes out whole, and a list that has news for the device it
comes to is taken there. -/
def Event.Orderly (who : Bool) : Event → Prop
  | .block userId nowMs epoch limit _ _ =>
    Publishes ((fleet who).store.blocking userId nowMs) epoch.toNat limit
  | .receive index _ _ => ∀ record ∈ (fleet !who).records[index]?,
    (fleet who).store.holdsSlot record.slot = false →
      ∀ entries, coreDecodeSyncSettings record.payload = .ok entries →
        Takes (fleet who).store entries

/-- Two devices of one person before anything of this happens: with ids of their own, proper
settings, and no slot of the other's Settings stream that the other has not used. -/
structure Started (start : Fleet) : Prop where
  quiet : ∀ who, (start who).records = [] ∧ (start who).blockedHere = []
  settings : ∀ who, SettingsOk (start who).store
  apart : ∀ who, (start who).store.ownAuthoringDeviceId ≠ (start !who).store.ownAuthoringDeviceId
  behind : ∀ who seq, (start !who).store.holdsSlot ((start who).store.ownAuthoringDeviceId,
    coreSyncRecordKindWire .settings, seq) = true → (start who).store.holdsSlot
      ((start who).store.ownAuthoringDeviceId, coreSyncRecordKindWire .settings, seq) = true

/-! ## What every orderly event keeps -/

/-- Where one device stands toward the other: its records are those of its own stream, each
of its blocks is on one of them, and what the other has heard of them is blocked there. -/
structure Linked (me other : Side) : Prop where
  apart : me.store.ownAuthoringDeviceId ≠ other.store.ownAuthoringDeviceId
  settings : SettingsOk me.store
  slots : (me.records.map SyncRecord.slot).Nodup
  author : ∀ record ∈ me.records, record.authorDeviceId = me.store.ownAuthoringDeviceId
  kept : ∀ record ∈ me.records, me.store.holdsSlot record.slot = true
  carries : ∀ record ∈ me.records, ∃ entries, CarriesSettings record entries
  listed : ∀ id ∈ me.blockedHere, ∃ record ∈ me.records, ∃ entries,
    CarriesSettings record entries ∧ listedIds entries id
  own : ∀ id ∈ me.blockedHere, me.store.isUserBlocked id = true
  behind : ∀ seq, other.store.holdsSlot (me.store.ownAuthoringDeviceId,
    coreSyncRecordKindWire .settings, seq) = true → me.store.holdsSlot
      (me.store.ownAuthoringDeviceId, coreSyncRecordKindWire .settings, seq) = true
  heard : ∀ record ∈ me.records, other.store.holdsSlot record.slot = true → ∀ entries,
    CarriesSettings record entries → ∀ id, listedIds entries id → other.store.isUserBlocked id = true

section Steps
variable {P : Primitives} {readCard : CardReader} {me other : Side}

theorem ownAuthoringDeviceId_congr {s s' : Store} (h : s'.ownFleet = s.ownFleet) :
    s'.ownAuthoringDeviceId = s.ownAuthoringDeviceId := by
  rw [ownAuthoringDeviceId, ownAuthoringDeviceId, h]

variable {record : SyncRecord} {me' : Side} {userId : Bytes}

/-- The slot of a record of this device. -/
theorem Linked.slot (h : Linked me other) (hmem : record ∈ me.records) :
    record.slot = (me.store.ownAuthoringDeviceId, coreSyncRecordKindWire .settings,
      record.streamSeq) := by
  obtain ⟨entries, hcarries⟩ := h.carries record hmem
  rw [SyncRecord.slot, h.author record hmem, hcarries.kind]

/-- What a device that has only grown is to the other one. -/
theorem Linked.grow (h : Linked me other) (hrecords : me'.records = me.records)
    (hblocked : me'.blockedHere = me.blockedHere) (hfleet : me'.store.ownFleet = me.store.ownFleet)
    (hsettings : SettingsOk me'.store)
    (hslots : ∀ slot, me.store.holdsSlot slot = true → me'.store.holdsSlot slot = true)
    (htable : ∀ id, me.store.isUserBlocked id = true → me'.store.isUserBlocked id = true) :
    Linked me' other := by
  have hid := ownAuthoringDeviceId_congr hfleet
  refine ⟨hid ▸ h.apart, hsettings, hrecords ▸ h.slots, ?_, ?_, hrecords ▸ h.carries, ?_, ?_, ?_,
    hrecords ▸ h.heard⟩
  · rw [hrecords, hid]
    exact h.author
  · rw [hrecords]
    exact fun record hmem => hslots _ (h.kept record hmem)
  · rw [hrecords, hblocked]
    exact h.listed
  · rw [hblocked]
    exact fun id hmem => htable id (h.own id hmem)
  · rw [hid]
    exact fun seq hheld => hslots _ (h.behind seq hheld)

/-- A device hears a record of the other one. -/
theorem linked_receive (hme : Linked me other) (hother : Linked other me)
    (hmem : record ∈ other.records) (nowMs : Int) (clock : Nat → ClockReading)
    (htakes : me.store.holdsSlot record.slot = false → ∀ entries,
      coreDecodeSyncSettings record.payload = .ok entries → Takes me.store entries) :
    Linked { me with store := deliver P readCard me.store ⟨record, nowMs, clock⟩ } other ∧
      Linked other { me with store := deliver P readCard me.store ⟨record, nowMs, clock⟩ } := by
  obtain ⟨entries, hcarries⟩ := hother.carries record hmem
  obtain ⟨hsettings, hfleet, htable, hblocks⟩ :=
    deliver_settings P readCard ⟨record, nowMs, clock⟩ hme.settings hcarries
  have hfiled := filed_deliver P readCard me.store ⟨record, nowMs, clock⟩
  refine ⟨hme.grow rfl rfl hfleet hsettings (fun _ => hfiled.holdsSlot_mono) htable, ?_⟩
  -- the only slot it may hold now and did not hold before is the record's
  have hslots : ∀ slot, (deliver P readCard me.store ⟨record, nowMs, clock⟩).holdsSlot slot = true →
      me.store.holdsSlot slot = true ∨ slot = record.slot := by
    intro slot hheld
    obtain ⟨row, hrow, rfl⟩ := holdsSlot_eq_true.mp hheld
    rcases hfiled.mem_rows row hrow with hold | rfl
    · exact .inl (holdsSlot_eq_true.mpr ⟨row, hold, rfl⟩)
    · exact .inr rfl
  refine ⟨?_, hother.settings, hother.slots, hother.author, hother.kept, hother.carries,
    hother.listed, hother.own, fun seq hheld => ?_, fun earlier hearlier hheld told htold id hid => ?_⟩
  · rw [ownAuthoringDeviceId_congr hfleet]
    exact hother.apart
  · rcases hslots _ hheld with hold | heq
    · exact hother.behind seq hold
    · rw [heq]
      exact hother.kept record hmem
  · cases hold : me.store.holdsSlot earlier.slot with
    | true => exact htable id (hother.heard earlier hearlier hold told htold id hid)
    | false =>
      have hsame : earlier.slot = record.slot := by
        rcases hslots _ hheld with hheld | heq
        · rw [hold] at hheld
          cases hheld
        · exact heq
      obtain rfl := eq_of_key_eq hother.slots hearlier hmem hsame
      obtain rfl : told = entries := Except.ok.inj (htold.decodes.symm.trans hcarries.decodes)
      exact hblocks hold (htakes hold told htold.decodes) id hid

/-- What a block that goes out whole makes of a device. -/
structure BlockedOn (me me' : Side) (userId : Bytes) (record : SyncRecord) : Prop where
  records : me'.records = me.records ++ [record]
  blockedHere : me'.blockedHere = me.blockedHere ++ [userId]
  fleet : me'.store.ownFleet = me.store.ownFleet
  settings : SettingsOk me'.store
  table : ∀ id, me'.store.isUserBlocked id = true ↔ me.store.isUserBlocked id = true ∨ id = userId
  slots : ∀ slot, me'.store.holdsSlot slot = true ↔
    me.store.holdsSlot slot = true ∨ slot = record.slot
  author : record.authorDeviceId = me.store.ownAuthoringDeviceId
  free : me.store.holdsSlot record.slot = false
  carries : ∃ entries, CarriesSettings record entries ∧ listedIds entries userId

theorem blockedOn_block (hme : SettingsOk me.store) {nowMs : Int} {epoch limit : Nat}
    (draft : SyncRecord) (copy : SealedSyncRecord) (hepoch : epoch < 2 ^ 64)
    (hpublishes : Publishes (me.store.blocking userId nowMs) epoch limit) :
    ∃ record, BlockedOn me (me.block userId nowMs epoch limit draft copy) userId record := by
  let blocked := me.store.blocking userId nowMs
  let published := blocked.withSetting (blocked.blockEntry epoch)
  have hblocked : SettingsOk blocked := ⟨hme.keys, hme.wellTyped, hme.author⟩
  have hwell : (blocked.blockEntry epoch).WellTyped :=
    ⟨(by decide +kernel : Utf8.fault syncBlockedSettingKey = none), hepoch⟩
  have hauthor : (blocked.blockEntry epoch).authorDeviceId.length = deviceIdLen :=
    ownAuthoringDeviceId_length blocked
  have hpublished : SettingsOk published := hblocked.withSetting hwell hauthor
  have hput : (coreSyncPublishBlockList epoch).final blocked = published := by
    rw [coreSyncPublishBlockList, final_inspect_bind, (returns_putSetting hauthor).2]
    exact if_pos hpublishes.wins
  obtain ⟨payload, henc⟩ := hpublishes.encodes
  obtain ⟨s', hauthored, hsettings, htable, hfleet, hrows⟩ :=
    returns_authorSettings nowMs draft copy henc
  have hmine : me.block userId nowMs epoch limit draft copy =
      { store := s', records := me.records ++ [published.settingsRecord draft payload]
        blockedHere := me.blockedHere ++ [userId] } := by
    unfold Side.block
    dsimp only
    rw [hput, hauthored.1, hauthored.2]
  refine ⟨published.settingsRecord draft payload, ?_⟩
  rw [hmine]
  refine ⟨rfl, rfl, hfleet, ⟨?_, ?_, ?_⟩, fun id => ?_, fun slot => ?_, rfl, ?_,
    published.coreSyncSettingsPage limit, ⟨rfl, ?_, ?_, fun entry h =>
      hpublished.wellTyped entry (mem_page h), fun entry h => hpublished.author entry (mem_page h)⟩,
    blocked.blockEntry epoch, hpublishes.paged, rfl, ?_⟩
  · exact hsettings ▸ hpublished.keys
  · exact hsettings ▸ hpublished.wellTyped
  · exact hsettings ▸ hpublished.author
  · rw [isUserBlocked, htable]
    exact isUserBlocked_blockUser nowMs userId id
  · rw [holdsSlot_eq_true, holdsSlot_eq_true, hrows]
    constructor
    · rintro ⟨row, hmem, rfl⟩
      rcases mem_append.mp hmem with hold | hnew
      · exact .inl ⟨row, hold, rfl⟩
      · rw [mem_singleton.mp hnew]
        exact .inr rfl
    · rintro (⟨row, hmem, hslot⟩ | rfl)
      · exact ⟨row, mem_append_left _ hmem, hslot⟩
      · exact ⟨_, mem_append_right _ mem_cons_self, rfl⟩
  · rw [← Bool.not_eq_true, holdsSlot_eq_true]
    rintro ⟨row, hmem, hslot⟩
    exact nextStreamSeq_free published published.ownAuthoringDeviceId .settings row hmem hslot
  · -- a page of proper settings can be read back from the record it is sent in
    exact coreDecodeSyncSettings_encoded henc fun entry h => hpublished.wellTyped entry (mem_page h)
  · have hperm := (perm_insertionSort (fun a b : SyncSettingEntry => a.key ≤ b.key)
      published.syncSettings).map SyncSettingEntry.key
    exact (hperm.nodup_iff.mpr hpublished.keys).sublist ((take_sublist _ _).map _)
  · have huser : userId ∈ blocked.listBlockedUsers :=
      mem_listBlockedUsers.mpr ((isUserBlocked_blockUser nowMs userId userId).mpr (.inr rfl))
    exact mem_decodeBlockList hpublishes.count hpublishes.fits huser

/-- A device blocks somebody, and tells. -/
theorem linked_blockedOn (hme : Linked me other) (hother : Linked other me)
    (h : BlockedOn me me' userId record) :
    Linked me' other ∧ Linked other me' := by
  have hid := ownAuthoringDeviceId_congr h.fleet
  obtain ⟨entries, hcarries, hlisted⟩ := h.carries
  have hslot : record.slot = (me.store.ownAuthoringDeviceId, coreSyncRecordKindWire .settings,
      record.streamSeq) := by
    rw [SyncRecord.slot, h.author, hcarries.kind]
  have hmem : ∀ {r : SyncRecord}, r ∈ me'.records → r ∈ me.records ∨ r = record := by
    intro r hr
    rw [h.records] at hr
    exact (mem_append.mp hr).imp_right mem_singleton.mp
  constructor
  · refine ⟨hid ▸ hme.apart, h.settings, ?_, ?_, ?_, ?_, ?_, ?_, ?_, ?_⟩
    · rw [h.records, map_append]
      refine nodup_append.mpr ⟨hme.slots, nodup_singleton _, ?_⟩
      rintro slot hold _ hnew rfl
      obtain ⟨earlier, hearlier, rfl⟩ := mem_map.mp hold
      have hkept := hme.kept earlier hearlier
      rw [mem_singleton.mp hnew, h.free] at hkept
      cases hkept
    · intro r hr
      rw [hid]
      rcases hmem hr with hold | rfl
      · exact hme.author r hold
      · exact h.author
    · intro r hr
      rcases hmem hr with hold | rfl
      · exact (h.slots _).mpr (.inl (hme.kept r hold))
      · exact (h.slots _).mpr (.inr rfl)
    · intro r hr
      rcases hmem hr with hold | rfl
      · exact hme.carries r hold
      · exact ⟨entries, hcarries⟩
    · intro id hin
      rw [h.blockedHere] at hin
      rw [h.records]
      rcases mem_append.mp hin with hold | hnew
      · obtain ⟨r, hr, hrest⟩ := hme.listed id hold
        exact ⟨r, mem_append_left _ hr, hrest⟩
      · rw [mem_singleton.mp hnew]
        exact ⟨record, mem_append_right _ mem_cons_self, entries, hcarries, hlisted⟩
    · intro id hin
      rw [h.blockedHere] at hin
      rcases mem_append.mp hin with hold | hnew
      · exact (h.table id).mpr (.inl (hme.own id hold))
      · exact (h.table id).mpr (.inr (mem_singleton.mp hnew))
    · intro seq hheld
      rw [hid] at hheld ⊢
      exact (h.slots _).mpr (.inl (hme.behind seq hheld))
    · intro r hr hheld told htold id hin
      rcases hmem hr with hold | rfl
      · exact hme.heard r hold hheld told htold id hin
      · -- the other one cannot hold a slot that was free here until now
        rw [hslot] at hheld
        have hused := hme.behind _ hheld
        rw [← hslot, h.free] at hused
        cases hused
  · refine ⟨hid ▸ hother.apart, hother.settings, hother.slots, hother.author, hother.kept,
      hother.carries, hother.listed, hother.own, fun seq hheld => ?_,
      fun r hr hheld told htold id hin => ?_⟩
    · rcases (h.slots _).mp hheld with hold | heq
      · exact hother.behind seq hold
      · rw [hslot] at heq
        exact absurd (congrArg Prod.fst heq) hother.apart
    · rcases (h.slots _).mp hheld with hold | heq
      · exact (h.table id).mpr (.inl (hother.heard r hr hold told htold id hin))
      · rw [hother.slot hr, hslot] at heq
        exact absurd (congrArg Prod.fst heq) hother.apart

end Steps

/-! ## Histories -/

section Histories
variable {P : Primitives} {readCard : CardReader} {start fleet : Fleet}

theorem linked_start (h : Started start) (who : Bool) : Linked (start who) (start !who) := by
  obtain ⟨hrecords, hblocked⟩ := h.quiet who
  have hnone : ∀ record, record ∉ (start who).records := by
    intro record hmem
    rw [hrecords] at hmem
    cases hmem
  have hnobody : ∀ id, id ∉ (start who).blockedHere := by
    intro id hmem
    rw [hblocked] at hmem
    cases hmem
  refine ⟨h.apart who, h.settings who, ?_, fun r hr => absurd hr (hnone r),
    fun r hr => absurd hr (hnone r), fun r hr => absurd hr (hnone r),
    fun id hid => absurd hid (hnobody id), fun id hid => absurd hid (hnobody id), h.behind who,
    fun r hr => absurd hr (hnone r)⟩
  rw [hrecords]
  exact nodup_nil

variable {who : Bool}

/-- An orderly event leaves the two devices linked. -/
theorem linked_step (hlinked : ∀ who, Linked (fleet who) (fleet !who)) {event : Event}
    (horderly : event.Orderly fleet who) (w : Bool) :
    Linked (step P readCard fleet (who, event) w) (step P readCard fleet (who, event) !w) := by
  have hme := hlinked who
  have hother : Linked (fleet !who) (fleet who) := by
    have h := hlinked !who
    rwa [Bool.not_not] at h
  have hnext : Linked (event.next P readCard fleet who) (fleet !who) ∧
      Linked (fleet !who) (event.next P readCard fleet who) := by
    cases event with
    | block userId nowMs epoch limit draft copy =>
      obtain ⟨record, hblocked⟩ := blockedOn_block hme.settings draft copy epoch.toNat_lt horderly
      exact linked_blockedOn hme hother hblocked
    | receive index nowMs clock =>
      cases hrecord : (fleet !who).records[index]? with
      | none =>
        rw [Event.next, hrecord]
        exact ⟨hme, hother⟩
      | some record =>
        rw [Event.next, hrecord]
        exact linked_receive hme hother (mem_of_getElem? hrecord) nowMs clock
          (horderly record hrecord)
  cases who <;> cases w
  · exact hnext.1
  · exact hnext.2
  · exact hnext.2
  · exact hnext.1

/-- Two devices that are linked and have heard each other out block the same people. -/
theorem converged_of_linked (hlinked : ∀ who, Linked (fleet who) (fleet !who)) :
    Converged fleet := by
  intro htrue hfalse id hid
  have hheard : ∀ who, HeardAll fleet !who → id ∈ (fleet who).blockedHere →
      ∀ w, (fleet w).store.isUserBlocked id = true := by
    intro who hall hin w
    by_cases hw : w = who
    · rw [hw]
      exact (hlinked who).own id hin
    · obtain ⟨record, hrecord, entries, hcarries, hlisted⟩ := (hlinked who).listed id hin
      have hslot := hall record (by rwa [Bool.not_not])
      have hblocked := (hlinked who).heard record hrecord hslot entries hcarries id hlisted
      rwa [← Bool.eq_not_of_ne hw] at hblocked
  rcases mem_append.mp hid with hin | hin
  · exact hheard true hfalse hin
  · exact hheard false htrue hin

/-- In a history all of whose lists go out whole and are taken where they have news, two
devices that have heard each other out block everybody that was blocked on either. -/
theorem block_lists_converge (P : Primitives) (readCard : CardReader) (start : Fleet)
    (events : List (Bool × Event)) (hstart : Started start)
    (horderly : ∀ (n : Nat) (who : Bool) (event : Event), events[n]? = some (who, event) →
      event.Orderly (fleetAt P readCard start events n) who) (n : Nat) :
    Converged (fleetAt P readCard start events n) := by
  refine converged_of_linked ?_
  refine stateAt_from (fun fleet : Bool → _ => ∀ who, Linked (fleet who) (fleet !who))
    (Nat.zero_le n) (linked_start hstart) ?_
  intro k happens _ _ hhappens hlinked
  exact linked_step hlinked (horderly k _ _ hhappens)

end Histories

section Example

def phoneId : Bytes := replicate 16 1
def tabletId : Bytes := replicate 16 2

/-- A phone and a tablet. -/
def devices : Fleet
  | true => { store := { ownFleet := [⟨phoneId, 0, true⟩, ⟨tabletId, 1, false⟩] } }
  | false => { store := { ownFleet := [⟨phoneId, 0, false⟩, ⟨tabletId, 1, true⟩] } }

def draftRecord : SyncRecord :=
  { kind := .settings, personId := [], authorDeviceId := [], rosterVersion := ⟨0, 0⟩
    inboxKeyGeneration := 0, streamSeq := 0, timestampMs := 0, payload := [], signature := [] }

def sealedCopy : SealedSyncRecord :=
  { body := [], sealedFor := ⟨0, 0⟩, inboxKeyGeneration := 0 }

def ash : Bytes := replicate 16 7
def kim : Bytes := replicate 16 8

/-- `userId` is blocked at this epoch. -/
def blockAt (userId : Bytes) (epoch : UInt64) : Event := .block userId 0 epoch 16 draftRecord sealedCopy

def hear : Event := .receive 0 0 fun _ => .ok 0

def noCards : CardReader := fun _ => .error ⟨.data, 1, 0⟩

theorem devices_started : Started devices where
  quiet who := by cases who <;> exact ⟨rfl, rfl⟩
  settings who := by
    cases who <;> exact ⟨nodup_nil, fun _ h => (nomatch h), fun _ h => (nomatch h)⟩
  apart who := by cases who <;> decide
  behind who seq h := by cases who <;> cases h

/-- The phone blocks one person and is heard, and only then the tablet blocks another. -/
def inTurn : List (Bool × Event) :=
  [(true, blockAt ash 5), (false, hear), (false, blockAt kim 10), (true, hear)]

theorem orderly_hear {fleet : Fleet} {who : Bool} {record : SyncRecord}
    {entries : List SyncSettingEntry} (hrecord : (fleet !who).records[0]? = some record)
    (hdecodes : coreDecodeSyncSettings record.payload = .ok entries)
    (htakes : Takes (fleet who).store entries) : hear.Orderly fleet who := by
  intro other hother _ told htold
  cases hrecord.symm.trans hother
  cases hdecodes.symm.trans htold
  exact htakes

/-- Both are blocked on both. -/
theorem block_lists_converge_in_turn :
    Converged (fleetAt Sample.primitives noCards devices inTurn 4) := by
  refine block_lists_converge Sample.primitives noCards devices inTurn devices_started ?_ 4
  intro n who event hevent
  match n, hevent with
  | 0, rfl => exact ⟨by decide +kernel, by decide +kernel, by decide +kernel, by decide +kernel, _, rfl⟩
  | 1, rfl => exact orderly_hear rfl rfl (by decide +kernel)
  | 2, rfl => exact ⟨by decide +kernel, by decide +kernel, by decide +kernel, by decide +kernel, _, rfl⟩
  | 3, rfl => exact orderly_hear rfl rfl (by decide +kernel)

/-- The two devices block two people before they hear of each other. -/
def concurrent : List (Bool × Event) :=
  [(true, blockAt ash 5), (false, blockAt kim 10), (true, hear), (false, hear)]

/-- The earlier block never reaches the tablet, though it has applied the record that
carries it. -/
theorem concurrent_block_is_lost :
    Started devices ∧ ¬ Converged (fleetAt Sample.primitives noCards devices concurrent 4) := by
  refine ⟨devices_started, fun hconverged => ?_⟩
  have htrue : HeardAll (fleetAt Sample.primitives noCards devices concurrent 4) true := by
    unfold HeardAll
    decide +kernel
  have hfalse : HeardAll (fleetAt Sample.primitives noCards devices concurrent 4) false := by
    unfold HeardAll
    decide +kernel
  have hash := hconverged htrue hfalse ash (by decide +kernel) false
  revert hash
  decide +kernel

end Example
end BlockList
end CruiseMesh
