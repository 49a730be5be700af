import CruiseMesh.Inbound.Persist

/-!
# Bounding the device streams

A sender names the device of each body, and may name as many as they like. A device beyond the
sixteenth has its bodies filed on the legacy stream. So the number of streams is bounded over
every run (`deviceStreams_next`). The legacy stream has one slot for each lamport, though, and
the devices that share it count for themselves: of two bodies at one lamport the second one has
no slot to go to. `bounded_streams_lose_nothing_iff` says that every body is stored exactly when
this does not happen.
-/

namespace CruiseMesh
open Durable Runs List Table Store

/-! ## Runs -/

/-- One body to be stored, in its surroundings. -/
structure BodyArrival where
  w : Surroundings
  m : Inbound
  body : ExtendedMessageBody

/-- The database is sound, the callers keep their promises, and the body has been decoded. -/
structure BodyArrival.Sound (a : BodyArrival) : Prop where
  streams : a.w.faults .deviceStreams = none
  insert : a.w.faults .insertMessage = none
  promised : a.m.Promised
  storable : a.body.Storable

/-- The store after the call, whether it returned or failed. -/
def BodyArrival.next (P : Primitives) (s : InboundStore) (a : BodyArrival) : InboundStore :=
  (persistInbound P a.w a.m a.body).final s

/-- The message that the body is stored as in `s`, if its slot is free. -/
def BodyArrival.message (a : BodyArrival) (s : Store) : StoredMessage := a.m.storedAs a.body s

/-- Some row says what the body says, on whatever stream. -/
def BodyArrival.Kept (s : InboundStore) (a : BodyArrival) : Prop :=
  ∃ message ∈ s.said, message = a.body.stored a.m.senderUserId message.senderDeviceId

instance (s : InboundStore) (a : BodyArrival) : Decidable (a.Kept s) :=
  inferInstanceAs (Decidable (∃ message ∈ s.said, _))

variable {P : Primitives} {s : InboundStore} {a b : BodyArrival}

theorem BodyArrival.Sound.said_next (h : a.Sound) : (a.next P s).said =
    insertOrIgnore StoredMessage.slot (a.message s.toStore) s.said :=
  (run_persistInbound P h.streams h.insert h.promised h.storable).2

/-! ## The bound -/

theorem mem_deviceStreams {s : Store} {chatId senderUserId id : Bytes} :
    id ∈ s.deviceStreams chatId senderUserId ↔ id ≠ legacyDeviceId ∧ ∃ message ∈ s.said,
      message.chatId = chatId ∧ message.senderUserId = senderUserId ∧ message.senderDeviceId = id := by
  unfold deviceStreams messageStreamDeviceIds said
  simp only [mem_filter, mem_dedup, mem_insertionSort, mem_map]
  constructor
  · rintro ⟨⟨row, ⟨hrow, hstream⟩, rfl⟩, hid⟩
    have hstream := of_decide_eq_true hstream
    exact ⟨of_decide_eq_true hid, row.message, ⟨row, hrow, rfl⟩, hstream.1, hstream.2, rfl⟩
  · rintro ⟨hid, message, ⟨row, hrow, rfl⟩, hchat, hsender, rfl⟩
    exact ⟨⟨row, ⟨hrow, decide_eq_true ⟨hchat, hsender⟩⟩, rfl⟩, decide_eq_true hid⟩

/-- A stream that is chosen for a body is there, or is the legacy one, or is not one too many. -/
theorem streamFor_cases (s : Store) (chatId senderUserId : Bytes) (deviceId : Option Bytes) :
    let stream := s.streamFor chatId senderUserId deviceId
    stream ∈ s.deviceStreams chatId senderUserId ∨ stream = legacyDeviceId ∨
      (s.deviceStreams chatId senderUserId).length < deviceHardCap := by
  unfold streamFor boundedStream
  split
  · exact .inr (.inl rfl)
  rename_i hnamed
  split
  · rename_i hheld
    exact .inl (mem_filter.mpr ⟨hheld, decide_eq_true hnamed⟩)
  split
  · exact .inr (.inl rfl)
  · rename_i hroom
    exact .inr (.inr (not_le.mp hroom))

/-- Storing a body opens no stream beyond the bound. -/
theorem deviceStreams_next (h : a.Sound) (chatId senderUserId : Bytes)
    (hbound : (s.deviceStreams chatId senderUserId).length ≤ deviceHardCap) :
    ((a.next P s).deviceStreams chatId senderUserId).length ≤ deviceHardCap := by
  have hnodup : ((a.next P s).deviceStreams chatId senderUserId).Nodup := (nodup_dedup _).filter _
  by_cases hsub : (a.next P s).deviceStreams chatId senderUserId ⊆
      s.deviceStreams chatId senderUserId
  · exact le_trans (subperm_of_subset hnodup hsub).length_le hbound
  -- a stream is new, so it is the one chosen for the body, and there was room for it
  obtain ⟨id, hid, hnew⟩ : ∃ id ∈ (a.next P s).deviceStreams chatId senderUserId,
      id ∉ s.deviceStreams chatId senderUserId := by
    by_contra hall
    exact hsub fun id hid => by_contra fun hnot => hall ⟨id, hid, hnot⟩
  have hchosen : ∀ id ∈ (a.next P s).deviceStreams chatId senderUserId,
      id ∈ s.deviceStreams chatId senderUserId ∨
        a.body.chatId = chatId ∧ a.m.senderUserId = senderUserId ∧
          id = (a.message s.toStore).senderDeviceId := by
    intro id hid
    obtain ⟨hnamed, message, hsaid, hchat, hsender, hdevice⟩ := mem_deviceStreams.mp hid
    rw [h.said_next] at hsaid
    rcases mem_insertOrIgnore hsaid with hold | rfl
    · exact .inl (mem_deviceStreams.mpr ⟨hnamed, message, hold, hchat, hsender, hdevice⟩)
    · exact .inr ⟨hchat, hsender, hdevice.symm⟩
  rcases hchosen id hid with hold | ⟨rfl, rfl, rfl⟩
  · exact absurd hold hnew
  have hroom : (s.deviceStreams a.body.chatId a.m.senderUserId).length < deviceHardCap := by
    rcases streamFor_cases s.toStore a.body.chatId a.m.senderUserId a.body.senderDeviceId with
      hheld | hlegacy | hroom
    · exact absurd hheld hnew
    · exact absurd hlegacy (mem_deviceStreams.mp hid).1
    · exact hroom
  have hsub' : (a.next P s).deviceStreams a.body.chatId a.m.senderUserId ⊆
      (a.message s.toStore).senderDeviceId ::
        s.deviceStreams a.body.chatId a.m.senderUserId := by
    intro other hother
    rcases hchosen other hother with hold | ⟨_, _, rfl⟩
    · exact mem_cons_of_mem _ hold
    · exact mem_cons_self
  exact le_trans (subperm_of_subset hnodup hsub').length_le hroom

/-! ## What is stored -/

/-- No body takes the place of another. -/
theorem BodyArrival.Kept.next (hkept : a.Kept s) (h : b.Sound) : a.Kept (b.next P s) := by
  obtain ⟨message, hsaid, hsays⟩ := hkept
  refine ⟨message, ?_, hsays⟩
  rw [h.said_next]
  exact subset_insertOrIgnore hsaid

/-- A body is stored when its slot is free or holds it, and otherwise only if it was stored
before, on another stream. -/
theorem BodyArrival.Sound.kept_next_iff (h : a.Sound) :
    a.Kept (a.next P s) ↔ s.Fits (a.message s.toStore) ∨ a.Kept s := by
  constructor
  · intro hkept
    refine or_iff_not_imp_left.mpr fun hunfit => ?_
    obtain ⟨message, hsaid, hsays⟩ := hkept
    cases hslot : lookup StoredMessage.slot (a.message s.toStore).slot s.said with
    | none =>
      refine absurd (fun held hheld => ?_) hunfit
      rw [hslot] at hheld
      cases hheld
    | some held =>
      rw [h.said_next, insertOrIgnore_of_taken hslot] at hsaid
      exact ⟨message, hsaid, hsays⟩
  · rintro (hfits | hkept)
    · refine ⟨a.message s.toStore, ?_, rfl⟩
      rw [h.said_next]
      cases hslot : lookup StoredMessage.slot (a.message s.toStore).slot s.said with
      | none =>
        rw [insertOrIgnore_of_free hslot]
        exact mem_append_right _ (mem_singleton.mpr rfl)
      | some held =>
        obtain rfl := hfits held hslot
        rw [insertOrIgnore_of_taken hslot]
        exact mem_of_lookup hslot
    · exact hkept.next h

/-- The store after the first `n` bodies. -/
def storeAfter (P : Primitives) (s : InboundStore) (arrivals : List BodyArrival) (n : Nat) :
    InboundStore := stateAt (BodyArrival.next P) s arrivals n

/-- **The streams stay within the bound over every run, and every body of the run is stored
exactly when each one finds its slot free or holding it, or is stored already on another
stream.** -/
theorem bounded_streams_lose_nothing_iff (P : Primitives) (s : InboundStore)
    (arrivals : List BodyArrival) (hsound : ∀ a ∈ arrivals, a.Sound)
    (hstart : ∀ chatId senderUserId,
      (s.deviceStreams chatId senderUserId).length ≤ deviceHardCap) :
    (∀ n chatId senderUserId, ((storeAfter P s arrivals n).deviceStreams chatId
      senderUserId).length ≤ deviceHardCap) ∧
    ((∀ n, ∀ a ∈ arrivals.take n, a.Kept (storeAfter P s arrivals n)) ↔
      ∀ (k : Nat) (hk : k < arrivals.length),
        (storeAfter P s arrivals k).Fits (arrivals[k].message (storeAfter P s arrivals k).toStore) ∨
          arrivals[k].Kept (storeAfter P s arrivals k)) := by
  refine ⟨fun n chatId senderUserId => ?_, ?_⟩
  · refine stateAt_invariant_along
      (fun s : InboundStore => (s.deviceStreams chatId senderUserId).length ≤ deviceHardCap)
      (fun _ a => a.Sound) (fun s a h hbound => deviceStreams_next h chatId senderUserId hbound)
      (hstart chatId senderUserId) (fun k a hk => ?_) n
    exact hsound a (mem_of_getElem? hk)
  · refine (stateAt_all_iff (Q := BodyArrival.Kept)
      fun s a b hb hkept => hkept.next (hsound b hb)).trans ?_
    exact forall₂_congr fun k hk => (hsound _ (getElem_mem hk)).kept_next_iff

section Example
open Sample

/-- A text of the device number `n` of the person 2, the first that it wrote. -/
def deviceText (n : UInt8) : BodyArrival where
  w := calm
  m := arriving 2 none { kind := kindText, chatId := userNumber 2, lamport := 1, timestamp := 5
                         content := [n] }
  body := { kind := kindText, chatId := userNumber 2, lamport := 1, timestamp := 5, content := [n]
            senderDeviceId := some (List.replicate 16 n) }

theorem sound_deviceText (n : UInt8) : (deviceText n).Sound where
  streams := rfl
  insert := rfl
  promised := ⟨rfl, show (0 : UInt8) ≤ 4 by decide⟩
  storable := ⟨show 1 ≤ 2 ^ 63 - 1 by decide, nofun⟩

/-- The first texts of the devices 1 to `count`. -/
def firstTexts (count : Nat) : List BodyArrival :=
  (List.range count).map fun n => deviceText (UInt8.ofNat (n + 1))

theorem sound_firstTexts (count : Nat) : ∀ a ∈ firstTexts count, a.Sound := by
  intro a ha
  obtain ⟨n, _, rfl⟩ := mem_map.mp ha
  exact sound_deviceText _

/-- The texts of seventeen devices are all stored, the last one on the legacy stream. -/
theorem seventeen_devices_lose_nothing : (firstTexts 17).length = 17 ∧
    ∀ n, ∀ a ∈ (firstTexts 17).take n, a.Kept (storeAfter primitives {} (firstTexts 17) n) :=
  ⟨by decide, (bounded_streams_lose_nothing_iff primitives {} (firstTexts 17) (sound_firstTexts 17)
    (fun _ _ => Nat.zero_le _)).2.mpr (by decide +kernel)⟩

/-- Of eighteen devices, each with one text, one loses it. -/
theorem eighteenth_device_loses_text :
    ((firstTexts 18).map (·.body.senderDeviceId)).Nodup ∧
      ∃ a ∈ firstTexts 18, ¬ a.Kept (storeAfter primitives {} (firstTexts 18) 18) := by
  decide +kernel

end Example
end CruiseMesh
