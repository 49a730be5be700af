import CruiseMesh.Relay.Announcement

/-!
# Merging shared settings

`put_setting` reads what stands for a key, compares, and writes. Whatever order entries come in,
and however often, what stands in the end is the largest of those that came in for the key, by
`(epoch, author_device_id, value)`: the merge is a join (`settings_merge_is_join`).

An epoch is a `u64` in a signed column. It is cast on the way in and back on the way out, so that
one above `i64::MAX` is compared as what it was.
-/

namespace CruiseMesh
open Durable Prog List

namespace SyncSettingEntry
variable {a b c : SyncSettingEntry}

theorem supersedes_trans (hab : a.supersedes b) (hbc : b.supersedes c) : a.supersedes c := by
  rcases hab with hab | ⟨heq, hab⟩ <;> rcases hbc with hbc | ⟨heq', hbc⟩
  · exact .inl (hbc.trans hab)
  · exact .inl (heq' ▸ hab)
  · exact .inl (heq ▸ hbc)
  · refine .inr ⟨heq'.trans heq, ?_⟩
    rcases hab with hab | ⟨hauthor, hab⟩ <;> rcases hbc with hbc | ⟨hauthor', hbc⟩
    · exact .inl (List.lt_trans hbc hab)
    · exact .inl (hauthor' ▸ hab)
    · exact .inl (hauthor ▸ hbc)
    · exact .inr ⟨hauthor'.trans hauthor, List.lt_trans hbc hab⟩

/-- Of two entries for one key, one supersedes the other, or they are the same. -/
theorem upTo_of_not_supersedes (hkey : b.key = a.key) (h : ¬ b.supersedes a) : a.UpTo b := by
  obtain ⟨_, value, epoch, author⟩ := a
  obtain ⟨_, value', epoch', author'⟩ := b
  obtain rfl := hkey
  simp only [supersedes, not_or, not_and] at h
  rcases lt_trichotomy epoch' epoch with hlt | rfl | hlt
  · exact .inr (.inl hlt)
  · rcases Std.lt_trichotomy author' author with hlt | rfl | hlt
    · exact .inr (.inr ⟨rfl, .inl hlt⟩)
    · rcases Std.lt_trichotomy value' value with hlt | rfl | hlt
      · exact .inr (.inr ⟨rfl, .inr ⟨rfl, hlt⟩⟩)
      · exact .inl rfl
      · exact absurd hlt ((h.2 rfl).2 rfl)
    · exact absurd hlt (h.2 rfl).1
  · exact absurd hlt h.1

/-- The entry names the device that wrote it. -/
def Named (entry : SyncSettingEntry) : Prop := entry.authorDeviceId.length = deviceIdLen

instance : DecidablePred Named := fun _ => inferInstanceAs (Decidable (_ = _))

end SyncSettingEntry

open SyncSettingEntry

/-- The store after a list of calls, whether or not they succeed. -/
def settingsAfter (s : Store) (entries : List SyncSettingEntry) : Store :=
  entries.foldl (fun s entry => (putSetting entry).final s) s

/-- The largest of the entries for the key, if there is one. -/
def IsJoin (entries : List SyncSettingEntry) (key : Bytes) : Option SyncSettingEntry → Prop
  | none => ∀ entry ∈ entries, entry.key ≠ key
  | some held => held ∈ entries ∧ held.key = key ∧
      ∀ entry ∈ entries, entry.key = key → held.UpTo entry

variable {entries : List SyncSettingEntry} {entry : SyncSettingEntry} {key : Bytes}
  {stored : Option SyncSettingEntry}

/-- An entry for another key. -/
theorem IsJoin.concat_of_ne (h : IsJoin entries key stored) (hne : entry.key ≠ key) :
    IsJoin (entries ++ [entry]) key stored := by
  have hold : ∀ e ∈ entries ++ [entry], e.key = key → e ∈ entries := by
    intro e he hkey
    rcases mem_append.mp he with hin | hlast
    · exact hin
    · exact absurd (mem_singleton.mp hlast ▸ hkey) hne
  cases stored with
  | none => exact fun e he hkey => h e (hold e he hkey) hkey
  | some held =>
    exact ⟨mem_append_left _ h.1, h.2.1, fun e he hkey => h.2.2 e (hold e he hkey) hkey⟩

/-- An entry for the key is above everything before it exactly when it is above what stands. -/
theorem IsJoin.supersedes_iff (h : IsJoin entries key stored) :
    (∀ held ∈ stored, entry.supersedes held) ↔
      ∀ earlier ∈ entries, earlier.key = key → entry.supersedes earlier := by
  cases stored with
  | none => exact ⟨fun _ e he hkey => absurd hkey (h e he), fun _ => nofun⟩
  | some held =>
    constructor
    · intro habove e he hkey
      rcases h.2.2 e he hkey with rfl | hbelow
      · exact habove _ rfl
      · exact supersedes_trans (habove held rfl) hbelow
    · intro habove other hother
      cases hother
      exact habove held h.1 h.2.1

/-- One call joins its entry to the others. -/
theorem isJoin_putSetting {s : Store} (h : ∀ key, IsJoin entries key (s.setting key))
    (hnamed : entry.Named) (key : Bytes) :
    IsJoin (entries ++ [entry]) key (((putSetting entry).final s).setting key) := by
  rw [(returns_putSetting hnamed).2]
  by_cases htakes : ∀ held ∈ s.setting entry.key, entry.supersedes held
  · rw [if_pos htakes, setting_withSetting]
    split
    · rename_i hkey
      refine ⟨mem_append_right _ (mem_singleton_self _), hkey, fun e he hsame => ?_⟩
      rcases mem_append.mp he with hin | hlast
      · exact .inr ((h entry.key).supersedes_iff.mp htakes e hin (hsame.trans hkey.symm))
      · exact .inl (mem_singleton.mp hlast)
    · rename_i hne
      exact (h key).concat_of_ne hne
  · rw [if_neg htakes]
    by_cases hkey : entry.key = key
    · push Not at htakes
      obtain ⟨held, hheld, hstands⟩ := htakes
      have hjoin := h key
      rw [← hkey, hheld] at hjoin ⊢
      refine ⟨mem_append_left _ hjoin.1, hjoin.2.1, fun e he hsame => ?_⟩
      rcases mem_append.mp he with hin | hlast
      · exact hjoin.2.2 e hin hsame
      · rw [mem_singleton.mp hlast]
        exact upTo_of_not_supersedes hjoin.2.1.symm hstands
    · exact (h key).concat_of_ne hkey

theorem isJoin_settingsAfter (s : Store) (entries : List SyncSettingEntry) (key : Bytes) :
    IsJoin (entries.filter (·.Named)) key
      ((settingsAfter { s with syncSettings := [] } entries).setting key) := by
  induction entries using List.reverseRecOn generalizing key with
  | nil => exact fun _ => nofun
  | append_singleton front entry ih =>
    rw [settingsAfter, foldl_append, filter_append]
    by_cases hnamed : entry.Named
    · rw [filter_singleton, decide_eq_true hnamed]
      exact isJoin_putSetting ih hnamed key
    · have hsame : ∀ held, (putSetting entry).final held = held := by
        intro held
        rw [putSetting, refuseWhen_pos (show entry.authorDeviceId.length ≠ deviceIdLen from hnamed)]
        rfl
      rw [filter_singleton, decide_eq_false hnamed, foldl_cons, foldl_nil]
      exact (append_nil _).symm ▸ hsame _ ▸ ih key

/-- **Whatever entries are put and in whatever order, what is stored for each key is the largest
of those that name a device, and a call answers `true` exactly when its entry is above all that
were put for the key before.** -/
theorem settings_merge_is_join (s : Store) (entries : List SyncSettingEntry) :
    (∀ key, IsJoin (entries.filter (·.Named)) key
      ((settingsAfter { s with syncSettings := [] } entries).setting key)) ∧
    ∀ front entry back, entries = front ++ entry :: back → entry.Named →
      (putSetting entry).result (settingsAfter { s with syncSettings := [] } front) =
        .ok (decide (∀ earlier ∈ front, earlier.Named → earlier.key = entry.key →
          entry.supersedes earlier)) := by
  refine ⟨isJoin_settingsAfter s entries, fun front entry back _ hnamed => ?_⟩
  rw [(returns_putSetting hnamed).1]
  congr 1
  rw [decide_eq_decide, (isJoin_settingsAfter s front entry.key).supersedes_iff]
  simp only [mem_filter, decide_eq_true_eq, and_imp]

end CruiseMesh
