import CruiseMesh.Roster.Adoption

/-!
# The chain to the person root

`validate` grows a row of marks from the root until nothing changes. Here that is compared with
what the chain is for: each listed certificate has a finite chain of listed certificates above it,
each signed with the device key of the next, the last one by the root. The marks compare device
ids, the chain compares keys; the two agree as long as no two keys of the document have the same
id.
-/

namespace CruiseMesh
open List Saturate
variable (P : Primitives) (roster : Roster) (root : Bytes)

/-- Everything that `validate` looks at before the chain is in order. -/
structure ChainReady : Prop where
  widths : roster.widthsOk root
  person : P.deriveUserId root = roster.personId
  cap : roster.deviceCountOutcome ≠ .refused
  certs : ∀ cert ∈ roster.devices, cert.WellFormed P roster.personId
  devices_nodup : (roster.deviceIds P).Nodup
  tombstones : ∀ tombstone ∈ roster.tombstones, tombstone.deviceId.length = deviceIdLen ∧
    tombstone.deviceId ∉ roster.deviceIds P
  tombstones_nodup : roster.tombstoneIds.Nodup
  approver : roster.approvingDeviceId ∈ roster.deviceIds P
  role : ∀ cert ∈ roster.devices,
    (cert.signsRosters = true ↔ cert.deviceId P = roster.approvingDeviceId)
  certSignatures : ∀ cert ∈ roster.devices,
    P.verifyRaw cert.signerSignPk (deviceCertSignedBytes cert) cert.signature = .ok ()

variable (devices : List DeviceCert)

/-- A finite chain of listed certificates from `cert` to the root. -/
structure LeadsToRoot (cert : DeviceCert) (chain : List DeviceCert) : Prop where
  starts : chain.head? = some cert
  listed : ∀ link ∈ chain, link ∈ devices
  signed : chain.IsChain fun link next => link.signerSignPk = next.deviceSignPk
  ends : ∃ last ∈ chain.getLast?, last.signerSignPk = root

/-- The keys that a document is checked with. -/
def Roster.keys : List Bytes :=
  root :: roster.signerSignPk ::
    (roster.devices.map (·.signerSignPk) ++ roster.devices.map (·.deviceSignPk))

/-- No two keys of the document have the same id. -/
def KeysApart : Prop :=
  ∀ a ∈ roster.keys root, ∀ b ∈ roster.keys root, P.deriveUserId a = P.deriveUserId b → a = b

instance (P : Primitives) (roster : Roster) (root : Bytes) : Decidable (KeysApart P roster root) :=
  inferInstanceAs (Decidable (∀ a ∈ _, ∀ b ∈ _, _ → _))

/-- The marks of the chain loop after some passes. -/
def marksAfter (passes : Nat) : List Bool :=
  swept (reachesRoot P root devices) passes (replicate devices.length false)

/-- A pass of the chain loop from these marks marks something. -/
def grows (marks : List Bool) : Bool :=
  (sweep (reachesRoot P root devices) marks).2

section Chain
variable {P : Primitives} {roster : Roster} {root : Bytes} {cert : DeviceCert}

/-- The order of the list is no part of what is checked before the chain. -/
theorem ChainReady.perm (h : ChainReady P roster root) {devices : List DeviceCert}
    (hperm : devices.Perm roster.devices) : ChainReady P { roster with devices } root := by
  have hids : (Roster.deviceIds P { roster with devices }).Perm (roster.deviceIds P) :=
    hperm.map _
  refine ⟨h.widths, h.person, ?_, ?_, hids.nodup_iff.mpr h.devices_nodup, ?_, h.tombstones_nodup,
    hids.mem_iff.mpr h.approver, ?_, ?_⟩
  · have hlength : devices.length = roster.devices.length := hperm.length_eq
    unfold Roster.deviceCountOutcome
    rw [hlength]
    exact h.cap
  · exact fun cert hcert => h.certs cert (hperm.mem_iff.mp hcert)
  · intro tombstone htombstone
    obtain ⟨hwidth, hburied⟩ := h.tombstones tombstone htombstone
    exact ⟨hwidth, fun hactive => hburied (hids.mem_iff.mp hactive)⟩
  · exact fun cert hcert => h.role cert (hperm.mem_iff.mp hcert)
  · exact fun cert hcert => h.certSignatures cert (hperm.mem_iff.mp hcert)

theorem Vouched.mono {devices more : List DeviceCert} (hsub : ∀ cert ∈ devices, cert ∈ more)
    (h : Vouched P root devices cert) : Vouched P root more cert := by
  induction h with
  | root hmem hsigner => exact .root (hsub _ hmem) hsigner
  | link hmem hsigner hid ih => exact .link (hsub _ hmem) ih hid

theorem signer_mem_keys (hcert : cert ∈ roster.devices) : cert.signerSignPk ∈ roster.keys root :=
  mem_cons_of_mem _ (mem_cons_of_mem _
    (mem_append_left _ (mem_map_of_mem hcert)))

theorem device_mem_keys (hcert : cert ∈ roster.devices) : cert.deviceSignPk ∈ roster.keys root :=
  mem_cons_of_mem _ (mem_cons_of_mem _
    (mem_append_right _ (mem_map_of_mem hcert)))

/-- A certificate that the fixpoint reaches has a chain: the chain of its signer, and itself in
front. -/
theorem leadsToRoot_of_vouched (hapart : KeysApart P roster root)
    (h : Vouched P root roster.devices cert) :
    ∃ chain, LeadsToRoot root roster.devices cert chain := by
  induction h with
  | @root cert hmem hsigner =>
    refine ⟨[cert], rfl, ?_, List.IsChain.singleton _, cert, rfl, hsigner⟩
    intro link hlink
    rw [mem_singleton.mp hlink]
    exact hmem
  | @link cert signer hmem hsigner hid ih =>
    obtain ⟨chain, hchain⟩ := ih
    have hkey : cert.signerSignPk = signer.deviceSignPk :=
      hapart _ (signer_mem_keys hmem) _ (device_mem_keys hsigner.mem) hid.symm
    obtain ⟨rest, rfl⟩ : ∃ rest, chain = signer :: rest := by
      cases hcases : chain with
      | nil => have hstarts := hchain.starts; rw [hcases] at hstarts; cases hstarts
      | cons first rest =>
        have hstarts := hchain.starts
        rw [hcases] at hstarts
        exact ⟨rest, by rw [Option.some.inj hstarts]⟩
    refine ⟨cert :: signer :: rest, rfl, ?_, isChain_cons_cons.mpr ⟨hkey, hchain.signed⟩, ?_⟩
    · intro link hlink
      rcases mem_cons.mp hlink with rfl | hrest
      · exact hmem
      · exact hchain.listed link hrest
    · rw [getLast?_cons_cons]
      exact hchain.ends

/-- A chain is walked down from its end. -/
theorem vouched_of_leadsToRoot {devices : List DeviceCert} :
    ∀ {chain : List DeviceCert} {cert : DeviceCert}, LeadsToRoot root devices cert chain →
      Vouched P root devices cert := by
  intro chain
  induction chain with
  | nil =>
    intro cert h
    cases h.starts
  | cons first rest ih =>
    intro cert h
    obtain rfl : first = cert := Option.some.inj h.starts
    have hmem := h.listed first mem_cons_self
    cases rest with
    | nil =>
      obtain ⟨last, hlast, hsigner⟩ := h.ends
      obtain rfl : first = last := Option.some.inj hlast
      exact .root hmem hsigner
    | cons next rest =>
      obtain ⟨hkey, hsigned⟩ := isChain_cons_cons.mp h.signed
      have hends := h.ends
      rw [getLast?_cons_cons] at hends
      refine .link hmem (ih ⟨rfl, fun link hlink => h.listed link (mem_cons_of_mem _ hlink),
        hsigned, hends⟩) ?_
      show P.deriveUserId next.deviceSignPk = P.deriveUserId first.signerSignPk
      rw [hkey]

theorem vouched_iff (hapart : KeysApart P roster root) :
    Vouched P root roster.devices cert ↔ ∃ chain, LeadsToRoot root roster.devices cert chain :=
  ⟨leadsToRoot_of_vouched hapart, fun ⟨_, hchain⟩ => vouched_of_leadsToRoot hchain⟩

/-- With everything before it in order, the chain decides whether the chain is called broken. -/
theorem validate_chainBroken_iff (h : ChainReady P roster root) :
    validate P roster root = .error .chainBroken ↔
      false ∈ vouchedMarks P root roster.devices := by
  obtain ⟨index, hindex⟩ := mem_iff_getElem?.mp h.approver
  have hdevices : scanDevices P roster.personId roster.devices = .ok (roster.deviceIds P) :=
    scanDevices_eq_ok_iff.mpr ⟨rfl, h.certs, h.devices_nodup⟩
  have htombstones : scanTombstones (roster.deviceIds P) roster.tombstones =
      .ok roster.tombstoneIds :=
    scanTombstones_eq_ok_iff.mpr ⟨rfl, h.tombstones, h.tombstones_nodup⟩
  have happrover : approvingPosition (roster.deviceIds P) roster.approvingDeviceId = .ok index :=
    (approvingPosition_eq_ok_iff h.devices_nodup).mpr hindex
  have hroles := (roles_iff h.devices_nodup hindex).mpr h.role
  have hsignatures : (forM roster.devices fun cert =>
      (P.verifyRaw cert.signerSignPk (deviceCertSignedBytes cert) cert.signature).mapError
        fun _ => RosterRejection.certSignatureInvalid) = .ok () :=
    forM_eq_ok.mpr fun cert hcert => mapError_eq_ok.mpr (h.certSignatures cert hcert)
  unfold validate
  rw [bind_of_ok (refuseWhen_neg (not_not.mpr h.widths)),
    bind_of_ok (refuseWhen_neg (not_not.mpr h.person)), bind_of_ok (refuseWhen_neg h.cap),
    bind_of_ok hdevices, bind_of_ok htombstones, bind_of_ok happrover,
    bind_of_ok (refuseWhen_neg hroles), bind_of_ok hsignatures]
  by_cases hbroken : false ∈ vouchedMarks P root roster.devices
  · rw [refuseWhen_pos hbroken]
    exact iff_of_true rfl hbroken
  rw [bind_of_ok (refuseWhen_neg hbroken)]
  refine iff_of_false ?_ hbroken
  -- what comes after the chain has refusals of its own
  dsimp only
  by_cases hsigner : ¬ roster.signerSignPk = root ∧
      ¬ roster.devices[index]?.map (·.deviceSignPk) = some roster.signerSignPk
  · rw [refuseWhen_pos hsigner]
    exact nofun
  rw [bind_of_ok (refuseWhen_neg hsigner)]
  by_cases hgenesis : roster.seq = 0 ∧ ¬ roster.signerSignPk = root
  · rw [refuseWhen_pos hgenesis]
    exact nofun
  rw [bind_of_ok (refuseWhen_neg hgenesis)]
  cases P.verifyRaw roster.signerSignPk (rosterSignedBytes roster) roster.signature with
  | ok u => exact nofun
  | error e => exact nofun

theorem chainBroken_iff_chain (h : ChainReady P roster root) (hapart : KeysApart P roster root) :
    validate P roster root = .error .chainBroken ↔
      ∃ cert ∈ roster.devices, ¬ ∃ chain, LeadsToRoot root roster.devices cert chain := by
  rw [validate_chainBroken_iff h, ← not_iff_not, vouchedMarks_all_iff]
  simp only [vouched_iff hapart]
  constructor
  · rintro hall ⟨cert, hcert, hnone⟩
    exact hnone (hall cert hcert)
  · intro hnone cert hcert
    by_contra hno
    exact hnone ⟨cert, hcert, hno⟩

/-- No chain leads out of a set of certificates that sign each other, unless the root signed one. -/
theorem no_chain_of_closed {set : List DeviceCert}
    (hclosed : ∀ cert ∈ set, cert ∈ roster.devices ∧ cert.signerSignPk ≠ root ∧
      ∃ signer ∈ set, signer.deviceSignPk = cert.signerSignPk)
    (hnodup : (roster.deviceIds P).Nodup) (h : Vouched P root roster.devices cert) :
    cert ∉ set := by
  induction h with
  | root hmem hsigner => exact fun hcert => (hclosed _ hcert).2.1 hsigner
  | @link cert signer hmem hsigner hid ih =>
    intro hcert
    obtain ⟨_, _, other, hother, hkey⟩ := hclosed cert hcert
    have hsame : other.deviceId P = signer.deviceId P := by
      rw [hid, DeviceCert.deviceId, hkey]
    obtain rfl := inj_on_of_nodup_map hnodup (hclosed other hother).1 hsigner.mem hsame
    exact ih hother

/-- The keys in a valid document that derive to the person are the root, and it is among them. -/
theorem personRoot_of_valid (hapart : KeysApart P roster root) (h : ValidRoster P roster root) :
    coreRosterPersonRootSignPk P roster = some root := by
  have hroot : ∀ key ∈ roster.keys root,
      decide (key.length = keyLen ∧ P.deriveUserId key = roster.personId) = true → key = root :=
    fun key hkey hderives => hapart key hkey root mem_cons_self
      ((of_decide_eq_true hderives).2.trans h.person.symm)
  have hderives : decide (root.length = keyLen ∧ P.deriveUserId root = roster.personId) = true :=
    decide_eq_true ⟨h.widths.1, h.person⟩
  unfold coreRosterPersonRootSignPk
  dsimp only
  split
  · next hsigner =>
    exact congrArg some (hroot _ (mem_cons_of_mem _ mem_cons_self) hsigner)
  -- the chain of any certificate ends with one that the root signed
  obtain ⟨cert, hcert, _⟩ := mem_map.mp h.approver
  obtain ⟨chain, hchain⟩ := leadsToRoot_of_vouched hapart (h.chain cert hcert)
  obtain ⟨last, hlast, hsigner⟩ := hchain.ends
  have hmem := hchain.listed last (mem_of_getLast? hlast)
  cases hfind : (roster.devices.map (·.signerSignPk)).find? fun key =>
      decide (key.length = keyLen ∧ P.deriveUserId key = roster.personId) with
  | none =>
    have hnone := find?_eq_none.mp hfind _ (mem_map_of_mem hmem)
    rw [hsigner] at hnone
    exact absurd hderives hnone
  | some key =>
    have hderived := find?_some hfind
    obtain ⟨other, hother, rfl⟩ := mem_map.mp (mem_of_find?_eq_some hfind)
    exact congrArg some (hroot _ (signer_mem_keys hother) hderived)

end Chain

/-- Validation of the chain is reachability, for documents no two keys of which have one id: the
chain is called broken exactly when some certificate has none; a set that signs itself has none;
the order of the list does not matter; the loop ends with its first pass that marks nothing, which
is at most the one after as many passes as there are devices; and a valid document gives its root
back. -/
theorem chain_validation_is_reachability (P : Primitives) (roster : Roster) (root : Bytes)
    (hapart : KeysApart P roster root) :
    (ChainReady P roster root →
      (validate P roster root = .error .chainBroken ↔
        ∃ cert ∈ roster.devices, ¬ ∃ chain, LeadsToRoot root roster.devices cert chain) ∧
      (∀ set : List DeviceCert, set ≠ [] →
        (∀ cert ∈ set, cert ∈ roster.devices ∧ cert.signerSignPk ≠ root ∧
          ∃ signer ∈ set, signer.deviceSignPk = cert.signerSignPk) →
        validate P roster root = .error .chainBroken) ∧
      (∀ devices : List DeviceCert, devices.Perm roster.devices →
        (validate P { roster with devices } root = .error .chainBroken ↔
          validate P roster root = .error .chainBroken)) ∧
      ∃ passes ≤ roster.devices.length,
        vouchedMarks P root roster.devices = marksAfter P root roster.devices passes ∧
        grows P root roster.devices (marksAfter P root roster.devices passes) = false ∧
        ∀ earlier < passes,
          grows P root roster.devices (marksAfter P root roster.devices earlier) = true) ∧
    (validate P roster root = .ok () → coreRosterPersonRootSignPk P roster = some root) := by
  refine ⟨fun h => ⟨chainBroken_iff_chain h hapart, ?_, ?_, ?_⟩,
    fun hvalid => personRoot_of_valid hapart (validate_eq_ok_iff.mp hvalid)⟩
  · intro set hset hclosed
    obtain ⟨cert, hcert⟩ := exists_mem_of_ne_nil set hset
    refine (chainBroken_iff_chain h hapart).mpr ⟨cert, (hclosed cert hcert).1, fun hchain => ?_⟩
    exact no_chain_of_closed hclosed h.devices_nodup ((vouched_iff hapart).mpr hchain) hcert
  · intro devices hperm
    have hvouched : ∀ cert, Vouched P root devices cert ↔ Vouched P root roster.devices cert :=
      fun cert => ⟨.mono fun _ => hperm.mem_iff.mp, .mono fun _ => hperm.mem_iff.mpr⟩
    rw [validate_chainBroken_iff (h.perm hperm), validate_chainBroken_iff h, ← not_iff_not,
      vouchedMarks_all_iff, vouchedMarks_all_iff]
    simp only [hvouched, hperm.mem_iff]
  · have hpasses := saturate_passes (reachesRoot P root roster.devices)
      (replicate roster.devices.length false)
    rw [length_replicate] at hpasses
    exact hpasses

namespace Sample

/-- A roster with a second device that signed its own certificate. -/
def selfSignedRoster : Roster :=
  Roster.signedBy primitives
    { firstRoster with
      seq := 1
      devices := firstRoster.devices ++ [certBy (secretKey 3) otherDeviceKey 0 0] } (secretKey 2)

theorem selfSignedRoster_ready : ChainReady primitives selfSignedRoster personRoot :=
  ⟨by decide +kernel, by decide +kernel, by decide +kernel,
    by unfold DeviceCert.WellFormed; decide +kernel, by decide +kernel, by decide +kernel,
    by decide +kernel, by decide +kernel, by decide +kernel, by decide +kernel⟩

end Sample

open Sample in
theorem self_signed_device_is_refused :
    validate primitives selfSignedRoster personRoot = .error .chainBroken ∧
    coreRosterPersonRootSignPk primitives pairRoster = some personRoot := by
  have hself := chain_validation_is_reachability primitives selfSignedRoster personRoot
    (by decide +kernel)
  have hpair := chain_validation_is_reachability primitives pairRoster personRoot (by decide +kernel)
  refine ⟨(hself.1 selfSignedRoster_ready).2.1 [certBy (secretKey 3) otherDeviceKey 0 0] (by decide)
    ?_, hpair.2 (by decide +kernel)⟩
  decide +kernel

end CruiseMesh
