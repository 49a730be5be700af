import CruiseMesh.Sync.AntiEntropy

/-!
# The canonical form of a sync digest

A digest is sent at every encounter, so that one view of the streams is to have one encoding. The
encoder sorts the streams and refuses one that is named twice. The decoder reads them in whatever
order they come (`accepted_digest_canonical_iff`, `descending_digest_accepted`).
-/

namespace CruiseMesh
open List Wire

/-- The stream a line of a digest is about. -/
def SyncStreamDigest.stream (line : SyncStreamDigest) : Bytes × UInt8 :=
  (line.authorDeviceId, line.kind)

/-- The order of the encoder: by author, then by kind. -/
def SyncStreamDigest.Before (a b : SyncStreamDigest) : Prop := toLex a.stream ≤ toLex b.stream

instance : DecidableRel SyncStreamDigest.Before := fun _ _ =>
  decidable_of_iff' _ Prod.Lex.toLex_le_toLex

def SyncStreamDigest.bytes (line : SyncStreamDigest) : Bytes :=
  line.authorDeviceId ++ ([line.kind] ++
    (beBytes 1 (if line.canServe then syncStreamFlagCanServe else 0) ++ beBytes 8 line.throughSeq))

namespace SyncDigest
variable (digest : SyncDigest)

def sorted : SyncDigest :=
  { digest with streams := digest.streams.insertionSort SyncStreamDigest.Before }

def bytes : Bytes :=
  beBytes 1 syncDigestVersion ++ ((beBytes 2 digest.personId.length ++ digest.personId) ++
    (beBytes 2 digest.streams.length ++ digest.streams.flatMap (·.bytes)))

/-- Within the limits of the format. -/
structure Fits : Prop where
  person : digest.personId.length ≤ u16Max
  count : digest.streams.length ≤ syncDigestMaxStreams
  ids : ∀ line ∈ digest.streams, line.authorDeviceId.length = deviceIdLen

/-- Each stream once, in the order of the encoder. -/
def Ascending : Prop := digest.streams.Pairwise fun a b => toLex a.stream < toLex b.stream

end SyncDigest

/-- `core_encode_sync_digest`. -/
def coreEncodeSyncDigest (digest : SyncDigest) : Except CoreError Bytes := do
  refuseWhen (u16Max < digest.personId.length) (.malformed "sync digest person id is too long")
  refuseWhen (syncDigestMaxStreams < digest.streams.length) (tooManyStreams digest.streams.length)
  refuseWhen (∃ line ∈ digest.streams, line.authorDeviceId.length ≠ deviceIdLen)
    (.malformed ("sync digest device id must be " ++ toString deviceIdLen ++ " bytes"))
  -- once sorted, a stream that is named twice stands beside itself
  refuseWhen (¬ digest.sorted.streams.IsChain fun a b => a.stream ≠ b.stream)
    (.malformed "sync digest names one stream twice")
  pure digest.sorted.bytes

variable {digest : SyncDigest} {line : SyncStreamDigest} {bytes : Bytes}

theorem coreEncodeSyncDigest_eq_ok : coreEncodeSyncDigest digest = .ok bytes ↔ digest.Fits ∧
    (digest.sorted.streams.IsChain fun a b => a.stream ≠ b.stream) ∧ digest.sorted.bytes = bytes := by
  unfold coreEncodeSyncDigest
  simp only [bind_eq_ok, refuseWhen_eq_ok, not_not, not_lt, not_exists, not_and]
  constructor
  · rintro ⟨_, hperson, _, hcount, _, hids, _, hchain, hbytes⟩
    exact ⟨⟨hperson, hcount, hids⟩, hchain, Except.ok.inj hbytes⟩
  · rintro ⟨⟨hperson, hcount, hids⟩, hchain, rfl⟩
    exact ⟨(), hperson, (), hcount, (), hids, (), hchain, rfl⟩

/-! ## The order -/

section Order

local instance byteOrder : LinearOrder UInt8 := AntiEntropy.byteOrder

instance : Std.Total SyncStreamDigest.Before :=
  ⟨fun a b => le_total (toLex a.stream) (toLex b.stream)⟩

instance : IsTrans SyncStreamDigest SyncStreamDigest.Before := ⟨fun _ _ _ => le_trans⟩

/-- Comparing neighbours is enough. -/
theorem ascending_of_isChain (h : digest.sorted.streams.IsChain fun a b => a.stream ≠ b.stream) :
    digest.sorted.Ascending := by
  have hsorted : digest.sorted.streams.IsChain SyncStreamDigest.Before :=
    (pairwise_insertionSort _ _).isChain
  rw [isChain_iff_getElem] at h hsorted
  have hchain : digest.sorted.streams.IsChain fun a b => toLex a.stream < toLex b.stream :=
    isChain_iff_getElem.mpr fun i hi => lt_of_le_of_ne (hsorted i hi) (h i hi)
  have : IsTrans SyncStreamDigest fun a b => toLex a.stream < toLex b.stream :=
    ⟨fun _ _ _ => lt_trans⟩
  exact hchain.pairwise

theorem isChain_of_ascending (h : digest.Ascending) :
    digest.streams.IsChain fun a b => a.stream ≠ b.stream :=
  Pairwise.isChain (h.imp fun hlt heq => hlt.ne heq)

theorem sorted_of_ascending (h : digest.Ascending) : digest.sorted = digest :=
  congrArg (SyncDigest.mk digest.personId) (Pairwise.insertionSort_eq (h.imp le_of_lt))

/-- The same streams, each once, are sorted into the same list. -/
theorem sorted_congr {streams : List SyncStreamDigest}
    (hdistinct : (digest.streams.map (·.stream)).Nodup) (hperm : streams ~ digest.streams) :
    ({ digest with streams } : SyncDigest).sorted = digest.sorted := by
  refine congrArg (SyncDigest.mk digest.personId) ?_
  refine Perm.eq_of_pairwise (fun a b ha hb h h' => ?_) (pairwise_insertionSort _ _)
    (pairwise_insertionSort _ _) (((perm_insertionSort _ _).trans hperm).trans
      (perm_insertionSort _ _).symm)
  exact inj_on_of_nodup_map hdistinct (hperm.mem_iff.mp ((mem_insertionSort _).mp ha))
    ((mem_insertionSort _).mp hb) (toLex.injective (le_antisymm h h'))

end Order

theorem perm_sorted (digest : SyncDigest) : digest.sorted.streams ~ digest.streams :=
  perm_insertionSort _ _

/-! ## Reading -/

theorem reads_readStreamDigest (hid : line.authorDeviceId.length = deviceIdLen)
    (hseq : line.throughSeq < 2 ^ 64) : Reads readStreamDigest line.bytes line := by
  have hflag : (if line.canServe then syncStreamFlagCanServe else 0) < 256 ^ 1 ∧
      ¬ syncStreamFlagCanServe < if line.canServe then syncStreamFlagCanServe else 0 := by
    cases line.canServe <;> decide
  refine (reads_take hid).bind ((reads_takeByte _).bind ((reads_takeNat_of_lt hflag.1).bind ?_))
  rw [refuseWhen_neg hflag.2, UInt8.ofNat_toNat]
  obtain ⟨author, kind, seq, serve⟩ := line
  cases serve <;> exact (Reads.lift ()).bind ((reads_takeNat_of_lt hseq).bind_pure _)

theorem decode_bytes (h : digest.Fits) (hseqs : ∀ line ∈ digest.streams, line.throughSeq < 2 ^ 64) :
    coreDecodeSyncDigest digest.bytes = .ok digest := by
  have hlines := reads_takeMany digest.streams fun line hline =>
    reads_readStreamDigest (h.ids line hline) (hseqs line hline)
  have hread : Reads readSyncDigest digest.bytes digest := by
    refine (reads_takeNat 1 syncDigestVersion).bind ((Reads.lift ()).bind
      ((reads_takePrefixed (Nat.lt_succ_of_le h.person)).bind
        ((reads_takeNat_of_lt (h.count.trans_lt (by decide))).bind ?_)))
    rw [refuseWhen_neg (not_lt.mpr h.count)]
    exact (Reads.lift ()).bind (hlines.bind_pure _)
  exact hread.readAll digestTrailing

theorem readStreamDigest_eq_ok {c c' : Cursor} (h : readStreamDigest c = .ok (line, c')) :
    (line.authorDeviceId.length = deviceIdLen ∧ line.throughSeq < 2 ^ 64) ∧
      Spans c line.bytes c' := by
  obtain ⟨id, _, hid, h⟩ := reader_bind_eq_ok.mp h
  obtain ⟨kind, _, hkind, h⟩ := reader_bind_eq_ok.mp h
  obtain ⟨flags, _, hflags, h⟩ := reader_bind_eq_ok.mp h
  obtain ⟨_, _, hlift, h⟩ := reader_bind_eq_ok.mp h
  obtain ⟨seq, _, hseq, h⟩ := reader_bind_eq_ok.mp h
  cases h
  obtain ⟨hknown, rfl⟩ := Durable.Tx.lift_eq_ok.mp hlift
  have hflag : (if decide (flags = syncStreamFlagCanServe) then syncStreamFlagCanServe else 0) =
      flags := by
    have := refuseWhen_eq_ok.mp hknown
    unfold syncStreamFlagCanServe at *
    grind
  have hbyte : beBytes 1 kind = [UInt8.ofNat kind] := by simp [beBytes]
  have hspans := (takeNat_eq_ok hkind).2.append
    ((takeNat_eq_ok hflags).2.append (takeNat_eq_ok hseq).2)
  rw [← hflag, hbyte] at hspans
  exact ⟨⟨(take_eq_ok hid).1, (takeNat_eq_ok hseq).1⟩, (take_eq_ok hid).2.append hspans⟩

/-- What is accepted fits, and is the bytes of the lines in the order in which they were read. -/
theorem coreDecodeSyncDigest_eq_ok (h : coreDecodeSyncDigest bytes = .ok digest) :
    (digest.Fits ∧ ∀ line ∈ digest.streams, line.throughSeq < 2 ^ 64) ∧ digest.bytes = bytes := by
  obtain ⟨_, h, hwhole⟩ := readAll_eq_ok h
  obtain ⟨version, _, hversion, h⟩ := reader_bind_eq_ok.mp h
  obtain ⟨_, _, hsupported, h⟩ := reader_bind_eq_ok.mp h
  obtain ⟨person, _, hperson, h⟩ := reader_bind_eq_ok.mp h
  obtain ⟨count, _, hcount, h⟩ := reader_bind_eq_ok.mp h
  obtain ⟨_, _, hcapped, h⟩ := reader_bind_eq_ok.mp h
  obtain ⟨streams, _, hstreams, h⟩ := reader_bind_eq_ok.mp h
  cases h
  obtain ⟨hknown, rfl⟩ := Durable.Tx.lift_eq_ok.mp hsupported
  obtain ⟨hlimit, rfl⟩ := Durable.Tx.lift_eq_ok.mp hcapped
  obtain rfl := not_not.mp (refuseWhen_eq_ok.mp hknown)
  have hlines := forall_takeMany (fun h => (readStreamDigest_eq_ok h).1) hstreams
  obtain ⟨rfl, hspans⟩ := takeMany_eq_ok (fun h => (readStreamDigest_eq_ok h).2) hstreams
  obtain ⟨hlt, hprefixed⟩ := takePrefixed_eq_ok hperson
  refine ⟨⟨⟨Nat.le_of_lt_succ hlt, not_lt.mp (refuseWhen_eq_ok.mp hlimit),
    fun line hline => (hlines line hline).1⟩, fun line hline => (hlines line hline).2⟩, hwhole _ ?_⟩
  exact (takeNat_eq_ok hversion).2.append (hprefixed.append ((takeNat_eq_ok hcount).2.append hspans))

/-! ## One form for one view -/

/-- What the encoder writes is read back, sorted. -/
theorem decode_of_encode (hseqs : ∀ line ∈ digest.streams, line.throughSeq < 2 ^ 64)
    (h : coreEncodeSyncDigest digest = .ok bytes) :
    coreDecodeSyncDigest bytes = .ok digest.sorted := by
  obtain ⟨hfits, _, rfl⟩ := coreEncodeSyncDigest_eq_ok.mp h
  have hperm := perm_sorted digest
  exact decode_bytes ⟨hfits.person, hperm.length_eq.trans_le hfits.count,
    fun line hline => hfits.ids line (hperm.mem_iff.mp hline)⟩
    fun line hline => hseqs line (hperm.mem_iff.mp hline)

/-- A view of the streams has one encoding, in whatever order they are listed, and is read back
sorted. The decoder does not ask for that order: it reads the lines of every digest that fits,
unsorted or repeated as they may be, and an accepted string is the encoding of what was read
exactly when its streams ascend. -/
theorem accepted_digest_canonical_iff :
    (∀ digest : SyncDigest, (digest.streams.map (·.stream)).Nodup →
      (∀ line ∈ digest.streams, line.throughSeq < 2 ^ 64) →
      (∀ streams, streams ~ digest.streams →
        coreEncodeSyncDigest { digest with streams } = coreEncodeSyncDigest digest) ∧
      ((∃ bytes, coreEncodeSyncDigest digest = .ok bytes) ↔ digest.Fits) ∧
      ∀ bytes, coreEncodeSyncDigest digest = .ok bytes →
        coreDecodeSyncDigest bytes = .ok digest.sorted) ∧
    (∀ digest : SyncDigest, digest.Fits → (∀ line ∈ digest.streams, line.throughSeq < 2 ^ 64) →
      coreDecodeSyncDigest digest.bytes = .ok digest) ∧
    ∀ bytes digest, coreDecodeSyncDigest bytes = .ok digest →
      (coreEncodeSyncDigest digest = .ok bytes ↔ digest.Ascending) := by
  refine ⟨fun digest hdistinct hseqs => ⟨fun streams hperm => ?_, ?_, fun _ h =>
    decode_of_encode hseqs h⟩, fun digest hfits hseqs => decode_bytes hfits hseqs,
    fun bytes digest h => ?_⟩
  · unfold coreEncodeSyncDigest
    simp only [sorted_congr hdistinct hperm, hperm.length_eq, hperm.mem_iff]
  · rw [← ((perm_sorted digest).map _).nodup_iff, Nodup, pairwise_map] at hdistinct
    constructor
    · rintro ⟨_, h⟩
      exact (coreEncodeSyncDigest_eq_ok.mp h).1
    · exact fun hfits => ⟨_, coreEncodeSyncDigest_eq_ok.mpr ⟨hfits, hdistinct.isChain, rfl⟩⟩
  · obtain ⟨⟨hfits, hseqs⟩, hbytes⟩ := coreDecodeSyncDigest_eq_ok h
    constructor
    · intro hencode
      -- the string is read back as it was, and sorted
      have hsame : digest = digest.sorted :=
        Except.ok.inj (h.symm.trans (decode_of_encode hseqs hencode))
      exact hsame ▸ ascending_of_isChain (coreEncodeSyncDigest_eq_ok.mp hencode).2.1
    · intro hascending
      have hsame := sorted_of_ascending hascending
      exact coreEncodeSyncDigest_eq_ok.mpr
        ⟨hfits, hsame.symm ▸ isChain_of_ascending hascending, hsame.symm ▸ hbytes⟩

/-- Two streams, the later one first. -/
def descendingDigest : SyncDigest :=
  ⟨[7], [⟨replicate 16 2, 1, 5, true⟩, ⟨replicate 16 1, 1, 5, true⟩]⟩

theorem descending_digest_encodes : (descendingDigest.streams.map (·.stream)).Nodup ∧
    coreEncodeSyncDigest { descendingDigest with streams := descendingDigest.streams.reverse } =
      coreEncodeSyncDigest descendingDigest :=
  ⟨by decide, (accepted_digest_canonical_iff.1 descendingDigest (by decide) (by decide)).1 _
    (reverse_perm _)⟩

/-- One stream twice. -/
def repeatedDigest : SyncDigest :=
  ⟨[7], replicate 2 ⟨replicate 16 2, 1, 5, true⟩⟩

theorem descending_digest_accepted :
    (coreDecodeSyncDigest descendingDigest.bytes = .ok descendingDigest ∧
      coreEncodeSyncDigest descendingDigest ≠ .ok descendingDigest.bytes) ∧
    coreDecodeSyncDigest repeatedDigest.bytes = .ok repeatedDigest ∧
      coreEncodeSyncDigest repeatedDigest ≠ .ok repeatedDigest.bytes :=
  ⟨⟨decode_bytes ⟨by decide, by decide, by decide⟩ (by decide), by decide +kernel⟩,
    decode_bytes ⟨by decide, by decide, by decide⟩ (by decide), by decide +kernel⟩

end CruiseMesh
