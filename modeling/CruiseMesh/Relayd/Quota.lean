import CruiseMesh.Lib.Runs
import CruiseMesh.Relayd.Families
import CruiseMesh.Relayd.Mailbox
import CruiseMesh.Sample

/-!
# Quotas over whole histories

The usage of a family is not a counter: every insertion sums up what is stored under the
family's token, and what is stored changes by re-posts, acknowledgements, pruning and
rotations, which rename the account. `WithinQuota` is what the three ceilings promise of an
account; `within_next` says that each call keeps it, and `quotas_hold` that it holds in
every history.

The bytes counted are those of three conditions on a row, so what a call does to the sums
is said once for any condition, in `sealedBytes_filter_map` and its neighbours.
-/

namespace CruiseMesh.Relayd
open RelayStore List Runs Envelopes

/-! ## Sums -/

@[simp] theorem sealedBytes_append (rows rows' : List EnvelopeRow) :
    sealedBytes (rows ++ rows') = sealedBytes rows + sealedBytes rows' := by
  simp [sealedBytes]

theorem sealedBytes_le_of_sublist {rows rows' : List EnvelopeRow} (h : rows.Sublist rows') :
    sealedBytes rows ≤ sealedBytes rows' := by
  induction h with
  | slnil => exact le_refl _
  | cons row _ ih => simp only [sealedBytes, map_cons, sum_cons] at ih ⊢; omega
  | cons_cons row _ ih => simp only [sealedBytes, map_cons, sum_cons] at ih ⊢; omega

variable {f : EnvelopeRow → EnvelopeRow}

/-- Rows that change in other columns are counted as before. -/
theorem sealedBytes_filter_map {p q : EnvelopeRow → Bool}
    {rows : List EnvelopeRow} (hp : ∀ row ∈ rows, p (f row) = q row)
    (hsealed : ∀ row, (f row).sealed = row.sealed) :
    sealedBytes ((rows.map f).filter p) = sealedBytes (rows.filter q) := by
  have hfilter : rows.filter (p ∘ f) = rows.filter q := filter_congr hp
  rw [filter_map, hfilter]
  simp only [sealedBytes, map_map]
  exact congrArg sum (map_congr_left fun row _ => by simp [hsealed])

theorem sealedBytes_filter_append_singleton (p : EnvelopeRow → Bool) (rows : List EnvelopeRow)
    (row : EnvelopeRow) :
    sealedBytes ((rows ++ [row]).filter p) =
      sealedBytes (rows.filter p) + if p row then row.sealed.length else 0 := by
  rw [filter_append, sealedBytes_append]
  by_cases hrow : p row
  · simp [hrow, sealedBytes]
  · simp [hrow, sealedBytes]

/-! ## The ceilings -/

/-- What is stored under a token is within the quota and its two shares. -/
structure WithinQuota (familyQuotaBytes : Nat) (familyToken : Bytes) (rows : List EnvelopeRow) :
    Prop where
  family : sealedBytes (ofFamily familyToken rows) ≤ familyQuotaBytes
  allDepositors : sealedBytes (deposits familyToken rows) ≤ depositTotalShareBytes familyQuotaBytes
  eachDepositor : ∀ depositor, depositor ≠ memberDepositor →
    sealedBytes (depositsBy familyToken depositor rows) ≤
      depositPerDepositorShareBytes familyQuotaBytes

theorem withinQuota_of_empty {familyQuotaBytes : Nat} {familyToken : Bytes}
    {rows : List EnvelopeRow} (h : ∀ row ∈ rows, row.familyToken ≠ familyToken) :
    WithinQuota familyQuotaBytes familyToken rows := by
  have hnone : ∀ p : EnvelopeRow → Bool, (∀ row, p row → row.familyToken = familyToken) →
      sealedBytes (rows.filter p) = 0 := by
    intro p hp
    rw [filter_eq_nil_iff.mpr fun row hrow hrow' => h row hrow (hp row hrow')]
    rfl
  refine ⟨?_, ?_, fun depositor _ => ?_⟩
  · rw [ofFamily, hnone _ (by simp)]; exact Nat.zero_le _
  · rw [deposits, hnone _ (by simp +contextual)]; exact Nat.zero_le _
  · rw [depositsBy, hnone _ (by simp +contextual)]; exact Nat.zero_le _

section Keeps
variable {familyQuotaBytes : Nat} {familyToken : Bytes} {rows : List EnvelopeRow}

/-- Deleting rows frees space. -/
theorem WithinQuota.filter (h : WithinQuota familyQuotaBytes familyToken rows)
    (p : EnvelopeRow → Bool) : WithinQuota familyQuotaBytes familyToken (rows.filter p) := by
  have hle : ∀ q : EnvelopeRow → Bool,
      sealedBytes ((rows.filter p).filter q) ≤ sealedBytes (rows.filter q) :=
    fun q => sealedBytes_le_of_sublist (filter_sublist.filter q)
  exact ⟨(hle _).trans h.family, (hle _).trans h.allDepositors,
    fun depositor hne => (hle _).trans (h.eachDepositor depositor hne)⟩

/-- Renaming the account, or changing columns that are not counted. -/
theorem WithinQuota.map {newToken : Bytes} (h : WithinQuota familyQuotaBytes familyToken rows)
    (htoken : ∀ row ∈ rows, (f row).familyToken = newToken ↔ row.familyToken = familyToken)
    (hdepositor : ∀ row, (f row).depositor = row.depositor)
    (hsealed : ∀ row, (f row).sealed = row.sealed) :
    WithinQuota familyQuotaBytes newToken (rows.map f) := by
  have hfamily : sealedBytes (ofFamily newToken (rows.map f)) = sealedBytes (ofFamily familyToken rows) :=
    sealedBytes_filter_map (fun row hrow => by simp only [htoken row hrow]) hsealed
  have hdeposits : sealedBytes (deposits newToken (rows.map f)) = sealedBytes (deposits familyToken rows) :=
    sealedBytes_filter_map (fun row hrow => by simp only [htoken row hrow, hdepositor]) hsealed
  have hby : ∀ depositor, sealedBytes (depositsBy newToken depositor (rows.map f)) =
      sealedBytes (depositsBy familyToken depositor rows) := fun depositor =>
    sealedBytes_filter_map (fun row hrow => by simp only [htoken row hrow, hdepositor]) hsealed
  exact ⟨hfamily ▸ h.family, hdeposits ▸ h.allDepositors,
    fun depositor hne => hby depositor ▸ h.eachDepositor depositor hne⟩

theorem sealedBytesSum_eq_ok {total : Nat} :
    sealedBytesSum rows = .ok total ↔ (sealedBytes rows : Int) ≤ i64Max ∧ sealedBytes rows = total := by
  simp only [sealedBytesSum, bind_eq_ok, refuseWhen_eq_ok, exists_const]
  constructor
  · rintro ⟨hle, h⟩
    exact ⟨not_lt.mp hle, Except.ok.inj h⟩
  · rintro ⟨hle, rfl⟩
    exact ⟨not_lt.mpr hle, rfl⟩

/-- A sum SQLite can represent and one envelope more do not saturate. -/
theorem saturatingAdd_eq {usage candidate : Nat} (husage : (usage : Int) ≤ i64Max)
    (hsize : candidate ≤ maxEnvelopeSealedBytes) :
    saturatingAdd usage candidate = usage + candidate := by
  simp only [i64Max, maxEnvelopeSealedBytes] at husage hsize
  simp only [saturatingAdd, u64Max]
  omega

variable {e : NewEnvelope} {depositor : Option Bytes}

/-- A post the quota lets through fits under every ceiling it is charged to. -/
theorem room_of_quotaCheck {s : RelayStore} (hsize : e.sealed.length ≤ maxEnvelopeSealedBytes)
    (hroom : s.quotaCheck e familyQuotaBytes depositor = .ok none) :
    sealedBytes (ofFamily e.familyToken s.envelopes.rows) + e.sealed.length ≤ familyQuotaBytes ∧
    ∀ credential, depositor = some credential →
      sealedBytes (deposits e.familyToken s.envelopes.rows) + e.sealed.length ≤
        depositTotalShareBytes familyQuotaBytes ∧
      sealedBytes (depositsBy e.familyToken credential s.envelopes.rows) + e.sealed.length ≤
        depositPerDepositorShareBytes familyQuotaBytes := by
  obtain ⟨usage, husage, hnone⟩ := bind_eq_ok.mp hroom
  obtain ⟨familyBytes, hfamily, husage⟩ := bind_eq_ok.mp husage
  obtain ⟨hfamilyMax, rfl⟩ := sealedBytesSum_eq_ok.mp hfamily
  have hnone : quotaRejection usage e.sealed.length familyQuotaBytes depositor = none :=
    Except.ok.inj hnone
  cases depositor with
  | none =>
    cases husage
    unfold quotaRejection at hnone
    split at hnone
    · cases hnone
    · rename_i hfits
      rw [saturatingAdd_eq hfamilyMax hsize] at hfits
      exact ⟨not_lt.mp hfits, fun _ => nofun⟩
  | some credential =>
    obtain ⟨depositBytes, hdeposit, husage⟩ := bind_eq_ok.mp husage
    obtain ⟨depositorBytes, hdepositor, husage⟩ := bind_eq_ok.mp husage
    obtain ⟨hdepositMax, rfl⟩ := sealedBytesSum_eq_ok.mp hdeposit
    obtain ⟨hdepositorMax, rfl⟩ := sealedBytesSum_eq_ok.mp hdepositor
    cases husage
    unfold quotaRejection at hnone
    dsimp only at hnone
    -- none of the three ceilings answered
    split at hnone
    · cases hnone
    rename_i hfits
    rw [if_neg (by simp)] at hnone
    split at hnone
    · cases hnone
    rename_i hshare
    split at hnone
    · cases hnone
    · rename_i htotal
      rw [saturatingAdd_eq hfamilyMax hsize] at hfits
      rw [saturatingAdd_eq hdepositorMax hsize] at hshare
      rw [saturatingAdd_eq hdepositMax hsize] at htotal
      refine ⟨not_lt.mp hfits, fun other hother => ?_⟩
      cases hother
      exact ⟨not_lt.mp htotal, not_lt.mp hshare⟩

/-- Adding a row that fits. -/
theorem WithinQuota.append {id : Int} (h : WithinQuota familyQuotaBytes e.familyToken rows)
    (hfamily : sealedBytes (ofFamily e.familyToken rows) + e.sealed.length ≤ familyQuotaBytes)
    (hshares : ∀ credential, depositor = some credential →
      sealedBytes (deposits e.familyToken rows) + e.sealed.length ≤
        depositTotalShareBytes familyQuotaBytes ∧
      sealedBytes (depositsBy e.familyToken credential rows) + e.sealed.length ≤
        depositPerDepositorShareBytes familyQuotaBytes) :
    WithinQuota familyQuotaBytes e.familyToken (rows ++ [{ e.row depositor with id := id }]) := by
  refine ⟨?_, ?_, fun credential hne => ?_⟩
  · rw [ofFamily, sealedBytes_filter_append_singleton]
    simpa [ofFamily, NewEnvelope.row] using hfamily
  · rw [deposits, sealedBytes_filter_append_singleton]
    cases depositor with
    | none => simpa [NewEnvelope.row, deposits] using h.allDepositors
    | some credential =>
      by_cases hmember : credential = memberDepositor
      · simpa [NewEnvelope.row, deposits, hmember] using h.allDepositors
      · simpa [NewEnvelope.row, deposits, hmember] using (hshares credential rfl).1
  · rw [depositsBy, sealedBytes_filter_append_singleton]
    by_cases hcharged : depositor = some credential
    · subst hcharged
      simpa [NewEnvelope.row, depositsBy] using (hshares credential rfl).2
    · -- the row is charged to somebody else
      have hother : depositor.getD memberDepositor ≠ credential := by
        cases depositor with
        | none => exact fun heq => hne heq.symm
        | some other => exact fun heq => hcharged (congrArg some heq)
      simpa [NewEnvelope.row, depositsBy, hother] using h.eachDepositor credential hne

end Keeps

/-! ## What a row is charged -/

/-- Between two moments rows come and go, but a row that is there at both was charged to
the same depositor with the same bytes, and a row that is there only later has a new id. -/
structure Charges (t t' : Envelopes) : Prop where
  lastId : t.lastId ≤ t'.lastId
  origin : ∀ row' ∈ t'.rows,
    (∃ row ∈ t.rows, row.id = row'.id ∧ row.depositor = row'.depositor ∧ row.sealed = row'.sealed) ∨
      t.lastId < row'.id

namespace Charges

theorem refl (t : Envelopes) : Charges t t :=
  ⟨le_refl _, fun row hrow => .inl ⟨row, hrow, rfl, rfl, rfl⟩⟩

variable {t t' : Envelopes}

theorem trans {t'' : Envelopes} (h : Charges t t') (h' : Charges t' t'') : Charges t t'' := by
  refine ⟨h.lastId.trans h'.lastId, fun row'' hrow'' => ?_⟩
  rcases h'.origin row'' hrow'' with ⟨row', hrow', hid', hdep', hsealed'⟩ | hnew
  · rcases h.origin row' hrow' with ⟨row, hrow, hid, hdep, hsealed⟩ | hnew
    · exact .inl ⟨row, hrow, hid.trans hid', hdep.trans hdep', hsealed.trans hsealed'⟩
    · exact .inr (hid' ▸ hnew)
  · have := h.lastId
    exact .inr (by omega)

theorem of_subset (hlast : t'.lastId = t.lastId) (h : t'.rows ⊆ t.rows) :
    Charges t t' :=
  ⟨le_of_eq hlast.symm, fun row hrow => .inl ⟨row, h hrow, rfl, rfl, rfl⟩⟩

theorem of_map (hlast : t'.lastId = t.lastId) (hrows : t'.rows = t.rows.map f)
    (hf : ∀ row, (f row).id = row.id ∧ (f row).depositor = row.depositor ∧
      (f row).sealed = row.sealed) : Charges t t' := by
  refine ⟨le_of_eq hlast.symm, fun row' hrow' => .inl ?_⟩
  rw [hrows] at hrow'
  obtain ⟨row, hrow, rfl⟩ := mem_map.mp hrow'
  obtain ⟨hid, hdep, hsealed⟩ := hf row
  exact ⟨row, hrow, hid.symm, hdep.symm, hsealed.symm⟩

/-- A row that is there at both moments is charged the same. -/
theorem same (h : Charges t t') {row row' : EnvelopeRow} (hrow : row ∈ t.rows)
    (hrow' : row' ∈ t'.rows) (hid : row'.id = row.id) :
    row'.depositor = row.depositor ∧ row'.sealed = row.sealed := by
  rcases h.origin row' hrow' with ⟨old, hold, hold_id, hdep, hsealed⟩ | hnew
  · obtain rfl := t.eq_of_id_eq hold hrow (hold_id.trans hid)
    exact ⟨hdep.symm, hsealed.symm⟩
  · have := (t.issued row hrow).2
    omega

end Charges

theorem NewEnvelope.extend_columns (e : NewEnvelope) (row : EnvelopeRow) :
    (e.extend row).id = row.id ∧ (e.extend row).depositor = row.depositor ∧
      (e.extend row).sealed = row.sealed ∧ (e.extend row).familyToken = row.familyToken := by
  unfold NewEnvelope.extend
  split <;> exact ⟨rfl, rfl, rfl, rfl⟩

theorem moved_columns (current new : Bytes) (row : EnvelopeRow) :
    (moved current new row).id = row.id ∧
      (moved current new row).depositor = row.depositor ∧
      (moved current new row).sealed = row.sealed := by
  unfold moved
  split <;> exact ⟨rfl, rfl, rfl⟩

/-! ## Histories of one account -/

/-- A family's current token and the database its rows are in. -/
structure Account where
  token : Bytes
  store : RelayStore

/-- The calls that change what a family has stored. -/
inductive Call where
  | insert (e : NewEnvelope) (depositor : Option Bytes)
  | ack (familyToken : Bytes) (ids : List Int)
  | prune (nowMs : Int)
  | rotate (newToken : Bytes) (authority : RotationAuthority)

section Histories
variable (P : Primitives) (familyQuotaBytes : Nat)

/-- The account after a call. What is posted is posted under the family's current token. -/
def Call.next (a : Account) : Call → Account
  | .insert e depositor =>
    { a with store := committed a.store (a.store.insertEnvelopeWithQuota
        { e with familyToken := a.token } familyQuotaBytes depositor) }
  | .ack familyToken ids => { a with store := committed a.store (a.store.ackEnvelopes familyToken ids) }
  | .prune nowMs => { a with store := a.store.pruneExpired nowMs }
  | .rotate newToken authority =>
    match a.store.rotateFamilyToken P a.token newToken authority with
    | .ok (.rotated family _, s') => { token := family.token, store := s' }
    | _ => a

/-- The account after the first `n` calls. -/
def accountAt (initial : Account) (calls : List Call) (n : Nat) : Account :=
  stateAt (Call.next P familyQuotaBytes) initial calls n

variable {P familyQuotaBytes}

/-- The rows of the account. -/
def Account.rows (a : Account) : List EnvelopeRow := a.store.envelopes.rows

def Account.Within (familyQuotaBytes : Nat) (a : Account) : Prop :=
  WithinQuota familyQuotaBytes a.token a.rows

variable {s s' : RelayStore} {e : NewEnvelope} {depositor : Option Bytes}

theorem insert_keeps {result : QuotaInsertResult}
    (hinserted : Inserted s e familyQuotaBytes depositor result s')
    (h : WithinQuota familyQuotaBytes e.familyToken s.envelopes.rows) :
    WithinQuota familyQuotaBytes e.familyToken s'.envelopes.rows ∧
      Charges s.envelopes s'.envelopes := by
  have hpruned := h.filter fun row => ¬ row.Expired e.createdAtMs
  rw [← rows_pruneExpired] at hpruned
  have hless : Charges s.envelopes (s.pruneExpired e.createdAtMs).envelopes :=
    .of_subset rfl (by rw [rows_pruneExpired]; exact filter_subset_self _)
  cases hinserted with
  | conflict => exact ⟨h, .refl _⟩
  | same hfind hsame =>
    have hcolumns := NewEnvelope.extend_columns e
    refine ⟨h.map (fun row _ => by rw [(hcolumns row).2.2.2]) (fun row => (hcolumns row).2.1)
      (fun row => (hcolumns row).2.2.1), .of_map rfl (rows_repost s e) fun row => ?_⟩
    exact ⟨(hcolumns row).1, (hcolumns row).2.1, (hcolumns row).2.2.1⟩
  | refused => exact ⟨hpruned, hless⟩
  | @fresh base _ hfind hsize hbase hroom hrows hlast =>
    obtain ⟨hfamily, hshares⟩ := room_of_quotaCheck hsize hroom
    have hthere : WithinQuota familyQuotaBytes e.familyToken base.envelopes.rows ∧
        Charges s.envelopes base.envelopes := by
      rcases hbase with rfl | rfl
      · exact ⟨h, .refl _⟩
      · exact ⟨hpruned, hless⟩
    rw [hrows]
    refine ⟨hthere.1.append hfamily hshares, hthere.2.trans ⟨by omega, fun row hrow => ?_⟩⟩
    rw [hrows, mem_append, mem_singleton] at hrow
    rcases hrow with hold | rfl
    · exact .inl ⟨row, hold, rfl, rfl, rfl⟩
    · exact .inr (by show (base.envelopes.lastId : Int) < base.envelopes.lastId + 1; omega)

/-- One call keeps the account within its quota, when a rotation goes to a token under
which nothing is stored. -/
theorem within_next {a : Account} (h : a.Within familyQuotaBytes) (call : Call)
    (hfresh : ∀ newToken authority, call = .rotate newToken authority →
      ∀ row ∈ a.rows, row.familyToken ≠ newToken) :
    (call.next P familyQuotaBytes a).Within familyQuotaBytes ∧
      Charges a.store.envelopes (call.next P familyQuotaBytes a).store.envelopes := by
  cases call with
  | insert e depositor =>
    rw [Call.next]
    cases hcall : a.store.insertEnvelopeWithQuota { e with familyToken := a.token } familyQuotaBytes
        depositor with
    | error detail => exact ⟨h, .refl _⟩
    | ok answer => exact insert_keeps (inserted_of_ok hcall) h
  | ack familyToken ids =>
    rw [Call.next]
    unfold ackEnvelopes
    split
    · exact ⟨h, .refl _⟩
    · split
      · exact ⟨h, .refl _⟩
      · exact ⟨h.filter _, .of_subset rfl (filter_subset_self _)⟩
  | prune nowMs =>
    have hrows := rows_pruneExpired a.store nowMs
    exact ⟨by rw [Call.next, Account.Within, Account.rows, hrows]; exact h.filter _,
      .of_subset rfl (by rw [Call.next, hrows]; exact filter_subset_self _)⟩
  | rotate newToken authority =>
    rw [Call.next]
    split
    · rename_i hcall
      cases rotated_of_ok P hcall with
      | unchanged hresult => exact absurd rfl (hresult _ _)
      | moved hheld hne hfree hrows hlast hfamilies hfamily =>
        have hcolumns := moved_columns a.token newToken
        rw [(Families.getFamily_eq_some.mp hfamily).2]
        refine ⟨?_, .of_map hlast hrows hcolumns⟩
        rw [Account.Within, Account.rows, hrows]
        refine h.map (fun row hrow => ?_) (fun row => (hcolumns row).2.1)
          fun row => (hcolumns row).2.2
        -- nothing was stored under the new token, so what is there now came from the old one
        unfold moved
        split
        · simp [*]
        · simp [*, hfresh newToken authority rfl row hrow]
    · exact ⟨h, .refl _⟩

/-- A post under a message id that holds other content changes nothing. -/
theorem insert_conflict {held : EnvelopeRow} (hheld : held ∈ s.envelopes.rows)
    (htoken : held.familyToken = e.familyToken) (hmsg : held.msgId = e.msgId)
    (hother : held.sealed ≠ e.sealed) :
    committed s (s.insertEnvelopeWithQuota e familyQuotaBytes depositor) = s := by
  have hfind : s.envelopes.find e.familyToken e.msgId = some held := by
    rw [← htoken, ← hmsg]
    exact Table.lookup_of_mem s.envelopes.unique hheld
  cases hcall : s.insertEnvelopeWithQuota e familyQuotaBytes depositor with
  | error detail => rfl
  | ok answer =>
    obtain ⟨result, s'⟩ := answer
    cases inserted_of_ok hcall with
    | conflict => rfl
    | same hfind' hsame =>
      rw [hfind] at hfind'
      exact absurd (Option.some.inj hfind' ▸ hsame) hother
    | refused hnone => exact absurd (hfind.symm.trans hnone) nofun
    | fresh hnone => exact absurd (hfind.symm.trans hnone) nofun

/-- Over every history of posts under the family's current token, acknowledgements,
prunings and rotations to fresh tokens: the family is within its quota and its two shares at
every moment, a conflicting re-post changes nothing, and what a stored row is charged, and
to whom, never changes. -/
theorem quotas_hold (initial : Account) (calls : List Call)
    (hinitial : initial.Within familyQuotaBytes)
    (hfresh : ∀ n newToken authority, calls[n]? = some (.rotate newToken authority) →
      ∀ row ∈ (accountAt P familyQuotaBytes initial calls n).rows, row.familyToken ≠ newToken) :
    (∀ n, (accountAt P familyQuotaBytes initial calls n).Within familyQuotaBytes) ∧
    (∀ n e depositor, calls[n]? = some (.insert e depositor) →
      (∃ held ∈ (accountAt P familyQuotaBytes initial calls n).rows,
        held.familyToken = (accountAt P familyQuotaBytes initial calls n).token ∧
          held.msgId = e.msgId ∧ held.sealed ≠ e.sealed) →
      accountAt P familyQuotaBytes initial calls (n + 1) =
        accountAt P familyQuotaBytes initial calls n) ∧
    ∀ i j, i ≤ j → ∀ row ∈ (accountAt P familyQuotaBytes initial calls i).rows,
      ∀ row' ∈ (accountAt P familyQuotaBytes initial calls j).rows, row'.id = row.id →
        row'.depositor = row.depositor ∧ row'.sealed = row.sealed := by
  have hsucc : ∀ {n call}, calls[n]? = some call →
      accountAt P familyQuotaBytes initial calls (n + 1) =
        call.next P familyQuotaBytes (accountAt P familyQuotaBytes initial calls n) := by
    intro n call hcall
    obtain ⟨hn, rfl⟩ := List.getElem?_eq_some_iff.mp hcall
    exact stateAt_succ hn
  have hstep : ∀ n, (accountAt P familyQuotaBytes initial calls n).Within familyQuotaBytes →
      (accountAt P familyQuotaBytes initial calls (n + 1)).Within familyQuotaBytes ∧
        Charges (accountAt P familyQuotaBytes initial calls n).store.envelopes
          (accountAt P familyQuotaBytes initial calls (n + 1)).store.envelopes := by
    intro n hwithin
    refine stateAt_step (R := fun account account' : Account => account'.Within _ ∧
      Charges account.store.envelopes account'.store.envelopes) ⟨hwithin, .refl _⟩ ?_
    intro call hcall
    exact within_next hwithin call fun newToken authority heq =>
      hfresh n newToken authority (heq ▸ hcall)
  have hwithin : ∀ n, (accountAt P familyQuotaBytes initial calls n).Within familyQuotaBytes := by
    intro n
    induction n with
    | zero => exact hinitial
    | succ n ih => exact (hstep n ih).1
  refine ⟨hwithin, fun n e depositor hcall ⟨held, hheld, htoken, hmsg, hother⟩ => ?_,
    fun i j hij row hrow row' hrow' hid => ?_⟩
  · rw [hsucc hcall, Call.next,
      insert_conflict (e := { e with familyToken := _ }) hheld htoken hmsg hother]
  · have hcharges := seq_related
      (x := fun n => (accountAt P familyQuotaBytes initial calls n).store.envelopes)
      (R := Charges) (fun n => .refl _) (fun h h' => h.trans h') (fun n => (hstep n (hwithin n)).2) hij
    exact hcharges.same hrow hrow' hid

end Histories

/-! ### A family and a friend -/

section Example

def kitchenToken : Bytes := ascii "cmfam1-before-the-holidays"
def cabinToken : Bytes := ascii "cmfam1-on-board-of-the-ship"

/-- A family with an empty mailbox. -/
def household : Account where
  token := kitchenToken
  store := committed {} (({} : RelayStore).upsertFamily Sample.primitives kitchenToken none (some 40)
    none none 0 (ascii "cmfid1-one"))

def parcel (msgId sealed : Bytes) : NewEnvelope where
  familyToken := []
  msgId := msgId
  hopTtl := 3
  recipientHint := [1, 2, 3, 4, 5, 6, 7, 8]
  sealed := sealed
  expiryMs := 1000
  createdAtMs := 10

/-- A post of the family's own, one of a friend, another content under the first message
id, a rotation, and the friend once more with the card of before and with a new one. -/
def holidays : List Call :=
  [.insert (parcel [1] [5, 5, 5, 5]) none,
    .insert (parcel [2] (List.replicate 8 6)) (some (ascii "cmdep1-card")),
    .insert (parcel [1] [7]) none,
    .rotate cabinToken
      { publicKey := Sample.publicKey (Sample.secretKey 7)
        signature := Sample.primitives.sign (Sample.secretKey 7)
          (rotationSignedBytes kitchenToken cabinToken) },
    .insert (parcel [3] (List.replicate 8 6)) (some (ascii "cmdep1-card")),
    .insert (parcel [3] (List.replicate 8 6)) (some (ascii "cmdep1-new-card"))]

theorem quotas_hold_over_the_holidays :
    (∀ n, (accountAt Sample.primitives 40 household holidays n).Within 40) ∧
      (accountAt Sample.primitives 40 household holidays 6).token = cabinToken ∧
      (accountAt Sample.primitives 40 household holidays 6).rows.map (·.id) = [1, 2, 3] := by
  have hinitial : household.Within 40 := withinQuota_of_empty (by decide +kernel)
  have hfresh : ∀ n newToken authority, holidays[n]? = some (.rotate newToken authority) →
      ∀ row ∈ (accountAt Sample.primitives 40 household holidays n).rows,
        row.familyToken ≠ newToken := by
    intro n newToken authority hcall
    rcases n with _ | _ | _ | _ | _ | _ | n <;> cases hcall
    decide +kernel
  exact ⟨(quotas_hold household holidays hinitial hfresh).1, by decide +kernel, by decide +kernel⟩

end Example
end CruiseMesh.Relayd
