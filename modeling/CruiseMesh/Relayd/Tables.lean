import CruiseMesh.Base
import CruiseMesh.Lib.Table

/-!
# The tables of the relay

`relayd` is a mailbox: sealed envelopes wait in an SQLite table until a device of their
family fetches and acknowledges them. A family is a row with a member token, the deposit
token derived from it and a stable id; every other table is scoped by the member token.

The constraints of the schema are fields of the tables here: ids of envelopes ascend in
the order of their insertion and are never given twice (`AUTOINCREMENT`), a family holds
one envelope of a message id, and no two families have one token. A statement that would
break a constraint fails, as it does in SQLite.
-/

namespace CruiseMesh.Relayd
open List Table

/-! ## Envelopes -/

structure EnvelopeRow where
  id : Int
  familyToken : Bytes
  msgId : Bytes
  hopTtl : UInt8
  recipientHint : Bytes
  sealed : Bytes
  expiryMs : Int
  createdAtMs : Int
  depositor : Bytes
deriving DecidableEq

/-- `UNIQUE(family_token, msg_id)`. -/
def EnvelopeRow.key (row : EnvelopeRow) : Bytes × Bytes := (row.familyToken, row.msgId)

/-- The table `envelopes`, with the last id it has given. -/
structure Envelopes where
  rows : List EnvelopeRow
  lastId : Nat
  ascending : rows.Pairwise (·.id < ·.id)
  issued : ∀ row ∈ rows, 0 < row.id ∧ row.id ≤ lastId
  unique : (rows.map EnvelopeRow.key).Nodup

namespace Envelopes

def empty : Envelopes where
  rows := []
  lastId := 0
  ascending := List.Pairwise.nil
  issued := by simp
  unique := nodup_nil

variable (t : Envelopes)

/-- `SELECT … WHERE family_token = ?1 AND msg_id = ?2`. -/
def find (familyToken msgId : Bytes) : Option EnvelopeRow :=
  Table.lookup EnvelopeRow.key (familyToken, msgId) t.rows

/-- `DELETE FROM envelopes WHERE …`. -/
def deleteWhere (gone : EnvelopeRow → Bool) : Envelopes where
  rows := t.rows.filter fun row => !gone row
  lastId := t.lastId
  ascending := t.ascending.filter _
  issued row hrow := t.issued row (mem_filter.mp hrow).1
  unique := t.unique.sublist (filter_sublist.map _)

/-- `UPDATE envelopes SET …` of columns that are neither the id nor in the key. -/
def update (f : EnvelopeRow → EnvelopeRow) (hid : ∀ row, (f row).id = row.id)
    (hkey : ∀ row, (f row).key = row.key) : Envelopes where
  rows := t.rows.map f
  lastId := t.lastId
  ascending := pairwise_map.mpr (t.ascending.imp fun h => by rw [hid, hid]; exact h)
  issued row hrow := by
    obtain ⟨old, hold, rfl⟩ := mem_map.mp hrow
    rw [hid]
    exact t.issued old hold
  unique := by
    rw [map_map, show EnvelopeRow.key ∘ f = EnvelopeRow.key from funext hkey]
    exact t.unique

/-- `INSERT INTO envelopes … RETURNING id`. -/
def insert (row : EnvelopeRow) : Except String (Int × Envelopes) :=
  let new := { row with id := t.lastId + 1 }
  if hunique : ((t.rows ++ [new]).map EnvelopeRow.key).Nodup then
    .ok (new.id,
      { rows := t.rows ++ [new]
        lastId := t.lastId + 1
        ascending := by
          refine pairwise_append.mpr ⟨t.ascending, pairwise_singleton _ _, ?_⟩
          intro old hold last hlast
          rw [mem_singleton.mp hlast]
          exact Int.lt_add_one_iff.mpr (t.issued old hold).2
        issued := by
          intro old hold
          rcases mem_append.mp hold with hold | hold
          · obtain ⟨hpos, hle⟩ := t.issued old hold
            exact ⟨hpos, by push_cast; omega⟩
          · rw [mem_singleton.mp hold]
            exact ⟨by show (0 : Int) < t.lastId + 1; omega, by show (t.lastId : Int) + 1 ≤ _; omega⟩
        unique := hunique })
  else .error "UNIQUE constraint failed: envelopes.family_token, envelopes.msg_id"

/-- A row under its family's new token. -/
def moved (current new : Bytes) (row : EnvelopeRow) : EnvelopeRow :=
  if row.familyToken = current then { row with familyToken := new } else row

/-- `UPDATE envelopes SET family_token = ?2 WHERE family_token = ?1`. -/
def rekey (current new : Bytes) : Except String Envelopes :=
  if hunique : ((t.rows.map (moved current new)).map EnvelopeRow.key).Nodup then
    .ok
      { rows := t.rows.map (moved current new)
        lastId := t.lastId
        ascending := pairwise_map.mpr (t.ascending.imp fun h => by
          unfold moved; split <;> split <;> exact h)
        issued := by
          intro row hrow
          obtain ⟨old, hold, rfl⟩ := mem_map.mp hrow
          unfold moved
          split <;> exact t.issued old hold
        unique := hunique }
  else .error "UNIQUE constraint failed: envelopes.family_token, envelopes.msg_id"

section Lemmas
variable {t t' : Envelopes}

@[simp] theorem rows_deleteWhere (gone : EnvelopeRow → Bool) :
    (t.deleteWhere gone).rows = t.rows.filter fun row => !gone row := rfl

theorem key_of_find {familyToken msgId : Bytes} {row : EnvelopeRow}
    (h : t.find familyToken msgId = some row) :
    row ∈ t.rows ∧ row.familyToken = familyToken ∧ row.msgId = msgId := by
  have hkey := key_of_lookup h
  exact ⟨mem_of_lookup h, congrArg Prod.fst hkey, congrArg Prod.snd hkey⟩

theorem insert_eq_ok {row : EnvelopeRow} {id : Int} (h : t.insert row = .ok (id, t')) :
    id = t.lastId + 1 ∧ t'.rows = t.rows ++ [{ row with id := t.lastId + 1 }] ∧
      t'.lastId = t.lastId + 1 := by
  unfold insert at h
  dsimp only at h
  split at h
  · cases h
    exact ⟨rfl, rfl, rfl⟩
  · cases h

theorem rekey_eq_ok {current new : Bytes} (h : t.rekey current new = .ok t') :
    t'.rows = t.rows.map (moved current new) ∧ t'.lastId = t.lastId := by
  unfold rekey at h
  split at h
  · cases h
    exact ⟨rfl, rfl⟩
  · cases h

/-- A row is determined by its id. -/
theorem eq_of_id_eq {a b : EnvelopeRow} (ha : a ∈ t.rows) (hb : b ∈ t.rows) (h : a.id = b.id) :
    a = b := by
  have hnodup : (t.rows.map EnvelopeRow.id).Nodup :=
    pairwise_map.mpr (t.ascending.imp fun hlt => by omega)
  exact eq_of_key_eq hnodup ha hb h

end Lemmas
end Envelopes

/-! ## Families -/

inductive FamilyStatus where
  | active
  | suspended
deriving DecidableEq

structure FamilyRow where
  token : Bytes
  familyId : Bytes
  status : FamilyStatus
  plan : Option Bytes
  quotaBytes : Option Nat
  createdMs : Int
  expiresMs : Option Int
  note : Option Bytes
  depositToken : Bytes
  rotationPk : Option Bytes
deriving DecidableEq

/-- The table `families`, whose primary key is the member token. -/
structure Families where
  rows : List FamilyRow
  unique : (rows.map FamilyRow.token).Nodup

namespace Families

def empty : Families where
  rows := []
  unique := nodup_nil

variable (t : Families) (token : Bytes)

/-- `get_family_on`. -/
def getFamily : Option FamilyRow :=
  Table.lookup FamilyRow.token token t.rows

def upsert (row : FamilyRow) : Families where
  rows := Table.upsert FamilyRow.token row t.rows
  unique := Table.nodup_upsert t.unique

/-- `UPDATE families SET … WHERE token = ?1` of columns other than the token. -/
def update (f : FamilyRow → FamilyRow) (hf : ∀ row, (f row).token = row.token) : Families where
  rows := Table.update FamilyRow.token token f t.rows
  unique := by rw [map_key_update hf]; exact t.unique

/-- `DELETE FROM families WHERE token = ?1`. -/
def delete : Families where
  rows := t.rows.filter fun row => row.token ≠ token
  unique := t.unique.sublist (filter_sublist.map _)

/-- A family under its new tokens. -/
def moved (current new newDeposit : Bytes) (row : FamilyRow) : FamilyRow :=
  if row.token = current then { row with token := new, depositToken := newDeposit } else row

/-- `UPDATE families SET token = ?2, deposit_token = ?3 WHERE token = ?1`. -/
def rekey (current new newDeposit : Bytes) : Except String Families :=
  if hunique : ((t.rows.map (moved current new newDeposit)).map FamilyRow.token).Nodup then
    .ok { rows := t.rows.map (moved current new newDeposit), unique := hunique }
  else .error "UNIQUE constraint failed: families.token"

section Lemmas
variable {t t' : Families}

@[simp] theorem rows_upsert (row : FamilyRow) :
    (t.upsert row).rows = Table.upsert FamilyRow.token row t.rows := rfl

theorem rekey_eq_ok {current new newDeposit : Bytes} (h : t.rekey current new newDeposit = .ok t') :
    t'.rows = t.rows.map (moved current new newDeposit) := by
  unfold rekey at h
  split at h
  · cases h
    rfl
  · cases h

theorem getFamily_eq_some {token : Bytes} {row : FamilyRow} :
    t.getFamily token = some row ↔ row ∈ t.rows ∧ row.token = token := by
  constructor
  · intro h
    exact ⟨mem_of_lookup h, key_of_lookup h⟩
  · rintro ⟨hmem, rfl⟩
    exact lookup_of_mem t.unique hmem

end Lemmas
end Families

/-! ## The other tables and the database -/

structure PresenceRow where
  familyToken : Bytes
  hint : Bytes
  lastSeenMs : Int

structure PushRegistration where
  familyToken : Bytes
  deviceToken : Bytes
  updatedMs : Int

structure PushRegistrationHint where
  familyToken : Bytes
  deviceToken : Bytes
  hint : Bytes

/-- `RelayStore`. -/
structure RelayStore where
  envelopes : Envelopes := .empty
  families : Families := .empty
  presence : List PresenceRow := []
  pushRegistrations : List PushRegistration := []
  pushRegistrationHints : List PushRegistrationHint := []

/-- `UPDATE presence SET family_token = ?2 WHERE family_token = ?1`. -/
def rekeyPresence (rows : List PresenceRow) (current new : Bytes) :
    Except String (List PresenceRow) :=
  let moved := rows.map fun row =>
    if row.familyToken = current then { row with familyToken := new } else row
  if (moved.map fun row => (row.familyToken, row.hint)).Nodup then .ok moved
  else .error "UNIQUE constraint failed: presence.family_token, presence.hint"

/-- The database after a call that commits when it succeeds and is rolled back when it
fails. -/
def committed {ε α : Type} (s : RelayStore) (call : Except ε (α × RelayStore)) : RelayStore :=
  match call with
  | .ok (_, s') => s'
  | .error _ => s

end CruiseMesh.Relayd
