import CruiseMesh.Inbound.Effects

/-!
# Storing a body

`persist_inbound` without the ids and the diagnostics: what the table of messages says is a list
of messages, each in a slot of its own (a chat, a sender, a device stream and a lamport), and a
body is put into its slot if that is free. The call fails when the slot holds another message
(`run_persistInbound`).
-/

namespace CruiseMesh
open Wire Durable Prog List

/-! ## What the table says -/

/-- What a row says. -/
def MessageRow.message (row : MessageRow) : StoredMessage where
  chatId := row.chatId
  senderUserId := row.senderUserId
  lamport := row.lamport
  timestamp := row.timestamp
  kind := row.kind
  payload := row.payload
  senderDeviceId := row.senderDeviceId

/-- What the table of messages says. -/
def Store.said (s : Store) : List StoredMessage := s.messages.map MessageRow.message

/-- The position of a message in the stream of its device. -/
def StoredMessage.slot (message : StoredMessage) : Bytes × Bytes × Bytes × Nat :=
  (message.chatId, message.senderUserId, message.senderDeviceId, message.lamport)

/-- The slot of a message is free, or holds the message. -/
def Store.Fits (s : Store) (message : StoredMessage) : Prop :=
  ∀ held ∈ Table.lookup StoredMessage.slot message.slot s.said, held = message

instance (s : Store) (message : StoredMessage) : Decidable (s.Fits message) :=
  inferInstanceAs (Decidable (∀ held ∈ _, _))

theorem lookup_said (s : Store) (slot : Bytes × Bytes × Bytes × Nat) :
    Table.lookup StoredMessage.slot slot s.said =
      (Table.lookup MessageRow.slot slot s.messages).map MessageRow.message := by
  unfold Store.said Table.lookup
  rw [find?_map]
  rfl

/-- The row of a slot says what the message of that slot says exactly when the three columns that
are compared agree. -/
theorem message_eq_iff {row : MessageRow} {message : StoredMessage} (h : row.slot = message.slot) :
    row.message = message ↔ row.timestamp = message.timestamp ∧ row.kind = message.kind ∧
      row.payload = message.payload := by
  obtain ⟨hchat, hsender, hdevice, hlamport⟩ : row.chatId = message.chatId ∧
      row.senderUserId = message.senderUserId ∧ row.senderDeviceId = message.senderDeviceId ∧
      row.lamport = message.lamport := by
    simpa [MessageRow.slot, StoredMessage.slot] using h
  cases message
  simp_all [MessageRow.message]

/-! ## The insert -/

/-- The transaction of the insert: a message goes into its slot if that is free, and it is set
aside if the slot holds another one. -/
theorem insertIncomingTx_eq_ok (P : Primitives) (message : StoredMessage) (msgId : Bytes)
    (reply : Option Bytes) (arrival : MessageArrival) (clock : ClockReading) (s : Store) :
    ∃ outcome s', insertIncomingTx P message message.senderDeviceId (some msgId) reply
        (some arrival) clock s = .ok (outcome, s') ∧
      (outcome = .quarantinedConflict ↔ ¬ s.Fits message) ∧
      s'.said = Table.insertOrIgnore StoredMessage.slot message s.said := by
  unfold insertIncomingTx
  rw [Tx.get_bind]
  have hlookup := lookup_said s message.slot
  cases hheld : Table.lookup MessageRow.slot (message.chatId, message.senderUserId,
      message.senderDeviceId, message.lamport) s.messages with
  | none =>
    have hfree : Table.lookup StoredMessage.slot message.slot s.said = none := by
      rw [hlookup]
      exact congrArg (Option.map _) hheld
    refine ⟨.inserted, _, rfl, ⟨nofun, fun hnot => absurd ?_ hnot⟩, ?_⟩
    · rintro held hmem
      rw [hfree] at hmem
      cases hmem
    · rw [Table.insertOrIgnore_of_free hfree]
      exact map_append
  | some existing =>
    have htaken : Table.lookup StoredMessage.slot message.slot s.said = some existing.message := by
      rw [hlookup]
      exact congrArg (Option.map _) hheld
    have hslot : existing.slot = message.slot := Table.key_of_lookup hheld
    have hfits : s.Fits message ↔ existing.message = message := by
      unfold Store.Fits
      rw [htaken]
      exact ⟨fun h => h _ rfl, fun h held hmem => Option.some.inj hmem ▸ h⟩
    rw [Table.insertOrIgnore_of_taken htaken]
    dsimp only
    by_cases hsame : existing.timestamp = message.timestamp ∧ existing.kind = message.kind ∧
        existing.payload = message.payload
    · rw [if_pos hsame, if_pos (.inl rfl)]
      refine ⟨.duplicate, _, rfl, ⟨nofun, fun hnot => ?_⟩, ?_⟩
      · exact absurd (hfits.mpr ((message_eq_iff hslot).mpr hsame)) hnot
      · -- the ids that the row lacked are no part of what it says
        show ((s.messages.map _).map MessageRow.message) = _
        rw [map_map]
        refine map_congr_left fun row _ => ?_
        dsimp only [Function.comp]
        split <;> rfl
    · rw [if_neg hsame]
      refine ⟨.quarantinedConflict, _, rfl, ⟨fun _ hfit => ?_, fun _ => rfl⟩, ?_⟩
      · exact hsame ((message_eq_iff hslot).mp (hfits.mp hfit))
      · dsimp only
        split <;> rfl

/-! ## Decoded bodies -/

/-- A body whose fields can be stored. -/
structure ExtendedMessageBody.Storable (body : ExtendedMessageBody) : Prop where
  lamport : body.lamport ≤ 2 ^ 63 - 1
  reply : ∀ reply ∈ body.replyToMsgId, reply.length = msgIdLen

/-- The loop over the extensions leaves a reply that was checked. -/
theorem readExtensions_reply {truncated : Nat → Nat → CoreError} : ∀ {fuel : Nat}
    {body body' : ExtendedMessageBody} {c c' : Cursor},
    readExtensions truncated fuel body c = .ok (body', c') →
    (∀ reply ∈ body.replyToMsgId, reply.length = msgIdLen) →
      ∀ reply ∈ body'.replyToMsgId, reply.length = msgIdLen
  | 0, _, _, _, _, h, hbody => by
    obtain ⟨rfl, _⟩ := ok_pair_inj h
    exact hbody
  | fuel + 1, body, _, _, _, h, hbody => by
    obtain ⟨ended, _, _, h⟩ := reader_bind_eq_ok.mp h
    split at h
    · obtain ⟨rfl, _⟩ := ok_pair_inj h
      exact hbody
    · obtain ⟨extensionType, _, _, h⟩ := reader_bind_eq_ok.mp h
      obtain ⟨value, _, _, h⟩ := reader_bind_eq_ok.mp h
      obtain ⟨next, _, hnext, h⟩ := reader_bind_eq_ok.mp h
      have hext : withExtension body extensionType value = .ok next := (Tx.lift_eq_ok.mp hnext).1
      refine readExtensions_reply h ?_
      unfold withExtension at hext
      split at hext
      · obtain ⟨slot, hslot, hext⟩ := bind_eq_ok.mp hext
        cases hext
        obtain ⟨_, hlen, hslot⟩ := bind_eq_ok.mp hslot
        obtain ⟨_, _, hslot⟩ := bind_eq_ok.mp hslot
        cases hslot
        intro reply hreply
        cases hreply
        exact not_not.mp (refuseWhen_eq_ok.mp hlen)
      split at hext
      · obtain ⟨slot, _, hext⟩ := bind_eq_ok.mp hext
        cases hext
        exact hbody
      split at hext
      · obtain ⟨slot, _, hext⟩ := bind_eq_ok.mp hext
        cases hext
        exact hbody
      · cases hext
        exact hbody

/-- What is decoded can be stored. -/
theorem storable_of_decoded {bytes : Bytes} {body : ExtendedMessageBody}
    (h : decodeExtendedMessageBody bytes = .ok body) : body.Storable := by
  obtain ⟨found, hread, h⟩ := bind_eq_ok.mp h
  obtain ⟨_, hvalid, h⟩ := bind_eq_ok.mp h
  cases h
  refine ⟨?_, ?_⟩
  · obtain ⟨_, hlamport, _⟩ := bind_eq_ok.mp hvalid
    exact Nat.not_lt.mp (refuseWhen_eq_ok.mp hlamport)
  · obtain ⟨_, hread, _⟩ := readAll_eq_ok hread
    obtain ⟨_, _, _, hread⟩ := reader_bind_eq_ok.mp hread
    obtain ⟨_, _, _, hread⟩ := reader_bind_eq_ok.mp hread
    obtain ⟨_, _, _, hread⟩ := reader_bind_eq_ok.mp hread
    obtain ⟨_, _, _, hread⟩ := reader_bind_eq_ok.mp hread
    obtain ⟨_, _, _, hread⟩ := reader_bind_eq_ok.mp hread
    exact readExtensions_reply hread nofun

/-! ## The call -/

/-- The stream that a body is stored on. -/
def Store.streamFor (s : Store) (chatId senderUserId : Bytes) (senderDeviceId : Option Bytes) :
    Bytes :=
  if coreDeviceStreamId senderDeviceId = legacyDeviceId then legacyDeviceId
  else boundedStream (s.messageStreamDeviceIds chatId senderUserId)
    (coreDeviceStreamId senderDeviceId)

/-- The message that a body is stored as. -/
def Inbound.storedAs (m : Inbound) (body : ExtendedMessageBody) (s : Store) : StoredMessage :=
  body.stored m.senderUserId (s.streamFor body.chatId m.senderUserId body.senderDeviceId)

/-- What the callers promise: the envelope's id is one, and the transport is one of the five. -/
structure Inbound.Promised (m : Inbound) : Prop where
  msgId : m.commit.msgId.length = msgIdLen
  transport : m.arrival.transport ≤ 4

theorem length_coreDeviceStreamId (deviceId : Option Bytes) :
    (coreDeviceStreamId deviceId).length = deviceIdLen := by
  unfold coreDeviceStreamId
  split
  · split
    · assumption
    · rfl
  · rfl

theorem coreDeviceStreamId_streamFor (s : Store) (chatId senderUserId : Bytes)
    (deviceId : Option Bytes) :
    coreDeviceStreamId (some (s.streamFor chatId senderUserId deviceId)) =
      s.streamFor chatId senderUserId deviceId := by
  have hlen : (s.streamFor chatId senderUserId deviceId).length = deviceIdLen := by
    unfold Store.streamFor boundedStream
    split
    · rfl
    split
    · exact length_coreDeviceStreamId _
    split
    · rfl
    · exact length_coreDeviceStreamId _
  exact if_pos hlen

variable {P : Primitives} {w : Surroundings} {m : Inbound} {body : ExtendedMessageBody}
  {s : InboundStore}

/-- The insert of a body, when the database is sound. -/
theorem returns_insertMessage (P : Primitives) (hinsert : w.faults .insertMessage = none)
    (hm : m.Promised) (hbody : body.Storable) (s : InboundStore) :
    ∃ outcome s', (w.faults.call .insertMessage (liftStore (insertIncomingMessageFromDevice P
        (m.storedAs body s.toStore)
        (some (s.streamFor body.chatId m.senderUserId body.senderDeviceId)) m.commit.msgId
        body.replyToMsgId (some m.arrival) w.clock))).Returns s outcome { s with toStore := s' } ∧
      (outcome = .quarantinedConflict ↔ ¬ s.Fits (m.storedAs body s.toStore)) ∧
      s'.said = Table.insertOrIgnore StoredMessage.slot (m.storedAs body s.toStore) s.said := by
  have hid : validateMsgId "msg_id" m.commit.msgId = .ok () :=
    refuseWhen_neg (not_not.mpr hm.msgId)
  have hreply : (body.replyToMsgId.forM (validateMsgId "reply_to_msg_id") :
      Except CoreError Unit) = .ok () := by
    cases hreply : body.replyToMsgId with
    | none => rfl
    | some reply => exact refuseWhen_neg (not_not.mpr (hbody.reply reply hreply))
  have harrival : ((some m.arrival).forM validateMessageArrival : Except CoreError Unit) =
      .ok () := refuseWhen_neg (UInt8.not_lt.mpr hm.transport)
  have hmessage : validateStoredMessage (m.storedAs body s.toStore) = .ok () :=
    refuseWhen_neg (Nat.not_lt.mpr hbody.lamport)
  obtain ⟨outcome, s', htx, hrest⟩ := insertIncomingTx_eq_ok P (m.storedAs body s.toStore)
    m.commit.msgId body.replyToMsgId m.arrival w.clock s.toStore
  refine ⟨outcome, s', Faults.returns_call.mpr ⟨hinsert, returns_liftStore ?_⟩, hrest⟩
  unfold insertIncomingMessageFromDevice insertIncoming
  rw [hid, lift_ok_bind, hreply, lift_ok_bind, harrival, lift_ok_bind,
    coreDeviceStreamId_streamFor, hmessage, lift_ok_bind, lift_ok_bind]
  exact returns_transaction.mpr htx

/-- Storing a body, when the database is sound: the message goes into its slot if that is free,
and the call fails if the slot holds another one. -/
theorem run_persistInbound (P : Primitives) (hstreams : w.faults .deviceStreams = none)
    (hinsert : w.faults .insertMessage = none) (hm : m.Promised) (hbody : body.Storable) :
    (persistInbound P w m body).result s = (if s.Fits (m.storedAs body s.toStore) then .ok ()
      else .error (.store "message stream conflict was quarantined")) ∧
    ((persistInbound P w m body).final s).said =
      Table.insertOrIgnore StoredMessage.slot (m.storedAs body s.toStore) s.said := by
  obtain ⟨outcome, s', hcall, houtcome, hsaid⟩ := returns_insertMessage P hinsert hm hbody s
  have hstream : (boundedDeviceStream w.faults body.chatId m.senderUserId body.senderDeviceId).Returns
      s (s.streamFor body.chatId m.senderUserId body.senderDeviceId) s := by
    unfold boundedDeviceStream Store.streamFor
    dsimp only
    split
    · rename_i hlegacy
      rw [hlegacy]
      exact ⟨rfl, rfl⟩
    · exact returns_bind.mpr ⟨_, s,
        Faults.returns_call.mpr ⟨hstreams, returns_inspect.mpr ⟨rfl, rfl⟩⟩, ⟨rfl, rfl⟩⟩
  unfold persistInbound
  obtain ⟨hresult, hfinal⟩ := run_bind_of_returns hcall
    (f := fun outcome => liftM (persistOutcome outcome))
  refine ⟨(run_bind_of_returns hstream).1.trans (hresult.trans ?_), ?_⟩
  · show persistOutcome outcome = _
    cases outcome with
    | quarantinedConflict => rw [if_neg (houtcome.mp rfl), persistOutcome]
    | inserted => rw [if_pos (not_not.mp fun h => nomatch houtcome.mpr h), persistOutcome]
    | duplicate => rw [if_pos (not_not.mp fun h => nomatch houtcome.mpr h), persistOutcome]
  · rw [(run_bind_of_returns hstream).2]
    exact (congrArg (fun s : InboundStore => s.said) hfinal).trans hsaid

end CruiseMesh
