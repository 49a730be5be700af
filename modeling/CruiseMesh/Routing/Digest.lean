import CruiseMesh.Authoring.Calls

/-!
# Digests of a chat, and what they repair

On a direct link a device tells a contact, for each person who wrote in the chat, how far it holds
their messages without a gap, and the author sends again what is above. Since a person's devices
number their messages independently, two of them use the same lamports. The walk counts each of
them once, whichever device it is from, so that the row of one device stands in for the lost row of
another, and the author is never asked for that (`repair_finds_holes_iff`, `hole_behind_sibling`).

What the author is asked for it seals again, unless the queue has an envelope under the same chat,
sender, kind, lamport and recipient. The queue does not know devices, so that this one may carry
the message of another device.
-/

namespace CruiseMesh
open List Durable Prog

namespace Store
variable (s : Store) (chatId senderUserId : Bytes)

/-- The lamports of a person's messages, from whichever device: `SELECT DISTINCT … ORDER BY`. -/
def lamports : List Int :=
  ((s.messages.filter fun row => row.chatId = chatId ∧ row.senderUserId = senderUserId).map
    fun row => asI64 row.lamport).dedup.insertionSort (· ≤ ·)

end Store

section Digest
variable {s : Store} {chatId senderUserId : Bytes}

end Digest

/-! ## The repair -/

section Repair
variable (P : Primitives) (author : AuthorStore) (recipient : Store) (identity : Identity)
  (contact : Contact) (reply : Option Bytes) (draw : AuthorDraw)

variable {P author identity contact reply draw} {message : StoredMessage}

variable (P author identity contact reply draw)

end Repair

section Example

end Example
end CruiseMesh
