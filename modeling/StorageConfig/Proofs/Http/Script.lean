import StorageConfig.Http.Script

/-! What is sent to a scripted server and what comes back, as exchanges in order. -/

namespace StorageConfig

/-- A request and what came back for it. -/
structure Exchange where
  request : Request
  reply : Reply

namespace Script

/-- The reply to the request of a number, the next one being number zero. -/
def replyTo (script : Script) (number : Nat) : Reply := script.replies[number]?.getD script.otherwise

/-- The script once it has answered one more request. -/
def next (script : Script) (request : Request) : Script :=
  { script with replies := script.replies.drop 1, sent := script.sent ++ [request] }

/-- A request is answered with the next reply. -/
theorem send_eq (script : Script) (request : Request) :
    script.send request = (script.replyTo 0, script.next request) := by
  -- Once the replies have run out there is nothing left to drop.
  obtain ⟨replies, otherwise, sent⟩ := script
  cases replies <;> rfl

/-- From one script to another, requests were sent and answered in turn. -/
structure Exchanged (before : Script) (exchanges : List Exchange) (after : Script) : Prop where
  sent : after.sent = before.sent ++ exchanges.map Exchange.request
  /-- Every request got the reply whose turn it was. -/
  answered : ∀ number exchange, exchanges[number]? = some exchange → exchange.reply = before.replyTo number
  replies : after.replies = before.replies.drop exchanges.length
  otherwise : after.otherwise = before.otherwise

/-- Without a request the script is as it was. -/
theorem Exchanged.none (script : Script) : Exchanged script [] script := by
  refine ⟨by simp, ?_, by simp, rfl⟩
  intro number exchange found
  simp at found

/-- One request gets the next reply. -/
theorem Exchanged.one (script : Script) (request : Request) :
    Exchanged script [⟨request, script.replyTo 0⟩] (script.next request) := by
  refine ⟨rfl, ?_, rfl, rfl⟩
  intro number exchange found
  -- There is no exchange but the first.
  cases number with
  | zero =>
    obtain rfl := Option.some.inj found
    rfl
  | succ number => simp at found

/-- The replies after some exchanges are those whose turn comes after them. -/
theorem Exchanged.replyTo {before after : Script} {exchanges : List Exchange}
    (past : Exchanged before exchanges after) (number : Nat) :
    after.replyTo number = before.replyTo (exchanges.length + number) := by
  rw [Script.replyTo, Script.replyTo, past.replies, past.otherwise, List.getElem?_drop]

/-- Exchanges one after the other are exchanges in turn. -/
theorem Exchanged.append {before middle after : Script} {early late : List Exchange}
    (first : Exchanged before early middle) (second : Exchanged middle late after) :
    Exchanged before (early ++ late) after := by
  constructor
  case sent => rw [second.sent, first.sent, List.map_append, List.append_assoc]
  case answered =>
    intro number exchange found
    -- The exchange is an early one, or a late one with so many replies used up before it.
    rcases Nat.lt_or_ge number early.length with within | beyond
    · rw [List.getElem?_append_left within] at found
      exact first.answered number exchange found
    · rw [List.getElem?_append_right beyond] at found
      have reply := second.answered _ exchange found
      rw [first.replyTo] at reply
      rw [reply]
      congr 1
      omega
  case replies => rw [second.replies, first.replies, List.drop_drop, List.length_append]
  case otherwise => rw [second.otherwise, first.otherwise]

end Script

end StorageConfig
