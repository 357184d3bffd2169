import StorageConfig.Http.Message

/-! An API server that answers from a script and keeps what it was sent. -/

namespace StorageConfig

/-- The replies still to come and the requests that came. -/
structure Script where
  /-- The replies to the next requests, in order. -/
  replies : List Reply
  /-- The reply to every request after those. -/
  otherwise : Reply
  /-- The requests so far, in order. -/
  sent : List Request

namespace Script

/-- Answer a request with the next reply. -/
def send (request : Request) (script : Script) : Reply × Script :=
  let sent := script.sent ++ [request]
  match script.replies with
  | [] => (script.otherwise, { script with sent })
  | reply :: replies => (reply, { script with replies, sent })

/-- The script as a way to send requests. -/
def transport : Transport Script := ⟨send⟩

end Script

end StorageConfig
