import StorageConfig.Collaborators
import StorageConfig.Http.Message
import StorageConfig.Json.Reader

/-! Sending a request to an API server and reading the object that comes back. -/

namespace StorageConfig

namespace Api

/-- The refusal that a reply carries, or one made up from its status and text. -/
def refusalOf (status : Nat) (text : String) : Refusal :=
  match (Json.parse? text).map Refusal.ofJson with
  | some (.ok refusal) => refusal
  | _ =>
    { status := Status.render status
      message := quoted text
      reason := "Failed to parse error data"
      code := status }

/-- Read the object of a reply. -/
def readReply {α : Type} (decode : Decoder α) : Reply → Except ApiFailure α
  | .lost cause => .error (.lost cause)
  | .answered status text =>
    if Status.isRefusal status then .error (.refused (refusalOf status text))
    else
      match (Json.parse? text).map decode with
      | some (.ok value) => .ok value
      | _ => .error .unreadable

/-- Send a request to a target and read the object that comes back; one without a proper target is not sent. -/
def request {σ α : Type} (transport : Transport σ) (decode : Decoder α) (method : Method) (target : String)
    (contentType : Option String) (body : Option Json) : Action σ (Except ApiFailure α) :=
  match Target.parse target with
  | .error fault => pure (.error (.unwritable fault))
  | .ok target => ⟨fun state =>
    let (reply, after) := transport.send ⟨method, target, contentType, body⟩ state
    (.ok (readReply decode reply), after)⟩

end Api

end StorageConfig
