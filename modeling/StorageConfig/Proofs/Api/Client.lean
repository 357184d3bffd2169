import StorageConfig.Api.Client
import StorageConfig.Proofs.Action
import StorageConfig.Proofs.Http.Script

/-! What a client makes of a reply: an object, a refusal, or nothing it can use. -/

namespace StorageConfig

namespace Api

/-- A reply gives an object: its status refuses nothing, and its text is a document that is read as the object. -/
def Gives {α : Type} (decode : Decoder α) (reply : Reply) (value : α) : Prop :=
  ∃ status text json, reply = .answered status text ∧ ¬ (400 ≤ status ∧ status < 600) ∧
    Json.parse? text = some json ∧ decode json = .ok value

/-- A reply refuses the request, with a report in its text or one made up from it. -/
def Refuses (reply : Reply) (refusal : Refusal) : Prop :=
  ∃ status text, reply = .answered status text ∧ (400 ≤ status ∧ status < 600) ∧ refusal = refusalOf status text

/-- Whether a status refuses a request depends on its hundreds. -/
theorem isRefusal_iff (status : Nat) : Status.isRefusal status = true ↔ 400 ≤ status ∧ status < 600 := by
  simp [Status.isRefusal]

/-- A reply is read as an object exactly if it gives that object. -/
theorem readReply_eq_ok_iff {α : Type} {decode : Decoder α} {reply : Reply} {value : α} :
    readReply decode reply = .ok value ↔ Gives decode reply value := by
  constructor
  · intro read
    -- Nothing but a text that is read to the end counts.
    cases reply with
    | lost cause => cases read
    | answered status text =>
      simp only [readReply] at read
      split at read
      · cases read
      · rename_i welcome
        split at read
        · rename_i result found
          obtain ⟨json, parsed, decoded⟩ := Option.map_eq_some_iff.1 found
          obtain rfl := Except.ok.inj read
          exact ⟨status, text, json, rfl, fun refused => welcome ((isRefusal_iff status).2 refused), parsed, decoded⟩
        · cases read
  · rintro ⟨status, text, json, rfl, welcome, parsed, decoded⟩
    have passes : ¬ Status.isRefusal status = true := fun refused => welcome ((isRefusal_iff status).1 refused)
    simp [readReply, passes, parsed, decoded]

/-- A reply is read as a refusal exactly if it is one. -/
theorem readReply_eq_refused_iff {α : Type} {decode : Decoder α} {reply : Reply} {refusal : Refusal} :
    readReply decode reply = .error (.refused refusal) ↔ Refuses reply refusal := by
  constructor
  · intro read
    cases reply with
    | lost cause => cases read
    | answered status text =>
      simp only [readReply] at read
      split at read
      · rename_i refused
        cases read
        exact ⟨status, text, rfl, (isRefusal_iff status).1 refused, rfl⟩
      · -- A text that cannot be read is a fault of another kind.
        split at read <;> cases read
  · rintro ⟨status, text, rfl, refused, rfl⟩
    simp [readReply, (isRefusal_iff status).2 refused]

/-- A request as it is written down, if its target can be. -/
structure Asks (method : Method) (target : String) (contentType : Option String) (body : Option Json)
    (request : Request) : Prop where
  method : request.method = method
  target : Target.parse target = .ok request.target
  contentType : request.contentType = contentType
  body : request.body = body

/-- A text that can be written down as the target of a request. -/
def Writable (target : String) : Prop := ∃ written, Target.parse target = .ok written

/-- Whether a text can be written down is found out by trying. -/
theorem writable_iff (target : String) : Writable target ↔ (Target.parse target).isOk = true := by
  rw [Writable]
  cases Target.parse target <;> simp [Except.isOk, Except.toBool]

instance (target : String) : Decidable (Writable target) := decidable_of_iff' _ (writable_iff target)

/-- A request to a target that can be written down is sent, and its reply is read. -/
theorem run_request_of_parse {σ α : Type} (transport : Transport σ) (decode : Decoder α) {target : String}
    {written : Target} (parsed : Target.parse target = .ok written) (method : Method) (contentType : Option String)
    (body : Option Json) (state : σ) :
    (request transport decode method target contentType body).run state =
      (.ok (readReply decode (transport.send ⟨method, written, contentType, body⟩ state).1),
        (transport.send ⟨method, written, contentType, body⟩ state).2) := by
  simp only [request, parsed]

/-- A request to a writable target is sent to a scripted server, and the next reply is read. -/
theorem run_request {α : Type} (decode : Decoder α) {target : String} (writable : Writable target)
    (method : Method) (contentType : Option String) (body : Option Json) (script : Script) :
    ∃ sent, Asks method target contentType body sent ∧
      (request Script.transport decode method target contentType body).run script =
        (.ok (readReply decode (script.replyTo 0)), script.next sent) := by
  obtain ⟨written, parsed⟩ := writable
  refine ⟨⟨method, written, contentType, body⟩, ⟨rfl, parsed, rfl, rfl⟩, ?_⟩
  rw [run_request_of_parse Script.transport decode parsed]
  simp only [Script.transport, Script.send_eq]

end Api

end StorageConfig
