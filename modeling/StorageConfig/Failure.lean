import StorageConfig.Json.Record

/-! What can make an operation fail, how it is worded, and when the operation is tried again. -/

namespace StorageConfig

/-- The report with which an API server refuses a request. -/
structure Refusal where
  status : String
  message : String
  reason : String
  code : Nat
  deriving DecidableEq, Repr

namespace Refusal

/-- The fields of a refusal. -/
def fields : Record Refusal :=
  Refusal.mk <$> .required "status" Decoder.text <*> .defaulted "message" Decoder.text ""
    <*> .defaulted "reason" Decoder.text "" <*> .required "code" (Decoder.natural 16 "u16")

/-- Read a refusal from a document. -/
def ofJson : Decoder Refusal := fields.decode "ErrorResponse"

/-- A refusal with all its fields shown. -/
def render (refusal : Refusal) : String :=
  "ErrorResponse \x7b status: " ++ quoted refusal.status ++ ", message: " ++ quoted refusal.message
    ++ ", reason: " ++ quoted refusal.reason ++ ", code: " ++ toString refusal.code ++ " \x7d"

end Refusal

/-- Why a text is no request target. -/
inductive UriFault where
  | invalidCharacter
  | tooLong
  deriving DecidableEq, Repr

/-- The wording of a target fault. -/
def UriFault.message : UriFault → String
  | .invalidCharacter => "invalid uri character"
  | .tooLong => "uri too long"

/-- Why a request to an API server gave no object. -/
inductive ApiFailure where
  /-- The server refused the request. -/
  | refused (refusal : Refusal)
  /-- The reply is no object of the wanted kind. -/
  | unreadable
  /-- The request or the reply was lost on the way. -/
  | lost (cause : String)
  /-- The request cannot be written down. -/
  | unwritable (fault : UriFault)
  deriving DecidableEq, Repr

/-- The wording of an API failure. -/
def ApiFailure.message : ApiFailure → String
  | .refused refusal =>
    "ApiError: " ++ refusal.message ++ ": " ++ refusal.reason ++ " (" ++ refusal.render ++ ")"
  | .unreadable => "Error deserializing response"
  | .lost cause => "ServiceError: " ++ cause
  | .unwritable fault => "Failed to build request: failed to build request: " ++ fault.message

/-- Why an operation failed. -/
inductive Failure where
  /-- The operator's own rules were broken. -/
  | internal (text : String)
  /-- The operator is set up wrongly. -/
  | configuration (text : String)
  /-- A request to the API server failed. -/
  | api (cause : ApiFailure)
  /-- The resource does not exist. -/
  | notFound (kind name : String)
  /-- The resource exists already. -/
  | alreadyExists (kind name : String)
  /-- The resource was changed by someone else. -/
  | conflict (kind name reason : String)
  /-- Another object controls the resource. -/
  | alreadyOwned (resource ownerKind ownerName : String)
  /-- The cluster identity cannot be read. -/
  | identityLookup (text : String)
  /-- Pods cannot be listed or terminated. -/
  | podRegistry (text : String)
  /-- A label selector does not follow its grammar. -/
  | selectorParse (text : String)
  /-- A YAML text does not fit its type. -/
  | yaml (text : String)
  deriving DecidableEq, Repr

/-- When an operation that failed is tried again. -/
inductive Retry where
  /-- After the usual delay. -/
  | withBackoff
  /-- After a number of seconds. -/
  | after (seconds : Nat)
  /-- Not before something changes. -/
  | never
  deriving DecidableEq, Repr

/-- Seconds until the next try, if one is planned. -/
def Retry.delay : Retry → Option Nat
  | .withBackoff => some 15
  | .after seconds => some seconds
  | .never => none

namespace Failure

/-- The wording of a failure. -/
def message : Failure → String
  | internal text => "Internal error: " ++ text
  | configuration text => "Configuration error: " ++ text
  | api cause => "Kubernetes API error: " ++ cause.message
  | notFound kind name => "Resource not found: " ++ kind ++ "/" ++ name
  | alreadyExists kind name => "Resource already exists: " ++ kind ++ "/" ++ name
  | conflict kind name reason => "Update conflict on " ++ kind ++ "/" ++ name ++ ": " ++ reason
  | alreadyOwned resource ownerKind ownerName =>
    resource ++ " is already controlled by " ++ ownerKind ++ "/" ++ ownerName
  | identityLookup text => "Identity lookup failed: " ++ text
  | podRegistry text => "Process registry error: " ++ text
  | selectorParse text => "Label selector parse error: " ++ text
  | yaml text => "YAML error: " ++ text

/-- When to try again: someone has to step in for a rival owner, and a wrong setting has to change first. -/
def retry : Failure → Retry
  | alreadyOwned .. => .after 300
  | configuration _ | selectorParse _ => .never
  | _ => .withBackoff

end Failure

end StorageConfig
