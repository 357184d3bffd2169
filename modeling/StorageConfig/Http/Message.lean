import StorageConfig.Http.Uri
import StorageConfig.Json

/-! Requests to an API server, and what comes back. -/

namespace StorageConfig

/-- What a request asks to be done. -/
inductive Method where
  | get
  | post
  | patch
  | delete
  deriving DecidableEq, Repr

/-- The word for a method. -/
def Method.render : Method → String
  | .get => "GET"
  | .post => "POST"
  | .patch => "PATCH"
  | .delete => "DELETE"

/-- The content type of documents. -/
def jsonType : String := "application/json"

/-- The content type of documents that are merged into others. -/
def mergePatchType : String := "application/merge-patch+json"

/-- A request. -/
structure Request where
  method : Method
  target : Target
  contentType : Option String
  body : Option Json

/-- What comes back for a request. -/
inductive Reply where
  /-- Nothing, for some cause. -/
  | lost (cause : String)
  /-- A status and a text. -/
  | answered (status : Nat) (text : String)
  deriving DecidableEq, Repr

/-- A way to send requests, over some state. -/
structure Transport (σ : Type) where
  send : Request → σ → Reply × σ

namespace Status

/-- Whether a status refuses the request. -/
def isRefusal (status : Nat) : Bool := 400 ≤ status && status < 600

/-- The phrases of the statuses that refuse a request. -/
def phrases : List (Nat × String) :=
  [(400, "Bad Request"), (401, "Unauthorized"), (402, "Payment Required"), (403, "Forbidden"),
    (404, "Not Found"), (405, "Method Not Allowed"), (406, "Not Acceptable"),
    (407, "Proxy Authentication Required"), (408, "Request Timeout"), (409, "Conflict"), (410, "Gone"),
    (411, "Length Required"), (412, "Precondition Failed"), (413, "Payload Too Large"), (414, "URI Too Long"),
    (415, "Unsupported Media Type"), (416, "Range Not Satisfiable"), (417, "Expectation Failed"),
    (418, "I'm a teapot"), (421, "Misdirected Request"), (422, "Unprocessable Entity"), (423, "Locked"),
    (424, "Failed Dependency"), (426, "Upgrade Required"), (428, "Precondition Required"),
    (429, "Too Many Requests"), (431, "Request Header Fields Too Large"),
    (451, "Unavailable For Legal Reasons"), (500, "Internal Server Error"), (501, "Not Implemented"),
    (502, "Bad Gateway"), (503, "Service Unavailable"), (504, "Gateway Timeout"),
    (505, "HTTP Version Not Supported"), (506, "Variant Also Negotiates"), (507, "Insufficient Storage"),
    (508, "Loop Detected"), (510, "Not Extended"), (511, "Network Authentication Required")]

/-- A status with its phrase. -/
def render (status : Nat) : String :=
  let phrase := match phrases.find? fun entry => entry.1 == status with
    | some (_, phrase) => phrase
    | none => "<unknown status code>"
  toString status ++ " " ++ phrase

end Status

end StorageConfig
