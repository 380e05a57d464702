import ChunkProxy.Text.Decimal
/-!
# Errors of the proxy

Each error names its cause.  `ProxyError.message` gives the wording,
`httpStatus` the status a client sees, and `retryable` whether a call that
failed this way is worth another attempt: transport failures are, and an
origin's answer is when its status is one of 429, 500, 502, 503, 504 and 509.
Statuses from an origin are classified by `ProxyError.ofStatus`: 4xx and 5xx
become origin errors, anything else an HTTP error.
-/

namespace ChunkProxy

set_option autoImplicit false

/-- Why an operation of the proxy failed. -/
inductive ProxyError where
  | badRequest (detail : String)
  | notFound (what : String)
  | metadataFetch (detail : String)
  | unknownSize
  | originClient (status : Nat) (detail : String)
  | originServer (status : Nat) (detail : String)
  | invalidRange (detail : String)
  | readOnly
  | config (detail : String)
  | cache (detail : String)
  | io (detail : String)
  | http (detail : String)
  | parse (detail : String)
  | timeout (detail : String)
  | internal (detail : String)
  deriving DecidableEq, Repr

/-- The statuses worth another attempt. -/
def retryStatuses : List Nat := [429, 500, 502, 503, 504, 509]

/-- Whether an origin status is worth another attempt. -/
def isRetryStatus (status : Nat) : Bool := retryStatuses.contains status

namespace ProxyError

/-- The name of the cause, as reported beside the message. -/
def kind : ProxyError → String
  | .badRequest _ => "BadRequest"
  | .notFound _ => "NotFound"
  | .metadataFetch _ => "MetadataFetchError"
  | .unknownSize => "UnknownSize"
  | .originClient _ _ => "OriginClientError"
  | .originServer _ _ => "OriginServerError"
  | .invalidRange _ => "InvalidRange"
  | .readOnly => "ReadOnly"
  | .config _ => "ConfigError"
  | .cache _ => "CacheError"
  | .io _ => "IoError"
  | .http _ => "HttpError"
  | .parse _ => "ParseError"
  | .timeout _ => "Timeout"
  | .internal _ => "InternalError"

/-- The wording of an error. -/
def message : ProxyError → String
  | .badRequest d => "Bad request: " ++ d
  | .notFound w => "Not found: " ++ w
  | .metadataFetch d => "Metadata fetch error: " ++ d
  | .unknownSize => "Metadata fetch failed: unknown file size"
  | .originClient s d => "Origin server returned 4xx error: " ++ showNat s ++ " - " ++ d
  | .originServer s d => "Origin server returned 5xx error: " ++ showNat s ++ " - " ++ d
  | .invalidRange d => "Invalid byte range: " ++ d
  | .readOnly => "read only file system"
  | .config d => "Configuration error: " ++ d
  | .cache d => "Cache error: " ++ d
  | .io d => "IO error: " ++ d
  | .http d => "HTTP error: " ++ d
  | .parse d => "Parse error: " ++ d
  | .timeout d => "Network timeout: " ++ d
  | .internal d => "Internal error: " ++ d

/-- Whether a call that failed this way is worth another attempt. -/
def retryable : ProxyError → Bool
  | .originClient s _ | .originServer s _ => isRetryStatus s
  | .timeout _ | .http _ | .io _ => true
  | _ => false

/-- The status a client sees for an error. -/
def httpStatus : ProxyError → Nat
  | .badRequest _ | .parse _ => 400
  | .notFound _ | .metadataFetch _ | .unknownSize | .originClient _ _ | .originServer _ _
  | .timeout _ => 404
  | .invalidRange _ => 416
  | _ => 500

/-- The origin status an error carries, if any. -/
def originStatus : ProxyError → Option Nat
  | .originClient s _ | .originServer s _ => some s
  | _ => none

/-- Whether the error says that something does not exist. -/
def isNotFound : ProxyError → Bool
  | .notFound _ => true
  | _ => false

/-- The error for an origin's status. -/
def ofStatus (status : Nat) (detail : String) : ProxyError :=
  if 400 ≤ status ∧ status < 500 then .originClient status detail
  else if 500 ≤ status ∧ status < 600 then .originServer status detail
  else .http ("HTTP " ++ showNat status ++ ": " ++ detail)

/-- A 4xx status always gives a client error. -/
theorem ofStatus_client (status : Nat) (detail : String) (h1 : 400 ≤ status) (h2 : status < 500) :
    ofStatus status detail = .originClient status detail := by
  simp [ofStatus, h1, h2]

end ProxyError

end ChunkProxy
