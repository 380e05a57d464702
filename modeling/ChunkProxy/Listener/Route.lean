import ChunkProxy.Handler.Serve
import ChunkProxy.Metrics.Exposition
/-!
# What the listeners answer

The proxy's listener hands a request whose path lies under the mount path to the
handler, and answers any other itself with 404 `Not found`.

The metrics endpoint answers by path alone, whatever the method and the query:
`/metrics` with the metrics in the text exposition format, `/health` with a JSON
health report, `/` with a short help text, and any other path with 404.
-/

namespace ChunkProxy.Listener

set_option autoImplicit false

open Http Remote

/-- Answers a request at the proxy's listener at time `now`. -/
def route {σ : Type} [RemoteFs σ] (h : Handler σ) (req : Handler.Request) (now : Nat) :
    Except Fault (Handler.Answer × Handler σ) :=
  if h.covers req.target.path then h.handle req now
  else pure (.ofReply (errorReply 404 "Not found"), h)

/-- A reply of plain text with a media type. -/
def textReply (status : Nat) (mediaType body : String) : Reply :=
  { status, headers := Headers.empty.insertText "content-type" mediaType, body := Body.ofBytes (Utf8.encode body) }

/-- The help text of the metrics endpoint. -/
def endpointHelp : String :=
  "vfscache-proxy metrics\n\n/metrics  Prometheus metrics\n/health   health check\n"

/-- The health report of the metrics endpoint. -/
def healthReport : String := "\x7b\"status\":\"healthy\"\x7d"

/-- What the metrics endpoint answers for a path, given the metrics. -/
def endpointReply (m : Metrics) (path : String) : Reply :=
  match path with
  | "/metrics" => textReply 200 "text/plain; version=0.0.4; charset=utf-8" m.exposition
  | "/health" => textReply 200 "application/json" healthReport
  | "/" => textReply 200 "text/plain; charset=utf-8" endpointHelp
  | _ => textReply 404 "text/plain" "404 Not Found"

end ChunkProxy.Listener
