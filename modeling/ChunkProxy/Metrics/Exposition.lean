import ChunkProxy.Metrics.Counters
/-!
# The metrics text

Metrics are exposed in the Prometheus text format: one family per metric, in
order of name, each with its help and type lines and then its samples.  A
family with labels appears only once it has a sample, and its samples are
ordered by label value.  Values print as binary64 numbers; the histogram
lists cumulative buckets, then the sum and the count.

All collectors are registered once; registering them again in the same
registry is refused.
-/

namespace ChunkProxy

set_option autoImplicit false

namespace Metrics

/-- One family: name, help, type, and sample lines. -/
structure Family where
  name : String
  help : String
  kind : String
  samples : List String

/-- A number as a sample value. -/
def value (n : Nat) : String := (Binary64.ofNat n).render

/-- A signed number as a sample value. -/
def signedValue (i : Int) : String := if i < 0 then "-" ++ value i.natAbs else value i.natAbs

/-- The samples of a labelled counter, ordered by label value. -/
def labelled (name label : String) (xs : List (String × Nat)) : List String :=
  (xs.mergeSort fun a b => decide (a.1 ≤ b.1)).map fun (v, n) =>
    name ++ "\x7b" ++ label ++ "=\"" ++ v ++ "\"\x7d " ++ value n

/-- The families present, in order of name. -/
def families (m : Metrics) : List Family :=
  let hist := "vfscache_request_duration_seconds"
  let buckets := (durationBounds.zip m.durations.cumulative).map fun (b, n) =>
    hist ++ "_bucket\x7ble=\"" ++ b.render ++ "\"\x7d " ++ showNat n
  let all : List (Option Family) := [
    if m.chunks.isEmpty then none else some ⟨"vfscache_chunk_cache_total",
      "Chunk cache lookups by result", "counter", labelled "vfscache_chunk_cache_total" "result" m.chunks⟩,
    some ⟨"vfscache_registry_entries", "Number of registered remote identifiers", "gauge",
      ["vfscache_registry_entries " ++ signedValue m.registryEntries]⟩,
    some ⟨hist, "Time to produce response headers in seconds", "histogram",
      buckets ++ [hist ++ "_bucket\x7ble=\"+Inf\"\x7d " ++ showNat m.durations.count,
        hist ++ "_sum " ++ m.durations.sum.render, hist ++ "_count " ++ showNat m.durations.count]⟩,
    if m.requests.isEmpty then none else some ⟨"vfscache_requests_total",
      "Total number of requests served", "counter", labelled "vfscache_requests_total" "status" m.requests⟩,
    if m.stats.isEmpty then none else some ⟨"vfscache_stat_results_total",
      "Stat outcomes by result", "counter", labelled "vfscache_stat_results_total" "result" m.stats⟩,
    some ⟨"vfscache_upstream_bytes_total", "Total bytes received from upstream", "counter",
      ["vfscache_upstream_bytes_total " ++ value m.upstreamBytes]⟩]
  all.filterMap id

/-- The text, line by line. -/
def lines (m : Metrics) : List String :=
  m.families.flatMap fun f => ["# HELP " ++ f.name ++ " " ++ f.help, "# TYPE " ++ f.name ++ " " ++ f.kind] ++ f.samples

/-- The whole text. -/
def exposition (m : Metrics) : String := String.join (m.lines.map (· ++ "\n"))

/-- Why registering the collectors a second time fails. -/
def duplicateRegistration : String := "Duplicate metrics collector registration attempted"

end Metrics

end ChunkProxy
