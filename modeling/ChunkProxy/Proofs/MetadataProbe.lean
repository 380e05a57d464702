import ChunkProxy.Proofs.RangeTexts
import ChunkProxy.Proofs.PacerCall
import ChunkProxy.Remote.Link
/-!
# Resolving metadata with a probe

The size of a file registered without one is learnt by a probe: a GET of the entry's URL with
the entry's headers and `Range: bytes=0-0` (`probeHeaders`), sent through the pacer.  The
upstream may answer each attempt differently (`Upstream`), so the attempts are run one after
another, each from the state the previous one left (`Pacer.attemptTrace`).  An attempt is tried
again when it could not be sent, or was answered 429, 500, 502, 503, 504 or 509
(`retryableOutcome_iff`); a URL that cannot be requested is refused before sending and never
retried.

The last attempt decides the answer (`Probed`, stated without the reader): a failure to get an
answer, or any status but 200 and 206, is a failed metadata fetch; a 200 or 206 that reports no
length (`ReportsLength`: the total of the Content-Range for 206, the trimmed Content-Length for
200) is an unknown size; otherwise the metadata carries that length, the Last-Modified date or
the present time (`ModifiedAt`), and the Content-Type.  `probeAnswer_iff` says the reader gives
exactly that, and `resolve_probes_then_reads_last_answer` puts the attempts and the answer
together.
-/

namespace ChunkProxy

set_option autoImplicit false

open Http Text

namespace Http.Headers

variable (v : List UInt8)

/-- Putting a value in the place of the first entry of `n`, and dropping the later entries of
`n`, leaves that value alone under `n` and every other name's entries as they were. -/
theorem filter_replace (n k : String) :
    ∀ l : List (String × List UInt8),
      (l.takeWhile (·.1 != n) ++ [(n, v)] ++ ((l.dropWhile (·.1 != n)).drop 1).filter (·.1 != n)).filter
          (·.1 == k) = if k = n then [(n, v)] else l.filter (·.1 == k)
  | [] => by
    by_cases same : k = n
    · simp [same]
    · simp [same, beq_false_of_ne (Ne.symm same)]
  | (a, b) :: rest => by
    by_cases named : a = n
    · subst named
      simp only [List.takeWhile_cons, List.dropWhile_cons, bne_self_eq_false, Bool.false_eq_true,
        if_false, List.drop_one, List.tail_cons, List.nil_append, List.singleton_append, List.filter_cons,
        List.filter_filter]
      by_cases same : k = a
      · subst same
        simp
      · have other : (a == k) = false := beq_false_of_ne (Ne.symm same)
        simp only [other, if_neg same, Bool.false_eq_true, if_false]
        congr 1
        funext x
        by_cases at_k : x.1 = k
        · simp [at_k, same]
        · simp [at_k]
    · have kept : (a != n) = true := by simpa using named
      have ih := filter_replace n k rest
      simp only [List.takeWhile_cons, List.dropWhile_cons, kept, if_true, List.cons_append, List.filter_cons]
      rw [ih]
      by_cases same : k = n
      · subst same
        simp [named]
      · simp only [if_neg same]

theorem keys_ne_of_lookup {n : String} :
    ∀ l : List (String × List UInt8), l.lookup n = none → ∀ x ∈ l, x.1 ≠ n
  | [], _ => by simp
  | (a, b) :: rest, absent => by
    by_cases named : a = n
    · subst named
      simp at absent
    · simp only [List.lookup_cons, beq_false_of_ne (Ne.symm named)] at absent
      intro x mem
      rcases List.mem_cons.mp mem with rfl | later
      · exact named
      · exact keys_ne_of_lookup rest absent x later

/-- Replacing the values of a lowercase name leaves exactly the new value under that name, and
every other name's values as they were. -/
theorem getAll_insert (h : Headers) {n : String} (lower : normName n = n) (m : String) :
    (h.insert n v).getAll m = if normName m = n then [v] else h.getAll m := by
  -- with or without an entry of the name, the new entries are the replacement
  have replaced : (h.insert n v).entries =
      h.entries.takeWhile (·.1 != n) ++ [(n, v)] ++ ((h.entries.dropWhile (·.1 != n)).drop 1).filter (·.1 != n) := by
    unfold insert
    simp only [lower]
    split
    · rfl
    · rename_i absent
      have none_n : h.entries.lookup n = none := by
        rw [← Option.not_isSome_iff_eq_none]
        simpa [contains, get?, lower] using absent
      have apart := keys_ne_of_lookup h.entries none_n
      rw [List.takeWhile_eq_self_iff.mpr (fun x mem => by simpa using apart x mem),
        List.dropWhile_eq_nil_iff.mpr (fun x mem => by simpa using apart x mem)]
      simp [append, lower]
  rw [getAll, replaced, filter_replace]
  split <;> simp [getAll]

end Http.Headers

namespace Remote

/-- The probe's headers are the entry's, with exactly one Range value, `bytes=0-0`. -/
theorem getAll_probeHeaders (entry : RegistryEntry) (name : String) :
    (probeHeaders entry).getAll name =
      if Headers.normName name = "range" then [Utf8.encode "bytes=0-0"] else entry.headers.getAll name :=
  entry.headers.getAll_insert _ (by decide +kernel) name

/-- An exchange is tried again exactly when it could not be sent, or was answered with one of
the statuses 429, 500, 502, 503, 504 and 509. -/
theorem retryableOutcome_iff (a : Except RequestFailure Response) :
    retryableOutcome a = true ↔
      (∃ r, a = .ok r ∧ r.status ∈ [429, 500, 502, 503, 504, 509]) ∨ ∃ url, a = .error (.send url) := by
  cases a with
  | ok r => simp [retryableOutcome, isRetryStatus, retryStatuses]
  | error f => cases f <;> simp [retryableOutcome, RequestFailure.retryable]

/-! ## The last answer -/

/-- The length an answer to the probe reports: for 206 the total of its Content-Range, for 200
its Content-Length, trimmed, read as a word. -/
def ReportsLength (r : Response) (n : Nat) : Prop :=
  (r.status = 206 ∧ ∃ v, r.headers.getText? "content-range" = some v ∧ ByteRange.contentRangeTotal v = some n) ∨
  (r.status = 200 ∧ ∃ v, r.headers.getText? "content-length" = some v ∧ Decimal.readWord? (trimBlanks v) = some n)

/-- The modification time an answer gives at time `now`: its Last-Modified date when that is
text and a valid HTTP date, else `now`. -/
def ModifiedAt (r : Response) (now t : Int) : Prop :=
  (∀ d, headerDate r.headers "last-modified" = some d → t = d) ∧
  (headerDate r.headers "last-modified" = none → t = now)

/-- What the last attempt of a probe gives: a failed fetch when no answer came or its status is
neither 200 nor 206; an unknown size when it reports no length; else the metadata it reports. -/
def Probed (entry : RegistryEntry) (now : Int) : Except RequestFailure Response → Except ProxyError Metadata → Prop
  | .error f, res => res = .error (.metadataFetch ("GET " ++ entry.url ++ " failed: " ++ f.render))
  | .ok r, .ok m => ReportsLength r m.contentLength ∧ ModifiedAt r now m.modified ∧
      m.contentType = r.headers.getText? "content-type"
  | .ok r, .error e =>
      ((r.status = 200 ∨ r.status = 206) ∧ (∀ n, ¬ ReportsLength r n) ∧ e = .unknownSize) ∨
      (r.status ≠ 200 ∧ r.status ≠ 206 ∧ e = .metadataFetch ("metadata fetch failed: status " ++ showNat r.status))

theorem reportsLength_iff (r : Response) (n : Nat) :
    ReportsLength r n ↔ (r.status = 200 ∨ r.status = 206) ∧ reportedLength r = some n := by
  unfold ReportsLength reportedLength
  by_cases ranged : r.status = 206
  · simp [ranged, Option.bind_eq_some_iff]
  · simp [ranged, Option.bind_eq_some_iff]

theorem modifiedAt_iff (r : Response) (now t : Int) :
    ModifiedAt r now t ↔ t = ((headerDate r.headers "last-modified").map Int.ofNat).getD now := by
  unfold ModifiedAt
  cases headerDate r.headers "last-modified" <;> simp

/-- The reader gives exactly what `Probed` says. -/
theorem probeAnswer_iff (entry : RegistryEntry) (now : Int) (a : Except RequestFailure Response)
    (res : Except ProxyError Metadata) : Probed entry now a res ↔ res = probeAnswer entry now a := by
  cases a with
  | error f => exact Iff.rfl
  | ok r =>
    simp only [probeAnswer, metadataOf]
    by_cases served : r.status = 200 ∨ r.status = 206
    · rw [if_neg (by simp only [bne_iff_ne, ne_eq, Bool.and_eq_true]; omega)]
      cases length : reportedLength r with
      | none =>
        -- a served answer without a length: an unknown size
        have noLength : ∀ n, ¬ ReportsLength r n := fun n reports => by
          rw [reportsLength_iff, length] at reports
          simp at reports
        cases res with
        | ok m => simp only [Probed, reduceCtorEq, iff_false, not_and]; exact fun reports => absurd reports (noLength _)
        | error e =>
          simp only [Probed, Except.error.injEq]
          constructor
          · rintro (⟨-, -, rfl⟩ | ⟨other, other', -⟩)
            · rfl
            · omega
          · rintro rfl
            exact .inl ⟨served, noLength, rfl⟩
      | some n =>
        -- a served answer with a length: the metadata it reports
        cases res with
        | ok m =>
          obtain ⟨size, modified, mime⟩ := m
          simp only [Probed, reportsLength_iff, modifiedAt_iff, length, Except.ok.injEq, Metadata.mk.injEq,
            Option.some.injEq]
          constructor
          · rintro ⟨⟨-, rfl⟩, rfl, rfl⟩
            exact ⟨rfl, rfl, rfl⟩
          · rintro ⟨rfl, rfl, rfl⟩
            exact ⟨⟨served, rfl⟩, rfl, rfl⟩
        | error e =>
          simp only [Probed, reduceCtorEq, iff_false, not_or, not_and]
          refine ⟨fun _ noLength => absurd ((reportsLength_iff r n).mpr ⟨served, length⟩) (noLength n), ?_⟩
          intro other
          omega
    · rw [if_pos (by simp only [bne_iff_ne, ne_eq, Bool.and_eq_true]; omega)]
      -- a status other than 200 and 206: a failed fetch, whatever the headers say
      cases res with
      | ok m =>
        simp only [Probed, reportsLength_iff, reduceCtorEq, iff_false, not_and]
        exact fun reports => absurd reports.1 served
      | error e =>
        simp only [Probed, Except.error.injEq]
        constructor
        · rintro (⟨other, -, -⟩ | ⟨-, -, rfl⟩)
          · exact absurd other served
          · rfl
        · rintro rfl
          exact .inr ⟨fun same => served (.inl same), fun same => served (.inr same), rfl⟩

/-! ## The attempts and the answer -/

section Probe

variable {υ : Type} (up : Upstream υ) (pacer : Pacer) (entry : RegistryEntry) (now : Int) (u : υ)

/-- A resolution is the pacer's call of the probe, then the reading of its last attempt. -/
theorem resolveFrom_eq :
    resolveFrom up pacer entry now u =
      (pacer.call (probeAttempt up entry) retryableOutcome u).map fun called =>
        ((probeAnswer entry now called.1.outcome, called.2), called.1.state) := by
  unfold resolveFrom
  cases pacer.call (probeAttempt up entry) retryableOutcome u <;> rfl

/-- What resolving an entry against an upstream does. -/
structure ResolvesByProbe : Prop where
  /-- It faults exactly where the pacer's call of the probe faults. -/
  faults : ∀ f, resolveFrom up pacer entry now u = .error f ↔
    pacer.call (probeAttempt up entry) retryableOutcome u = .error f
  /-- Otherwise it gives what the last attempt gives, with the pacer and the upstream as the call
  leaves them. -/
  answers : ∀ res q u', resolveFrom up pacer entry now u = .ok ((res, q), u') ↔
    ∃ called, pacer.call (probeAttempt up entry) retryableOutcome u = .ok (called, q) ∧
      u' = called.state ∧ Probed entry now called.outcome res
  /-- While the count of allowed attempts fits a word, the attempts stop where `StoppedAt` says,
  the answer is that attempt's, and each retry is counted. -/
  stops : pacer.policy.maxRetries + 1 < wordBound →
    ∃ n q res, Pacer.StoppedAt pacer.policy.maxRetries
        (fun i => retryableOutcome (Pacer.attemptTrace (probeAttempt up entry) 0 u i).1) n ∧
      resolveFrom up pacer entry now u = .ok ((res, q), (Pacer.attemptTrace (probeAttempt up entry) 0 u n).2) ∧
      Probed entry now (Pacer.attemptTrace (probeAttempt up entry) 0 u n).1 res ∧
      q.retries = pacer.retries + UInt64.ofNat n

theorem resolvesByProbe : ResolvesByProbe up pacer entry now u where
  faults f := by
    rw [resolveFrom_eq]
    cases pacer.call (probeAttempt up entry) retryableOutcome u <;> simp [Except.map]
  answers res q u' := by
    rw [resolveFrom_eq]
    cases pacer.call (probeAttempt up entry) retryableOutcome u with
    | error f => simp [Except.map]
    | ok called =>
      obtain ⟨c, q'⟩ := called
      simp only [Except.map, Except.ok.injEq, Prod.mk.injEq, probeAnswer_iff]
      constructor
      · rintro ⟨⟨rfl, rfl⟩, rfl⟩
        exact ⟨c, ⟨rfl, rfl⟩, rfl, rfl⟩
      · rintro ⟨c', ⟨rfl, rfl⟩, rfl, rfl⟩
        exact ⟨⟨rfl, rfl⟩, rfl⟩
  stops fits := by
    obtain ⟨n, q, stopped, result, counted, -⟩ := Pacer.callFrom_stops (probeAttempt up entry) retryableOutcome
      pacer.policy.maxRetries 0 pacer u (Nat.zero_add _) fits
    refine ⟨n, q, _, stopped, ?_, (probeAnswer_iff _ _ _ _).mpr rfl, counted⟩
    rw [resolveFrom_eq, Pacer.call, result]
    rfl

end Probe

/-- Against any upstream, whose answers may change from one attempt to the next, a resolution
runs the pacer's attempts of the probe, a GET of the entry's URL with the entry's headers and
`Range: bytes=0-0` alone in place of any Range, retried while an attempt could not be sent or
was answered 429, 500, 502, 503, 504 or 509; it faults exactly when the pacer's call does, and
otherwise answers as `Probed` reads the last attempt: a failed fetch for a failure to send or a
status other than 200 and 206, an unknown size for a 200 or 206 that reports no length, else
the length reported (the Content-Range total for 206, the trimmed Content-Length for 200), the
Last-Modified date or the present time, and the Content-Type. -/
theorem resolve_probes_then_reads_last_answer :
    (∀ {υ : Type} (up : Upstream υ) (pacer : Pacer) (entry : RegistryEntry) (now : Int) (u : υ),
      ResolvesByProbe up pacer entry now u) ∧
    (∀ a, retryableOutcome a = true ↔
      (∃ r, a = .ok r ∧ r.status ∈ [429, 500, 502, 503, 504, 509]) ∨ ∃ url, a = .error (.send url)) ∧
    (∀ entry name, (probeHeaders entry).getAll name =
      if Headers.normName name = "range" then [Utf8.encode "bytes=0-0"] else entry.headers.getAll name) :=
  ⟨resolvesByProbe, retryableOutcome_iff, getAll_probeHeaders⟩

/-- An upstream that is busy at the first request and then reports ten bytes. -/
def busyOnce : Upstream Nat := fun k _ _ =>
  (if k = 0 then .ok { status := 503 }
    else .ok { status := 200, headers := Headers.ofList [("content-length", Utf8.encode "10")] }, k + 1)

/-- A probe allowed three retries, against an upstream busy once. -/
theorem probe_of_busy_upstream :
    (Pacer.make (RetryPolicy.make 3)).policy.maxRetries + 1 < wordBound ∧
      ResolvesByProbe busyOnce (Pacer.make (RetryPolicy.make 3)) { url := "http://h/a" } 0 0 :=
  ⟨by decide, resolve_probes_then_reads_last_answer.1 busyOnce _ _ 0 0⟩

end Remote

end ChunkProxy
