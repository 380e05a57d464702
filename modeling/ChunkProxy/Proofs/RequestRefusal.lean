import ChunkProxy.Proofs.Base64Dialects
import ChunkProxy.Proofs.ViewFrame
import ChunkProxy.Proofs.ContentAnswer
import ChunkProxy.Proofs.UrlReading
/-!
# Refused requests change nothing

A request is refused before it touches anything: a method other than GET and HEAD gets 405
with `Allow: GET, HEAD`, and a GET or HEAD whose target cannot be read gets 400.  This module
says when the target cannot be read (`TargetRefused`, `targetUrl_error_iff`): a non-empty `url`
parameter is chosen and must not be blank; without one, the path below the mount must be a path
dialect's writing of a text that is not blank (`Proofs.Base64Dialects`).

Both refusals answer with the handler as it was, the request counted in its metrics and
nothing else: no key remembered, nothing registered, no stat and no read.  A request that is not
refused is answered by the stat of its path, with one of `servedStatuses`, never 400 or 405
(`answerStat_served`), so each refusal's status is given exactly when it is due:
`refused_requests_change_nothing`.
-/

namespace ChunkProxy.Handler

set_option autoImplicit false

open Http Remote Base64

/-! ## Refused targets -/

/-- A request names no usable target: its non-empty `url` parameter is blank, or it has none and
the path below the mount is empty or is no path dialect's writing of a text that is not
blank. -/
def TargetRefused (mount : String) (t : Target) : Prop :=
  (∃ url, urlParam t = some url ∧ (Text.trimBlanks url).isEmpty = true) ∨
    (urlParam t = none ∧ (belowMount mount t = "" ∨
      ∀ d ∈ pathDialects, ∀ v, belowMount mount t = encodeIn d (Utf8.encode v) →
        (Text.trimBlanks v).isEmpty = true))

/-- A path segment that names a text refuses every writing of another text: the text it
names is the only one. -/
theorem named_text_unique {s v : String} (decoded : decodeBase64Target s = .ok v) {d : Dialect}
    (mem : d ∈ pathDialects) {w : String} (written : s = encodeIn d (Utf8.encode w)) : w = v := by
  rw [written, decodeBase64Target_encodeIn mem] at decoded
  exact Except.ok.inj decoded

/-- A request's target is refused when choosing it fails or the chosen target is blank. -/
theorem targetUrl_error_iff_chosen (mount : String) (t : Target) :
    (∃ e, targetUrl mount t = .error e) ↔
      (∃ e, chooseTarget mount t = .error e) ∨
        ∃ target, chooseTarget mount t = .ok target ∧ (Text.trimBlanks target).isEmpty = true := by
  unfold targetUrl
  cases chooseTarget mount t with
  | error e => simp only [bind, Except.bind, Except.error.injEq, exists_eq', reduceCtorEq, false_and, exists_const,
      or_false]
  | ok target =>
    simp only [bind, Except.bind, reduceCtorEq, exists_false, Except.ok.injEq, exists_eq_left', false_or]
    by_cases blank : (Text.trimBlanks target).isEmpty = true
    · exact iff_of_true ⟨_, by rw [if_pos blank]; rfl⟩ blank
    · simp only [blank, Bool.false_eq_true, if_false, pure, Except.pure, reduceCtorEq, exists_false]

/-- A target is refused exactly when the request names no usable target. -/
theorem targetUrl_error_iff (mount : String) (t : Target) :
    (∃ e, targetUrl mount t = .error e) ↔ TargetRefused mount t := by
  rw [targetUrl_error_iff_chosen]
  unfold chooseTarget TargetRefused
  cases param : urlParam t with
  | some url =>
    simp only [pure, Except.pure, reduceCtorEq, exists_false, Except.ok.injEq, exists_eq_left', false_or,
      Option.some.injEq, false_and, or_false]
  | none =>
    simp only [reduceCtorEq, false_and, exists_const, false_or, true_and]
    by_cases empty : belowMount mount t = ""
    · -- an empty path chooses the empty target, which is blank
      refine iff_of_true (.inr ⟨"", ?_, rfl⟩) (.inl empty)
      rw [empty]
      rfl
    · simp only [String.isEmpty_iff, empty, if_false, false_or]
      cases decoded : decodeBase64Target (belowMount mount t) with
      | error e =>
        -- no text is named, so there is no writing of a text to be blank
        simp only [Except.error.injEq, exists_eq', reduceCtorEq, false_and, exists_const, or_false, true_iff]
        intro d mem w written
        rw [written, decodeBase64Target_encodeIn mem] at decoded
        cases decoded
      | ok v =>
        simp only [reduceCtorEq, exists_false, Except.ok.injEq, exists_eq_left', false_or]
        constructor
        · intro blank d mem w written
          rw [named_text_unique decoded mem written]
          exact blank
        · intro refused
          obtain ⟨d, mem, written⟩ := encodeIn_of_decodeBase64Target decoded
          exact refused d mem v written

/-- A target that is read is not refused. -/
theorem not_refused_of_ok {mount : String} {t : Target} {target : String} (valid : targetUrl mount t = .ok target) :
    ¬ TargetRefused mount t := by
  intro refused
  obtain ⟨e, failed⟩ := (targetUrl_error_iff _ _).mpr refused
  rw [failed] at valid
  cases valid

/-! ## Statuses of served requests -/

/-- The statuses a request gets once the stat of its path answers it. -/
def servedStatuses : List Nat := [200, 206, 304, 404, 412, 416, 500]

/-- Every answer a computation gives carries one of `servedStatuses`. -/
def AnswersServed {β : Type} (x : Except Fault (Answer × β)) : Prop :=
  ∀ a b, x = .ok (a, b) → a.status ∈ servedStatuses

theorem answersServed_bind {β γ : Type} {x : Except Fault γ} {f : γ → Except Fault (Answer × β)}
    (rest : ∀ c, AnswersServed (f c)) : AnswersServed (x >>= f) := by
  intro a b answered
  obtain ⟨c, -, next⟩ := Url.ok_of_bind_ok answered
  exact rest c a b next

theorem answersServed_ok {β : Type} {a : Answer} (status : a.status ∈ servedStatuses) (b : β) :
    AnswersServed (.ok (a, b)) := by
  intro a' b' answered
  cases answered
  exact status

theorem answersServed_error {β : Type} {s : Nat} (status : s ∈ servedStatuses) (message : String) (b : β) :
    AnswersServed (.ok (.ofReply (errorReply s message), b)) :=
  answersServed_ok status b

variable {σ : Type} [RemoteFs σ] (h : Handler σ)

theorem streamContent_served (info : Fs.FileInfo) (size : Nat) (headers : Headers) (range : Option ByteRange) :
    AnswersServed (h.streamContent info size headers range) := by
  unfold streamContent
  refine answersServed_bind fun ⟨res, vfs⟩ => ?_
  cases res with
  | error _ => exact answersServed_error (by decide) _ _
  | ok _ =>
    cases range with
    | none => exact answersServed_ok (show 200 ∈ servedStatuses by decide) _
    | some r => exact answersServed_bind fun _ => answersServed_ok (show 206 ∈ servedStatuses by decide) _

theorem serveKnown_served (req : Request) (info : Fs.FileInfo) (size : Nat) (headers : Headers) :
    AnswersServed (h.serveKnown req info size headers) := by
  unfold serveKnown
  split
  · exact streamContent_served h _ _ _ _
  · exact streamContent_served h _ _ _ _
  · exact answersServed_ok (show 304 ∈ servedStatuses by decide) _
  · exact answersServed_error (by decide) _ _
  · exact answersServed_ok (show 416 ∈ servedStatuses by decide) _

theorem serveUnknown_served (req : Request) (info : Fs.FileInfo) (headers : Headers) :
    AnswersServed (h.serveUnknown req info headers) := by
  unfold serveUnknown
  split
  · exact answersServed_error (by decide) _ _
  · refine answersServed_bind fun ⟨res, vfs⟩ => ?_
    cases res with
    | error _ => exact answersServed_error (by decide) _ _
    | ok _ => exact answersServed_ok (show 200 ∈ servedStatuses by decide) _

theorem answerFile_served (req : Request) (info : Fs.FileInfo) : AnswersServed (h.answerFile req info) := by
  unfold answerFile
  refine answersServed_bind fun headers => ?_
  split
  · exact answersServed_ok (show 200 ∈ servedStatuses by decide) _
  · cases info.size with
    | some size => exact serveKnown_served _ _ _ _ _
    | none => exact serveUnknown_served _ _ _ _

/-- A request answered by the stat of its path gets one of `servedStatuses`. -/
theorem answerStat_served (req : Request) (path : String) (now : Nat) :
    AnswersServed (h.answerStat req path now) := by
  unfold answerStat
  refine answersServed_bind fun ⟨res, vfs⟩ => ?_
  cases res with
  | ok node =>
    cases node with
    | dir _ _ => exact answersServed_error (by decide) _ _
    | file info => exact answerFile_served _ _ _
  | error e =>
    dsimp only
    split
    · exact answersServed_error (by decide) _ _
    · split
      · exact answersServed_error (by decide) _ _
      · exact answersServed_error (by decide) _ _

/-! ## Refusals -/

/-- A method other than GET and HEAD is answered 405 with `Allow: GET, HEAD`, and the handler
is left as it was. -/
theorem serve_method_refused (req : Request) (now : Nat) (refused : ¬ (req.method = "GET" ∨ req.method = "HEAD")) :
    ∃ a, h.serve req now = .ok (a, h) ∧ a.status = 405 ∧ a.headers.get? "allow" = some (Utf8.encode "GET, HEAD") := by
  have lower : Headers.normName "allow" = "allow" := by decide +kernel
  have other : (req.method != "GET" && req.method != "HEAD") = true := by
    simp only [not_or] at refused
    simp [refused.1, refused.2]
  unfold serve
  rw [if_pos other]
  refine ⟨_, rfl, rfl, ?_⟩
  simp [Answer.ofReply, Headers.get?_insertText, lower]

/-- A handled request whose serving left the handler `h₁` leaves it with the request's status
counted. -/
theorem handle_of_serve {req : Request} {now : Nat} {a : Answer} {h₁ : Handler σ}
    (served : h.serve req now = .ok (a, h₁)) :
    h.handle req now = .ok (a, { h₁ with vfs := h₁.vfs.record (·.recordRequest a.status 0) }) := by
  unfold handle
  rw [served]
  rfl

/-- How a request is refused.  A method other than GET and HEAD is answered 405 with
`Allow: GET, HEAD`; a GET or HEAD whose target is refused (`TargetRefused`) is answered 400.
Both leave the handler as it was but for the request counted in its metrics: no key is
remembered, nothing is registered, and the view is neither stat'ed nor read.  Each of the two
statuses is given exactly when its refusal is due. -/
theorem refused_requests_change_nothing (req : Request) (now : Nat) :
    (¬ (req.method = "GET" ∨ req.method = "HEAD") →
      ∃ a, h.handle req now = .ok (a, { h with vfs := h.vfs.record (·.recordRequest 405 0) }) ∧ a.status = 405 ∧
        a.headers.get? "allow" = some (Utf8.encode "GET, HEAD")) ∧
    ((req.method = "GET" ∨ req.method = "HEAD") → TargetRefused h.mountPath req.target →
      ∃ a, h.handle req now = .ok (a, { h with vfs := h.vfs.record (·.recordRequest 400 0) }) ∧ a.status = 400) ∧
    ∀ a h', h.handle req now = .ok (a, h') →
      (a.status = 405 ↔ ¬ (req.method = "GET" ∨ req.method = "HEAD")) ∧
      (a.status = 400 ↔ (req.method = "GET" ∨ req.method = "HEAD") ∧ TargetRefused h.mountPath req.target) := by
  refine ⟨fun refused => ?_, fun allowed refusedTarget => ?_, fun a h' handled => ?_⟩
  · obtain ⟨a, served, status, allow⟩ := serve_method_refused h req now refused
    exact ⟨a, by rw [handle_of_serve h served, status], status, allow⟩
  · rcases serve_cases (h := h) req now with ⟨refused, -⟩ | ⟨-, -, -, a, served, status⟩ | ⟨-, target, valid, -⟩
    · exact absurd allowed refused
    · exact ⟨a, by rw [handle_of_serve h served, status], status⟩
    · exact absurd refusedTarget (not_refused_of_ok valid)
  · obtain ⟨h₁, served, -⟩ := handle_ok handled
    rcases serve_cases (h := h) req now with ⟨refused, a₁, served₁, status⟩ |
      ⟨allowed, e, failed, a₁, served₁, status⟩ | ⟨allowed, target, valid, served₁⟩
    · -- refused by its method
      rw [served₁] at served
      cases served
      simp only [status, refused, not_false_eq_true, false_and, iff_false]
      decide
    · -- refused by its target
      rw [served₁] at served
      cases served
      have refusedTarget := (targetUrl_error_iff _ _).mp ⟨e, failed⟩
      simp only [status, allowed, refusedTarget, not_true_eq_false, and_self, iff_false]
      decide
    · -- admitted: answered by the stat of its path, with a served status
      rw [served₁] at served
      have served_status := answersServed_bind (fun path => answerStat_served _ req path now) a h₁ served
      have admitted := not_refused_of_ok valid
      simp only [servedStatuses, List.mem_cons, List.not_mem_nil, or_false] at served_status
      simp only [allowed, admitted, not_true_eq_false, and_false, iff_false]
      omega

end ChunkProxy.Handler
