import ChunkProxy.Proofs.ReadContent
import ChunkProxy.Handler.Serve
/-!
# What the handler answers for a file

Once a stat finds a file, the handler answers from the file's headers alone for HEAD, and
otherwise by the file's size: a file of unknown size cannot be read by range (416), and a
file of known size is answered by its content plan (`planContent`).  This module proves that
the answer for a file of known size, whose content is `c`, is the one the plan calls for
(`Handler.Planned`):

* the whole file: 200, the file's headers with `Content-Length` the size, and a read that
  yields exactly `c`;
* a range: it lies inside the file, 206 with `Content-Range` naming it and the size, and
  `Content-Length` its length, which is the length of its bytes of `c` that the read yields;
* "not modified": 304 with an empty body and neither `Content-Length` nor `Content-Type`;
* a failed precondition, 412, and an unsatisfiable range, 416 naming the size;

and that only the first two start a read: every other answer, and every HEAD, leaves the
handler as it was.  That a read yields exactly the bytes asked for needs a remote side that
serves in full and a cache that holds only the file's bytes (`Proofs.ReadContent`); it faults
only when a chunk it stores would expire past the clock, which a time to live of `2^64 - 1`
seconds makes happen.

The ranges a Range header asks for lie inside the resource (`ByteRange.parseHeader_inside`),
because each spec is cut at the resource's last byte; so does the one range of a plan.
-/

namespace ChunkProxy.Http.Headers

set_option autoImplicit false

/-! ## Header maps -/

variable (h : Headers) (v : List UInt8)

/-- Removing a name's values hides that name and no other. -/
theorem get?_erase (n m : String) :
    (h.erase n).get? m = if normName m = normName n then none else h.get? m :=
  lookup_filter_ne _ _ _

/-- Putting a value in the place of the first entry of `n`, and dropping the later entries of
`n`, shows that value under `n` and changes nothing else. -/
theorem lookup_replace (n k : String) :
    ∀ l : List (String × List UInt8),
      (l.takeWhile (·.1 != n) ++ [(n, v)] ++ ((l.dropWhile (·.1 != n)).drop 1).filter (·.1 != n)).lookup k =
        if k = n then some v else l.lookup k
  | [] => by
    by_cases same : k = n <;> simp [same, List.lookup_cons, beq_false_of_ne]
  | (a, b) :: rest => by
    by_cases named : a = n
    · subst named
      simp only [List.takeWhile_cons, List.dropWhile_cons, bne_self_eq_false, Bool.false_eq_true,
        if_false, List.drop_one, List.tail_cons, List.nil_append, List.singleton_append]
      by_cases same : k = a
      · simp [same]
      · simp [same, List.lookup_cons, beq_false_of_ne same, lookup_filter_ne]
    · have kept : (a != n) = true := by simpa using named
      have ih := lookup_replace n k rest
      simp only [List.takeWhile_cons, List.dropWhile_cons, kept, if_true, List.cons_append]
      by_cases same : k = a
      · subst same
        simp [named]
      · simp only [List.lookup_cons, beq_false_of_ne same]
        exact ih

/-- Setting the value of a lowercase name shows that value under the name and changes
nothing else. -/
theorem get?_insert {n : String} (lower : normName n = n) (m : String) :
    (h.insert n v).get? m = if normName m = n then some v else h.get? m := by
  unfold insert
  simp only [lower]
  split
  · exact lookup_replace v n (normName m) h.entries
  · rename_i absent
    have none_n : h.entries.lookup n = none := by
      rw [← Option.not_isSome_iff_eq_none]
      simpa [contains, get?, lower] using absent
    simp only [get?, append, lower, List.lookup_append]
    split
    · rename_i named
      rw [named, none_n]
      simp
    · rename_i other
      cases h.entries.lookup (normName m) <;> simp [List.lookup_cons, beq_false_of_ne other]

theorem get?_insertText {n : String} (lower : normName n = n) (s m : String) :
    (h.insertText n s).get? m = if normName m = n then some (Utf8.encode s) else h.get? m :=
  h.get?_insert _ lower m

/-- The names the handler writes are lowercase already. -/
theorem normName_handler_names :
    ∀ n ∈ ["content-length", "content-range", "content-type", "accept-ranges", "last-modified"],
      normName n = n := by
  decide +kernel

end ChunkProxy.Http.Headers

namespace ChunkProxy

set_option autoImplicit false

open Http Remote

/-! ## The ranges a Range header asks for -/

/-- A fold in `Except` that succeeds ends in a state with every property its steps keep. -/
theorem foldlM_ok_invariant {α β ε : Type} (P : α → Prop) (f : α → β → Except ε α)
    (step : ∀ a b a', P a → f a b = .ok a' → P a') :
    ∀ (xs : List β) (a out : α), P a → xs.foldlM f a = .ok out → P out
  | [], a, out, held, folded => by
    simp only [List.foldlM_nil, pure, Except.pure, Except.ok.injEq] at folded
    exact folded ▸ held
  | x :: xs, a, out, held, folded => by
    simp only [List.foldlM_cons, bind, Except.bind] at folded
    cases next : f a x with
    | error e => rw [next] at folded; cases folded
    | ok a' =>
      rw [next] at folded
      exact foldlM_ok_invariant P f step xs a' out (step a x a' held next) folded

namespace ByteRange

/-- A spec reads as a range inside the resource, when it reads as one. -/
theorem readSpec_inside {size : Nat} {spec : String} {r : ByteRange}
    (read : readSpec size spec = .ok (some r)) : r.first ≤ r.last ∧ r.last < size := by
  unfold readSpec at read
  simp only [bind, Except.bind, pure, Except.pure, throw, throwThe, MonadExceptOf.throw] at read
  split at read
  · cases read
  split at read
  · -- `-n`: the last `min n size` bytes of a resource that has some
    split at read
    · cases read
    split at read
    · cases read
    rename_i nonzero
    simp only [Bool.or_eq_true, beq_iff_eq, not_or] at nonzero
    simp only [Except.ok.injEq, Option.some.injEq] at read
    subst read
    dsimp only
    omega
  · -- `a-` or `a-b`: from a start inside the resource to the end asked for, cut at its last byte
    split at read
    · cases read
    split at read
    · split at read
      · cases read
      simp only [Except.ok.injEq, Option.some.injEq] at read
      subst read
      simp only [Option.map_none, Option.getD_none]
      omega
    split at read
    · cases read
    split at read
    · cases read
    split at read
    · cases read
    simp only [Except.ok.injEq, Option.some.injEq] at read
    subst read
    simp only [Option.map_some, Option.getD_some]
    omega

/-- Every range a Range header asks for lies inside the resource. -/
theorem parseHeader_inside {header : String} {size : Nat} {ranges : List ByteRange}
    (parsed : parseHeader header size = .ok ranges) : ∀ r ∈ ranges, r.first ≤ r.last ∧ r.last < size := by
  unfold parseHeader at parsed
  simp only [bind, Except.bind, pure, Except.pure, throw, throwThe, MonadExceptOf.throw] at parsed
  split at parsed
  · split at parsed
    · cases parsed
    rename_i acc folded
    have inside : ∀ r ∈ acc.1, r.first ≤ r.last ∧ r.last < size := by
      refine foldlM_ok_invariant (fun acc : List ByteRange × Bool => ∀ r ∈ acc.1, r.first ≤ r.last ∧ r.last < size)
        _ ?_ _ _ _ (by simp) folded
      -- a spec adds the range it reads, or nothing
      intro acc spec acc' held stepped
      simp only [addSpec, bind, Except.bind, pure, Except.pure] at stepped
      split at stepped
      · simp only [Except.ok.injEq] at stepped
        exact stepped ▸ held
      split at stepped
      · cases stepped
      rename_i read
      split at stepped
      · simp only [Except.ok.injEq] at stepped
        subst stepped
        intro r' mem
        rcases List.mem_append.1 mem with old | new
        · exact held r' old
        · simp only [List.mem_singleton] at new
          exact new ▸ readSpec_inside read
      · simp only [Except.ok.injEq] at stepped
        exact stepped ▸ held
    split at parsed
    · split at parsed <;> cases parsed
    · simp only [Except.ok.injEq] at parsed
      exact parsed ▸ inside
  · cases parsed

end ByteRange

/-- The range a content plan answers with lies inside the file. -/
theorem planContent_slice_inside {hs : Headers} {size : Nat} {modTime : Int} {r : ByteRange}
    (planned : planContent hs size modTime = .slice r) : r.first ≤ r.last ∧ r.last < size := by
  unfold planContent at planned
  dsimp only at planned
  split_ifs at planned
  · -- an `If-Range` that does not match plans the whole file
    split at planned <;> cases planned
  · -- a Range header that reads as one range plans that range
    split at planned
    · cases planned
    split at planned
    · cases planned
    split at planned
    · rename_i parsed
      cases planned
      exact ByteRange.parseHeader_inside parsed r (List.mem_singleton_self r)
    · cases planned
    · cases planned

/-! ## The headers of a file -/

/-- The headers of a file of known size give that size as its length. -/
theorem fileHeaders_contentLength {info : Fs.FileInfo} {headers : Headers} {size : Nat}
    (dated : fileHeaders info = .ok headers) (sized : info.size = some size) :
    headers.get? "content-length" = some (Utf8.encode (showNat size)) := by
  unfold fileHeaders at dated
  simp only [sized, bind, Except.bind, pure, Except.pure] at dated
  split at dated
  · cases dated
  simp only [Except.ok.injEq] at dated
  subst dated
  -- a media type, when there is one, and the date come under other names
  split
  · split <;> simp [Headers.get?_insertText, Headers.normName_handler_names]
  · simp [Headers.get?_insertText, Headers.normName_handler_names]

/-! ## Bodies -/

section Bodies

variable {σ : Type} [RemoteFs σ]

/-- Drained through `v`, the read `rd` yields exactly `bytes`, without error, unless it faults
because a chunk it stores would expire past the clock. -/
def Vfs.DrainsTo (v : Vfs σ) (reg : Registry) (now : Nat) (rd : Reading) (bytes : List UInt8) : Prop :=
  (∀ f, v.drain reg now rd = .error f → f = Cache.timeOverflow ∧ ¬ v.TtlFits now) ∧
  ∀ pieces failure v', v.drain reg now rd = .ok (pieces, failure, v') → failure = none ∧ pieces.flatten = bytes

/-- A fresh read of the chunks planned for the bytes `range` of `c` yields them all, when the
remote side serves in full and the cache holds only bytes of `c` for the file. -/
theorem drainsTo_planned {reg : Registry} {remote path : String} {c : List UInt8} {inv : σ → Prop}
    (now : Nat) (agrees : Agrees reg remote c inv) (serves : Serves reg remote c inv)
    (word : c.length + Cache.expiryLength < wordBound) {v : Vfs σ} (keeps : v.Keeps c path inv)
    {range : Option ByteRange} {plan : ChunkPlan} (planned : ChunkPlan.make v.chunkSize c.length range = .ok plan)
    (ordered : ∀ r ∈ range, r.first ≤ r.last) :
    v.DrainsTo reg now (.chunks ⟨remote, path, [], plan⟩) (wantedBytes c range) := by
  obtain ⟨faults, ends⟩ := Vfs.drain_planned_read now agrees word keeps planned ordered
  refine ⟨faults, fun pieces failure v' drained => ?_⟩
  obtain ⟨-, -, whole, live, -⟩ := ends pieces failure v' drained
  have clean := live serves
  exact ⟨clean, whole clean⟩

end Bodies

/-! ## Answers -/

namespace Handler

variable {σ : Type} [RemoteFs σ]

/-- The answer a content plan calls for, for a file of content `c` whose headers are
`headers`, when each read it starts yields what `yields` says. -/
def Planned (c : List UInt8) (headers : Headers) (yields : Reading → List UInt8 → Prop) :
    ContentPlan → Answer → Prop
  | .full, a => a.status = 200 ∧ a.headers = headers ∧
      a.headers.get? "content-length" = some (Utf8.encode (showNat c.length)) ∧
      ∃ rd, a.payload = .stream rd ∧ yields rd c
  | .slice r, a => r.first ≤ r.last ∧ r.last < c.length ∧ a.status = 206 ∧
      a.headers.get? "content-range" = some (Utf8.encode (r.contentRange c.length)) ∧
      a.headers.get? "content-length" = some (Utf8.encode (showNat (r.last - r.first + 1))) ∧
      (r.bytesOf c).length = r.last - r.first + 1 ∧
      ∃ rd, a.payload = .stream rd ∧ yields rd (r.bytesOf c)
  | .notModified, a => a.status = 304 ∧ a.payload = .fixed {} ∧
      a.headers.get? "content-length" = none ∧ a.headers.get? "content-type" = none
  | .preconditionFailed, a => a.status = 412 ∧ ∃ b, a.payload = .fixed b
  | .unsatisfiable, a => a.status = 416 ∧
      a.headers.get? "content-range" = some (Utf8.encode ("bytes */" ++ showNat c.length)) ∧
      ∃ b, a.payload = .fixed b

/-- Streaming a whole file of known size answers 200 with the file's headers and a fresh read
of its planned chunks, and leaves the handler as it was. -/
theorem streamContent_whole (h : Handler σ) {info : Fs.FileInfo} {size : Nat} (headers : Headers)
    (sized : info.size = some size) {plan : ChunkPlan} (planned : ChunkPlan.make h.vfs.chunkSize size none = .ok plan) :
    h.streamContent info size headers none =
      .ok ({ status := 200, headers,
             payload := .stream (.chunks ⟨info.remote, Cache.versionPath info.remote size, [], plan⟩) }, h) := by
  simp only [streamContent, Vfs.openRead_known sized planned]
  rfl

/-- Streaming a range of a file of known size answers 206, naming the range and its length,
with a fresh read of its planned chunks, and leaves the handler as it was. -/
theorem streamContent_range (h : Handler σ) {info : Fs.FileInfo} {size : Nat} (headers : Headers)
    (sized : info.size = some size) {r : ByteRange} {plan : ChunkPlan}
    (planned : ChunkPlan.make h.vfs.chunkSize size (some r) = .ok plan) (ordered : r.first ≤ r.last)
    (small : r.last - r.first + 1 < wordBound) :
    h.streamContent info size headers (some r) =
      .ok ({ status := 206,
             headers := (headers.insertText "content-range" (r.contentRange size)).insertText "content-length"
               (showNat (r.last - r.first + 1)),
             payload := .stream (.chunks ⟨info.remote, Cache.versionPath info.remote size, [], plan⟩) }, h) := by
  have sized_range : r.size = .ok (r.last - r.first + 1) := by
    simp only [ByteRange.size]
    rw [if_neg (by omega), if_neg (by omega)]
  simp only [streamContent, Vfs.openRead_known sized planned, sized_range]
  rfl

/-- A file of known size, whose content is `c`, is answered as its content plan calls for, and
the handler is left as it was: a read starts only for the whole file or a range, and it yields
the bytes the answer names, when the remote side serves in full and the cache holds only bytes
of `c` for the file. -/
theorem serveKnown_planned (h : Handler σ) (req : Request) {info : Fs.FileInfo} {c : List UInt8}
    {headers : Headers} (now : Nat) {inv : σ → Prop} (sized : info.size = some c.length)
    (listed : headers.get? "content-length" = some (Utf8.encode (showNat c.length)))
    (word : c.length + Cache.expiryLength < wordBound) (agrees : Agrees h.registry info.remote c inv)
    (serves : Serves h.registry info.remote c inv) (keeps : h.vfs.Keeps c (Cache.versionPath info.remote c.length) inv) :
    ∃ a, h.serveKnown req info c.length headers = .ok (a, h) ∧
      Planned c headers (h.vfs.DrainsTo h.registry now) (planContent req.headers c.length info.modTime) a := by
  have lower := Headers.normName_handler_names
  unfold serveKnown
  generalize planned : planContent req.headers c.length info.modTime = plan
  cases plan with
  | full =>
    obtain ⟨plan, made⟩ : ∃ plan, ChunkPlan.make h.vfs.chunkSize c.length none = .ok plan :=
      ChunkPlan.make_ok _ _ (fun r mem => by cases mem)
    refine ⟨_, streamContent_whole h headers sized made, rfl, rfl, listed, _, rfl, ?_⟩
    exact drainsTo_planned now agrees serves word keeps made (fun r mem => by cases mem)
  | slice r =>
    obtain ⟨ordered, inside⟩ := planContent_slice_inside planned
    obtain ⟨plan, made⟩ : ∃ plan, ChunkPlan.make h.vfs.chunkSize c.length (some r) = .ok plan :=
      ChunkPlan.make_ok _ _ (fun r' mem => by cases mem; omega)
    refine ⟨_, streamContent_range h headers sized made ordered (by omega), ordered, inside, rfl, ?_, ?_, ?_, _, rfl,
      drainsTo_planned now agrees serves word keeps made (fun r' mem => by cases mem; exact ordered)⟩
    · simp [Headers.get?_insertText, lower]
    · simp [Headers.get?_insertText, lower]
    · show (segment c r.first (r.last + 1)).length = r.last - r.first + 1
      rw [length_segment c (by omega) (by omega)]
      omega
  | notModified =>
    refine ⟨_, rfl, rfl, rfl, ?_, ?_⟩ <;> simp [Headers.get?_erase, lower]
  | preconditionFailed => exact ⟨_, rfl, rfl, _, rfl⟩
  | unsatisfiable =>
    refine ⟨_, rfl, rfl, ?_, _, rfl⟩
    simp [Answer.ofReply, unsatisfiableReply, Headers.get?_insertText, lower]

/-- A Range header on a file of unknown size is refused, and nothing is read. -/
theorem serveUnknown_ranged (h : Handler σ) {req : Request} (info : Fs.FileInfo) (headers : Headers)
    (ranged : req.headers.contains "range" = true) :
    h.serveUnknown req info headers =
      .ok (.ofReply (errorReply 416 "Can\x27t use Range: on file with unknown length"), h) := by
  simp only [serveUnknown, ranged, if_true]
  rfl

section AnswerFile

variable (h : Handler σ) (req : Request) {info : Fs.FileInfo} {headers : Headers}
  (dated : fileHeaders info = .ok headers)

include dated

theorem answerFile_head (head : req.method = "HEAD") :
    h.answerFile req info = .ok ({ status := 200, headers }, h) := by
  simp only [answerFile, dated, bind, Except.bind, head]
  rfl

theorem answerFile_known (get : req.method ≠ "HEAD") {size : Nat} (sized : info.size = some size) :
    h.answerFile req info = h.serveKnown req info size headers := by
  simp only [answerFile, dated, bind, Except.bind, beq_iff_eq, get, if_false, sized]

theorem answerFile_unknown (get : req.method ≠ "HEAD") (unknown : info.size = none) :
    h.answerFile req info = h.serveUnknown req info headers := by
  simp only [answerFile, dated, bind, Except.bind, beq_iff_eq, get, if_false, unknown]

end AnswerFile

/-- Answering a found file.  For HEAD, the file's headers, an empty body, and nothing read.  For
a file of unknown size, a Range header is unsatisfiable, answered with a fixed body and nothing
read.  For a file of known size whose content is `c`, the answer its content plan calls for:
the whole file with its length, a range inside the file with its position and length, each
read yielding exactly those bytes unless a chunk it stores would expire past the clock; or 304
without length or media type, 412, or 416 naming the size, with nothing read.  The handler is
left as it was in every case. -/
theorem file_answer_follows_content_plan (h : Handler σ) (req : Request) (info : Fs.FileInfo) (headers : Headers)
    (dated : fileHeaders info = .ok headers) :
    (req.method = "HEAD" → h.answerFile req info = .ok ({ status := 200, headers }, h)) ∧
    (req.method ≠ "HEAD" → info.size = none → req.headers.contains "range" = true →
      ∃ a b, h.answerFile req info = .ok (a, h) ∧ a.status = 416 ∧ a.payload = .fixed b) ∧
    ∀ (c : List UInt8) (inv : σ → Prop) (now : Nat), req.method ≠ "HEAD" → info.size = some c.length →
      c.length + Cache.expiryLength < wordBound → Agrees h.registry info.remote c inv →
      Serves h.registry info.remote c inv → h.vfs.Keeps c (Cache.versionPath info.remote c.length) inv →
      ∃ a, h.answerFile req info = .ok (a, h) ∧
        Planned c headers (h.vfs.DrainsTo h.registry now) (planContent req.headers c.length info.modTime) a := by
  refine ⟨fun head => answerFile_head h req dated head, fun get unknown ranged => ?_,
    fun c inv now get sized word agrees serves keeps => ?_⟩
  · rw [answerFile_unknown h req dated get unknown]
    exact ⟨_, _, serveUnknown_ranged h info headers ranged, rfl, rfl⟩
  · rw [answerFile_known h req dated get sized]
    exact serveKnown_planned h req now sized (fileHeaders_contentLength dated sized) word agrees serves keeps

/-! ## Serving `tenBytes` -/

/-- A handler over `tenView ttl`. -/
def tenHandler (ttl : Nat) : Handler Table :=
  { vfs := tenView ttl, registry := tenRegistry, memo := Key.Memo.empty false false, shardLevel := 0,
    mountPath := "/" }

/-- The headers of `tenFile`: its length, ranges accepted, its media type, and a date at the
epoch. -/
def tenHeaders : Headers :=
  (((Headers.empty.insertText "content-length" "10").insertText "accept-ranges" "bytes").insertText
    "content-type" "text/plain").insertText "last-modified" "Thu, 01 Jan 1970 00:00:00 GMT"

theorem tenFile_headers : fileHeaders tenFile = .ok tenHeaders := by decide +kernel

/-- A GET of bytes 2 to 7. -/
def rangeGet : Request :=
  { method := "GET", target := ⟨"/f1", none⟩, headers := Headers.empty.insertText "range" "bytes=2-7" }

/-- A GET of the whole file. -/
def wholeGet : Request := { method := "GET", target := ⟨"/f1", none⟩ }

/-- The origin serves in full: every answer holds all of `tenBytes`. -/
theorem wholeOrigin_serves : Serves tenRegistry "f1" tenBytes (fun t : Table => t.objects = wholeOrigin.objects) := by
  intro t r res t' same opened
  obtain ⟨t'', opened', -⟩ := wholeOrigin_open same (rangeHeaders r)
  rw [opened'] at opened
  cases opened
  refine ⟨_, rfl, ?_⟩
  show tenBytes <+: Body.bytes (wholeObject.body tenBytes)
  decide

/-- A GET of bytes 2 to 7 of `tenBytes`, over an origin that sends everything, is answered as
its plan calls for. -/
theorem ranged_get_of_ten_bytes :
    fileHeaders tenFile = .ok tenHeaders ∧ rangeGet.method ≠ "HEAD" ∧ tenFile.size = some tenBytes.length ∧
    tenBytes.length + Cache.expiryLength < wordBound ∧
    Agrees tenRegistry "f1" tenBytes (fun t : Table => t.objects = wholeOrigin.objects) ∧
    Serves tenRegistry "f1" tenBytes (fun t : Table => t.objects = wholeOrigin.objects) ∧
    (tenView 60).Keeps tenBytes (Cache.versionPath "f1" 10) (fun t : Table => t.objects = wholeOrigin.objects) ∧
    ∃ a, (tenHandler 60).answerFile rangeGet tenFile = .ok (a, tenHandler 60) ∧
      Planned tenBytes tenHeaders ((tenHandler 60).vfs.DrainsTo (tenHandler 60).registry 0)
        (planContent rangeGet.headers tenBytes.length tenFile.modTime) a :=
  ⟨tenFile_headers, by decide, rfl, by decide, wholeOrigin_agrees, wholeOrigin_serves, tenView_keeps 60,
    (file_answer_follows_content_plan (tenHandler 60) rangeGet tenFile tenHeaders tenFile_headers).2.2 tenBytes _ 0
      (by decide) rfl (by decide) wholeOrigin_agrees wholeOrigin_serves (tenView_keeps 60)⟩

/-- With a time to live of `2^64 - 1` seconds a GET of all of `tenBytes` is answered 200, but
reading its body faults: the first chunk stored would expire past the clock. -/
theorem whole_get_body_faults_on_huge_ttl :
    ((tenHandler (wordBound - 1)).answerFile wholeGet tenFile).map (fun out => out.1.status) = .ok 200 ∧
    (((tenHandler (wordBound - 1)).answerFile wholeGet tenFile >>= fun out =>
      out.2.receive out.1.payload 100 0).map fun got => got.1.bytes) = .error Cache.timeOverflow :=
  ⟨by decide +kernel, by decide +kernel⟩

end Handler

end ChunkProxy
