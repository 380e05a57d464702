import ChunkProxy.Proofs.ViewFrame
import ChunkProxy.Proofs.StatMemo
import ChunkProxy.Proofs.ShardLeaf
import ChunkProxy.Proofs.PacerCall
import ChunkProxy.Proofs.RegistryHistory
import ChunkProxy.Remote.Link
/-!
# Every admitted request finds its entry

A handler over the file system of registered URLs (`Remote.LinkFs`) registers the key
of every GET or HEAD request's target, then stats the key's sharded path.  That stat
finds the entry just registered: the file system names a registered object by the leaf
of the cleaned path, and the leaf is the key (`Key.leafName_cleanDir_shardedPath`).
So the stat never answers "not registered" and never "not a file".  It finds the file,
or the file's resolution fails with an error that is answered 404 (`FailedResolution`),
never 500.

Three facts are kept along every run (`Handler.Ready`):

* every remembered stat is of a file (`Vfs.FilesOnly`), because stats are remembered
  only of registered keys, which resolve to files or fail;
* every remembered key is the key of its URL, hence 32 hexadecimal digits;
* the pacer's policy stays as configured.

The count of attempts the policy allows must fit a 64-bit word.  With a budget of
`2^64 - 1` retries, the first retry of a failed resolution faults
(`Pacer.call_stops_or_overflows`), and the request then gets no answer at all.

The main statement is `admitted_request_finds_its_entry`.  It holds for every run of a
handler built by `Handler.create` over a view built by `Vfs.create`, at every shard
depth whose doubling fits a word, and at every directory-cache time.
-/

namespace ChunkProxy

set_option autoImplicit false

open Fs Remote

/-- An error that a failed resolution gives: not "not found", and answered as a 404. -/
def FailedResolution (e : ProxyError) : Prop := e.isNotFound = false ∧ e.httpStatus = 404

/-- What the stat of a registered key's path gives: the file, or a failed resolution. -/
def FileOrFailed (res : Except ProxyError Node) : Prop :=
  (∃ info, res = .ok (.file info)) ∨ ∃ e, res = .error e ∧ FailedResolution e

namespace Remote

/-- Metadata is refused only for a status other than 200 or 206, or an unknown size. -/
theorem metadataOf_failed {r : Response} {now : Int} {e : ProxyError} (refused : metadataOf r now = .error e) :
    FailedResolution e := by
  unfold metadataOf at refused
  split at refused
  · cases refused
    exact ⟨rfl, rfl⟩
  · split at refused
    · cases refused
      exact ⟨rfl, rfl⟩
    · cases refused

/-- While the count of attempts its pacer allows fits a word, a resolution returns, keeps the
policy, and fails only as a resolution fails. -/
theorem resolve_answers (net : Network) (pacer : Pacer) (entry : RegistryEntry) (now : Int)
    (fits : pacer.policy.maxRetries + 1 < wordBound) :
    ∃ res pacer', resolve net pacer entry now = .ok (res, pacer') ∧ pacer'.policy = pacer.policy ∧
      ∀ e, res = .error e → FailedResolution e := by
  obtain ⟨c, q, called⟩ := Pacer.call_ok (probeAttempt net.upstream entry) retryableOutcome pacer () fits
  have kept : q.policy = pacer.policy := Pacer.callFrom_policy _ _ _ _ _ _ _ _ called
  have resolved : resolve net pacer entry now = .ok (probeAnswer entry now c.outcome, q) := by
    unfold resolve resolveFrom
    rw [called]
    rfl
  refine ⟨_, q, resolved, kept, ?_⟩
  -- the last attempt's outcome: a failure to get an answer, or an answer
  cases c.outcome with
  | error f =>
    rintro e ⟨⟩
    exact ⟨rfl, rfl⟩
  | ok r => exact fun e refused => metadataOf_failed refused

namespace LinkFs

/-- The stat of a path whose leaf is registered returns, keeps the pacer's policy, and fails
only as a resolution fails. -/
theorem stat_registered {reg : Registry} {path : String} {entry : RegistryEntry} (now : Int) (fs : LinkFs)
    (registered : reg.lookup (leafName path) = some entry) (fits : fs.pacer.policy.maxRetries + 1 < wordBound) :
    ∃ res fs', stat reg path now fs = .ok (res, fs') ∧ fs'.pacer.policy = fs.pacer.policy ∧
      ∀ e, res = .error e → FailedResolution e := by
  unfold stat
  dsimp only
  rw [registered]
  dsimp only
  cases entry.known with
  | some known => exact ⟨_, fs, rfl, rfl, fun e none => by cases none⟩
  | none =>
    obtain ⟨res, pacer', resolved, kept, failed⟩ := resolve_answers fs.network fs.pacer entry now fits
    rw [resolved]
    cases res with
    | ok m => exact ⟨_, _, rfl, kept, fun e none => by cases none⟩
    | error e => exact ⟨_, _, rfl, kept, fun e' same => by cases same; exact failed e rfl⟩

/-- An open keeps the pacer's policy. -/
theorem openFile_policy {reg : Registry} {path : String} {overrides : Http.Headers} {fs fs' : LinkFs}
    {res : Except ProxyError RemoteObject} (opened : openFile reg path overrides fs = .ok (res, fs')) :
    fs'.pacer.policy = fs.pacer.policy := by
  unfold openFile at opened
  dsimp only at opened
  split at opened
  · cases opened
    rfl
  · simp only [bind, Except.bind] at opened
    split at opened
    · cases opened
    · rename_i out called
      have kept := Pacer.callFrom_policy _ _ _ _ _ _ _ _ called
      split at opened
      · cases opened
        exact kept
      · split at opened <;> cases opened <;> exact kept

end LinkFs

/-- Every open of the file system of registered URLs keeps the pacer's policy. -/
theorem opensKeep_policy (policy : RetryPolicy) :
    Vfs.OpensKeep fun fs : LinkFs => fs.pacer.policy = policy := by
  intro reg path headers st res st' same opened
  rw [LinkFs.openFile_policy opened, same]

end Remote

namespace Vfs

variable {σ : Type}

/-- Every remembered stat is of a file. -/
def FilesOnly (v : Vfs σ) : Prop := ∀ e ∈ v.statCache, e.2.2.file?.isSome

/-- A stat the memo answers is of a file. -/
theorem FilesOnly.memoHit {v : Vfs σ} (files : FilesOnly v) {p : String} {now : Nat} {n : Node}
    (hit : v.memoHit? p now = some n) : ∃ info, n = .file info := by
  obtain ⟨-, t, mem, -⟩ := mem_of_memoHit? v hit
  have file := files _ mem
  cases n with
  | file info => exact ⟨info, rfl⟩
  | dir _ _ => cases file

theorem FilesOnly.staleDropped {v : Vfs σ} (files : FilesOnly v) (p : String) : FilesOnly (v.staleDropped p) :=
  fun e mem => files e (mem_staleDropped mem)

/-- Remembering what a stat found, when it is a file or nothing was found, keeps only files. -/
theorem FilesOnly.afterFetch {w : Vfs σ} (files : FilesOnly w) (p : String) (now : Nat) {res : Except ProxyError Node}
    (found : FileOrFailed res) : FilesOnly (afterFetch p now res w) := by
  intro e mem
  rcases mem_afterFetch mem with old | ⟨n, rfl, rfl, -⟩
  · exact files e old
  · obtain ⟨info, found⟩ | ⟨_, failed, -⟩ := found
    · cases found
      rfl
    · cases failed

theorem FilesOnly.frame {inv : σ → Prop} {v v' : Vfs σ} (files : FilesOnly v) (framed : Frame inv v v') :
    FilesOnly v' := by
  unfold FilesOnly
  rw [framed.statCache]
  exact files

/-- The stat of a path whose cleaned leaf is registered, through a view remembering only
files, gives the file or a failed resolution; it remembers only files and keeps the pacer's
policy. -/
theorem stat_registered {v : Vfs LinkFs} {reg : Registry} {path : String} {entry : RegistryEntry} (now : Nat)
    (files : FilesOnly v) (registered : reg.lookup (leafName (cleanDir path)) = some entry)
    (fits : v.fs.pacer.policy.maxRetries + 1 < wordBound) :
    ∃ res v', v.stat reg path now = .ok (res, v') ∧ FileOrFailed res ∧ FilesOnly v' ∧
      v'.fs.pacer.policy = v.fs.pacer.policy := by
  obtain ⟨res, fs', statted, kept, failed⟩ := LinkFs.stat_registered now v.fs registered fits
  -- what the file system answers, asked from any view over it
  have fetched : ∀ u : Vfs LinkFs, u.fs = v.fs →
      ∃ res', u.fetchStat reg (cleanDir path) now = .ok (res', { u with fs := fs' }) ∧ FileOrFailed res' := by
    intro u same
    have asked : RemoteFs.stat reg (cleanDir path) now u.fs = .ok (res, fs') := by
      rw [same]
      exact statted
    unfold fetchStat
    simp only [asked, bind, Except.bind, pure, Except.pure]
    cases res with
    | ok info => exact ⟨_, rfl, .inl ⟨info, rfl⟩⟩
    | error e =>
      obtain ⟨found, notFound⟩ := failed e rfl
      dsimp only
      rw [if_neg (by simp [found])]
      exact ⟨_, rfl, .inr ⟨e, rfl, found, notFound⟩⟩
  cases hit : v.memoHit? (cleanDir path) now with
  | some n =>
    obtain ⟨info, rfl⟩ := files.memoHit hit
    exact ⟨_, v, stat_of_memoHit hit, .inl ⟨info, rfl⟩, files, rfl⟩
  | none =>
    obtain ⟨res', asked, found⟩ := fetched (v.staleDropped (cleanDir path)) (staleDropped_fs v _)
    rw [stat_of_miss hit, asked]
    -- the fetch changed only the file system, so the memo still holds files only
    have dropped : FilesOnly { v.staleDropped (cleanDir path) with fs := fs' } := files.staleDropped _
    refine ⟨res', _, rfl, found, dropped.afterFetch (cleanDir path) now found, ?_⟩
    rw [afterFetch_fs]
    exact kept

section Create

variable {σ : Type}

/-- A view just created remembers no stat and reads through the file system it was given. -/
theorem create_fresh {fs : σ} {c : Config.CacheConfig} {metrics : Option Metrics} {disk : Cache.Disk}
    {base : List String} {baseText : String} {v : Vfs σ}
    (built : create fs c metrics disk base baseText = .ok v) : v.fs = fs ∧ v.statCache = [] := by
  unfold create at built
  split at built
  · -- caching: the chunk cache opens, or the view is not made
    simp only [bind, Except.bind] at built
    split at built
    · cases built
    · cases built
      exact ⟨rfl, rfl⟩
  · cases built
    exact ⟨rfl, rfl⟩

end Create

end Vfs

namespace Key.Memo

/-- A memo that remembers only keys of their URLs gives a target its key, and still remembers
only such keys after it. -/
theorem keyOf_sound {m : Memo} {dropQuery dropOrigin : Bool} (query : m.dropQuery = dropQuery)
    (origin : m.dropOrigin = dropOrigin)
    (sound : ∀ raw k, m.entries.lookup raw = some k → k = compute raw dropQuery dropOrigin) (target : String) :
    (m.keyOf target).1 = compute target dropQuery dropOrigin ∧ (m.keyOf target).2.dropQuery = dropQuery ∧
      (m.keyOf target).2.dropOrigin = dropOrigin ∧
      ∀ raw k, (m.keyOf target).2.entries.lookup raw = some k → k = compute raw dropQuery dropOrigin := by
  unfold keyOf
  cases remembered : m.entries.lookup target with
  | some k => exact ⟨sound target k remembered, query, origin, sound⟩
  | none =>
    subst query origin
    refine ⟨rfl, rfl, rfl, fun raw k found => ?_⟩
    rw [List.lookup_cons] at found
    split at found
    · rename_i same
      cases found
      rw [beq_iff_eq.mp same]
    · exact sound raw k found

end Key.Memo

namespace Handler

variable {config : Config.ProxyConfig} {policy : RetryPolicy} {h : Handler LinkFs}

/-- A handler over registered URLs in the shape every run keeps: it remembers only stats of
files and only keys of their URLs under the configured switches, and its shard depth, mount
path and pacer's policy are as configured. -/
structure Ready (config : Config.ProxyConfig) (policy : RetryPolicy) (h : Handler LinkFs) : Prop where
  files : Vfs.FilesOnly h.vfs
  keys : ∀ raw k, h.memo.entries.lookup raw = some k → k = Key.compute raw config.stripQuery config.stripDomain
  dropQuery : h.memo.dropQuery = config.stripQuery
  dropOrigin : h.memo.dropOrigin = config.stripDomain
  shardLevel : h.shardLevel = config.shardLevel
  mountPath : h.mountPath = config.normalizedMountPath
  paced : h.vfs.fs.pacer.policy = policy

/-- A handler just created over a view just created is ready. -/
theorem ready_create {fs : LinkFs} {metrics : Option Metrics} {disk : Cache.Disk} {base : List String}
    {baseText : String} {vfs : Vfs LinkFs} (reg : Registry)
    (built : Vfs.create fs config.cache metrics disk base baseText = .ok vfs) :
    Ready config fs.pacer.policy (create vfs reg config) := by
  obtain ⟨same, fresh⟩ := Vfs.create_fresh built
  refine ⟨?_, (fun raw k absent => by cases absent), rfl, rfl, rfl, rfl, congrArg (·.pacer.policy) same⟩
  intro e remembered
  simp [create, fresh] at remembered

/-- A step that changes only the view, by a frame that keeps the policy, keeps a handler ready. -/
theorem Ready.frame {h' : Handler LinkFs} (ready : Ready config policy h)
    (framed : Frame (fun fs : LinkFs => fs.pacer.policy = policy) h h') : Ready config policy h' := by
  rw [framed.rest]
  exact { ready with files := ready.files.frame framed.view, paced := framed.view.remote ready.paced }

/-- Registering a target gives the target's key, registers it, and keeps the handler ready. -/
theorem Ready.registerTarget (ready : Ready config policy h) (req : Request) (target : String) (now : Nat) :
    (h.registerTarget req target now).1 = Key.compute target config.stripQuery config.stripDomain ∧
      ((h.registerTarget req target now).2.registry.lookup (h.registerTarget req target now).1).isSome ∧
      Ready config policy (h.registerTarget req target now).2 := by
  have remembered := Key.Memo.keyOf_sound ready.dropQuery ready.dropOrigin ready.keys target
  unfold Handler.registerTarget
  generalize h.memo.keyOf target = out at remembered ⊢
  obtain ⟨key, memo⟩ := out
  obtain ⟨rfl, query, origin, keys⟩ := remembered
  refine ⟨rfl, ?_, ?_⟩
  · dsimp only
    split <;> simp [Registry.register_lookup, Registry.registerWithSize_lookup]
  · exact { ready with keys, dropQuery := query, dropOrigin := origin }

/-- Answering by the stat of a path whose cleaned leaf is registered: the file is found, or its
resolution fails and the answer is 404 "File not found"; the handler stays ready. -/
theorem Ready.answerStat (ready : Ready config policy h) (fits : policy.maxRetries + 1 < wordBound)
    {req : Request} {path : String} {now : Nat} {entry : RegistryEntry}
    (registered : h.registry.lookup (leafName (cleanDir path)) = some entry) :
    ∃ h₂, Ready config policy h₂ ∧ h₂.registry = h.registry ∧
      ((∃ info, h.answerStat req path now = (h₂.recordStat .found).answerFile req info) ∨
        h.answerStat req path now = .ok (.ofReply (errorReply 404 "File not found"), h₂.recordStat .resolveFailed)) := by
  obtain ⟨res, v', statted, outcome, files, kept⟩ :=
    Vfs.stat_registered now ready.files registered (by rw [ready.paced]; exact fits)
  refine ⟨{ h with vfs := v' }, { ready with files, paced := kept.trans ready.paced }, rfl, ?_⟩
  unfold Handler.answerStat
  rw [statted]
  rcases outcome with ⟨info, rfl⟩ | ⟨e, rfl, notFound, status⟩
  · exact .inl ⟨info, rfl⟩
  · right
    simp only [bind, Except.bind, notFound, status, Bool.false_eq_true, if_false, beq_self_eq_true, if_true]
    rfl

/-- A GET or HEAD of a usable target, served by a ready handler: the target's key is registered,
and the stat of its sharded path finds the file or fails to resolve it (404). -/
theorem Ready.serve_admitted (ready : Ready config policy h) (fits : policy.maxRetries + 1 < wordBound)
    (shallow : 2 * config.shardLevel < wordBound) {req : Request} {target : String} {now : Nat}
    (admitted : h.serve req now = Key.shardedPath (h.registerTarget req target now).1 h.shardLevel >>=
      fun path => (h.registerTarget req target now).2.answerStat req path now) :
    ∃ entry h₂, Ready config policy h₂ ∧
      h₂.registry.lookup (Key.compute target config.stripQuery config.stripDomain) = some entry ∧
      ((∃ info, h.serve req now = (h₂.recordStat .found).answerFile req info) ∨
        h.serve req now = .ok (.ofReply (errorReply 404 "File not found"), h₂.recordStat .resolveFailed)) := by
  obtain ⟨keyed, registered, ready₁⟩ := ready.registerTarget req target now
  obtain ⟨entry, found⟩ := Option.isSome_iff_exists.mp registered
  have deep : 2 * h.shardLevel < wordBound := by
    rw [ready.shardLevel]
    exact shallow
  obtain ⟨p, sharded, leaf⟩ :=
    Key.leafName_cleanDir_shardedPath (Key.hexKey_compute target config.stripQuery config.stripDomain) deep
  rw [keyed] at found
  have atLeaf : (h.registerTarget req target now).2.registry.lookup (leafName (cleanDir p)) = some entry := by
    rw [leaf, found]
  obtain ⟨h₂, ready₂, sameRegistry, outcome⟩ := ready₁.answerStat fits atLeaf
  refine ⟨entry, h₂, ready₂, by rw [sameRegistry, found], ?_⟩
  rw [admitted, keyed, sharded]
  exact outcome

/-- Handling a request keeps a handler ready. -/
theorem Ready.handle (ready : Ready config policy h) (fits : policy.maxRetries + 1 < wordBound)
    (shallow : 2 * config.shardLevel < wordBound) {req : Request} {now : Nat} {a : Answer} {h' : Handler LinkFs}
    (handled : h.handle req now = .ok (a, h')) : Ready config policy h' := by
  obtain ⟨h₁, served, rfl⟩ := handle_ok handled
  -- counting the status changes only the metrics
  suffices ready₁ : Ready config policy h₁ from ready₁.frame (frame_view (Vfs.frame_record _))
  rcases serve_cases (h := h) req now with ⟨-, _, refused, -⟩ | ⟨-, _, -, _, refused, -⟩ | ⟨-, target, -, admitted⟩
  · rw [refused] at served
    cases served
    exact ready
  · rw [refused] at served
    cases served
    exact ready
  · obtain ⟨entry, h₂, ready₂, -, outcome⟩ := ready.serve_admitted fits shallow admitted
    rcases outcome with ⟨info, found⟩ | failed
    · -- the file is answered, which changes only the view, by a frame
      have answered := answerFile_leads (h := h₂.recordStat .found) (Remote.opensKeep_policy policy) req info
      rw [← found, served] at answered
      exact (ready₂.frame (frame_recordStat _)).frame answered
    · rw [failed] at served
      cases served
      exact ready₂.frame (frame_recordStat _)

/-- Every step of a run keeps a handler ready. -/
theorem Ready.step (ready : Ready config policy h) (fits : policy.maxRetries + 1 < wordBound)
    (shallow : 2 * config.shardLevel < wordBound) {label : Option (Request × Nat)} {h' : Handler LinkFs}
    (step : Step label h h') : Ready config policy h' := by
  cases step with
  | handle handled => exact ready.handle fits shallow handled
  | @receive _ _ p maxBody now got received =>
    have read := receive_leads (h := h) (Remote.opensKeep_policy policy) p maxBody now
    rw [received] at read
    exact ready.frame read

/-- Every run keeps a handler ready: by induction on the run. -/
theorem Ready.run {h₀ : Handler LinkFs} {labels : List (Option (Request × Nat))}
    (ready : Ready config policy h₀) (fits : policy.maxRetries + 1 < wordBound)
    (shallow : 2 * config.shardLevel < wordBound) (ran : Run h₀ labels h) : Ready config policy h := by
  induction ran with
  | nil => exact ready
  | snoc _ step ih => exact ih.step fits shallow step

/-- Along every run of a handler created over the file system of registered URLs, a GET or HEAD
request gets 400 when its target cannot be read; otherwise its target's key is registered and
the stat of the key's sharded path finds the file, answered by `answerFile`, or fails to resolve
it, answered 404 "File not found" and counted as a failed resolution.  The stat is never
answered "not registered", "not a file" or 500.  This holds at every shard depth whose doubling
fits a word, and needs the count of attempts the pacer allows to fit a word. -/
theorem admitted_request_finds_its_entry {fs : LinkFs} {config : Config.ProxyConfig}
    {metrics : Option Metrics} {disk : Cache.Disk} {base : List String} {baseText : String}
    {vfs : Vfs LinkFs} {reg : Registry} {labels : List (Option (Request × Nat))} {h : Handler LinkFs}
    (built : Vfs.create fs config.cache metrics disk base baseText = .ok vfs)
    (fits : fs.pacer.policy.maxRetries + 1 < wordBound) (shallow : 2 * config.shardLevel < wordBound)
    (ran : Run (create vfs reg config) labels h) (req : Request) (now : Nat)
    (method : req.method = "GET" ∨ req.method = "HEAD") :
    (∃ e, targetUrl config.normalizedMountPath req.target = .error e ∧
      ∃ a, h.serve req now = .ok (a, h) ∧ a.status = 400) ∨
    ∃ (target : String) (entry : RegistryEntry) (h₂ : Handler LinkFs),
      targetUrl config.normalizedMountPath req.target = .ok target ∧
      h₂.registry.lookup (Key.compute target config.stripQuery config.stripDomain) = some entry ∧
      ((∃ info, h.serve req now = (h₂.recordStat .found).answerFile req info) ∨
        h.serve req now = .ok (.ofReply (errorReply 404 "File not found"), h₂.recordStat .resolveFailed)) := by
  have ready := (ready_create reg built).run fits shallow ran
  rw [← ready.mountPath]
  rcases serve_cases (h := h) req now with ⟨refused, -⟩ | ⟨-, unreadable⟩ | ⟨-, target, valid, admitted⟩
  · exact absurd method refused
  · exact .inl unreadable
  · obtain ⟨entry, h₂, -, registered, outcome⟩ := ready.serve_admitted fits shallow admitted
    exact .inr ⟨target, entry, h₂, valid, registered, outcome⟩

/-- The file system of registered URLs over the network of the recorded runs, at shard depth
1, trying each request once. -/
def quietLink : LinkFs :=
  { name := "link", network := unreachable, shardLevel := 1, pacer := Pacer.make (RetryPolicy.withSleep 0 0 0) }

/-- The default settings without caching. -/
def uncached : Config.ProxyConfig := { cache := { mode := .off } }

/-- The view `Vfs.create` opens over `quietLink` without caching, counting what it serves. -/
def quietView : Vfs LinkFs :=
  { fs := quietLink, cache := none, chunkSize := uncached.cache.chunkSize, chunkStreams := 2, dirCacheTime := 0,
    metrics := some {} }

/-- A GET of `http://[::1]/a`, named by its base64 path under the mount. -/
def loopbackGet : Request := { method := "GET", target := ⟨"/stream/aHR0cDovL1s6OjFdL2E", none⟩ }

/-- A fresh handler over `quietLink` serves a GET of `http://[::1]/a`, then serves it again.
The first GET registered the target under its key; the second finds that entry at the key's
sharded path, and, as the network is unreachable, its resolution fails: the answer is 404,
the second failed resolution counted. -/
theorem repeated_get_fails_resolution :
    Vfs.create quietLink uncached.cache (some {}) {} [] "" = .ok quietView ∧
    quietLink.pacer.policy.maxRetries + 1 < wordBound ∧ 2 * uncached.shardLevel < wordBound ∧
    loopbackGet.method = "GET" ∧
    ∃ h₁, Run (create quietView {} uncached) [some (loopbackGet, 0)] h₁ ∧
      h₁.registry.identifiers = ["c59df659642b114ecb6d16e241b6563e"] ∧
      ((∃ e, targetUrl uncached.normalizedMountPath loopbackGet.target = .error e ∧
          ∃ a, h₁.serve loopbackGet 1 = .ok (a, h₁) ∧ a.status = 400) ∨
        ∃ (target : String) (entry : RegistryEntry) (h₂ : Handler LinkFs),
          targetUrl uncached.normalizedMountPath loopbackGet.target = .ok target ∧
          h₂.registry.lookup (Key.compute target uncached.stripQuery uncached.stripDomain) = some entry ∧
          ((∃ info, h₁.serve loopbackGet 1 = (h₂.recordStat .found).answerFile loopbackGet info) ∨
            h₁.serve loopbackGet 1 =
              .ok (.ofReply (errorReply 404 "File not found"), h₂.recordStat .resolveFailed))) ∧
      (h₁.serve loopbackGet 1).toOption.map (fun r => (r.1.status, r.2.vfs.metrics.map (·.stats))) =
        some (404, some [("resolve_failed", 2)]) := by
  have built : Vfs.create quietLink uncached.cache (some {}) {} [] "" = .ok quietView := rfl
  -- both requests are evaluated by the kernel, the second on the handler the first leaves
  have registered : ((create quietView {} uncached).handle loopbackGet 0).toOption.map
      (·.2.registry.identifiers) = some ["c59df659642b114ecb6d16e241b6563e"] := by
    decide +kernel
  have answered : ((create quietView {} uncached).handle loopbackGet 0).toOption.bind (fun r =>
      (r.2.serve loopbackGet 1).toOption.map fun s => (s.1.status, s.2.vfs.metrics.map (·.stats))) =
        some (404, some [("resolve_failed", 2)]) := by
    decide +kernel
  cases handled : (create quietView {} uncached).handle loopbackGet 0 with
  | error e =>
    rw [handled] at registered
    cases registered
  | ok first =>
    obtain ⟨a, h₁⟩ := first
    rw [handled] at registered answered
    simp only [Except.toOption.eq_1, Option.map_some, Option.bind_some, Option.some.injEq] at registered answered
    have ran : Run (create quietView {} uncached) [some (loopbackGet, 0)] h₁ := .snoc (.nil _) (.handle handled)
    have fits : quietLink.pacer.policy.maxRetries + 1 < wordBound := by decide
    have shallow : 2 * uncached.shardLevel < wordBound := by decide
    have entry := admitted_request_finds_its_entry built fits shallow ran loopbackGet 1 (.inl rfl)
    exact ⟨built, fits, shallow, rfl, h₁, ran, registered, entry, answered⟩

end Handler

end ChunkProxy
