import ChunkProxy.Handler.Serve
/-!
# Steps that leave the remembered stats alone

Reading through the caching view (`Vfs.openRead`, `Vfs.pull` and the chunk steps
under them) changes its chunk cache, its metrics and the state of its remote side,
the last through opens only.  Such a step is a `Vfs.Frame`: the remembered stats and
the directory-cache time stay, and a property of the remote state that every open
keeps (`Vfs.OpensKeep`) is kept.  Answering a file and reading an answer's body
change nothing of the handler but its view, and that by a frame (`Handler.Frame`).

`Leads rel s view out` says that a computation which may fault either faults or ends
in a state (`view` of its result) that `rel` relates to `s`.  It composes along
`bind` (`Leads.bind`), so each step is proved once and the reads are assembled from
the steps, following the shape of the code.

A run of a handler (`Handler.Run`) is a sequence of `Handler.Step`s: requests handled
and answers' bodies read, each at its own time, labelled by the request handled.
-/

namespace ChunkProxy

set_option autoImplicit false

open Remote

/-- A computation that may fault either faults or ends in a state, `view` of its
result, that `rel` relates to `s`. -/
def Leads {α β : Type} (rel : α → α → Prop) (s : α) (view : β → α) : Except Fault β → Prop
  | .error _ => True
  | .ok b => rel s (view b)

section Leads

variable {α β γ : Type} {rel : α → α → Prop} {s : α}

theorem leads_ok {view : β → α} {b : β} : Leads rel s view (.ok b) ↔ rel s (view b) := Iff.rfl

/-- A step that keeps `s` as it is leads from `s` when `rel` is reflexive. -/
theorem Leads.stay (refl : rel s s) (x : Except Fault β) : Leads rel s (fun _ => s) x := by
  cases x with
  | error _ => trivial
  | ok _ => exact refl

/-- What leads by a relation leads by every weaker one. -/
theorem Leads.mono {rel' : α → α → Prop} (weaker : ∀ {a b}, rel a b → rel' a b) {view : β → α}
    {x : Except Fault β} (led : Leads rel s view x) : Leads rel' s view x := by
  cases x with
  | error _ => trivial
  | ok _ => exact weaker led

variable [Trans rel rel rel]

/-- A step led to from `s'`, which `s` leads to, leads from `s`. -/
theorem Leads.after {s' : α} {view : β → α} {x : Except Fault β} (first : rel s s')
    (rest : Leads rel s' view x) : Leads rel s view x := by
  cases x with
  | error _ => trivial
  | ok b =>
    have next : rel s' (view b) := rest
    show rel s (view b)
    exact Trans.trans first next

/-- Two steps one after the other: the second from the state the first ends in. -/
theorem Leads.bind {view : β → α} {view' : γ → α} {x : Except Fault β} {f : β → Except Fault γ}
    (first : Leads rel s view x) (rest : ∀ b, Leads rel (view b) view' (f b)) :
    Leads rel s view' (x >>= f) := by
  cases x with
  | error _ => trivial
  | ok b =>
    have step : rel s (view b) := first
    exact Leads.after step (rest b)

end Leads

namespace Vfs

section Frame

variable {σ : Type} {inv : σ → Prop} {v : Vfs σ}

/-- A step of the view that keeps the remembered stats and the directory-cache time, and keeps
the remote state within `inv`. -/
structure Frame (inv : σ → Prop) (v v' : Vfs σ) : Prop where
  statCache : v'.statCache = v.statCache
  dirCacheTime : v'.dirCacheTime = v.dirCacheTime
  remote : inv v.fs → inv v'.fs

theorem Frame.refl (v : Vfs σ) : Frame inv v v := ⟨rfl, rfl, id⟩

theorem Frame.trans {v' v'' : Vfs σ} (first : Frame inv v v') (second : Frame inv v' v'') :
    Frame inv v v'' :=
  ⟨second.statCache.trans first.statCache, second.dirCacheTime.trans first.dirCacheTime,
    second.remote ∘ first.remote⟩

instance : Trans (Frame inv) (Frame inv) (Frame inv) := ⟨Frame.trans⟩

/-- A change of the chunk cache alone is a frame. -/
theorem frame_cache (cache : Option Cache.Tiered) : Frame inv v { v with cache } := ⟨rfl, rfl, id⟩

/-- A change of the metrics alone is a frame. -/
theorem frame_record (f : Metrics → Metrics) : Frame inv v (v.record f) := ⟨rfl, rfl, id⟩

/-- Passing a chunk's result on keeps the view. -/
theorem deliver_leads (r : ChunkRead) (res : Except ProxyError (List UInt8))
    (rest : List (ChunkSpec × ChunkState)) (plan : ChunkPlan) :
    Leads (Frame inv) v (fun out => out.2.2) (pure (deliver r res rest plan v)) := by
  cases res <;> exact Frame.refl _

end Frame

variable {σ : Type} [RemoteFs σ] {inv : σ → Prop} {reg : Registry} {now : Nat} {v : Vfs σ}

/-- Every open of the remote side keeps its state within `inv`. -/
def OpensKeep (inv : σ → Prop) : Prop :=
  ∀ reg path headers st res st', inv st → RemoteFs.openFile reg path headers st = .ok (res, st') → inv st'

/-- Every open keeps the remote state within the trivial property. -/
theorem opensKeep_true : OpensKeep fun _ : σ => True := fun _ _ _ _ _ _ _ _ => trivial

/-- The state an open leaves is within `inv`, so the view over it is a frame. -/
theorem openFile_leads (keep : OpensKeep inv) (path : String) (headers : Http.Headers) :
    Leads (Frame inv) v (fun out => { v with fs := out.2 }) (RemoteFs.openFile reg path headers v.fs) := by
  cases opened : RemoteFs.openFile reg path headers v.fs with
  | error _ => trivial
  | ok out => exact ⟨rfl, rfl, fun at_inv => keep reg path headers v.fs out.1 out.2 at_inv opened⟩

section Reads

variable (keep : OpensKeep inv)
include keep

theorem download_leads (remote : String) (r : ByteRange) :
    Leads (Frame inv) v Prod.snd (v.download reg remote r) := by
  unfold download
  dsimp only
  refine Leads.bind (openFile_leads keep _ _) ?_
  rintro ⟨res, fs⟩
  cases res with
  | error _ => exact Frame.refl _
  | ok obj =>
    -- the length of the range is all that can fault; the metrics count what was read
    refine Leads.bind (Leads.stay (Frame.refl _) r.size) fun _ => ?_
    exact leads_ok.mpr ⟨rfl, rfl, id⟩

theorem fetchChunk_leads (remote cachePath : String) (c : ChunkSpec) :
    Leads (Frame inv) v Prod.snd (v.fetchChunk reg remote cachePath c now) := by
  unfold fetchChunk
  dsimp only
  refine Leads.after (frame_record Metrics.chunkMiss) ?_
  refine Leads.bind (download_leads keep _ _) ?_
  rintro ⟨res, v'⟩
  cases res with
  | error _ => exact Frame.refl _
  | ok data =>
    dsimp only
    cases v'.cache with
    | none =>
      simp only [pure_bind]
      exact Frame.refl _
    | some t =>
      -- storing the chunk changes only the chunk cache
      refine Leads.bind (Leads.stay (Frame.refl _) (t.store cachePath c.range data (Cache.ofEpochSecs now))) ?_
      rintro ⟨_, t'⟩
      simp only [pure_bind]
      exact leads_ok.mpr ⟨rfl, rfl, id⟩

theorem finishChunk_leads (remote cachePath : String) (c : ChunkSpec) :
    Leads (Frame inv) v Prod.snd (v.finishChunk reg remote cachePath c now) := by
  unfold finishChunk
  dsimp only
  cases v.cache with
  | none =>
    simp only [pure_bind]
    exact fetchChunk_leads keep _ _ _
  | some t =>
    -- the disk lookup changes only the chunk cache; a hit is counted, a miss fetched
    refine Leads.bind (Leads.stay (Frame.refl _) (t.lookupDisk cachePath c.range (Cache.ofEpochSecs now))) ?_
    rintro ⟨found, t'⟩
    simp only [pure_bind]
    refine Leads.after (frame_cache (some t')) ?_
    cases found with
    | some _ => exact frame_record _
    | none => exact fetchChunk_leads keep _ _ _

theorem firstLook_leads (remote cachePath : String) (c : ChunkSpec) :
    Leads (Frame inv) v Prod.snd (v.firstLook reg remote cachePath c now) := by
  unfold firstLook
  cases v.cache with
  | none =>
    refine Leads.bind (finishChunk_leads keep _ _ _) ?_
    rintro ⟨res, v'⟩
    exact Frame.refl _
  | some t =>
    dsimp only
    generalize t.lookupMemory cachePath c.range (Cache.ofEpochSecs now) = looked
    obtain ⟨hit, t'⟩ := looked
    dsimp only
    refine Leads.after (frame_cache (some t')) ?_
    cases hit with
    | some _ => exact frame_record _
    | none =>
      dsimp only
      split
      · exact Frame.refl _
      · refine Leads.bind (finishChunk_leads keep _ _ _) ?_
        rintro ⟨res, v'⟩
        exact Frame.refl _

theorem advance_leads (remote cachePath : String) (c : ChunkSpec) (st : ChunkState) :
    Leads (Frame inv) v Prod.snd (v.advance reg remote cachePath c now st) := by
  cases st with
  | waiting => exact firstLook_leads keep _ _ _
  | diskPending => exact Frame.refl _
  | ready _ => exact Frame.refl _

/-- Looking ahead takes first looks one chunk after another, each from the view the last
left: by induction on the window. -/
theorem lookAhead_leads (remote cachePath : String) (n : Nat) :
    ∀ (v : Vfs σ) (rest : List (ChunkSpec × ChunkState)) (plan : ChunkPlan),
      Leads (Frame inv) v (fun out => out.2.2) (v.lookAhead reg remote cachePath now n rest plan) := by
  induction n with
  | zero => intro v rest plan; exact Frame.refl _
  | succ n ih =>
    intro v rest plan
    cases rest with
    | cons head rest =>
      obtain ⟨c, st⟩ := head
      unfold lookAhead
      refine Leads.bind (advance_leads keep _ _ _ _) ?_
      rintro ⟨st', v'⟩
      exact Leads.bind (ih v' rest plan) fun _ => Frame.refl _
    | nil =>
      unfold lookAhead
      cases plan.next with
      | mk next plan' =>
        cases next with
        | none => exact Frame.refl _
        | some c =>
          refine Leads.bind (firstLook_leads keep _ _ _) ?_
          rintro ⟨st', v'⟩
          exact Leads.bind (ih v' [] plan') fun _ => Frame.refl _

theorem pull_leads (r : Reading) : Leads (Frame inv) v (fun out => out.2.2) (v.pull reg now r) := by
  cases r with
  | finished => exact Frame.refl _
  | direct pieces failure =>
    cases pieces with
    | nil => cases failure <;> exact Frame.refl _
    | cons _ _ => exact frame_record _
  | chunks r =>
    unfold pull
    dsimp only
    generalize r.current = current
    obtain ⟨current, plan⟩ := current
    cases current with
    | none => exact Frame.refl _
    | some started =>
      obtain ⟨⟨c, st⟩, rest⟩ := started
      cases st with
      | ready res => exact deliver_leads r res rest plan
      | diskPending =>
        refine Leads.bind (finishChunk_leads keep _ _ _) ?_
        rintro ⟨res, v₁⟩
        exact deliver_leads r res rest plan
      | waiting =>
        -- a chunk left waiting for the disk: the window is looked ahead, then the chunk finished
        refine Leads.bind (firstLook_leads keep _ _ _) ?_
        rintro ⟨st, v₁⟩
        dsimp only
        split
        · exact deliver_leads r _ rest plan
        · refine Leads.bind (lookAhead_leads keep _ _ _ _ _ _) ?_
          rintro ⟨rest₂, plan₂, v₂⟩
          refine Leads.bind (finishChunk_leads keep _ _ _) ?_
          rintro ⟨res, v₃⟩
          exact deliver_leads r res rest₂ plan₂

theorem openRead_leads (file : Fs.FileInfo) (range : Option ByteRange) :
    Leads (Frame inv) v Prod.snd (v.openRead reg file range) := by
  unfold openRead
  cases file.size with
  | none =>
    dsimp only
    split
    · exact Frame.refl _
    · refine Leads.bind (openFile_leads keep _ _) ?_
      rintro ⟨res, fs⟩
      cases res <;> exact Frame.refl _
  | some size =>
    dsimp only
    split <;> exact Frame.refl _

end Reads

end Vfs

namespace Handler

variable {σ : Type} {inv : σ → Prop} {h : Handler σ}

/-- A step of the handler that changes only its view, by a frame. -/
structure Frame (inv : σ → Prop) (h h' : Handler σ) : Prop where
  view : Vfs.Frame inv h.vfs h'.vfs
  rest : h' = { h with vfs := h'.vfs }

theorem Frame.refl (h : Handler σ) : Frame inv h h := ⟨Vfs.Frame.refl _, rfl⟩

theorem Frame.trans {h' h'' : Handler σ} (first : Frame inv h h') (second : Frame inv h' h'') :
    Frame inv h h'' :=
  ⟨first.view.trans second.view, by rw [second.rest, first.rest]⟩

instance : Trans (Frame inv) (Frame inv) (Frame inv) := ⟨Frame.trans⟩

theorem frame_view {v : Vfs σ} (framed : Vfs.Frame inv h.vfs v) : Frame inv h { h with vfs := v } :=
  ⟨framed, rfl⟩

/-- A view step that leads by a frame, taken by the handler, leads by a frame. -/
theorem leads_view {β : Type} {view : β → Vfs σ} {x : Except Fault β}
    (framed : Leads (Vfs.Frame inv) h.vfs view x) :
    Leads (Frame inv) h (fun b => { h with vfs := view b }) x := by
  cases x with
  | error _ => trivial
  | ok _ => exact frame_view framed

theorem frame_recordStat (r : StatResult) : Frame inv h (h.recordStat r) := frame_view (Vfs.frame_record _)

/-- Two handlers that differ at most in their views: the registry, the memo, the shard depth and
the mount path are the same. -/
def ViewOnly (h h' : Handler σ) : Prop := h' = { h with vfs := h'.vfs }

theorem ViewOnly.refl (h : Handler σ) : ViewOnly h h := rfl

theorem ViewOnly.trans {h' h'' : Handler σ} (first : ViewOnly h h') (second : ViewOnly h' h'') :
    ViewOnly h h'' := by
  unfold ViewOnly at *
  rw [second, first]

instance : Trans (ViewOnly (σ := σ)) ViewOnly ViewOnly := ⟨ViewOnly.trans⟩

theorem Frame.viewOnly {h' : Handler σ} (framed : Frame inv h h') : ViewOnly h h' := framed.rest

theorem recordStat_viewOnly (r : StatResult) : ViewOnly h (h.recordStat r) := rfl

/-- Any step that ends in a handler with another view leads to it by `ViewOnly`. -/
theorem leads_viewOnly {β : Type} (view : β → Vfs σ) (x : Except Fault β) :
    Leads ViewOnly h (fun b => { h with vfs := view b }) x := by
  cases x with
  | error _ => trivial
  | ok _ => rfl

section Answers

variable [RemoteFs σ]

variable (keep : Vfs.OpensKeep inv)
include keep

theorem streamContent_leads (info : Fs.FileInfo) (size : Nat) (headers : Http.Headers)
    (range : Option ByteRange) :
    Leads (Frame inv) h Prod.snd (h.streamContent info size headers range) := by
  unfold streamContent
  refine Leads.bind (leads_view (Vfs.openRead_leads keep _ _)) ?_
  rintro ⟨res, vfs⟩
  cases res with
  | error _ => exact Frame.refl _
  | ok _ =>
    cases range with
    | none => exact Frame.refl _
    | some r => exact Leads.bind (Leads.stay (Frame.refl _) r.size) fun _ => Frame.refl _

theorem serveKnown_leads (req : Request) (info : Fs.FileInfo) (size : Nat) (headers : Http.Headers) :
    Leads (Frame inv) h Prod.snd (h.serveKnown req info size headers) := by
  unfold serveKnown
  split
  · exact streamContent_leads keep _ _ _ _
  · exact streamContent_leads keep _ _ _ _
  all_goals exact Frame.refl _

theorem serveUnknown_leads (req : Request) (info : Fs.FileInfo) (headers : Http.Headers) :
    Leads (Frame inv) h Prod.snd (h.serveUnknown req info headers) := by
  unfold serveUnknown
  split
  · exact Frame.refl _
  · refine Leads.bind (leads_view (Vfs.openRead_leads keep _ _)) ?_
    rintro ⟨res, vfs⟩
    cases res <;> exact Frame.refl _

/-- Answering a file changes only the view, by a frame: whatever it answers, the
remembered stats stay. -/
theorem answerFile_leads (req : Request) (info : Fs.FileInfo) :
    Leads (Frame inv) h Prod.snd (h.answerFile req info) := by
  unfold answerFile
  refine Leads.bind (Leads.stay (Frame.refl _) (fileHeaders info)) fun headers => ?_
  split
  · exact Frame.refl _
  · cases info.size with
    | some size => exact serveKnown_leads keep _ _ _ _
    | none => exact serveUnknown_leads keep _ _ _

/-- Reading an answer's body pulls one piece after another, each from the view the last
left: by induction on the pieces the read can still give. -/
theorem receive_go_leads (maxBody now fuel : Nat) :
    ∀ (r : Reading) (h : Handler σ) (acc : List UInt8),
      Leads (Frame inv) h Prod.snd (receive.go maxBody now fuel r h acc) := by
  induction fuel with
  | zero => intro r h acc; exact Frame.refl _
  | succ fuel ih =>
    intro r h acc
    unfold receive.go
    split
    · refine Leads.bind (leads_view (Vfs.pull_leads keep _)) ?_
      rintro ⟨next, r', vfs⟩
      dsimp only
      split <;> exact Frame.refl _
    · refine Leads.bind (leads_view (Vfs.pull_leads keep _)) ?_
      rintro ⟨next, r', vfs⟩
      dsimp only
      split
      · exact Frame.refl _
      · exact Frame.refl _
      · split
        · exact Frame.refl _
        · exact ih _ _ _

theorem receive_leads (p : Payload) (maxBody now : Nat) :
    Leads (Frame inv) h Prod.snd (h.receive p maxBody now) := by
  cases p with
  | fixed _ => exact Frame.refl _
  | stream r => exact receive_go_leads keep _ _ _ _ _ _

end Answers

/-- Answering by a stat changes only the view: the stat, the count of its outcome, and the
answer of a file. -/
theorem answerStat_viewOnly [RemoteFs σ] (req : Request) (path : String) (now : Nat) :
    Leads ViewOnly h Prod.snd (h.answerStat req path now) := by
  unfold answerStat
  refine Leads.bind (leads_viewOnly Prod.snd _) ?_
  rintro ⟨res, vfs⟩
  dsimp only
  cases res with
  | ok node =>
    cases node with
    | dir _ _ => exact recordStat_viewOnly _
    | file info =>
      refine Leads.after (recordStat_viewOnly StatResult.found) ?_
      exact Leads.mono Frame.viewOnly (answerFile_leads Vfs.opensKeep_true req info)
  | error e =>
    dsimp only
    split
    · exact recordStat_viewOnly _
    · split
      · exact recordStat_viewOnly _
      · exact recordStat_viewOnly _

variable [RemoteFs σ]

/-- A handled request is served, then its status counted in the view's metrics. -/
theorem handle_ok {req : Request} {now : Nat} {a : Answer} {h' : Handler σ}
    (handled : h.handle req now = .ok (a, h')) :
    ∃ h₁, h.serve req now = .ok (a, h₁) ∧ h' = { h₁ with vfs := h₁.vfs.record (·.recordRequest a.status 0) } := by
  unfold handle at handled
  cases served : h.serve req now with
  | error _ => rw [served] at handled; cases handled
  | ok out =>
    obtain ⟨a₁, h₁⟩ := out
    rw [served] at handled
    cases handled
    exact ⟨h₁, rfl, rfl⟩

/-- How a request is served: a method other than GET and HEAD gets 405, a target that cannot
be read gets 400, both with the handler unchanged; otherwise the target is registered, and the
answer is that of the stat of its key's sharded path. -/
theorem serve_cases (req : Request) (now : Nat) :
    (¬ (req.method = "GET" ∨ req.method = "HEAD") ∧ ∃ a, h.serve req now = .ok (a, h) ∧ a.status = 405) ∨
    ((req.method = "GET" ∨ req.method = "HEAD") ∧ ∃ e, targetUrl h.mountPath req.target = .error e ∧
      ∃ a, h.serve req now = .ok (a, h) ∧ a.status = 400) ∨
    ((req.method = "GET" ∨ req.method = "HEAD") ∧ ∃ target, targetUrl h.mountPath req.target = .ok target ∧
      h.serve req now = Key.shardedPath (h.registerTarget req target now).1 h.shardLevel >>=
        fun path => (h.registerTarget req target now).2.answerStat req path now) := by
  unfold serve
  by_cases allowed : req.method = "GET" ∨ req.method = "HEAD"
  · have admitted : (req.method != "GET" && req.method != "HEAD") = false := by
      rcases allowed with named | named <;> simp [named]
    rw [if_neg (by simp [admitted])]
    cases valid : targetUrl h.mountPath req.target with
    | error e => exact .inr (.inl ⟨allowed, e, rfl, _, rfl, rfl⟩)
    | ok target => exact .inr (.inr ⟨allowed, target, rfl, rfl⟩)
  · have refused : (req.method != "GET" && req.method != "HEAD") = true := by
      simp only [not_or] at allowed
      simp [allowed.1, allowed.2]
    rw [if_pos refused]
    exact .inl ⟨allowed, _, rfl, rfl⟩

/-- One step of a run of a handler: a request handled at a time, labelled with the request and
the time, or an answer's body read, labelled `none`. -/
inductive Step : Option (Request × Nat) → Handler σ → Handler σ → Prop
  | handle {h h' : Handler σ} {req : Request} {now : Nat} {a : Answer} :
      h.handle req now = .ok (a, h') → Step (some (req, now)) h h'
  | receive {h h' : Handler σ} {p : Payload} {maxBody now : Nat} {got : Received} :
      h.receive p maxBody now = .ok (got, h') → Step none h h'

/-- A run of a handler: its steps one after another, with their labels in order. -/
inductive Run : Handler σ → List (Option (Request × Nat)) → Handler σ → Prop
  | nil (h : Handler σ) : Run h [] h
  | snoc {h h' h'' : Handler σ} {labels : List (Option (Request × Nat))} {label : Option (Request × Nat)} :
      Run h labels h' → Step label h' h'' → Run h (labels ++ [label]) h''

end Handler

end ChunkProxy
