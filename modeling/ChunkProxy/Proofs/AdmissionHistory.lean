import ChunkProxy.Proofs.ViewFrame
import ChunkProxy.Proofs.RegistryHistory
import ChunkProxy.Proofs.MemoInterleaving
import ChunkProxy.Proofs.StatRegistered
/-!
# What a handler's registry and memo hold after any run

Of the steps of a run (`Handler.Run`), only a GET or HEAD whose target can be read is
admitted (`admits`).  It remembers the target's key in the memo and registers the
target under that key, with the size the request states or plain, and with the
request's headers that may be replayed (`registration`).  Every other step, and
everything an admitted request does after registering, changes only the caching
view (`ViewOnly`).

So for its registry a run on a fresh handler is the history of its admitted
requests' registrations (`registrations`), and for its memo the list of their
targets (`admitted`).  `Tracks` is that invariant: `Tracks.step` keeps it over one
step and `Tracks.run` over a run.  From it, `run_registers_admitted_targets`: the
identifiers are the keys of the admitted targets, each once; each entry is the one
its history gives (`Registry.expectedEntry`: the latest registration with a size,
else the first); the key of a target is the digest of its normal form, so targets
of one normal form address one entry and one sharded path; and the memo remembers
each distinct admitted target once, digested once.
-/

namespace ChunkProxy.Handler

set_option autoImplicit false

open Remote

/-! ## The registrations of a run -/

/-- The target a handler mounted at `mount` admits from a request: that of a GET or HEAD
whose target can be read. -/
def admits (mount : String) (req : Request) : Option String :=
  if req.method = "GET" ∨ req.method = "HEAD" then (targetUrl mount req.target).toOption else none

/-- The registration of a target under a key at time `now`: with the size the request
states, else plain, with the request's headers that may be replayed. -/
def registration (req : Request) (key target : String) (now : Nat) : Registry.Timed :=
  (now, match sizeHint req.target req.headers with
    | some size => .registerWithSize key target (replayableHeaders req.headers) size
    | none => .register key target (replayableHeaders req.headers))

/-- The target a step of a run admits. -/
def stepTarget (mount : String) : Option (Request × Nat) → Option String
  | some (req, _) => admits mount req
  | none => none

/-- The registration a step of a run makes: that of its admitted target, under the
target's key. -/
def stepRegistration (mount : String) (dropQuery dropOrigin : Bool) :
    Option (Request × Nat) → Option Registry.Timed
  | some (req, now) =>
    (admits mount req).map fun target => registration req (Key.compute target dropQuery dropOrigin) target now
  | none => none

/-- The targets a run admits, in order. -/
def admitted (mount : String) (labels : List (Option (Request × Nat))) : List String :=
  labels.filterMap (stepTarget mount)

/-- The registrations a run makes, in order. -/
def registrations (mount : String) (dropQuery dropOrigin : Bool) (labels : List (Option (Request × Nat))) :
    List Registry.Timed :=
  labels.filterMap (stepRegistration mount dropQuery dropOrigin)

theorem admits_eq_some {mount : String} {req : Request} {target : String} :
    admits mount req = some target ↔
      (req.method = "GET" ∨ req.method = "HEAD") ∧ targetUrl mount req.target = .ok target := by
  unfold admits
  split
  · rename_i method
    cases targetUrl mount req.target <;> simp [Except.toOption, method]
  · rename_i refused
    simp [refused]

theorem registration_registers (req : Request) (key target : String) (now : Nat) (id : String) :
    (registration req key target now).2.registers id = (key == id) := by
  unfold registration
  split <;> rfl

theorem stepRegistration_of_refused {mount : String} (dropQuery dropOrigin : Bool) {label : Option (Request × Nat)}
    (refused : stepTarget mount label = none) : stepRegistration mount dropQuery dropOrigin label = none := by
  rcases label with _ | ⟨req, now⟩
  · rfl
  · simp only [stepTarget] at refused
    simp [stepRegistration, refused]

section Registrations

variable {mount : String} {dropQuery dropOrigin : Bool}

/-- A run registers an identifier exactly when it admits a target of that key. -/
theorem registered_registrations (labels : List (Option (Request × Nat))) (id : String) :
    Registry.registered (registrations mount dropQuery dropOrigin labels) id =
      (admitted mount labels).any (Key.compute · dropQuery dropOrigin == id) := by
  unfold Registry.registered registrations admitted
  rw [List.any_filterMap, List.any_filterMap]
  congr 1
  funext label
  rcases label with _ | ⟨req, now⟩
  · rfl
  · simp only [stepRegistration, stepTarget]
    cases admits mount req with
    | none => rfl
    | some target => exact registration_registers req _ target now id

end Registrations

/-! ## Registering a target -/

variable {σ : Type}

/-- Registering a target takes its key from the memo and applies the target's registration
under that key to the registry; the mount path and the shard depth stay. -/
theorem registerTarget_spec (h : Handler σ) (req : Request) (target : String) (now : Nat) :
    (h.registerTarget req target now).1 = (h.memo.keyOf target).1 ∧
      (h.registerTarget req target now).2.memo = (h.memo.keyOf target).2 ∧
      (h.registerTarget req target now).2.registry =
        ((registration req (h.memo.keyOf target).1 target now).2.apply now h.registry).2 ∧
      (h.registerTarget req target now).2.mountPath = h.mountPath ∧
      (h.registerTarget req target now).2.shardLevel = h.shardLevel := by
  unfold registerTarget registration
  generalize h.memo.keyOf target = out
  obtain ⟨key, memo⟩ := out
  refine ⟨rfl, rfl, ?_, rfl, rfl⟩
  cases sizeHint req.target req.headers <;> rfl

/-! ## The invariant of a run -/

/-- After the steps `labels`, a handler configured by `config` holds in its registry what
the run's registrations make, and in its memo the key of each admitted target; its
switches, mount path and shard depth are the configured ones. -/
structure Tracks (config : Config.ProxyConfig) (labels : List (Option (Request × Nat))) (h : Handler σ) :
    Prop where
  registry : Registry.Agrees h.registry
    (registrations config.normalizedMountPath config.stripQuery config.stripDomain labels)
  memo : Key.Memo.Holds (admitted config.normalizedMountPath labels) h.memo
  dropQuery : h.memo.dropQuery = config.stripQuery
  dropOrigin : h.memo.dropOrigin = config.stripDomain
  mountPath : h.mountPath = config.normalizedMountPath
  shardLevel : h.shardLevel = config.shardLevel

variable {config : Config.ProxyConfig} {labels : List (Option (Request × Nat))} {h : Handler σ}

theorem tracks_create (vfs : Vfs σ) : Tracks config [] (create vfs {} config) where
  registry := ⟨List.nodup_nil, fun _ => rfl⟩
  memo := Key.Memo.holds_empty _ _
  dropQuery := rfl
  dropOrigin := rfl
  mountPath := rfl
  shardLevel := rfl

theorem Tracks.viewOnly {h' : Handler σ} (tracks : Tracks config labels h) (only : ViewOnly h h') :
    Tracks config labels h' := by
  obtain ⟨registry, memo, dropQuery, dropOrigin, mountPath, shardLevel⟩ := tracks
  rw [only]
  exact ⟨registry, memo, dropQuery, dropOrigin, mountPath, shardLevel⟩

/-- A step that admits no target keeps the invariant, one step longer. -/
theorem Tracks.refuse (tracks : Tracks config labels h) {label : Option (Request × Nat)}
    (refused : stepTarget config.normalizedMountPath label = none) : Tracks config (labels ++ [label]) h := by
  have noRegistration := stepRegistration_of_refused config.stripQuery config.stripDomain refused
  refine ⟨?_, ?_, tracks.dropQuery, tracks.dropOrigin, tracks.mountPath, tracks.shardLevel⟩
  · simpa [registrations, noRegistration] using tracks.registry
  · simpa [admitted, refused] using tracks.memo

/-- Registering an admitted target keeps the invariant, one step longer, and gives the
target's key. -/
theorem Tracks.register (tracks : Tracks config labels h) {req : Request} {target : String} (now : Nat)
    (accepted : admits config.normalizedMountPath req = some target) :
    (h.registerTarget req target now).1 = Key.compute target config.stripQuery config.stripDomain ∧
      Tracks config (labels ++ [some (req, now)]) (h.registerTarget req target now).2 := by
  obtain ⟨key, memo, registry, mountPath, shardLevel⟩ := registerTarget_spec h req target now
  obtain ⟨computed, remembered, keepsQuery, keepsOrigin⟩ := tracks.memo.keyOf target
  rw [tracks.dropQuery, tracks.dropOrigin] at computed
  have made : registrations config.normalizedMountPath config.stripQuery config.stripDomain
      (labels ++ [some (req, now)]) =
      registrations config.normalizedMountPath config.stripQuery config.stripDomain labels ++
        [registration req (h.memo.keyOf target).1 target now] := by
    simp [registrations, stepRegistration, accepted, computed]
  have grown : admitted config.normalizedMountPath (labels ++ [some (req, now)]) =
      admitted config.normalizedMountPath labels ++ [target] := by
    simp [admitted, stepTarget, accepted]
  refine ⟨key.trans computed, ?_, ?_, ?_, ?_, ?_, ?_⟩
  · rw [registry, made]
    exact Registry.agrees_apply tracks.registry _ _
  · rw [memo, grown]
    exact remembered
  · rw [memo, keepsQuery, tracks.dropQuery]
  · rw [memo, keepsOrigin, tracks.dropOrigin]
  · rw [mountPath, tracks.mountPath]
  · rw [shardLevel, tracks.shardLevel]

/-! ## The identifiers after a run -/

/-- The identifiers are the keys of the admitted targets. -/
theorem Tracks.mem_identifiers (tracks : Tracks config labels h) (id : String) :
    id ∈ h.registry.identifiers ↔
      ∃ target ∈ admitted config.normalizedMountPath labels,
        Key.compute target config.stripQuery config.stripDomain = id := by
  have keys : id ∈ Registry.keys h.registry ↔ _ := Registry.mem_keys_of_agrees tracks.registry id
  simp only [registered_registrations, List.any_eq_true, beq_iff_eq] at keys
  rw [Registry.identifiers, List.mem_mergeSort]
  exact keys

theorem Tracks.nodup_identifiers (tracks : Tracks config labels h) : h.registry.identifiers.Nodup :=
  (List.mergeSort_perm _ _).nodup_iff.mpr tracks.registry.1

variable [RemoteFs σ]

/-- An admitted request is served at the sharded path of its target's key, at the
configured depth, by the handler that registered the target. -/
theorem Tracks.serve_admitted (tracks : Tracks config labels h) {req : Request} {target : String} (now : Nat)
    (accepted : admits config.normalizedMountPath req = some target) :
    h.serve req now = Key.shardedPath (Key.compute target config.stripQuery config.stripDomain) config.shardLevel >>=
      fun path => (h.registerTarget req target now).2.answerStat req path now := by
  obtain ⟨method, read⟩ := admits_eq_some.mp accepted
  rw [← tracks.mountPath] at read
  obtain ⟨key, -⟩ := tracks.register now accepted
  rcases serve_cases (h := h) req now with ⟨refused, -⟩ | ⟨-, e, bad, -⟩ | ⟨-, target', read', served⟩
  · exact absurd method refused
  · rw [read] at bad
    cases bad
  · rw [read] at read'
    cases read'
    rw [served, key, tracks.shardLevel]

/-- Handling a request keeps the invariant, one step longer. -/
theorem Tracks.handle (tracks : Tracks config labels h) {req : Request} {now : Nat} {a : Answer}
    {h' : Handler σ} (handled : h.handle req now = .ok (a, h')) :
    Tracks config (labels ++ [some (req, now)]) h' := by
  obtain ⟨h₁, served, rfl⟩ := handle_ok handled
  -- counting the status changes only the view
  suffices tracks₁ : Tracks config (labels ++ [some (req, now)]) h₁ from tracks₁.viewOnly rfl
  cases accepted : admits config.normalizedMountPath req with
  | none =>
    -- a refused request answers without touching the handler
    have kept : h₁ = h := by
      rcases serve_cases (h := h) req now with ⟨-, _, refused, -⟩ | ⟨-, _, -, _, refused, -⟩ |
        ⟨method, target, read, -⟩
      · rw [refused] at served
        cases served
        rfl
      · rw [refused] at served
        cases served
        rfl
      · rw [tracks.mountPath] at read
        have admitted := admits_eq_some.mpr ⟨method, read⟩
        rw [accepted] at admitted
        cases admitted
    rw [kept]
    exact tracks.refuse accepted
  | some target =>
    -- after registering, the stat and the answer change only the view
    have led : Leads ViewOnly (h.registerTarget req target now).2 Prod.snd (h.serve req now) := by
      rw [tracks.serve_admitted now accepted]
      exact Leads.bind (Leads.stay (ViewOnly.refl _) _) fun path => answerStat_viewOnly req path now
    rw [served] at led
    exact (tracks.register now accepted).2.viewOnly led

/-- Every step of a run keeps the invariant, one step longer. -/
theorem Tracks.step (tracks : Tracks config labels h) {label : Option (Request × Nat)} {h' : Handler σ}
    (step : Step label h h') : Tracks config (labels ++ [label]) h' := by
  cases step with
  | handle handled => exact tracks.handle handled
  | @receive _ _ p maxBody now got received =>
    -- reading a body changes only the view
    have read := receive_leads (h := h) Vfs.opensKeep_true p maxBody now
    rw [received] at read
    exact (tracks.refuse rfl).viewOnly (Frame.viewOnly read)

/-- Every run from a fresh handler keeps the invariant: by induction on the run. -/
theorem Tracks.run {vfs : Vfs σ} (ran : Run (create vfs {} config) labels h) : Tracks config labels h := by
  induction ran with
  | nil => exact tracks_create vfs
  | snoc _ step ih => exact ih.step step

/-- Along every run of a handler created with an empty registry: the registry's identifiers are
exactly the keys of the targets of the admitted requests (GET or HEAD with a target that can be
read), each once; the entry of an identifier is the one its registrations give, that is the
latest registration with a size, else the first; the key of a target is the digest of its
normal form, and an admitted request is served at the sharded path of that key, at the
configured depth, so that targets of one normal form share one entry and one path; and the
memo remembers the key of each distinct admitted target, one digest each. -/
theorem run_registers_admitted_targets {vfs : Vfs σ} {config : Config.ProxyConfig}
    {labels : List (Option (Request × Nat))} {h : Handler σ} (ran : Run (create vfs {} config) labels h) :
    (∀ id, id ∈ h.registry.identifiers ↔
      ∃ target ∈ admitted config.normalizedMountPath labels,
        Key.compute target config.stripQuery config.stripDomain = id) ∧
    h.registry.identifiers.Nodup ∧
    (∀ id, h.registry.lookup id =
      Registry.expectedEntry (registrations config.normalizedMountPath config.stripQuery config.stripDomain labels) id) ∧
    (∀ req target now, (h.registerTarget req target now).1 =
      Key.digest (Key.normalize target config.stripQuery config.stripDomain)) ∧
    (∀ req target now, admits config.normalizedMountPath req = some target →
      h.serve req now =
        Key.shardedPath (Key.digest (Key.normalize target config.stripQuery config.stripDomain)) config.shardLevel >>=
          fun path => (h.registerTarget req target now).2.answerStat req path now) ∧
    (∀ raw, h.memo.entries.lookup raw =
      if raw ∈ admitted config.normalizedMountPath labels then
        some (Key.compute raw config.stripQuery config.stripDomain)
      else none) ∧
    h.memo.size = (admitted config.normalizedMountPath labels).dedup.length ∧
    h.memo.digests = h.memo.size := by
  have tracks := Tracks.run ran
  refine ⟨tracks.mem_identifiers, tracks.nodup_identifiers, tracks.registry.2, ?_, ?_, ?_,
    tracks.memo.size_eq, tracks.memo.counted⟩
  · intro req target now
    obtain ⟨key, -⟩ := registerTarget_spec h req target now
    obtain ⟨computed, -⟩ := tracks.memo.keyOf target
    rw [key, computed, tracks.dropQuery, tracks.dropOrigin]
    rfl
  · intro req target now accepted
    exact tracks.serve_admitted now accepted
  · intro raw
    rw [tracks.memo.remembers raw, tracks.dropQuery, tracks.dropOrigin]

/-- A GET of `http://[::1]/a` that states ten bytes in `x-file-size`. -/
def sizedGet : Request := { loopbackGet with headers := ⟨[("x-file-size", [49, 48])]⟩ }

/-- Two plain GETs of `http://[::1]/a`, at times 0 and 1, then one stating its size, at
time 2. -/
def repeatedGets : List (Option (Request × Nat)) :=
  [some (loopbackGet, 0), some (loopbackGet, 1), some (sizedGet, 2)]

/-- A fresh handler over `quietLink` that serves `repeatedGets` holds one identifier, the
target's key.  Its entry is the sized registration made at time 2, which replaced the plain
one the first GET made and the second repeated; the memo remembers the target once, digested
once. -/
theorem repeated_target_keeps_sized_entry :
    ∃ h, Run (create quietView {} uncached) repeatedGets h ∧
      h.registry.identifiers = ["c59df659642b114ecb6d16e241b6563e"] ∧
      h.registry.lookup "c59df659642b114ecb6d16e241b6563e" =
        some { url := "http://[::1]/a", known := some (10, 2) } ∧
      h.memo.size = 1 ∧ h.memo.digests = 1 := by
  obtain ⟨h, ran⟩ : ∃ h, Run (create quietView {} uncached) repeatedGets h := by
    -- the kernel handles the three requests, each one step of the run
    have handled : (((create quietView {} uncached).handle loopbackGet 0).toOption.bind fun r₁ =>
        (r₁.2.handle loopbackGet 1).toOption.bind fun r₂ => (r₂.2.handle sizedGet 2).toOption).isSome := by
      decide +kernel
    cases first : (create quietView {} uncached).handle loopbackGet 0 with
    | error _ => simp [first, Except.toOption] at handled
    | ok r₁ =>
      cases second : r₁.2.handle loopbackGet 1 with
      | error _ => simp [first, second, Except.toOption] at handled
      | ok r₂ =>
        cases third : r₂.2.handle sizedGet 2 with
        | error _ => simp [first, second, third, Except.toOption] at handled
        | ok r₃ => exact ⟨r₃.2, (((Run.nil _).snoc (.handle first)).snoc (.handle second)).snoc (.handle third)⟩
  obtain ⟨ids, nodup, entries, -, -, -, size, digests⟩ := run_registers_admitted_targets ran
  -- what the run's history gives, evaluated
  have targets : admitted uncached.normalizedMountPath repeatedGets =
      ["http://[::1]/a", "http://[::1]/a", "http://[::1]/a"] := by
    decide +kernel
  have key : Key.compute "http://[::1]/a" uncached.stripQuery uncached.stripDomain =
      "c59df659642b114ecb6d16e241b6563e" := by
    decide +kernel
  have sized : Registry.expectedEntry
      (registrations uncached.normalizedMountPath uncached.stripQuery uncached.stripDomain repeatedGets)
      "c59df659642b114ecb6d16e241b6563e" = some { url := "http://[::1]/a", known := some (10, 2) } := by
    decide +kernel
  have once : (admitted uncached.normalizedMountPath repeatedGets).dedup.length = 1 := by
    decide +kernel
  have only : ∀ id, id ∈ h.registry.identifiers ↔ id = "c59df659642b114ecb6d16e241b6563e" := by
    intro id
    rw [ids id, targets]
    simp [key, eq_comm]
  -- the key is an identifier, and no other is, each once
  have single : h.registry.identifiers = ["c59df659642b114ecb6d16e241b6563e"] := by
    by_contra other
    rcases (nodup.ne_singleton_iff _).mp other with empty | ⟨id, mem, differs⟩
    · have mem := (only _).mpr rfl
      rw [empty] at mem
      cases mem
    · exact differs ((only id).mp mem)
  exact ⟨h, ran, single, (entries _).trans sized, size.trans once, digests.trans (size.trans once)⟩

end ChunkProxy.Handler
