import ChunkProxy.Vfs.Basic
import ChunkProxy.Proofs.CacheContent
/-!
# Fetching one chunk

A chunk of a read comes from memory, from the disk, or from a ranged open of the
remote file, whose body is read for exactly the chunk's bytes.  This module says
what each of these steps gives, for a file of content `c` whose chunks the cache
holds (`Tiered.Holds`) and a remote side that agrees with `c` (`Remote.Agrees`):
what an opened object sends begins what it should send, or is begun by it.

* `readExact_ok_iff`: reading `len` bytes after skipping `skip` succeeds exactly
  when the body reaches that far, and gives that window of the body.
* `download_spec`: a ranged fetch gives the range's bytes of `c`, whether the
  origin honoured the range or sent the whole content, or an error when the body
  stops short; never an error when the remote side serves in full (`Remote.Serves`).
* `fetchChunk_settles`, `finishChunk_settles`, `firstLook_settles`: each step
  `Settles`: it faults only when the expiry of a chunk it stores lies past the
  clock, and otherwise yields the chunk's wanted bytes, or an error that a remote
  side serving in full never causes, and keeps the chunks held (`Vfs.Kept`).
-/

namespace ChunkProxy

set_option autoImplicit false

/-! ## A window of a body -/

section ReadExact

variable (remote : String) (failure : Option ProxyError) (len : Nat) (received : Nat → Metrics → Metrics)

/-- Reading `len` bytes after skipping `skip`, with `buf` read so far, succeeds exactly when
the rest of the body reaches that far, and gives the bytes of that window.  The induction is
on the pieces; a piece is skipped whole, or cut and taken up to what is still wanted. -/
theorem readExact_go_ok_iff :
    ∀ (pieces : List (List UInt8)) (skip : Nat) (buf : List UInt8) (m : Option Metrics) (d : List UInt8),
      buf.length < len → (skip = 0 ∨ buf = []) →
      ((readExact.go remote failure len received pieces skip buf m).1 = .ok d ↔
        skip + (len - buf.length) ≤ pieces.flatten.length ∧
          d = buf ++ (pieces.flatten.drop skip).take (len - buf.length))
  | [], skip, buf, m, d, short, _ => by
    unfold readExact.go
    constructor
    · intro ok
      split at ok <;> simp at ok
    · intro ⟨reaches, _⟩
      simp only [List.flatten_nil, List.length_nil] at reaches
      omega
  | p :: ps, skip, buf, m, d, short, fresh => by
    unfold readExact.go
    simp only [List.flatten_cons, List.length_append]
    split
    · -- the piece lies wholly within what is skipped
      rename_i skipped
      simp only [Bool.and_eq_true, decide_eq_true_eq] at skipped
      have empty : buf = [] := fresh.resolve_left (by omega)
      have rest : (p ++ ps.flatten).drop skip = ps.flatten.drop (skip - p.length) := by
        rw [List.drop_append, List.drop_eq_nil_of_le skipped.2, List.nil_append]
      have reach : skip - p.length + (len - buf.length) ≤ ps.flatten.length ↔
          skip + (len - buf.length) ≤ p.length + ps.flatten.length := by omega
      rw [readExact_go_ok_iff ps (skip - p.length) buf _ d short (.inr empty), rest, reach]
    · -- the piece is cut at the skip and taken up to what is still wanted
      rename_i kept
      simp only [Bool.and_eq_true, decide_eq_true_eq, not_and, Nat.not_le] at kept
      have within : skip ≤ p.length := by
        rcases Nat.eq_zero_or_pos skip with zero | pos
        · omega
        · exact Nat.le_of_lt (kept pos)
      have rest : (p ++ ps.flatten).drop skip = p.drop skip ++ ps.flatten := List.drop_append_of_le_length within
      rw [rest]
      split
      · -- enough: the body reaches past the window
        rename_i full
        simp only [beq_iff_eq, List.length_take, List.length_drop] at full
        have enough : len - buf.length ≤ (p.drop skip).length := by simp only [List.length_drop]; omega
        rw [List.take_append_of_le_length enough]
        simp only [Except.ok.injEq]
        constructor
        · intro same
          exact ⟨by omega, same.symm⟩
        · intro ⟨_, same⟩
          exact same.symm
      · -- short: the rest of the window comes from the later pieces
        rename_i short_piece
        simp only [beq_iff_eq, List.length_take, List.length_drop] at short_piece
        have whole : (p.drop skip).take (len - buf.length) = p.drop skip :=
          List.take_of_length_le (by simp only [List.length_drop]; omega)
        have grown : (buf ++ p.drop skip).length = buf.length + (p.length - skip) := by simp
        have window : (p.drop skip ++ ps.flatten).take (len - buf.length) =
            p.drop skip ++ ps.flatten.take (len - (buf ++ p.drop skip).length) := by
          rw [List.take_append, whole, grown, List.length_drop]
          congr 2
          omega
        have reach : len - (buf ++ p.drop skip).length ≤ ps.flatten.length ↔
            skip + (len - buf.length) ≤ p.length + ps.flatten.length := by
          rw [grown]
          omega
        rw [whole, readExact_go_ok_iff ps 0 _ _ d (by rw [grown]; omega) (.inl rfl)]
        simp only [Nat.zero_add, List.drop_zero, List.append_assoc]
        rw [reach, window]

/-- Reading `len` bytes of a body after skipping `skip` gives exactly the bytes of that window
when the body reaches past it, and fails otherwise. -/
theorem readExact_ok_iff (pieces : List (List UInt8)) (skip : Nat) (m : Option Metrics) (d : List UInt8)
    (pos : 0 < len) :
    (readExact remote pieces failure skip len received m).1 = .ok d ↔
      skip + len ≤ pieces.flatten.length ∧ d = (pieces.flatten.drop skip).take len := by
  unfold readExact
  rw [readExact_go_ok_iff remote failure len received pieces skip [] m d pos (.inr rfl)]
  simp

end ReadExact

/-- Two lists of which one begins the other agree on every window both reach. -/
theorem window_of_comparable {α : Type} {a b : List α} (comparable : a <+: b ∨ b <+: a) {s n : Nat}
    (in_a : s + n ≤ a.length) (in_b : s + n ≤ b.length) : (a.drop s).take n = (b.drop s).take n := by
  rcases comparable with ⟨t, rfl⟩ | ⟨t, rfl⟩
  · rw [List.drop_append_of_le_length (by omega), List.take_append_of_le_length (by simp only [List.length_drop]; omega)]
  · rw [List.drop_append_of_le_length (by omega), List.take_append_of_le_length (by simp only [List.length_drop]; omega)]

/-! ## What the remote side sends -/

namespace Remote

open Http

/-- What an opened object should send for a range of a content `c`: the range's bytes when it
honours the range, else the whole content. -/
def RemoteObject.expected (c : List UInt8) (r : ByteRange) (obj : RemoteObject) : List UInt8 :=
  if obj.isPartial then r.bytesOf c else c

/-- An opened object agrees with a content: what it sends begins what it should send, or
the other way round; it may stop short. -/
def RemoteObject.Agrees (c : List UInt8) (r : ByteRange) (obj : RemoteObject) : Prop :=
  obj.body.bytes <+: obj.expected c r ∨ obj.expected c r <+: obj.body.bytes

/-- The request headers of an open for a range. -/
def rangeHeaders (r : ByteRange) : Headers := Headers.empty.insertText "range" r.header

variable {σ : Type} [RemoteFs σ]

/-- The remote side agrees with a file of content `c` at `remote`: from every state `inv`
allows, an open of a range completes without a fault, into such a state, and an object it
opens agrees with `c`. -/
def Agrees (reg : Registry) (remote : String) (c : List UInt8) (inv : σ → Prop) : Prop :=
  ∀ st r, inv st → ∃ res st', RemoteFs.openFile reg remote (rangeHeaders r) st = .ok (res, st') ∧ inv st' ∧
    ∀ obj, res = .ok obj → obj.Agrees c r

/-- The remote side serves a file of content `c` at `remote` in full: from every state `inv`
allows, an open of a range gives an object that sends at least what it should. -/
def Serves (reg : Registry) (remote : String) (c : List UInt8) (inv : σ → Prop) : Prop :=
  ∀ st r res st', inv st → RemoteFs.openFile reg remote (rangeHeaders r) st = .ok (res, st') →
    ∃ obj, res = .ok obj ∧ obj.expected c r <+: obj.body.bytes

end Remote

open Remote

/-- A ranged read takes the range's bytes out of what an object should send: from the start of
a partial answer, from the range's first byte of a whole one. -/
theorem expected_window (obj : RemoteObject) {c : List UInt8} {r : ByteRange} (ordered : r.first ≤ r.last)
    (inside : r.last < c.length) :
    (if obj.isPartial then 0 else r.first) + (r.last - r.first + 1) ≤ (obj.expected c r).length ∧
      ((obj.expected c r).drop (if obj.isPartial then 0 else r.first)).take (r.last - r.first + 1) =
        r.bytesOf c := by
  have length := length_segment c (a := r.first) (b := r.last + 1) (by omega) (by omega)
  unfold RemoteObject.expected
  cases obj.isPartial with
  | true =>
    simp only [if_true, Nat.zero_add, List.drop_zero]
    refine ⟨by rw [ByteRange.bytesOf, length]; omega, List.take_of_length_le ?_⟩
    rw [ByteRange.bytesOf, length]
    omega
  | false =>
    simp only [Bool.false_eq_true, if_false]
    refine ⟨by omega, ?_⟩
    rw [ByteRange.bytesOf, segment]
    congr 1
    omega

/-- The wanted part of a chunk's bytes is the wanted bytes, for a chunk inside the content. -/
theorem wantedPart_bytesOf {c : List UInt8} {sp : ChunkSpec} (within : sp.Within c.length) :
    wantedPart sp (sp.range.bytesOf c) = sp.wanted.bytesOf c := by
  have length := length_segment c (a := sp.range.first) (b := sp.range.last + 1)
    (by have := within.starts; have := within.ordered; have := within.ends; omega) (by have := within.inside; omega)
  unfold wantedPart
  split
  · rename_i whole
    rw [beq_iff_eq.mp whole]
  · simp only [ChunkSpec.offsets]
    have cut : min (sp.wanted.last - sp.range.first + 1) (sp.range.bytesOf c).length =
        sp.wanted.last + 1 - sp.range.first := by
      rw [ByteRange.bytesOf, length]
      have := within.starts
      have := within.ordered
      have := within.ends
      omega
    rw [cut, ByteRange.bytesOf, segment_cut c within.starts (by have := within.ordered; omega)
      (by have := within.ends; omega)]
    rfl

/-! ## Steps of a read -/

namespace Vfs

variable {σ : Type}

/-- The time to live of the view's cache, when caching. -/
def cacheTtl (v : Vfs σ) : Option Nat := v.cache.map (·.ttl)

/-- Every expiry the view's cache can give at `now` fits the clock. -/
def TtlFits (now : Nat) (v : Vfs σ) : Prop := ∀ ttl ∈ v.cacheTtl, now + ttl ≤ Cache.timeLimit

/-- The view keeps the chunks of the file of content `c` filed at `path`, and its remote side
in a state `inv` allows. -/
structure Keeps (c : List UInt8) (path : String) (inv : σ → Prop) (v : Vfs σ) : Prop where
  cache : ∀ t, v.cache = some t → t.Holds c path
  remote : inv v.fs

/-- A step from `v` to `v'` keeps the chunks held and the time to live. -/
structure Kept (c : List UInt8) (path : String) (inv : σ → Prop) (v v' : Vfs σ) : Prop where
  keeps : v'.Keeps c path inv
  ttl : v'.cacheTtl = v.cacheTtl

/-- What a step of a read from `v` can end with: a fault only from an expiry past the clock,
else a result that `good` accepts, with a view (`view` of the result) that keeps the chunks
held. -/
def Settles {β : Type} (c : List UInt8) (path : String) (inv : σ → Prop) (now : Nat) (v : Vfs σ)
    (view : β → Vfs σ) (good : β → Prop) : Except Fault β → Prop
  | .error f => f = Cache.timeOverflow ∧ ¬ v.TtlFits now
  | .ok b => good b ∧ Kept c path inv v (view b)

section Settles

variable {c : List UInt8} {path : String} {inv : σ → Prop} {now : Nat} {v v' v'' : Vfs σ}

theorem Kept.trans (first : Kept c path inv v v') (second : Kept c path inv v' v'') : Kept c path inv v v'' :=
  ⟨second.keeps, second.ttl.trans first.ttl⟩

theorem Kept.fits (kept : Kept c path inv v v') : v'.TtlFits now ↔ v.TtlFits now := by
  unfold TtlFits
  rw [kept.ttl]

theorem Settles.of_kept {β : Type} {view : β → Vfs σ} {good : β → Prop} {out : Except Fault β}
    (kept : Kept c path inv v v') (settles : Settles c path inv now v' view good out) :
    Settles c path inv now v view good out := by
  cases out with
  | error f => exact ⟨settles.1, fun fits => settles.2 ((kept.fits).mpr fits)⟩
  | ok b => exact ⟨settles.1, kept.trans settles.2⟩

theorem Settles.bind {β γ : Type} {view : β → Vfs σ} {view' : γ → Vfs σ} {good : β → Prop} {good' : γ → Prop}
    {x : Except Fault β} {f : β → Except Fault γ} (first : Settles c path inv now v view good x)
    (rest : ∀ b, good b → Kept c path inv v (view b) → Settles c path inv now (view b) view' good' (f b)) :
    Settles c path inv now v view' good' (x >>= f) := by
  cases x with
  | error f => exact first
  | ok b => exact (rest b first.1 first.2).of_kept first.2

theorem Settles.mono {β : Type} {view : β → Vfs σ} {good good' : β → Prop} {out : Except Fault β}
    (settles : Settles c path inv now v view good out) (weaker : ∀ b, good b → good' b) :
    Settles c path inv now v view good' out := by
  cases out with
  | error f => exact settles
  | ok b => exact ⟨weaker _ settles.1, settles.2⟩

theorem kept_refl (keeps : v.Keeps c path inv) : Kept c path inv v v := ⟨keeps, rfl⟩

theorem kept_record (keeps : v.Keeps c path inv) (f : Metrics → Metrics) : Kept c path inv v (v.record f) :=
  ⟨⟨keeps.cache, keeps.remote⟩, rfl⟩

end Settles

@[simp] theorem record_cache (v : Vfs σ) (f : Metrics → Metrics) : (v.record f).cache = v.cache := rfl

@[simp] theorem record_fs (v : Vfs σ) (f : Metrics → Metrics) : (v.record f).fs = v.fs := rfl

@[simp] theorem record_chunkSize (v : Vfs σ) (f : Metrics → Metrics) : (v.record f).chunkSize = v.chunkSize :=
  rfl

@[simp] theorem record_chunkStreams (v : Vfs σ) (f : Metrics → Metrics) :
    (v.record f).chunkStreams = v.chunkStreams := rfl

@[simp] theorem record_dirCacheTime (v : Vfs σ) (f : Metrics → Metrics) :
    (v.record f).dirCacheTime = v.dirCacheTime := rfl

@[simp] theorem record_statCache (v : Vfs σ) (f : Metrics → Metrics) : (v.record f).statCache = v.statCache :=
  rfl

/-- A chunk's result: its wanted bytes of the content `c`, or an error, which a remote side
serving in full never gives. -/
def Yields (c : List UInt8) (serves : Prop) (sp : ChunkSpec) : Except ProxyError (List UInt8) → Prop
  | .ok d => d = sp.wanted.bytesOf c
  | .error _ => ¬ serves

/-- A chunk's state yields its wanted bytes once it is ready. -/
def StateYields (c : List UInt8) (serves : Prop) (sp : ChunkSpec) : ChunkState → Prop
  | .ready res => Yields c serves sp res
  | _ => True

section Steps

variable [RemoteFs σ] {reg : Registry} {remote path : String} {c : List UInt8} {inv : σ → Prop} {now : Nat}
  {v : Vfs σ}

/-- Fetching a range of a file the remote side agrees with never faults; it changes only the
remote state and the metrics, and gives the range's bytes or an error, never an error when
the remote side serves in full. -/
theorem download_spec (agrees : Remote.Agrees reg remote c inv) (at_inv : inv v.fs)
    {r : ByteRange} (ordered : r.first ≤ r.last) (inside : r.last < c.length) (word : c.length < wordBound) :
    ∃ res fs metrics, v.download reg remote r = .ok (res, { v with fs, metrics }) ∧ inv fs ∧
      (∀ d, res = .ok d → d = r.bytesOf c) ∧ (Remote.Serves reg remote c inv → res = .ok (r.bytesOf c)) := by
  obtain ⟨res, st, opened, inv_st, agree⟩ := agrees v.fs r at_inv
  have sized := Cache.size_of_le ordered (by omega)
  have opened' : RemoteFs.openFile reg remote (Http.Headers.empty.insertText "range" r.header) v.fs =
      .ok (res, st) := opened
  unfold download
  simp only [opened', bind, Except.bind]
  cases res with
  | error e =>
    refine ⟨.error e, st, v.metrics, rfl, inv_st, by simp, fun serves => ?_⟩
    obtain ⟨obj, bad, _⟩ := serves v.fs r _ _ at_inv opened
    cases bad
  | ok obj =>
    simp only [sized]
    obtain ⟨reach, window⟩ := expected_window obj ordered inside
    have bytes : obj.body.pieces.flatten = obj.body.bytes := rfl
    refine ⟨_, st, _, rfl, inv_st, fun d read => ?_, fun serves => ?_⟩
    · obtain ⟨enough, rfl⟩ := (readExact_ok_iff _ _ _ _ _ _ _ _ (by omega)).mp read
      rw [bytes] at enough ⊢
      rw [window_of_comparable (agree obj rfl) enough reach, window]
    · obtain ⟨obj', same, sends⟩ := serves v.fs r _ _ at_inv opened
      cases same
      have enough := Nat.le_trans reach sends.length_le
      rw [(readExact_ok_iff _ _ _ _ _ _ _ _ (by omega)).mpr ⟨by rw [bytes]; exact enough, rfl⟩, bytes,
        window_of_comparable (.inr sends) enough reach, window]

/-- Fetching a chunk inside the content from a remote side that agrees with it yields the
chunk's wanted bytes; it faults only when the expiry of what it stores is past the clock. -/
theorem fetchChunk_settles (agrees : Agrees reg remote c inv) (keeps : v.Keeps c path inv) {sp : ChunkSpec}
    (within : sp.Within c.length) (word : c.length + Cache.expiryLength < wordBound) :
    Settles c path inv now v Prod.snd (fun out => Yields c (Serves reg remote c inv) sp out.1)
      (v.fetchChunk reg remote path sp now) := by
  have ordered : sp.range.first ≤ sp.range.last := by
    have := within.starts
    have := within.ordered
    have := within.ends
    omega
  obtain ⟨res, fs, metrics, fetched, inv_fs, correct, live⟩ :=
    download_spec (v := v.record Metrics.chunkMiss) agrees keeps.remote ordered within.inside
      (by simp only [Cache.expiryLength] at word; omega)
  unfold fetchChunk
  simp only [fetched, bind, Except.bind]
  cases res with
  | error e => exact ⟨fun serves => by simpa using live serves, ⟨⟨keeps.cache, inv_fs⟩, rfl⟩⟩
  | ok data =>
    obtain rfl := correct data rfl
    have wanted := wantedPart_bytesOf within
    simp only [record_cache, record_chunkSize, record_chunkStreams, record_dirCacheTime, record_statCache]
    cases cache : v.cache with
    | none =>
      refine ⟨wanted, ⟨⟨fun t none_t => ?_, inv_fs⟩, by simp [cacheTtl, cache]⟩⟩
      cases none_t
    | some t =>
      -- the cache is handed the start of the second, whose whole seconds are `now`
      by_cases fits : now + t.ttl ≤ Cache.timeLimit
      · have fits' : (Cache.ofEpochSecs now).secs + t.ttl ≤ Cache.timeLimit := by
          rw [Cache.ofEpochSecs_secs]
          omega
        obtain ⟨res', t', stored, held', ttl'⟩ := (keeps.cache t cache).store (r := sp.range) fits'
        simp only [stored, pure, Except.pure]
        refine ⟨wanted, ⟨⟨fun t'' same => ?_, inv_fs⟩, by simp [cacheTtl, cache, ttl']⟩⟩
        cases same
        exact held'
      · have late : (Cache.timeLimit : Int) < (Cache.ofEpochSecs now).secs + t.ttl := by
          rw [Cache.ofEpochSecs_secs]
          omega
        simp only [Cache.Tiered.store_overflow late]
        exact ⟨rfl, fun ttl_fits => fits (ttl_fits t.ttl (by simp [cacheTtl, cache]))⟩

/-- Finishing a chunk after memory missed: the disk gives the chunk's bytes, or the remote
side is asked as by `fetchChunk`. -/
theorem finishChunk_settles (agrees : Agrees reg remote c inv) (keeps : v.Keeps c path inv) {sp : ChunkSpec}
    (within : sp.Within c.length) (word : c.length + Cache.expiryLength < wordBound) :
    Settles c path inv now v Prod.snd (fun out => Yields c (Serves reg remote c inv) sp out.1)
      (v.finishChunk reg remote path sp now) := by
  have ordered : sp.range.first ≤ sp.range.last := by
    have := within.starts
    have := within.ordered
    have := within.ends
    omega
  unfold finishChunk
  cases cache : v.cache with
  | none => exact fetchChunk_settles agrees keeps within word
  | some t =>
    obtain ⟨found, t', looked, held', ttl', found_ok⟩ :=
      (keeps.cache t cache).lookupDisk (Cache.ofEpochSecs now) ordered within.inside word
    simp only [looked, bind, Except.bind, pure, Except.pure]
    have kept : Kept c path inv v { v with cache := some t' } :=
      ⟨⟨fun t'' same => by cases same; exact held', keeps.remote⟩, by simp [cacheTtl, cache, ttl']⟩
    cases found with
    | none => exact (fetchChunk_settles agrees kept.keeps within word).of_kept kept
    | some data =>
      obtain rfl := found_ok data rfl
      exact ⟨wantedPart_bytesOf within, kept.trans (kept_record kept.keeps _)⟩

/-- The first look at a chunk: memory gives the chunk's bytes, or the chunk waits for the disk,
or it is finished at once. -/
theorem firstLook_settles (agrees : Agrees reg remote c inv) (keeps : v.Keeps c path inv) {sp : ChunkSpec}
    (within : sp.Within c.length) (word : c.length + Cache.expiryLength < wordBound) :
    Settles c path inv now v Prod.snd (fun out => StateYields c (Serves reg remote c inv) sp out.1)
      (v.firstLook reg remote path sp now) := by
  unfold firstLook
  cases cache : v.cache with
  | none =>
    refine Settles.bind (finishChunk_settles agrees keeps within word) ?_
    rintro ⟨res, v'⟩ yields kept
    exact ⟨yields, kept_refl kept.keeps⟩
  | some t =>
    have held' := (keeps.cache t cache).lookupMemory sp.range (Cache.ofEpochSecs now)
    have ttl' := Cache.Tiered.lookupMemory_ttl t path sp.range (Cache.ofEpochSecs now)
    have found_ok : ∀ data, (t.lookupMemory path sp.range (Cache.ofEpochSecs now)).1 = some data →
        data = sp.range.bytesOf c :=
      fun _ => (keeps.cache t cache).lookupMemory_found
    dsimp only
    generalize t.lookupMemory path sp.range (Cache.ofEpochSecs now) = out at held' ttl' found_ok ⊢
    obtain ⟨hit, t'⟩ := out
    dsimp only at held' ttl' found_ok
    have kept : Kept c path inv v { v with cache := some t' } :=
      ⟨⟨fun t'' same => by cases same; exact held', keeps.remote⟩, by simp [cacheTtl, cache, ttl']⟩
    cases hit with
    | some data =>
      obtain rfl := found_ok data rfl
      exact ⟨wantedPart_bytesOf within, kept.trans (kept_record kept.keeps _)⟩
    | none =>
      dsimp only
      split
      · exact ⟨trivial, kept⟩
      · refine Settles.of_kept kept (Settles.bind (finishChunk_settles agrees kept.keeps within word) ?_)
        rintro ⟨res, v'⟩ yields kept'
        exact ⟨yields, kept_refl kept'.keeps⟩

end Steps

end Vfs

end ChunkProxy
