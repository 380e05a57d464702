import ChunkProxy.Vfs.Basic
import ChunkProxy.Remote.Table
/-!
# The stat memo: fresh, logged, swept

With a positive directory-cache time `T` the caching view remembers the nodes it finds, each
with the time of its stat (`Vfs.stat`).  This module shows what the memo can give back.

* A stat is answered by the memo (`Vfs.memoHit?`) or by the remote side, never otherwise
  (`stat_ok_cases`); the remote side's answer does not depend on the memo
  (`fetchStat_of_staleDropped`).
* `MemoSound log now v`: every remembered entry is a node the remote side answered for that
  path at that time, as listed in `log`, no later than `now`; with `T = 0` nothing is
  remembered.  One stat (`MemoSound.stat`) and one sweep (`MemoSound.purge`) keep it, so every
  run of stats and sweeps at times that never go back keeps it (`StatRun.memoSound`).
* So along every run (`stat_memo_sound`): a stat gives the remote side's current answer for the
  cleaned path, or, only when `T > 0`, a remembered node the remote side gave for that path less
  than `T` before; errors are never remembered; and a sweep leaves only entries younger than `T`.
-/

namespace ChunkProxy.Vfs

set_option autoImplicit false

open Fs Remote

variable {σ : Type}

/-! ## The memo operations -/

section Memo

variable (v : Vfs σ)

@[simp] theorem forgetStat_dirCacheTime (p : String) : (v.forgetStat p).dirCacheTime = v.dirCacheTime := rfl

@[simp] theorem forgetStat_fs (p : String) : (v.forgetStat p).fs = v.fs := rfl

@[simp] theorem purgeExpiredStats_dirCacheTime (now : Nat) :
    (v.purgeExpiredStats now).dirCacheTime = v.dirCacheTime := rfl

@[simp] theorem rememberStat_dirCacheTime (p : String) (n : Node) (now : Nat) :
    (v.rememberStat p n now).dirCacheTime = v.dirCacheTime := by
  unfold rememberStat
  split <;> rfl

@[simp] theorem rememberStat_fs (p : String) (n : Node) (now : Nat) : (v.rememberStat p n now).fs = v.fs := by
  unfold rememberStat
  split <;> rfl

theorem mem_forgetStat {p : String} {e : String × Nat × Node} :
    e ∈ (v.forgetStat p).statCache ↔ e ∈ v.statCache ∧ e.1 ≠ p := by
  simp [forgetStat]

theorem mem_purgeExpiredStats {now : Nat} {e : String × Nat × Node} :
    e ∈ (v.purgeExpiredStats now).statCache ↔ e ∈ v.statCache ∧ now - e.2.1 < v.dirCacheTime := by
  simp [purgeExpiredStats]

/-- Remembering a node adds its entry and keeps others of other paths, or drops them in a
sweep. -/
theorem mem_rememberStat {p : String} {n : Node} {now : Nat} {e : String × Nat × Node}
    (mem : e ∈ (v.rememberStat p n now).statCache) : e = (p, now, n) ∨ (e ∈ v.statCache ∧ e.1 ≠ p) := by
  have added : e ∈ v.statCache.filter (·.1 != p) ++ [(p, now, n)] := by
    unfold rememberStat at mem
    split at mem
    · exact (List.mem_filter.mp mem).1
    · exact mem
  rcases List.mem_append.mp added with kept | new
  · simp only [List.mem_filter, bne_iff_ne, ne_eq] at kept
    exact .inr kept
  · exact .inl (List.mem_singleton.mp new)

/-- The memo answers a stat of `p` at `now` with an entry of `p` younger than the
directory-cache time, and only when that time is positive. -/
theorem memoHit?_eq_some {p : String} {now : Nat} {n : Node} :
    v.memoHit? p now = some n ↔
      0 < v.dirCacheTime ∧ ∃ t, v.statCache.lookup p = some (t, n) ∧ now - t < v.dirCacheTime := by
  unfold memoHit?
  by_cases on : 0 < v.dirCacheTime
  · rw [if_pos on]
    cases found : v.statCache.lookup p with
    | none => simp
    | some entry =>
      obtain ⟨t, m⟩ := entry
      dsimp only
      by_cases fresh : now - t < v.dirCacheTime
      · rw [if_pos fresh]
        constructor
        · rintro ⟨⟩
          exact ⟨on, t, rfl, fresh⟩
        · rintro ⟨-, t', same, -⟩
          cases same
          rfl
      · rw [if_neg fresh]
        constructor
        · rintro ⟨⟩
        · rintro ⟨-, t', same, young⟩
          cases same
          exact absurd young fresh
  · simp [on]

/-- A stat the memo answers returns a remembered entry of the path. -/
theorem mem_of_memoHit? {p : String} {now : Nat} {n : Node} (hit : v.memoHit? p now = some n) :
    0 < v.dirCacheTime ∧ ∃ t, (p, t, n) ∈ v.statCache ∧ now - t < v.dirCacheTime := by
  obtain ⟨on, t, found, fresh⟩ := (memoHit?_eq_some v).mp hit
  obtain ⟨before, after, whole, -⟩ := List.lookup_eq_some_iff.mp found
  exact ⟨on, t, by rw [whole]; simp, fresh⟩

end Memo

/-! ## Around a stat that asks the remote side -/

section Around

/-- The view a stat asks the remote side from: the path's expired entry forgotten, when stats
are remembered. -/
def staleDropped (v : Vfs σ) (p : String) : Vfs σ := if v.dirCacheTime > 0 then v.forgetStat p else v

/-- The view a stat that asked the remote side leaves: the node found remembered, when stats
are remembered; nothing remembered on an error. -/
def afterFetch (p : String) (now : Nat) (res : Except ProxyError Node) (w : Vfs σ) : Vfs σ :=
  match res with
  | .ok n => if w.dirCacheTime > 0 then w.rememberStat p n now else w
  | .error _ => w

@[simp] theorem afterFetch_fs (p : String) (now : Nat) (res : Except ProxyError Node) (w : Vfs σ) :
    (afterFetch p now res w).fs = w.fs := by
  unfold afterFetch
  split
  · split
    · exact rememberStat_fs w _ _ _
    · rfl
  · rfl

@[simp] theorem afterFetch_dirCacheTime (p : String) (now : Nat) (res : Except ProxyError Node) (w : Vfs σ) :
    (afterFetch p now res w).dirCacheTime = w.dirCacheTime := by
  unfold afterFetch
  split
  · split
    · exact rememberStat_dirCacheTime w _ _ _
    · rfl
  · rfl

/-- With a zero directory-cache time nothing is remembered after a fetch. -/
theorem afterFetch_of_off {w : Vfs σ} (off : w.dirCacheTime = 0) (p : String) (now : Nat)
    (res : Except ProxyError Node) : afterFetch p now res w = w := by
  unfold afterFetch
  split
  · rw [if_neg (by omega)]
  · rfl

theorem mem_staleDropped {v : Vfs σ} {p : String} {e : String × Nat × Node}
    (mem : e ∈ (v.staleDropped p).statCache) : e ∈ v.statCache := by
  unfold staleDropped at mem
  split at mem
  · exact ((mem_forgetStat v).mp mem).1
  · exact mem

/-- After a fetch the memo holds what it held before, and at most the node just found, that
only when stats are remembered. -/
theorem mem_afterFetch {p : String} {now : Nat} {res : Except ProxyError Node} {w : Vfs σ}
    {e : String × Nat × Node} (mem : e ∈ (afterFetch p now res w).statCache) :
    e ∈ w.statCache ∨ ∃ n, res = .ok n ∧ e = (p, now, n) ∧ 0 < w.dirCacheTime := by
  unfold afterFetch at mem
  cases res with
  | error _ => exact .inl mem
  | ok n =>
    dsimp only at mem
    split at mem
    · rename_i on
      rcases mem_rememberStat w mem with rfl | ⟨old, -⟩
      · exact .inr ⟨n, rfl, rfl, on⟩
      · exact .inl old
    · exact .inl mem

@[simp] theorem staleDropped_fs (v : Vfs σ) (p : String) : (v.staleDropped p).fs = v.fs := by
  unfold staleDropped
  split <;> rfl

@[simp] theorem staleDropped_dirCacheTime (v : Vfs σ) (p : String) :
    (v.staleDropped p).dirCacheTime = v.dirCacheTime := by
  unfold staleDropped
  split <;> rfl

end Around

/-! ## Asking the remote side -/

section Fetch

variable [RemoteFs σ]

/-- What the remote side answers depends on the view only through the remote side's state. -/
theorem fetchStat_of_fs {v v' : Vfs σ} (same : v'.fs = v.fs) (reg : Registry) (p : String) (now : Nat) :
    v'.fetchStat reg p now = (fun out => (out.1, { v' with fs := out.2.fs })) <$> v.fetchStat reg p now := by
  unfold fetchStat
  rw [same]
  cases RemoteFs.stat reg p now v.fs with
  | error f => rfl
  | ok out =>
    obtain ⟨res, fs⟩ := out
    cases res with
    | ok info => rfl
    | error e =>
      dsimp only [bind, Except.bind]
      split
      · cases RemoteFs.dirExists reg p now fs with
        | error f => rfl
        | ok out' =>
          obtain ⟨ex, fs'⟩ := out'
          cases ex with
          | error e2 => rfl
          | ok b => cases b <;> rfl
      · rfl

/-- Asking the remote side changes only the remote side's state. -/
theorem fetchStat_view {v : Vfs σ} {reg : Registry} {p : String} {now : Nat} {res : Except ProxyError Node}
    {w : Vfs σ} (fetched : v.fetchStat reg p now = .ok (res, w)) : w = { v with fs := w.fs } := by
  have same : v.fetchStat reg p now = _ := fetchStat_of_fs rfl reg p now
  rw [fetched] at same
  simp only [Functor.map, Except.map, Except.ok.injEq, Prod.mk.injEq] at same
  exact same.2

/-- Asking the remote side from the view with a path's entry forgotten gets the answer the
view itself gets. -/
theorem fetchStat_of_staleDropped {v : Vfs σ} {reg : Registry} {p q : String} {now : Nat}
    {res : Except ProxyError Node} {w : Vfs σ} (fetched : (v.staleDropped q).fetchStat reg p now = .ok (res, w)) :
    v.fetchStat reg p now = .ok (res, { v with fs := w.fs }) := by
  rw [fetchStat_of_fs (staleDropped_fs v q)] at fetched
  cases direct : v.fetchStat reg p now with
  | error f =>
    rw [direct] at fetched
    cases fetched
  | ok out =>
    obtain ⟨res', w'⟩ := out
    rw [direct] at fetched
    cases fetched
    conv => lhs; rw [fetchStat_view direct]

end Fetch

/-! ## One stat -/

section Stat

variable [RemoteFs σ]

theorem stat_of_memoHit {v : Vfs σ} {reg : Registry} {path : String} {now : Nat} {n : Node}
    (hit : v.memoHit? (cleanDir path) now = some n) : v.stat reg path now = .ok (.ok n, v) := by
  unfold stat
  simp only [hit]
  rfl

theorem stat_of_miss {v : Vfs σ} {reg : Registry} {path : String} {now : Nat}
    (miss : v.memoHit? (cleanDir path) now = none) :
    v.stat reg path now =
      (fun out => (out.1, afterFetch (cleanDir path) now out.1 out.2)) <$>
        (v.staleDropped (cleanDir path)).fetchStat reg (cleanDir path) now := by
  unfold stat staleDropped
  simp only [miss]
  cases (if v.dirCacheTime > 0 then v.forgetStat (cleanDir path) else v).fetchStat reg (cleanDir path) now with
  | error f => rfl
  | ok out =>
    obtain ⟨res, w⟩ := out
    cases res <;> rfl

/-- With a zero directory-cache time a stat is the remote side's answer, the memo untouched. -/
theorem stat_of_off {v : Vfs σ} (off : v.dirCacheTime = 0) (reg : Registry) (path : String) (now : Nat) :
    v.stat reg path now = v.fetchStat reg (cleanDir path) now := by
  have miss : v.memoHit? (cleanDir path) now = none := by simp [memoHit?, off]
  have kept : v.staleDropped (cleanDir path) = v := by simp [staleDropped, off]
  rw [stat_of_miss miss, kept]
  cases fetched : v.fetchStat reg (cleanDir path) now with
  | error f => rfl
  | ok out =>
    obtain ⟨res, w⟩ := out
    have time : w.dirCacheTime = 0 := by rw [fetchStat_view fetched]; exact off
    have unchanged : afterFetch (cleanDir path) now res w = w := afterFetch_of_off time _ _ _
    show Except.ok (res, afterFetch (cleanDir path) now res w) = _
    rw [unchanged]

/-- A stat is answered by the memo, which leaves the view as it was, or by the remote side,
from the view with the path's expired entry forgotten. -/
theorem stat_ok_cases {v : Vfs σ} {reg : Registry} {path : String} {now : Nat} {res : Except ProxyError Node}
    {v' : Vfs σ} (statted : v.stat reg path now = .ok (res, v')) :
    (∃ n, v.memoHit? (cleanDir path) now = some n ∧ res = .ok n ∧ v' = v) ∨
      (v.memoHit? (cleanDir path) now = none ∧ ∃ w,
        (v.staleDropped (cleanDir path)).fetchStat reg (cleanDir path) now = .ok (res, w) ∧
          v' = afterFetch (cleanDir path) now res w) := by
  cases hit : v.memoHit? (cleanDir path) now with
  | some n =>
    rw [stat_of_memoHit hit] at statted
    cases statted
    exact .inl ⟨n, rfl, rfl, rfl⟩
  | none =>
    rw [stat_of_miss hit] at statted
    cases fetched : (v.staleDropped (cleanDir path)).fetchStat reg (cleanDir path) now with
    | error f =>
      rw [fetched] at statted
      cases statted
    | ok out =>
      rw [fetched] at statted
      cases statted
      exact .inr ⟨rfl, out.2, rfl, rfl⟩

/-- A stat keeps the directory-cache time. -/
theorem stat_dirCacheTime {v : Vfs σ} {reg : Registry} {path : String} {now : Nat}
    {res : Except ProxyError Node} {v' : Vfs σ} (statted : v.stat reg path now = .ok (res, v')) :
    v'.dirCacheTime = v.dirCacheTime := by
  rcases stat_ok_cases statted with ⟨n, -, -, rfl⟩ | ⟨-, w, fetched, rfl⟩
  · rfl
  · rw [afterFetch_dirCacheTime, fetchStat_view fetched]
    exact staleDropped_dirCacheTime v _

end Stat

/-! ## Runs of stats and sweeps -/

/-- The memo of a view at `now`, against a log of the nodes the remote side answered with their
paths and times: every entry is logged and no later than `now`, and with a zero
directory-cache time there is none. -/
structure MemoSound (log : List (String × Nat × Node)) (now : Nat) (v : Vfs σ) : Prop where
  logged : ∀ e ∈ v.statCache, e ∈ log
  past : ∀ e ∈ v.statCache, e.2.1 ≤ now
  off : v.dirCacheTime = 0 → v.statCache = []

/-- What a stat that gave `res` adds to the log of the remote side's answers: the node it found,
when the memo did not answer. -/
def answered (v : Vfs σ) (path : String) (now : Nat) : Except ProxyError Node → List (String × Nat × Node)
  | .ok n => if (v.memoHit? (cleanDir path) now).isNone then [(cleanDir path, now, n)] else []
  | .error _ => []

/-- A memo is sound when each entry is logged, no later than `now`, and remembered only with a
positive directory-cache time. -/
theorem MemoSound.of_entries {log : List (String × Nat × Node)} {now : Nat} {v : Vfs σ}
    (entries : ∀ e ∈ v.statCache, e ∈ log ∧ e.2.1 ≤ now ∧ 0 < v.dirCacheTime) : MemoSound log now v where
  logged e mem := (entries e mem).1
  past e mem := (entries e mem).2.1
  off none := List.eq_nil_iff_forall_not_mem.mpr fun e mem => by
    have := (entries e mem).2.2
    omega

/-- A sound memo with an entry remembers with a positive time. -/
theorem MemoSound.positive {log : List (String × Nat × Node)} {now : Nat} {v : Vfs σ}
    (sound : MemoSound log now v) {e : String × Nat × Node} (mem : e ∈ v.statCache) : 0 < v.dirCacheTime :=
  Nat.pos_of_ne_zero fun off => by
    rw [sound.off off] at mem
    cases mem

theorem MemoSound.mono {log log' : List (String × Nat × Node)} {now now' : Nat} {v w : Vfs σ}
    (sound : MemoSound log now v) (within : ∀ e ∈ w.statCache, e ∈ v.statCache) (more : ∀ e ∈ log, e ∈ log')
    (later : now ≤ now') (time : w.dirCacheTime = v.dirCacheTime) : MemoSound log' now' w :=
  .of_entries fun e mem =>
    have old := within e mem
    ⟨more e (sound.logged e old), Nat.le_trans (sound.past e old) later, time ▸ sound.positive old⟩

/-- A sweep keeps the memo sound. -/
theorem MemoSound.purge {log : List (String × Nat × Node)} {now now' : Nat} {v : Vfs σ}
    (sound : MemoSound log now v) (later : now ≤ now') : MemoSound log now' (v.purgeExpiredStats now') :=
  sound.mono (fun _ mem => ((mem_purgeExpiredStats v).mp mem).1) (fun _ => id) later rfl

variable [RemoteFs σ]

/-- A stat keeps the memo sound, with the node the remote side found logged: a memo answer
changes nothing, and what the remote side answers is remembered at the time of the stat. -/
theorem MemoSound.stat {log : List (String × Nat × Node)} {now now' : Nat} {v v' : Vfs σ} {reg : Registry}
    {path : String} {res : Except ProxyError Node} (sound : MemoSound log now v) (later : now ≤ now')
    (statted : v.stat reg path now' = .ok (res, v')) : MemoSound (log ++ answered v path now' res) now' v' := by
  have more : ∀ e ∈ log, e ∈ log ++ answered v path now' res := fun _ mem => List.mem_append_left _ mem
  have time := stat_dirCacheTime statted
  rcases stat_ok_cases statted with ⟨n, -, -, rfl⟩ | ⟨miss, w, fetched, rfl⟩
  · exact sound.mono (fun _ => id) more later rfl
  · -- asked from the view with the path's entry forgotten, which only the found node can join
    have base : ∀ e ∈ w.statCache, e ∈ v.statCache := by
      rw [fetchStat_view fetched]
      exact fun _ => mem_staleDropped
    have kept : w.dirCacheTime = v.dirCacheTime := by
      rw [fetchStat_view fetched]
      exact staleDropped_dirCacheTime v _
    refine .of_entries fun e mem => ?_
    rw [time]
    rcases mem_afterFetch mem with old | ⟨n, rfl, rfl, on⟩
    · have old := base e old
      exact ⟨more e (sound.logged e old), Nat.le_trans (sound.past e old) later, sound.positive old⟩
    · exact ⟨by simp [answered, miss], Nat.le_refl _, kept ▸ on⟩

/-- A run of stats and sweeps on a view at times that never go back: `StatRun v₀ t₀ log now v`
goes from `v₀` at `t₀` to `v` at `now`, each stat with the registry of its moment, and `log`
lists the nodes the remote side answered along the way, with their paths and times. -/
inductive StatRun (v₀ : Vfs σ) (t₀ : Nat) : List (String × Nat × Node) → Nat → Vfs σ → Prop
  | start : StatRun v₀ t₀ [] t₀ v₀
  | stat {log : List (String × Nat × Node)} {now now' : Nat} {v v' : Vfs σ} {reg : Registry} {path : String}
      {res : Except ProxyError Node} :
      StatRun v₀ t₀ log now v → now ≤ now' → v.stat reg path now' = .ok (res, v') →
        StatRun v₀ t₀ (log ++ answered v path now' res) now' v'
  | purge {log : List (String × Nat × Node)} {now now' : Nat} {v : Vfs σ} :
      StatRun v₀ t₀ log now v → now ≤ now' → StatRun v₀ t₀ log now' (v.purgeExpiredStats now')

/-- Along a run from a view that remembers nothing, the memo stays sound and the
directory-cache time stays: by induction on the run, one step lemma per call. -/
theorem StatRun.memoSound {v₀ : Vfs σ} {t₀ : Nat} (fresh : v₀.statCache = [])
    {log : List (String × Nat × Node)} {now : Nat} {v : Vfs σ} (run : StatRun v₀ t₀ log now v) :
    MemoSound log now v ∧ v.dirCacheTime = v₀.dirCacheTime := by
  induction run with
  | start => exact ⟨⟨by simp [fresh], by simp [fresh], fun _ => fresh⟩, rfl⟩
  | stat _ later statted ih => exact ⟨ih.1.stat later statted, (stat_dirCacheTime statted).trans ih.2⟩
  | purge _ later ih => exact ⟨ih.1.purge later, ih.2⟩

/-- What a stat gives once the memo is sound: the remote side's current answer for the cleaned
path, with nothing new remembered on an error; or, with a positive directory-cache time, a
remembered node of that path, logged and younger than that time, the view left as it was. -/
theorem MemoSound.stat_answer {log : List (String × Nat × Node)} {now now' : Nat} {v v' : Vfs σ}
    {reg : Registry} {path : String} {res : Except ProxyError Node} (sound : MemoSound log now v)
    (later : now ≤ now') (statted : v.stat reg path now' = .ok (res, v')) :
    (∃ w, v.fetchStat reg (cleanDir path) now' = .ok (res, w) ∧ v'.fs = w.fs ∧
        ∀ e, res = .error e → ∀ x ∈ v'.statCache, x ∈ v.statCache) ∨
      (0 < v.dirCacheTime ∧ ∃ t n, (cleanDir path, t, n) ∈ v.statCache ∧ (cleanDir path, t, n) ∈ log ∧
        t ≤ now' ∧ now' - t < v.dirCacheTime ∧ res = .ok n ∧ v' = v) := by
  rcases stat_ok_cases statted with ⟨n, hit, rfl, same⟩ | ⟨-, w, fetched, rfl⟩
  · obtain ⟨on, t, mem, fresh⟩ := mem_of_memoHit? v hit
    exact .inr ⟨on, t, n, mem, sound.logged _ mem, Nat.le_trans (sound.past _ mem) later, fresh, rfl, same⟩
  · -- the remote side's answer, the memo aside
    refine .inl ⟨_, fetchStat_of_staleDropped fetched, afterFetch_fs _ _ _ _, fun e failed x mem => ?_⟩
    · subst failed
      rw [fetchStat_view fetched] at mem
      exact mem_staleDropped mem

/-- The stat memo along every run of stats, registry changes and clock advances, from a view
that remembers nothing.  With a zero directory-cache time `T` the memo stays empty; every entry
is a node the remote side answered for its path at its time, no later than now.  The next stat,
at any later time and with any registry, gives the remote side's current answer for the cleaned
path, remembering nothing on an error, or, only when `T > 0`, a remembered node of that path
that the remote side gave less than `T` before, never an expired one.  A sweep leaves only
entries younger than `T`. -/
theorem stat_memo_sound {v₀ : Vfs σ} {t₀ : Nat} (fresh : v₀.statCache = [])
    {log : List (String × Nat × Node)} {now : Nat} {v : Vfs σ} (run : StatRun v₀ t₀ log now v)
    (reg : Registry) (path : String) {now' : Nat} (later : now ≤ now') :
    (v₀.dirCacheTime = 0 → v.statCache = []) ∧
    (∀ e ∈ v.statCache, e ∈ log ∧ e.2.1 ≤ now) ∧
    (∀ res v', v.stat reg path now' = .ok (res, v') →
      (∃ w, v.fetchStat reg (cleanDir path) now' = .ok (res, w) ∧ v'.fs = w.fs ∧
          ∀ e, res = .error e → ∀ x ∈ v'.statCache, x ∈ v.statCache) ∨
        (0 < v₀.dirCacheTime ∧ ∃ t n, (cleanDir path, t, n) ∈ v.statCache ∧ (cleanDir path, t, n) ∈ log ∧
          t ≤ now' ∧ now' - t < v₀.dirCacheTime ∧ res = .ok n ∧ v' = v)) ∧
    ∀ e ∈ (v.purgeExpiredStats now').statCache, now' - e.2.1 < v₀.dirCacheTime := by
  obtain ⟨sound, time⟩ := run.memoSound fresh
  refine ⟨fun off => sound.off (time.trans off), fun e mem => ⟨sound.logged e mem, sound.past e mem⟩,
    fun res v' statted => ?_, fun e mem => ?_⟩
  · rw [← time]
    exact sound.stat_answer later statted
  · rw [← time]
    exact ((mem_purgeExpiredStats v).mp mem).2

/-- A table holding one object of three bytes, at `u`. -/
def threeByteTable : Table := { objects := [("u", { content := [1, 2, 3] })] }

/-- A registry naming the object at `u` as `f`. -/
def fileRegistry : Registry := { entries := [("f", { url := "u" })] }

/-- A view over `threeByteTable` that remembers stats for two seconds. -/
def memoView : Vfs Table :=
  { fs := threeByteTable, cache := none, chunkSize := 4, chunkStreams := 1, dirCacheTime := 2, metrics := none }

/-- The node a stat of `f` finds. -/
def threeByteFile : Node := .file { remote := "f", size := some 3, modTime := defaultModTime }

/-- On `memoView` the first stat of `f`, at time 0, asks the table and remembers the file.  A
stat one second later is answered from the memo, the view unchanged; one five seconds later,
past the memo's two seconds, is the table's current answer, and the table is asked again. -/
theorem memo_hit_then_refetch :
    ∃ v₁, StatRun memoView 0 [("f", 0, threeByteFile)] 0 v₁ ∧ v₁.statCache = [("f", 0, threeByteFile)] ∧
      v₁.stat fileRegistry "f" 1 = .ok (.ok threeByteFile, v₁) ∧
      ∃ res v₂, v₁.stat fileRegistry "f" 5 = .ok (res, v₂) ∧ v₂.fs.calls = ["stat f", "stat f"] ∧
        ∃ w, v₁.fetchStat fileRegistry (cleanDir "f") 5 = .ok (res, w) ∧ v₂.fs = w.fs := by
  -- the kernel runs the first stat, and the third on the view the first leaves
  have first : (memoView.stat fileRegistry "f" 0).toOption.map (fun r => (r.1.toOption, r.2.statCache)) =
      some (some threeByteFile, [("f", 0, threeByteFile)]) := by
    decide +kernel
  have third : (memoView.stat fileRegistry "f" 0).toOption.bind (fun r =>
      (r.2.stat fileRegistry "f" 5).toOption.map (·.2.fs.calls)) = some ["stat f", "stat f"] := by
    decide +kernel
  have logged : answered memoView "f" 0 (.ok threeByteFile) = [("f", 0, threeByteFile)] := by
    decide +kernel
  have cleaned : cleanDir "f" = "f" := by
    decide +kernel
  cases statted : memoView.stat fileRegistry "f" 0 with
  | error _ =>
    rw [statted] at first
    cases first
  | ok out =>
    obtain ⟨res₀, v₁⟩ := out
    rw [statted] at first third
    change some (res₀.toOption, v₁.statCache) = some (some threeByteFile, [("f", 0, threeByteFile)]) at first
    change (v₁.stat fileRegistry "f" 5).toOption.map (·.2.fs.calls) = some ["stat f", "stat f"] at third
    obtain ⟨found, memo⟩ := Prod.mk.inj (Option.some.inj first)
    obtain rfl : res₀ = .ok threeByteFile := by
      cases res₀ <;> simp_all [Except.toOption]
    have run : StatRun memoView 0 [("f", 0, threeByteFile)] 0 v₁ := by
      rw [← List.nil_append [("f", 0, threeByteFile)], ← logged]
      exact .stat .start (Nat.le_refl 0) statted
    have time : v₁.dirCacheTime = 2 := (stat_dirCacheTime statted).trans rfl
    have hit : v₁.memoHit? (cleanDir "f") 1 = some threeByteFile := by
      simp [memoHit?, cleaned, memo, time]
    obtain ⟨res, v₂, refetched⟩ : ∃ res v₂, v₁.stat fileRegistry "f" 5 = .ok (res, v₂) := by
      cases again : v₁.stat fileRegistry "f" 5 with
      | error _ =>
        rw [again] at third
        cases third
      | ok out => exact ⟨out.1, out.2, rfl⟩
    have calls : v₂.fs.calls = ["stat f", "stat f"] := by
      rw [refetched] at third
      exact Option.some.inj third
    -- five seconds on, no remembered node is young enough, so the table answers
    obtain ⟨-, -, next, -⟩ := stat_memo_sound rfl run fileRegistry "f" (Nat.zero_le 5)
    rcases next res v₂ refetched with ⟨w, fetched, same, -⟩ | ⟨-, t, n, -, mem, -, young, -⟩
    · exact ⟨v₁, run, memo, stat_of_memoHit hit, res, v₂, refetched, calls, w, fetched, same⟩
    · simp only [List.mem_singleton, Prod.mk.injEq] at mem
      rw [mem.2.1] at young
      exact absurd young (by decide)

end ChunkProxy.Vfs
