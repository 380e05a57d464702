import ChunkProxy.Key.Memo
import Mathlib.Data.List.Dedup
/-!
# Concurrent key lookups

Many requests ask the key memo for keys at once.  One call is two atomic steps on
the shared memo: a read under the shared lock, which answers when the URL is
remembered, and after a miss the exclusive entry of the URL, which looks again and
computes and remembers the key only when the place is still empty (`Memo.keyOf`).
Between the two steps of one call the other calls may take any number of steps, so
two calls of one URL may both miss before either enters.  Run without interruption
the two steps are `keyOf` itself (`step_step_idle`).

`Calls` is a memo with the calls made of it, each `idle`, `missed` or `answered`;
a schedule is any list of call numbers, each naming the call that steps next.
`Calls.Sound` is what holds between steps: the memo remembers exactly the answered
URLs, each once and with its key, it has counted one digest per remembered URL, and
every answer is the key of its URL.  `Call.step_cases` says once what a step can do;
`Sound.step` follows from it, and `Sound.run` by induction on the schedule.

The main statement, `interleaved_calls_digest_each_url_once`: after every schedule
(so at every point of every interleaving) each answered call holds the key of its URL,
and the number of remembered URLs and the number of digests both equal the number of
distinct URLs answered so far: each URL is digested once and never again.
-/

namespace ChunkProxy.Key.Memo

set_option autoImplicit false

/-- Where one call for a raw URL stands: not started, past a read that missed, or
answered with a key. -/
inductive Call where
  | idle (raw : String)
  | missed (raw : String)
  | answered (raw key : String)
  deriving DecidableEq, Repr

namespace Call

/-- The URL a call asks about. -/
def raw : Call → String
  | .idle raw | .missed raw | .answered raw _ => raw

/-- The URL of an answered call. -/
def answeredUrl? : Call → Option String
  | .answered raw _ => some raw
  | _ => none

/-- One atomic step of a call on the memo: the shared read, or after a miss the
exclusive entry that computes on vacancy.  An answered call takes no step. -/
def step (m : Memo) : Call → Call × Memo
  | .idle raw =>
    match m.entries.lookup raw with
    | some k => (.answered raw k, m)
    | none => (.missed raw, m)
  | .missed raw => (.answered raw (m.keyOf raw).1, (m.keyOf raw).2)
  | .answered raw k => (.answered raw k, m)

/-- What one step can do: answer from the memo, miss the read, or enter an empty place
and remember the computed key, counting one digest; an answered call stays. -/
theorem step_cases (m : Memo) (c : Call) :
    (∃ raw k, (c = .idle raw ∨ c = .missed raw) ∧ m.entries.lookup raw = some k ∧
      c.step m = (.answered raw k, m)) ∨
    (∃ raw, c = .idle raw ∧ m.entries.lookup raw = none ∧ c.step m = (.missed raw, m)) ∨
    (∃ raw, c = .missed raw ∧ m.entries.lookup raw = none ∧
      c.step m = (.answered raw (compute raw m.dropQuery m.dropOrigin),
        { m with entries := (raw, compute raw m.dropQuery m.dropOrigin) :: m.entries,
                 digests := m.digests + 1 })) ∨
    (∃ raw k, c = .answered raw k ∧ c.step m = (c, m)) := by
  cases c with
  | idle raw =>
    cases hit : m.entries.lookup raw with
    | some k => exact .inl ⟨raw, k, .inl rfl, hit, by simp [step, hit]⟩
    | none => exact .inr (.inl ⟨raw, rfl, hit, by simp [step, hit]⟩)
  | missed raw =>
    cases hit : m.entries.lookup raw with
    | some k => exact .inl ⟨raw, k, .inr rfl, hit, by simp [step, keyOf_of_lookup m raw k hit]⟩
    | none => exact .inr (.inr (.inl ⟨raw, rfl, hit, by simp [step, keyOf, hit]⟩))
  | answered raw k => exact .inr (.inr (.inr ⟨raw, k, rfl, rfl⟩))

/-- A call run without interruption, its read then its entry, is `keyOf`. -/
theorem step_step_idle (m : Memo) (raw : String) :
    ((Call.idle raw).step m).1.step ((Call.idle raw).step m).2 =
      (.answered raw (m.keyOf raw).1, (m.keyOf raw).2) := by
  cases hit : m.entries.lookup raw with
  | some k => simp [step, hit, keyOf_of_lookup m raw k hit]
  | none => simp [step, hit]

/-- A step keeps the URL of a call. -/
theorem raw_step (m : Memo) (c : Call) : (c.step m).1.raw = c.raw := by
  rcases step_cases m c with ⟨_, _, rfl | rfl, -, same⟩ | ⟨_, rfl, -, same⟩ | ⟨_, rfl, -, same⟩ |
    ⟨_, _, rfl, same⟩ <;> simp [same, raw]

/-- A step keeps the normalisation switches. -/
theorem switches_step (m : Memo) (c : Call) :
    (c.step m).2.dropQuery = m.dropQuery ∧ (c.step m).2.dropOrigin = m.dropOrigin := by
  rcases step_cases m c with ⟨_, _, -, -, same⟩ | ⟨_, -, -, same⟩ | ⟨_, -, -, same⟩ | ⟨_, _, -, same⟩ <;>
    simp [same]

end Call

/-! ## A memo that remembers exactly some URLs -/

theorem mem_keys_iff_lookup_isSome (l : List (String × String)) (x : String) :
    x ∈ l.map (·.1) ↔ (l.lookup x).isSome := by
  rw [List.lookup_isSome_iff, List.mem_map]
  constructor
  · rintro ⟨p, inside, rfl⟩
    exact ⟨p, inside, beq_self_eq_true _⟩
  · rintro ⟨p, inside, same⟩
    exact ⟨p, inside, (beq_iff_eq.mp same).symm⟩

/-- The memo remembers exactly the URLs `raws`, each once and with its key, and has computed
one digest per remembered URL. -/
structure Holds (raws : List String) (m : Memo) : Prop where
  remembers : ∀ raw, m.entries.lookup raw =
    if raw ∈ raws then some (compute raw m.dropQuery m.dropOrigin) else none
  distinct : (m.entries.map (·.1)).Nodup
  counted : m.digests = m.entries.length

section Holds

variable {raws : List String} {m : Memo}

theorem holds_empty (dropQuery dropOrigin : Bool) : Holds [] (empty dropQuery dropOrigin) :=
  ⟨fun raw => by simp [empty], List.nodup_nil, rfl⟩

/-- Remembering the key of a URL not remembered yet, and counting its digest. -/
theorem Holds.remember (holds : Holds raws m) {raw : String} (miss : m.entries.lookup raw = none) :
    Holds (raws ++ [raw])
      { m with entries := (raw, compute raw m.dropQuery m.dropOrigin) :: m.entries, digests := m.digests + 1 } := by
  refine ⟨fun x => ?_, ?_, by simp [holds.counted]⟩
  · by_cases same : x = raw
    · subst same
      simp
    · have other : (x == raw) = false := beq_false_of_ne same
      simp only [List.lookup_cons, other, holds.remembers x, List.mem_append, List.mem_singleton, same,
        or_false]
  · simp only [List.map_cons, List.nodup_cons]
    refine ⟨fun mem => ?_, holds.distinct⟩
    rw [mem_keys_iff_lookup_isSome, miss] at mem
    cases mem

/-- Asking the memo for the key of a URL gives the URL's key, and the memo then remembers
exactly the URLs asked so far, this one included. -/
theorem Holds.keyOf (holds : Holds raws m) (raw : String) :
    (m.keyOf raw).1 = compute raw m.dropQuery m.dropOrigin ∧ Holds (raws ++ [raw]) (m.keyOf raw).2 ∧
      (m.keyOf raw).2.dropQuery = m.dropQuery ∧ (m.keyOf raw).2.dropOrigin = m.dropOrigin := by
  unfold Memo.keyOf
  cases hit : m.entries.lookup raw with
  | none => exact ⟨rfl, holds.remember hit, rfl, rfl⟩
  | some k =>
    -- a remembered URL was asked before, so asking again adds nothing
    have remembered := holds.remembers raw
    rw [hit] at remembered
    split at remembered
    · rename_i before
      cases remembered
      refine ⟨rfl, ⟨fun x => ?_, holds.distinct, holds.counted⟩, rfl, rfl⟩
      rw [holds.remembers x]
      by_cases same : x = raw
      · subst same
        simp [before]
      · simp [same]
    · cases remembered

/-- Which URLs a memo remembers depends only on the set of them. -/
theorem Holds.congr (holds : Holds raws m) (raws' : List String) (same : ∀ x, x ∈ raws ↔ x ∈ raws') :
    Holds raws' m :=
  ⟨fun x => by simp only [holds.remembers x, same x], holds.distinct, holds.counted⟩

/-- The memo holds one entry per distinct URL asked. -/
theorem Holds.size_eq (holds : Holds raws m) : m.size = raws.dedup.length := by
  have same : ∀ x, x ∈ m.entries.map (·.1) ↔ x ∈ raws.dedup := fun x => by
    rw [mem_keys_iff_lookup_isSome, holds.remembers x, List.mem_dedup]
    split <;> simp_all
  have perm := (List.perm_ext_iff_of_nodup holds.distinct (List.nodup_dedup _)).mpr same
  rw [size, ← perm.length_eq, List.length_map]

end Holds

/-- A memo and the calls made of it. -/
structure Calls where
  memo : Memo
  calls : List Call

namespace Calls

/-- Calls of some URLs on an empty memo, none started yet. -/
def start (dropQuery dropOrigin : Bool) (raws : List String) : Calls :=
  { memo := empty dropQuery dropOrigin, calls := raws.map .idle }

/-- Call `i` takes its next step; a number that names no call changes nothing. -/
def step (s : Calls) (i : Nat) : Calls :=
  match s.calls[i]? with
  | some c => { memo := (c.step s.memo).2, calls := s.calls.set i (c.step s.memo).1 }
  | none => s

/-- The calls after a schedule, each entry naming the call that steps next. -/
def run (s : Calls) (schedule : List Nat) : Calls := schedule.foldl step s

/-- The URLs of the answered calls, once per answer. -/
def answeredUrls (s : Calls) : List String := s.calls.filterMap Call.answeredUrl?

theorem mem_answeredUrls {s : Calls} {raw : String} :
    raw ∈ s.answeredUrls ↔ ∃ k, Call.answered raw k ∈ s.calls := by
  simp only [answeredUrls, List.mem_filterMap]
  constructor
  · rintro ⟨c, mem, named⟩
    cases c <;> simp only [Call.answeredUrl?, Option.some.injEq, reduceCtorEq] at named
    subst named
    exact ⟨_, mem⟩
  · rintro ⟨k, mem⟩
    exact ⟨_, mem, rfl⟩

/-- A step of call `i` keeps every answered call (an answered call steps to itself)
and adds the call's new state. -/
theorem answered_mem_set_step {l : List Call} {i : Nat} {c : Call} {m : Memo} (at_i : l[i]? = some c)
    (raw k : String) :
    Call.answered raw k ∈ l.set i (c.step m).1 ↔
      Call.answered raw k ∈ l ∨ (c.step m).1 = .answered raw k := by
  have within : i < l.length := (List.getElem?_eq_some_iff.mp at_i).1
  have stepped : (c.step m).1 ∈ l.set i (c.step m).1 :=
    List.mem_of_getElem? (List.getElem?_set_self within)
  constructor
  · intro mem
    exact (List.mem_or_eq_of_mem_set mem).imp id Eq.symm
  · rintro (old | new)
    · by_cases same : c = .answered raw k
      · subst same
        exact stepped
      · obtain ⟨j, at_j⟩ := List.mem_iff_getElem?.mp old
        have apart : i ≠ j := by
          rintro rfl
          rw [at_i] at at_j
          exact same (Option.some.inj at_j)
        exact List.mem_of_getElem? (by rw [List.getElem?_set_ne apart]; exact at_j)
    · rw [← new]
      exact stepped

/-- Stepping a call keeps the URLs of all calls. -/
theorem raws_step (s : Calls) (i : Nat) : (s.step i).calls.map Call.raw = s.calls.map Call.raw := by
  unfold step
  cases at_i : s.calls[i]? with
  | none => rfl
  | some c =>
    have mapped : (s.calls.map Call.raw)[i]? = some c.raw := by simp [at_i]
    obtain ⟨within, same⟩ := List.getElem?_eq_some_iff.mp mapped
    simp only [List.map_set, Call.raw_step, ← same]
    exact List.set_getElem_self within

/-- What holds between steps: the memo remembers exactly the answered URLs, with their
keys; no URL twice; one digest per remembered URL; and every answer is the key of its
URL. -/
structure Sound (s : Calls) : Prop where
  remembers : ∀ raw, s.memo.entries.lookup raw =
    if raw ∈ s.answeredUrls then some (compute raw s.memo.dropQuery s.memo.dropOrigin) else none
  distinct : (s.memo.entries.map (·.1)).Nodup
  counted : s.memo.digests = s.memo.entries.length
  answers : ∀ raw k, Call.answered raw k ∈ s.calls → k = compute raw s.memo.dropQuery s.memo.dropOrigin

section Step

variable {s : Calls} {i : Nat} {c : Call}

theorem Sound.holds (sound : s.Sound) : Holds s.answeredUrls s.memo :=
  ⟨sound.remembers, sound.distinct, sound.counted⟩

/-- The invariant is a memo that holds the answered URLs, and answers that are their URLs' keys. -/
theorem Sound.of_holds (holds : Holds s.answeredUrls s.memo)
    (answers : ∀ raw k, Call.answered raw k ∈ s.calls → k = compute raw s.memo.dropQuery s.memo.dropOrigin) :
    s.Sound :=
  ⟨holds.remembers, holds.distinct, holds.counted, answers⟩

theorem step_of_getElem? (at_i : s.calls[i]? = some c) :
    s.step i = { memo := (c.step s.memo).2, calls := s.calls.set i (c.step s.memo).1 } := by
  simp [step, at_i]

/-- The URLs answered after a step: those answered before, and the stepping call's URL
when it now answers. -/
theorem mem_answeredUrls_step (at_i : s.calls[i]? = some c) (x : String) :
    x ∈ (s.step i).answeredUrls ↔ x ∈ s.answeredUrls ∨ ∃ k, (c.step s.memo).1 = .answered x k := by
  simp only [mem_answeredUrls, step_of_getElem? at_i, answered_mem_set_step at_i]
  constructor
  · rintro ⟨k, old | new⟩
    · exact .inl ⟨k, old⟩
    · exact .inr ⟨k, new⟩
  · rintro (⟨k, old⟩ | ⟨k, new⟩)
    · exact ⟨k, .inl old⟩
    · exact ⟨k, .inr new⟩

/-- A remembered URL was answered, with its key. -/
theorem Sound.answered_of_lookup (sound : s.Sound) {raw k : String} (hit : s.memo.entries.lookup raw = some k) :
    raw ∈ s.answeredUrls ∧ k = compute raw s.memo.dropQuery s.memo.dropOrigin := by
  rw [sound.remembers raw] at hit
  split at hit
  · exact ⟨‹_›, (Option.some.inj hit).symm⟩
  · cases hit

/-- Every step keeps the invariant. -/
theorem Sound.step (sound : s.Sound) (i : Nat) : (s.step i).Sound := by
  cases at_i : s.calls[i]? with
  | none => simpa [Calls.step, at_i] using sound
  | some c =>
    have urls := mem_answeredUrls_step (s := s) at_i
    have answered := answered_mem_set_step (m := s.memo) at_i
    rw [step_of_getElem? at_i]
    rw [step_of_getElem? at_i] at urls
    rcases Call.step_cases s.memo c with ⟨raw, k, -, hit, stepped⟩ | ⟨raw, -, -, stepped⟩ |
      ⟨raw, -, miss, stepped⟩ | ⟨raw, k, rfl, stepped⟩
    · -- an answer from the memo: the URL was answered before, with this key
      obtain ⟨before, keyed⟩ := sound.answered_of_lookup hit
      simp only [stepped, Call.answered.injEq] at urls answered ⊢
      have same : ∀ x, x ∈ answeredUrls { memo := s.memo, calls := s.calls.set i (.answered raw k) } ↔
          x ∈ s.answeredUrls := fun x => by
        rw [urls x]
        constructor
        · rintro (old | ⟨_, rfl, -⟩)
          · exact old
          · exact before
        · exact .inl
      refine ⟨fun x => ?_, sound.distinct, sound.counted, fun x k' mem => ?_⟩
      · simp only [sound.remembers x, same x]
      · rcases (answered x k').mp mem with old | ⟨rfl, rfl⟩
        · exact sound.answers x k' old
        · exact keyed
    · -- a read that missed: only the call moves on
      simp only [stepped, reduceCtorEq, exists_false, or_false] at urls answered ⊢
      refine ⟨fun x => ?_, sound.distinct, sound.counted, fun x k' mem => sound.answers x k' ((answered x k').mp mem)⟩
      simp only [sound.remembers x, urls x]
    · -- the entry found the place empty: the key is computed, remembered and counted
      simp only [stepped, Call.answered.injEq] at urls answered ⊢
      refine Sound.of_holds ((sound.holds.remember miss).congr _ fun x => ?_) fun x k' mem => ?_
      · rw [urls x, List.mem_append, List.mem_singleton]
        constructor
        · rintro (old | rfl)
          · exact .inl old
          · exact .inr ⟨_, rfl, rfl⟩
        · rintro (old | ⟨_, rfl, -⟩)
          · exact .inl old
          · exact .inr rfl
      · rcases (answered x k').mp mem with old | ⟨rfl, rfl⟩
        · exact sound.answers x k' old
        · rfl
    · -- an answered call stays, and so does everything else
      obtain ⟨within, at_i⟩ := List.getElem?_eq_some_iff.mp at_i
      rw [stepped]
      show Sound { memo := s.memo, calls := s.calls.set i (.answered raw k) }
      rw [← at_i, List.set_getElem_self within]
      exact sound

/-- Every schedule keeps the invariant. -/
theorem Sound.run (sound : s.Sound) (schedule : List Nat) : (s.run schedule).Sound := by
  induction schedule generalizing s with
  | nil => exact sound
  | cons i rest ih => exact ih (sound.step i)

/-- The remembered URLs are the answered ones, each once, so there are as many as
distinct answered URLs, and as many digests. -/
theorem Sound.digests_eq (sound : s.Sound) : s.memo.digests = s.answeredUrls.dedup.length := by
  rw [sound.counted]
  exact sound.holds.size_eq

/-- A schedule keeps the normalisation switches. -/
theorem switches_run (s : Calls) (schedule : List Nat) :
    (s.run schedule).memo.dropQuery = s.memo.dropQuery ∧
      (s.run schedule).memo.dropOrigin = s.memo.dropOrigin := by
  induction schedule generalizing s with
  | nil => exact ⟨rfl, rfl⟩
  | cons i rest ih =>
    obtain ⟨query, origin⟩ := ih (s.step i)
    refine ⟨query.trans ?_, origin.trans ?_⟩ <;> unfold Calls.step <;> split <;>
      simp [Call.switches_step]

/-- A schedule keeps the URLs of all calls. -/
theorem raws_run (s : Calls) (schedule : List Nat) :
    (s.run schedule).calls.map Call.raw = s.calls.map Call.raw := by
  induction schedule generalizing s with
  | nil => rfl
  | cons i rest ih => exact (ih (s.step i)).trans (raws_step s i)

theorem sound_start (dropQuery dropOrigin : Bool) (raws : List String) :
    (start dropQuery dropOrigin raws).Sound := by
  have none_answered : (start dropQuery dropOrigin raws).answeredUrls = [] := by
    simp [answeredUrls, start, List.filterMap_map, Call.answeredUrl?]
  refine ⟨fun raw => ?_, List.nodup_nil, rfl, fun raw k mem => ?_⟩
  · rw [none_answered]
    simp [start, empty]
  · simp [start] at mem

end Step

/-- Calls of any URLs on a fresh memo, interleaved by any schedule: the calls keep their
URLs, every answer is the key of its URL, the memo remembers exactly the answered URLs
with their keys, and it holds as many entries and has computed as many digests as there
are distinct answered URLs, so no URL is digested twice.  Every prefix of a schedule is a
schedule, so this holds at every point of every interleaving. -/
theorem interleaved_calls_digest_each_url_once (dropQuery dropOrigin : Bool) (raws : List String)
    (schedule : List Nat) :
    ((start dropQuery dropOrigin raws).run schedule).calls.map Call.raw = raws ∧
    (∀ raw k, Call.answered raw k ∈ ((start dropQuery dropOrigin raws).run schedule).calls →
      k = compute raw dropQuery dropOrigin) ∧
    (∀ raw, ((start dropQuery dropOrigin raws).run schedule).memo.entries.lookup raw =
      if raw ∈ ((start dropQuery dropOrigin raws).run schedule).answeredUrls then
        some (compute raw dropQuery dropOrigin)
      else none) ∧
    ((start dropQuery dropOrigin raws).run schedule).memo.size =
      ((start dropQuery dropOrigin raws).run schedule).memo.digests ∧
    ((start dropQuery dropOrigin raws).run schedule).memo.digests =
      ((start dropQuery dropOrigin raws).run schedule).answeredUrls.dedup.length := by
  generalize after : (start dropQuery dropOrigin raws).run schedule = s
  have sound : s.Sound := after ▸ (sound_start dropQuery dropOrigin raws).run schedule
  have query : s.memo.dropQuery = dropQuery := after ▸ (switches_run _ schedule).1
  have origin : s.memo.dropOrigin = dropOrigin := after ▸ (switches_run _ schedule).2
  have raws_kept : s.calls.map Call.raw = raws := by
    rw [← after, raws_run]
    simp [start, Function.comp_def, Call.raw]
  refine ⟨raws_kept, fun raw k mem => ?_, fun raw => ?_, sound.counted.symm, sound.digests_eq⟩
  · rw [sound.answers raw k mem, query, origin]
  · rw [sound.remembers raw, query, origin]

end Calls

end ChunkProxy.Key.Memo
