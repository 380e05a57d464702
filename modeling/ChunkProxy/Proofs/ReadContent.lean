import ChunkProxy.Proofs.ChunkFetch
import ChunkProxy.Remote.Table
import ChunkProxy.Vfs.Session
import Mathlib.Data.List.Infix
/-!
# What a chunked read delivers

A read of a file of known size is planned as a list of chunks (`ChunkPlan.toList`), up to
`chunkStreams` of which are started ahead of the one delivered next (`lookAhead`); `pull`
delivers the first started chunk, and `drain` pulls until the read ends.  This module follows a
read through these steps for a file of content `c` whose chunks the cache holds and whose
remote side agrees with `c`.

The invariant is `Reading.Follows`: the chunks started and the chunks still planned are, in
order, the rest of the plan, and each started chunk that is ready holds its wanted bytes.
Starting chunks keeps it (`lookAhead_settles`), and so does delivering one
(`pull_settles`), which hands out the wanted bytes of the first chunk still to come.  By
induction on the chunks left, `drain_settles` gives what a whole read delivers.

* `chunked_read_delivers_requested_bytes`: the pieces of a drained read are the wanted parts
  of the plan's first chunks, in file order, and join into a prefix of the bytes asked for, all
  of them unless the read ended with an error; the cache still holds the file's chunks.  The
  read faults only when a chunk it stores would expire past the clock.
* `chunked_read_faults_on_huge_ttl`: with a time to live of `2^64 - 1` seconds that fault
  happens, at the first chunk stored.
-/
namespace ChunkProxy

set_option autoImplicit false

open Remote

/-- A chunked read whose chunks still to come are `rest`, started ones first: it reads the file
at `remote` filed at `path`, and each started chunk that is ready yields its wanted bytes. -/
structure ChunkRead.Follows (c : List UInt8) (serves : Prop) (remote path : String) (rest : List ChunkSpec)
    (r : ChunkRead) : Prop where
  remote : r.remote = remote
  path : r.cachePath = path
  order : r.started.map (·.1) ++ r.plan.toList = rest
  ready : ∀ x ∈ r.started, Vfs.StateYields c serves x.1 x.2

/-- A read whose chunks still to come are `rest`: a chunked read that follows them, or a read
that is over once none are left. -/
def Reading.Follows (c : List UInt8) (serves : Prop) (remote path : String) (rest : List ChunkSpec) :
    Reading → Prop
  | .chunks r => r.Follows c serves remote path rest
  | .finished => rest = []
  | .direct _ _ => False

/-- The chunk a read delivers next is the first of those still to come; when there is none,
none are left. -/
theorem ChunkRead.current_none {r : ChunkRead} {plan : ChunkPlan} (current : r.current = (none, plan)) :
    r.started.map (·.1) ++ r.plan.toList = [] := by
  unfold ChunkRead.current at current
  split at current
  · simp at current
  · rename_i empty
    split at current
    · simp at current
    · rename_i taken
      simp [empty, (ChunkPlan.toList_of_next_none taken).1]

theorem ChunkRead.current_some {c : List UInt8} {serves : Prop} {r : ChunkRead}
    (ready : ∀ x ∈ r.started, Vfs.StateYields c serves x.1 x.2) {sp : ChunkSpec} {st : ChunkState}
    {started : List (ChunkSpec × ChunkState)} {plan : ChunkPlan}
    (current : r.current = (some ((sp, st), started), plan)) :
    Vfs.StateYields c serves sp st ∧ (∀ x ∈ started, Vfs.StateYields c serves x.1 x.2) ∧
      r.started.map (·.1) ++ r.plan.toList = sp :: (started.map (·.1) ++ plan.toList) := by
  unfold ChunkRead.current at current
  split at current
  · rename_i first rest is_first
    simp only [Prod.mk.injEq, Option.some.injEq] at current
    obtain ⟨⟨rfl, rfl⟩, rfl⟩ := current
    refine ⟨ready (sp, st) (by simp [is_first]), fun x mem => ready x (by simp [is_first, mem]), by simp [is_first]⟩
  · rename_i empty
    split at current
    · rename_i next plan' taken
      simp only [Prod.mk.injEq, Option.some.injEq] at current
      obtain ⟨⟨⟨rfl, rfl⟩, rfl⟩, rfl⟩ := current
      exact ⟨trivial, by simp, by simp [empty, ChunkPlan.toList_of_next_some taken]⟩
    · simp at current

namespace Vfs

/-- What a pull from a read whose chunks still to come are `rest` gives: nothing once none are
left; else the first one's wanted bytes, with a read of the others, or an error, which ends
the read and which a remote side serving in full never gives. -/
def Pulled (c : List UInt8) (serves : Prop) (remote path : String) (rest : List ChunkSpec) :
    Option (Except ProxyError (List UInt8)) × Reading → Prop
  | (none, _) => rest = []
  | (some (.ok d), next) =>
    ∃ sp rest', rest = sp :: rest' ∧ d = sp.wanted.bytesOf c ∧ next.Follows c serves remote path rest'
  | (some (.error _), next) => ¬ serves ∧ next = .finished

/-- Passing a chunk's result on delivers what it yields, and the chunks after it follow. -/
theorem deliver_pulled {σ : Type} {c : List UInt8} {serves : Prop} {remote path : String} {r : ChunkRead}
    (same_remote : r.remote = remote) (same_path : r.cachePath = path) {sp : ChunkSpec}
    {res : Except ProxyError (List UInt8)} (yields : Yields c serves sp res)
    {started : List (ChunkSpec × ChunkState)} (ready : ∀ x ∈ started, StateYields c serves x.1 x.2)
    (plan : ChunkPlan) (v : Vfs σ) :
    Pulled c serves remote path (sp :: (started.map (·.1) ++ plan.toList))
      ((deliver r res started plan v).1, (deliver r res started plan v).2.1) ∧
      (deliver r res started plan v).2.2 = v := by
  cases res with
  | ok d => exact ⟨⟨sp, _, rfl, yields, same_remote, same_path, rfl, ready⟩, rfl⟩
  | error e => exact ⟨⟨yields, rfl⟩, rfl⟩

/-- The chunks of a read, started then planned, are the same ones in the same order after a
step, and every started chunk that is ready yields its wanted bytes. -/
def Ahead (c : List UInt8) (serves : Prop) (started : List (ChunkSpec × ChunkState)) (plan : ChunkPlan)
    (out : List (ChunkSpec × ChunkState) × ChunkPlan) : Prop :=
  out.1.map (·.1) ++ out.2.toList = started.map (·.1) ++ plan.toList ∧ ∀ x ∈ out.1, StateYields c serves x.1 x.2

variable {σ : Type} [RemoteFs σ] {reg : Registry} {remote path : String} {c : List UInt8} {inv : σ → Prop}
  {now : Nat}

/-- A chunk that yields, put before the chunks a step kept ahead, keeps them ahead of the
chunks it stood before. -/
theorem Ahead.cons {serves : Prop} {started before rest' : List (ChunkSpec × ChunkState)}
    {plan planBefore plan' : ChunkPlan} {sp : ChunkSpec} {st' : ChunkState}
    (order : sp :: (started.map (·.1) ++ plan.toList) = before.map (·.1) ++ planBefore.toList)
    (yields : StateYields c serves sp st') (ahead : Ahead c serves started plan (rest', plan')) :
    Ahead c serves before planBefore ((sp, st') :: rest', plan') := by
  obtain ⟨kept, ready⟩ := ahead
  refine ⟨?_, fun x mem => ?_⟩
  · simp only [List.map_cons, List.cons_append]
    rw [kept, order]
  · rcases List.mem_cons.1 mem with rfl | later
    · exact yields
    · exact ready x later

/-- Passing a chunk's result on settles as a pull: it keeps everything. -/
theorem deliver_settles {v : Vfs σ} (keeps : v.Keeps c path inv) {r : ChunkRead} (same_remote : r.remote = remote)
    (same_path : r.cachePath = path) {sp : ChunkSpec} {res : Except ProxyError (List UInt8)}
    (yields : Yields c (Serves reg remote c inv) sp res) {started : List (ChunkSpec × ChunkState)}
    (ready : ∀ x ∈ started, StateYields c (Serves reg remote c inv) x.1 x.2) (plan : ChunkPlan) :
    Settles c path inv now v (·.2.2)
      (fun out => Pulled c (Serves reg remote c inv) remote path (sp :: (started.map (·.1) ++ plan.toList))
        (out.1, out.2.1))
      (pure (deliver r res started plan v)) := by
  obtain ⟨pulled, same⟩ := deliver_pulled same_remote same_path yields ready plan v
  exact ⟨pulled, by simp only [same]; exact kept_refl keeps⟩

/-- A chunk that is waiting takes its first look; any other stays as it is. -/
theorem advance_settles (agrees : Agrees reg remote c inv) {v : Vfs σ} (keeps : v.Keeps c path inv)
    {sp : ChunkSpec} (within : sp.Within c.length) (word : c.length + Cache.expiryLength < wordBound)
    {st : ChunkState} (ready : StateYields c (Serves reg remote c inv) sp st) :
    Settles c path inv now v Prod.snd (fun out => StateYields c (Serves reg remote c inv) sp out.1)
      (v.advance reg remote path sp now st) := by
  cases st with
  | waiting => exact firstLook_settles agrees keeps within word
  | diskPending => exact ⟨trivial, kept_refl keeps⟩
  | ready res => exact ⟨ready, kept_refl keeps⟩

/-- Looking ahead keeps the chunks of a read in order: it starts planned chunks and takes a
first look at waiting ones, each of which then yields its wanted bytes when ready.  The
induction follows `lookAhead`: on the window, then on the started chunks. -/
theorem lookAhead_settles (agrees : Agrees reg remote c inv) (word : c.length + Cache.expiryLength < wordBound) :
    ∀ (n : Nat) (started : List (ChunkSpec × ChunkState)) (plan : ChunkPlan) (v : Vfs σ),
      v.Keeps c path inv → (∀ x ∈ started, StateYields c (Serves reg remote c inv) x.1 x.2) →
      (∀ sp ∈ started.map (·.1) ++ plan.toList, sp.Within c.length) →
      Settles c path inv now v (·.2.2) (fun out => Ahead c (Serves reg remote c inv) started plan (out.1, out.2.1))
        (v.lookAhead reg remote path now n started plan)
  | 0, started, plan, v, keeps, ready, _ => ⟨⟨rfl, ready⟩, kept_refl keeps⟩
  | n + 1, (sp, st) :: rest, plan, v, keeps, ready, within => by
    rw [lookAhead]
    refine Settles.bind (advance_settles agrees keeps (within sp (by simp)) word (ready (sp, st) (by simp))) ?_
    rintro ⟨st', v'⟩ yields kept
    refine Settles.bind (lookAhead_settles agrees word n rest plan v' kept.keeps
      (fun x mem => ready x (by simp [mem])) (fun sp' mem => within sp' (by simp_all))) ?_
    rintro ⟨rest', plan', v''⟩ ahead kept'
    exact ⟨Ahead.cons rfl yields ahead, kept_refl kept'.keeps⟩
  | n + 1, [], plan, v, keeps, _, within => by
    rw [lookAhead]
    cases taken : plan.next with
    | mk first plan' =>
      cases first with
      | none =>
        obtain ⟨empty, empty'⟩ := ChunkPlan.toList_of_next_none taken
        exact ⟨⟨by simp [empty, empty'], by simp⟩, kept_refl keeps⟩
      | some sp =>
        have order := ChunkPlan.toList_of_next_some taken
        dsimp only
        refine Settles.bind (firstLook_settles agrees keeps (within sp (by simp [order])) word) ?_
        rintro ⟨st', v'⟩ yields kept
        refine Settles.bind (lookAhead_settles agrees word n [] plan' v' kept.keeps (by simp)
          (fun sp' mem => within sp' (by simp_all))) ?_
        rintro ⟨rest', plan'', v''⟩ ahead kept'
        exact ⟨Ahead.cons (by simp [order]) yields ahead, kept_refl kept'.keeps⟩

/-- A pull from a read delivers the first chunk still to come, with a read of the others, or
nothing when none are left, or an error that ends the read.  The chunk comes from its state,
or from its first look, or, when that must wait for the disk, after looking ahead. -/
theorem pull_settles (agrees : Agrees reg remote c inv) (word : c.length + Cache.expiryLength < wordBound)
    {v : Vfs σ} (keeps : v.Keeps c path inv) {rest : List ChunkSpec} {reading : Reading}
    (follows : reading.Follows c (Serves reg remote c inv) remote path rest)
    (within : ∀ sp ∈ rest, sp.Within c.length) :
    Settles c path inv now v (·.2.2) (fun out => Pulled c (Serves reg remote c inv) remote path rest (out.1, out.2.1))
      (v.pull reg now reading) := by
  cases reading with
  | finished => exact ⟨follows, kept_refl keeps⟩
  | direct pieces failure => exact absurd follows id
  | chunks r =>
    obtain ⟨same_remote, same_path, order, ready⟩ := follows
    rw [pull, same_remote, same_path]
    generalize current : r.current = next
    obtain ⟨next, plan⟩ := next
    cases next with
    | none => exact ⟨order.symm.trans (ChunkRead.current_none current), kept_refl keeps⟩
    | some first =>
        obtain ⟨⟨sp, st⟩, started⟩ := first
        obtain ⟨yields, ready', order'⟩ := ChunkRead.current_some ready current
        rw [order] at order'
        subst order'
        have sp_within : sp.Within c.length := within sp (by simp)
        have rest_within : ∀ sp' ∈ started.map (·.1) ++ plan.toList, sp'.Within c.length :=
          fun sp' mem => within sp' (by simp [mem])
        cases st with
        | ready res =>
          exact deliver_settles keeps same_remote same_path yields ready' plan
        | diskPending =>
          refine Settles.bind (finishChunk_settles agrees keeps sp_within word) ?_
          rintro ⟨res, v₁⟩ yields₁ kept₁
          exact deliver_settles kept₁.keeps same_remote same_path yields₁ ready' plan
        | waiting =>
          refine Settles.bind (firstLook_settles agrees keeps sp_within word) ?_
          rintro ⟨st₁, v₁⟩ yields₁ kept₁
          dsimp only at yields₁ kept₁ ⊢
          split
          · -- ready at its first look
            exact deliver_settles kept₁.keeps same_remote same_path yields₁ ready' plan
          · -- waiting for the disk: the chunks after it take their first look meanwhile
            refine Settles.bind (lookAhead_settles agrees word (v₁.chunkStreams - 1) started plan v₁ kept₁.keeps
              ready' rest_within) ?_
            rintro ⟨started₂, plan₂, v₂⟩ ⟨order₂, ready₂⟩ kept₂
            refine Settles.bind (finishChunk_settles agrees kept₂.keeps sp_within word) ?_
            rintro ⟨res, v₃⟩ yields₃ kept₃
            rw [← order₂]
            exact deliver_settles kept₃.keeps same_remote same_path yields₃ ready₂ plan₂

/-- What draining a read whose chunks still to come are `rest`, after the pieces `acc`, gives:
the wanted bytes of the first `k` of those chunks after `acc`, all of them unless it ended with
an error, which a remote side serving in full never gives. -/
def Drained (c : List UInt8) (serves : Prop) (rest : List ChunkSpec) (acc : List (List UInt8))
    (out : List (List UInt8) × Option ProxyError) : Prop :=
  ∃ k, out.1 = acc ++ (rest.take k).map (fun sp => sp.wanted.bytesOf c) ∧
    (out.2 = none → k = rest.length) ∧ (serves → out.2 = none)

/-- Draining with more fuel than chunks still to come delivers their wanted bytes in order.
The induction is on the fuel: each pull delivers the first chunk, or ends the read. -/
theorem drain_go_settles (agrees : Agrees reg remote c inv) (word : c.length + Cache.expiryLength < wordBound) :
    ∀ (fuel : Nat) (rest : List ChunkSpec) (reading : Reading) (v : Vfs σ) (acc : List (List UInt8)),
      v.Keeps c path inv → reading.Follows c (Serves reg remote c inv) remote path rest →
      (∀ sp ∈ rest, sp.Within c.length) → rest.length < fuel →
      Settles c path inv now v (·.2.2) (fun out => Drained c (Serves reg remote c inv) rest acc (out.1, out.2.1))
        (drain.go reg now fuel reading v acc)
  | 0, _, _, _, _, _, _, _, short => absurd short (Nat.not_lt_zero _)
  | fuel + 1, rest, reading, v, acc, keeps, follows, within, enough => by
    rw [drain.go]
    refine Settles.bind (pull_settles agrees word keeps follows within) ?_
    rintro ⟨next, reading', v'⟩ pulled kept
    dsimp only at pulled kept ⊢
    cases next with
    | none =>
      have empty : rest = [] := pulled
      subst empty
      exact ⟨⟨0, by simp, fun _ => rfl, fun _ => rfl⟩, kept_refl kept.keeps⟩
    | some res =>
      cases res with
      | ok d =>
        obtain ⟨sp, rest', rfl, rfl, follows'⟩ := pulled
        refine Settles.mono (drain_go_settles agrees word fuel rest' reading' v' (acc ++ [sp.wanted.bytesOf c])
          kept.keeps follows' (fun sp' mem => within sp' (by simp [mem])) (by simp only [List.length_cons] at enough; omega)) ?_
        rintro ⟨pieces, failure, v''⟩ ⟨k, delivered, whole, live⟩
        refine ⟨k + 1, ?_, fun ended => by simp [whole ended], live⟩
        simp only at delivered ⊢
        simp [delivered]
      | error e =>
        obtain ⟨not_serving, -⟩ := pulled
        exact ⟨⟨0, by simp, (fun ended => by cases ended), fun serving => absurd serving not_serving⟩,
          kept_refl kept.keeps⟩

/-- Draining a read delivers the wanted bytes of the chunks still to come, in order. -/
theorem drain_settles (now : Nat) (agrees : Agrees reg remote c inv) (word : c.length + Cache.expiryLength < wordBound)
    {v : Vfs σ} (keeps : v.Keeps c path inv) {rest : List ChunkSpec} {reading : Reading}
    (follows : reading.Follows c (Serves reg remote c inv) remote path rest)
    (within : ∀ sp ∈ rest, sp.Within c.length) :
    Settles c path inv now v (·.2.2) (fun out => Drained c (Serves reg remote c inv) rest [] (out.1, out.2.1))
      (v.drain reg now reading) := by
  refine drain_go_settles agrees word reading.bound rest reading v [] keeps follows within ?_
  cases reading with
  | chunks r =>
    rw [← follows.order]
    simp only [Reading.bound, List.length_append, List.length_map, ChunkPlan.length_toList]
    omega
  | finished =>
    have empty : rest = [] := follows
    simp [Reading.bound, empty]
  | direct pieces failure => exact absurd follows id

/-- A read of a file of known size starts as a chunked read of its plan, filed under the
file's version path. -/
theorem openRead_known {v : Vfs σ} {file : Fs.FileInfo} {size : Nat} (sized : file.size = some size)
    {range : Option ByteRange} {plan : ChunkPlan} (planned : ChunkPlan.make v.chunkSize size range = .ok plan) :
    v.openRead reg file range =
      .ok (.ok (.chunks ⟨file.remote, Cache.versionPath file.remote size, [], plan⟩), v) := by
  simp only [openRead, sized, planned]
  rfl

/-- Draining a fresh read of the chunks planned for the bytes `range` of `c`: it faults only
when a chunk it stores would expire past the clock; otherwise its pieces are the wanted parts of
the plan's first chunks, in order, joining into a prefix of the bytes asked for, all of them
unless the read ended with an error, which a remote side serving in full never causes; and the
cache still holds the file's chunks. -/
theorem drain_planned_read (now : Nat) (agrees : Agrees reg remote c inv)
    (word : c.length + Cache.expiryLength < wordBound) {v : Vfs σ} (keeps : v.Keeps c path inv)
    {range : Option ByteRange} {plan : ChunkPlan} (planned : ChunkPlan.make v.chunkSize c.length range = .ok plan)
    (ordered : ∀ r ∈ range, r.first ≤ r.last) :
    (∀ f, v.drain reg now (.chunks ⟨remote, path, [], plan⟩) = .error f →
      f = Cache.timeOverflow ∧ ¬ v.TtlFits now) ∧
    ∀ pieces failure v', v.drain reg now (.chunks ⟨remote, path, [], plan⟩) = .ok (pieces, failure, v') →
      (∃ k, pieces = (plan.toList.take k).map (fun sp => sp.wanted.bytesOf c) ∧
        (failure = none → k = plan.toList.length)) ∧
      pieces.flatten <+: wantedBytes c range ∧
      (failure = none → pieces.flatten = wantedBytes c range) ∧
      (Serves reg remote c inv → failure = none) ∧
      v'.Keeps c path inv := by
  obtain ⟨covers, within⟩ := ChunkPlan.flatten_wanted_make planned (by omega) ordered c rfl
  have follows : (Reading.chunks ⟨remote, path, [], plan⟩).Follows c (Serves reg remote c inv) remote path
      plan.toList :=
    ⟨rfl, rfl, by simp, by simp⟩
  have drained := drain_settles now agrees word keeps follows within
  constructor
  · intro f faulted
    rw [faulted] at drained
    exact drained
  · intro pieces failure v' ended
    rw [ended] at drained
    obtain ⟨⟨k, delivered, whole, live⟩, kept⟩ := drained
    simp only [List.nil_append] at delivered whole live
    -- the pieces are the wanted parts of the plan's first `k` chunks, which begin the bytes asked for
    have joined : pieces.flatten <+: wantedBytes c range := by
      rw [delivered, ← covers, List.map_take]
      exact List.IsPrefix.flatten (List.take_prefix _ _)
    refine ⟨⟨k, delivered, whole⟩, joined, fun clean => ?_, live, kept.keeps⟩
    rw [delivered, whole clean, List.take_of_length_le (Nat.le_refl _), covers]

end Vfs

open Vfs

/-- A read of a file of known size, whose content is `c`, of the whole file or of a range that
starts inside it, drained to its end.  The cache holds the file's chunks, and the remote side
agrees with `c`: what it sends for a range begins the range's bytes, or the whole content,
or is begun by them.  Then the read faults only when the expiry of a chunk it stores lies past
the clock; otherwise its pieces are the wanted parts of the plan's first chunks, in file order,
so they join into a prefix of the bytes asked for (all of them unless the read ended with an
error, and it never does when the remote side serves in full), and the cache still holds the
file's chunks. -/
theorem chunked_read_delivers_requested_bytes {σ : Type} [RemoteFs σ] (v : Vfs σ) (reg : Registry) (now : Nat)
    (file : Fs.FileInfo) (c : List UInt8) (sized : file.size = some c.length)
    (word : c.length + Cache.expiryLength < wordBound) (range : Option ByteRange)
    (asked : ∀ r ∈ range, r.first ≤ r.last ∧ r.first < c.length) (inv : σ → Prop)
    (agrees : Agrees reg file.remote c inv) (keeps : v.Keeps c (Cache.versionPath file.remote c.length) inv) :
    ∃ plan reading, ChunkPlan.make v.chunkSize c.length range = .ok plan ∧
      v.openRead reg file range = .ok (.ok reading, v) ∧
      (∀ f, v.drain reg now reading = .error f → f = Cache.timeOverflow ∧ ¬ v.TtlFits now) ∧
      ∀ pieces failure v', v.drain reg now reading = .ok (pieces, failure, v') →
        (∃ k, pieces = (plan.toList.take k).map (fun sp => sp.wanted.bytesOf c) ∧
          (failure = none → k = plan.toList.length)) ∧
        pieces.flatten <+: wantedBytes c range ∧
        (failure = none → pieces.flatten = wantedBytes c range) ∧
        (Serves reg file.remote c inv → failure = none) ∧
        v'.Keeps c (Cache.versionPath file.remote c.length) inv := by
  obtain ⟨plan, planned⟩ := ChunkPlan.make_ok v.chunkSize c.length (fun r mem => (asked r mem).2)
  exact ⟨plan, _, planned, openRead_known sized planned,
    drain_planned_read now agrees word keeps planned (fun r mem => (asked r mem).1)⟩

/-! ## A file of ten bytes -/

/-- The bytes of `abcdefghij`. -/
def tenBytes : List UInt8 := [97, 98, 99, 100, 101, 102, 103, 104, 105, 106]

/-- `tenBytes`, sent whole whatever range is asked for. -/
def wholeObject : TableObject := { content := tenBytes, honorRange := false }

/-- An origin holding `wholeObject` at `u1`. -/
def wholeOrigin : Table := { objects := [("u1", wholeObject)] }

/-- `f1` registered for `u1` at a known size of ten bytes. -/
def tenRegistry : Registry := { entries := [("f1", { url := "u1", known := some (10, 0) })] }

/-- `f1` at ten bytes, modified at the epoch, of plain text. -/
def tenFile : Fs.FileInfo := ⟨"f1", some 10, 0, some "text/plain"⟩

/-- Reads over `wholeOrigin` in chunks of four bytes, two ahead, with an empty memory cache
whose entries live `ttl` seconds. -/
def tenView (ttl : Nat) : Vfs Table :=
  { fs := wholeOrigin, cache := some (Cache.Tiered.memoryOnly ttl 1000000), chunkSize := 4,
    chunkStreams := 2, dirCacheTime := 0, metrics := none }

/-- Every open of `f1`, whatever was recorded before, sends all of `tenBytes` and keeps the
origin's objects. -/
theorem wholeOrigin_open {t : Table} (same : t.objects = wholeOrigin.objects) (hs : Http.Headers) :
    ∃ t', RemoteFs.openFile tenRegistry "f1" hs t = .ok (.ok ⟨200, wholeObject.body tenBytes⟩, t') ∧
      t'.objects = wholeOrigin.objects := by
  have registered : tenRegistry.lookup (Fs.leafName "f1") = some { url := "u1", known := some (10, 0) } := by
    decide +kernel
  have found : ∀ call, (t.record call).find? "u1" = some wholeObject := by
    intro call
    simp [Table.find?, Table.record, same, wholeOrigin]
  refine ⟨t.record ("open " ++ "f1" ++ " " ++ (hs.getText? "range").getD "-"), ?_, same⟩
  show Except.ok (Table.openFile tenRegistry "f1" hs t) = _
  simp only [Table.openFile, registered, found]
  -- the object opens, and ignores any range
  split
  · rename_i impossible
    cases impossible
  split
  · rename_i impossible
    cases impossible
  · rfl

/-- The origin's answers begin with the bytes of each range asked for, being all of `tenBytes`. -/
theorem wholeOrigin_agrees :
    Agrees tenRegistry "f1" tenBytes (fun t : Table => t.objects = wholeOrigin.objects) := by
  intro t r same
  obtain ⟨t', opened, same'⟩ := wholeOrigin_open same (rangeHeaders r)
  refine ⟨_, _, opened, same', fun obj sent => ?_⟩
  cases sent
  right
  show tenBytes <+: Body.bytes _
  decide

/-- An empty memory cache holds the chunks of every file. -/
theorem tenView_keeps (ttl : Nat) :
    (tenView ttl).Keeps tenBytes (Cache.versionPath "f1" 10) (fun t : Table => t.objects = wholeOrigin.objects) := by
  refine ⟨fun t cached => ?_, rfl⟩
  cases cached
  constructor
  · intro s mem
    cases mem
  · intro tier none_tier
    cases none_tier

/-- Bytes 2 to 7 of `tenBytes`, read over `wholeOrigin`, are delivered whole. -/
theorem ten_byte_read_delivers_range :
    tenFile.size = some tenBytes.length ∧ tenBytes.length + Cache.expiryLength < wordBound ∧
    (∀ r ∈ some (⟨2, 7⟩ : ByteRange), r.first ≤ r.last ∧ r.first < tenBytes.length) ∧
    Agrees tenRegistry tenFile.remote tenBytes (fun t : Table => t.objects = wholeOrigin.objects) ∧
    (tenView 60).Keeps tenBytes (Cache.versionPath tenFile.remote tenBytes.length)
      (fun t : Table => t.objects = wholeOrigin.objects) ∧
    ∃ plan reading, ChunkPlan.make (tenView 60).chunkSize tenBytes.length (some ⟨2, 7⟩) = .ok plan ∧
      (tenView 60).openRead tenRegistry tenFile (some ⟨2, 7⟩) = .ok (.ok reading, tenView 60) ∧
      (∀ f, (tenView 60).drain tenRegistry 0 reading = .error f →
        f = Cache.timeOverflow ∧ ¬ (tenView 60).TtlFits 0) ∧
      ∀ pieces failure v', (tenView 60).drain tenRegistry 0 reading = .ok (pieces, failure, v') →
        (∃ k, pieces = (plan.toList.take k).map (fun sp => sp.wanted.bytesOf tenBytes) ∧
          (failure = none → k = plan.toList.length)) ∧
        pieces.flatten <+: wantedBytes tenBytes (some ⟨2, 7⟩) ∧
        (failure = none → pieces.flatten = wantedBytes tenBytes (some ⟨2, 7⟩)) ∧
        (Serves tenRegistry tenFile.remote tenBytes (fun t : Table => t.objects = wholeOrigin.objects) →
          failure = none) ∧
        v'.Keeps tenBytes (Cache.versionPath tenFile.remote tenBytes.length)
          (fun t : Table => t.objects = wholeOrigin.objects) := by
  have asked : ∀ r ∈ some (⟨2, 7⟩ : ByteRange), r.first ≤ r.last ∧ r.first < tenBytes.length := by
    intro r mem
    cases mem
    decide
  have word : tenBytes.length + Cache.expiryLength < wordBound := by decide
  refine ⟨rfl, word, asked, wholeOrigin_agrees, tenView_keeps 60, ?_⟩
  exact chunked_read_delivers_requested_bytes (tenView 60) tenRegistry 0 tenFile tenBytes rfl word
    (some ⟨2, 7⟩) asked _ wholeOrigin_agrees (tenView_keeps 60)

/-- With a time to live of `2^64 - 1` seconds the first chunk stored would expire past the
clock, and reading all of `tenBytes` faults instead of delivering it. -/
theorem chunked_read_faults_on_huge_ttl :
    ∃ reading, (tenView (wordBound - 1)).openRead tenRegistry tenFile none =
        .ok (.ok reading, tenView (wordBound - 1)) ∧
      ((tenView (wordBound - 1)).drain tenRegistry 0 reading).map (fun out => out.1) =
        .error Cache.timeOverflow :=
  ⟨_, rfl, by decide +kernel⟩

end ChunkProxy
