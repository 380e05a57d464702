import ChunkProxy.Proofs.DirectoryPaths
import ChunkProxy.Proofs.MetadataProbe
import ChunkProxy.Proofs.StatRegistered
import Mathlib.Data.List.Sort
import Mathlib.Data.String.Basic
/-!
# Listing the directories of registered URLs

The file system of registered URLs (`Remote.LinkFs`) has no directories of its own: every
registered identifier is a file at its sharded path, and a directory is there while some such
path lies below it.  Given the identifiers' paths `paths` and a directory cleaned to `D`, this
module states what the file system answers (`LinkFs.AnswersDirectories`):

* a listing names first the subdirectories `D/s` that paths pass through, each once and in
  increasing order (`LinkFs.ListedSubdirs`), then, in order, the files directly in `D`
  (`LinkFs.ListedFiles`) whose stat succeeds;
* the prefix scan of `LinkFs.dirExists` and the test that lists the parent
  (`listedDirExists`) give one answer: `D` is the root or some path lies below it;
* a view that remembers no stats answers a path with the file system's stat when its leaf is
  registered, and otherwise with the directory when it exists, or "not found"
  (`Vfs.StatsUnmemoised`).

A stat's answer depends on the pacer's policy only, never on its spacing or the retries
counted so far (`Pacer.call_called_eq`, `LinkFs.stat_steady`): so the stats a listing makes
one after another each answer as a stat from the starting state would
(`LinkFs.foldlM_keepStat`).

The main statement is `LinkFs.directories_listed_and_found`.  It holds at every shard depth
whose doubling fits a word and for every retry budget whose count of attempts fits one; past
either bound, sharding a path or retrying a stat faults.
-/

namespace ChunkProxy.Remote

set_option autoImplicit false

open Fs

/-- Resolving with two pacers of one policy gives one answer. -/
theorem resolve_of_policy (net : Network) {p p' : Pacer} (same : p'.policy = p.policy)
    (fits : p.policy.maxRetries + 1 < wordBound) (entry : RegistryEntry) (now : Int) :
    ∃ res q q', resolve net p entry now = .ok (res, q) ∧ resolve net p' entry now = .ok (res, q') ∧
      q.policy = p.policy ∧ q'.policy = p.policy := by
  obtain ⟨c, q, called⟩ := Pacer.call_ok (probeAttempt net.upstream entry) retryableOutcome p () fits
  obtain ⟨c', q', called'⟩ :=
    Pacer.call_ok (probeAttempt net.upstream entry) retryableOutcome p' () (by rw [same]; exact fits)
  rw [Pacer.call_called_eq _ _ same fits called called'] at called'
  refine ⟨probeAnswer entry now c.outcome, q, q', ?_, ?_, Pacer.callFrom_policy _ _ _ _ _ _ _ _ called,
    (Pacer.callFrom_policy _ _ _ _ _ _ _ _ called').trans same⟩
  · unfold resolve
    rw [resolveFrom_eq, called]
    rfl
  · unfold resolve
    rw [resolveFrom_eq, called']
    rfl

namespace LinkFs

/-- Two states of the file system that answer alike: one network, one retry policy. -/
structure Steady (fs₀ fs : LinkFs) : Prop where
  network : fs.network = fs₀.network
  policy : fs.pacer.policy = fs₀.pacer.policy

theorem Steady.refl (fs : LinkFs) : Steady fs fs := ⟨rfl, rfl⟩

/-- The file a stat finds; none when it fails or faults. -/
def statFound (reg : Registry) (path : String) (now : Int) (fs : LinkFs) : Option FileInfo :=
  match stat reg path now fs with
  | .ok (.ok info, _) => some info
  | _ => none

variable (reg : Registry) (now : Int)

/-- A stat answers alike in steady states, and leaves the state steady. -/
theorem stat_steady {fs₀ fs : LinkFs} (steady : Steady fs₀ fs) (fits : fs₀.pacer.policy.maxRetries + 1 < wordBound)
    (path : String) :
    ∃ res fsA fsB, stat reg path now fs₀ = .ok (res, fsA) ∧ stat reg path now fs = .ok (res, fsB) ∧
      Steady fs₀ fsB := by
  unfold stat
  dsimp only
  cases reg.lookup (leafName path) with
  | none => exact ⟨_, fs₀, fs, rfl, rfl, steady⟩
  | some e =>
    dsimp only
    cases e.known with
    | some known => exact ⟨_, fs₀, fs, rfl, rfl, steady⟩
    | none =>
      obtain ⟨res, q, q', resolved, resolved', -, kept'⟩ := resolve_of_policy fs₀.network steady.policy fits e now
      rw [steady.network, resolved, resolved']
      cases res with
      | ok m => exact ⟨_, _, _, rfl, rfl, ⟨rfl, kept'⟩⟩
      | error err => exact ⟨_, _, _, rfl, rfl, ⟨rfl, kept'⟩⟩

theorem statFound_of_stat {reg : Registry} {now : Int} {fs : LinkFs} {path : String} {res : Except ProxyError FileInfo} {fs' : LinkFs}
    (statted : stat reg path now fs = .ok (res, fs')) : statFound reg path now fs = res.toOption := by
  unfold statFound
  rw [statted]
  cases res <;> rfl

/-- One step of a listing keeps the node of a file whose stat succeeds. -/
theorem keepStat_steady {fs₀ fs : LinkFs} (steady : Steady fs₀ fs) (fits : fs₀.pacer.policy.maxRetries + 1 < wordBound)
    (acc : List Node) (path : String) :
    ∃ fs', keepStat reg now (acc, fs) path = .ok (acc ++ ((statFound reg path now fs₀).map Node.file).toList, fs') ∧
      Steady fs₀ fs' := by
  obtain ⟨res, fsA, fsB, statted₀, statted, steady'⟩ := stat_steady reg now steady fits path
  rw [statFound_of_stat statted₀]
  unfold keepStat
  rw [statted]
  cases res with
  | ok info => exact ⟨fsB, rfl, steady'⟩
  | error e => exact ⟨fsB, by simp [bind, Except.bind, pure, Except.pure, Except.toOption], steady'⟩

/-- A run of listing steps keeps, in order, the nodes of the files whose stat succeeds. -/
theorem foldlM_keepStat {fs₀ : LinkFs} (fits : fs₀.pacer.policy.maxRetries + 1 < wordBound) :
    ∀ (files : List String) (acc : List Node) (fs : LinkFs), Steady fs₀ fs →
      ∃ fs', files.foldlM (keepStat reg now) (acc, fs) =
        .ok (acc ++ files.filterMap (fun p => (statFound reg p now fs₀).map Node.file), fs')
  | [], acc, fs, _ => ⟨fs, by simp [pure, Except.pure]⟩
  | path :: files, acc, fs, steady => by
    obtain ⟨fs', step, steady'⟩ := keepStat_steady reg now steady fits acc path
    obtain ⟨fs'', rest⟩ := foldlM_keepStat fits files _ fs' steady'
    refine ⟨fs'', ?_⟩
    rw [List.foldlM_cons, step]
    simp only [bind, Except.bind]
    rw [rest, List.filterMap_cons]
    cases statFound reg path now fs₀ <;> simp

/-! ## Where a path stands below a directory -/

theorem placeBelow_joinDir_of_noSlash {dir name : String} (noSlash : '/' ∉ name.toList) :
    placeBelow dir (joinDir dir name) = some (.inl (joinDir dir name)) := by
  unfold placeBelow
  rw [relativeTo_eq_some_iff.mpr rfl, Option.map_some, splitOn_slash_of_noSlash noSlash]

theorem placeBelow_joinDir_append {dir name : String} (noSlash : '/' ∉ name.toList) (rest : String) :
    placeBelow dir (joinDir dir (name ++ "/" ++ rest)) = some (.inr (joinDir dir name)) := by
  obtain ⟨first, more, pieces⟩ := List.exists_cons_of_ne_nil (splitOn_slash_ne_nil rest)
  unfold placeBelow
  rw [relativeTo_eq_some_iff.mpr rfl, Option.map_some, splitOn_slash_append noSlash, pieces]

theorem exists_joinDir_of_placeBelow {dir path : String} {place : Sum String String}
    (placed : placeBelow dir path = some place) : ∃ name, path = joinDir dir name := by
  unfold placeBelow at placed
  obtain ⟨name, relative, -⟩ := Option.map_eq_some_iff.mp placed
  exact ⟨name, relativeTo_eq_some_iff.mp relative⟩

theorem placeBelow_eq_file_iff {dir path f : String} :
    placeBelow dir path = some (.inl f) ↔ f = path ∧ DirectlyIn dir path := by
  constructor
  · intro placed
    obtain ⟨name, rfl⟩ := exists_joinDir_of_placeBelow placed
    rcases noSlash_or_split name with none | ⟨first, rest, noSlash, rfl⟩
    · rw [placeBelow_joinDir_of_noSlash none] at placed
      cases placed
      exact ⟨rfl, name, none, rfl⟩
    · rw [placeBelow_joinDir_append noSlash] at placed
      cases placed
  · rintro ⟨rfl, name, noSlash, rfl⟩
    exact placeBelow_joinDir_of_noSlash noSlash

theorem placeBelow_eq_subdir_iff {dir path sub : String} :
    placeBelow dir path = some (.inr sub) ↔ Toward dir path sub := by
  constructor
  · intro placed
    obtain ⟨name, rfl⟩ := exists_joinDir_of_placeBelow placed
    rcases noSlash_or_split name with none | ⟨first, rest, noSlash, rfl⟩
    · rw [placeBelow_joinDir_of_noSlash none] at placed
      cases placed
    · rw [placeBelow_joinDir_append noSlash] at placed
      cases placed
      exact ⟨first, rest, noSlash, rfl, joinDir_append dir first rest⟩
  · rintro ⟨name, rest, noSlash, rfl, rfl⟩
    rw [← joinDir_append]
    exact placeBelow_joinDir_append noSlash rest

instance (dir path : String) : Decidable (DirectlyIn dir path) :=
  decidable_of_iff (placeBelow dir path = some (.inl path)) (by rw [placeBelow_eq_file_iff]; simp)

/-! ## The entries of a listing -/

/-- The subdirectories a listing names: each that some path passes through, once, in
increasing order. -/
structure ListedSubdirs (dir : String) (paths subdirs : List String) : Prop where
  increasing : subdirs.Pairwise (· < ·)
  mem_iff : ∀ sub, sub ∈ subdirs ↔ ∃ p ∈ paths, Toward dir p sub

/-- The files a listing names: the paths of entries of the directory itself, one per path,
in order. -/
structure ListedFiles (dir : String) (paths files : List String) : Prop where
  sorted : files.Pairwise (· ≤ ·)
  perm : files.Perm (paths.filter (DirectlyIn dir ·))

theorem pairwise_mergeSort_le (l : List String) :
    (l.mergeSort fun a b => decide (a ≤ b)).Pairwise (· ≤ ·) :=
  List.pairwise_mergeSort' (· ≤ ·) l

/-- Dropping repeats from a sorted list leaves it increasing. -/
theorem pairwise_lt_eraseDups : ∀ {l : List String}, l.Pairwise (· ≤ ·) → l.eraseDups.Pairwise (· < ·)
  | [], _ => by simp
  | a :: l, sorted => by
    rw [List.eraseDups_cons]
    obtain ⟨least, rest⟩ := List.pairwise_cons.mp sorted
    refine List.pairwise_cons.mpr ⟨?_, pairwise_lt_eraseDups (rest.filter _)⟩
    intro b mem
    obtain ⟨later, other⟩ := List.mem_filter.mp (List.mem_eraseDups.mp mem)
    exact lt_of_le_of_ne (least b later) fun same => by simp [same] at other
termination_by l => l.length
decreasing_by
  have shorter := List.length_filter_le (fun b => !b == a) l
  simp only [List.length_cons]
  omega

theorem filesIn_listed (dir : String) (paths : List String) : ListedFiles dir paths (filesIn dir paths) where
  sorted := pairwise_mergeSort_le _
  perm := by
    refine (List.mergeSort_perm _ _).trans (List.Perm.of_eq ?_)
    rw [List.filterMap_filterMap, ← List.filterMap_eq_filter]
    apply List.filterMap_congr
    intro p _
    cases placed : placeBelow dir p with
    | none =>
      have outside : ¬ DirectlyIn dir p := fun direct => by
        rw [(placeBelow_eq_file_iff.mpr ⟨rfl, direct⟩)] at placed
        cases placed
      simp [Option.guard, outside]
    | some place =>
      cases place with
      | inl f =>
        obtain ⟨rfl, direct⟩ := placeBelow_eq_file_iff.mp placed
        simp [direct]
      | inr sub =>
        have outside : ¬ DirectlyIn dir p := fun direct => by
          rw [(placeBelow_eq_file_iff.mpr ⟨rfl, direct⟩)] at placed
          cases placed
        simp [Option.guard, outside]

theorem subdirsIn_listed (dir : String) (paths : List String) : ListedSubdirs dir paths (subdirsIn dir paths) where
  increasing := pairwise_lt_eraseDups (pairwise_mergeSort_le _)
  mem_iff sub := by
    unfold subdirsIn
    rw [List.mem_eraseDups, (List.mergeSort_perm _ _).mem_iff, List.mem_filterMap]
    constructor
    · rintro ⟨place, listed, chosen⟩
      obtain ⟨p, mem, placed⟩ := List.mem_filterMap.mp listed
      cases place with
      | inl f => cases chosen
      | inr sub' =>
        cases chosen
        exact ⟨p, mem, placeBelow_eq_subdir_iff.mp placed⟩
    · rintro ⟨p, mem, toward⟩
      exact ⟨.inr sub, List.mem_filterMap.mpr ⟨p, mem, placeBelow_eq_subdir_iff.mpr toward⟩, rfl⟩

/-! ## Listings -/

/-- A listing gives the subdirectories, then the files whose stat succeeds. -/
theorem list_eq {fs : LinkFs} {paths : List String} (mapped : reg.identifiers.mapM fs.pathOf = .ok paths)
    (fits : fs.pacer.policy.maxRetries + 1 < wordBound) (dir : String) :
    ∃ fs', list reg dir now fs = .ok (.ok ((subdirsIn (cleanDir dir) paths).map (Node.dir · now) ++
      (filesIn (cleanDir dir) paths).filterMap fun p => (statFound reg p now fs).map Node.file), fs') := by
  obtain ⟨fs', folded⟩ := foldlM_keepStat reg now fits (filesIn (cleanDir dir) paths) [] fs (Steady.refl fs)
  refine ⟨fs', ?_⟩
  unfold list
  simp only [mapped, folded, bind, Except.bind, pure, Except.pure, List.nil_append]

/-- Whether a directory exists: the root always, any other once some path lies below it. -/
theorem dirExists_eq {fs : LinkFs} {paths : List String} (mapped : reg.identifiers.mapM fs.pathOf = .ok paths)
    (dir : String) :
    ∃ b, fs.dirExists reg dir = .ok b ∧ (b = true ↔ cleanDir dir = "" ∨ Occupied (cleanDir dir) paths) := by
  unfold dirExists
  dsimp only
  by_cases root : (cleanDir dir).isEmpty
  · rw [if_pos root]
    exact ⟨true, rfl, by simp [String.isEmpty_iff.mp root]⟩
  · rw [if_neg root]
    have nonempty : cleanDir dir ≠ "" := fun empty => root (String.isEmpty_iff.mpr empty)
    simp only [mapped, bind, Except.bind, pure, Except.pure]
    refine ⟨_, rfl, ?_⟩
    simp only [List.any_eq_true, startsWith_iff, Occupied, nonempty, false_or]

/-- Judged by listing the parent, a directory exists exactly when the prefix scan says so. -/
theorem listedDirExists_list {fs : LinkFs} {paths : List String} (mapped : reg.identifiers.mapM fs.pathOf = .ok paths)
    (fits : fs.pacer.policy.maxRetries + 1 < wordBound) (dir : String) :
    ∃ b fs', listedDirExists list reg dir now fs = .ok (.ok b, fs') ∧
      (b = true ↔ cleanDir dir = "" ∨ Occupied (cleanDir dir) paths) := by
  unfold listedDirExists
  dsimp only
  by_cases root : (cleanDir dir).isEmpty
  · rw [if_pos root]
    exact ⟨true, fs, rfl, by simp [String.isEmpty_iff.mp root]⟩
  · rw [if_neg root]
    have nonempty : cleanDir dir ≠ "" := fun empty => root (String.isEmpty_iff.mpr empty)
    obtain ⟨parentClean, -⟩ := (clean_cleanDir dir).eq_joinDir_parentDir nonempty
    obtain ⟨fs', listed⟩ := list_eq reg now mapped fits (parentDir (cleanDir dir))
    rw [parentClean.cleanDir_eq] at listed
    simp only [listed, bind, Except.bind, pure, Except.pure]
    refine ⟨_, fs', rfl, ?_⟩
    -- the parent's listing names the directory exactly when some path passes through it
    simp only [List.any_eq_true, List.mem_append, List.mem_map, List.mem_filterMap, Option.map_eq_some_iff,
      nonempty, false_or]
    constructor
    · rintro ⟨n, (⟨sub, listed, rfl⟩ | ⟨p, -, info, -, rfl⟩), named⟩
      · obtain rfl : sub = cleanDir dir := by simpa using named
        obtain ⟨p, mem, toward⟩ := ((subdirsIn_listed _ paths).mem_iff _).mp listed
        exact ⟨p, mem, ((clean_cleanDir dir).toward_parentDir_iff nonempty).mp toward⟩
      · cases named
    · rintro ⟨p, mem, below⟩
      have toward := ((clean_cleanDir dir).toward_parentDir_iff nonempty).mpr below
      exact ⟨.dir (cleanDir dir) now,
        .inl ⟨_, ((subdirsIn_listed _ paths).mem_iff _).mpr ⟨p, mem, toward⟩, rfl⟩, by simp⟩

end LinkFs

end ChunkProxy.Remote

namespace ChunkProxy.Vfs

set_option autoImplicit false

open Fs Remote

variable {v : Vfs LinkFs} {reg : Registry} {path : String}

/-- Without remembered stats, the stat of a path whose leaf is registered is the file
system's stat, as a file. -/
theorem stat_of_registered (off : v.dirCacheTime = 0) {entry : RegistryEntry}
    (registered : reg.lookup (leafName (cleanDir path)) = some entry)
    (fits : v.fs.pacer.policy.maxRetries + 1 < wordBound) (now : Nat) :
    ∃ res fs', LinkFs.stat reg (cleanDir path) now v.fs = .ok (res, fs') ∧
      v.stat reg path now = .ok (res.map Node.file, { v with fs := fs' }) := by
  obtain ⟨res, fs', statted, -, failed⟩ := LinkFs.stat_registered now v.fs registered fits
  refine ⟨res, fs', statted, ?_⟩
  have asked : RemoteFs.stat reg (cleanDir path) now v.fs = .ok (res, fs') := statted
  rw [stat_of_off off]
  unfold fetchStat
  simp only [asked, bind, Except.bind, pure, Except.pure]
  cases res with
  | ok info => rfl
  | error e =>
    obtain ⟨found, -⟩ := failed e rfl
    dsimp only
    rw [if_neg (by simp [found])]
    rfl

/-- Without remembered stats, the stat of a path whose leaf is not registered is the
directory when it exists, and "not found" otherwise. -/
theorem stat_of_unregistered (off : v.dirCacheTime = 0)
    (unregistered : reg.lookup (leafName (cleanDir path)) = none) {paths : List String}
    (mapped : reg.identifiers.mapM v.fs.pathOf = .ok paths) (now : Nat) :
    ∃ b, (b = true ↔ cleanDir path = "" ∨ Occupied (cleanDir path) paths) ∧
      v.stat reg path now =
        .ok (if b then .ok (.dir (cleanDir path) now) else .error (.notFound (leafName (cleanDir path))), v) := by
  obtain ⟨b, found, exists_iff⟩ := LinkFs.dirExists_eq reg mapped (cleanDir path)
  rw [cleanDir_cleanDir] at exists_iff
  refine ⟨b, exists_iff, ?_⟩
  have statted : LinkFs.stat reg (cleanDir path) now v.fs =
      .ok (.error (.notFound (leafName (cleanDir path))), v.fs) := by
    unfold LinkFs.stat
    dsimp only
    rw [unregistered]
    rfl
  have asked : RemoteFs.stat reg (cleanDir path) now v.fs =
      .ok (.error (.notFound (leafName (cleanDir path))), v.fs) := statted
  have askedDir : RemoteFs.dirExists reg (cleanDir path) now v.fs = .ok (.ok b, v.fs) := by
    show (LinkFs.dirExists reg (cleanDir path) v.fs).map _ = _
    rw [found]
    rfl
  rw [stat_of_off off]
  unfold fetchStat
  simp only [asked, bind, Except.bind, pure, Except.pure]
  -- "not found" sends the stat on to the directory test
  simp only [ProxyError.isNotFound, ↓reduceIte, askedDir]
  cases b <;> rfl

/-- What a stat through a view that remembers no stats answers, given the virtual paths of the
registered identifiers. -/
structure StatsUnmemoised (reg : Registry) (paths : List String) (v : Vfs LinkFs) (path : String) (now : Nat) :
    Prop where
  /-- A registered leaf: the file system's stat of the cleaned path, as a file. -/
  registered : ∀ entry, reg.lookup (leafName (cleanDir path)) = some entry →
    ∃ res fs', LinkFs.stat reg (cleanDir path) now v.fs = .ok (res, fs') ∧
      v.stat reg path now = .ok (res.map Node.file, { v with fs := fs' })
  /-- Any other: the directory when it is the root or some path lies below it, else "not
  found". -/
  unregistered : reg.lookup (leafName (cleanDir path)) = none →
    ∃ b, (b = true ↔ cleanDir path = "" ∨ Occupied (cleanDir path) paths) ∧
      v.stat reg path now =
        .ok (if b then .ok (.dir (cleanDir path) now) else .error (.notFound (leafName (cleanDir path))), v)

theorem statsUnmemoised (off : v.dirCacheTime = 0) {paths : List String}
    (mapped : reg.identifiers.mapM v.fs.pathOf = .ok paths) (fits : v.fs.pacer.policy.maxRetries + 1 < wordBound)
    (path : String) (now : Nat) : StatsUnmemoised reg paths v path now where
  registered _ found := stat_of_registered off found fits now
  unregistered missing := stat_of_unregistered off missing mapped now

end ChunkProxy.Vfs

namespace ChunkProxy.Remote.LinkFs

set_option autoImplicit false

open Fs

theorem pathOf_ok {fs : LinkFs} (shallow : 2 * fs.shardLevel < wordBound) (remote : String) :
    ∃ p, fs.pathOf remote = .ok p :=
  let ⟨p, sharded, _⟩ := Key.shardedPath_endsWith remote shallow
  ⟨p, sharded⟩

theorem mapM_pathOf_ok {fs : LinkFs} (shallow : 2 * fs.shardLevel < wordBound) :
    ∀ remotes : List String, ∃ paths, remotes.mapM fs.pathOf = .ok paths
  | [] => ⟨[], rfl⟩
  | remote :: remotes => by
    obtain ⟨p, placed⟩ := pathOf_ok shallow remote
    obtain ⟨paths, rest⟩ := mapM_pathOf_ok shallow remotes
    exact ⟨p :: paths, by simp [List.mapM_cons, placed, rest, bind, Except.bind, pure, Except.pure]⟩

/-- What the file system of registered URLs answers about directories, the registered
identifiers having the virtual paths `paths`. -/
structure AnswersDirectories (reg : Registry) (fs : LinkFs) (paths : List String) : Prop where
  /-- A listing names the subdirectories, then the files directly in the directory whose stat
  succeeds. -/
  lists : ∀ dir now, ∃ subdirs files fs',
    ListedSubdirs (cleanDir dir) paths subdirs ∧ ListedFiles (cleanDir dir) paths files ∧
    list reg dir now fs =
      .ok (.ok (subdirs.map (Node.dir · now) ++ files.filterMap fun p => (statFound reg p now fs).map Node.file), fs')
  /-- The prefix scan and the test that lists the parent agree, on the root and on every
  directory some path lies below. -/
  exists_iff : ∀ dir now, ∃ b fs', fs.dirExists reg dir = .ok b ∧ listedDirExists list reg dir now fs = .ok (.ok b, fs') ∧
    (b = true ↔ cleanDir dir = "" ∨ Occupied (cleanDir dir) paths)
  /-- A view remembering no stats answers each path as `Vfs.StatsUnmemoised` says. -/
  stats : ∀ v : Vfs LinkFs, v.fs = fs → v.dirCacheTime = 0 → ∀ path now, Vfs.StatsUnmemoised reg paths v path now

theorem directories_listed_and_found (reg : Registry) (fs : LinkFs) (shallow : 2 * fs.shardLevel < wordBound)
    (fits : fs.pacer.policy.maxRetries + 1 < wordBound) :
    ∃ paths, reg.identifiers.mapM fs.pathOf = .ok paths ∧ AnswersDirectories reg fs paths := by
  obtain ⟨paths, mapped⟩ := mapM_pathOf_ok shallow reg.identifiers
  refine ⟨paths, mapped, ⟨fun dir now => ?_, fun dir now => ?_, ?_⟩⟩
  · obtain ⟨fs', listed⟩ := list_eq reg now mapped fits dir
    exact ⟨_, _, fs', subdirsIn_listed _ paths, filesIn_listed _ paths, listed⟩
  · obtain ⟨b, scanned, scan_iff⟩ := dirExists_eq reg mapped dir
    obtain ⟨b', fs', judged, judge_iff⟩ := listedDirExists_list reg now mapped fits dir
    -- both answers hold exactly when the directory is the root or occupied
    obtain rfl : b' = b := Bool.eq_iff_iff.mpr (judge_iff.trans scan_iff.symm)
    exact ⟨b', fs', scanned, judged, scan_iff⟩
  · rintro v rfl off path now
    exact Vfs.statsUnmemoised off mapped fits path now

/-- One file registered with its size, listed at the root of `quietLink`. -/
def oneSized : Registry := { entries := [("x", { url := "https://x.example/x", known := some (0, 0) })] }

theorem one_sized_file_listed :
    2 * Handler.quietLink.shardLevel < wordBound ∧ Handler.quietLink.pacer.policy.maxRetries + 1 < wordBound ∧
    ∃ paths, oneSized.identifiers.mapM Handler.quietLink.pathOf = .ok paths ∧
      AnswersDirectories oneSized Handler.quietLink paths :=
  ⟨by decide, by decide, directories_listed_and_found oneSized Handler.quietLink (by decide) (by decide)⟩

end ChunkProxy.Remote.LinkFs
