import ChunkProxy.Cache.Tiered
import ChunkProxy.Proofs.ChunkCover
import Mathlib.Data.List.Basic
/-!
# What the chunk cache holds

The chunks of one version of a file are filed under one path: in memory under the
key `path/start-end`, on disk as the file `start-end` below the path's plain
segments.  `Tiered.Holds c path` says every chunk so filed holds its bytes of the
file's content `c`, and every chunk file also an expiry the clock can read.

Names are what make this an invariant: a range's name is two decimal numbers and a
dash, so it names one range (`rangeName_injective`), and has no dot, so the copy a
chunk is written aside under is no chunk's file (`partialName_ne_rangeName`).
Each operation of the cache keeps `Holds` when what it stores is the chunk's bytes:
a lookup only marks or drops entries, a removal or a new directory only takes files
away (`Disk.Shrinks`), and writing a chunk adds the chunk file and its copy aside
(`writeChunk_files`).  What a lookup then finds is the chunk's bytes.
-/

namespace ChunkProxy

set_option autoImplicit false

/-- Removing the entries of one key from an association list hides that key and no other. -/
theorem lookup_filter_ne {α β : Type} [BEq α] [LawfulBEq α] [DecidableEq α] (p q : α) :
    ∀ l : List (α × β), (l.filter (·.1 != p)).lookup q = if q = p then none else l.lookup q
  | [] => by simp
  | (k, v) :: rest => by
    have ih := lookup_filter_ne p q rest
    by_cases removed : k = p
    · subst removed
      rw [List.filter_cons_of_neg (by simp), ih]
      by_cases same : q = k
      · simp [same]
      · simp [same, List.lookup_cons, beq_false_of_ne same]
    · rw [List.filter_cons_of_pos (by simpa using removed)]
      by_cases same : q = k
      · subst same
        simp [removed]
      · simp [List.lookup_cons, beq_false_of_ne same, ih]

end ChunkProxy

namespace ChunkProxy.Cache

set_option autoImplicit false

/-! ## Names -/

theorem toDigits_ten_injective {a b : Nat} (same : Nat.toDigits 10 a = Nat.toDigits 10 b) : a = b := by
  rw [← Nat.ofDigitChars_ten_toDigits (n := a), same, Nat.ofDigitChars_ten_toDigits]

/-- A decimal numeral is digits only. -/
theorem not_mem_toDigits {c : Char} (notDigit : c.isDigit = false) (n : Nat) : c ∉ Nat.toDigits 10 n :=
  fun mem => absurd (Nat.isDigit_of_mem_toDigits (by decide) (by decide) mem) (by rw [notDigit]; decide)

theorem rangeName_toList (r : ByteRange) :
    (rangeName r).toList = Nat.toDigits 10 r.first ++ '-' :: Nat.toDigits 10 r.last := by
  simp [rangeName, showNat]

theorem rangeName_injective : Function.Injective rangeName := by
  intro r r' same
  have split := congrArg String.toList same
  rw [rangeName_toList, rangeName_toList,
    List.append_cons_inj_of_notMem (not_mem_toDigits (by decide) _) (not_mem_toDigits (by decide) _)] at split
  obtain ⟨first, -, last⟩ := split
  cases r
  cases r'
  simp only [ByteRange.mk.injEq]
  exact ⟨toDigits_ten_injective first, toDigits_ten_injective last⟩

/-- A range's name is digits and a dash. -/
theorem isDigit_or_dash_of_mem_rangeName {r : ByteRange} {c : Char} (mem : c ∈ (rangeName r).toList) :
    c.isDigit = true ∨ c = '-' := by
  rw [rangeName_toList] at mem
  simp only [List.mem_append, List.mem_cons] at mem
  rcases mem with digit | dash | digit
  · exact .inl (Nat.isDigit_of_mem_toDigits (by decide) (by decide) digit)
  · exact .inr dash
  · exact .inl (Nat.isDigit_of_mem_toDigits (by decide) (by decide) digit)

theorem not_mem_rangeName {r : ByteRange} {c : Char} (notDigit : c.isDigit = false) (notDash : c ≠ '-') :
    c ∉ (rangeName r).toList := fun mem =>
  (isDigit_or_dash_of_mem_rangeName mem).elim (fun digit => by rw [notDigit] at digit; cases digit) notDash

theorem chunkKey_injective (path : String) : Function.Injective (chunkKey path) := by
  intro r r' same
  apply rangeName_injective
  have split := congrArg String.toList same
  simp only [chunkKey, String.toList_append] at split
  exact String.toList_injective (List.append_cancel_left split)

theorem chunkFile_injective (base : List String) (path : String) :
    Function.Injective fun r => base ++ chunkFile path r := by
  intro r r' same
  simp only [chunkFile, List.append_cancel_left_eq, List.singleton_inj] at same
  exact rangeName_injective same

/-- A range's name has no dot, so the name a chunk is written aside under is no chunk's name. -/
theorem partialName_ne_rangeName (r r' : ByteRange) : rangeName r ++ ".partial" ≠ rangeName r' := by
  intro same
  have dot : '.' ∈ (rangeName r').toList := by
    rw [← same, String.toList_append]
    simp
  exact not_mem_rangeName (by decide) (by decide) dot

theorem readLe8_le8 (e : Nat) (bytes : List UInt8) (small : e < wordBound) :
    readLe8 (le8 e ++ bytes) = e := by
  simp [readLe8, le8, List.range_succ, Nat.shiftRight_eq_div_pow]
  simp [wordBound] at small
  omega

theorem size_of_le {r : ByteRange} (ordered : r.first ≤ r.last) (word : r.last + 1 < wordBound) :
    r.size = .ok (r.last - r.first + 1) := by
  simp only [ByteRange.size]
  rw [if_neg (by omega), if_neg (by omega)]

theorem length_le8 (e : Nat) : (le8 e).length = expiryLength := by
  simp [le8, expiryLength]

/-! ## Memory -/

namespace Memory

theorem mem_remove {m : Memory} {key : String} {s : Slot} (mem : s ∈ (m.remove key).slots) :
    s ∈ m.slots := by
  unfold remove at mem
  split at mem
  · exact (List.mem_filter.mp mem).1
  · exact mem

theorem mem_makeRoom {extra : Nat} :
    ∀ (fuel : Nat) (m : Memory) {s : Slot}, s ∈ (m.makeRoom extra fuel).slots → s ∈ m.slots
  | 0, m, s, mem => mem
  | fuel + 1, m, s, mem => by
    unfold makeRoom at mem
    split at mem
    · exact mem
    · split at mem
      · exact mem_remove (mem_makeRoom fuel _ mem)
      · exact mem

/-- A store keeps entries that were there and adds the stored one. -/
theorem mem_store {m : Memory} {key : String} {data : List UInt8} {expires : Time} {s : Slot}
    (mem : s ∈ (m.store key data expires).slots) : s ∈ m.slots ∨ (s.key = key ∧ s.data = data) := by
  unfold store at mem
  split at mem
  · exact .inl mem
  · simp only [List.mem_append, List.mem_singleton] at mem
    rcases mem with kept | rfl
    · exact .inl (mem_remove (mem_makeRoom _ _ kept))
    · exact .inr ⟨rfl, rfl⟩

/-- A lookup only marks or drops entries. -/
theorem mem_lookup {m : Memory} {key : String} {now : Time} {s : Slot}
    (mem : s ∈ (m.lookup key now).2.slots) : ∃ s₀ ∈ m.slots, s₀.key = s.key ∧ s₀.data = s.data := by
  dsimp only [lookup] at mem
  split at mem
  · split at mem
    · simp only [List.mem_map] at mem
      obtain ⟨s₀, kept, marked⟩ := mem
      refine ⟨s₀, kept, ?_⟩
      split at marked <;> subst marked <;> exact ⟨rfl, rfl⟩
    · exact ⟨s, mem_remove (m := { m with clock := m.clock + 1 }) mem, rfl, rfl⟩
  · exact ⟨s, mem, rfl, rfl⟩

/-- A lookup finds the bytes of an entry kept under its key. -/
theorem found_of_lookup {m : Memory} {key : String} {now : Time} {data : List UInt8}
    (found : (m.lookup key now).1 = some data) : ∃ s ∈ m.slots, s.key = key ∧ s.data = data := by
  dsimp only [lookup] at found
  split at found
  · rename_i s first
    split at found
    · obtain ⟨mem, same⟩ := List.mem_of_find?_eq_some first, List.find?_some first
      simp only [Option.some.injEq] at found
      exact ⟨s, mem, beq_iff_eq.mp same, found⟩
    · simp at found
  · simp at found

/-- Every entry kept under the key of a chunk of the file filed at `path` holds that
chunk's bytes of the file's content `c`. -/
def Holds (c : List UInt8) (path : String) (m : Memory) : Prop :=
  ∀ s ∈ m.slots, ∀ r, s.key = chunkKey path r → s.data = r.bytesOf c

theorem Holds.lookup {c : List UInt8} {path key : String} {now : Time} {m : Memory} (held : m.Holds c path) :
    (m.lookup key now).2.Holds c path := by
  intro s mem r keyed
  obtain ⟨s₀, kept, same_key, same_data⟩ := mem_lookup mem
  rw [← same_data]
  exact held s₀ kept r (same_key.trans keyed)

theorem Holds.store {c : List UInt8} {path key : String} {data : List UInt8} {expires : Time} {m : Memory}
    (held : m.Holds c path) (fresh : ∀ r, key = chunkKey path r → data = r.bytesOf c) :
    (m.store key data expires).Holds c path := by
  intro s mem r keyed
  rcases mem_store mem with kept | ⟨same_key, same_data⟩
  · exact held s kept r keyed
  · rw [same_data]
    exact fresh r (same_key.symm.trans keyed)

/-- What a lookup of a chunk's key finds in memory that holds the chunks is the chunk's bytes. -/
theorem Holds.lookup_found {c : List UInt8} {path : String} {r : ByteRange} {now : Time} {m : Memory}
    {data : List UInt8} (held : m.Holds c path) (found : (m.lookup (chunkKey path r) now).1 = some data) :
    data = r.bytesOf c := by
  obtain ⟨s, mem, keyed, same⟩ := found_of_lookup found
  rw [← same]
  exact held s mem r keyed

end Memory

/-! ## Disk -/

namespace Disk

theorem find?_erase (d : Disk) (p q : List String) :
    (d.erase p).find? q = if q = p ∧ q ≠ [] then none else d.find? q := by
  unfold find? erase
  by_cases root : q = []
  · simp [root]
  · simp only [List.isEmpty_iff, root, if_false, lookup_filter_ne, ne_eq, not_false_eq_true, and_true]

theorem find?_put (d : Disk) (p q : List String) (e : Entry) :
    (d.put p e).find? q = if q = p ∧ q ≠ [] then some e else d.find? q := by
  unfold find? put
  by_cases root : q = []
  · simp [root]
  · simp only [List.isEmpty_iff, root, if_false, List.lookup_append, erase, lookup_filter_ne, ne_eq,
      not_false_eq_true, and_true]
    by_cases same : q = p
    · simp [same]
    · simp [same, List.lookup_cons, beq_false_of_ne same]

/-- Every file of `d'` is a file of `d` with the same bytes: between them lie only removals
and new directories. -/
def Shrinks (d d' : Disk) : Prop :=
  ∀ q bytes stamp, d'.find? q = some (.file bytes stamp) → ∃ stamp', d.find? q = some (.file bytes stamp')

theorem Shrinks.refl (d : Disk) : d.Shrinks d := fun _ _ stamp found => ⟨stamp, found⟩

theorem Shrinks.trans {d d' d'' : Disk} (first : d.Shrinks d') (second : d'.Shrinks d'') : d.Shrinks d'' := by
  intro q bytes stamp found
  obtain ⟨stamp', found'⟩ := second q bytes stamp found
  exact first q bytes stamp' found'

theorem shrinks_erase (d : Disk) (p : List String) : d.Shrinks (d.erase p) := by
  intro q bytes stamp found
  rw [find?_erase] at found
  split at found
  · simp at found
  · exact ⟨stamp, found⟩

theorem shrinks_put_dir (d : Disk) (p : List String) : d.Shrinks (d.put p .dir) := by
  intro q bytes stamp found
  rw [find?_put] at found
  split at found
  · simp at found
  · exact ⟨stamp, found⟩

theorem removeFile_shrinks {d d' : Disk} {p : List String} (removed : d.removeFile p = .ok d') :
    d.Shrinks d' := by
  unfold removeFile at removed
  cases walked : d.walk p with
  | error e => simp [walked, bind, Except.bind] at removed
  | ok u =>
    simp only [walked, bind, Except.bind] at removed
    split at removed
    · cases removed
      exact shrinks_erase d p
    · simp [throw, throwThe, MonadExceptOf.throw] at removed
    · simp [throw, throwThe, MonadExceptOf.throw] at removed

/-- Removing a file, and keeping the disk as it was when that fails. -/
theorem shrinks_removeFile_or_keep (d : Disk) (p : List String) :
    d.Shrinks ((d.removeFile p).toOption.getD d) := by
  cases removed : d.removeFile p with
  | error e => exact Shrinks.refl d
  | ok d' => exact removeFile_shrinks removed

/-- Creating directories step by step: each step keeps the disk, or puts a directory where
nothing was, so whatever holds of the disk and survives such a put holds after. -/
theorem createDirAll_induction (motive : Disk → Prop) {d d' : Disk} {p : List String}
    (created : d.createDirAll p = .ok d') (start : motive d)
    (put : ∀ e a, motive e → e.find? a = none → motive (e.put a .dir)) : motive d' := by
  unfold createDirAll at created
  generalize (List.range p.length).map (fun k => p.take (k + 1)) = dirs at created
  induction dirs generalizing d with
  | nil =>
    simp only [List.foldlM_nil, pure, Except.pure, Except.ok.injEq] at created
    exact created ▸ start
  | cons a rest ih =>
    simp only [List.foldlM_cons, bind, Except.bind] at created
    split at created
    · simp at created
    · rename_i d₁ step
      split at step
      · simp only [pure, Except.pure, Except.ok.injEq] at step
        subst step
        exact ih start created
      · simp [throw, throwThe, MonadExceptOf.throw] at step
      · rename_i absent
        simp only [pure, Except.pure, Except.ok.injEq] at step
        subst step
        exact ih (put d a start absent) created

theorem createDirAll_shrinks {d d' : Disk} {p : List String} (created : d.createDirAll p = .ok d') :
    d.Shrinks d' :=
  createDirAll_induction (fun e => d.Shrinks e) created (Shrinks.refl d)
    fun e a shrunk _ => shrunk.trans (shrinks_put_dir e a)

/-- A write sets the file at its path and advances the clock to the file's stamp. -/
theorem writeFile_ok {d d' : Disk} {p : List String} {data : List UInt8} (written : d.writeFile p data = .ok d') :
    d' = ({ d with clock := d.clock + 1 } : Disk).put p (.file data (d.clock + 1)) := by
  unfold writeFile at written
  simp only [bind, Except.bind] at written
  split at written
  · simp at written
  · split at written
    · simp [throw, throwThe, MonadExceptOf.throw] at written
    · simp only [pure, Except.pure, Except.ok.injEq] at written
      exact written.symm

/-- A rename moves a file that is there, with its bytes and stamp. -/
theorem rename_ok {d d' : Disk} {src dst : List String} (renamed : d.rename src dst = .ok d') :
    ∃ data stamp, d.find? src = some (.file data stamp) ∧ d' = (d.erase src).put dst (.file data stamp) := by
  unfold rename at renamed
  simp only [bind, Except.bind] at renamed
  split at renamed
  · simp at renamed
  · split at renamed
    · rename_i data stamp at_src
      split at renamed
      · simp at renamed
      · split at renamed
        · simp [throw, throwThe, MonadExceptOf.throw] at renamed
        · simp only [pure, Except.pure, Except.ok.injEq] at renamed
          exact ⟨data, stamp, at_src, renamed.symm⟩
    · simp [throw, throwThe, MonadExceptOf.throw] at renamed
    · simp [throw, throwThe, MonadExceptOf.throw] at renamed

theorem find?_clock (d : Disk) (n : Nat) (q : List String) : ({ d with clock := n } : Disk).find? q = d.find? q :=
  rfl

theorem readFile_ok {d : Disk} {p : List String} {bytes : List UInt8} (read : d.readFile p = .ok bytes) :
    ∃ stamp, d.find? p = some (.file bytes stamp) := by
  unfold readFile at read
  simp only [bind, Except.bind] at read
  split at read
  · simp at read
  · split at read
    · rename_i data stamp at_p
      simp only [pure, Except.pure, Except.ok.injEq] at read
      exact ⟨stamp, read ▸ at_p⟩
    · simp [throw, throwThe, MonadExceptOf.throw] at read
    · simp [throw, throwThe, MonadExceptOf.throw] at read

end Disk

namespace Books

/-- The bound only removes files. -/
theorem evictFrom_shrinks (limit : Nat) :
    ∀ (order : List (List String)) (sizes : List (List String × Nat)) (total : Nat) (d : Disk) (n : Nat),
      d.Shrinks (evictFrom limit order sizes total d n).2.1
  | [], _, _, d, _ => Disk.Shrinks.refl d
  | oldest :: rest, sizes, total, d, n => by
    unfold evictFrom
    split
    · exact Disk.Shrinks.refl d
    · split
      · rename_i d' removed
        exact (Disk.removeFile_shrinks removed).trans (evictFrom_shrinks limit rest _ _ d' (n + 1))
      · exact evictFrom_shrinks limit rest _ _ d n

end Books

namespace DiskTier

theorem evict_shrinks (t : DiskTier) (d : Disk) : d.Shrinks (t.evict d).2.1 := by
  unfold evict
  split
  · exact Books.evictFrom_shrinks _ _ _ _ _ _
  · exact Disk.Shrinks.refl d

theorem evict_base (t : DiskTier) (d : Disk) : (t.evict d).1.base = t.base := by
  unfold evict
  split <;> rfl

end DiskTier

/-- A file after writing a chunk is a file that was there, the chunk file itself with the
expiry before the bytes, or the copy written aside next to it. -/
theorem writeChunk_files (d : Disk) (path : List String) (data : List UInt8) (expires : Time)
    {q : List String} {bytes : List UInt8} {stamp : Nat}
    (found : (writeChunk d path data expires).1.find? q = some (.file bytes stamp)) :
    (∃ stamp', d.find? q = some (.file bytes stamp')) ∨ (q = path ∧ bytes = le8 (epochSecs expires) ++ data) ∨
      q = path.dropLast ++ [path.getLastD "" ++ ".partial"] := by
  unfold writeChunk at found
  cases created : d.createDirAll path.dropLast with
  | error _ =>
    simp only [created] at found
    exact .inl ⟨stamp, found⟩
  | ok d₁ =>
    have kept := Disk.createDirAll_shrinks created
    simp only [created] at found
    generalize path.dropLast ++ [path.getLastD "" ++ ".partial"] = temp at found ⊢
    cases written : d₁.writeFile temp (le8 (epochSecs expires) ++ data) with
    | error _ =>
      simp only [written] at found
      exact .inl (kept q bytes stamp found)
    | ok d₂ =>
      have aside := Disk.writeFile_ok written
      simp only [written] at found
      -- the copy aside, or what the directories left
      have from_d₂ : ∀ {stamp}, d₂.find? q = some (.file bytes stamp) →
          (∃ stamp', d.find? q = some (.file bytes stamp')) ∨ q = temp := by
        intro stamp at_q
        rw [aside, Disk.find?_put, Disk.find?_clock] at at_q
        split at at_q
        · rename_i is_temp
          exact .inr is_temp.1
        · exact .inl (kept q bytes stamp at_q)
      cases renamed : d₂.rename temp path with
      | error _ =>
        simp only [renamed] at found
        rcases from_d₂ found with old | is_temp
        · exact .inl old
        · exact .inr (.inr is_temp)
      | ok d₃ =>
        obtain ⟨moved, stamp', at_temp, rfl⟩ := Disk.rename_ok renamed
        simp only [renamed] at found
        rw [Disk.find?_put, Disk.find?_erase] at found
        split at found
        · rename_i is_path
          -- the chunk file holds what was written aside
          rw [aside, Disk.find?_put, Disk.find?_clock] at at_temp
          simp only [Option.some.injEq, Entry.file.injEq] at found
          simp only [ne_eq, true_and] at at_temp
          split at at_temp
          · simp only [Option.some.injEq, Entry.file.injEq] at at_temp
            exact .inr (.inl ⟨is_path.1, found.1 ▸ at_temp.1.symm⟩)
          · rename_i root
            simp [not_not.mp root, Disk.find?] at at_temp
        · split at found
          · simp at found
          · rcases from_d₂ found with old | is_temp
            · exact .inl old
            · exact .inr (.inr is_temp)

/-! ## The invariant -/

/-- A chunk file holding its chunk's bytes of the content `c`, after an expiry the clock
can read. -/
structure ChunkBytes (c : List UInt8) (r : ByteRange) (bytes : List UInt8) : Prop where
  data : bytes.drop expiryLength = r.bytesOf c
  expiry : readLe8 bytes ≤ timeLimit

namespace Disk

/-- Every chunk file of the file filed at `path`, below the cache directory `base`, holds
its chunk. -/
def Holds (c : List UInt8) (path : String) (base : List String) (d : Disk) : Prop :=
  ∀ r bytes stamp, d.find? (base ++ chunkFile path r) = some (.file bytes stamp) → ChunkBytes c r bytes

theorem Holds.shrink {c : List UInt8} {path : String} {base : List String} {d d' : Disk}
    (held : d.Holds c path base) (shrinks : d.Shrinks d') : d'.Holds c path base := by
  intro r bytes stamp found
  obtain ⟨stamp', found'⟩ := shrinks _ bytes stamp found
  exact held r bytes stamp' found'

end Disk

/-- The copy a chunk is written aside under is no chunk file of the same file. -/
theorem partial_ne_chunkFile (base : List String) (path : String) (r r' : ByteRange) :
    base ++ chunkFile path r' ≠
      (base ++ chunkFile path r).dropLast ++ [(base ++ chunkFile path r).getLastD "" ++ ".partial"] := by
  intro same
  simp only [chunkFile, ← List.append_assoc, List.dropLast_concat, List.getLastD_concat,
    List.append_cancel_left_eq, List.singleton_inj] at same
  exact partialName_ne_rangeName r r' same.symm

/-- Writing a chunk's bytes to its file, after an expiry the clock holds, keeps every chunk
file whole. -/
theorem Disk.Holds.writeChunk {c : List UInt8} {path : String} {base : List String} {d : Disk}
    (held : d.Holds c path base) (r : ByteRange) {expires : Time} (readable : expires.secs ≤ timeLimit) :
    (Cache.writeChunk d (base ++ chunkFile path r) (r.bytesOf c) expires).1.Holds c path base := by
  intro r' bytes stamp found
  rcases writeChunk_files d _ _ expires found with ⟨stamp', old⟩ | ⟨at_path, written⟩ | aside
  · exact held r' bytes stamp' old
  · obtain rfl := chunkFile_injective base path at_path
    subst written
    have recorded := epochSecs_le readable
    have small : epochSecs expires < wordBound := by
      have limit : timeLimit < wordBound := by decide
      omega
    exact ⟨List.drop_left' (length_le8 _), by rw [readLe8_le8 _ _ small]; exact recorded⟩
  · exact absurd aside (partial_ne_chunkFile base path r r')

namespace Tiered

/-- The cache holds the chunks of the file filed at `path`, whose content is `c`: in memory,
and on the disk below its tier's directory. -/
structure Holds (c : List UInt8) (path : String) (t : Tiered) : Prop where
  memory : t.memory.Holds c path
  disk : ∀ tier, t.tier = some tier → t.disk.Holds c path tier.base

section Holds

variable {c : List UInt8} {path : String} {t : Tiered} {r : ByteRange} {now : Time}

/-- A memory lookup changes the memory tier and the counters only. -/
theorem lookupMemory_shape (t : Tiered) (path : String) (r : ByteRange) (now : Time) : ∃ counters, t.lookupMemory path r now =
    ((t.memory.lookup (chunkKey path r) now).1,
      { t with memory := (t.memory.lookup (chunkKey path r) now).2, counters }) := by
  unfold lookupMemory
  generalize t.memory.lookup (chunkKey path r) now = out
  obtain ⟨hit, memory⟩ := out
  cases hit <;> exact ⟨_, rfl⟩

theorem lookupMemory_ttl (t : Tiered) (path : String) (r : ByteRange) (now : Time) :
    (t.lookupMemory path r now).2.ttl = t.ttl := by
  obtain ⟨counters, shape⟩ := lookupMemory_shape t path r now
  rw [shape]

theorem Holds.lookupMemory (held : t.Holds c path) (r : ByteRange) (now : Time) :
    (t.lookupMemory path r now).2.Holds c path := by
  obtain ⟨counters, shape⟩ := lookupMemory_shape t path r now
  rw [shape]
  exact ⟨held.memory.lookup, held.disk⟩

/-- What memory gives for a chunk is the chunk's bytes. -/
theorem Holds.lookupMemory_found (held : t.Holds c path) {data : List UInt8}
    (found : (t.lookupMemory path r now).1 = some data) : data = r.bytesOf c := by
  obtain ⟨counters, shape⟩ := lookupMemory_shape t path r now
  rw [shape] at found
  exact held.memory.lookup_found found

/-- Reading a chunk file, for a chunk inside a content whose length and expiry fit a word,
never faults; it finds the chunk's bytes, and may remove the file. -/
theorem readChunk_spec (now : Time) {base : List String} (held : t.disk.Holds c path base) (ordered : r.first ≤ r.last)
    (inside : r.last < c.length) (word : c.length + expiryLength < wordBound) :
    ∃ found d', t.readChunk (base ++ chunkFile path r) r now = .ok (found, { t with disk := d' }) ∧
      t.disk.Shrinks d' ∧ ∀ data expires, found = some (data, expires) → data = r.bytesOf c := by
  unfold readChunk
  cases read : t.disk.readFile (base ++ chunkFile path r) with
  | error _ => exact ⟨none, t.disk, rfl, Disk.Shrinks.refl _, by simp⟩
  | ok bytes =>
    obtain ⟨stamp, at_file⟩ := Disk.readFile_ok read
    have sound := held r bytes stamp at_file
    have sized := size_of_le ordered (by simp only [expiryLength] at word; omega)
    have fits : ¬(r.last - r.first + 1 + expiryLength ≥ wordBound) := by omega
    have readable : ¬(readLe8 bytes > timeLimit) := Nat.not_lt.mpr sound.expiry
    simp only [sized, fits, readable, bind, Except.bind, if_false]
    split
    · exact ⟨none, _, rfl, Disk.shrinks_removeFile_or_keep _ _, by simp⟩
    · split
      · exact ⟨none, _, rfl, Disk.shrinks_removeFile_or_keep _ _, by simp⟩
      · refine ⟨some (bytes.drop expiryLength, ofEpochSecs (readLe8 bytes)), t.disk, rfl, Disk.Shrinks.refl _, ?_⟩
        intro data expires found
        simp only [Option.some.injEq, Prod.mk.injEq] at found
        rw [← found.1]
        exact sound.data

/-- Bringing a chunk's bytes back into memory keeps the chunks held. -/
theorem Holds.storeMemory (held : t.Holds c path) (expires : Time) (counters : Counters) :
    ({ t with memory := t.memory.store (chunkKey path r) (r.bytesOf c) expires, counters } : Tiered).Holds c path :=
  ⟨held.memory.store fun r' same => by rw [chunkKey_injective path same], held.disk⟩

/-- A disk lookup, for a chunk inside a content whose length and expiry fit a word, never
faults; it finds the chunk's bytes and keeps the chunks held. -/
theorem Holds.lookupDisk (held : t.Holds c path) (now : Time) (ordered : r.first ≤ r.last) (inside : r.last < c.length)
    (word : c.length + expiryLength < wordBound) :
    ∃ found t', t.lookupDisk path r now = .ok (found, t') ∧ t'.Holds c path ∧ t'.ttl = t.ttl ∧
      ∀ data, found = some data → data = r.bytesOf c := by
  unfold Tiered.lookupDisk
  cases tier : t.tier with
  | none =>
    refine ⟨none, _, rfl, ⟨held.memory, fun tr none_tr => ?_⟩, rfl, by simp⟩
    simp [tier] at none_tr
  | some tr =>
    obtain ⟨found, d', read, shrinks, found_ok⟩ :=
      readChunk_spec (t := t) now (held.disk tr tier) ordered inside word
    have held' : ({ t with disk := d' } : Tiered).Holds c path :=
      ⟨held.memory, fun tr' same => (held.disk tr' same).shrink shrinks⟩
    simp only [read, bind, Except.bind]
    cases found with
    | none => exact ⟨none, _, rfl, ⟨held'.memory, held'.disk⟩, rfl, by simp⟩
    | some found =>
      obtain ⟨data, expires⟩ := found
      obtain rfl := found_ok data expires rfl
      exact ⟨some (r.bytesOf c), _, rfl, held'.storeMemory expires _, rfl, by simp⟩

theorem store_overflow {data : List UInt8} (late : (timeLimit : Int) < now.secs + t.ttl) :
    t.store path r data now = .error timeOverflow := by
  simp only [store, addSecs_of_late late, bind, Except.bind]

theorem writeBehind_ttl {tr : DiskTier} {p : List String} {data : List UInt8} {expires : Time} :
    (t.writeBehind tr p data expires).ttl = t.ttl := by
  unfold Tiered.writeBehind
  generalize writeChunk t.disk p data expires = out
  obtain ⟨disk, ok⟩ := out
  cases ok <;> rfl

/-- The writer keeps the chunk files whole when it writes a chunk's bytes, after an expiry the
clock can read, to the chunk's file. -/
theorem Holds.writeBehind {tr : DiskTier} (held : t.Holds c path) (tier : t.tier = some tr) {expires : Time}
    (readable : expires.secs ≤ timeLimit) :
    (t.writeBehind tr (tr.base ++ chunkFile path r) (r.bytesOf c) expires).Holds c path := by
  have written := (held.disk tr tier).writeChunk r readable
  unfold Tiered.writeBehind
  generalize writeChunk t.disk (tr.base ++ chunkFile path r) (r.bytesOf c) expires = out at written
  obtain ⟨disk, ok⟩ := out
  cases ok with
  | false => exact ⟨held.memory, fun tr' same => by rw [tier] at same; cases same; exact written⟩
  | true =>
    have base := DiskTier.evict_base (tr.track (tr.base ++ chunkFile path r) ((r.bytesOf c).length + expiryLength)) disk
    have shrinks := DiskTier.evict_shrinks (tr.track (tr.base ++ chunkFile path r) ((r.bytesOf c).length + expiryLength)) disk
    simp only [if_true]
    generalize (tr.track (tr.base ++ chunkFile path r) ((r.bytesOf c).length + expiryLength)).evict disk = out
      at base shrinks
    obtain ⟨tr', disk', evicted⟩ := out
    refine ⟨held.memory, fun tr'' same => ?_⟩
    simp only [Option.some.injEq] at same
    subst same
    rw [base]
    exact written.shrink shrinks

/-- Storing a chunk's bytes keeps the chunks held, when the expiry fits the clock. -/
theorem Holds.store (held : t.Holds c path) (fits : now.secs + t.ttl ≤ timeLimit) :
    ∃ res t', t.store path r (r.bytesOf c) now = .ok (res, t') ∧ t'.Holds c path ∧ t'.ttl = t.ttl := by
  have expiry := addSecs_of_fits fits
  have stored := held.storeMemory (r := r) { now with secs := now.secs + t.ttl } t.counters
  unfold Tiered.store
  simp only [expiry, bind, Except.bind]
  generalize tier : t.tier = tier? at stored ⊢
  cases tier? with
  | none => exact ⟨_, _, rfl, stored, rfl⟩
  | some tr =>
    cases running : tr.running with
    | false =>
      refine ⟨.error (.cache "disk writer has stopped"), _, ?_, stored, rfl⟩
      simp only [running, Bool.false_eq_true, if_false]
      rfl
    | true =>
      have readable : ({ now with secs := now.secs + t.ttl } : Time).secs ≤ timeLimit := fits
      refine ⟨.ok (), _, ?_, stored.writeBehind (r := r) rfl readable, writeBehind_ttl⟩
      simp only [running, if_true]
      rfl

end Holds

end Tiered

end ChunkProxy.Cache
