import ChunkProxy.Cache.Tiered
import Mathlib.Data.List.Perm.Basic
import Mathlib.Data.List.Nodup
/-!
# The memory tier: byte accounting and least-recently-used eviction

The memory tier keeps a running byte count beside its entries, and a clock that every
lookup and every store advances; an entry carries the tick of its last use.

`Memory.Sound` is what every reachable memory tier satisfies: the byte count is the
total size of the entries and stays within the bound, keys are distinct, last-use ticks
are distinct and none lies ahead of the clock.  Each operation keeps it
(`Sound.remove`, `Sound.makeRoom`, `Sound.store`, `Sound.lookup`).

Making room drops entries oldest first (`oldest?_le`) and stops as soon as the chunk
fits; `EvictsLru before kept` says this of the entries kept, without the loop: every
entry dropped is older than every entry kept, each was dropped at a moment when the
entries at least as recent as it left no room, and the chunk fits after
(`makeRoom_evictsLru`).  A store is such an eviction among the entries under other keys,
then the chunk as the newest entry (`Stored`); a lookup hit marks its entry newest, and
a lookup drops an entry it finds expired (`lookup_hit`, `lookup_miss`).

For the two-tier cache (`Tiered`), every lookup counts exactly one of a memory hit, a
disk hit and a miss, a memory hit only for a live entry, and after it no expired entry
of the chunk is left in memory (`LookedUp`).  The main statement,
`memory_tier_accounting_and_lru`, holds these of every cache reached from an empty memory
tier by any stores and lookups, at any times.
-/

namespace ChunkProxy.Cache

set_option autoImplicit false

namespace Memory

/-! ## Sizes of entry lists -/

theorem total_nil : total [] = 0 := rfl

theorem total_cons (s : Slot) (l : List Slot) : total (s :: l) = s.data.length + total l := rfl

theorem total_append (l₁ l₂ : List Slot) : total (l₁ ++ l₂) = total l₁ + total l₂ := by
  induction l₁ with
  | nil => simp [total_nil]
  | cons s l ih => rw [List.cons_append, total_cons, total_cons, ih, Nat.add_assoc]

theorem total_perm {l₁ l₂ : List Slot} (p : l₁.Perm l₂) : total l₁ = total l₂ := by
  induction p with
  | nil => rfl
  | cons s _ ih => rw [total_cons, total_cons, ih]
  | swap a b l => simp only [total_cons]; omega
  | trans _ _ ih₁ ih₂ => exact ih₁.trans ih₂

/-- Splitting entries by a test splits their total size. -/
theorem total_filter_add (p : Slot → Bool) (l : List Slot) :
    total (l.filter p) + total (l.filter fun s => !p s) = total l := by
  rw [← total_append]
  exact total_perm (List.filter_append_perm p l)

/-- Entries that differ only in their ticks have the same size. -/
theorem total_map_lastUsed (l : List Slot) (f : Slot → Nat) :
    total (l.map fun s => { s with lastUsed := f s }) = total l := by
  induction l with
  | nil => rfl
  | cons s l ih => simp only [List.map_cons, total_cons, ih]

/-! ## The invariant -/

/-- What every reachable memory tier satisfies: the byte count is the total size of the
entries and within the bound, keys and last-use ticks are distinct, and no tick lies
ahead of the clock. -/
structure Sound (m : Memory) : Prop where
  sized : m.size = total m.slots
  bounded : m.size ≤ m.limit
  keys : (m.slots.map (·.key)).Nodup
  stamps : (m.slots.map (·.lastUsed)).Nodup
  past : ∀ s ∈ m.slots, s.lastUsed ≤ m.clock

theorem sound_empty (limit : Nat) : Sound { limit } where
  sized := rfl
  bounded := Nat.zero_le _
  keys := List.nodup_nil
  stamps := List.nodup_nil
  past := fun _ mem => absurd mem List.not_mem_nil

/-- Entries of a sound tier are told apart by their keys. -/
theorem Sound.eq_of_key {m : Memory} (sound : m.Sound) {s t : Slot} (hs : s ∈ m.slots) (ht : t ∈ m.slots)
    (same : s.key = t.key) : s = t :=
  List.inj_on_of_nodup_map sound.keys hs ht same

/-- Entries of a sound tier are told apart by their ticks. -/
theorem Sound.eq_of_lastUsed {m : Memory} (sound : m.Sound) {s t : Slot} (hs : s ∈ m.slots) (ht : t ∈ m.slots)
    (same : s.lastUsed = t.lastUsed) : s = t :=
  List.inj_on_of_nodup_map sound.stamps hs ht same

/-! ## Removing a key -/

theorem remove_slots (m : Memory) (key : String) : (m.remove key).slots = m.slots.filter (·.key != key) := by
  unfold remove
  split
  · rfl
  · rename_i absent
    symm
    rw [List.filter_eq_self]
    intro s mem
    simpa using List.find?_eq_none.mp absent s mem

theorem remove_limit (m : Memory) (key : String) : (m.remove key).limit = m.limit := by
  unfold remove; split <;> rfl

theorem remove_clock (m : Memory) (key : String) : (m.remove key).clock = m.clock := by
  unfold remove; split <;> rfl

theorem Sound.remove {m : Memory} (sound : m.Sound) (key : String) : (m.remove key).Sound := by
  have sized : (m.remove key).size = total (m.remove key).slots := by
    unfold Memory.remove
    split
    · rename_i s found
      have mem := List.mem_of_find?_eq_some found
      have keyed : s.key = key := by simpa using List.find?_some found
      -- the entries under the key are `s` alone, so the others total the rest
      have only : (m.slots.filter fun t => !(t.key != key)).Perm [s] := by
        apply (List.perm_ext_iff_of_nodup ((List.Nodup.of_map _ sound.keys).filter _)
          (List.nodup_singleton s)).mpr
        intro t
        rw [List.mem_singleton]
        constructor
        · intro inside
          obtain ⟨tmem, tkey⟩ := List.mem_filter.mp inside
          exact sound.eq_of_key tmem mem (by simpa [keyed] using tkey)
        · rintro rfl
          exact List.mem_filter.mpr ⟨mem, by simp [keyed]⟩
      have split := total_filter_add (·.key != key) m.slots
      rw [total_perm only, total_cons, total_nil] at split
      simp only
      rw [sound.sized]
      omega
    · exact sound.sized
  refine ⟨sized, ?_, ?_, ?_, ?_⟩
  · have within := total_filter_add (·.key != key) m.slots
    rw [sized, remove_limit, remove_slots]
    have := sound.bounded
    rw [sound.sized] at this
    omega
  · rw [remove_slots]
    exact sound.keys.sublist (List.filter_sublist.map _)
  · rw [remove_slots]
    exact sound.stamps.sublist (List.filter_sublist.map _)
  · intro s mem
    rw [remove_slots] at mem
    rw [remove_clock]
    exact sound.past s (List.mem_filter.mp mem).1

/-! ## The least recently used entry -/

/-- The fold behind `oldest?` ends at an entry it was started with or met, no more recent
than any of them. -/
theorem oldest?_fold (l : List Slot) : ∀ (acc : Option Slot) {s : Slot},
    l.foldl (fun acc s =>
      match acc with
      | some a => if s.lastUsed < a.lastUsed then some s else some a
      | none => some s) acc = some s →
    (acc = some s ∨ s ∈ l) ∧ (∀ a, acc = some a → s.lastUsed ≤ a.lastUsed) ∧
      ∀ t ∈ l, s.lastUsed ≤ t.lastUsed := by
  induction l with
  | nil =>
    intro acc s found
    rw [List.foldl_nil] at found
    refine ⟨.inl found, fun a start => ?_, fun _ mem => absurd mem List.not_mem_nil⟩
    rw [found] at start
    obtain rfl := Option.some.inj start
    exact Nat.le_refl _
  | cons t rest ih =>
    intro acc s found
    rw [List.foldl_cons] at found
    obtain ⟨came, below, least⟩ := ih _ found
    cases acc with
    | none =>
      refine ⟨.inr ?_, fun a start => absurd start (by simp), fun u mem => ?_⟩
      · rcases came with same | later
        · exact (Option.some.inj same) ▸ List.mem_cons_self
        · exact List.mem_cons_of_mem t later
      · rcases List.mem_cons.mp mem with rfl | later
        · exact below u rfl
        · exact least u later
    | some a =>
      by_cases newer : t.lastUsed < a.lastUsed
      · simp only [newer, if_true] at came below
        have le_t := below t rfl
        refine ⟨.inr ?_, fun a' start => ?_, fun u mem => ?_⟩
        · rcases came with same | later
          · exact (Option.some.inj same) ▸ List.mem_cons_self
          · exact List.mem_cons_of_mem t later
        · rw [← Option.some.inj start]
          omega
        · rcases List.mem_cons.mp mem with rfl | later
          · exact le_t
          · exact least u later
      · simp only [newer, if_false] at came below
        have le_a := below a rfl
        refine ⟨came.imp id (List.mem_cons_of_mem t), fun a' start => ?_, fun u mem => ?_⟩
        · rw [← Option.some.inj start]
          exact le_a
        · rcases List.mem_cons.mp mem with rfl | later
          · omega
          · exact least u later

/-- The least recently used entry is an entry, and no entry was used before it. -/
theorem oldest?_le {l : List Slot} {s : Slot} (found : oldest? l = some s) :
    s ∈ l ∧ ∀ t ∈ l, s.lastUsed ≤ t.lastUsed := by
  obtain ⟨came, -, least⟩ := oldest?_fold l none found
  exact ⟨came.resolve_left (by simp), least⟩

/-- Only an empty tier has no least recently used entry. -/
theorem oldest?_eq_none {l : List Slot} (found : oldest? l = none) : l = [] := by
  cases l with
  | nil => rfl
  | cons t rest =>
    -- the fold holds an entry from the first one on
    have kept : ∀ (l : List Slot) (acc : Option Slot), acc.isSome → (l.foldl (fun acc s =>
        match acc with
        | some a => if s.lastUsed < a.lastUsed then some s else some a
        | none => some s) acc).isSome := by
      intro l
      induction l with
      | nil => exact fun _ held => held
      | cons u rest ih =>
        intro acc held
        rw [List.foldl_cons]
        apply ih
        cases acc with
        | none => cases held
        | some a =>
          dsimp only
          split <;> rfl
    simp only [oldest?, List.foldl_cons] at found
    exact absurd found (Option.isSome_iff_ne_none.mp (kept rest (some t) rfl))

/-! ## Making room, least recently used first -/

/-- Entries `kept` of `before`, the rest dropped while making room for `extra` bytes under
`limit`: every entry dropped is older than every entry kept, and each was dropped while the
entries at least as recent as it left no room. -/
structure Dropping (before kept : List Slot) (extra limit : Nat) : Prop where
  sublist : kept.Sublist before
  older : ∀ e ∈ before, e ∉ kept → ∀ k ∈ kept, e.lastUsed < k.lastUsed
  needed : ∀ e ∈ before, e ∉ kept →
    limit < total (before.filter fun t => e.lastUsed ≤ t.lastUsed) + extra

/-- Making room that ends as soon as the chunk fits. -/
structure EvictsLru (before kept : List Slot) (extra limit : Nat) : Prop
    extends Dropping before kept extra limit where
  fits : total kept + extra ≤ limit

theorem Dropping.refl (before : List Slot) (extra limit : Nat) : Dropping before before extra limit where
  sublist := List.Sublist.refl before
  older := fun _ mem gone => absurd mem gone
  needed := fun _ mem gone => absurd mem gone

/-- Dropping the least recently used of the entries kept, while the chunk does not fit,
is one more step of making room. -/
theorem Dropping.drop_oldest {before kept : List Slot} {extra limit : Nat}
    (dropping : Dropping before kept extra limit) (distinct : (before.map (·.lastUsed)).Nodup)
    (keys : (kept.map (·.key)).Nodup) {s : Slot} (mem : s ∈ kept)
    (least : ∀ t ∈ kept, s.lastUsed ≤ t.lastUsed) (full : limit < total kept + extra) :
    Dropping before (kept.filter (·.key != s.key)) extra limit := by
  have inBefore : ∀ t ∈ kept, t ∈ before := fun t inside => dropping.sublist.subset inside
  have apart : ∀ t ∈ kept, t ≠ s → s.lastUsed < t.lastUsed := fun t inside other =>
    Nat.lt_of_le_of_ne (least t inside) fun same =>
      other (List.inj_on_of_nodup_map distinct (inBefore t inside) (inBefore s mem) same.symm)
  -- the entries at least as recent as `s` are exactly those still kept
  have recent : (before.filter fun t => s.lastUsed ≤ t.lastUsed).Perm kept := by
    have nodup := List.Nodup.of_map _ distinct
    apply (List.perm_ext_iff_of_nodup (nodup.filter _) (nodup.sublist dropping.sublist)).mpr
    intro t
    rw [List.mem_filter, decide_eq_true_iff]
    constructor
    · rintro ⟨inside, later⟩
      by_contra gone
      exact absurd later (Nat.not_le.mpr (dropping.older t inside gone s mem))
    · intro inside
      exact ⟨inBefore t inside, least t inside⟩
  have gone_is_s : ∀ e ∈ kept, e ∉ kept.filter (·.key != s.key) → e = s := fun e inside gone => by
    have same : e.key = s.key := by simpa [inside] using gone
    exact List.inj_on_of_nodup_map keys inside mem same
  refine ⟨List.filter_sublist.trans dropping.sublist, fun e inside gone k stays => ?_, fun e inside gone => ?_⟩
  · obtain ⟨k_kept, k_key⟩ := List.mem_filter.mp stays
    have other : k ≠ s := fun same => by simp [same] at k_key
    by_cases was : e ∈ kept
    · rw [gone_is_s e was gone]
      exact apart k k_kept other
    · exact dropping.older e inside was k k_kept
  · by_cases was : e ∈ kept
    · rw [gone_is_s e was gone, total_perm recent]
      exact full
    · exact dropping.needed e inside was

/-- Making room, with fuel for every entry, drops least recently used entries until the
chunk fits, and keeps the invariant, the bound and the clock. -/
theorem makeRoom_evictsLru {before : List Slot} {extra : Nat} (distinct : (before.map (·.lastUsed)).Nodup) :
    ∀ (fuel : Nat) (m : Memory), m.Sound → extra ≤ m.limit → m.slots.length ≤ fuel →
      Dropping before m.slots extra m.limit →
      (m.makeRoom extra fuel).Sound ∧ (m.makeRoom extra fuel).limit = m.limit ∧
        (m.makeRoom extra fuel).clock = m.clock ∧ EvictsLru before (m.makeRoom extra fuel).slots extra m.limit
  | 0, m, sound, room, enough, dropping => by
    have empty : m.slots = [] := List.eq_nil_of_length_eq_zero (Nat.le_zero.mp enough)
    refine ⟨sound, rfl, rfl, dropping, ?_⟩
    simp only [makeRoom, empty, total_nil]
    omega
  | fuel + 1, m, sound, room, enough, dropping => by
    unfold makeRoom
    split
    · rename_i fits
      exact ⟨sound, rfl, rfl, dropping, sound.sized ▸ fits⟩
    · rename_i full
      split
      · rename_i s found
        obtain ⟨mem, least⟩ := oldest?_le found
        have shorter : (m.remove s.key).slots.length ≤ fuel := by
          rw [remove_slots]
          have : (m.slots.filter (·.key != s.key)).length < m.slots.length :=
            List.length_filter_lt_length_iff_exists.mpr ⟨s, mem, by simp⟩
          omega
        have next := Dropping.drop_oldest dropping distinct sound.keys mem least
          (by rw [← sound.sized]; omega)
        rw [← remove_slots, ← remove_limit m s.key] at next
        obtain ⟨sound', limit', clock', evicts⟩ :=
          makeRoom_evictsLru distinct fuel (m.remove s.key) (sound.remove s.key)
            (by rw [remove_limit]; exact room) shorter next
        rw [remove_limit] at limit' evicts
        rw [remove_clock] at clock'
        exact ⟨sound', limit', clock', evicts⟩
      · rename_i found
        have empty := oldest?_eq_none found
        exact absurd (by rw [sound.sized, empty, total_nil]; omega) full

/-! ## Stores -/

/-- The entry under `key` was used last, at the present tick, and every other entry
before it. -/
def Newest (m : Memory) (key : String) : Prop :=
  ∃ s ∈ m.slots, s.key = key ∧ s.lastUsed = m.clock ∧ ∀ t ∈ m.slots, t.key ≠ key → t.lastUsed < m.clock

/-- What a store does to the memory tier: a chunk larger than the bound is not kept;
otherwise the entries under other keys make room for it, least recently used first, and it
is kept as the newest entry. -/
def Stored (m : Memory) (key : String) (data : List UInt8) (expires : Time) (m' : Memory) : Prop :=
  (m.limit < data.length ∧ m' = m) ∨
  (m'.limit = m.limit ∧ ∃ kept, EvictsLru (m.slots.filter (·.key != key)) kept data.length m.limit ∧
    m'.slots = kept ++ [⟨key, data, expires, m'.clock⟩] ∧ ∀ s ∈ kept, s.lastUsed < m'.clock)

theorem Stored.limit {m m' : Memory} {key : String} {data : List UInt8} {expires : Time}
    (stored : Stored m key data expires m') : m'.limit = m.limit := by
  rcases stored with ⟨-, rfl⟩ | ⟨limit, -⟩
  · rfl
  · exact limit

/-- A store of a live chunk leaves only live entries under its key, when there were only
live ones before. -/
theorem Stored.live {m m' : Memory} {key : String} {data : List UInt8} {expires now : Time}
    (stored : Stored m key data expires m') (before : ∀ s ∈ m.slots, s.key = key → now < s.expires)
    (later : now < expires) : ∀ s ∈ m'.slots, s.key = key → now < s.expires := by
  rcases stored with ⟨-, rfl⟩ | ⟨-, kept, evicts, slots, -⟩
  · exact before
  · intro s mem keyed
    rw [slots, List.mem_append, List.mem_singleton] at mem
    rcases mem with old | rfl
    · obtain ⟨-, other⟩ := List.mem_filter.mp (evicts.sublist.subset old)
      simp [keyed] at other
    · exact later

theorem Sound.store {m : Memory} (sound : m.Sound) (key : String) (data : List UInt8) (expires : Time) :
    (m.store key data expires).Sound ∧ Stored m key data expires (m.store key data expires) := by
  unfold Memory.store
  split
  · rename_i large
    exact ⟨sound, .inl ⟨large, rfl⟩⟩
  · rename_i small
    have sound₁ := sound.remove key
    have fuel : (m.remove key).slots.length ≤ m.slots.length := by
      rw [remove_slots]
      exact List.length_filter_le _ _
    obtain ⟨sound₂, limit₂, clock₂, evicts⟩ :=
      @makeRoom_evictsLru (m.remove key).slots data.length sound₁.stamps m.slots.length (m.remove key)
        sound₁ (by rw [remove_limit]; omega) fuel (Dropping.refl _ _ _)
    rw [remove_limit] at limit₂ evicts
    rw [remove_clock] at clock₂
    rw [remove_slots] at evicts
    generalize (m.remove key).makeRoom data.length m.slots.length = m₂ at sound₂ limit₂ clock₂ evicts
    -- the entries kept lie under other keys and were used before the new tick
    have others : ∀ s ∈ m₂.slots, s.key ≠ key ∧ s.lastUsed ≤ m₂.clock := fun s mem => by
      obtain ⟨orig, keyed⟩ := List.mem_filter.mp (evicts.sublist.subset mem)
      exact ⟨by simpa using keyed, clock₂ ▸ sound.past s orig⟩
    dsimp only
    refine ⟨⟨?_, ?_, ?_, ?_, ?_⟩, .inr ⟨limit₂, m₂.slots, evicts, rfl, fun s mem => ?_⟩⟩
    · simp only [total_append, total_cons, total_nil, sound₂.sized]
      omega
    · show m₂.size + data.length ≤ m₂.limit
      have := evicts.fits
      rw [sound₂.sized, limit₂]
      exact this
    · rw [List.map_append, List.nodup_append]
      refine ⟨sound₂.keys, List.nodup_singleton _, fun a inside b single same => ?_⟩
      obtain ⟨s, mem, rfl⟩ := List.mem_map.mp inside
      rw [List.map_singleton, List.mem_singleton] at single
      exact (others s mem).1 (same.trans single)
    · rw [List.map_append, List.nodup_append]
      refine ⟨sound₂.stamps, List.nodup_singleton _, fun a inside b single same => ?_⟩
      obtain ⟨s, mem, rfl⟩ := List.mem_map.mp inside
      rw [List.map_singleton, List.mem_singleton] at single
      have before := (others s mem).2
      rw [same, single] at before
      exact absurd before (Nat.not_succ_le_self _)
    · intro s mem
      rw [List.mem_append, List.mem_singleton] at mem
      rcases mem with old | rfl
      · exact Nat.le_succ_of_le (others s old).2
      · exact Nat.le_refl _
    · show s.lastUsed < m₂.clock + 1
      exact Nat.lt_succ_of_le (others s mem).2

/-! ## Lookups -/

/-- Advancing the clock keeps the invariant. -/
theorem Sound.tick {m : Memory} (sound : m.Sound) {clock : Nat} (later : m.clock ≤ clock) :
    ({ m with clock } : Memory).Sound where
  sized := sound.sized
  bounded := sound.bounded
  keys := sound.keys
  stamps := sound.stamps
  past := fun s mem => Nat.le_trans (sound.past s mem) later

/-- Marking the entries of a key as used at a tick. -/
def mark (key : String) (tick : Nat) (t : Slot) : Slot :=
  if t.key == key then { t with lastUsed := tick } else t

theorem mark_key (key : String) (tick : Nat) (t : Slot) : (mark key tick t).key = t.key := by
  unfold mark; split <;> rfl

theorem mark_expires (key : String) (tick : Nat) (t : Slot) : (mark key tick t).expires = t.expires := by
  unfold mark; split <;> rfl

theorem mark_lastUsed (key : String) (tick : Nat) (t : Slot) :
    (mark key tick t).lastUsed = if t.key = key then tick else t.lastUsed := by
  unfold mark
  by_cases keyed : t.key = key <;> simp [keyed]

theorem lookup_limit (m : Memory) (key : String) (now : Time) : (m.lookup key now).2.limit = m.limit := by
  unfold Memory.lookup
  dsimp only
  split
  · split
    · rfl
    · exact remove_limit _ key
  · rfl

theorem lookup_clock (m : Memory) (key : String) (now : Time) : (m.lookup key now).2.clock = m.clock + 1 := by
  unfold Memory.lookup
  dsimp only
  split
  · split
    · rfl
    · exact remove_clock _ key
  · rfl

/-- A lookup hit finds a live entry under the key, gives its bytes and marks it used now. -/
theorem lookup_hit {m : Memory} {key : String} {now : Time} {data : List UInt8}
    (hit : (m.lookup key now).1 = some data) :
    ∃ s ∈ m.slots, s.key = key ∧ now < s.expires ∧ s.data = data ∧
      (m.lookup key now).2.slots = m.slots.map (mark key (m.clock + 1)) ∧
      (m.lookup key now).2.size = m.size := by
  unfold Memory.lookup at hit ⊢
  dsimp only at hit ⊢
  split at hit
  · rename_i s found
    split at hit
    · rename_i live
      simp only [Option.some.injEq] at hit
      refine ⟨s, List.mem_of_find?_eq_some found, by simpa using List.find?_some found, live, hit, ?_⟩
      rw [if_pos live]
      exact ⟨rfl, rfl⟩
    · cases hit
  · cases hit

/-- A lookup miss found no live entry under the key, and drops the entries under it. -/
theorem lookup_miss {m : Memory} (sound : m.Sound) {key : String} {now : Time}
    (miss : (m.lookup key now).1 = none) :
    (∀ s ∈ m.slots, s.key = key → s.expires ≤ now) ∧
      (m.lookup key now).2.slots = m.slots.filter (·.key != key) := by
  unfold Memory.lookup at miss ⊢
  dsimp only at miss ⊢
  split at miss
  · rename_i s found
    have mem := List.mem_of_find?_eq_some found
    have keyed : s.key = key := by simpa using List.find?_some found
    split at miss
    · cases miss
    · rename_i expired
      refine ⟨fun t inside same => ?_, ?_⟩
      · rw [sound.eq_of_key inside mem (same.trans keyed.symm)]
        exact Time.not_lt.mp expired
      · rw [if_neg expired]
        exact remove_slots _ key
  · rename_i absent
    have none_keyed : ∀ t ∈ m.slots, t.key ≠ key := fun t inside => by
      simpa using List.find?_eq_none.mp absent t inside
    refine ⟨fun t inside same => absurd same (none_keyed t inside), ?_⟩
    symm
    rw [List.filter_eq_self]
    intro t inside
    simpa using none_keyed t inside

theorem Sound.lookup {m : Memory} (sound : m.Sound) (key : String) (now : Time) :
    (m.lookup key now).2.Sound := by
  cases hit : (m.lookup key now).1 with
  | some data =>
    obtain ⟨s, -, -, -, -, slots, size⟩ := lookup_hit hit
    have ticked := lookup_clock m key now
    have bound := lookup_limit m key now
    -- only the slots' ticks change: to the new tick under the key, which no other tick reaches
    have fresh : ∀ t ∈ m.slots, t.lastUsed < m.clock + 1 := fun t inside => Nat.lt_succ_of_le (sound.past t inside)
    refine ⟨?_, ?_, ?_, ?_, ?_⟩
    · rw [size, slots, sound.sized]
      have := total_map_lastUsed m.slots fun t => if t.key = key then m.clock + 1 else t.lastUsed
      rw [← this]
      congr 1
      apply List.map_congr_left
      intro t _
      unfold mark
      by_cases keyed : t.key = key <;> simp [keyed]
    · rw [size, bound]
      exact sound.bounded
    · rw [slots, List.map_map]
      have same : ((·.key) ∘ mark key (m.clock + 1)) = (·.key) := funext (mark_key key _)
      rw [same]
      exact sound.keys
    · rw [slots, List.map_map]
      apply (List.Nodup.of_map _ sound.stamps).map_on
      intro a ina b inb same
      simp only [Function.comp, mark_lastUsed] at same
      split at same <;> split at same
      · rename_i ka kb
        exact sound.eq_of_key ina inb (ka.trans kb.symm)
      · exact absurd same (Nat.ne_of_gt (fresh b inb))
      · exact absurd same (Nat.ne_of_lt (fresh a ina))
      · exact sound.eq_of_lastUsed ina inb same
    · intro t inside
      rw [slots] at inside
      obtain ⟨t₀, inside₀, rfl⟩ := List.mem_map.mp inside
      rw [ticked, mark_lastUsed]
      split
      · exact Nat.le_refl _
      · exact Nat.le_succ_of_le (sound.past t₀ inside₀)
  | none =>
    unfold Memory.lookup
    dsimp only
    split
    · split
      · rename_i found live
        unfold Memory.lookup at hit
        simp [found, live] at hit
      · exact (sound.tick (Nat.le_succ _)).remove key
    · exact sound.tick (Nat.le_succ _)

/-- After a hit the entry under the key is the newest. -/
theorem lookup_hit_newest {m : Memory} (sound : m.Sound) {key : String} {now : Time} {data : List UInt8}
    (hit : (m.lookup key now).1 = some data) : Newest (m.lookup key now).2 key := by
  obtain ⟨s, mem, keyed, -, -, slots, -⟩ := lookup_hit hit
  rw [Newest, slots, lookup_clock]
  refine ⟨mark key (m.clock + 1) s, List.mem_map_of_mem mem, by rw [mark_key, keyed], by simp [mark_lastUsed, keyed],
    fun t inside other => ?_⟩
  obtain ⟨t₀, inside₀, rfl⟩ := List.mem_map.mp inside
  rw [mark_key] at other
  rw [mark_lastUsed, if_neg other]
  exact Nat.lt_succ_of_le (sound.past t₀ inside₀)

end Memory

namespace Tiered

/-! ## The two tiers -/

/-- What a read of a chunk file can do: find no file and leave the cache, find a file of the
wrong length or past its expiry and remove it, or find a live file and return its bytes
after the expiry, with the expiry. -/
theorem readChunk_cases {c c' : Tiered} {path : List String} {r : ByteRange} {now : Time}
    {found : Option (List UInt8 × Time)} (read : c.readChunk path r now = .ok (found, c')) :
    (found = none ∧ (c' = c ∨ c' = { c with disk := (c.disk.removeFile path).toOption.getD c.disk })) ∨
    ∃ bytes, c.disk.readFile path = .ok bytes ∧ now < ofEpochSecs (readLe8 bytes) ∧
      found = some (bytes.drop expiryLength, ofEpochSecs (readLe8 bytes)) ∧ c' = c := by
  unfold readChunk at read
  split at read
  · cases read
    exact .inl ⟨rfl, .inl rfl⟩
  · rename_i bytes fileRead
    cases sized : r.size with
    | error f => simp [sized, bind, Except.bind] at read
    | ok size =>
      simp only [sized, bind, Except.bind] at read
      split at read
      · cases read
      · split at read
        · cases read
          exact .inl ⟨rfl, .inr rfl⟩
        · split at read
          · cases read
          · split at read
            · cases read
              exact .inl ⟨rfl, .inr rfl⟩
            · rename_i live
              cases read
              exact .inr ⟨bytes, fileRead, Time.not_le.mp live, rfl, rfl⟩

/-- Reading a chunk file touches only the disk, and a chunk it finds is live. -/
theorem readChunk_keeps {c c' : Tiered} {path : List String} {r : ByteRange} {now : Time}
    {found : Option (List UInt8 × Time)} (read : c.readChunk path r now = .ok (found, c')) :
    c'.memory = c.memory ∧ c'.counters = c.counters ∧ ∀ data e, found = some (data, e) → now < e := by
  rcases readChunk_cases read with ⟨rfl, rfl | rfl⟩ | ⟨bytes, -, live, rfl, rfl⟩
  · exact ⟨rfl, rfl, fun _ _ none_found => by cases none_found⟩
  · exact ⟨rfl, rfl, fun _ _ none_found => by cases none_found⟩
  · exact ⟨rfl, rfl, fun _ _ same => by cases same; exact live⟩

/-- What a lookup on disk can do: with a disk tier it reads the chunk's file; a chunk found
is returned, stored in memory with its expiry and counted as a disk hit, and otherwise the
lookup counts a miss. -/
theorem lookupDisk_inv {c c' : Tiered} {remote : String} {r : ByteRange} {now : Time}
    {res : Option (List UInt8)} (looked : c.lookupDisk remote r now = .ok (res, c')) :
    ∃ found c₁, ((c.tier = none ∧ found = none ∧ c₁ = c) ∨
        ∃ t, c.tier = some t ∧ c.readChunk (t.base ++ chunkFile remote r) r now = .ok (found, c₁)) ∧
      ((found = none ∧ res = none ∧
          c' = { c₁ with counters := { c₁.counters with misses := c₁.counters.misses + 1 } }) ∨
        ∃ data expires, found = some (data, expires) ∧ res = some data ∧
          c' = { c₁ with memory := c₁.memory.store (chunkKey remote r) data expires,
                         counters := { c₁.counters with l2Hits := c₁.counters.l2Hits + 1 } }) := by
  unfold lookupDisk at looked
  cases tier : c.tier with
  | none =>
    simp only [tier, bind, Except.bind, pure, Except.pure, Except.ok.injEq, Prod.mk.injEq] at looked
    obtain ⟨rfl, rfl⟩ := looked
    exact ⟨none, c, .inl ⟨rfl, rfl, rfl⟩, .inl ⟨rfl, rfl, by rw [tier]⟩⟩
  | some t =>
    simp only [tier, bind, Except.bind] at looked
    cases read : c.readChunk (t.base ++ chunkFile remote r) r now with
    | error f => simp [read] at looked
    | ok result =>
      obtain ⟨found, c₁⟩ := result
      simp only [read] at looked
      refine ⟨found, c₁, .inr ⟨t, rfl, read⟩, ?_⟩
      cases found with
      | none =>
        simp only [pure, Except.pure, Except.ok.injEq, Prod.mk.injEq] at looked
        obtain ⟨rfl, rfl⟩ := looked
        exact .inl ⟨rfl, rfl, rfl⟩
      | some hit =>
        obtain ⟨data, expires⟩ := hit
        simp only [pure, Except.pure, Except.ok.injEq, Prod.mk.injEq] at looked
        obtain ⟨rfl, rfl⟩ := looked
        exact .inr ⟨data, expires, rfl, rfl, rfl⟩

/-- A lookup on disk after memory missed: a miss that leaves memory as it was, or a hit
on a live chunk file, whose chunk is stored in memory with the file's expiry. -/
theorem lookupDisk_cases {c c' : Tiered} {remote : String} {r : ByteRange} {now : Time}
    {res : Option (List UInt8)} (looked : c.lookupDisk remote r now = .ok (res, c')) :
    (res = none ∧ c'.memory = c.memory ∧ c'.counters = { c.counters with misses := c.counters.misses + 1 }) ∨
    (∃ data expires, now < expires ∧ res = some data ∧
      c'.memory = c.memory.store (chunkKey remote r) data expires ∧
      c'.counters = { c.counters with l2Hits := c.counters.l2Hits + 1 }) := by
  obtain ⟨found, c₁, source, outcome⟩ := lookupDisk_inv looked
  -- reading the file touches neither memory nor the counters
  have kept : c₁.memory = c.memory ∧ c₁.counters = c.counters ∧ ∀ data e, found = some (data, e) → now < e := by
    rcases source with ⟨-, rfl, rfl⟩ | ⟨t, -, read⟩
    · exact ⟨rfl, rfl, fun _ _ none_found => by cases none_found⟩
    · exact readChunk_keeps read
  obtain ⟨memory, counters, live⟩ := kept
  rcases outcome with ⟨-, rfl, rfl⟩ | ⟨data, expires, rfl, rfl, rfl⟩
  · exact .inl ⟨rfl, memory, by rw [counters]⟩
  · exact .inr ⟨data, expires, live data expires rfl, rfl, by rw [memory], by rw [counters]⟩

/-- A lookup: a hit in memory, counted as such, or a miss in memory followed by the disk. -/
theorem lookup_cases {c c' : Tiered} {remote : String} {r : ByteRange} {now : Time}
    {res : Option (List UInt8)} (looked : c.lookup remote r now = .ok (res, c')) :
    (∃ data, (c.memory.lookup (chunkKey remote r) now).1 = some data ∧ res = some data ∧
      c'.memory = (c.memory.lookup (chunkKey remote r) now).2 ∧
      c'.counters = { c.counters with l1Hits := c.counters.l1Hits + 1 }) ∨
    ((c.memory.lookup (chunkKey remote r) now).1 = none ∧
      ({ c with memory := (c.memory.lookup (chunkKey remote r) now).2 } : Tiered).lookupDisk remote r now =
        .ok (res, c')) := by
  unfold lookup lookupMemory at looked
  cases hit : (c.memory.lookup (chunkKey remote r) now).1 with
  | some data =>
    simp only [hit, pure, Except.pure, Except.ok.injEq, Prod.mk.injEq] at looked
    obtain ⟨rfl, rfl⟩ := looked
    exact .inl ⟨data, rfl, rfl, rfl, rfl⟩
  | none =>
    simp only [hit] at looked
    exact .inr ⟨rfl, looked⟩

theorem writeBehind_memory (c : Tiered) (t : DiskTier) (path : List String) (data : List UInt8) (expires : Time) :
    (c.writeBehind t path data expires).memory = c.memory := by
  unfold writeBehind
  split
  split
  · split
    rfl
  · rfl

/-- A store keeps the chunk in memory, until the time to live has passed; the disk is
written behind. -/
theorem store_memory {c c' : Tiered} {remote : String} {r : ByteRange} {data : List UInt8} {now : Time}
    {res : Except ProxyError Unit} (stored : c.store remote r data now = .ok (res, c')) :
    ∃ expires, c'.memory = c.memory.store (chunkKey remote r) data expires := by
  unfold store at stored
  cases added : addSecs now c.ttl with
  | error f => simp [added, bind, Except.bind] at stored
  | ok expires =>
    refine ⟨expires, ?_⟩
    simp only [added, bind, Except.bind] at stored
    split at stored
    · cases stored
      rfl
    · split at stored
      · cases stored
        rw [writeBehind_memory]
      · cases stored
        rfl

/-- What a lookup of the chunk under `key` at time `now` did: it left no expired entry of the
chunk in memory, and it counted exactly one outcome.  Either a memory hit, on a live entry,
whose bytes it gave and which it made the newest; or, with no live entry in memory, a disk
hit on a live chunk file, whose chunk it stored in memory, or a miss. -/
structure LookedUp (c : Tiered) (key : String) (now : Time) (res : Option (List UInt8)) (c' : Tiered) :
    Prop where
  live : ∀ s ∈ c'.memory.slots, s.key = key → now < s.expires
  counted :
    (∃ s ∈ c.memory.slots, s.key = key ∧ now < s.expires ∧ res = some s.data ∧
      Memory.Newest c'.memory key ∧ c'.counters = { c.counters with l1Hits := c.counters.l1Hits + 1 }) ∨
    ((∀ s ∈ c.memory.slots, s.key = key → s.expires ≤ now) ∧
      ((∃ data expires, now < expires ∧ res = some data ∧
          Memory.Stored (c.memory.lookup key now).2 key data expires c'.memory ∧
          c'.counters = { c.counters with l2Hits := c.counters.l2Hits + 1 }) ∨
        (res = none ∧ c'.counters = { c.counters with misses := c.counters.misses + 1 })))

/-- Every lookup does what `LookedUp` says, and keeps the memory tier's invariant and bound. -/
theorem lookedUp {c c' : Tiered} (sound : c.memory.Sound) {remote : String} {r : ByteRange} {now : Time}
    {res : Option (List UInt8)} (looked : c.lookup remote r now = .ok (res, c')) :
    LookedUp c (chunkKey remote r) now res c' ∧ c'.memory.Sound ∧ c'.memory.limit = c.memory.limit := by
  have sound₁ := sound.lookup (chunkKey remote r) now
  have limit₁ := Memory.lookup_limit c.memory (chunkKey remote r) now
  rcases lookup_cases looked with ⟨data, hit, rfl, memory', counters'⟩ | ⟨miss, disk⟩
  · -- a memory hit: the entry was live, and only ticks changed
    obtain ⟨s, mem, keyed, live, same, slots, -⟩ := Memory.lookup_hit hit
    refine ⟨⟨fun t inside tkey => ?_, .inl ⟨s, mem, keyed, live, by rw [same], ?_, counters'⟩⟩,
      memory' ▸ sound₁, memory' ▸ limit₁⟩
    · rw [memory', slots] at inside
      obtain ⟨t₀, inside₀, rfl⟩ := List.mem_map.mp inside
      rw [Memory.mark_key] at tkey
      rw [Memory.mark_expires, sound.eq_of_key inside₀ mem (tkey.trans keyed.symm)]
      exact live
    · rw [memory']
      exact Memory.lookup_hit_newest sound hit
  · -- a memory miss: the entries under the key were expired and are gone
    obtain ⟨expired, slots₁⟩ := Memory.lookup_miss sound miss
    have none_left : ∀ s ∈ (c.memory.lookup (chunkKey remote r) now).2.slots, s.key = chunkKey remote r →
        now < s.expires := fun s inside keyed => by
      rw [slots₁] at inside
      simp [keyed] at inside
    rcases lookupDisk_cases disk with ⟨rfl, memory', counters'⟩ | ⟨data, expires, later, rfl, memory', counters'⟩
    · exact ⟨⟨memory' ▸ none_left, .inr ⟨expired, .inr ⟨rfl, counters'⟩⟩⟩, memory' ▸ sound₁,
        memory' ▸ limit₁⟩
    · obtain ⟨sound₂, stored⟩ := sound₁.store (chunkKey remote r) data expires
      rw [← memory'] at sound₂ stored
      exact ⟨⟨stored.live none_left later, .inr ⟨expired, .inl ⟨data, expires, later, rfl, stored, counters'⟩⟩⟩,
        sound₂, stored.limit.trans limit₁⟩

/-- A store or a lookup of a chunk, each at its own time. -/
inductive Call where
  | store (remote : String) (r : ByteRange) (data : List UInt8) (now : Time)
  | lookup (remote : String) (r : ByteRange) (now : Time)

/-- Makes one call on the cache. -/
def Call.apply (c : Tiered) : Call → Except Fault Tiered
  | .store remote r data now => (·.2) <$> c.store remote r data now
  | .lookup remote r now => (·.2) <$> c.lookup remote r now

/-- Makes calls in order; a fault ends the run. -/
def runCalls (c : Tiered) : List Call → Except Fault Tiered
  | [] => .ok c
  | call :: rest => do runCalls (← call.apply c) rest

/-- Every call keeps the memory tier's invariant and bound. -/
theorem Call.apply_sound {c c' : Tiered} (sound : c.memory.Sound) {call : Call} (made : call.apply c = .ok c') :
    c'.memory.Sound ∧ c'.memory.limit = c.memory.limit := by
  cases call with
  | store remote r data now =>
    cases stored : c.store remote r data now with
    | error f => simp [Call.apply, stored, Functor.map, Except.map] at made
    | ok result =>
      simp only [Call.apply, stored, Functor.map, Except.map, Except.ok.injEq] at made
      subst made
      obtain ⟨expires, memory⟩ := store_memory stored
      obtain ⟨sound', stored'⟩ := sound.store (chunkKey remote r) data expires
      rw [memory]
      exact ⟨sound', stored'.limit⟩
  | lookup remote r now =>
    cases looked : c.lookup remote r now with
    | error f => simp [Call.apply, looked, Functor.map, Except.map] at made
    | ok result =>
      simp only [Call.apply, looked, Functor.map, Except.map, Except.ok.injEq] at made
      subst made
      exact (lookedUp sound looked).2

theorem runCalls_sound : ∀ (calls : List Call) {c c' : Tiered}, c.memory.Sound → runCalls c calls = .ok c' →
    c'.memory.Sound ∧ c'.memory.limit = c.memory.limit
  | [], c, c', sound, ran => by
    cases ran
    exact ⟨sound, rfl⟩
  | call :: rest, c, c', sound, ran => by
    simp only [runCalls, bind, Except.bind] at ran
    cases made : call.apply c with
    | error f => simp [made] at ran
    | ok c₁ =>
      rw [made] at ran
      obtain ⟨sound₁, limit₁⟩ := Call.apply_sound sound made
      obtain ⟨sound', limit'⟩ := runCalls_sound rest sound₁ ran
      exact ⟨sound', limit'.trans limit₁⟩

/-- A two-tier cache started with an empty memory tier of bound `limit`, after any stores and
lookups at any times: the byte count is the total size of the entries in memory and within
the bound, which the snapshot reports, with the number of entries; entries carry distinct
last-use ticks.  A store then replaces the entry of its key and makes room by dropping least
recently used entries until the chunk fits, the chunk becoming the newest entry (or keeps
nothing when the chunk exceeds the bound); a lookup counts exactly one of a memory hit, only
on a live entry and making it the newest, a disk hit, or a miss, and leaves no expired entry of
the chunk in memory. -/
theorem memory_tier_accounting_and_lru {limit : Nat} {c₀ c : Tiered} {calls : List Call}
    (fresh : c₀.memory = { limit }) (ran : runCalls c₀ calls = .ok c) :
    c.memory.Sound ∧ c.memory.limit = limit ∧
    c.stats.bytes = Memory.total c.memory.slots ∧ c.stats.entries = c.memory.slots.length ∧
    (∀ remote r data now res c', c.store remote r data now = .ok (res, c') →
      ∃ expires, Memory.Stored c.memory (chunkKey remote r) data expires c'.memory) ∧
    (∀ remote r now res c', c.lookup remote r now = .ok (res, c') →
      LookedUp c (chunkKey remote r) now res c') := by
  have start : c₀.memory.Sound := fresh ▸ Memory.sound_empty limit
  obtain ⟨sound, bound⟩ := runCalls_sound calls start ran
  refine ⟨sound, bound.trans (by rw [fresh]), sound.sized, rfl, fun remote r data now res c' stored => ?_,
    fun remote r now res c' looked => (lookedUp sound looked).1⟩
  obtain ⟨expires, memory⟩ := store_memory stored
  exact ⟨expires, memory ▸ (sound.store (chunkKey remote r) data expires).2⟩

/-- A memory-only cache with room for eight bytes: two four-byte chunks of a file fill it,
and a lookup uses the first.  Storing a third chunk then evicts the second, the least
recently used, and keeps the first beside the new one, eight bytes in all. -/
theorem third_chunk_evicts_least_recent :
    (memoryOnly 60 8).memory = { limit := 8 } ∧
    ∃ c c', runCalls (memoryOnly 60 8)
        [.store "f" ⟨0, 3⟩ [1, 2, 3, 4] 0, .store "f" ⟨4, 7⟩ [5, 6, 7, 8] 0, .lookup "f" ⟨0, 3⟩ 0] = .ok c ∧
      c.store "f" ⟨8, 11⟩ [9, 9, 9, 9] 0 = .ok (.ok (), c') ∧
      c.memory.slots.map (·.key) = ["f/0-3", "f/4-7"] ∧
      c'.memory.slots.map (·.key) = ["f/0-3", "f/8-11"] ∧ c'.stats.bytes = 8 ∧
      ∃ expires, Memory.Stored c.memory (chunkKey "f" ⟨8, 11⟩) [9, 9, 9, 9] expires c'.memory := by
  obtain ⟨c, ran, c', stored, before, after, bytes⟩ : ∃ c, runCalls (memoryOnly 60 8)
      [.store "f" ⟨0, 3⟩ [1, 2, 3, 4] 0, .store "f" ⟨4, 7⟩ [5, 6, 7, 8] 0, .lookup "f" ⟨0, 3⟩ 0] = .ok c ∧
      ∃ c', c.store "f" ⟨8, 11⟩ [9, 9, 9, 9] 0 = .ok (.ok (), c') ∧
        c.memory.slots.map (·.key) = ["f/0-3", "f/4-7"] ∧
        c'.memory.slots.map (·.key) = ["f/0-3", "f/8-11"] ∧ c'.stats.bytes = 8 :=
    ⟨_, rfl, _, rfl, rfl, rfl, rfl⟩
  exact ⟨rfl, c, c', ran, stored, before, after, bytes,
    (memory_tier_accounting_and_lru rfl ran).2.2.2.2.1 _ _ _ _ _ _ stored⟩

end Tiered

end ChunkProxy.Cache
