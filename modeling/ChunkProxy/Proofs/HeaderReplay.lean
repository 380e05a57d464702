import ChunkProxy.Registry
import Std.Http.Internal.LowerCase
/-!
# Which request headers are replayed upstream

A header map lists named values in order; the values of one name are read with `getAll`.
Replaying a client's headers keeps every value whose name is not one of `nonReplayable`,
the headers of the client's exchange with the proxy, and drops the others.  The filter looks
at the lowercase name of each entry while `getAll` looks at the lowercase name asked for, and
lowercasing twice is lowercasing once (`normName_normName`), so under every name the copy
holds the client's values in their order when the name is replayed, and none when it is not
(`getAll_replayableHeaders`); its entries are some of the client's, in their order.

The copy is made in a map sized for every value the client sent.  A map of `n` values asks
for `n + n / 3` index slots rounded up to a power of two, and may have `2^15` of them, so a
client may send at most 24576 values (`roomFor_iff`); with more, replaying faults before
anything is copied (`replayHeaders_of_many`).

Main statement: `replayHeaders_filters_or_faults`.
-/

namespace ChunkProxy

set_option autoImplicit false

open Http

/-- Lowercasing a lowercased name changes nothing. -/
theorem normName_normName (n : String) : Headers.normName (Headers.normName n) = Headers.normName n :=
  Std.Http.Internal.IsLowerCase.isLowerCase_toLower

/-- Under every name the replayed copy holds the client's values under that name, in their
order, when the name is replayed, and none when it is not. -/
theorem getAll_replayableHeaders (h : Headers) (n : String) :
    (replayableHeaders h).getAll n =
      if nonReplayable.contains (Headers.normName n) then [] else h.getAll n := by
  unfold replayableHeaders Headers.getAll
  -- an entry under the asked name is kept or dropped by the asked name alone
  have byName : ((h.entries.filter fun e => !nonReplayable.contains (Headers.normName e.1)).filter
      (·.1 == Headers.normName n)) =
      h.entries.filter fun e =>
        (e.1 == Headers.normName n) && !nonReplayable.contains (Headers.normName n) := by
    rw [List.filter_filter]
    apply List.filter_congr
    intro e _
    by_cases named : e.1 = Headers.normName n
    · simp [named, normName_normName]
    · have differs : (e.1 == Headers.normName n) = false := beq_eq_false_iff_ne.mpr named
      rw [differs, Bool.false_and, Bool.false_and]
  rw [byName]
  cases nonReplayable.contains (Headers.normName n) <;> simp

/-- A header map can be made with room for at most 24576 values. -/
theorem roomFor_iff (n : Nat) : roomFor n = true ↔ n ≤ 24576 := by
  rw [roomFor, headerSlots, decide_eq_true_iff]
  omega

theorem replayHeaders_of_few {h : Headers} (few : h.entries.length ≤ 24576) :
    replayHeaders h = .ok (replayableHeaders h) := by
  rw [replayHeaders, if_pos ((roomFor_iff _).mpr few)]

theorem replayHeaders_of_many {h : Headers} (many : 24576 < h.entries.length) :
    replayHeaders h = .error Fault.headerCapacity := by
  rw [replayHeaders, if_neg (fun room => absurd ((roomFor_iff _).mp room) (Nat.not_le.mpr many))]

/-- Replaying a client's headers faults exactly when the client sent more than 24576 values.
Otherwise it gives the replayed copy: only entries the client sent, in their order, and under
every name the client's values under that name, in their order, when the name is not one of
the client's exchange with the proxy, and none when it is. -/
theorem replayHeaders_filters_or_faults (h : Headers) :
    (h.entries.length ≤ 24576 → replayHeaders h = .ok (replayableHeaders h)) ∧
    (24576 < h.entries.length → replayHeaders h = .error Fault.headerCapacity) ∧
    (replayableHeaders h).entries.Sublist h.entries ∧
    ∀ n, (replayableHeaders h).getAll n =
      if nonReplayable.contains (Headers.normName n) then [] else h.getAll n :=
  ⟨replayHeaders_of_few, replayHeaders_of_many, List.filter_sublist, getAll_replayableHeaders h⟩

/-- A client that sends 24577 `te` values, none of them replayed: replaying faults instead of
giving an empty map. -/
theorem many_values_fault_replay :
    replayHeaders ⟨List.replicate 24577 ("te", [])⟩ = .error Fault.headerCapacity :=
  replayHeaders_of_many (by rw [List.length_replicate]; decide)

end ChunkProxy
