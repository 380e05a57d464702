import ChunkProxy.Registry
import Mathlib.Data.List.Induction
/-!
# The registry after any history

A history is the list of operations made on one registry, each with the time
it ran at.  Since every operation is one atomic step on the table, any run of
concurrent callers is such a history in the order their steps took effect.

The history alone says what the registry holds (`expectedEntry`): an
identifier never registered has no entry; otherwise its entry is the one
written by its latest registration with a size, stamped with that
registration's time, and without one the entry of its first plain
registration.  A plain registration therefore never changes an entry, and a
registration with a size always replaces it.

`run_agrees_with_history` states that after every history the registry holds
exactly these entries, every operation answers as the history says (a
registration reports a creation exactly when the identifier was new, the
identifiers are those registered, each once), and of all the registrations
of one identifier exactly one reports a creation.
-/

namespace ChunkProxy.Registry

set_option autoImplicit false

/-! ## The history as a specification -/

/-- An operation with the time it ran at. -/
abbrev Timed := Int × Step

/-- Whether an operation registers an identifier, with or without a size. -/
def Step.registers (id : String) : Step → Bool
  | .register remote _ _ => remote == id
  | .registerWithSize remote _ _ _ => remote == id
  | _ => false

/-- Whether a history registers an identifier. -/
def registered (hist : List Timed) (id : String) : Bool := hist.any fun op => op.2.registers id

/-- The entry a registration with a size writes for an identifier. -/
def sizedEntry (id : String) : Timed → Option RegistryEntry
  | (now, .registerWithSize remote url headers size) =>
    if remote = id then some { url, headers, known := some (size, now) } else none
  | _ => none

/-- The entry a plain registration of an identifier creates, when it is new. -/
def plainEntry (id : String) : Timed → Option RegistryEntry
  | (_, .register remote url headers) => if remote = id then some { url, headers } else none
  | _ => none

/-- The entry an identifier has after a history: the latest registration with a
size, else the first plain registration. -/
def expectedEntry (hist : List Timed) (id : String) : Option RegistryEntry :=
  (hist.filterMap (sizedEntry id)).getLast?.or (hist.filterMap (plainEntry id)).head?

/-- Whether an answer reports a creation. -/
def Answer.isCreated : Answer → Bool
  | .created fresh => fresh
  | _ => false

/-- What an operation made after a history must answer. -/
def Answers (hist : List Timed) : Step → Answer → Prop
  | .register id _ _, a => a = .created !(registered hist id)
  | .registerWithSize id _ _ _, a => a = .created !(registered hist id)
  | .lookup id, a => a = .entry (expectedEntry hist id)
  | .load id, a => a = .url ((expectedEntry hist id).map (·.url))
  | .identifiers, a =>
    ∃ ids, a = .identifiers ids ∧ ids.Nodup ∧ ∀ id, id ∈ ids ↔ registered hist id
  | .size, a =>
    ∃ ids : List String, a = .size ids.length ∧ ids.Nodup ∧ ∀ id, id ∈ ids ↔ registered hist id

/-- Runs a history on an empty registry: the answers in order, and the registry after. -/
def run (hist : List Timed) : List Answer × Registry :=
  hist.foldl (fun acc op => let (a, r) := op.2.apply op.1 acc.2; (acc.1 ++ [a], r)) ([], {})

/-- The identifiers with an entry. -/
def keys (r : Registry) : List String := r.entries.map (·.1)

/-- The registry holds what its history says, each identifier once. -/
def Agrees (r : Registry) (hist : List Timed) : Prop :=
  (keys r).Nodup ∧ ∀ id, r.lookup id = expectedEntry hist id

/-! ## One operation on the table -/

theorem lookup_mk (entries : List (String × RegistryEntry)) (id : String) :
    lookup { entries } id = entries.lookup id := rfl

theorem lookup_append_entry (r : Registry) (remote id : String) (e : RegistryEntry) :
    lookup { entries := r.entries ++ [(remote, e)] } id =
      (r.lookup id).or (if id = remote then some e else none) := by
  by_cases hid : id = remote
  · subst hid; simp [lookup, List.lookup_append]
  · have miss : (id == remote) = false := by simpa using hid
    simp [lookup, List.lookup_append, List.lookup_cons, miss, hid]

/-- Changing values by their keys changes what a lookup finds the same way. -/
theorem lookup_map_values (entries : List (String × RegistryEntry))
    (g : String → RegistryEntry → RegistryEntry) (id : String) :
    (entries.map fun x => (x.1, g x.1 x.2)).lookup id = (entries.lookup id).map (g id) := by
  induction entries with
  | nil => rfl
  | cons x rest ih =>
    obtain ⟨k, v⟩ := x
    by_cases hid : id = k
    · subst hid; simp
    · have miss : (id == k) = false := by simpa using hid
      simp only [List.map_cons, List.lookup_cons, miss, ih]

/-- Replacing the entry of an identifier changes values only. -/
theorem replace_eq (remote : String) (e : RegistryEntry) :
    (fun x : String × RegistryEntry => if x.1 == remote then (remote, e) else x) =
      fun x => (x.1, if x.1 = remote then e else x.2) := by
  funext x
  by_cases hx : x.1 = remote
  · simp [hx]
  · simp [hx]

/-- Rewriting the entry of one identifier leaves the others. -/
theorem lookup_replace (entries : List (String × RegistryEntry)) (remote id : String)
    (e : RegistryEntry) :
    (entries.map fun x => if x.1 == remote then (remote, e) else x).lookup id =
      if id = remote then (entries.lookup remote).map fun _ => e else entries.lookup id := by
  rw [replace_eq, lookup_map_values entries (fun k v => if k = remote then e else v) id]
  by_cases hid : id = remote
  · subst hid; simp
  · simp [hid]

theorem keys_replace (entries : List (String × RegistryEntry)) (remote : String) (e : RegistryEntry) :
    (entries.map fun x => if x.1 == remote then (remote, e) else x).map (·.1) = entries.map (·.1) := by
  rw [replace_eq, List.map_map]
  rfl

theorem mem_keys_iff (r : Registry) (id : String) : id ∈ keys r ↔ (r.lookup id).isSome := by
  simp only [keys, lookup, List.lookup_isSome_iff, List.mem_map]
  constructor
  · rintro ⟨p, mem, same⟩
    exact ⟨p, mem, by simp [same]⟩
  · rintro ⟨p, mem, same⟩
    exact ⟨p, mem, (beq_iff_eq.mp same).symm⟩

/-- A plain registration adds an entry only for a new identifier. -/
theorem register_lookup (r : Registry) (remote url id : String) (headers : Http.Headers) :
    (r.register remote url headers).2.lookup id =
      if id = remote then some ((r.lookup remote).getD { url, headers }) else r.lookup id := by
  unfold register
  cases hr : r.lookup remote with
  | some e =>
    by_cases hid : id = remote
    · subst hid; simp [hr]
    · simp [hid]
  | none =>
    rw [lookup_append_entry]
    by_cases hid : id = remote
    · subst hid; simp [hr]
    · simp [hid]

/-- A registration with a size writes the entry of its identifier and no other. -/
theorem registerWithSize_lookup (r : Registry) (remote url id : String) (headers : Http.Headers)
    (size : Nat) (now : Int) :
    (r.registerWithSize remote url headers size now).2.lookup id =
      if id = remote then some { url, headers, known := some (size, now) } else r.lookup id := by
  unfold registerWithSize
  cases hr : r.lookup remote with
  | some e =>
    simp only [lookup_mk, lookup_replace]
    by_cases hid : id = remote
    · subst hid; simp [← lookup_mk, hr]
    · simp [hid, lookup]
  | none =>
    rw [lookup_append_entry]
    by_cases hid : id = remote
    · subst hid; simp [hr]
    · simp [hid]

theorem register_created (r : Registry) (remote url : String) (headers : Http.Headers) :
    (r.register remote url headers).1 = (r.lookup remote).isNone := by
  unfold register
  cases r.lookup remote <;> rfl

theorem registerWithSize_created (r : Registry) (remote url : String) (headers : Http.Headers)
    (size : Nat) (now : Int) :
    (r.registerWithSize remote url headers size now).1 = (r.lookup remote).isNone := by
  unfold registerWithSize
  cases r.lookup remote <;> rfl

/-- A plain registration adds its identifier's key when it is new. -/
theorem register_keys (r : Registry) (remote url : String) (headers : Http.Headers) :
    keys (r.register remote url headers).2 =
      if (r.lookup remote).isSome then keys r else keys r ++ [remote] := by
  unfold register
  cases r.lookup remote <;> simp [keys]

theorem registerWithSize_keys (r : Registry) (remote url : String) (headers : Http.Headers)
    (size : Nat) (now : Int) :
    keys (r.registerWithSize remote url headers size now).2 =
      if (r.lookup remote).isSome then keys r else keys r ++ [remote] := by
  unfold registerWithSize
  cases r.lookup remote
  · simp [keys]
  · exact keys_replace r.entries remote _

/-- Adding a key when it has no entry keeps the keys distinct. -/
theorem nodup_keys_add (r : Registry) (remote : String) (nodup : (keys r).Nodup) :
    (if (r.lookup remote).isSome then keys r else keys r ++ [remote]).Nodup := by
  split
  · exact nodup
  · rename_i absent
    have fresh : remote ∉ keys r := by rw [mem_keys_iff]; exact absent
    rw [List.nodup_append]
    refine ⟨nodup, by simp, fun a mem b single same => fresh ?_⟩
    rw [List.mem_singleton] at single
    rwa [← single, ← same]

/-! ## The history, one operation longer -/

theorem registered_snoc (hist : List Timed) (op : Timed) (id : String) :
    registered (hist ++ [op]) id = (registered hist id || op.2.registers id) := by
  simp [registered, List.any_append]

/-- One more operation: a sized registration of the identifier decides its entry, a
plain one only fills an empty place. -/
theorem expectedEntry_snoc (hist : List Timed) (op : Timed) (id : String) :
    expectedEntry (hist ++ [op]) id =
      (sizedEntry id op).or ((expectedEntry hist id).or (plainEntry id op)) := by
  unfold expectedEntry
  rw [List.filterMap_append, List.filterMap_append, List.getLast?_append, List.head?_append]
  cases sized : sizedEntry id op <;> cases plain : plainEntry id op <;>
    simp only [List.filterMap_cons, List.filterMap_nil, sized, plain, List.getLast?_singleton,
      List.getLast?_nil, List.head?_cons, List.head?_nil, Option.none_or, Option.some_or,
      Option.or_none, Option.or_assoc]

/-- An identifier has an expected entry exactly when the history registers it. -/
theorem expectedEntry_isSome (hist : List Timed) (id : String) :
    (expectedEntry hist id).isSome = registered hist id := by
  induction hist using List.reverseRecOn with
  | nil => rfl
  | append_singleton hist op ih =>
    obtain ⟨now, s⟩ := op
    rw [expectedEntry_snoc, registered_snoc, ← ih]
    cases s with
    | register remote url headers =>
      by_cases hid : remote = id <;> simp [sizedEntry, plainEntry, Step.registers, hid]
    | registerWithSize remote url headers size =>
      by_cases hid : remote = id <;> simp [sizedEntry, plainEntry, Step.registers, hid]
    | lookup _ | load _ | identifiers | size => simp [sizedEntry, plainEntry, Step.registers]

/-! ## Each operation keeps the registry in agreement with its history -/

section Step

variable {r : Registry} {hist : List Timed}

theorem agrees_apply (agrees : Agrees r hist) (now : Int) (s : Step) :
    Agrees (s.apply now r).2 (hist ++ [(now, s)]) := by
  obtain ⟨nodup, entries⟩ := agrees
  cases s with
  | register remote url headers =>
    refine ⟨?_, fun id => ?_⟩
    · simp only [Step.apply]
      rw [register_keys]
      exact nodup_keys_add r remote nodup
    · simp only [Step.apply]
      rw [register_lookup, expectedEntry_snoc, ← entries id]
      by_cases hid : id = remote
      · subst hid; simp [sizedEntry, plainEntry]
      · simp [sizedEntry, plainEntry, hid, Ne.symm hid]
  | registerWithSize remote url headers size =>
    refine ⟨?_, fun id => ?_⟩
    · simp only [Step.apply]
      rw [registerWithSize_keys]
      exact nodup_keys_add r remote nodup
    · simp only [Step.apply]
      rw [registerWithSize_lookup, expectedEntry_snoc, ← entries id]
      by_cases hid : id = remote
      · subst hid; simp [sizedEntry, plainEntry]
      · simp [sizedEntry, plainEntry, hid, Ne.symm hid]
  | lookup _ | load _ | identifiers | size =>
    exact ⟨nodup, fun id => by simp [Step.apply, expectedEntry_snoc, sizedEntry, plainEntry, entries]⟩

/-- The identifiers with an entry are exactly those the history registers. -/
theorem mem_keys_of_agrees (agrees : Agrees r hist) (id : String) :
    id ∈ keys r ↔ registered hist id = true := by
  rw [mem_keys_iff, agrees.2, expectedEntry_isSome]

theorem answers_apply (agrees : Agrees r hist) (now : Int) (s : Step) :
    Answers hist s (s.apply now r).1 := by
  cases s with
  | register remote url headers =>
    simp only [Step.apply, Answers, register_created, agrees.2, ← expectedEntry_isSome]
    cases expectedEntry hist remote <;> rfl
  | registerWithSize remote url headers size =>
    simp only [Step.apply, Answers, registerWithSize_created, agrees.2, ← expectedEntry_isSome]
    cases expectedEntry hist remote <;> rfl
  | lookup id => simp [Step.apply, Answers, agrees.2]
  | load id => simp [Step.apply, Answers, load, agrees.2]
  | identifiers =>
    refine ⟨keys r |>.mergeSort fun a b => decide (a ≤ b), rfl, ?_, fun id => ?_⟩
    · exact (List.mergeSort_perm _ _).nodup_iff.mpr agrees.1
    · rw [List.mem_mergeSort, mem_keys_of_agrees agrees]
  | size =>
    refine ⟨keys r, by simp [Step.apply, size, keys], agrees.1, mem_keys_of_agrees agrees⟩

/-- The answer to a registration of an identifier reports a creation exactly when
the history had not registered it. -/
theorem isCreated_of_registers {s : Step} {a : Answer} {id : String} (answers : Answers hist s a)
    (registers : s.registers id = true) : a.isCreated = !registered hist id := by
  cases s with
  | register remote url headers =>
    simp only [Step.registers, beq_iff_eq] at registers
    subst registers
    simp only [Answers] at answers
    simp [answers, Answer.isCreated]
  | registerWithSize remote url headers size =>
    simp only [Step.registers, beq_iff_eq] at registers
    subst registers
    simp only [Answers] at answers
    simp [answers, Answer.isCreated]
  | lookup _ | load _ | identifiers | size => simp [Step.registers] at registers

end Step

/-! ## Every history -/

theorem run_snoc (hist : List Timed) (op : Timed) :
    run (hist ++ [op]) =
      ((run hist).1 ++ [(op.2.apply op.1 (run hist).2).1], (op.2.apply op.1 (run hist).2).2) := by
  simp only [run, List.foldl_append, List.foldl_cons, List.foldl_nil]

theorem run_length (hist : List Timed) : (run hist).1.length = hist.length := by
  induction hist using List.reverseRecOn with
  | nil => rfl
  | append_singleton hist op ih => simp [run_snoc, ih]

theorem agrees_run (hist : List Timed) : Agrees (run hist).2 hist := by
  induction hist using List.reverseRecOn with
  | nil => exact ⟨List.nodup_nil, fun _ => rfl⟩
  | append_singleton hist op ih =>
    rw [run_snoc]
    exact agrees_apply ih op.1 op.2

/-- How many of a history's registrations of an identifier reported a creation. -/
def createdCount (hist : List Timed) (answers : List Answer) (id : String) : Nat :=
  ((hist.zip answers).filter fun x => x.1.2.registers id && x.2.isCreated).length

theorem createdCount_run (hist : List Timed) (id : String) :
    createdCount hist (run hist).1 id = if registered hist id then 1 else 0 := by
  induction hist using List.reverseRecOn with
  | nil => rfl
  | append_singleton hist op ih =>
    have answered := answers_apply (agrees_run hist) op.1 op.2
    rw [createdCount, run_snoc, List.zip_append (run_length hist).symm, List.filter_append,
      List.length_append, ← createdCount, ih, registered_snoc]
    by_cases registers : op.2.registers id = true
    · have created := isCreated_of_registers answered registers
      cases before : registered hist id <;> simp [registers, created, before]
    · simp [registers]

/-- After any history of operations the registry holds, for each identifier, the
entry its history says (none exactly when it was never registered); every
operation answers as the history says; and of the registrations of one
identifier exactly one reports a creation. -/
theorem run_agrees_with_history (hist : List Timed) :
    (∀ id, (run hist).2.lookup id = expectedEntry hist id ∧
      ((run hist).2.lookup id = none ↔ registered hist id = false)) ∧
    (∀ now s, Answers hist s (s.apply now (run hist).2).1) ∧
    (∀ id, createdCount hist (run hist).1 id = if registered hist id then 1 else 0) := by
  have agrees := agrees_run hist
  refine ⟨fun id => ⟨agrees.2 id, ?_⟩, answers_apply agrees, createdCount_run hist⟩
  rw [agrees.2 id, ← expectedEntry_isSome, Option.isSome_eq_false_iff, Option.isNone_iff_eq_none]

end ChunkProxy.Registry
