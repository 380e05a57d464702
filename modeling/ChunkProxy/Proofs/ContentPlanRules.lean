import ChunkProxy.Proofs.RangeHeader
import ChunkProxy.Response.Plan
/-!
# The rules of the content plan

A request for a file of `S` bytes modified at `m` is answered by the first of these rules that
applies (`ContentPlan.Decides`), with dates in whole seconds, a modification before 1970 meeting
no date, and a date header counting only when it is visible text and a valid HTTP date:

1. the file changed after the `If-Unmodified-Since` date: the precondition fails;
2. without `If-None-Match`, it did not change after the `If-Modified-Since` date: not modified;
3. without a Range header, the whole file;
4. with an `If-Range` that is not the modification date, the whole file;
5. a Range value that is not text, or that the header reader refuses: unsatisfiable;
6. a Range value read as one range: that range;
7. a Range value read as several ranges: the whole file.

Main statement (`planContent_follows_rules`): `planContent` answers exactly what the rules
decide; so a range it answers with lies inside the file, and an empty file is never answered
with a range.  Each of the first rules is a condition of its own with a lemma saying when the
plan's test of it holds (`preconditionFails_iff`, `copyCurrent_iff`, `ifRangeHolds_iff`); the
last three rest on the header reader never answering an empty list
(`ByteRange.parseHeader_ok_iff`).
-/

namespace ChunkProxy.ContentPlan

set_option autoImplicit false

open Http

/-- The file was modified after the date `If-Unmodified-Since` names. -/
def ChangedSinceGuard (h : Headers) (modTime : Int) : Prop :=
  ∃ since m, headerDate h "if-unmodified-since" = some since ∧ modifiedSecs modTime = some m ∧ since < m

/-- Without `If-None-Match`, the file was not modified after the date `If-Modified-Since`
names. -/
def CopyCurrent (h : Headers) (modTime : Int) : Prop :=
  h.contains "if-none-match" = false ∧
    ∃ since m, headerDate h "if-modified-since" = some since ∧ modifiedSecs modTime = some m ∧ m ≤ since

/-- `If-Range` is absent, or is a date equal to the modification time. -/
def IfRangeHolds (h : Headers) (modTime : Int) : Prop :=
  ∀ v, h.get? "if-range" = some v →
    ∃ d, (text? v).bind HttpDate.parseSecs = some d ∧ modifiedSecs modTime = some d

/-- The Range header has the value `v` and decides the answer: no conditional header did,
and `If-Range` holds. -/
def RangeCounts (h : Headers) (modTime : Int) (v : List UInt8) : Prop :=
  ¬ ChangedSinceGuard h modTime ∧ ¬ CopyCurrent h modTime ∧ h.get? "range" = some v ∧
    IfRangeHolds h modTime

/-- The rules that decide the answer for a file of `size` bytes modified at `modTime`, each
applying only where those before it do not. -/
inductive Decides (h : Headers) (size : Nat) (modTime : Int) : ContentPlan → Prop
  | changed : ChangedSinceGuard h modTime → Decides h size modTime .preconditionFailed
  | current : ¬ ChangedSinceGuard h modTime → CopyCurrent h modTime → Decides h size modTime .notModified
  | whole : ¬ ChangedSinceGuard h modTime → ¬ CopyCurrent h modTime → h.get? "range" = none →
      Decides h size modTime .full
  | staleRange {v : List UInt8} : ¬ ChangedSinceGuard h modTime → ¬ CopyCurrent h modTime →
      h.get? "range" = some v → ¬ IfRangeHolds h modTime → Decides h size modTime .full
  | unreadable {v : List UInt8} : RangeCounts h modTime v → text? v = none →
      Decides h size modTime .unsatisfiable
  | refused {v : List UInt8} {t : String} {e : ProxyError} : RangeCounts h modTime v →
      text? v = some t → ByteRange.parseHeader t size = .error e → Decides h size modTime .unsatisfiable
  | one {v : List UInt8} {t : String} {r : ByteRange} : RangeCounts h modTime v → text? v = some t →
      ByteRange.parseHeader t size = .ok [r] → Decides h size modTime (.slice r)
  | several {v : List UInt8} {t : String} {rs : List ByteRange} : RangeCounts h modTime v →
      text? v = some t → ByteRange.parseHeader t size = .ok rs → 2 ≤ rs.length →
      Decides h size modTime .full

/-! ## The plan's tests -/

section Tests

variable (h : Headers) (modTime : Int)

theorem preconditionFails_iff :
    preconditionFails h (modifiedSecs modTime) = true ↔ ChangedSinceGuard h modTime := by
  unfold preconditionFails ChangedSinceGuard
  cases headerDate h "if-unmodified-since" <;> cases modifiedSecs modTime <;> simp

theorem copyCurrent_iff : copyCurrent h (modifiedSecs modTime) = true ↔ CopyCurrent h modTime := by
  unfold copyCurrent CopyCurrent
  cases headerDate h "if-modified-since" <;> cases modifiedSecs modTime <;> simp

theorem ifRangeHolds_iff : ifRangeHolds h (modifiedSecs modTime) = true ↔ IfRangeHolds h modTime := by
  unfold ifRangeHolds IfRangeHolds
  cases h.get? "if-range" with
  | none => simp
  | some v =>
    simp only [Option.some.injEq, forall_eq']
    cases (text? v).bind HttpDate.parseSecs <;> cases modifiedSecs modTime <;> simp
    exact eq_comm

end Tests

/-! ## The rules -/

/-- The header reader never answers an empty list, so a Range value read as other than one
range is read as several. -/
theorem several_of_ne_one {t : String} {size : Nat} {rs : List ByteRange}
    (parsed : ByteRange.parseHeader t size = .ok rs) (not_one : ∀ r, rs ≠ [r]) : 2 ≤ rs.length := by
  obtain ⟨-, -, -, -, -, nonempty⟩ := (ByteRange.parseHeader_ok_iff t size rs).mp parsed
  cases rs with
  | nil => exact absurd rfl nonempty
  | cons r rest =>
    cases rest with
    | nil => exact absurd rfl (not_one r)
    | cons => simp

/-- The answer `planContent` gives is the one the rules decide. -/
theorem decides_planContent (h : Headers) (size : Nat) (modTime : Int) :
    Decides h size modTime (planContent h size modTime) := by
  unfold planContent
  dsimp only
  by_cases fails : preconditionFails h (modifiedSecs modTime) = true
  · rw [if_pos fails]
    exact .changed ((preconditionFails_iff h modTime).mp fails)
  have unchanged : ¬ ChangedSinceGuard h modTime := fun c => fails ((preconditionFails_iff h modTime).mpr c)
  rw [if_neg fails]
  by_cases current : copyCurrent h (modifiedSecs modTime) = true
  · rw [if_pos current]
    exact .current unchanged ((copyCurrent_iff h modTime).mp current)
  have stale : ¬ CopyCurrent h modTime := fun c => current ((copyCurrent_iff h modTime).mpr c)
  rw [if_neg current]
  cases ranged : h.get? "range" with
  | none => exact .whole unchanged stale ranged
  | some v =>
    dsimp only
    by_cases holds : ifRangeHolds h (modifiedSecs modTime) = true
    · -- the Range header decides
      have counts : RangeCounts h modTime v := ⟨unchanged, stale, ranged, (ifRangeHolds_iff h modTime).mp holds⟩
      rw [holds, Bool.not_true, if_neg Bool.false_ne_true]
      cases read : text? v with
      | none => exact .unreadable counts read
      | some t =>
        dsimp only
        split
        · rename_i parsed
          exact .one counts read parsed
        · rename_i not_one parsed
          exact .several counts read parsed (several_of_ne_one parsed not_one)
        · rename_i parsed
          exact .refused counts read parsed
    · rw [Bool.not_eq_true] at holds
      rw [holds, Bool.not_false, if_pos rfl]
      exact .staleRange unchanged stale ranged fun held => by
        rw [← ifRangeHolds_iff h modTime, holds] at held
        cases held

theorem preconditionFails_false {h : Headers} {modTime : Int} (unchanged : ¬ ChangedSinceGuard h modTime) :
    preconditionFails h (modifiedSecs modTime) = false :=
  Bool.eq_false_iff.mpr fun fails => unchanged ((preconditionFails_iff h modTime).mp fails)

theorem copyCurrent_false {h : Headers} {modTime : Int} (stale : ¬ CopyCurrent h modTime) :
    copyCurrent h (modifiedSecs modTime) = false :=
  Bool.eq_false_iff.mpr fun fresh => stale ((copyCurrent_iff h modTime).mp fresh)

/-- The answer the rules decide is the one `planContent` gives. -/
theorem planContent_of_decides {h : Headers} {size : Nat} {modTime : Int} {plan : ContentPlan}
    (decided : Decides h size modTime plan) : planContent h size modTime = plan := by
  cases decided with
  | changed changed => simp [planContent, (preconditionFails_iff h modTime).mpr changed]
  | current unchanged current =>
    simp [planContent, preconditionFails_false unchanged, (copyCurrent_iff h modTime).mpr current]
  | whole unchanged stale ranged =>
    simp [planContent, preconditionFails_false unchanged, copyCurrent_false stale, ranged]
  | staleRange unchanged stale ranged fails =>
    have lapsed : ifRangeHolds h (modifiedSecs modTime) = false :=
      Bool.eq_false_iff.mpr fun held => fails ((ifRangeHolds_iff h modTime).mp held)
    simp [planContent, preconditionFails_false unchanged, copyCurrent_false stale, ranged, lapsed]
  | unreadable counts read =>
    obtain ⟨unchanged, stale, ranged, holds⟩ := counts
    simp [planContent, preconditionFails_false unchanged, copyCurrent_false stale, ranged,
      (ifRangeHolds_iff h modTime).mpr holds, read]
  | refused counts read parsed =>
    obtain ⟨unchanged, stale, ranged, holds⟩ := counts
    simp [planContent, preconditionFails_false unchanged, copyCurrent_false stale, ranged,
      (ifRangeHolds_iff h modTime).mpr holds, read, parsed]
  | one counts read parsed =>
    obtain ⟨unchanged, stale, ranged, holds⟩ := counts
    simp [planContent, preconditionFails_false unchanged, copyCurrent_false stale, ranged,
      (ifRangeHolds_iff h modTime).mpr holds, read, parsed]
  | @several v t rs counts read parsed two =>
    obtain ⟨unchanged, stale, ranged, holds⟩ := counts
    simp only [planContent, preconditionFails_false unchanged, copyCurrent_false stale, ranged,
      (ifRangeHolds_iff h modTime).mpr holds, read, parsed, Bool.false_eq_true, if_false, Bool.not_true]
    -- several ranges are not one
    cases rs with
    | nil => simp at two
    | cons r rest =>
      cases rest with
      | nil => simp at two
      | cons => rfl

/-- A range the rules answer with lies inside the file. -/
theorem Decides.slice_inside {h : Headers} {size : Nat} {modTime : Int} {r : ByteRange}
    (decided : Decides h size modTime (.slice r)) : r.first ≤ r.last ∧ r.last < size := by
  cases decided with
  | one _ _ parsed =>
    obtain ⟨rest, forms, -, reads, ranges, -⟩ := (ByteRange.parseHeader_ok_iff _ size _).mp parsed
    exact RangeSpec.filterMap_clamp_inside reads r (ranges ▸ List.mem_singleton_self r)

/-- A request for a file of `size` bytes modified at `modTime` is answered by the first rule
that applies: a failed precondition, "not modified", the whole file without a Range header or
with a stale `If-Range`, an unsatisfiable range when the Range value is not text or is refused,
the one range it is read as, or the whole file when it is read as several.  So a range
answered lies inside the file, and an empty file is never answered with a range. -/
theorem planContent_follows_rules (h : Headers) (size : Nat) (modTime : Int) :
    (∀ plan, planContent h size modTime = plan ↔ Decides h size modTime plan) ∧
    (∀ r, planContent h size modTime = .slice r → r.first ≤ r.last ∧ r.last < size) ∧
    (∀ r, planContent h 0 modTime ≠ .slice r) := by
  have follows : ∀ size plan, planContent h size modTime = plan ↔ Decides h size modTime plan :=
    fun size plan => ⟨fun planned => planned ▸ decides_planContent h size modTime, planContent_of_decides⟩
  refine ⟨follows size, fun r planned => ((follows size _).mp planned).slice_inside, fun r planned => ?_⟩
  -- no range lies inside an empty file
  have inside := ((follows 0 _).mp planned).slice_inside
  omega

end ChunkProxy.ContentPlan
