import ChunkProxy.Proofs.RangeHeader
import ChunkProxy.Proofs.ChunkPaths
/-!
# The texts of a range, read back

A range of bytes is written in two texts: `bytes=first-last` when it is asked for
(`ByteRange.header`, sent upstream and read by `ByteRange.parseHeader`), and
`bytes first-last/total` when it is answered (`ByteRange.contentRange`, whose total the
resolver reads back with `ByteRange.contentRangeTotal`).  Both are written in decimal and read
as unsigned 64-bit words, so for numbers below `2^64` every text reads back as what was
written (`range_texts_read_back`):

* the total of an answered range is the total written, when the range lies before it;
* the header of a range in order, read against a resource of `S` bytes, is that range cut to
  the resource when it starts inside it, and an error naming `S` when it does not; so a range
  that lies inside the resource is read back unchanged;
* a Content-Range value gives a total only when it has the written form (`ContentRangeReads`)
  and its range lies before the total, so no total read back is zero.

Two facts carry this: a decimal numeral below `2^64` reads back as its number
(`Decimal.readWord_showNat`), and a text splits at the first separator exactly when the part
before it has none (`ByteRange.splitOnce_eq_some_iff`).
-/

namespace ChunkProxy

set_option autoImplicit false

open Text

namespace Decimal

theorem ofDigitChars_ge (cs : List Char) (acc : Nat) : acc ≤ Nat.ofDigitChars 10 cs acc := by
  induction cs generalizing acc with
  | nil => simp [Nat.ofDigitChars]
  | cons c rest ih =>
    rw [Nat.ofDigitChars_cons]
    exact Nat.le_trans (by omega) (ih _)

theorem digitValue?_of_isDigit {c : Char} (digit : c.isDigit = true) :
    digitValue? c = some (c.toNat - '0'.toNat) := by
  simp only [Char.isDigit, Bool.and_eq_true, decide_eq_true_eq] at digit
  rw [digitValue?, if_pos (show '0' ≤ c ∧ c ≤ '9' from digit)]

/-- Digits read onto `acc` give the number they write after it, unless it passes a word:
the value only grows, so the first check that fails is the one on the whole number. -/
theorem readDigits_of_isDigit (cs : List Char) (digits : ∀ c ∈ cs, c.isDigit = true) (acc : Nat)
    (small : acc < wordBound) :
    readDigits acc cs =
      if Nat.ofDigitChars 10 cs acc < wordBound then .ok (Nat.ofDigitChars 10 cs acc) else .error .tooLarge := by
  induction cs generalizing acc with
  | nil => simp [readDigits, Nat.ofDigitChars, small]
  | cons c rest ih =>
    rw [readDigits, digitValue?_of_isDigit (digits c List.mem_cons_self), Nat.ofDigitChars_cons]
    simp only
    rw [Nat.mul_comm acc 10]
    split
    · exact ih (fun c mem => digits c (List.mem_cons_of_mem _ mem)) _ ‹_›
    · have grows := ofDigitChars_ge rest (10 * acc + (c.toNat - '0'.toNat))
      rw [if_neg (by omega)]

theorem isDigit_of_mem_showNat {n : Nat} {c : Char} (mem : c ∈ (showNat n).toList) : c.isDigit = true := by
  rw [showNat, String.toList_ofList] at mem
  exact Nat.isDigit_of_mem_toDigits (by decide) (by decide) mem

/-- A numeral below `2^64` reads back as its number. -/
theorem readWord_showNat {n : Nat} (word : n < wordBound) : readWord (showNat n) = .ok n := by
  have read := readDigits_of_isDigit (Nat.toDigits 10 n)
    (fun c mem => Nat.isDigit_of_mem_toDigits (by decide) (by decide) mem) 0 (by decide)
  rw [Nat.ofDigitChars_ten_toDigits, if_pos word] at read
  unfold readWord readWordList showNat
  rw [String.toList_ofList]
  -- a numeral is not empty and does not start with `+`
  split
  · exact absurd ‹_› Nat.toDigits_ne_nil
  · rename_i plus
    have := isDigit_of_mem_showNat (n := n) (c := '+') (by simp [showNat, plus])
    simp at this
  · rename_i rest plus
    have := isDigit_of_mem_showNat (n := n) (c := '+') (by simp [showNat, plus])
    simp at this
  · exact read

theorem readWord?_showNat {n : Nat} (word : n < wordBound) : readWord? (showNat n) = some n := by
  rw [readWord?, readWord_showNat word]

end Decimal

namespace Text

theorem isBlank_of_isDigit {c : Char} (digit : c.isDigit = true) : isBlank c = false := by
  simp only [Char.isDigit, Bool.and_eq_true, decide_eq_true_eq, UInt32.le_iff_toNat_le] at digit
  have bounds : 48 ≤ c.toNat ∧ c.toNat ≤ 57 := digit
  simp only [isBlank, Bool.or_eq_false_iff, Bool.and_eq_false_iff, decide_eq_false_iff_not,
    beq_eq_false_iff_ne, ne_eq]
  omega

/-- A text that neither starts nor ends with a blank is its own trimming. -/
theorem trimBlanksList_eq_self {cs : List Char} (front : ∀ c ∈ cs.head?, isBlank c = false)
    (back : ∀ c ∈ cs.getLast?, isBlank c = false) : trimBlanksList cs = cs := by
  have kept : dropBlanks cs = cs := by
    cases cs with
    | nil => rfl
    | cons c rest => exact List.dropWhile_cons_of_neg (by simpa using front c rfl)
  rw [trimBlanksList, kept]
  cases last : cs.reverse with
  | nil => simpa using (List.reverse_eq_nil_iff.mp last).symm
  | cons c rest =>
    have : isBlank c = false := back c (by rw [← List.head?_reverse, last]; rfl)
    rw [List.dropWhile_cons_of_neg (by simpa using this), ← last, List.reverse_reverse]

theorem front_append {s : String} (t : String) (front : ∀ c ∈ s.toList.head?, isBlank c = false)
    (nonempty : s.toList ≠ []) : ∀ c ∈ (s ++ t).toList.head?, isBlank c = false := by
  rw [String.toList_append, List.head?_append_of_ne_nil _ nonempty]
  exact front

theorem toList_showNat_ne_nil (n : Nat) : (showNat n).toList ≠ [] := by
  simp [showNat, Nat.toDigits_ne_nil]

theorem front_showNat (n : Nat) : ∀ c ∈ (showNat n).toList.head?, isBlank c = false :=
  fun _ mem => isBlank_of_isDigit (Decimal.isDigit_of_mem_showNat (List.mem_of_mem_head? mem))

/-- A text that ends in a numeral and does not start with a blank is its own trimming. -/
theorem trimBlanks_append_showNat {s : String} (front : ∀ c ∈ s.toList.head?, isBlank c = false) (n : Nat) :
    trimBlanks (s ++ showNat n) = s ++ showNat n := by
  rw [trimBlanks, trimBlanksList_eq_self, String.ofList_toList]
  · rw [String.toList_append]
    cases first : s.toList with
    | nil => exact front_showNat n
    | cons c rest => simpa [first] using front
  · rw [String.toList_append, List.getLast?_append_of_ne_nil _ (toList_showNat_ne_nil n)]
    exact fun c mem => isBlank_of_isDigit (Decimal.isDigit_of_mem_showNat (List.mem_of_mem_getLast? mem))

theorem trimBlanks_showNat (n : Nat) : trimBlanks (showNat n) = showNat n := by
  simpa using trimBlanks_append_showNat (s := "") (by simp) n

end Text

namespace ByteRange

/-- A text splits at its first separator exactly when it is a part without the separator,
the separator, and the rest. -/
theorem splitOnce_eq_some_iff {sep : Char} {s a b : String} :
    splitOnce sep s = some (a, b) ↔
      ∃ pre post, s.toList = pre ++ sep :: post ∧ sep ∉ pre ∧ a = String.ofList pre ∧ b = String.ofList post := by
  unfold splitOnce
  dsimp only
  split
  · rename_i has
    simp only [Option.some.injEq, Prod.mk.injEq]
    constructor
    · rintro ⟨rfl, rfl⟩
      obtain ⟨split, first⟩ := RangeSpec.split_first.mpr ⟨has, rfl, rfl⟩
      exact ⟨_, _, split, first, rfl, rfl⟩
    · rintro ⟨pre, post, split, first, rfl, rfl⟩
      obtain ⟨-, rfl, rfl⟩ := RangeSpec.split_first.mp ⟨split, first⟩
      exact ⟨rfl, rfl⟩
  · rename_i missing
    simp only [reduceCtorEq, false_iff, not_exists, not_and]
    intro pre post split first
    exact absurd (RangeSpec.split_first.mp ⟨split, first⟩).1 missing

/-! ## Content-Range -/

/-- How a Content-Range value reads as the bytes `first` to `last` of `total`: trimmed of
blanks it is `bytes `, then a range and a total split at the first `/`, the range split at its
first `-`, and each of the three parts, trimmed, an unsigned 64-bit word. -/
inductive ContentRangeReads (value : String) (first last total : Nat) : Prop
  | mk {pre mid post : List Char} :
      (trimBlanks value).toList = "bytes ".toList ++ (pre ++ '-' :: mid) ++ '/' :: post →
      '/' ∉ pre ++ '-' :: mid → '-' ∉ pre →
      Decimal.readWord? (trimBlanks (String.ofList pre)) = some first →
      Decimal.readWord? (trimBlanks (String.ofList mid)) = some last →
      Decimal.readWord? (trimBlanks (String.ofList post)) = some total →
      ContentRangeReads value first last total

/-- A Content-Range value gives a total exactly when it reads as a range of that total that
starts no later than it ends, before the total. -/
theorem contentRangeTotal_eq_some_iff (value : String) (total : Nat) :
    contentRangeTotal value = some total ↔
      ∃ first last, ContentRangeReads value first last total ∧ first ≤ last ∧ last < total := by
  unfold contentRangeTotal
  simp only [Option.bind_eq_bind, Option.bind_eq_some_iff, Option.map_eq_some_iff]
  constructor
  · rintro ⟨spec, ⟨sl, dropped, rfl⟩, ⟨range, rest⟩, cut, ⟨f, l⟩, cut', first, readFirst, last, readLast,
      total', readTotal, checked⟩
    obtain ⟨whole, post, split, slashFirst, rfl, rfl⟩ := splitOnce_eq_some_iff.mp cut
    obtain ⟨pre, mid, split', dashFirst, rfl, rfl⟩ := splitOnce_eq_some_iff.mp cut'
    rw [String.toList_ofList] at split'
    subst split'
    have prefixed := (dropPrefix?_iff _ _ _).mp ⟨sl, dropped, rfl⟩
    have inOrder : ¬ (first > last ∨ last ≥ total') := by
      intro out
      rw [if_pos (by simpa using out)] at checked
      cases checked
    rw [if_neg (by simpa using inOrder), Option.some.injEq] at checked
    subst checked
    refine ⟨first, last, ⟨?_, slashFirst, dashFirst, readFirst, readLast, readTotal⟩, by omega, by omega⟩
    rw [prefixed, String.toList_append, split]
    simp only [List.append_assoc]
  · rintro ⟨first, last, ⟨split, slashFirst, dashFirst, readFirst, readLast, readTotal⟩, inOrder, below⟩
    rename_i pre mid post
    have prefixed : trimBlanks value = "bytes " ++ String.ofList ((pre ++ '-' :: mid) ++ '/' :: post) := by
      apply String.toList_inj.mp
      rw [split]
      simp only [String.toList_append, String.toList_ofList, List.append_assoc]
    obtain ⟨sl, dropped, same⟩ := (dropPrefix?_iff _ _ _).mpr prefixed
    have cut : splitOnce '/' sl.toString = some (String.ofList (pre ++ '-' :: mid), String.ofList post) :=
      splitOnce_eq_some_iff.mpr ⟨_, _, by rw [same, String.toList_ofList], slashFirst, rfl, rfl⟩
    have cut' : splitOnce '-' (String.ofList (pre ++ '-' :: mid)) = some (String.ofList pre, String.ofList mid) :=
      splitOnce_eq_some_iff.mpr ⟨_, _, String.toList_ofList, dashFirst, rfl, rfl⟩
    refine ⟨_, ⟨sl, dropped, rfl⟩, _, cut, _, cut', first, readFirst, last, readLast, total, readTotal, ?_⟩
    rw [if_neg (by simp only [Bool.or_eq_true, decide_eq_true_eq]; omega)]

/-- A numeral holds only digits. -/
theorem not_mem_showNat {c : Char} (notDigit : c.isDigit = false) (n : Nat) : c ∉ (showNat n).toList := by
  rw [showNat, String.toList_ofList]
  exact Cache.not_mem_toDigits notDigit n

/-- The Content-Range value of a range that lies before a total below `2^64` gives that
total back. -/
theorem contentRangeTotal_contentRange {r : ByteRange} {total : Nat} (ordered : r.first ≤ r.last)
    (before : r.last < total) (word : total < wordBound) :
    contentRangeTotal (r.contentRange total) = some total := by
  have spelled : r.contentRange total = ("bytes " ++ showNat r.first ++ "-" ++ showNat r.last ++ "/") ++
      showNat total := rfl
  have trimmed : trimBlanks (r.contentRange total) = r.contentRange total := by
    rw [spelled, trimBlanks_append_showNat]
    simp only [String.append_assoc]
    exact front_append _ (by simp [isBlank]) (by simp)
  refine (contentRangeTotal_eq_some_iff _ _).mpr ⟨r.first, r.last,
    @ContentRangeReads.mk _ _ _ _ (showNat r.first).toList (showNat r.last).toList (showNat total).toList
      ?_ ?_ (not_mem_showNat (by decide) _) ?_ ?_ ?_, ordered, before⟩
  · rw [trimmed, spelled]
    simp [List.append_assoc]
  · simp only [List.mem_append, List.mem_cons, not_or]
    exact ⟨not_mem_showNat (by decide) _, by decide, not_mem_showNat (by decide) _⟩
  · rw [String.ofList_toList, trimBlanks_showNat, Decimal.readWord?_showNat (by omega)]
  · rw [String.ofList_toList, trimBlanks_showNat, Decimal.readWord?_showNat (by omega)]
  · rw [String.ofList_toList, trimBlanks_showNat, Decimal.readWord?_showNat word]

/-! ## Range headers -/

/-- The specs of a range's header: the numbers and the dash between them. -/
def specText (r : ByteRange) : String := showNat r.first ++ "-" ++ showNat r.last

theorem header_eq (r : ByteRange) : r.header = "bytes=" ++ specText r := by
  simp only [header, specText, String.append_assoc]

theorem specText_reads {r : ByteRange} (ordered : r.first ≤ r.last) (word : r.last < wordBound) :
    RangeSpec.Reads (specText r) (.closed r.first r.last) := by
  refine @RangeSpec.Reads.closed _ (showNat r.first).toList (showNat r.last).toList _ _ ?_
    (not_mem_showNat (by decide) _) ?_ ?_ ordered
  · simp [specText]
  · rw [String.ofList_toList, trimBlanks_showNat, Decimal.readWord_showNat (by omega)]
  · rw [String.ofList_toList, trimBlanks_showNat, Decimal.readWord_showNat word]

/-- The one spec of a range's header, read against a resource of `size` bytes: the range cut
to the resource, or nothing when it starts past the end. -/
theorem foldlM_specText {r : ByteRange} (ordered : r.first ≤ r.last) (word : r.last < wordBound)
    (size : Nat) :
    ((specText r).splitOn ",").foldlM (addSpec size) ([], false) =
      .ok ((RangeSpec.clamp size (.closed r.first r.last)).toList,
        (RangeSpec.clamp size (.closed r.first r.last)).isNone) := by
  have noComma : ',' ∉ (specText r).toList := by
    simp only [specText, String.toList_append, List.mem_append, not_or]
    exact ⟨⟨not_mem_showNat (by decide) _, by simp⟩, not_mem_showNat (by decide) _⟩
  have whole : (specText r).splitOn "," = [specText r] := by
    rw [show "," = String.singleton ',' from rfl, splitOn_char, List.splitOn_eq_singleton noComma]
    simp
  have trimmed : trimBlanks (specText r) = specText r := by
    rw [specText, trimBlanks_append_showNat]
    exact front_append _ (front_showNat _) (toList_showNat_ne_nil _)
  have spec := RangeSpec.readSpec_of_reads size (specText_reads ordered word)
  rw [whole, List.foldlM_cons, RangeSpec.addSpec_eq, trimmed,
    if_neg (by simp [specText, showNat, Nat.toDigits_ne_nil]), spec]
  cases RangeSpec.clamp size (.closed r.first r.last) <;> rfl

/-- The header of a range in order, read against a resource of `size` bytes: the range cut to
the resource when it starts inside it, else the error that nothing overlaps. -/
theorem parseHeader_header {r : ByteRange} (ordered : r.first ≤ r.last) (word : r.last < wordBound)
    (size : Nat) :
    parseHeader r.header size =
      if size ≤ r.first then .error (rangeError ("no range overlaps a resource of " ++ showNat size ++ " bytes"))
      else .ok [⟨r.first, min r.last (size - 1)⟩] := by
  have trimmed : trimBlanks r.header = r.header := by
    rw [header, trimBlanks_append_showNat]
    simp only [String.append_assoc]
    exact front_append _ (by simp [isBlank]) (by simp)
  obtain ⟨sl, dropped, same⟩ := (dropPrefix?_iff r.header "bytes=" (specText r)).mpr (header_eq r)
  unfold parseHeader
  simp only [bind, Except.bind, pure, Except.pure, throw, throwThe, MonadExceptOf.throw]
  rw [trimmed, dropped]
  dsimp only
  rw [same, foldlM_specText ordered word]
  dsimp only
  by_cases beyond : size ≤ r.first <;> simp [RangeSpec.clamp, beyond]

/-! ## Both texts -/

/-- What reading the two texts of a range gives back. -/
structure ReadsBack (r : ByteRange) : Prop where
  /-- The total of the range's Content-Range value, for a total below `2^64` that it lies before. -/
  total : ∀ total, r.last < total → total < wordBound → contentRangeTotal (r.contentRange total) = some total
  /-- The header, read against a resource the range lies inside, is the range. -/
  inside : ∀ size, r.last < size → parseHeader r.header size = .ok [r]
  /-- The header, read against a resource it starts inside, is the range cut to the resource. -/
  cut : ∀ size, r.first < size → parseHeader r.header size = .ok [⟨r.first, min r.last (size - 1)⟩]
  /-- The header of a range that starts past the resource overlaps nothing. -/
  beyond : ∀ size, size ≤ r.first →
    parseHeader r.header size = .error (rangeError ("no range overlaps a resource of " ++ showNat size ++ " bytes"))

theorem readsBack {r : ByteRange} (ordered : r.first ≤ r.last) (word : r.last < wordBound) : ReadsBack r where
  total _ before below := contentRangeTotal_contentRange ordered before below
  inside size within := by
    rw [parseHeader_header ordered word, if_neg (by omega), Nat.min_eq_left (by omega)]
  cut size within := by
    rw [parseHeader_header ordered word, if_neg (by omega)]
  beyond size past := by
    rw [parseHeader_header ordered word, if_pos past]

/-- For a range in order and numbers below `2^64`, the texts of the range read back: its
Content-Range value gives its total, and its header read against a resource of `S` bytes gives
the range itself when it lies inside, the range cut to `S - 1` when it starts inside, and the
error that nothing overlaps otherwise.  A Content-Range value gives a total only when it reads as
a range of that total that starts no later than it ends, before the total. -/
theorem range_texts_read_back :
    (∀ r : ByteRange, r.first ≤ r.last → r.last < wordBound → ReadsBack r) ∧
    ∀ value total, contentRangeTotal value = some total ↔
      ∃ first last, ContentRangeReads value first last total ∧ first ≤ last ∧ last < total :=
  ⟨fun _ ordered word => readsBack ordered word, contentRangeTotal_eq_some_iff⟩

/-- The texts of the bytes `10..19` read back. -/
theorem tenth_to_nineteenth_bytes_read_back :
    (10 : Nat) ≤ 19 ∧ (19 : Nat) < wordBound ∧ ReadsBack ⟨10, 19⟩ :=
  ⟨by decide, by decide, range_texts_read_back.1 ⟨10, 19⟩ (by decide) (by decide)⟩

example : contentRangeTotal " bytes 10-19/20 " = some 20 := by decide +kernel

end ByteRange

end ChunkProxy
