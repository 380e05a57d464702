import ChunkProxy.Proofs.ShardLeaf
import Mathlib.Data.String.Basic
/-!
# Shard directories: when a key is left bare

`Key.shardedPath key depth` files a key below the directories named by its first `depth`
byte pairs.  Doubling the depth is word arithmetic, so a depth of half a word or more
faults.  Below that the key is left bare exactly when `Key.Bare` says so: at depth 0,
when the key has fewer than two bytes a level, or when a cut between two levels falls
inside a character, where a cut is measured against the text's own positions
(`String.Pos.Raw.IsValid`) and not against the bytes the code inspects.  Otherwise the
directories are the key's text between consecutive cuts (`Key.shardNames`), and the path
is never the bare key (`Key.shardedPath_faults_or_bare_or_sharded`).

Two facts about the encoding carry this.  A byte offset is a boundary in the code's sense
(not `0x80`–`0xBF`, or the end) exactly when it is a valid position of the text
(`Key.isBoundary_encode`), since every byte of a character's encoding but the first is a
continuation byte (`Utf8.continuation_iff`).  And two bytes between boundaries are whole
characters of one or two bytes, which the strict reading gives back
(`Key.decode?_window`).
-/

namespace ChunkProxy

set_option autoImplicit false

open String (utf8EncodeChar utf8Len)

namespace Utf8

/-! ## Encoding characters -/

theorem toNat_valid (c : Char) : c.toNat < 0xD800 ∨ (0xDFFF < c.toNat ∧ c.toNat < 0x110000) := by
  simpa [UInt32.isValidChar, Nat.isValidChar] using c.valid

/-- The encoding of a character by its code point: one byte below `0x80`, else a lead byte that
counts the bytes, then six bits in each byte after it. -/
theorem utf8EncodeChar_cases (c : Char) :
    (c.toNat ≤ 127 ∧ utf8EncodeChar c = [UInt8.ofNat c.toNat]) ∨
    (127 < c.toNat ∧ c.toNat ≤ 2047 ∧ utf8EncodeChar c =
      [UInt8.ofNat (c.toNat / 64 % 32 + 192), UInt8.ofNat (c.toNat % 64 + 128)]) ∨
    (2047 < c.toNat ∧ c.toNat ≤ 65535 ∧ utf8EncodeChar c =
      [UInt8.ofNat (c.toNat / 4096 % 16 + 224), UInt8.ofNat (c.toNat / 64 % 64 + 128),
        UInt8.ofNat (c.toNat % 64 + 128)]) ∨
    (65535 < c.toNat ∧ utf8EncodeChar c =
      [UInt8.ofNat (c.toNat / 262144 % 8 + 240), UInt8.ofNat (c.toNat / 4096 % 64 + 128),
        UInt8.ofNat (c.toNat / 64 % 64 + 128), UInt8.ofNat (c.toNat % 64 + 128)]) := by
  unfold utf8EncodeChar
  by_cases one : c.toNat ≤ 127
  · exact .inl ⟨one, if_pos one⟩
  by_cases two : c.toNat ≤ 2047
  · exact .inr (.inl ⟨by omega, two, (if_neg one).trans (if_pos two)⟩)
  by_cases three : c.toNat ≤ 65535
  · exact .inr (.inr (.inl ⟨by omega, three, (if_neg one).trans ((if_neg two).trans (if_pos three))⟩))
  · exact .inr (.inr (.inr ⟨by omega, (if_neg one).trans ((if_neg two).trans (if_neg three))⟩))

/-- Every byte of a character's encoding but the first lies in `0x80`–`0xBF`. -/
theorem continuation_iff {c : Char} {i : Nat} {b : UInt8} (byte : (utf8EncodeChar c)[i]? = some b) :
    (0x80 ≤ b ∧ b ≤ 0xBF) ↔ i ≠ 0 := by
  have valid := toNat_valid c
  -- four shapes of encoding, each at most four bytes long
  rcases utf8EncodeChar_cases c with ⟨_, enc⟩ | ⟨_, _, enc⟩ | ⟨_, _, enc⟩ | ⟨_, enc⟩ <;> rw [enc] at byte <;>
    rcases i with _ | _ | _ | _ | i <;>
    simp only [List.getElem?_cons_zero, List.getElem?_cons_succ, List.getElem?_nil, Option.some.injEq,
      reduceCtorEq] at byte <;> subst byte <;>
    simp only [UInt8.le_iff_toNat_le, UInt8.toNat_ofNat', UInt8.toNat_ofNat, Nat.reducePow, Nat.reduceMod] <;>
    omega

theorem toNat_le_of_utf8Size {c : Char} (short : c.utf8Size ≤ 2) : c.toNat ≤ 2047 := by
  have width := String.length_utf8EncodeChar c
  rcases utf8EncodeChar_cases c with ⟨one, -⟩ | ⟨-, two, -⟩ | ⟨-, -, enc⟩ | ⟨-, enc⟩
  · omega
  · exact two
  all_goals
    rw [enc] at width
    simp only [List.length_cons, List.length_nil] at width
    omega

theorem toList_loop (bs : ByteArray) (i : Nat) (r : List UInt8) :
    ByteArray.toList.loop bs i r = r.reverse ++ bs.data.toList.drop i := by
  induction i, r using ByteArray.toList.loop.induct bs with
  | case1 i r inside ih =>
    rw [ByteArray.toList.loop, if_pos inside, ih]
    have within : i < bs.data.toList.length := by simpa using inside
    have byte : bs.get! i = bs.data.toList[i] := by
      simp only [ByteArray.get!, Array.getElem_toList]
      exact getElem!_pos bs.data i (by simpa using inside)
    rw [List.drop_eq_getElem_cons within, byte]
    simp
  | case2 i r past =>
    rw [ByteArray.toList.loop, if_neg past]
    have : bs.data.toList.length ≤ i := by simpa using past
    simp [List.drop_eq_nil_of_le this]

/-- The bytes of a text are the encodings of its characters, one after another. -/
theorem encode_eq_flatMap (s : String) : encode s = s.toList.flatMap utf8EncodeChar := by
  rw [encode, ByteArray.toList, toList_loop, String.toUTF8_eq_toByteArray, ← String.utf8Encode_toList,
    List.utf8Encode, List.toList_data_toByteArray]
  simp

theorem length_flatMap_utf8EncodeChar (l : List Char) :
    (l.flatMap utf8EncodeChar).length = utf8Len l := by
  induction l with
  | nil => rfl
  | cons c l ih => simp [ih, String.length_utf8EncodeChar, String.utf8Len_cons, Nat.add_comm]

/-! ## Reading one and two byte characters back -/

theorem units_cons_of_lt {b : UInt8} (small : b < 0x80) (rest : List UInt8) :
    units (b :: rest) = some (Char.ofNat b.toNat) :: units rest := by
  rw [units, if_pos small]

theorem units_cons_of_lead {b : UInt8} {n : Nat} {lo hi : UInt8} (big : ¬ b < 0x80)
    (shape : leadShape b = some (n, lo, hi)) {rest : List UInt8}
    (accepted : acceptedPrefix lo hi (rest.take n) = n) :
    units (b :: rest) =
      some (scalar (leadBits n b :: (rest.take n).map fun c => (c &&& 0x3F).toNat)) :: units (rest.drop n) := by
  rw [units, if_neg big]
  simp [shape, accepted]

theorem toNat_and_3F (b : UInt8) : (b &&& 0x3F).toNat = b.toNat % 64 := by
  rw [UInt8.toNat_and]
  exact Nat.and_two_pow_sub_one_eq_mod b.toNat 6

theorem leadBits_eq (n : Nat) (b : UInt8) :
    leadBits n b = b.toNat % (if n = 1 then 32 else if n = 2 then 16 else 8) := by
  unfold leadBits
  by_cases one : n = 1
  · simp only [one, beq_self_eq_true, if_true, UInt8.toNat_and]
    exact Nat.and_two_pow_sub_one_eq_mod b.toNat 5
  by_cases two : n = 2
  · simp only [two, beq_self_eq_true, if_true, UInt8.toNat_and]
    exact Nat.and_two_pow_sub_one_eq_mod b.toNat 4
  · simp only [one, two, beq_iff_eq, if_false, UInt8.toNat_and]
    exact Nat.and_two_pow_sub_one_eq_mod b.toNat 3

theorem scalar_eq {parts : List Nat} {c : Char} (value : parts.foldl (fun acc p => acc * 64 + p) 0 = c.toNat) :
    scalar parts = c := by
  rw [scalar, value, Char.ofNat_toNat]

theorem toNat_byte {n : Nat} (small : n < 256) : (UInt8.ofNat n).toNat = n := by
  simp only [UInt8.toNat_ofNat']
  omega

/-- Strict reading takes the encoding of a character of one or two bytes back to the
character. -/
theorem units_utf8EncodeChar_append {c : Char} (short : c.toNat ≤ 2047) (rest : List UInt8) :
    units (utf8EncodeChar c ++ rest) = some c :: units rest := by
  rcases utf8EncodeChar_cases c with ⟨one, enc⟩ | ⟨big, -, enc⟩ | ⟨big, -⟩ | ⟨big, -⟩
  · -- one byte, below `0x80`
    have byte := toNat_byte (n := c.toNat) (by omega)
    rw [enc, List.singleton_append,
      units_cons_of_lt (by simp only [UInt8.lt_iff_toNat_lt, byte, UInt8.toNat_ofNat]; omega), byte,
      Char.ofNat_toNat]
  · -- a lead byte in `0xC2`–`0xDF`, then one continuation byte
    have lead := toNat_byte (n := c.toNat / 64 % 32 + 192) (by omega)
    have next := toNat_byte (n := c.toNat % 64 + 128) (by omega)
    have shape : leadShape (UInt8.ofNat (c.toNat / 64 % 32 + 192)) = some (1, 0x80, 0xBF) := by
      unfold leadShape
      rw [if_pos (by
        simp only [Bool.and_eq_true, decide_eq_true_eq, UInt8.le_iff_toNat_le, lead, UInt8.toNat_ofNat]
        omega)]
    have accepted : acceptedPrefix 0x80 0xBF ((UInt8.ofNat (c.toNat % 64 + 128) :: rest).take 1) = 1 := by
      simp only [List.take_succ_cons, List.take_zero, acceptedPrefix, Bool.and_eq_true, decide_eq_true_eq,
        UInt8.le_iff_toNat_le, next, UInt8.toNat_ofNat]
      rw [if_pos (by omega)]
    rw [enc, List.cons_append, List.singleton_append,
      units_cons_of_lead (by simp only [UInt8.lt_iff_toNat_lt, lead, UInt8.toNat_ofNat]; omega) shape accepted]
    simp only [List.take_succ_cons, List.take_zero, List.map_cons, List.map_nil, List.drop_succ_cons,
      List.drop_zero, toNat_and_3F, leadBits_eq, next, lead, if_true]
    rw [scalar_eq (c := c) (by simp only [List.foldl_cons, List.foldl_nil]; omega)]
  all_goals omega

/-- Strict reading gives back characters of one or two bytes from their encoding. -/
theorem decode?_flatMap {m : List Char} (short : ∀ c ∈ m, c.toNat ≤ 2047) :
    decode? (m.flatMap utf8EncodeChar) = some (String.ofList m) := by
  have read : units (m.flatMap utf8EncodeChar) = m.map some := by
    induction m with
    | nil => simp [units]
    | cons c m ih =>
      rw [List.flatMap_cons, units_utf8EncodeChar_append (short c List.mem_cons_self),
        ih (fun d mem => short d (List.mem_cons_of_mem c mem)), List.map_cons]
  have back : (m.map some).mapM id = some m := by
    rw [List.mapM_map]
    simpa using List.mapM_pure (m := Option) (l := m) (f := id)
  rw [decode?, read, back]
  rfl

end Utf8

/-- A list whose every element maps to a value maps to the list of those values. -/
theorem mapM_eq_some_map {α β : Type} {f : α → Option β} {g : α → β} :
    ∀ {l : List α}, (∀ a ∈ l, f a = some (g a)) → l.mapM f = some (l.map g)
  | [], _ => rfl
  | a :: l, each => by
    rw [List.mapM_cons, each a List.mem_cons_self,
      mapM_eq_some_map (fun b mem => each b (List.mem_cons_of_mem a mem))]
    rfl

/-- A list with an element that maps to nothing maps to nothing. -/
theorem mapM_eq_none {α β : Type} {f : α → Option β} {a : α} (fails : f a = none) :
    ∀ {l : List α}, a ∈ l → l.mapM f = none
  | b :: l, mem => by
    rw [List.mapM_cons]
    rcases List.mem_cons.mp mem with rfl | later
    · rw [fails]
      rfl
    · cases f b with
      | none => rfl
      | some _ => simp [mapM_eq_none fails later]

namespace Key

/-! ## Boundaries -/

theorem isBoundary_append {e rest : List UInt8} {i : Nat} (past : e.length ≤ i) :
    isBoundary (e ++ rest) i = isBoundary rest (i - e.length) := by
  unfold isBoundary
  rw [List.getElem?_append_right past]
  split
  · rfl
  · rw [Bool.eq_iff_iff]
    simp only [List.length_append, beq_iff_eq]
    omega

/-- Within the encoding of a character followed by more bytes, only its first byte starts a
character. -/
theorem isBoundary_inside {c : Char} {rest : List UInt8} {i : Nat} (inside : i < (utf8EncodeChar c).length) :
    isBoundary (utf8EncodeChar c ++ rest) i = decide (i = 0) := by
  obtain ⟨b, byte⟩ : ∃ b, (utf8EncodeChar c)[i]? = some b := ⟨_, List.getElem?_eq_getElem inside⟩
  unfold isBoundary
  rw [List.getElem?_append_left inside, byte, Bool.eq_iff_iff]
  simp only [Bool.not_eq_true', Bool.and_eq_false_iff, decide_eq_false_iff_not, decide_eq_true_eq]
  rw [← Decidable.not_and_iff_not_or_not, Utf8.continuation_iff byte, Decidable.not_not]

/-- A byte offset into the encoding of characters falls between two of them exactly when it is
the length of the encoding of some of the first ones. -/
theorem isBoundary_flatMap (l : List Char) (i : Nat) :
    isBoundary (l.flatMap utf8EncodeChar) i = true ↔ ∃ k, i = utf8Len (l.take k) := by
  induction l generalizing i with
  | nil => simp [isBoundary]
  | cons c l ih =>
    rw [List.flatMap_cons]
    have wide := Char.utf8Size_pos c
    by_cases inside : i < (utf8EncodeChar c).length
    · -- inside the first character only its first byte starts one
      rw [isBoundary_inside inside, decide_eq_true_iff]
      rw [String.length_utf8EncodeChar] at inside
      constructor
      · rintro rfl
        exact ⟨0, rfl⟩
      · rintro ⟨k, at_k⟩
        cases k with
        | zero => simpa using at_k
        | succ k =>
          simp only [List.take_succ_cons, String.utf8Len_cons] at at_k
          omega
    · -- past the first character the offset is one into the rest
      rw [isBoundary_append (by omega), ih, String.length_utf8EncodeChar]
      rw [String.length_utf8EncodeChar] at inside
      constructor
      · rintro ⟨k, at_k⟩
        exact ⟨k + 1, by simp only [List.take_succ_cons, String.utf8Len_cons]; omega⟩
      · rintro ⟨k, at_k⟩
        cases k with
        | zero =>
          simp only [List.take_zero, String.utf8Len_nil] at at_k
          omega
        | succ k =>
          simp only [List.take_succ_cons, String.utf8Len_cons] at at_k
          exact ⟨k, by omega⟩

/-- A byte offset falls between two characters of a text's encoding exactly when it is a valid
position of the text. -/
theorem isBoundary_encode (s : String) (i : Nat) :
    isBoundary (Utf8.encode s) i = true ↔ String.Pos.Raw.IsValid s ⟨i⟩ := by
  rw [Utf8.encode_eq_flatMap, isBoundary_flatMap, String.Pos.Raw.isValid_iff_exists_take_toList]
  simp [String.utf8ByteSize_ofList]

theorem length_encode (s : String) : (Utf8.encode s).length = s.utf8ByteSize := by
  rw [Utf8.encode_eq_flatMap, Utf8.length_flatMap_utf8EncodeChar, ← String.utf8ByteSize_ofList,
    String.ofList_toList]

/-! ## Two bytes between boundaries -/

theorem take_append_drop_take (l : List Char) {k k' : Nat} (le : k ≤ k') :
    l.take k ++ (l.take k').drop k = l.take k' := by
  conv => rhs; rw [← List.take_append_drop k (l.take k')]
  rw [List.take_take, Nat.min_eq_left le]

theorem utf8Len_take_mono (l : List Char) {k k' : Nat} (le : k ≤ k') :
    utf8Len (l.take k) + utf8Len ((l.take k').drop k) = utf8Len (l.take k') := by
  rw [← String.utf8Len_append, take_append_drop_take l le]

theorem utf8Size_le_utf8Len {c : Char} {m : List Char} (mem : c ∈ m) : c.utf8Size ≤ utf8Len m := by
  induction m with
  | nil => simp at mem
  | cons d m ih =>
    rw [String.utf8Len_cons]
    rcases List.mem_cons.mp mem with rfl | later
    · omega
    · have := ih later
      omega

/-- Between two boundaries of a text's encoding two bytes apart lie whole characters: the text
is the characters before the first boundary, those between, and those after. -/
theorem window_split {s : String} {i : Nat} (lo : isBoundary (Utf8.encode s) i = true)
    (hi : isBoundary (Utf8.encode s) (i + 2) = true) :
    ∃ before within after, s.toList = before ++ within ++ after ∧ utf8Len before = i ∧
      utf8Len within = 2 := by
  rw [Utf8.encode_eq_flatMap] at lo hi
  obtain ⟨k, at_k⟩ := (isBoundary_flatMap _ _).mp lo
  obtain ⟨k', at_k'⟩ := (isBoundary_flatMap _ _).mp hi
  have ordered : k ≤ k' := by
    refine Nat.le_of_not_lt fun later => ?_
    have := utf8Len_take_mono s.toList (Nat.le_of_lt later)
    omega
  refine ⟨s.toList.take k, (s.toList.take k').drop k, s.toList.drop k', ?_, at_k.symm, ?_⟩
  · rw [take_append_drop_take s.toList ordered, List.take_append_drop]
  · have := utf8Len_take_mono s.toList ordered
    omega

theorem extract_window {s : String} {before within after : List Char}
    (whole : s.toList = before ++ within ++ after) :
    String.Pos.Raw.extract s ⟨utf8Len before⟩ ⟨utf8Len before + utf8Len within⟩ = String.ofList within := by
  rw [← String.ofList_toList (s := s), whole]
  exact String.extract_of_valid _ _ _

/-- Two bytes between two boundaries of a text's encoding read back as the text between
them. -/
theorem decode?_window {s : String} {i : Nat} (lo : isBoundary (Utf8.encode s) i = true)
    (hi : isBoundary (Utf8.encode s) (i + 2) = true) :
    Utf8.decode? (((Utf8.encode s).drop i).take 2) = some (String.Pos.Raw.extract s ⟨i⟩ ⟨i + 2⟩) := by
  obtain ⟨before, within, after, whole, front, widths⟩ := window_split lo hi
  have bytes : ((Utf8.encode s).drop i).take 2 = within.flatMap utf8EncodeChar := by
    rw [Utf8.encode_eq_flatMap, whole, List.flatMap_append, List.flatMap_append, List.append_assoc,
      List.drop_left' (by rw [Utf8.length_flatMap_utf8EncodeChar, front]),
      List.take_left' (by rw [Utf8.length_flatMap_utf8EncodeChar, widths])]
  have text := extract_window whole
  rw [front, widths] at text
  rw [bytes, text]
  exact Utf8.decode?_flatMap fun c mem =>
    Utf8.toNat_le_of_utf8Size (widths ▸ utf8Size_le_utf8Len mem)

/-! ## Sharded paths -/

/-- The shard directory names of a key at a depth: its text between the byte offsets `2 * level`
and `2 * level + 2`, level by level. -/
def shardNames (key : String) (depth : Nat) : List String :=
  (List.range depth).map fun level => String.Pos.Raw.extract key ⟨2 * level⟩ ⟨2 * level + 2⟩

/-- When a key is left bare: at depth 0, when it has fewer than two bytes a level, or when a cut
between two levels falls inside a character. -/
def Bare (key : String) (depth : Nat) : Prop :=
  depth = 0 ∨ key.utf8ByteSize < 2 * depth ∨
    ∃ level < depth, ¬ String.Pos.Raw.IsValid key ⟨2 * level⟩ ∨ ¬ String.Pos.Raw.IsValid key ⟨2 * level + 2⟩

/-- Each shard directory name of a key placed below them is some of the key's characters, at
least one. -/
theorem shardName_chars {key : String} {depth : Nat} (placed : ¬ Bare key depth) {name : String}
    (mem : name ∈ shardNames key depth) : name.toList ≠ [] ∧ ∀ c ∈ name.toList, c ∈ key.toList := by
  simp only [shardNames, List.mem_map, List.mem_range] at mem
  obtain ⟨level, inside, rfl⟩ := mem
  simp only [Bare, not_or, not_exists, not_and, Classical.not_not] at placed
  obtain ⟨lo, hi⟩ := placed.2.2 level inside
  rw [← isBoundary_encode] at lo hi
  obtain ⟨before, within, after, whole, front, widths⟩ := window_split lo hi
  have text := extract_window whole
  rw [front, widths] at text
  rw [text, String.toList_ofList, whole]
  refine ⟨fun empty => ?_, fun c mem => by simp [mem]⟩
  rw [empty] at widths
  simp at widths

theorem shardPrefixes_of_valid {key : String} {depth : Nat}
    (cuts : ∀ level < depth,
      String.Pos.Raw.IsValid key ⟨2 * level⟩ ∧ String.Pos.Raw.IsValid key ⟨2 * level + 2⟩) :
    shardPrefixes (Utf8.encode key) depth = some (shardNames key depth) := by
  apply mapM_eq_some_map
  intro level mem
  obtain ⟨lo, hi⟩ := cuts level (List.mem_range.mp mem)
  rw [← isBoundary_encode] at lo hi
  rw [lo, hi, Bool.and_self, if_pos rfl]
  exact decode?_window lo hi

theorem shardPrefixes_of_cut {key : String} {depth level : Nat} (inside : level < depth)
    (cut : ¬ String.Pos.Raw.IsValid key ⟨2 * level⟩ ∨ ¬ String.Pos.Raw.IsValid key ⟨2 * level + 2⟩) :
    shardPrefixes (Utf8.encode key) depth = none := by
  apply mapM_eq_none _ (List.mem_range.mpr inside)
  rw [← isBoundary_encode, ← isBoundary_encode] at cut
  rw [if_neg]
  simpa only [Bool.and_eq_true, Decidable.not_and_iff_not_or_not] using cut

theorem shardedPath_of_deep {key : String} {depth : Nat} (deep : wordBound ≤ 2 * depth) :
    shardedPath key depth = .error Fault.mulOverflow := by
  unfold shardedPath
  rw [if_pos deep]

theorem shardedPath_of_bare {key : String} {depth : Nat} (fits : 2 * depth < wordBound)
    (bare : Bare key depth) : shardedPath key depth = .ok key := by
  unfold shardedPath
  rw [if_neg (Nat.not_le.mpr fits)]
  dsimp only
  rcases bare with zero | short | ⟨level, inside, cut⟩
  · simp [zero]
  · rw [if_pos (by simp [length_encode, short])]
  · split
    · rfl
    · rw [shardPrefixes_of_cut inside cut]

theorem shardedPath_of_not_bare {key : String} {depth : Nat} (fits : 2 * depth < wordBound)
    (placed : ¬ Bare key depth) :
    shardedPath key depth = .ok ("/".intercalate (shardNames key depth ++ [key])) := by
  simp only [Bare, not_or, not_exists, not_and, Classical.not_not] at placed
  obtain ⟨nonzero, long, cuts⟩ := placed
  unfold shardedPath
  rw [if_neg (Nat.not_le.mpr fits)]
  dsimp only
  rw [if_neg (by simp [nonzero, length_encode]; omega), shardPrefixes_of_valid cuts]

/-- Below at least one directory, a sharded path is longer than its key. -/
theorem intercalate_shardNames_ne (key : String) {depth : Nat} (nonzero : depth ≠ 0) :
    "/".intercalate (shardNames key depth ++ [key]) ≠ key := by
  intro same
  have names : shardNames key depth ≠ [] := by simp [shardNames, nonzero]
  have lengths := congrArg String.length same
  rw [String.intercalate_append_of_ne_nil names (List.cons_ne_nil _ _), String.length_append,
    String.length_append] at lengths
  simp at lengths

/-- A sharded path faults, leaves its key bare, or places it below its shard directories. -/
theorem shardedPath_cases (key : String) (depth : Nat) :
    (wordBound ≤ 2 * depth ∧ shardedPath key depth = .error Fault.mulOverflow) ∨
    (2 * depth < wordBound ∧ Bare key depth ∧ shardedPath key depth = .ok key) ∨
    (2 * depth < wordBound ∧ ¬ Bare key depth ∧
      shardedPath key depth = .ok ("/".intercalate (shardNames key depth ++ [key]))) := by
  by_cases deep : wordBound ≤ 2 * depth
  · exact .inl ⟨deep, shardedPath_of_deep deep⟩
  have fits : 2 * depth < wordBound := Nat.lt_of_not_le deep
  by_cases bare : Bare key depth
  · exact .inr (.inl ⟨fits, bare, shardedPath_of_bare fits bare⟩)
  · exact .inr (.inr ⟨fits, bare, shardedPath_of_not_bare fits bare⟩)

/-- Sharding a key faults exactly when doubling the depth leaves a word; otherwise the key is
left bare exactly when `Bare` says so, and is else placed below its shard directories. -/
theorem shardedPath_faults_or_bare_or_sharded (key : String) (depth : Nat) :
    ((wordBound ≤ 2 * depth ∧ shardedPath key depth = .error Fault.mulOverflow) ∨
      (2 * depth < wordBound ∧ Bare key depth ∧ shardedPath key depth = .ok key) ∨
      (2 * depth < wordBound ∧ ¬ Bare key depth ∧
        shardedPath key depth = .ok ("/".intercalate (shardNames key depth ++ [key])))) ∧
    (shardedPath key depth = .ok key ↔ 2 * depth < wordBound ∧ Bare key depth) := by
  refine ⟨shardedPath_cases key depth, fun bareResult => ?_, fun ⟨fits, bare⟩ => shardedPath_of_bare fits bare⟩
  rcases shardedPath_cases key depth with ⟨-, faulted⟩ | ⟨fits, bare, -⟩ | ⟨-, placed, sharded⟩
  · rw [faulted] at bareResult
    cases bareResult
  · exact ⟨fits, bare⟩
  · rw [sharded] at bareResult
    have nonzero : depth ≠ 0 := fun zero => placed (.inl zero)
    exact absurd (Except.ok.inj bareResult) (intercalate_shardNames_ne key nonzero)

/-- A shard level of half a word faults instead of leaving the key bare. -/
theorem shardedPath_faults_at_half_word : shardedPath "ab12cd34" (2 ^ 63) = .error Fault.mulOverflow := by
  rcases (shardedPath_faults_or_bare_or_sharded "ab12cd34" (2 ^ 63)).1 with
    ⟨-, faulted⟩ | ⟨fits, -⟩ | ⟨fits, -⟩
  · exact faulted
  all_goals exact absurd fits (by decide)

end Key

end ChunkProxy
