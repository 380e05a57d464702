import ChunkProxy.Proofs.ShardDirectories
/-!
# Strict UTF-8 reading inverts encoding

`Utf8.decode?` reads bytes one part at a time (`Utf8.units`): a byte below `0x80` is a
character, and a lead byte asks for one to three continuation bytes, the first of them in the
range `Utf8.leadShape` gives, which keeps out overlong forms, surrogates and values past
U+10FFFF.  The rows of that table are `Utf8.TwoLead`, `Utf8.ThreeLead` and `Utf8.FourLead`, and
`Utf8.accepts_iff` says that a lead byte accepts its first continuation byte exactly on them.

The main statement, `Utf8.decode?_eq_some_iff`: strict reading gives a text exactly when the
bytes are that text's encoding.  Each direction is one character at a time.  The bytes a lead
byte accepts are the encoding of the character they spell (`Utf8.utf8EncodeChar_scalar`), so an
accepted sequence is read back from nothing but its characters (`Utf8.flatMap_of_units`); and
a character's encoding is accepted (`Utf8.encodeChar_accepted`), so it reads as that character,
the encoding being injective (`Utf8.units_encodeChar_append`).
-/

namespace ChunkProxy.Utf8

set_option autoImplicit false

open String (utf8EncodeChar)

/-! ## Characters by their values -/

theorem toNat_ofNat_of_valid {v : Nat} (valid : v < 0xD800 ∨ (0xDFFF < v ∧ v < 0x110000)) :
    (Char.ofNat v).toNat = v := by
  have ok : v.isValidChar := by
    simp only [Nat.isValidChar]
    omega
  rw [Char.ofNat, dif_pos ok]
  rfl

/-- Two characters with one encoding are one character. -/
theorem utf8EncodeChar_inj {x c : Char} (same : utf8EncodeChar x = utf8EncodeChar c) : x = c := by
  have read := ByteArray.utf8DecodeChar?_utf8EncodeChar_append (b := ByteArray.empty) (c := x)
  rw [same, ByteArray.utf8DecodeChar?_utf8EncodeChar_append] at read
  exact (Option.some.inj read).symm

theorem byte_eq {b : UInt8} {n : Nat} (same : n = b.toNat) : UInt8.ofNat n = b := by
  rw [same, UInt8.ofNat_toNat]

/-! ## The table of well-formed sequences -/

/-- A continuation byte, `0x80`–`0xBF`. -/
def Tail (c : Nat) : Prop := 0x80 ≤ c ∧ c ≤ 0xBF

/-- The lead byte of a sequence of two bytes, `0xC2`–`0xDF`. -/
def TwoLead (b : Nat) : Prop := 0xC2 ≤ b ∧ b ≤ 0xDF

/-- The first two bytes of a sequence of three: after `0xE0` at least `0xA0` (no overlong form),
after `0xED` at most `0x9F` (no surrogate). -/
def ThreeLead (b c : Nat) : Prop := (b = 0xE0 ∧ 0xA0 ≤ c) ∨ (b = 0xED ∧ c ≤ 0x9F) ∨ (0xE1 ≤ b ∧ b ≤ 0xEF ∧ b ≠ 0xED)

/-- The first two bytes of a sequence of four: after `0xF0` at least `0x90` (no overlong form),
after `0xF4` at most `0x8F` (nothing past U+10FFFF). -/
def FourLead (b c : Nat) : Prop := (b = 0xF0 ∧ 0x90 ≤ c) ∨ (b = 0xF4 ∧ c ≤ 0x8F) ∨ (0xF1 ≤ b ∧ b ≤ 0xF3)

theorem leadShape_eq_some_iff (b : UInt8) (n : Nat) (lo hi : UInt8) :
    leadShape b = some (n, lo, hi) ↔
      (n = 1 ∧ 0xC2 ≤ b.toNat ∧ b.toNat ≤ 0xDF ∧ lo.toNat = 0x80 ∧ hi.toNat = 0xBF) ∨
      (n = 2 ∧ ((b.toNat = 0xE0 ∧ lo.toNat = 0xA0 ∧ hi.toNat = 0xBF) ∨
        (b.toNat = 0xED ∧ lo.toNat = 0x80 ∧ hi.toNat = 0x9F) ∨
        (0xE1 ≤ b.toNat ∧ b.toNat ≤ 0xEF ∧ b.toNat ≠ 0xED ∧ lo.toNat = 0x80 ∧ hi.toNat = 0xBF))) ∨
      (n = 3 ∧ ((b.toNat = 0xF0 ∧ lo.toNat = 0x90 ∧ hi.toNat = 0xBF) ∨
        (b.toNat = 0xF4 ∧ lo.toNat = 0x80 ∧ hi.toNat = 0x8F) ∨
        (0xF1 ≤ b.toNat ∧ b.toNat ≤ 0xF3 ∧ lo.toNat = 0x80 ∧ hi.toNat = 0xBF))) := by
  unfold leadShape
  simp only [Bool.and_eq_true, decide_eq_true_eq, UInt8.le_iff_toNat_le, beq_iff_eq, ← UInt8.toNat_inj,
    UInt8.reduceToNat]
  split_ifs <;> simp only [Option.some.injEq, Prod.mk.injEq, ← UInt8.toNat_inj, UInt8.reduceToNat,
    false_iff] <;> omega

/-- A lead byte accepts a first continuation byte exactly on a row of the table, and the row
fixes how many continuation bytes follow. -/
theorem accepts_iff (b c : UInt8) (n : Nat) :
    (∃ lo hi, leadShape b = some (n, lo, hi) ∧ lo.toNat ≤ c.toNat ∧ c.toNat ≤ hi.toNat) ↔
      Tail c.toNat ∧ ((n = 1 ∧ TwoLead b.toNat) ∨ (n = 2 ∧ ThreeLead b.toNat c.toNat) ∨
        (n = 3 ∧ FourLead b.toNat c.toNat)) := by
  unfold Tail TwoLead ThreeLead FourLead
  constructor
  · rintro ⟨lo, hi, shape, above, below⟩
    have row := (leadShape_eq_some_iff b n lo hi).mp shape
    omega
  · rintro ⟨tail, ⟨rfl, two⟩ | ⟨rfl, three⟩ | ⟨rfl, four⟩⟩
    · exact ⟨0x80, 0xBF, (leadShape_eq_some_iff _ _ _ _).mpr (.inl ⟨rfl, two.1, two.2, rfl, rfl⟩), tail⟩
    · rcases three with ⟨e0, above⟩ | ⟨ed, below⟩ | ⟨lo, hi, ne⟩
      · exact ⟨0xA0, 0xBF, (leadShape_eq_some_iff _ _ _ _).mpr (.inr (.inl ⟨rfl, .inl ⟨e0, rfl, rfl⟩⟩)),
          above, tail.2⟩
      · exact ⟨0x80, 0x9F, (leadShape_eq_some_iff _ _ _ _).mpr (.inr (.inl ⟨rfl, .inr (.inl ⟨ed, rfl, rfl⟩)⟩)),
          tail.1, below⟩
      · exact ⟨0x80, 0xBF,
          (leadShape_eq_some_iff _ _ _ _).mpr (.inr (.inl ⟨rfl, .inr (.inr ⟨lo, hi, ne, rfl, rfl⟩)⟩)), tail⟩
    · rcases four with ⟨f0, above⟩ | ⟨f4, below⟩ | ⟨lo, hi⟩
      · exact ⟨0x90, 0xBF, (leadShape_eq_some_iff _ _ _ _).mpr (.inr (.inr ⟨rfl, .inl ⟨f0, rfl, rfl⟩⟩)),
          above, tail.2⟩
      · exact ⟨0x80, 0x8F, (leadShape_eq_some_iff _ _ _ _).mpr (.inr (.inr ⟨rfl, .inr (.inl ⟨f4, rfl, rfl⟩)⟩)),
          tail.1, below⟩
      · exact ⟨0x80, 0xBF, (leadShape_eq_some_iff _ _ _ _).mpr (.inr (.inr ⟨rfl, .inr (.inr ⟨lo, hi, rfl, rfl⟩)⟩)),
          tail⟩

theorem acceptedPrefix_le (lo hi : UInt8) (cs : List UInt8) : acceptedPrefix lo hi cs ≤ cs.length := by
  induction cs generalizing lo hi with
  | nil => simp [acceptedPrefix]
  | cons c cs ih =>
    unfold acceptedPrefix
    split
    · have := ih 0x80 0xBF
      simp only [List.length_cons]
      omega
    · omega

/-- Bytes that a lead byte accepts begin with one in its range, and `n` more continuation bytes
follow. -/
theorem accepted_cons {lo hi : UInt8} {n : Nat} {rest : List UInt8}
    (accepted : acceptedPrefix lo hi (rest.take (n + 1)) = n + 1) :
    ∃ c r, rest = c :: r ∧ lo.toNat ≤ c.toNat ∧ c.toNat ≤ hi.toNat ∧ acceptedPrefix 0x80 0xBF (r.take n) = n := by
  cases rest with
  | nil => simp [acceptedPrefix] at accepted
  | cons c r =>
    refine ⟨c, r, rfl, ?_⟩
    rw [List.take_succ_cons, acceptedPrefix] at accepted
    split at accepted
    · rename_i within
      simp only [Bool.and_eq_true, decide_eq_true_eq, UInt8.le_iff_toNat_le] at within
      exact ⟨within.1, within.2, by omega⟩
    · omega

/-- Continuation bytes that a lead byte accepts begin with a continuation byte. -/
theorem accepted_tail {n : Nat} {rest : List UInt8} (accepted : acceptedPrefix 0x80 0xBF (rest.take (n + 1)) = n + 1) :
    ∃ c r, rest = c :: r ∧ Tail c.toNat ∧ acceptedPrefix 0x80 0xBF (r.take n) = n := by
  obtain ⟨c, r, rfl, above, below, more⟩ := accepted_cons accepted
  exact ⟨c, r, rfl, ⟨above, below⟩, more⟩

/-- A byte in range followed by continuation bytes is accepted whole. -/
theorem acceptedPrefix_tails (lo hi : UInt8) {c : UInt8} (above : lo.toNat ≤ c.toNat) (below : c.toNat ≤ hi.toNat) :
    ∀ {cs : List UInt8}, (∀ d ∈ cs, Tail d.toNat) → acceptedPrefix lo hi (c :: cs) = cs.length + 1
  | [], _ => by
    simp only [acceptedPrefix, Bool.and_eq_true, decide_eq_true_eq, UInt8.le_iff_toNat_le]
    rw [if_pos ⟨above, below⟩]
    rfl
  | d :: cs, tails => by
    have first := tails d List.mem_cons_self
    have rest := acceptedPrefix_tails 0x80 0xBF first.1 first.2 fun e mem => tails e (List.mem_cons_of_mem d mem)
    simp only [acceptedPrefix, Bool.and_eq_true, decide_eq_true_eq, UInt8.le_iff_toNat_le] at rest ⊢
    rw [if_pos ⟨above, below⟩, rest, List.length_cons]
    omega

/-! ## The arithmetic of one character

For each length of encoding: the value a lead byte and its continuation bytes spell is a scalar
value of that length whose encoding gives the bytes back; and the bytes of a scalar value of
that length lie on a row of the table. -/

theorem value_two {B C : Nat} (lead : TwoLead B) (tail : Tail C) :
    (127 < B % 32 * 64 + C % 64 ∧ B % 32 * 64 + C % 64 ≤ 2047) ∧
    (B % 32 * 64 + C % 64) / 64 % 32 + 192 = B ∧ (B % 32 * 64 + C % 64) % 64 + 128 = C := by
  unfold TwoLead at lead
  unfold Tail at tail
  omega

theorem value_three {B C₁ C₂ : Nat} (lead : ThreeLead B C₁) (tail₁ : Tail C₁) (tail₂ : Tail C₂) :
    ((2047 < (B % 16 * 64 + C₁ % 64) * 64 + C₂ % 64 ∧ (B % 16 * 64 + C₁ % 64) * 64 + C₂ % 64 ≤ 65535) ∧
      ((B % 16 * 64 + C₁ % 64) * 64 + C₂ % 64 < 0xD800 ∨ 0xDFFF < (B % 16 * 64 + C₁ % 64) * 64 + C₂ % 64)) ∧
    ((B % 16 * 64 + C₁ % 64) * 64 + C₂ % 64) / 4096 % 16 + 224 = B ∧
    ((B % 16 * 64 + C₁ % 64) * 64 + C₂ % 64) / 64 % 64 + 128 = C₁ ∧
    ((B % 16 * 64 + C₁ % 64) * 64 + C₂ % 64) % 64 + 128 = C₂ := by
  unfold ThreeLead at lead
  unfold Tail at tail₁ tail₂
  omega

theorem value_four {B C₁ C₂ C₃ : Nat} (lead : FourLead B C₁) (tail₁ : Tail C₁) (tail₂ : Tail C₂)
    (tail₃ : Tail C₃) :
    (65535 < ((B % 8 * 64 + C₁ % 64) * 64 + C₂ % 64) * 64 + C₃ % 64 ∧
      ((B % 8 * 64 + C₁ % 64) * 64 + C₂ % 64) * 64 + C₃ % 64 < 0x110000) ∧
    (((B % 8 * 64 + C₁ % 64) * 64 + C₂ % 64) * 64 + C₃ % 64) / 262144 % 8 + 240 = B ∧
    (((B % 8 * 64 + C₁ % 64) * 64 + C₂ % 64) * 64 + C₃ % 64) / 4096 % 64 + 128 = C₁ ∧
    (((B % 8 * 64 + C₁ % 64) * 64 + C₂ % 64) * 64 + C₃ % 64) / 64 % 64 + 128 = C₂ ∧
    (((B % 8 * 64 + C₁ % 64) * 64 + C₂ % 64) * 64 + C₃ % 64) % 64 + 128 = C₃ := by
  unfold FourLead at lead
  unfold Tail at tail₁ tail₂ tail₃
  omega

theorem bytes_three {v : Nat} (big : 2047 < v) (short : v ≤ 65535) (valid : v < 0xD800 ∨ 0xDFFF < v) :
    ThreeLead (v / 4096 % 16 + 224) (v / 64 % 64 + 128) ∧ Tail (v / 64 % 64 + 128) ∧ Tail (v % 64 + 128) := by
  unfold ThreeLead Tail
  omega

theorem bytes_four {v : Nat} (big : 65535 < v) (valid : v < 0x110000) :
    FourLead (v / 262144 % 8 + 240) (v / 4096 % 64 + 128) ∧ Tail (v / 4096 % 64 + 128) ∧
      Tail (v / 64 % 64 + 128) ∧ Tail (v % 64 + 128) := by
  unfold FourLead Tail
  omega

/-! ## One character -/

/-- The bytes a lead byte accepts are the encoding of the character they spell. -/
theorem utf8EncodeChar_scalar {b : UInt8} {n : Nat} {lo hi : UInt8} (shape : leadShape b = some (n, lo, hi))
    (rest : List UInt8) (accepted : acceptedPrefix lo hi (rest.take n) = n) :
    utf8EncodeChar (scalar (leadBits n b :: (rest.take n).map fun c => (c &&& 0x3F).toNat)) =
      b :: rest.take n := by
  -- the row of the table the lead byte and its first continuation byte lie on
  obtain ⟨c₁, r, rfl, above, below, accepted⟩ : ∃ c₁ r, rest = c₁ :: r ∧ lo.toNat ≤ c₁.toNat ∧
      c₁.toNat ≤ hi.toNat ∧ acceptedPrefix 0x80 0xBF (r.take (n - 1)) = n - 1 := by
    obtain ⟨m, rfl⟩ : ∃ m, n = m + 1 := ⟨n - 1, by rcases (leadShape_eq_some_iff b n lo hi).mp shape with
      ⟨rfl, -⟩ | ⟨rfl, -⟩ | ⟨rfl, -⟩ <;> rfl⟩
    exact accepted_cons accepted
  obtain ⟨tail₁, ⟨rfl, lead⟩ | ⟨rfl, lead⟩ | ⟨rfl, lead⟩⟩ :=
    (accepts_iff b c₁ n).mp ⟨lo, hi, shape, above, below⟩
  · -- a lead byte and one continuation byte
    obtain ⟨range, first, second⟩ := value_two lead tail₁
    have value := toNat_ofNat_of_valid (.inl (Nat.lt_of_le_of_lt range.2 (by decide)))
    have bits : leadBits 1 b = b.toNat % 32 := by rw [leadBits_eq]; rfl
    simp only [List.take_succ_cons, List.take_zero, List.map_cons, List.map_nil, toNat_and_3F, bits]
    rw [scalar_eq (by simp only [List.foldl_cons, List.foldl_nil, Nat.zero_mul, Nat.zero_add]; exact value.symm)]
    rcases utf8EncodeChar_cases (Char.ofNat (b.toNat % 32 * 64 + c₁.toNat % 64)) with
      ⟨one, -⟩ | ⟨-, -, enc⟩ | ⟨big, -, -⟩ | ⟨big, -⟩
    · omega
    · rw [enc, value, byte_eq first, byte_eq second]
    all_goals omega
  · -- a lead byte and two continuation bytes
    obtain ⟨c₂, r, rfl, tail₂, -⟩ := accepted_tail accepted
    obtain ⟨⟨range, valid⟩, first, second, third⟩ := value_three lead tail₁ tail₂
    have value : (Char.ofNat ((b.toNat % 16 * 64 + c₁.toNat % 64) * 64 + c₂.toNat % 64)).toNat =
        (b.toNat % 16 * 64 + c₁.toNat % 64) * 64 + c₂.toNat % 64 := toNat_ofNat_of_valid (by omega)
    have bits : leadBits 2 b = b.toNat % 16 := by rw [leadBits_eq]; rfl
    simp only [List.take_succ_cons, List.take_zero, List.map_cons, List.map_nil, toNat_and_3F, bits]
    rw [scalar_eq (by simp only [List.foldl_cons, List.foldl_nil, Nat.zero_mul, Nat.zero_add]; exact value.symm)]
    rcases utf8EncodeChar_cases (Char.ofNat ((b.toNat % 16 * 64 + c₁.toNat % 64) * 64 + c₂.toNat % 64)) with
      ⟨one, -⟩ | ⟨-, two, -⟩ | ⟨-, -, enc⟩ | ⟨big, -⟩
    · omega
    · omega
    · rw [enc, value, byte_eq first, byte_eq second, byte_eq third]
    · omega
  · -- a lead byte and three continuation bytes
    obtain ⟨c₂, r, rfl, tail₂, accepted⟩ := accepted_tail accepted
    obtain ⟨c₃, r, rfl, tail₃, -⟩ := accepted_tail accepted
    obtain ⟨range, first, second, third, fourth⟩ := value_four lead tail₁ tail₂ tail₃
    have value := toNat_ofNat_of_valid (.inr ⟨by omega, range.2⟩)
    have bits : leadBits 3 b = b.toNat % 8 := by rw [leadBits_eq]; rfl
    simp only [List.take_succ_cons, List.take_zero, List.map_cons, List.map_nil, toNat_and_3F, bits]
    rw [scalar_eq (by simp only [List.foldl_cons, List.foldl_nil, Nat.zero_mul, Nat.zero_add]; exact value.symm)]
    rcases utf8EncodeChar_cases (Char.ofNat
        (((b.toNat % 8 * 64 + c₁.toNat % 64) * 64 + c₂.toNat % 64) * 64 + c₃.toNat % 64)) with
      ⟨one, -⟩ | ⟨-, two, -⟩ | ⟨-, three, -⟩ | ⟨-, enc⟩
    any_goals omega
    rw [enc, value, byte_eq first, byte_eq second, byte_eq third, byte_eq fourth]

/-- The encoding of a character past `0x7FF` is a lead byte, then the continuation bytes its
row of the table asks for. -/
theorem encodeChar_accepted (c : Char) (big : 2047 < c.toNat) :
    ∃ b conts n lo hi, utf8EncodeChar c = b :: conts ∧ ¬ b < 0x80 ∧ leadShape b = some (n, lo, hi) ∧
      conts.length = n ∧ acceptedPrefix lo hi conts = n := by
  have valid := toNat_valid c
  rcases utf8EncodeChar_cases c with ⟨one, -⟩ | ⟨-, two, -⟩ | ⟨-, three, enc⟩ | ⟨four, enc⟩
  · omega
  · omega
  · -- a lead byte in `0xE0`–`0xEF`, then two continuation bytes
    obtain ⟨lead, tail₁, tail₂⟩ := bytes_three big three (by omega)
    rw [← toNat_byte (n := c.toNat / 4096 % 16 + 224) (by omega),
      ← toNat_byte (n := c.toNat / 64 % 64 + 128) (by omega)] at lead
    rw [← toNat_byte (n := c.toNat / 64 % 64 + 128) (by omega)] at tail₁
    rw [← toNat_byte (n := c.toNat % 64 + 128) (by omega)] at tail₂
    obtain ⟨lo, hi, shape, above, below⟩ := (accepts_iff _ _ 2).mpr ⟨tail₁, .inr (.inl ⟨rfl, lead⟩)⟩
    refine ⟨_, _, 2, lo, hi, enc, ?_, shape, rfl, acceptedPrefix_tails lo hi above below (by simpa using tail₂)⟩
    unfold ThreeLead at lead
    simp only [UInt8.lt_iff_toNat_lt, UInt8.reduceToNat]
    omega
  · -- a lead byte in `0xF0`–`0xF4`, then three continuation bytes
    obtain ⟨lead, tail₁, tail₂, tail₃⟩ := bytes_four four (by omega)
    rw [← toNat_byte (n := c.toNat / 262144 % 8 + 240) (by omega),
      ← toNat_byte (n := c.toNat / 4096 % 64 + 128) (by omega)] at lead
    rw [← toNat_byte (n := c.toNat / 4096 % 64 + 128) (by omega)] at tail₁
    rw [← toNat_byte (n := c.toNat / 64 % 64 + 128) (by omega)] at tail₂
    rw [← toNat_byte (n := c.toNat % 64 + 128) (by omega)] at tail₃
    obtain ⟨lo, hi, shape, above, below⟩ := (accepts_iff _ _ 3).mpr ⟨tail₁, .inr (.inr ⟨rfl, lead⟩)⟩
    refine ⟨_, _, 3, lo, hi, enc, ?_, shape, rfl,
      acceptedPrefix_tails lo hi above below (by simpa using ⟨tail₂, tail₃⟩)⟩
    unfold FourLead at lead
    simp only [UInt8.lt_iff_toNat_lt, UInt8.reduceToNat]
    omega

/-- Strict reading takes the encoding of any character back to the character. -/
theorem units_encodeChar_append (c : Char) (rest : List UInt8) :
    units (utf8EncodeChar c ++ rest) = some c :: units rest := by
  by_cases short : c.toNat ≤ 2047
  · exact units_utf8EncodeChar_append short rest
  obtain ⟨b, conts, n, lo, hi, enc, big, shape, width, accepted⟩ := encodeChar_accepted c (by omega)
  have taken : (conts ++ rest).take n = conts := by rw [← width, List.take_left]
  have dropped : (conts ++ rest).drop n = rest := by rw [← width, List.drop_left]
  rw [enc, List.cons_append, units_cons_of_lead big shape (by rw [taken]; exact accepted), dropped, taken]
  -- the character the lead byte reads has the encoding `c` has
  have spelt := utf8EncodeChar_scalar shape (conts ++ rest) (by rw [taken]; exact accepted)
  rw [taken, ← enc] at spelt
  rw [utf8EncodeChar_inj spelt]

/-! ## Texts -/

/-- A byte below `0x80` is the encoding of its own character. -/
theorem utf8EncodeChar_ascii {b : UInt8} (small : b < 0x80) : utf8EncodeChar (Char.ofNat b.toNat) = [b] := by
  have lt : b.toNat < 0x80 := by simpa [UInt8.lt_iff_toNat_lt] using small
  have value := toNat_ofNat_of_valid (v := b.toNat) (by omega)
  rcases utf8EncodeChar_cases (Char.ofNat b.toNat) with ⟨-, enc⟩ | ⟨big, -⟩ | ⟨big, -⟩ | ⟨big, -⟩
  · rw [enc, value, UInt8.ofNat_toNat]
  all_goals omega

theorem mapM_some_cons (c : Char) (us : List (Option Char)) :
    (some c :: us).mapM id = (us.mapM id).map (c :: ·) := by
  rw [List.mapM_cons]
  cases us.mapM id <;> rfl

theorem mapM_none_cons (us : List (Option Char)) : (none :: us).mapM id = none := by
  rw [List.mapM_cons]
  rfl

/-- Bytes that strict reading accepts are the encoding of the characters it reads. -/
theorem flatMap_of_units {bs : List UInt8} {cs : List Char} (read : (units bs).mapM id = some cs) :
    cs.flatMap utf8EncodeChar = bs := by
  fun_induction units bs generalizing cs with
  | case1 =>
    simp only [List.mapM_nil, Option.pure_def, Option.some.injEq] at read
    subst read
    rfl
  | case2 b rest small ih =>
    rw [mapM_some_cons] at read
    obtain ⟨cs', later, rfl⟩ := Option.map_eq_some_iff.mp read
    rw [List.flatMap_cons, utf8EncodeChar_ascii small, ih later]
    rfl
  | case3 => simp only [mapM_none_cons, reduceCtorEq] at read
  | case4 b rest big n lo hi shape k accepted =>
    rename_i ih
    rw [mapM_some_cons] at read
    obtain ⟨cs', later, rfl⟩ := Option.map_eq_some_iff.mp read
    rw [List.flatMap_cons, utf8EncodeChar_scalar shape rest (by simpa [k] using accepted), ih later, List.cons_append,
      List.take_append_drop]
  | case5 => simp only [mapM_none_cons, reduceCtorEq] at read

/-- Strict reading gives back the text whose encoding it reads. -/
theorem decode?_encode (s : String) : decode? (encode s) = some s := by
  have read : units (s.toList.flatMap utf8EncodeChar) = s.toList.map some := by
    induction s.toList with
    | nil => simp [units]
    | cons c m ih => rw [List.flatMap_cons, units_encodeChar_append, ih, List.map_cons]
  have back : (s.toList.map some).mapM id = some s.toList := by
    rw [List.mapM_map]
    simpa using List.mapM_pure (m := Option) (l := s.toList) (f := id)
  rw [decode?, encode_eq_flatMap, read, back]
  simp

/-- Strict reading gives a text exactly when the bytes are that text's encoding. -/
theorem decode?_eq_some_iff {bs : List UInt8} {s : String} : decode? bs = some s ↔ encode s = bs := by
  constructor
  · intro read
    obtain ⟨cs, chars, rfl⟩ := Option.map_eq_some_iff.mp read
    rw [encode_eq_flatMap, String.toList_ofList]
    exact flatMap_of_units chars
  · rintro rfl
    exact decode?_encode s

end ChunkProxy.Utf8
