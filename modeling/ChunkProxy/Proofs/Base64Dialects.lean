import ChunkProxy.Proofs.StrictUtf8
import ChunkProxy.Handler.Target
/-!
# Base64 dialects: reading is canonical

A base64 path segment is tried in four dialects (`Handler.pathDialects`): the URL-safe and the
standard alphabet, each padded and unpadded.  This module shows that the strict reader of
`Base64.decode` reads exactly what the writer of each dialect writes, and nothing else.

* `sextets` gives the six-bit values of bytes, three bytes to four values; `decodeValues_sextets`
  reads them back, and `sextets_of_decodeValues` says that values which decode are the values of
  their bytes: a short last group whose unused bits are not zero is refused.
* `encodeIn` writes bytes in a dialect; with a sound alphabet (`Alphabet.Sound`), reading and
  writing are inverse: `decode_encodeIn` and `encodeIn_of_decode`.  The padded standard dialect
  is the one `Base64.encode` writes (`encode_eq_encodeIn`).
* The two alphabets share their letters and digits and have four distinct last symbols, so they
  `Agree`: two dialects never read one text as two byte strings (`decode_agree`), and the order
  in which the path dialects are tried never matters (`findSome?_of_canonical`).
* Reading a path segment relies on no more of the engines than `Canonical` states, what the
  crate documents of them; `pathDialects_canonical` shows the path dialects give it.

With the strict UTF-8 reader of `Proofs.StrictUtf8` this gives the round trip of a base64 path
segment: `decodeBase64Target_eq_ok_iff`.
-/

namespace ChunkProxy.Base64

set_option autoImplicit false

/-! ## Alphabets -/

/-- The value of a symbol, by its code point. -/
theorem value?_eq (a : Alphabet) (c : Char) :
    a.value? c =
      if 65 ≤ c.toNat ∧ c.toNat ≤ 90 then some (c.toNat - 65)
      else if 97 ≤ c.toNat ∧ c.toNat ≤ 122 then some (c.toNat - 71)
      else if 48 ≤ c.toNat ∧ c.toNat ≤ 57 then some (c.toNat + 4)
      else if c = a.sym62 then some 62 else if c = a.sym63 then some 63 else none := by
  unfold Alphabet.value?
  simp only [Char.le_def, UInt32.le_iff_toNat_le, Char.toNat_val, Char.reduceToNat]
  split_ifs <;> simp only [Option.some.injEq] <;> omega

/-- The code point of the symbol of a value below 62: a capital letter, a small letter or a
digit. -/
theorem toNat_symbol (a : Alphabet) {v : Nat} (small : v < 62) :
    (v < 26 ∧ (a.symbol v).toNat = v + 65) ∨ (26 ≤ v ∧ v < 52 ∧ (a.symbol v).toNat = v + 71) ∨
      (52 ≤ v ∧ (a.symbol v).toNat = v - 4) := by
  unfold Alphabet.symbol
  simp only [Char.reduceToNat]
  split_ifs <;> rw [Utf8.toNat_ofNat_of_valid (by omega)] <;> omega

/-- A character that is neither an ASCII letter nor an ASCII digit. -/
def Other (c : Char) : Prop :=
  c.toNat < 48 ∨ (57 < c.toNat ∧ c.toNat < 65) ∨ (90 < c.toNat ∧ c.toNat < 97) ∨ 122 < c.toNat

/-- A symbol that is neither a letter nor a digit reads as 62 or 63 by the alphabet's own two. -/
theorem value?_of_other (a : Alphabet) {c : Char} (other : Other c) :
    a.value? c = if c = a.sym62 then some 62 else if c = a.sym63 then some 63 else none := by
  unfold Other at other
  rw [value?_eq, if_neg (by omega), if_neg (by omega), if_neg (by omega)]

theorem symbol_62 (a : Alphabet) : a.symbol 62 = a.sym62 := rfl

theorem symbol_63 (a : Alphabet) : a.symbol 63 = a.sym63 := rfl

/-- What reading and writing ask of an alphabet: each value below 64 has a symbol, which reads
back as the value and is not `=`, and every symbol read is the symbol of its value. -/
structure Alphabet.Sound (a : Alphabet) : Prop where
  value?_symbol : ∀ v < 64, a.value? (a.symbol v) = some v
  symbol_ne_pad : ∀ v < 64, a.symbol v ≠ '='
  of_value? : ∀ {c : Char} {v : Nat}, a.value? c = some v → v < 64 ∧ a.symbol v = c

/-- An alphabet is sound when its two last symbols differ, are neither letters nor digits, and
are not `=`. -/
theorem Alphabet.sound_of {a : Alphabet} (other62 : Other a.sym62) (other63 : Other a.sym63)
    (apart : a.sym62 ≠ a.sym63) (pad62 : a.sym62 ≠ '=') (pad63 : a.sym63 ≠ '=') : a.Sound where
  value?_symbol v small := by
    by_cases last : v < 62
    · rw [value?_eq]
      rcases toNat_symbol a last with ⟨low, code⟩ | ⟨low, high, code⟩ | ⟨high, code⟩
      · rw [if_pos (by omega), code, Nat.add_sub_cancel]
      · rw [if_neg (by omega), if_pos (by omega), code, Nat.add_sub_cancel]
      · rw [if_neg (by omega), if_neg (by omega), if_pos (by omega), code, Nat.sub_add_cancel (by omega)]
    · obtain rfl | rfl : v = 62 ∨ v = 63 := by omega
      · rw [symbol_62, value?_of_other a other62, if_pos rfl]
      · rw [symbol_63, value?_of_other a other63, if_neg (Ne.symm apart), if_pos rfl]
  symbol_ne_pad v small := by
    by_cases last : v < 62
    · intro same
      have code := toNat_symbol a last
      rw [same] at code
      simp only [Char.reduceToNat] at code
      omega
    · obtain rfl | rfl : v = 62 ∨ v = 63 := by omega
      · exact pad62
      · exact pad63
  of_value? {c v} read := by
    by_cases other : Other c
    · rw [value?_of_other a other] at read
      split_ifs at read with is62 is63
      · cases read
        exact ⟨by decide, is62.symm⟩
      · cases read
        exact ⟨by decide, is63.symm⟩
    · unfold Other at other
      rw [value?_eq] at read
      -- a letter or a digit: its symbol is the character of its code point
      have value : v < 62 ∧ ((c.toNat = v + 65 ∧ v < 26) ∨ (c.toNat = v + 71 ∧ 26 ≤ v ∧ v < 52) ∨
          (c.toNat + 4 = v ∧ 52 ≤ v)) := by
        split_ifs at read <;> simp only [Option.some.injEq] at read <;> omega
      refine ⟨by omega, Char.toNat_inj.mp ?_⟩
      have code := toNat_symbol a value.1
      omega

theorem standard_sound : standard.Sound :=
  Alphabet.sound_of (by simp only [Other, standard, Char.reduceToNat]; omega)
    (by simp only [Other, standard, Char.reduceToNat]; omega) (by simp [standard]) (by simp [standard])
    (by simp [standard])

theorem urlSafe_sound : urlSafe.Sound :=
  Alphabet.sound_of (by simp only [Other, urlSafe, Char.reduceToNat]; omega)
    (by simp only [Other, urlSafe, Char.reduceToNat]; omega) (by simp [urlSafe]) (by simp [urlSafe])
    (by simp [urlSafe])

/-- Letters and digits have the same value in every alphabet. -/
theorem value?_congr {c : Char} (letter : ¬ Other c) (a b : Alphabet) : a.value? c = b.value? c := by
  unfold Other at letter
  rw [value?_eq, value?_eq]
  by_cases upper : 65 ≤ c.toNat ∧ c.toNat ≤ 90
  · rw [if_pos upper, if_pos upper]
  by_cases lower : 97 ≤ c.toNat ∧ c.toNat ≤ 122
  · rw [if_neg upper, if_neg upper, if_pos lower, if_pos lower]
  · rw [if_neg upper, if_neg upper, if_neg lower, if_neg lower, if_pos (by omega), if_pos (by omega)]

/-- Two alphabets read every symbol both know as the same value. -/
def Agree (a b : Alphabet) : Prop := ∀ {c : Char} {v w : Nat}, a.value? c = some v → b.value? c = some w → v = w

theorem agree_self (a : Alphabet) : Agree a a := fun first second => Option.some.inj (first.symm.trans second)

/-- Alphabets whose last two symbols are four distinct characters agree. -/
theorem agree_of_apart {a b : Alphabet} (apart : ∀ c, (c = a.sym62 ∨ c = a.sym63) → c ≠ b.sym62 ∧ c ≠ b.sym63) :
    Agree a b := by
  intro c v w first second
  by_cases other : Other c
  · rw [value?_of_other a other] at first
    rw [value?_of_other b other] at second
    have known : c = a.sym62 ∨ c = a.sym63 := by
      split_ifs at first with is62 is63
      · exact .inl is62
      · exact .inr is63
    obtain ⟨not62, not63⟩ := apart c known
    rw [if_neg not62, if_neg not63] at second
    cases second
  · rw [value?_congr other a b] at first
    exact Option.some.inj (first.symm.trans second)

theorem agree_standard_urlSafe : Agree standard urlSafe :=
  agree_of_apart fun c known => by rcases known with rfl | rfl <;> simp [standard, urlSafe]

theorem agree_urlSafe_standard : Agree urlSafe standard :=
  agree_of_apart fun c known => by rcases known with rfl | rfl <;> simp [standard, urlSafe]

/-- Symbols that two agreeing alphabets both read give the same values. -/
theorem mapM_agree {a b : Alphabet} (agree : Agree a b) :
    ∀ {cs : List Char} {vs ws : List Nat}, cs.mapM a.value? = some vs → cs.mapM b.value? = some ws → vs = ws
  | [], vs, ws, first, second => by
    simp only [List.mapM_nil, Option.pure_def, Option.some.injEq] at first second
    rw [← first, ← second]
  | c :: cs, vs, ws, first, second => by
    simp only [List.mapM_cons, Option.pure_def, Option.bind_eq_bind, Option.bind_eq_some_iff,
      Option.some.injEq] at first second
    obtain ⟨v, hv, vs', rest, rfl⟩ := first
    obtain ⟨w, hw, ws', rest', rfl⟩ := second
    rw [agree hv hw, mapM_agree agree rest rest']

/-! ## Values of bytes -/

/-- The six-bit values of bytes, three bytes to four values; a last group of one or two bytes
gives two or three values, the bits it lacks being zero. -/
def sextets : List UInt8 → List Nat
  | x :: y :: z :: rest =>
    [x.toNat / 4, x.toNat % 4 * 16 + y.toNat / 16, y.toNat % 16 * 4 + z.toNat / 64, z.toNat % 64] ++ sextets rest
  | [x, y] => [x.toNat / 4, x.toNat % 4 * 16 + y.toNat / 16, y.toNat % 16 * 4]
  | [x] => [x.toNat / 4, x.toNat % 4 * 16]
  | [] => []

theorem sextets_lt (bs : List UInt8) : ∀ v ∈ sextets bs, v < 64 := by
  fun_induction sextets bs with
  | case1 x y z rest ih =>
    have := x.toNat_lt
    have := y.toNat_lt
    have := z.toNat_lt
    intro v mem
    simp only [List.cons_append, List.nil_append, List.mem_cons] at mem
    rcases mem with rfl | rfl | rfl | rfl | later
    any_goals omega
    exact ih v later
  | case2 x y =>
    have := x.toNat_lt
    have := y.toNat_lt
    simp only [List.mem_cons, List.not_mem_nil, or_false]
    omega
  | case3 x =>
    have := x.toNat_lt
    simp only [List.mem_cons, List.not_mem_nil, or_false]
    omega
  | case4 => simp

theorem sextets_eq_nil_iff {bs : List UInt8} : sextets bs = [] ↔ bs = [] := by
  fun_induction sextets bs <;> simp

/-- Four values read as the three bytes they came from. -/
theorem groupBytes_sextets (x y z : UInt8) :
    groupBytes [x.toNat / 4, x.toNat % 4 * 16 + y.toNat / 16, y.toNat % 16 * 4 + z.toNat / 64, z.toNat % 64] =
      [x, y, z] := by
  have := x.toNat_lt
  have := y.toNat_lt
  have := z.toNat_lt
  simp only [groupBytes, List.cons.injEq, and_true]
  exact ⟨Utf8.byte_eq (by omega), Utf8.byte_eq (by omega), Utf8.byte_eq (by omega)⟩

/-- A first group of four values, and what follows it when anything does. -/
theorem decodeValues_group (a b c d : Nat) (vs : List Nat) :
    decodeValues (a :: b :: c :: d :: vs) =
      if vs = [] then some (groupBytes [a, b, c, d]) else (decodeValues vs).map (groupBytes [a, b, c, d] ++ ·) := by
  cases vs with
  | nil => rfl
  | cons e rest => simp [decodeValues]

/-- The values of bytes read back as the bytes. -/
theorem decodeValues_sextets (bs : List UInt8) : decodeValues (sextets bs) = some bs := by
  fun_induction sextets bs with
  | case1 x y z rest ih =>
    rw [List.cons_append, List.cons_append, List.cons_append, List.cons_append, List.nil_append,
      decodeValues_group, groupBytes_sextets]
    split
    · rename_i empty
      rw [sextets_eq_nil_iff.mp empty]
    · rw [ih]
      rfl
  | case2 x y =>
    have := x.toNat_lt
    have := y.toNat_lt
    have clean : tailClean [x.toNat / 4, x.toNat % 4 * 16 + y.toNat / 16, y.toNat % 16 * 4] = true := by
      simp only [tailClean, beq_iff_eq]
      omega
    rw [show decodeValues [x.toNat / 4, x.toNat % 4 * 16 + y.toNat / 16, y.toNat % 16 * 4] =
      if tailClean [x.toNat / 4, x.toNat % 4 * 16 + y.toNat / 16, y.toNat % 16 * 4] then
        some (groupBytes [x.toNat / 4, x.toNat % 4 * 16 + y.toNat / 16, y.toNat % 16 * 4]) else none from rfl,
      if_pos clean]
    simp only [groupBytes, Option.some.injEq, List.cons.injEq, and_true]
    exact ⟨Utf8.byte_eq (by omega), Utf8.byte_eq (by omega)⟩
  | case3 x =>
    have := x.toNat_lt
    have clean : tailClean [x.toNat / 4, x.toNat % 4 * 16] = true := by
      simp only [tailClean, beq_iff_eq]
      omega
    rw [show decodeValues [x.toNat / 4, x.toNat % 4 * 16] =
      if tailClean [x.toNat / 4, x.toNat % 4 * 16] then some (groupBytes [x.toNat / 4, x.toNat % 4 * 16])
        else none from rfl, if_pos clean]
    simp only [groupBytes, Option.some.injEq, List.cons.injEq, and_true]
    exact Utf8.byte_eq (by omega)
  | case4 => rfl

/-- The values of a group of four read back from its three bytes. -/
theorem sextets_groupBytes_append {a b c d : Nat} (ha : a < 64) (hb : b < 64) (hc : c < 64) (hd : d < 64)
    (rest : List UInt8) : sextets (groupBytes [a, b, c, d] ++ rest) = [a, b, c, d] ++ sextets rest := by
  simp only [groupBytes, List.cons_append, List.nil_append, sextets, UInt8.toNat_ofNat', Nat.reducePow,
    List.cons.injEq, and_true]
  omega

/-- Values are the values of the bytes they decode to: a group of two or three values decodes only
when the bits past its last byte are zero. -/
theorem sextets_of_decodeValues : ∀ {vs : List Nat} {bs : List UInt8}, (∀ v ∈ vs, v < 64) →
    decodeValues vs = some bs → sextets bs = vs
  | [], bs, _, read => by
    simp only [decodeValues, Option.some.injEq] at read
    rw [← read]
    rfl
  | [_], _, _, read => by simp [decodeValues] at read
  | [a, b], bs, small, read => by
    simp only [decodeValues, tailClean, beq_iff_eq, Option.ite_none_right_eq_some, Option.some.injEq] at read
    obtain ⟨clean, rfl⟩ := read
    simp only [List.forall_mem_cons, List.not_mem_nil, IsEmpty.forall_iff, implies_true, and_true] at small
    simp only [groupBytes, sextets, UInt8.toNat_ofNat', Nat.reducePow, List.cons.injEq, and_true]
    omega
  | [a, b, c], bs, small, read => by
    simp only [decodeValues, tailClean, beq_iff_eq, Option.ite_none_right_eq_some, Option.some.injEq] at read
    obtain ⟨clean, rfl⟩ := read
    simp only [List.forall_mem_cons, List.not_mem_nil, IsEmpty.forall_iff, implies_true, and_true] at small
    simp only [groupBytes, sextets, UInt8.toNat_ofNat', Nat.reducePow, List.cons.injEq, and_true]
    omega
  | [a, b, c, d], bs, small, read => by
    simp only [decodeValues, tailClean, if_true, Option.some.injEq] at read
    simp only [List.forall_mem_cons, List.not_mem_nil, IsEmpty.forall_iff, implies_true, and_true] at small
    obtain ⟨ha, hb, hc, hd⟩ := small
    rw [← read, ← List.append_nil (groupBytes _), sextets_groupBytes_append ha hb hc hd]
    rfl
  | a :: b :: c :: d :: e :: rest, bs, small, read => by
    simp only [decodeValues, Option.map_eq_some_iff] at read
    obtain ⟨r, later, rfl⟩ := read
    simp only [List.forall_mem_cons] at small
    obtain ⟨ha, hb, hc, hd, he, tail⟩ := small
    rw [sextets_groupBytes_append ha hb hc hd, sextets_of_decodeValues (List.forall_mem_cons.mpr ⟨he, tail⟩) later]
    rfl

/-! ## Reading -/

/-- How many `=` a dialect writes after `n` symbols: as many as complete them to whole groups of
four when it pads, none when it does not. -/
def padCount (d : Dialect) (n : Nat) : Nat := if d.padded then (4 - n % 4) % 4 else 0

/-- Reading in a dialect: the symbols before the first `=` are read as values and decoded, and
what follows them is `=` only, as many as the dialect writes after them. -/
theorem decode_eq_some_iff {d : Dialect} {s : String} {bs : List UInt8} :
    decode d s = some bs ↔
      (∀ c ∈ s.toList.dropWhile (· ≠ '='), c = '=') ∧
      (s.toList.dropWhile (· ≠ '=')).length = padCount d (s.toList.takeWhile (· ≠ '=')).length ∧
      ∃ vs, (s.toList.takeWhile (· ≠ '=')).mapM d.alphabet.value? = some vs ∧ decodeValues vs = some bs := by
  obtain ⟨alphabet, padded⟩ := d
  unfold decode padCount
  dsimp only
  generalize s.toList.takeWhile (· ≠ '=') = body
  generalize s.toList.dropWhile (· ≠ '=') = pad
  by_cases clean : ∀ c ∈ pad, c = '='
  · by_cases fits : pad.length = if padded then (4 - body.length % 4) % 4 else 0
    · cases padded <;> simp_all [Option.bind_eq_some_iff]
    · cases padded <;> simp_all
  · simp [clean]

/-- Symbols of values below 64 read back as the values. -/
theorem mapM_value?_symbol {a : Alphabet} (sound : a.Sound) :
    ∀ {vs : List Nat}, (∀ v ∈ vs, v < 64) → (vs.map a.symbol).mapM a.value? = some vs
  | [], _ => rfl
  | v :: vs, small => by
    rw [List.forall_mem_cons] at small
    simp only [List.map_cons, List.mapM_cons, sound.value?_symbol v small.1, mapM_value?_symbol sound small.2]
    rfl

/-- Symbols that read as values are the symbols of those values. -/
theorem symbols_of_mapM {a : Alphabet} (sound : a.Sound) :
    ∀ {cs : List Char} {vs : List Nat}, cs.mapM a.value? = some vs → (∀ v ∈ vs, v < 64) ∧ vs.map a.symbol = cs
  | [], vs, read => by
    simp only [List.mapM_nil, Option.pure_def, Option.some.injEq] at read
    simp [← read]
  | c :: cs, vs, read => by
    simp only [List.mapM_cons, Option.pure_def, Option.bind_eq_bind, Option.bind_eq_some_iff,
      Option.some.injEq] at read
    obtain ⟨v, hv, vs', rest, rfl⟩ := read
    obtain ⟨small, back⟩ := sound.of_value? hv
    obtain ⟨smalls, backs⟩ := symbols_of_mapM sound rest
    exact ⟨List.forall_mem_cons.mpr ⟨small, smalls⟩, by rw [List.map_cons, back, backs]⟩

/-! ## Writing -/

/-- Bytes written in a dialect: the symbols of their values, then the `=` the dialect writes. -/
def encodeIn (d : Dialect) (bs : List UInt8) : String :=
  String.ofList ((sextets bs).map d.alphabet.symbol ++ List.replicate (padCount d (sextets bs).length) '=')

/-- A written text splits at its first `=` into its symbols and its padding. -/
theorem split_written {syms : List Char} (symbols : ∀ c ∈ syms, c ≠ '=') (k : Nat) :
    (syms ++ List.replicate k '=').takeWhile (· ≠ '=') = syms ∧
      (syms ++ List.replicate k '=').dropWhile (· ≠ '=') = List.replicate k '=' := by
  have symbols' : ∀ c ∈ syms, decide (c ≠ '=') = true := by simpa using symbols
  rw [List.takeWhile_append_of_pos symbols', List.dropWhile_append_of_pos symbols', List.takeWhile_replicate,
    List.dropWhile_replicate]
  simp

/-- A dialect with a sound alphabet reads what it writes. -/
theorem decode_encodeIn {d : Dialect} (sound : d.alphabet.Sound) (bs : List UInt8) :
    decode d (encodeIn d bs) = some bs := by
  have symbols : ∀ c ∈ (sextets bs).map d.alphabet.symbol, c ≠ '=' := by
    simp only [List.mem_map, forall_exists_index, and_imp, forall_apply_eq_imp_iff₂]
    exact fun v mem => sound.symbol_ne_pad v (sextets_lt bs v mem)
  obtain ⟨body, pad⟩ := split_written symbols (padCount d (sextets bs).length)
  rw [decode_eq_some_iff, encodeIn, String.toList_ofList, body, pad, List.length_replicate, List.length_map]
  exact ⟨fun c mem => List.eq_of_mem_replicate mem, rfl, sextets bs, mapM_value?_symbol sound (sextets_lt bs),
    decodeValues_sextets bs⟩

/-- Whatever a dialect with a sound alphabet reads is written back as the text read: reading is
canonical. -/
theorem encodeIn_of_decode {d : Dialect} (sound : d.alphabet.Sound) {s : String} {bs : List UInt8}
    (read : decode d s = some bs) : s = encodeIn d bs := by
  obtain ⟨pads, fits, vs, values, decoded⟩ := decode_eq_some_iff.mp read
  obtain ⟨small, symbols⟩ := symbols_of_mapM sound values
  have same := sextets_of_decodeValues small decoded
  have pad := List.eq_replicate_iff.mpr ⟨fits, pads⟩
  rw [String.ext_iff, encodeIn, String.toList_ofList]
  calc s.toList = s.toList.takeWhile (· ≠ '=') ++ s.toList.dropWhile (· ≠ '=') :=
        List.takeWhile_append_dropWhile.symm
    _ = (sextets bs).map d.alphabet.symbol ++ List.replicate (padCount d (sextets bs).length) '=' := by
        rw [pad, ← symbols, List.length_map, same]

/-- Two dialects whose alphabets agree never read one text as two different byte strings. -/
theorem decode_agree {d e : Dialect} (agree : Agree d.alphabet e.alphabet) {s : String} {x y : List UInt8}
    (first : decode d s = some x) (second : decode e s = some y) : x = y := by
  obtain ⟨-, -, vs, values, decoded⟩ := decode_eq_some_iff.mp first
  obtain ⟨-, -, ws, values', decoded'⟩ := decode_eq_some_iff.mp second
  rw [mapM_agree agree values values', decoded'] at decoded
  exact Option.some.inj decoded.symm

/-- The writer of padded standard base64 writes in the dialect it names. -/
theorem encode_eq_encodeIn (bs : List UInt8) : encode bs = encodeIn ⟨standard, true⟩ bs := by
  rw [encode, encodeIn]
  congr 1
  fun_induction sextets bs with
  | case1 x y z rest ih =>
    have skip : padCount ⟨standard, true⟩ ((sextets rest).length + 4) = padCount ⟨standard, true⟩ (sextets rest).length := by
      simp only [padCount, if_true]
      omega
    simp only [encode.go, ih, encodeGroup, List.cons_append, List.nil_append, List.map_cons, List.length_cons, skip]
  | case2 x y => simp [encode.go, encodeGroup, padCount]
  | case3 x => simp [encode.go, encodeGroup, padCount]
  | case4 => rfl

/-- Padded standard base64 as the program writes it reads back as the bytes written. -/
theorem decode_encode (bs : List UInt8) : decode ⟨standard, true⟩ (encode bs) = some bs := by
  rw [encode_eq_encodeIn]
  exact decode_encodeIn standard_sound bs

/-! ## What a base64 path segment relies on -/

/-- What reading in several dialects relies on of the base64 engines, as the crate documents
them: each dialect reads back what it writes and reads nothing else, and no two of them read one
text as two byte strings. -/
structure Canonical (dialects : List Dialect) : Prop where
  decode_encodeIn : ∀ d ∈ dialects, ∀ bs, decode d (encodeIn d bs) = some bs
  encodeIn_of_decode : ∀ d ∈ dialects, ∀ {s bs}, decode d s = some bs → s = encodeIn d bs
  agree : ∀ d ∈ dialects, ∀ e ∈ dialects, ∀ {s x y}, decode d s = some x → decode e s = some y → x = y

/-- Dialects with sound alphabets that agree pairwise are canonical. -/
theorem canonical_of_sound {dialects : List Dialect} (sound : ∀ d ∈ dialects, d.alphabet.Sound)
    (agree : ∀ d ∈ dialects, ∀ e ∈ dialects, Agree d.alphabet e.alphabet) : Canonical dialects where
  decode_encodeIn := fun d mem => decode_encodeIn (sound d mem)
  encodeIn_of_decode := fun d mem => encodeIn_of_decode (sound d mem)
  agree := fun d mem e mem' => decode_agree (agree d mem e mem')

end ChunkProxy.Base64

namespace ChunkProxy.Handler

open Base64

/-- Every path dialect uses the standard or the URL-safe alphabet. -/
theorem alphabet_of_pathDialect {d : Dialect} (mem : d ∈ pathDialects) :
    d.alphabet = standard ∨ d.alphabet = urlSafe := by
  simp only [pathDialects, List.mem_cons, List.not_mem_nil, or_false] at mem
  rcases mem with rfl | rfl | rfl | rfl <;> simp

theorem sound_of_pathDialect {d : Dialect} (mem : d ∈ pathDialects) : d.alphabet.Sound := by
  rcases alphabet_of_pathDialect mem with known | known <;> rw [known]
  · exact standard_sound
  · exact urlSafe_sound

theorem agree_of_pathDialects {d e : Dialect} (first : d ∈ pathDialects) (second : e ∈ pathDialects) :
    Agree d.alphabet e.alphabet := by
  rcases alphabet_of_pathDialect first with known | known <;>
    rcases alphabet_of_pathDialect second with known' | known' <;> rw [known, known']
  · exact agree_self standard
  · exact agree_standard_urlSafe
  · exact agree_urlSafe_standard
  · exact agree_self urlSafe

/-- The path dialects are canonical. -/
theorem pathDialects_canonical : Canonical pathDialects :=
  canonical_of_sound (fun _ mem => sound_of_pathDialect mem) (fun _ mem _ mem' => agree_of_pathDialects mem mem')

/-- Trying canonical dialects in turn reads what any one of them reads: they never disagree. -/
theorem findSome?_of_canonical {dialects : List Dialect} (canonical : Canonical dialects) {s : String} {d : Dialect}
    (mem : d ∈ dialects) {bytes : List UInt8} (read : decode d s = some bytes) :
    dialects.findSome? (fun e => decode e s) = some bytes := by
  have found : (dialects.findSome? fun e => decode e s).isSome :=
    List.findSome?_isSome_iff.mpr ⟨d, mem, by rw [read]; rfl⟩
  obtain ⟨other, first⟩ := Option.isSome_iff_exists.mp found
  obtain ⟨e, mem', read'⟩ := List.exists_of_findSome?_eq_some first
  rw [first, canonical.agree e mem' d mem read' read]

/-- A text's UTF-8 bytes written in a path dialect name the text. -/
theorem decodeBase64Target_encodeIn {d : Dialect} (mem : d ∈ pathDialects) (v : String) :
    decodeBase64Target (encodeIn d (Utf8.encode v)) = .ok v := by
  unfold decodeBase64Target
  rw [findSome?_of_canonical pathDialects_canonical mem (pathDialects_canonical.decode_encodeIn d mem _)]
  simp only [Utf8.decode?_encode]

/-- A path segment that names a text is the text's UTF-8 bytes written in a path dialect. -/
theorem encodeIn_of_decodeBase64Target {s v : String} (decoded : decodeBase64Target s = .ok v) :
    ∃ d ∈ pathDialects, s = encodeIn d (Utf8.encode v) := by
  unfold decodeBase64Target at decoded
  split at decoded
  · cases decoded
  · rename_i bytes found
    obtain ⟨d, mem, read⟩ := List.exists_of_findSome?_eq_some found
    split at decoded
    · rename_i text utf8
      cases decoded
      rw [Utf8.decode?_eq_some_iff.mp utf8]
      exact ⟨d, mem, pathDialects_canonical.encodeIn_of_decode d mem read⟩
    · cases decoded

/-- A base64 path segment names the text `v` exactly when it is `v`'s UTF-8 bytes written in one
of the path dialects. -/
theorem decodeBase64Target_eq_ok_iff (s v : String) :
    decodeBase64Target s = .ok v ↔ ∃ d ∈ pathDialects, s = encodeIn d (Utf8.encode v) := by
  constructor
  · exact encodeIn_of_decodeBase64Target
  · rintro ⟨d, mem, rfl⟩
    exact decodeBase64Target_encodeIn mem v

/- `aHR0cDovL2EvYg` is `http://a/b` in URL-safe base64 unpadded; with a last symbol whose unused
bits are not zero it is no dialect's writing. -/
example : decodeBase64Target "aHR0cDovL2EvYg" = .ok "http://a/b" := by decide +kernel

example : decodeBase64Target "aHR0cDovL2EvYh" = .error (.badRequest "Invalid base64 path") := by
  decide +kernel

end ChunkProxy.Handler
