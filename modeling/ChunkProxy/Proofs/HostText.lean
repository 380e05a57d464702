import ChunkProxy.Url.Host
import ChunkProxy.Proofs.ChunkPaths
import Mathlib.Data.List.TakeWhile
import Mathlib.Data.List.Induction
/-!
# Host texts read back

Between the credentials and the port of a special URL stands the text of its host
(`Host.serialize`).  The reader of special hosts gives only canonical hosts
(`parseSpecialHost_canonical`): a domain free of forbidden characters whose last label is no
number, an IPv4 address of 32 bits, or eight IPv6 pieces of 16 bits.  Canonical hosts and
their ports are told apart by the text they make (`Host.Canonical.serialize_portText_inj`):

* an IPv6 address is written in lowercase hexadecimal with its first longest run of zero
  pieces as `::`, and reading the text back gives the pieces (`parseIpv6_ipv6Text`); the
  text holds no bracket, so it ends where the port begins;
* an IPv4 address is written as four decimal bytes between dots (`ipv4Text_inj`); its last
  label is a number (`endsInNumber_ipv4Text`), which no canonical domain's is;
* a domain or an IPv4 address holds no colon, so it ends where the port begins.

Every split is made where a stop character first stands (`append_inj_of_stop`).
-/

namespace ChunkProxy.Url

set_option autoImplicit false

/-! ## Reading text back at a stop character -/

/-- Texts that run up to a stop character, each followed by a rest that starts at one (or is
empty), are told apart there: equal joins have equal parts. -/
theorem append_inj_of_stop {p : Char → Bool} :
    ∀ {a a' b b' : List Char}, (∀ c ∈ a, p c = false) → (∀ c ∈ a', p c = false) →
      (∀ c ∈ b.head?, p c = true) → (∀ c ∈ b'.head?, p c = true) → a ++ b = a' ++ b' → a = a' ∧ b = b'
  | [], [], _, _, _, _, _, _, same => ⟨rfl, same⟩
  | [], c :: a', _, _, _, inside', stop, _, same => by
    rw [List.nil_append] at same
    subst same
    have := stop c rfl
    rw [inside' c List.mem_cons_self] at this
    cases this
  | c :: a, [], _, _, inside, _, _, stop', same => by
    rw [List.nil_append] at same
    subst same
    have := stop' c rfl
    rw [inside c List.mem_cons_self] at this
    cases this
  | c :: a, c' :: a', _, _, inside, inside', stop, stop', same => by
    simp only [List.cons_append, List.cons.injEq] at same
    obtain ⟨rfl, rest⟩ := same
    obtain ⟨rfl, rfl⟩ := append_inj_of_stop (fun x mem => inside x (List.mem_cons_of_mem c mem))
      (fun x mem => inside' x (List.mem_cons_of_mem c mem)) stop stop' rest
    exact ⟨rfl, rfl⟩

/-- A text without a character never stops at it. -/
theorem stop_free {x : Char} {s : List Char} (absent : x ∉ s) : ∀ c ∈ s, (c == x) = false := by
  intro c mem
  simpa using fun same : c = x => absent (same ▸ mem)

/-! ## Hexadecimal numbers -/

theorem digitIn_digitChar : ∀ d, d < 16 → digitIn 16 (Nat.digitChar d) = some d := by decide

theorem toDigits_split {b n : Nat} (base : 1 < b) (large : ¬ n < b) :
    Nat.toDigits b n = Nat.toDigits b (n / b) ++ [Nat.digitChar (n % b)] := by
  rw [← Nat.toDigits_of_lt_base (Nat.mod_lt n (by omega)),
    Nat.toDigits_append_toDigits base (Nat.div_pos (by omega) (by omega)) (Nat.mod_lt n (by omega)), Nat.div_add_mod]

theorem readRadix_append_digit (cs : List Char) {d : Nat} (small : d < 16) :
    readRadix 16 (cs ++ [Nat.digitChar d]) = (readRadix 16 cs).map (· * 16 + d) := by
  unfold readRadix
  rw [List.foldlM_append]
  cases cs.foldlM (fun acc c => (digitIn 16 c).map (acc * 16 + ·)) 0 with
  | none => rfl
  | some v => simp [digitIn_digitChar d small]

theorem readRadix_toDigits (n : Nat) : readRadix 16 (Nat.toDigits 16 n) = some n := by
  induction n using Nat.strong_induction_on with
  | _ n ih =>
    by_cases small : n < 16
    · rw [Nat.toDigits_of_lt_base small]
      simp [readRadix, digitIn_digitChar n small]
    · rw [toDigits_split (by decide) small, readRadix_append_digit _ (Nat.mod_lt n (by decide)), ih (n / 16) (by omega)]
      simp [Nat.div_add_mod']

/-- A numeral is made of the digits of its base. -/
theorem mem_toDigits {c : Char} {b n : Nat} (base : 1 < b) (mem : c ∈ Nat.toDigits b n) :
    ∃ d < b, c = Nat.digitChar d := by
  induction n using Nat.strong_induction_on with
  | _ n ih =>
    by_cases small : n < b
    · rw [Nat.toDigits_of_lt_base small, List.mem_singleton] at mem
      exact ⟨n, small, mem⟩
    · rw [toDigits_split base small, List.mem_append, List.mem_singleton] at mem
      rcases mem with earlier | last
      · exact ih (n / b) (Nat.div_lt_self (by omega) base) earlier
      · exact ⟨n % b, Nat.mod_lt n (by omega), last⟩

theorem digitChar_ne_colon : ∀ d, d < 16 → Nat.digitChar d ≠ ':' := by decide
theorem digitChar_ne_dot : ∀ d, d < 16 → Nat.digitChar d ≠ '.' := by decide

/-! ## Colon-separated pieces -/

/-- The characters of pieces written in hexadecimal and joined by colons. -/
theorem toList_join (qs : List Nat) :
    (":".intercalate (qs.map hexLower)).toList = [':'].intercalate (qs.map (Nat.toDigits 16)) := by
  rw [String.toList_intercalate, List.map_map, show ":".toList = [':'] from rfl]
  congr 2
  funext n
  simp [hexLower]

theorem intercalate_ne_nil (sep : List Char) {g : List Char} (gs : List (List Char)) (nonempty : g ≠ []) :
    sep.intercalate (g :: gs) ≠ [] := by
  cases gs with
  | nil => simpa using nonempty
  | cons g' gs => simp [List.intercalate_cons_cons, nonempty]

theorem colon_not_mem_toDigits (n : Nat) : ':' ∉ Nat.toDigits 16 n := fun mem => by
  obtain ⟨d, small, same⟩ := mem_toDigits (by decide) mem
  exact digitChar_ne_colon d small same.symm

theorem ipv6Pieces_join (qs : List Nat) (small : ∀ q ∈ qs, q < 65536) (lastSide : Bool) :
    ipv6Pieces (":".intercalate (qs.map hexLower)).toList lastSide = some qs := by
  unfold ipv6Pieces
  rw [toList_join]
  cases qs with
  | nil => rfl
  | cons q rest =>
    have nonempty := intercalate_ne_nil [':'] (rest.map (Nat.toDigits 16))
      (List.ne_nil_of_length_pos (Nat.length_toDigits_pos (b := 16) (n := q)))
    rw [List.map_cons, if_neg (by simpa using nonempty)]
    dsimp only
    rw [← List.map_cons, List.splitOn_intercalate ':' (fun l mem => by
        obtain ⟨n, -, rfl⟩ := List.mem_map.mp mem
        exact colon_not_mem_toDigits n) (by simp),
      List.zipIdx_map, List.mapM_map, mapM_eq_some_map (g := fun x => [x.1])]
    · rw [Option.map_some, ← List.flatMap_def, ← List.map_eq_flatMap, List.zipIdx_map_fst]
    · rintro ⟨p, i⟩ mem
      have fits : p < 65536 := small p (List.fst_mem_of_mem_zipIdx mem)
      have short : (Nat.toDigits 16 p).length ≤ 4 := (Nat.length_toDigits_le_iff (by decide) (by decide)).mpr fits
      have noDot : '.' ∉ Nat.toDigits 16 p := fun dot => by
        obtain ⟨d, digit, same⟩ := mem_toDigits (by decide) dot
        exact digitChar_ne_dot d digit same.symm
      simp [Function.comp, List.isEmpty_iff, Nat.toDigits_ne_nil, noDot, short, readRadix_toDigits]

/-! ## The compressed run -/

/-- Before its first `::`, a text without colons is carried over whole. -/
theorem splitCompress_colonFree {g : List Char} (free : ':' ∉ g) (rest : List Char) :
    splitCompress (g ++ rest) = (splitCompress rest).map fun (l, r) => (g ++ l, r) := by
  induction g with
  | nil => simp
  | cons c g ih =>
    have first : c ≠ ':' := fun same => free (same ▸ List.mem_cons_self)
    rw [List.cons_append, splitCompress.eq_3 _ _ (fun _ same _ => first same), ih (fun mem => free (List.mem_cons_of_mem c mem))]
    cases splitCompress rest <;> rfl

theorem splitCompress_colon {rest : List Char} (single : rest.head? ≠ some ':') :
    splitCompress (':' :: rest) = (splitCompress rest).map fun (l, r) => (':' :: l, r) := by
  rw [splitCompress.eq_3 _ _ (fun _ _ more => single (by simp [more]))]

/-- Colon-separated groups without colons are carried over whole before the first `::`
that follows them. -/
theorem splitCompress_intercalate : ∀ (groups : List (List Char)), (∀ g ∈ groups, g ≠ [] ∧ ':' ∉ g) →
    ∀ rest, splitCompress ([':'].intercalate groups ++ rest) =
      (splitCompress rest).map fun (l, r) => ([':'].intercalate groups ++ l, r)
  | [], _, rest => by simp
  | [g], groups, rest => by
    rw [List.intercalate_singleton]
    exact splitCompress_colonFree (groups g (by simp)).2 rest
  | g :: g' :: gs, groups, rest => by
    obtain ⟨c, cs, rfl⟩ := List.exists_cons_of_ne_nil (groups g' (by simp)).1
    have next : c ≠ ':' := by
      rintro rfl
      exact (groups (':' :: cs) (by simp)).2 List.mem_cons_self
    have head : ([':'].intercalate ((c :: cs) :: gs) ++ rest).head? ≠ some ':' := by
      cases gs <;> simp [List.intercalate_cons_cons, next]
    rw [List.intercalate_cons_cons, List.append_assoc, List.append_assoc,
      splitCompress_colonFree (groups g (by simp)).2, List.singleton_append, splitCompress_colon head,
      splitCompress_intercalate ((c :: cs) :: gs) (fun h mem => groups h (List.mem_cons_of_mem _ mem)) rest]
    cases splitCompress rest <;> simp

/-! ## The longest run of zero pieces -/

/-- What a step of a left fold keeps, the whole fold keeps. -/
theorem foldl_invariant {α β : Type} (P : β → Prop) (f : β → α → β) (step : ∀ b a, P b → P (f b a)) :
    ∀ (l : List α) (b : β), P b → P (l.foldl f b)
  | [], _, holds => holds
  | a :: l, b, holds => foldl_invariant P f step l (f b a) (step b a holds)

/-- A run of zero pieces that `zeroRun` may pick: at least two pieces, and all the zeros
from its start. -/
def ZeroRunAt (ps : List Nat) : Option (Nat × Nat) → Prop
  | some (i, len) => 2 ≤ len ∧ len = ((ps.drop i).takeWhile (· == 0)).length
  | none => True

theorem zeroRunAt_zeroRun (ps : List Nat) : ZeroRunAt ps (zeroRun ps) := by
  unfold zeroRun
  apply foldl_invariant _ _ _ _ _ trivial
  rintro best ⟨p, j⟩ found
  dsimp only
  split
  · exact found
  · split
    · rename_i k bl
      split
      · exact ⟨by simp only [ZeroRunAt] at found; omega, rfl⟩
      · exact found
    · split
      · exact ⟨by omega, rfl⟩
      · trivial

/-- The run `zeroRun` picks: at least two zero pieces inside the address. -/
theorem zeroRun_spec {ps : List Nat} {i len : Nat} (run : zeroRun ps = some (i, len)) :
    2 ≤ len ∧ i + len ≤ ps.length ∧ ps = ps.take i ++ List.replicate len 0 ++ ps.drop (i + len) := by
  have found := zeroRunAt_zeroRun ps
  rw [run] at found
  obtain ⟨long, length⟩ := found
  -- the run is the zeros at the start of what follows its first piece
  have start : (ps.drop i).take len = (ps.drop i).takeWhile (· == 0) :=
    calc (ps.drop i).take len
        = ((ps.drop i).takeWhile (· == 0) ++ (ps.drop i).dropWhile (· == 0)).take len := by
          rw [List.takeWhile_append_dropWhile]
      _ = (ps.drop i).takeWhile (· == 0) := List.take_left' length.symm
  have zeros : (ps.drop i).take len = List.replicate len 0 := by
    rw [start, List.eq_replicate_iff]
    exact ⟨length.symm, fun b mem => by simpa using List.mem_takeWhile_imp mem⟩
  have inside : len ≤ ps.length - i := by
    rw [length, ← List.length_drop]
    exact (List.takeWhile_sublist _).length_le
  refine ⟨long, by omega, ?_⟩
  calc ps = ps.take i ++ ((ps.drop i).take len ++ (ps.drop i).drop len) := by
        rw [List.take_append_drop, List.take_append_drop]
    _ = ps.take i ++ List.replicate len 0 ++ ps.drop (i + len) := by
        rw [zeros, List.drop_drop, List.append_assoc]

/-! ## Reading back an IPv6 address -/

theorem groups_toDigits (qs : List Nat) : ∀ g ∈ qs.map (Nat.toDigits 16), g ≠ [] ∧ ':' ∉ g := by
  intro g mem
  obtain ⟨n, -, rfl⟩ := List.mem_map.mp mem
  exact ⟨List.ne_nil_of_length_pos Nat.length_toDigits_pos, colon_not_mem_toDigits n⟩

/-- The text of an IPv6 address reads back as its eight pieces. -/
theorem parseIpv6_ipv6Text {ps : List Nat} (eight : ps.length = 8) (small : ∀ p ∈ ps, p < 65536) :
    parseIpv6 (ipv6Text ps).toList = .ok ps := by
  unfold ipv6Text
  cases run : zeroRun ps with
  | none =>
    have uncompressed : splitCompress (":".intercalate (ps.map hexLower)).toList = none := by
      have carried := splitCompress_intercalate _ (groups_toDigits ps) []
      rw [List.append_nil] at carried
      rw [toList_join, carried]
      rfl
    dsimp only
    unfold parseIpv6
    rw [uncompressed, ipv6Pieces_join ps small true]
    simp [eight]
  | some picked =>
    obtain ⟨i, len⟩ := picked
    obtain ⟨long, inside, whole⟩ := zeroRun_spec run
    have before : ∀ p ∈ ps.take i, p < 65536 := fun p mem => small p (List.mem_of_mem_take mem)
    have after : ∀ p ∈ ps.drop (i + len), p < 65536 := fun p mem => small p (List.mem_of_mem_drop mem)
    -- the text is the pieces before the run, `::`, and the pieces after it
    have compressed : splitCompress (":".intercalate ((ps.take i).map hexLower) ++ "::" ++
        ":".intercalate ((ps.drop (i + len)).map hexLower)).toList =
        some ((":".intercalate ((ps.take i).map hexLower)).toList,
          (":".intercalate ((ps.drop (i + len)).map hexLower)).toList) := by
      rw [String.toList_append, String.toList_append, show "::".toList = [':', ':'] from rfl,
        List.append_assoc, toList_join (ps.take i), splitCompress_intercalate _ (groups_toDigits _),
        List.cons_append, List.cons_append, List.nil_append, splitCompress.eq_2]
      simp
    dsimp only
    unfold parseIpv6
    rw [compressed]
    dsimp only
    rw [ipv6Pieces_join _ before false, ipv6Pieces_join _ after true]
    dsimp only
    have counted : (ps.take i).length + (ps.drop (i + len)).length ≤ 7 := by
      simp only [List.length_take, List.length_drop]
      omega
    rw [if_pos counted]
    have zeros : 8 - (ps.take i).length - (ps.drop (i + len)).length = len := by
      simp only [List.length_take, List.length_drop]
      omega
    rw [zeros, ← whole]

/-! ## The pieces an IPv6 address is read as -/

/-- Every value a successful `mapM` gives comes from some element. -/
theorem mem_of_mapM_some {α β : Type} {f : α → Option β} :
    ∀ {l : List α} {r : List β}, l.mapM f = some r → ∀ y ∈ r, ∃ x ∈ l, f x = some y
  | [], r, read, y, mem => by
    cases read
    simp at mem
  | a :: l, r, read, y, mem => by
    rw [List.mapM_cons] at read
    obtain ⟨b, first, rest⟩ := Option.bind_eq_some_iff.mp read
    obtain ⟨bs, others, built⟩ := Option.bind_eq_some_iff.mp rest
    cases built
    rcases List.mem_cons.mp mem with rfl | later
    · exact ⟨a, List.mem_cons_self, first⟩
    · obtain ⟨x, inside, gives⟩ := mem_of_mapM_some others y later
      exact ⟨x, List.mem_cons_of_mem a inside, gives⟩

theorem digitIn_lt {radix d : Nat} {c : Char} (read : digitIn radix c = some d) : d < radix := by
  unfold digitIn at read
  split at read
  · split at read
    · cases read
      assumption
    · cases read
  · cases read

/-- A number read from digits is below the radix raised to their count, scaled by what was
already read. -/
theorem foldlM_digits_lt {radix : Nat} :
    ∀ (cs : List Char) (acc v : Nat),
      cs.foldlM (fun acc c => (digitIn radix c).map (acc * radix + ·)) acc = some v →
      v < (acc + 1) * Nat.pow radix cs.length
  | [], acc, v, read => by
    cases read
    simp
  | c :: cs, acc, v, read => by
    rw [List.foldlM_cons] at read
    obtain ⟨acc', digit, rest⟩ := Option.bind_eq_some_iff.mp read
    obtain ⟨d, read_d, rfl⟩ := Option.map_eq_some_iff.mp digit
    have small := digitIn_lt read_d
    have bound := foldlM_digits_lt cs _ v rest
    have next : acc * radix + d + 1 ≤ (acc + 1) * radix := by
      rw [Nat.add_mul]
      omega
    calc v < (acc * radix + d + 1) * Nat.pow radix cs.length := bound
      _ ≤ (acc + 1) * radix * Nat.pow radix cs.length := Nat.mul_le_mul_right _ next
      _ = (acc + 1) * Nat.pow radix (c :: cs).length := by
        rw [List.length_cons, Nat.mul_assoc, Nat.mul_comm radix]
        rfl

theorem readRadix_lt {radix v : Nat} {cs : List Char} (read : readRadix radix cs = some v) :
    v < Nat.pow radix cs.length := by
  simpa using foldlM_digits_lt cs 0 v read

/-- An embedded dotted quad gives two pieces of 16 bits. -/
theorem embeddedIpv4_lt {g : List Char} {qs : List Nat} (read : embeddedIpv4 g = some qs) :
    ∀ q ∈ qs, q < 65536 := by
  unfold embeddedIpv4 at read
  extract_lets parts at read
  split at read
  · cases read
  · rename_i jp four
    simp only [jp] at read
    obtain ⟨nums, parsed, picked⟩ := Option.bind_eq_some_iff.mp read
    have bytes : ∀ n ∈ nums, n ≤ 255 := by
      intro n mem
      obtain ⟨p, -, gives⟩ := mem_of_mapM_some parsed n mem
      split at gives
      · cases gives
      · cases gives
      · split at gives
        · split at gives
          · cases gives
            assumption
          · cases gives
        · cases gives
    split at picked
    · rename_i a b c d
      cases picked
      have := bytes a (by simp)
      have := bytes b (by simp)
      have := bytes c (by simp)
      have := bytes d (by simp)
      simp only [List.mem_cons, List.not_mem_nil, or_false]
      omega
    · cases picked
/-- Every piece read from one side of an IPv6 address fits 16 bits. -/
theorem ipv6Pieces_lt {cs : List Char} {lastSide : Bool} {qs : List Nat}
    (read : ipv6Pieces cs lastSide = some qs) : ∀ q ∈ qs, q < 65536 := by
  unfold ipv6Pieces at read
  split at read
  · cases read
    simp
  · obtain ⟨lists, parsed, rfl⟩ := Option.map_eq_some_iff.mp read
    intro q mem
    obtain ⟨l, listed, inside⟩ := List.mem_flatten.mp mem
    obtain ⟨⟨g, i⟩, -, gives⟩ := mem_of_mapM_some parsed l listed
    dsimp only at gives
    split at gives
    · cases gives
    · split at gives
      · split at gives
        · exact embeddedIpv4_lt gives q inside
        · cases gives
      · split at gives
        · rename_i short
          obtain ⟨v, read_v, rfl⟩ := Option.map_eq_some_iff.mp gives
          rw [List.mem_singleton.mp inside]
          calc v < Nat.pow 16 g.length := readRadix_lt read_v
            _ ≤ Nat.pow 16 4 := Nat.pow_le_pow_right (by decide) short
            _ = 65536 := by decide
        · cases gives

/-- An IPv6 address is read as eight pieces of 16 bits. -/
theorem parseIpv6_spec {cs : List Char} {ps : List Nat} (read : parseIpv6 cs = .ok ps) :
    ps.length = 8 ∧ ∀ p ∈ ps, p < 65536 := by
  unfold parseIpv6 at read
  split at read
  · split at read
    · rename_i left right l r readLeft readRight
      split at read
      · rename_i few
        cases read
        refine ⟨by simp; omega, ?_⟩
        intro p mem
        simp only [List.mem_append, List.mem_replicate] at mem
        rcases mem with (early | ⟨-, rfl⟩) | late
        · exact ipv6Pieces_lt readLeft p early
        · decide
        · exact ipv6Pieces_lt readRight p late
      · cases read
    · cases read
  · split at read
    · rename_i qs whole
      split at read
      · rename_i eight
        cases read
        exact ⟨by simpa using eight, ipv6Pieces_lt whole⟩
      · cases read
    · cases read

/-! ## IPv4 addresses -/

theorem length_mapM_ok {α β ε : Type} {f : α → Except ε β} :
    ∀ {l : List α} {r : List β}, l.mapM f = .ok r → r.length = l.length
  | [], r, read => by
    cases read
    rfl
  | a :: l, r, read => by
    rw [List.mapM_cons] at read
    cases first : f a with
    | error e => simp [first, bind, Except.bind] at read
    | ok b =>
      cases rest : l.mapM f with
      | error e => simp [first, rest, bind, Except.bind] at read
      | ok bs =>
        simp only [first, rest, bind, Except.bind, pure, Except.pure, Except.ok.injEq] at read
        subst read
        simp [length_mapM_ok rest]

/-- Adding to the start of a weighted sum adds to its value. -/
theorem foldl_weighted_shift (w : Nat → Nat) (l : List Nat) (start c : Nat) :
    l.zipIdx.foldl (fun acc (y : Nat × Nat) => acc + y.1 * w y.2) (start + c) =
      l.zipIdx.foldl (fun acc (y : Nat × Nat) => acc + y.1 * w y.2) start + c := by
  generalize l.zipIdx = ys
  induction ys generalizing start with
  | nil => rfl
  | cons y ys ih =>
    simp only [List.foldl_cons]
    rw [← ih]
    congr 1
    omega

/-- Leading bytes and a last part that fills the bytes they leave make a 32-bit address. -/
theorem ipv4Value_lt : ∀ (parts : List Nat) (last : Nat), parts.length ≤ 4 → (∀ p ∈ parts, p ≤ 255) →
    last < Nat.pow 256 (4 - parts.length) →
    parts.zipIdx.foldl (fun acc (y : Nat × Nat) => acc + y.1 * Nat.pow 256 (3 - y.2)) last < Nat.pow 256 4 := by
  intro parts
  -- the last leading byte is the lowest: fold it into the last part and go on without it
  induction parts using List.reverseRecOn with
  | nil =>
    intro last _ _ fits
    simpa using fits
  | append_singleton init e ih =>
    intro last short bytes fits
    simp only [List.length_append, List.length_singleton] at short fits
    rw [List.zipIdx_append, List.foldl_append, List.zipIdx_singleton, List.foldl_cons, List.foldl_nil,
      Nat.zero_add, ← foldl_weighted_shift (fun i => Nat.pow 256 (3 - i))]
    rw [show 4 - (init.length + 1) = 3 - init.length by omega] at fits
    have step : Nat.pow 256 (4 - init.length) = Nat.pow 256 (3 - init.length) * 256 := by
      rw [show 4 - init.length = (3 - init.length) + 1 by omega]
      rfl
    have scaled : e * Nat.pow 256 (3 - init.length) ≤ 255 * Nat.pow 256 (3 - init.length) :=
      Nat.mul_le_mul_right _ (bytes e (by simp))
    apply ih _ (by omega) (fun p mem => bytes p (by simp [mem]))
    rw [step]
    dsimp only
    omega

/-- An address read in the classic notations fits 32 bits. -/
theorem parseIpv4_lt {d : String} {a : Nat} (read : parseIpv4 d = .ok a) : a < Nat.pow 2 32 := by
  unfold parseIpv4 at read
  extract_lets pieces parts at read
  split at read
  · cases read
  · rename_i jp few
    simp only [jp, bind, Except.bind, pure, Except.pure] at read
    split at read
    · cases read
    · rename_i numbers parsed
      have counted := length_mapM_ok parsed
      split at read
      · cases read
      · rename_i last earlier reversed
        have short : earlier.length ≤ 3 := by
          have := congrArg List.length reversed
          simp only [List.length_reverse, List.length_cons] at this
          omega
        split at read
        · contradiction
        · rename_i fits
          split at read
          · contradiction
          · rename_i bytes
            cases read
            simp only [List.any_eq_true, gt_iff_lt, decide_eq_true_eq, not_exists, not_and, not_lt] at bytes
            simp only [ge_iff_le, not_le] at fits
            have value := ipv4Value_lt earlier.reverse last (by simp; omega) bytes fits
            rwa [show Nat.pow 256 4 = Nat.pow 2 32 by decide] at value

theorem dot_not_mem_showNat (n : Nat) : '.' ∉ (showNat n).toList := by
  simpa [showNat] using Cache.not_mem_toDigits (c := '.') (by decide) n

/-- The dotted text of an address splits at its dots into the decimal texts of its four bytes. -/
theorem splitOn_dot_ipv4Text (a : Nat) :
    (ipv4Text a).splitOn "." =
      [a / Nat.pow 2 24 % 256, a / Nat.pow 2 16 % 256, a / Nat.pow 2 8 % 256, a % 256].map showNat := by
  unfold ipv4Text
  rw [show "." = String.singleton '.' from rfl, splitOn_char, String.toList_intercalate,
    show (String.singleton '.').toList = ['.'] from rfl, List.map_map,
    List.splitOn_intercalate '.' ?_ (by simp)]
  · simp
  simp only [List.mem_map]
  rintro l ⟨n, -, rfl⟩
  exact dot_not_mem_showNat n

theorem showNat_ne_empty (n : Nat) : showNat n ≠ "" := by
  simp [showNat, ← String.toList_inj, Nat.toDigits_ne_nil]

/-- The last label of a dotted address is a number. -/
theorem endsInNumber_ipv4Text (a : Nat) : endsInNumber (ipv4Text a) = true := by
  have digits : ∀ c ∈ (showNat (a % 256)).toList, c.isDigit = true := by
    intro c mem
    have digit : c ∈ Nat.toDigits 10 (a % 256) := by simpa [showNat] using mem
    exact Nat.isDigit_of_mem_toDigits (by decide) (by decide) digit
  unfold endsInNumber
  simp only [splitOn_dot_ipv4Text]
  simp [showNat_ne_empty]
  exact .inl digits

theorem showNat_injective : Function.Injective showNat := fun a b same =>
  Cache.toDigits_ten_injective (by simpa [showNat] using congrArg String.toList same)

/-- A 32-bit address is told by its dotted text. -/
theorem ipv4Text_inj {a a' : Nat} (fits : a < Nat.pow 2 32) (fits' : a' < Nat.pow 2 32)
    (same : ipv4Text a = ipv4Text a') : a = a' := by
  have bytes := congrArg (String.splitOn · ".") same
  simp only [splitOn_dot_ipv4Text, List.map_cons, List.map_nil, List.cons.injEq] at bytes
  obtain ⟨b3, b2, b1, b0, -⟩ := bytes
  replace b3 := showNat_injective b3
  replace b2 := showNat_injective b2
  replace b1 := showNat_injective b1
  replace b0 := showNat_injective b0
  rw [show Nat.pow 2 32 = 4294967296 by decide] at fits fits'
  rw [show Nat.pow 2 24 = 16777216 by decide] at b3
  rw [show Nat.pow 2 16 = 65536 by decide] at b2
  rw [show Nat.pow 2 8 = 256 by decide] at b1
  omega

/-! ## Hosts as the reader of special hosts gives them -/

/-- A host as a special URL holds it: a domain free of forbidden characters whose last label
is no number, a 32-bit IPv4 address, or eight 16-bit IPv6 pieces. -/
def Host.Canonical : Host → Prop
  | .domain name => (∀ c ∈ name.toList, forbiddenInDomain c = false) ∧ endsInNumber name = false
  | .ipv4 a => a < Nat.pow 2 32
  | .ipv6 ps => ps.length = 8 ∧ ∀ p ∈ ps, p < 65536

theorem ok_of_map_ok {ε α β : Type} {f : α → β} {x : Except ε α} {y : β} (mapped : x.map f = .ok y) :
    ∃ a, x = .ok a ∧ y = f a := by
  cases x with
  | error e => cases mapped
  | ok a =>
    cases mapped
    exact ⟨a, rfl, rfl⟩

/-- Every host the reader of special hosts gives is canonical. -/
theorem parseSpecialHost_canonical {cs : List Char} {h : Host} (read : parseSpecialHost cs = .ok h) :
    h.Canonical := by
  unfold parseSpecialHost at read
  split at read
  · unfold parseBracketed at read
    split at read
    · cases read
    · obtain ⟨ps, pieces, rfl⟩ := ok_of_map_ok read
      exact parseIpv6_spec pieces
  · dsimp only at read
    split at read
    · cases read
    · rename_i domain _
      split at read
      · cases read
      · split at read
        · cases read
        · rename_i allowed
          split at read
          · obtain ⟨a, address, rfl⟩ := ok_of_map_ok read
            exact parseIpv4_lt address
          · rename_i plain
            cases read
            simp only [List.any_eq_true, not_exists, not_and, Bool.not_eq_true] at allowed
            exact ⟨allowed, by simpa using plain⟩

/-! ## Host texts -/

theorem mem_intercalate {sep : List Char} :
    ∀ {ls : List (List Char)} {c : Char}, c ∈ sep.intercalate ls → c ∈ sep ∨ ∃ l ∈ ls, c ∈ l
  | [], _, mem => by simp at mem
  | [l], _, mem => .inr ⟨l, List.mem_singleton_self l, by simpa using mem⟩
  | l :: l' :: ls, c, mem => by
    rw [List.intercalate_cons_cons, List.mem_append, List.mem_append] at mem
    rcases mem with (first | sep_mem) | later
    · exact .inr ⟨l, List.mem_cons_self, first⟩
    · exact .inl sep_mem
    · rcases mem_intercalate later with sep_mem | ⟨m, inside, mem⟩
      · exact .inl sep_mem
      · exact .inr ⟨m, List.mem_cons_of_mem l inside, mem⟩

/-- Pieces in hexadecimal joined by colons are hexadecimal digits and colons. -/
theorem mem_toList_join {qs : List Nat} {c : Char} (mem : c ∈ (":".intercalate (qs.map hexLower)).toList) :
    c = ':' ∨ ∃ d < 16, c = Nat.digitChar d := by
  rw [toList_join] at mem
  rcases mem_intercalate mem with colon | ⟨l, listed, inside⟩
  · exact .inl (List.mem_singleton.mp colon)
  · obtain ⟨n, -, rfl⟩ := List.mem_map.mp listed
    exact .inr (mem_toDigits (by decide) inside)

/-- An IPv6 text is hexadecimal digits and colons. -/
theorem mem_ipv6Text {ps : List Nat} {c : Char} (mem : c ∈ (ipv6Text ps).toList) :
    c = ':' ∨ ∃ d < 16, c = Nat.digitChar d := by
  unfold ipv6Text at mem
  split at mem
  · simp only [String.toList_append, List.mem_append] at mem
    rcases mem with (before | run) | after
    · exact mem_toList_join before
    · exact .inl (by simpa using run)
    · exact mem_toList_join after
  · exact mem_toList_join mem

theorem mem_showNat {c : Char} {n : Nat} (mem : c ∈ (showNat n).toList) : ∃ d < 10, c = Nat.digitChar d :=
  mem_toDigits (by decide) (by simpa [showNat] using mem)

/-- A dotted text is decimal digits and dots. -/
theorem mem_ipv4Text {a : Nat} {c : Char} (mem : c ∈ (ipv4Text a).toList) :
    c = '.' ∨ ∃ d < 10, c = Nat.digitChar d := by
  unfold ipv4Text at mem
  rw [String.toList_intercalate] at mem
  rcases mem_intercalate mem with dot | ⟨l, listed, inside⟩
  · exact .inl (by simpa using dot)
  · simp only [List.map_map, List.mem_map] at listed
    obtain ⟨n, -, rfl⟩ := listed
    exact .inr (mem_showNat inside)

/-- A port text is a colon and decimal digits. -/
theorem mem_portText {u : Url} {c : Char} (mem : c ∈ u.portText.toList) :
    c = ':' ∨ ∃ d < 10, c = Nat.digitChar d := by
  unfold portText at mem
  split at mem
  · rw [String.toList_append, List.mem_append] at mem
    rcases mem with colon | digit
    · exact .inl (by simpa using colon)
    · exact .inr (mem_showNat digit)
  · simp at mem

theorem portText_head (u : Url) : ∀ c ∈ u.portText.toList.head?, (c == ':') = true := by
  unfold portText
  split <;> simp

theorem portText_inj {u u' : Url} (same : u.portText = u'.portText) : u.port = u'.port := by
  unfold portText at same
  split at same <;> split at same
  · rename_i p port _ p' port'
    rw [port, port', showNat_injective ((String.append_right_inj ":").mp same)]
  · simp [← String.toList_inj] at same
  · simp [← String.toList_inj] at same
  · rename_i port _ port'
    rw [port, port']

theorem digitChar_allowed : ∀ d < 16, forbiddenInDomain (Nat.digitChar d) = false := by decide

/-- A domain or an IPv4 address is written with characters allowed in a domain. -/
theorem Host.Canonical.allowed_of_plain {h : Host} (canon : h.Canonical) (plain : ∀ ps, h ≠ .ipv6 ps)
    {c : Char} (mem : c ∈ h.serialize.toList) : forbiddenInDomain c = false := by
  cases h with
  | domain name => exact canon.1 c mem
  | ipv4 a =>
    rcases mem_ipv4Text mem with rfl | ⟨d, small, rfl⟩
    · decide
    · exact digitChar_allowed d (by omega)
  | ipv6 ps => exact absurd rfl (plain ps)

/-- A canonical host is written with characters allowed in a domain, and the colons and
brackets of an IPv6 address. -/
theorem Host.Canonical.mem_serialize {h : Host} (canon : h.Canonical) {c : Char} (mem : c ∈ h.serialize.toList) :
    forbiddenInDomain c = false ∨ c ∈ [':', '[', ']'] := by
  cases h with
  | domain name => exact .inl (canon.1 c mem)
  | ipv4 a => exact .inl (canon.allowed_of_plain (fun _ => Host.noConfusion) mem)
  | ipv6 ps =>
    simp only [Host.serialize, String.toList_append, List.mem_append] at mem
    rcases mem with (bracket | inside) | bracket
    · exact .inr (by simp_all)
    · rcases mem_ipv6Text inside with rfl | ⟨d, small, rfl⟩
      · exact .inr (by simp)
      · exact .inl (digitChar_allowed d small)
    · exact .inr (by simp_all)

/-- Domains and IPv4 addresses are told apart by their texts: the last label of a canonical
domain is no number, that of a dotted address is. -/
theorem Host.Canonical.serialize_inj_of_plain {h h' : Host} (canon : h.Canonical) (canon' : h'.Canonical)
    (plain : ∀ ps, h ≠ .ipv6 ps) (plain' : ∀ ps, h' ≠ .ipv6 ps) (same : h.serialize = h'.serialize) :
    h = h' := by
  cases h with
  | domain name =>
    cases h' with
    | domain name' => exact congrArg Host.domain same
    | ipv4 a' =>
      have numbered := endsInNumber_ipv4Text a'
      rw [← show name = ipv4Text a' from same, canon.2] at numbered
      cases numbered
    | ipv6 ps' => exact absurd rfl (plain' ps')
  | ipv4 a =>
    cases h' with
    | domain name' =>
      have numbered := endsInNumber_ipv4Text a
      rw [show ipv4Text a = name' from same, canon'.2] at numbered
      cases numbered
    | ipv4 a' => exact congrArg Host.ipv4 (ipv4Text_inj canon canon' same)
    | ipv6 ps' => exact absurd rfl (plain' ps')
  | ipv6 ps => exact absurd rfl (plain ps)

/-- A character allowed in a domain is none of the forbidden ones. -/
theorem ne_of_allowed {c x : Char} (allowed : forbiddenInDomain c = false) (forbidden : forbiddenInDomain x = true) :
    (c == x) = false := by
  simpa using fun same : c = x => by rw [same, forbidden] at allowed; cases allowed

/-- A domain or an IPv4 address runs up to the colon of its port. -/
theorem Host.Canonical.portText_inj_of_plain {h h' : Host} (canon : h.Canonical) (canon' : h'.Canonical)
    (plain : ∀ ps, h ≠ .ipv6 ps) (plain' : ∀ ps, h' ≠ .ipv6 ps) {u u' : Url}
    (same : (h.serialize ++ u.portText).toList = (h'.serialize ++ u'.portText).toList) :
    h = h' ∧ u.port = u'.port := by
  have noColon : ∀ {k : Host}, k.Canonical → (∀ ps, k ≠ .ipv6 ps) → ∀ c ∈ k.serialize.toList, (c == ':') = false := by
    intro k canon plain c mem
    exact ne_of_allowed (canon.allowed_of_plain plain mem) (by decide)
  rw [String.toList_append, String.toList_append] at same
  obtain ⟨hosts, ports⟩ := append_inj_of_stop (noColon canon plain) (noColon canon' plain')
    (portText_head u) (portText_head u') same
  exact ⟨canon.serialize_inj_of_plain canon' plain plain' (String.toList_injective hosts),
    portText_inj (String.toList_injective ports)⟩

/-- An IPv6 address runs up to its closing bracket. -/
theorem ipv6_portText_inj {ps ps' : List Nat} (canon : (Host.ipv6 ps).Canonical) (canon' : (Host.ipv6 ps').Canonical)
    {u u' : Url} (same : ((Host.ipv6 ps).serialize ++ u.portText).toList = ((Host.ipv6 ps').serialize ++ u'.portText).toList) :
    ps = ps' ∧ u.port = u'.port := by
  have noBracket : ∀ qs, ∀ c ∈ (ipv6Text qs).toList, (c == ']') = false := by
    intro qs c mem
    rcases mem_ipv6Text mem with rfl | ⟨d, small, rfl⟩
    · rfl
    · exact ne_of_allowed (digitChar_allowed d small) (by decide)
  simp only [Host.serialize, String.toList_append, List.append_assoc, List.cons_append, List.nil_append,
    show "[".toList = ['['] from rfl, show "]".toList = [']'] from rfl, List.cons.injEq, true_and] at same
  obtain ⟨texts, ports⟩ := append_inj_of_stop (noBracket ps) (noBracket ps') (by simp) (by simp) same
  have read := parseIpv6_ipv6Text canon.1 canon.2
  rw [String.toList_injective texts, parseIpv6_ipv6Text canon'.1 canon'.2] at read
  exact ⟨by cases read; rfl, portText_inj (String.toList_injective (by simpa using ports))⟩

/-- No bracket stands in a domain, an IPv4 address or a port. -/
theorem Host.Canonical.bracket_not_mem_of_plain {h : Host} (canon : h.Canonical) (plain : ∀ ps, h ≠ .ipv6 ps)
    (u : Url) : '[' ∉ (h.serialize ++ u.portText).toList := by
  rw [String.toList_append, List.mem_append]
  rintro (inside | port)
  · have := ne_of_allowed (canon.allowed_of_plain plain inside) (x := '[') (by decide)
    simp at this
  · rcases mem_portText port with colon | ⟨d, small, digit⟩
    · cases colon
    · revert digit
      revert d
      decide

/-- A canonical host and a port are told by the text they make together. -/
theorem Host.Canonical.serialize_portText_inj {h h' : Host} (canon : h.Canonical) (canon' : h'.Canonical)
    {u u' : Url} (same : (h.serialize ++ u.portText).toList = (h'.serialize ++ u'.portText).toList) :
    h = h' ∧ u.port = u'.port := by
  -- an IPv6 address opens with a bracket, which stands in no other host text
  have opens : ∀ ps (v : Url), '[' ∈ ((Host.ipv6 ps).serialize ++ v.portText).toList := by
    intro ps v
    simp [Host.serialize]
  by_cases bracketed : ∃ ps, h = .ipv6 ps <;> by_cases bracketed' : ∃ ps, h' = .ipv6 ps
  · obtain ⟨ps, rfl⟩ := bracketed
    obtain ⟨ps', rfl⟩ := bracketed'
    obtain ⟨rfl, ports⟩ := ipv6_portText_inj canon canon' same
    exact ⟨rfl, ports⟩
  · obtain ⟨ps, rfl⟩ := bracketed
    have := opens ps u
    rw [same] at this
    exact absurd this (canon'.bracket_not_mem_of_plain (by simpa using bracketed') u')
  · obtain ⟨ps', rfl⟩ := bracketed'
    have := opens ps' u'
    rw [← same] at this
    exact absurd this (canon.bracket_not_mem_of_plain (by simpa using bracketed) u)
  · exact canon.portText_inj_of_plain canon' (by simpa using bracketed) (by simpa using bracketed') same

end ChunkProxy.Url
