import Mathlib.Tactic.IntervalCases
import Pokeage.Infra.Rounding

/-!
# Decimal numerals

A numeral is written with a point and an exponent and read back up to the text after it
(`Numeral.read_text`). A number is written as the shortest numeral that rounds to it: `write` finds the
digits and `layout` puts them, as scripts do, in plain notation or with an exponent. What is written
reads as the number it was (`read_write`).
-/

namespace Infra.Decimal

/-! ## Numerals -/

/-- The digits before the point and after it, and the exponent where there is one. -/
structure Numeral where
  whole : List Char
  frac : List Char
  exp : Option ℤ

namespace Numeral

/-- The number that a numeral stands for. -/
def value (x : Numeral) : ℚ :=
  (Nat.ofDigitChars 10 (x.whole ++ x.frac) 0 : ℕ) * 10 ^ (x.exp.getD 0 - x.frac.length)

/-- The point with its digits, if there are any. -/
def fracText (frac : List Char) : List Char := if frac = [] then [] else '.' :: frac

/-- The exponent with its sign, if there is one. -/
def expText : Option ℤ → List Char
  | none => []
  | some e => 'e' :: (if e < 0 then '-' else '+') :: Nat.toDigits 10 e.natAbs

/-- A numeral as it is printed. -/
def text (x : Numeral) : List Char := x.whole ++ (fracText x.frac ++ expText x.exp)

/-- Only digits, and no zero in front of others. -/
structure Valid (x : Numeral) : Prop where
  whole : x.whole = ['0'] ∨ ∃ c cs, x.whole = c :: cs ∧ c ≠ '0'
  digits : ∀ c ∈ x.whole ++ x.frac, c.isDigit = true

/-! ## Reading -/

/-- A run of at least one digit. -/
def readDigits (cs : List Char) : Option (List Char × List Char) :=
  if cs.takeWhile Char.isDigit = [] then none
  else some (cs.takeWhile Char.isDigit, cs.dropWhile Char.isDigit)

/-- The digits before the point. A zero stands alone. -/
def readWhole : List Char → Option (List Char × List Char)
  | '0' :: cs => some (['0'], cs)
  | cs => readDigits cs

/-- The digits after the point, if there is one. -/
def readFrac : List Char → Option (List Char × List Char)
  | '.' :: cs => readDigits cs
  | cs => some ([], cs)

/-- Whether a minus stands in front; a plus may. -/
def readSign : List Char → Bool × List Char
  | '-' :: cs => (true, cs)
  | '+' :: cs => (false, cs)
  | cs => (false, cs)

/-- The exponent after its letter. -/
def readPower (cs : List Char) : Option (Option ℤ × List Char) := do
  let (ds, rest) ← readDigits (readSign cs).2
  let e : ℤ := Nat.ofDigitChars 10 ds 0
  return (some (if (readSign cs).1 then -e else e), rest)

/-- The exponent, if there is one. -/
def readExp : List Char → Option (Option ℤ × List Char)
  | 'e' :: cs => readPower cs
  | 'E' :: cs => readPower cs
  | cs => some (none, cs)

/-- A numeral at the front of a text. -/
def read (cs : List Char) : Option (Numeral × List Char) := do
  let (whole, cs) ← readWhole cs
  let (frac, cs) ← readFrac cs
  let (exp, cs) ← readExp cs
  return (⟨whole, frac, exp⟩, cs)

/-! ## What is written is read -/

/-- The text after a numeral does not go on with it. -/
def Stops (rest : List Char) : Prop :=
  ∀ c cs, rest = c :: cs → c.isDigit = false ∧ c ≠ '.' ∧ c ≠ 'e' ∧ c ≠ 'E'

theorem stops_nil : Stops [] := by
  intro c cs h
  cases h

theorem stops_cons {c : Char} (cs : List Char)
    (h : c.isDigit = false ∧ c ≠ '.' ∧ c ≠ 'e' ∧ c ≠ 'E') : Stops (c :: cs) := by
  intro c' cs' eq
  obtain ⟨rfl, rfl⟩ := List.cons.inj eq
  exact h

/-- A run of digits is read up to its end. -/
theorem readDigits_append {ds rest : List Char} (nonempty : ds ≠ [])
    (digits : ∀ c ∈ ds, c.isDigit = true) (stops : ∀ c cs, rest = c :: cs → c.isDigit = false) :
    readDigits (ds ++ rest) = some (ds, rest) := by
  have ends : rest.takeWhile Char.isDigit = [] ∧ rest.dropWhile Char.isDigit = rest := by
    cases rest with
    | nil => exact ⟨rfl, rfl⟩
    | cons c cs =>
      have digit := stops c cs rfl
      simp [digit]
  unfold readDigits
  rw [List.takeWhile_append_of_pos digits, List.dropWhile_append_of_pos digits, ends.1, ends.2,
    List.append_nil, if_neg nonempty]

theorem readPower_append (e : ℤ) {rest : List Char} (stops : Stops rest) :
    readPower ((if e < 0 then '-' else '+') :: (Nat.toDigits 10 e.natAbs ++ rest)) =
      some (some e, rest) := by
  have sign : readSign ((if e < 0 then '-' else '+') :: (Nat.toDigits 10 e.natAbs ++ rest)) =
      (decide (e < 0), Nat.toDigits 10 e.natAbs ++ rest) := by
    split_ifs with neg
    · rw [decide_eq_true neg]
      rfl
    · rw [decide_eq_false neg]
      rfl
  have run : readDigits (Nat.toDigits 10 e.natAbs ++ rest) = some (Nat.toDigits 10 e.natAbs, rest) :=
    readDigits_append Nat.toDigits_ne_nil
      (fun c mem => Nat.isDigit_of_mem_toDigits (by decide) (by decide) mem)
      fun c cs eq => (stops c cs eq).1
  unfold readPower
  rw [sign, run]
  show some (some (if decide (e < 0) = true then
    -((Nat.ofDigitChars 10 (Nat.toDigits 10 e.natAbs) 0 : ℕ) : ℤ)
    else ((Nat.ofDigitChars 10 (Nat.toDigits 10 e.natAbs) 0 : ℕ) : ℤ)), rest) = _
  rw [Nat.ofDigitChars_ten_toDigits]
  have value : (if decide (e < 0) = true then -(e.natAbs : ℤ) else (e.natAbs : ℤ)) = e := by
    split_ifs with neg
    · have neg := of_decide_eq_true neg
      omega
    · have nonneg : ¬e < 0 := fun neg' => neg (decide_eq_true neg')
      omega
  rw [value]

/-- The exponent is read back. -/
theorem readExp_append (exp : Option ℤ) {rest : List Char} (stops : Stops rest) :
    readExp (expText exp ++ rest) = some (exp, rest) := by
  cases exp with
  | none =>
    show readExp rest = some (none, rest)
    unfold readExp
    split
    · exact absurd rfl (stops _ _ rfl).2.2.1
    · exact absurd rfl (stops _ _ rfl).2.2.2
    · rfl
  | some e => exact readPower_append e stops

/-- What comes after the digits of the fraction, if it has any. -/
theorem exp_stops (exp : Option ℤ) {rest : List Char} (stops : Stops rest) :
    ∀ c cs, expText exp ++ rest = c :: cs → c.isDigit = false ∧ c ≠ '.' := by
  intro c cs eq
  cases exp with
  | none => exact ⟨(stops c cs eq).1, (stops c cs eq).2.1⟩
  | some e =>
    obtain ⟨rfl, -⟩ := List.cons.inj eq
    exact ⟨by decide, by decide⟩

/-- So are the digits after the point. -/
theorem readFrac_append {frac rest : List Char} (digits : ∀ c ∈ frac, c.isDigit = true)
    (stops : ∀ c cs, rest = c :: cs → c.isDigit = false ∧ c ≠ '.') :
    readFrac (fracText frac ++ rest) = some (frac, rest) := by
  by_cases none : frac = []
  · subst none
    show readFrac rest = some ([], rest)
    unfold readFrac
    split
    · exact absurd rfl (stops _ _ rfl).2
    · rfl
  · unfold fracText
    rw [if_neg none]
    exact readDigits_append none digits fun c cs eq => (stops c cs eq).1

/-- So are those before it. -/
theorem readWhole_append {whole rest : List Char}
    (valid : whole = ['0'] ∨ ∃ c cs, whole = c :: cs ∧ c ≠ '0')
    (digits : ∀ c ∈ whole, c.isDigit = true) (stops : ∀ c cs, rest = c :: cs → c.isDigit = false) :
    readWhole (whole ++ rest) = some (whole, rest) := by
  rcases valid with rfl | ⟨c, cs, rfl, ne⟩
  · rfl
  · have run := readDigits_append (List.cons_ne_nil c cs) digits stops
    rw [List.cons_append] at run ⊢
    unfold readWhole
    split
    · next eq => exact absurd (List.cons.inj eq).1 ne
    · exact run

/-- **A numeral is read back**, up to the text after it. -/
theorem read_text {x : Numeral} (valid : x.Valid) {rest : List Char} (stops : Stops rest) :
    read (x.text ++ rest) = some (x, rest) := by
  have exp := readExp_append x.exp stops
  have frac := readFrac_append (fun c mem => valid.digits c (List.mem_append_right _ mem))
    (exp_stops x.exp stops)
  have frac_stops : ∀ c cs, fracText x.frac ++ (expText x.exp ++ rest) = c :: cs →
      c.isDigit = false := by
    intro c cs eq
    by_cases none : x.frac = []
    · rw [none] at eq
      exact (exp_stops x.exp stops c cs eq).1
    · unfold fracText at eq
      rw [if_neg none] at eq
      obtain ⟨rfl, -⟩ := List.cons.inj eq
      decide
  have whole := readWhole_append valid.whole (fun c mem => valid.digits c (List.mem_append_left _ mem))
    frac_stops
  unfold read text
  rw [List.append_assoc, List.append_assoc, whole]
  show (readFrac (fracText x.frac ++ (expText x.exp ++ rest)) >>= _) = _
  rw [frac]
  show (readExp (expText x.exp ++ rest) >>= _) = _
  rw [exp]
  rfl

end Numeral

/-! ## Notation -/

/-- How scripts write the digits of a number whose point stands after `n` of them: in plain notation for
moderate `n`, with an exponent for others. -/
def layout (ds : List Char) (n : ℤ) : Numeral :=
  if ds.length ≤ n ∧ n ≤ 21 then ⟨ds ++ List.replicate (n - ds.length).toNat '0', [], none⟩
  else if 0 < n ∧ n ≤ 21 then ⟨ds.take n.toNat, ds.drop n.toNat, none⟩
  else if -6 < n ∧ n ≤ 0 then ⟨['0'], List.replicate (-n).toNat '0' ++ ds, none⟩
  else ⟨ds.take 1, ds.drop 1, some (n - 1)⟩

/-- The digits of a positive number. -/
structure Digits (ds : List Char) : Prop where
  head : ∃ c cs, ds = c :: cs ∧ c ≠ '0'
  digits : ∀ c ∈ ds, c.isDigit = true

/-- Where the point is put, the numeral is a valid one. -/
theorem layout_valid {ds : List Char} (h : Digits ds) (n : ℤ) : (layout ds n).Valid := by
  obtain ⟨c, cs, rfl, ne⟩ := h.head
  have zeros (j : ℕ) : ∀ c ∈ List.replicate j '0', c.isDigit = true := by
    intro c mem
    rw [List.eq_of_mem_replicate mem]
    decide
  unfold layout
  split_ifs with whole point leading
  · refine ⟨.inr ⟨c, _, List.cons_append, ne⟩, ?_⟩
    intro d mem
    rw [List.append_nil] at mem
    rcases List.mem_append.1 mem with mem | mem
    · exact h.digits d mem
    · exact zeros _ d mem
  · obtain ⟨j, eq⟩ : ∃ j, n.toNat = j + 1 := ⟨n.toNat - 1, by omega⟩
    refine ⟨.inr ⟨c, cs.take j, ?_, ne⟩, ?_⟩
    · rw [eq]
      rfl
    · rw [List.take_append_drop]
      exact h.digits
  · refine ⟨.inl rfl, ?_⟩
    intro d mem
    rcases List.mem_append.1 mem with mem | mem
    · rw [List.mem_singleton.1 mem]
      decide
    · rcases List.mem_append.1 mem with mem | mem
      · exact zeros _ d mem
      · exact h.digits d mem
  · refine ⟨.inr ⟨c, [], rfl, ne⟩, ?_⟩
    rw [List.take_append_drop]
    exact h.digits

/-- And it stands for the digits at their position. -/
theorem value_layout {ds : List Char} (nonempty : ds ≠ []) (n : ℤ) :
    (layout ds n).value = (Nat.ofDigitChars 10 ds 0 : ℕ) * 10 ^ (n - ds.length) := by
  have some_ := List.length_pos_iff.2 nonempty
  unfold layout Numeral.value
  split_ifs with whole point leading
  · have power : (10 : ℚ) ^ (n - ds.length) = (10 ^ (n - ds.length).toNat : ℕ) := by
      push_cast
      rw [← zpow_natCast]
      congr 1
      omega
    rw [List.append_nil, Nat.ofDigitChars_append, Nat.ofDigitChars_replicate_zero, power]
    push_cast
    simp [mul_comm]
  · rw [List.take_append_drop, List.length_drop]
    congr 2
    show 0 - ((ds.length - n.toNat : ℕ) : ℤ) = _
    omega
  · rw [List.length_append, List.length_replicate, List.singleton_append, Nat.ofDigitChars_cons,
      Nat.ofDigitChars_append, Nat.ofDigitChars_replicate_zero]
    congr 2
    show 0 - (((-n).toNat + ds.length : ℕ) : ℤ) = _
    omega
  · rw [List.take_append_drop, List.length_drop]
    congr 2
    show n - 1 - ((ds.length - 1 : ℕ) : ℤ) = _
    omega

/-! ## The shortest numeral -/

/-- The whole number of units `10 ^ e` nearest to `x`, ties to even, of those that round to `x`. -/
def significand (round : ℚ → ℚ) (x : ℚ) (e : ℤ) : Option ℕ :=
  let low := ⌊x / 10 ^ e⌋.toNat
  let part : ℚ := x / 10 ^ e - (low : ℚ)
  if round ((low : ℚ) * 10 ^ e) = x ∧
      (round (((low + 1 : ℕ) : ℚ) * 10 ^ e) ≠ x ∨ part < 1 / 2 ∨ part = 1 / 2 ∧ low % 2 = 0) then some low
  else if round (((low + 1 : ℕ) : ℚ) * 10 ^ e) = x then some (low + 1)
  else none

/-- The digits of the shortest numeral of a positive number, with the position of its point. -/
def shortest (round : ℚ → ℚ) (most : ℕ) (x : ℚ) : Option (List Char × ℤ) :=
  let n := Int.log 10 x + 1
  (List.range most).findSome? fun (i : ℕ) =>
    (significand round x (n - (i + 1))).map fun s =>
      if s = 10 ^ (i + 1) then (['1'], n + 1) else (Nat.toDigits 10 s, n)

/-- A positive number as scripts print it. -/
def writePos (round : ℚ → ℚ) (most : ℕ) (x : ℚ) : List Char :=
  match shortest round most x with
  | some (ds, n) => (layout ds n).text
  | none => []

/-- A number as scripts print it. -/
def write (round : ℚ → ℚ) (most : ℕ) (x : ℚ) : List Char :=
  if x < 0 then '-' :: writePos round most (-x)
  else if 0 < x then writePos round most x
  else ['0']

/-- Read a numeral, rounding its value. -/
def readPos (round : ℚ → ℚ) (cs : List Char) : Option (ℚ × List Char) := do
  let (x, rest) ← Numeral.read cs
  return (round x.value, rest)

/-- Read a number, with a minus in front if it is negative. -/
def readNumber (round : ℚ → ℚ) : List Char → Option (ℚ × List Char)
  | '-' :: cs => do
    let (x, rest) ← readPos round cs
    return (-x, rest)
  | cs => readPos round cs

section

variable {round : ℚ → ℚ} {x : ℚ} {e : ℤ}

/-- The significand rounds to the number. -/
theorem significand_fits {s : ℕ} (h : significand round x e = some s) : round ((s : ℚ) * 10 ^ e) = x := by
  unfold significand at h
  dsimp only at h
  split_ifs at h with low high
  · rw [← Option.some.inj h]
    exact low.1
  · rw [← Option.some.inj h]
    exact high

theorem significand_mem {s : ℕ} (h : significand round x e = some s) :
    ⌊x / 10 ^ e⌋.toNat ≤ s ∧ s ≤ ⌊x / 10 ^ e⌋.toNat + 1 := by
  unfold significand at h
  dsimp only at h
  split_ifs at h <;> rw [← Option.some.inj h] <;> omega

/-- A significand is found where one of the two neighbours rounds to the number. -/
theorem significand_isSome (fits : round ((⌊x / 10 ^ e⌋.toNat : ℚ) * 10 ^ e) = x ∨
    round (((⌊x / 10 ^ e⌋.toNat + 1 : ℕ) : ℚ) * 10 ^ e) = x) : (significand round x e).isSome := by
  unfold significand
  dsimp only
  split_ifs with low high
  · rfl
  · rfl
  · rcases fits with fits | fits
    · exact absurd ⟨fits, .inl high⟩ low
    · exact absurd fits high

/-- The digits of a number begin with one that is not zero. -/
theorem digits_toDigits {s : ℕ} (pos : 0 < s) : Digits (Nat.toDigits 10 s) where
  digits c mem := Nat.isDigit_of_mem_toDigits (by decide) (by decide) mem
  head := by
    induction s using Nat.strong_induction_on with
    | _ s ih =>
      by_cases one : s < 10
      · rw [Nat.toDigits_of_lt_base one]
        exact ⟨_, _, rfl, by interval_cases s <;> decide⟩
      · rw [Nat.toDigits_of_base_le (by decide) (by omega)]
        obtain ⟨c, cs, eq, ne⟩ := ih (s / 10) (by omega) (by omega)
        exact ⟨c, cs ++ [(s % 10).digitChar], by rw [eq]; rfl, ne⟩

theorem length_toDigits {s i : ℕ} (low : 10 ^ i ≤ s) (high : s < 10 ^ (i + 1)) :
    (Nat.toDigits 10 s).length = i + 1 := by
  have le := (Nat.length_toDigits_le_iff (by decide) (Nat.succ_pos i)).2 high
  rcases Nat.eq_zero_or_pos i with rfl | pos
  · have some_ := Nat.length_toDigits_pos (b := 10) (n := s)
    omega
  · have gt : ¬(Nat.toDigits 10 s).length ≤ i := fun le =>
      Nat.not_lt.2 low ((Nat.length_toDigits_le_iff (by decide) pos).1 le)
    omega

/-- The whole units of a number down to the one `i` places below its first digit have `i + 1` digits. -/
theorem floor_mem (pos : 0 < x) (i : ℕ) :
    10 ^ i ≤ ⌊x / 10 ^ (Int.log 10 x + 1 - ((i : ℤ) + 1))⌋.toNat ∧
      ⌊x / 10 ^ (Int.log 10 x + 1 - ((i : ℤ) + 1))⌋.toNat < 10 ^ (i + 1) := by
  have unit : (0 : ℚ) < 10 ^ Int.log 10 x := zpow_pos (by norm_num) _
  have low : (10 : ℚ) ^ Int.log 10 x ≤ x := Int.zpow_log_le_self (b := 10) (by decide) pos
  have high : x < (10 : ℚ) ^ (Int.log 10 x + 1) := Int.lt_zpow_succ_log_self (b := 10) (by decide) x
  have scale : (10 : ℚ) ^ (Int.log 10 x + 1 - ((i : ℤ) + 1)) = 10 ^ Int.log 10 x / 10 ^ i := by
    rw [← zpow_natCast, ← zpow_sub₀ (by norm_num)]
    congr 1
    ring
  have places : (0 : ℚ) < 10 ^ i := by positivity
  rw [scale, div_div_eq_mul_div]
  have above : ((10 ^ i : ℕ) : ℤ) ≤ ⌊x * 10 ^ i / 10 ^ Int.log 10 x⌋ := by
    rw [Int.le_floor, le_div_iff₀ unit]
    push_cast
    rw [mul_comm]
    exact mul_le_mul_of_nonneg_right low places.le
  have below : ⌊x * 10 ^ i / 10 ^ Int.log 10 x⌋ < ((10 ^ (i + 1) : ℕ) : ℤ) := by
    rw [Int.floor_lt, div_lt_iff₀ unit]
    push_cast
    rw [zpow_add_one₀ (by norm_num)] at high
    calc x * 10 ^ i < 10 ^ Int.log 10 x * 10 * 10 ^ i := mul_lt_mul_of_pos_right high places
      _ = 10 ^ (i + 1) * 10 ^ Int.log 10 x := by rw [pow_succ]; ring
  omega

/-- What a search for the shortest numeral finds: digits of a number that rounds to the one sought. -/
theorem shortest_spec {most : ℕ} {ds : List Char} {n : ℤ} (pos : 0 < x)
    (h : shortest round most x = some (ds, n)) :
    Digits ds ∧ round ((Nat.ofDigitChars 10 ds 0 : ℕ) * 10 ^ (n - ds.length)) = x := by
  unfold shortest at h
  obtain ⟨i, -, found⟩ := List.exists_of_findSome?_eq_some h
  obtain ⟨s, sig, eq⟩ := Option.map_eq_some_iff.1 found
  have fits := significand_fits sig
  obtain ⟨low, high⟩ := significand_mem sig
  obtain ⟨least, most⟩ := floor_mem pos i
  split_ifs at eq with round_up
  · obtain ⟨rfl, rfl⟩ := Prod.mk.inj eq
    refine ⟨⟨⟨'1', [], rfl, by decide⟩, by simp⟩, ?_⟩
    have one : Nat.ofDigitChars 10 ['1'] 0 = 1 := rfl
    have power : ((s : ℕ) : ℚ) * 10 ^ (Int.log 10 x + 1 - ((i : ℤ) + 1)) = 10 ^ (Int.log 10 x + 1) := by
      rw [round_up]
      push_cast
      rw [← zpow_natCast, ← zpow_add₀ (by norm_num)]
      congr 1
      push_cast
      ring
    rw [power] at fits
    rw [one, Nat.cast_one, one_mul]
    simpa using fits
  · obtain ⟨rfl, rfl⟩ := Prod.mk.inj eq
    have positive : 0 < 10 ^ i := Nat.pow_pos (by decide)
    refine ⟨digits_toDigits (by omega), ?_⟩
    rw [Nat.ofDigitChars_ten_toDigits, length_toDigits (i := i) (by omega) (by omega)]
    exact_mod_cast fits

end

/-! ## What is written is read -/

open Rounding

section

variable {p most : ℕ} {x : ℚ}

/-- Enough digits tell the numbers of `p` bits apart: the nearest numeral of `most` digits rounds back. -/
theorem shortest_isSome (hp : 1 ≤ p) (places : 0 < most) (enough : 2 ^ p < 10 ^ (most - 1)) (pos : 0 < x)
    (fixed : roundTo p x = x) : (shortest (roundTo p) most x).isSome := by
  let e : ℤ := Int.log 10 x + 1 - ((most - 1 : ℕ) + 1)
  have unit : (0 : ℚ) < 10 ^ e := zpow_pos (by norm_num) _
  have room : (10 : ℚ) ^ e / 2 < x / 2 ^ (p + 1) := by
    have low : (10 : ℚ) ^ Int.log 10 x ≤ x := Int.zpow_log_le_self (b := 10) (by decide) pos
    have scale : (10 : ℚ) ^ Int.log 10 x = 10 ^ e * 10 ^ (most - 1) := by
      rw [← zpow_natCast, ← zpow_add₀ (by norm_num)]
      congr 1
      ring
    have enough : (2 : ℚ) ^ p < 10 ^ (most - 1) := by exact_mod_cast enough
    rw [div_lt_div_iff₀ (by norm_num) (by positivity), pow_succ]
    calc (10 : ℚ) ^ e * (2 ^ p * 2) = 10 ^ e * 2 ^ p * 2 := by ring
      _ < 10 ^ e * 10 ^ (most - 1) * 2 := by
        refine mul_lt_mul_of_pos_right ?_ (by norm_num)
        exact mul_lt_mul_of_pos_left enough unit
      _ ≤ x * 2 := by
        rw [← scale]
        exact mul_le_mul_of_nonneg_right low (by norm_num)
  have back {s : ℕ} (near : |(s : ℚ) - x / 10 ^ e| ≤ 1 / 2) : roundTo p (s * 10 ^ e) = x := by
    refine roundTo_of_near hp pos fixed (lt_of_le_of_lt ?_ room)
    have scaled : (s : ℚ) * 10 ^ e - x = (s - x / 10 ^ e) * 10 ^ e := by
      field_simp
    rw [scaled, abs_mul, abs_of_pos unit]
    calc |(s : ℚ) - x / 10 ^ e| * 10 ^ e ≤ 1 / 2 * 10 ^ e := mul_le_mul_of_nonneg_right near unit.le
      _ = 10 ^ e / 2 := by ring
  have found : (significand (roundTo p) x e).isSome := by
    have nonneg : 0 ≤ ⌊x / 10 ^ e⌋ := Int.floor_nonneg.2 (div_nonneg pos.le unit.le)
    have cast : ((⌊x / 10 ^ e⌋.toNat : ℕ) : ℚ) = ⌊x / 10 ^ e⌋ := by
      rw [← Int.cast_natCast, Int.toNat_of_nonneg nonneg]
    have low := Int.floor_le (x / 10 ^ e)
    have high := Int.lt_floor_add_one (x / 10 ^ e)
    refine significand_isSome ?_
    rcases le_or_gt (x / 10 ^ e - ⌊x / 10 ^ e⌋) (1 / 2) with part | part
    · refine .inl (back ?_)
      rw [cast, abs_le]
      constructor <;> linarith
    · refine .inr (back ?_)
      push_cast
      rw [cast, abs_le]
      constructor <;> linarith
  unfold shortest
  rw [List.findSome?_isSome_iff]
  exact ⟨most - 1, List.mem_range.2 (by omega), by rw [Option.isSome_map]; exact found⟩

/-- The text of a positive number begins with a digit and is read as the number. -/
theorem writePos_spec (hp : 1 ≤ p) (places : 0 < most) (enough : 2 ^ p < 10 ^ (most - 1)) (pos : 0 < x)
    (fixed : roundTo p x = x) :
    (∃ c cs, writePos (roundTo p) most x = c :: cs ∧ c.isDigit = true) ∧
      ∀ rest, Numeral.Stops rest →
        readPos (roundTo p) (writePos (roundTo p) most x ++ rest) = some (x, rest) := by
  obtain ⟨⟨ds, n⟩, found⟩ := Option.isSome_iff_exists.1 (shortest_isSome hp places enough pos fixed)
  obtain ⟨digits, rounds⟩ := shortest_spec pos found
  have valid := layout_valid digits n
  have nonempty : ds ≠ [] := by
    obtain ⟨c, cs, rfl, -⟩ := digits.head
    exact List.cons_ne_nil c cs
  unfold writePos
  rw [found]
  constructor
  · have first : ∃ c cs, (layout ds n).whole = c :: cs := by
      rcases valid.whole with eq | ⟨c, cs, eq, -⟩
      · exact ⟨_, _, eq⟩
      · exact ⟨_, _, eq⟩
    obtain ⟨c, cs, eq⟩ := first
    have text : (layout ds n).text =
        c :: (cs ++ (Numeral.fracText (layout ds n).frac ++ Numeral.expText (layout ds n).exp)) := by
      unfold Numeral.text
      rw [eq, List.cons_append]
    refine ⟨c, _, text, valid.digits c ?_⟩
    rw [eq]
    exact List.mem_cons_self ..
  · intro rest stops
    unfold readPos
    rw [Numeral.read_text valid stops]
    show some (roundTo p (layout ds n).value, rest) = _
    rw [value_layout nonempty, rounds]

/-- **What is written is read.** A number of `p` bits, printed with the fewest digits that tell it from
its neighbours, reads as itself; its text begins like a number. -/
theorem read_write (hp : 1 ≤ p) (places : 0 < most) (enough : 2 ^ p < 10 ^ (most - 1))
    (fixed : roundTo p x = x) :
    (∃ c cs, write (roundTo p) most x = c :: cs ∧ (c = '-' ∨ c.isDigit = true)) ∧
      ∀ rest, Numeral.Stops rest →
        readNumber (roundTo p) (write (roundTo p) most x ++ rest) = some (x, rest) := by
  unfold write
  rcases lt_trichotomy x 0 with neg | rfl | pos
  · have opposite : roundTo p (-x) = -x := by rw [roundTo_neg, fixed]
    obtain ⟨-, reads⟩ := writePos_spec hp places enough (neg_pos.2 neg) opposite
    rw [if_pos neg]
    refine ⟨⟨_, _, rfl, .inl rfl⟩, ?_⟩
    intro rest stops
    show (readPos (roundTo p) (writePos (roundTo p) most (-x) ++ rest) >>= _) = _
    rw [reads rest stops]
    show some (- -x, rest) = _
    rw [neg_neg]
  · refine ⟨⟨'0', [], rfl, .inr (by decide)⟩, ?_⟩
    intro rest stops
    have read := Numeral.read_text (x := ⟨['0'], [], none⟩) ⟨.inl rfl, by simp⟩ stops
    show (Numeral.read ('0' :: rest) >>= _) = _
    rw [show Numeral.read ('0' :: rest) = _ from read]
    show some (roundTo p (Numeral.value ⟨['0'], [], none⟩), rest) = _
    have zero : Numeral.value ⟨['0'], [], none⟩ = 0 := by
      unfold Numeral.value
      have digits : Nat.ofDigitChars 10 (['0'] ++ []) 0 = 0 := rfl
      rw [digits]
      simp
    rw [zero, roundTo_zero]
  · obtain ⟨⟨c, cs, eq, digit⟩, reads⟩ := writePos_spec hp places enough pos fixed
    rw [if_neg (not_lt.2 pos.le), if_pos pos]
    refine ⟨⟨c, cs, eq, .inr digit⟩, ?_⟩
    intro rest stops
    have read := reads rest stops
    rw [eq, List.cons_append] at read ⊢
    unfold readNumber
    split
    · next minus =>
      obtain ⟨rfl, -⟩ := List.cons.inj minus
      exact absurd digit (by decide)
    · exact read

/-- What was read is rounded. -/
theorem readPos_fixed (hp : 1 ≤ p) {cs rest : List Char} (read : readPos (roundTo p) cs = some (x, rest)) :
    roundTo p x = x := by
  obtain ⟨y, -, eq⟩ := Option.bind_eq_some_iff.1 read
  obtain ⟨rfl, -⟩ := Prod.mk.inj (Option.some.inj eq)
  exact roundTo_roundTo hp _

/-- What is read is a number of `p` bits. -/
theorem readNumber_fixed (hp : 1 ≤ p) {cs rest : List Char}
    (read : readNumber (roundTo p) cs = some (x, rest)) : roundTo p x = x := by
  unfold readNumber at read
  split at read
  · obtain ⟨y, pos, eq⟩ := Option.bind_eq_some_iff.1 read
    obtain ⟨rfl, -⟩ := Prod.mk.inj (Option.some.inj eq)
    rw [roundTo_neg, readPos_fixed hp pos]
  · exact readPos_fixed hp read

end

end Infra.Decimal
