import Mathlib.Algebra.Group.Int.Defs
import Mathlib.Algebra.Group.Nat.Defs
import Mathlib.Tactic.Common
import Pokeage.Infra.Except

/-!
# Byte formats

Little-endian numbers of a fixed width, and two kinds of readers with their rules: a `Parser` eats the
front of a byte string, a `Cursor` moves an offset over a buffer that stays.

* `Parses p bytes a` and `Reads p bytes a`: in front of `bytes`, `p` reads them all and returns `a`.
* `Consumes p n`: `p` never succeeds without eating `n` bytes exactly.
* `Advances p n` and `Needs p n`: `p` never succeeds without moving on by `n`, and never with fewer
  than `n` bytes in front of it. The two differ for a reader that goes past the end without complaint.
-/

namespace Infra

/-- A byte string. -/
abbrev Bytes := List UInt8

/-- `[u8; n]`. -/
structure Fixed (n : ℕ) where
  bytes : Bytes
  length_eq : bytes.length = n
  deriving DecidableEq, Repr

/-! ## Little-endian numbers -/

/-- The `w` low bytes of a number, the lowest first. -/
def le : ℕ → ℕ → Bytes
  | 0, _ => []
  | w + 1, n => UInt8.ofNat n :: le w (n / 256)

/-- The number that these bytes make, the lowest first. -/
def ofLe : Bytes → ℕ
  | [] => 0
  | b :: bytes => b.toNat + 256 * ofLe bytes

@[simp] theorem length_le (w n : ℕ) : (le w n).length = w := by
  induction w generalizing n with
  | zero => rfl
  | succ w ih => simp [le, ih]

/-- A number is read back from enough of its bytes. -/
theorem ofLe_le {w n : ℕ} (h : n < 256 ^ w) : ofLe (le w n) = n := by
  induction w generalizing n with
  | zero =>
    have zero : n = 0 := by simpa using h
    rw [zero]
    rfl
  | succ w ih =>
    rw [Nat.pow_succ] at h
    have high : n / 256 < 256 ^ w := Nat.div_lt_of_lt_mul (by rwa [Nat.mul_comm])
    simp only [le, ofLe, ih high, UInt8.toNat_ofNat']
    exact Nat.mod_add_div n 256

/-- A number read as two's complement of `w` bytes. -/
def signed (w n : ℕ) : ℤ :=
  if 2 * n < (256 ^ w : ℕ) then (n : ℤ) else (n : ℤ) - (256 ^ w : ℕ)

variable {ε α β : Type}

/-! ## Parsers -/

/-- A parser takes bytes off the front of its input. -/
abbrev Parser (ε : Type) := StateT Bytes (Except ε)

/-- The next `n` bytes, or `e` if there are not so many. -/
def Parser.take (e : ε) (n : ℕ) : Parser ε Bytes := fun bytes =>
  if bytes.length < n then .error e else .ok (bytes.take n, bytes.drop n)

/-- Parse all of a byte string, or `e` if something is left over. -/
def Parser.whole (p : Parser ε α) (e : ε) (bytes : Bytes) : Except ε α :=
  match p bytes with
  | .ok (a, []) => .ok a
  | .ok (_, _ :: _) => .error e
  | .error e => .error e

/-- The parser reads `a` from these bytes, whatever follows them. -/
def Parses (p : Parser ε α) (bytes : Bytes) (a : α) : Prop :=
  ∀ rest, p (bytes ++ rest) = .ok (a, rest)

/-- The parser takes exactly `n` bytes whenever it succeeds. -/
def Consumes (p : Parser ε α) (n : ℕ) : Prop :=
  ∀ (bytes : Bytes) (a : α) (rest : Bytes), p bytes = .ok (a, rest) → bytes.length = n + rest.length

section

variable {p : Parser ε α} {f : α → Parser ε β} {bytes bytes' : Bytes} {a : α} {b : β} {m n : ℕ}

theorem Parses.pure (a : α) : Parses (pure a : Parser ε α) [] a := fun _ => rfl

/-- One thing after the other is read back. -/
theorem Parses.bind (h : Parses p bytes a) (h' : Parses (f a) bytes' b) :
    Parses (p >>= f) (bytes ++ bytes') b := by
  intro rest
  show (p (bytes ++ bytes' ++ rest) >>= fun s => f s.1 s.2) = _
  rw [List.append_assoc, h, ok_bind]
  exact h' rest

/-- What is made of a reading is made of what was read. -/
theorem Parses.map (h : Parses p bytes a) (g : α → β) :
    Parses (do return g (← p)) bytes (g a) := by
  intro rest
  show (p (bytes ++ rest) >>= fun s => .ok (g s.1, s.2)) = _
  rw [h, ok_bind]

theorem Parses.take {e : ε} (length : bytes.length = n) : Parses (Parser.take e n) bytes bytes := by
  intro rest
  unfold Parser.take
  rw [if_neg (by simp [length])]
  simp [← length]

theorem Consumes.pure (a : α) : Consumes (pure a : Parser ε α) 0 := by
  intro bytes b rest h
  cases h
  exact (Nat.zero_add _).symm

/-- Widths add up. -/
theorem Consumes.bind (h : Consumes p m) (h' : ∀ a, Consumes (f a) n) :
    Consumes (p >>= f) (m + n) := by
  intro bytes b rest done
  have done : (p bytes >>= fun s => f s.1 s.2) = .ok (b, rest) := done
  obtain ⟨⟨a, middle⟩, first, second⟩ := bind_eq_ok.1 done
  rw [h _ _ _ first, h' a _ _ _ second, Nat.add_assoc]

theorem Consumes.map (h : Consumes p n) (g : α → β) : Consumes (do return g (← p)) n :=
  h.bind fun a => Consumes.pure (g a)

theorem Consumes.take (e : ε) (n : ℕ) : Consumes (Parser.take e n) n := by
  intro bytes taken rest h
  unfold Parser.take at h
  split_ifs at h with short
  obtain ⟨rfl, rfl⟩ := Prod.mk.inj (Except.ok.inj h)
  rw [List.length_drop]
  omega

/-- A byte string is read back whole. -/
theorem Parses.whole (h : Parses p bytes a) (e : ε) : p.whole e bytes = .ok a := by
  have done := h []
  rw [List.append_nil] at done
  unfold Parser.whole
  rw [done]

/-- What does not have the length that is consumed is not parsed as a whole. -/
theorem Consumes.not_whole (h : Consumes p n) (e : ε) (length : bytes.length ≠ n) :
    ∃ e', p.whole e bytes = .error e' := by
  unfold Parser.whole
  split
  · next a done => exact absurd (h _ _ _ done) length
  · exact ⟨e, rfl⟩
  · next e' _ => exact ⟨e', rfl⟩

end

/-! ## Cursors -/

/-- A buffer and an offset into it, or past its end. -/
structure Cursor where
  buf : Bytes
  offset : ℕ

/-- The bytes from the offset on. -/
def Cursor.ahead (c : Cursor) : Bytes := c.buf.drop c.offset

/-- The cursor moved on by `n`. -/
def Cursor.skip (c : Cursor) (n : ℕ) : Cursor := { c with offset := c.offset + n }

/-- Past some bytes lies what follows them. -/
theorem Cursor.ahead_skip {c : Cursor} {bytes rest : Bytes} (h : c.ahead = bytes ++ rest) :
    (c.skip bytes.length).ahead = rest := by
  have dropped : (c.skip bytes.length).ahead = c.ahead.drop bytes.length := by
    unfold skip ahead
    rw [List.drop_drop]
  rw [dropped, h, List.drop_left]

/-- A reader moves a cursor. -/
abbrev Reader (ε : Type) := StateT Cursor (Except ε)

/-- The reader reads `a` from these bytes and moves past them, whatever follows. -/
def Reads (p : Reader ε α) (bytes : Bytes) (a : α) : Prop :=
  ∀ (c : Cursor) (rest : Bytes), c.ahead = bytes ++ rest → p c = .ok (a, c.skip bytes.length)

/-- The reader moves on by exactly `n` whenever it succeeds. -/
def Advances (p : Reader ε α) (n : ℕ) : Prop :=
  ∀ (c : Cursor) (a : α) (c' : Cursor), p c = .ok (a, c') → c' = c.skip n

/-- The reader succeeds only with `n` bytes left in the buffer. -/
def Needs (p : Reader ε α) (n : ℕ) : Prop :=
  ∀ (c : Cursor) (a : α) (c' : Cursor), p c = .ok (a, c') → c.offset + n ≤ c.buf.length

section

variable {p : Reader ε α} {f : α → Reader ε β} {bytes bytes' : Bytes} {a : α} {b : β} {m n : ℕ}

theorem Reads.pure (a : α) : Reads (pure a : Reader ε α) [] a := fun _ _ _ => rfl

/-- One thing after the other is read back. -/
theorem Reads.bind (h : Reads p bytes a) (h' : Reads (f a) bytes' b) :
    Reads (p >>= f) (bytes ++ bytes') b := by
  intro c rest front
  rw [List.append_assoc] at front
  show (p c >>= fun s => f s.1 s.2) = _
  rw [h _ _ front, ok_bind, h' _ _ (Cursor.ahead_skip front)]
  unfold Cursor.skip
  rw [List.length_append, Nat.add_assoc]

theorem Reads.map (h : Reads p bytes a) (g : α → β) : Reads (do return g (← p)) bytes (g a) := by
  intro c rest front
  show (p c >>= fun s => .ok (g s.1, s.2)) = _
  rw [h _ _ front, ok_bind]

theorem Advances.pure (a : α) : Advances (pure a : Reader ε α) 0 := by
  intro c b c' h
  cases h
  rfl

/-- Widths add up. -/
theorem Advances.bind (h : Advances p m) (h' : ∀ a, Advances (f a) n) :
    Advances (p >>= f) (m + n) := by
  intro c b c' done
  have done : (p c >>= fun s => f s.1 s.2) = .ok (b, c') := done
  obtain ⟨⟨a, middle⟩, first, second⟩ := bind_eq_ok.1 done
  rw [h' a _ _ _ second, h _ _ _ first]
  unfold Cursor.skip
  rw [Nat.add_assoc]

theorem Advances.map (h : Advances p n) (g : α → β) : Advances (do return g (← p)) n :=
  h.bind fun a => Advances.pure (g a)

/-- What the first part needs, the whole needs. -/
theorem Needs.first (h : Needs p n) : Needs (p >>= f) n := by
  intro c b c' done
  have done : (p c >>= fun s => f s.1 s.2) = .ok (b, c') := done
  obtain ⟨_, first, -⟩ := bind_eq_ok.1 done
  exact h _ _ _ first

/-- What is needed after moving on. -/
theorem Advances.needs (h : Advances p m) (h' : ∀ a, Needs (f a) n) : Needs (p >>= f) (m + n) := by
  intro c b c' done
  have done : (p c >>= fun s => f s.1 s.2) = .ok (b, c') := done
  obtain ⟨⟨a, middle⟩, first, second⟩ := bind_eq_ok.1 done
  have enough := h' a _ _ _ second
  rw [h _ _ _ first] at enough
  rw [← Nat.add_assoc]
  exact enough

/-- A buffer that is too short is not read. -/
theorem Needs.not_read (h : Needs p n) {c : Cursor} (short : c.buf.length < c.offset + n) :
    ∃ e, p c = .error e := by
  cases done : p c with
  | error e => exact ⟨e, rfl⟩
  | ok read => exact absurd (h _ _ _ done) (Nat.not_le.2 short)

end

end Infra
