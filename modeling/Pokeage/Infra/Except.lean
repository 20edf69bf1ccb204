import Mathlib.Tactic.Common

/-!
# Fallible steps

Guards and inversion for code written in `Except`. A computation that returned `.ok` is taken
apart one `do` step at a time with `bind_eq_ok`; `require` is the guard, `orError` reads an
optional value that must be there. `bind_map` and `bind_same` compare two computations step by step.
-/

namespace Infra

variable {ε α β : Type}

/-- Fail with `e` unless `c` holds. -/
def require (c : Prop) [Decidable c] (e : ε) : Except ε Unit :=
  if c then .ok () else .error e

/-- The value of an option, or the error `e` when there is none. -/
def orError (o : Option α) (e : ε) : Except ε α :=
  match o with
  | some a => .ok a
  | none => .error e

@[simp] theorem require_eq_ok {c : Prop} [Decidable c] {e : ε} {u : Unit} :
    require c e = .ok u ↔ c := by
  unfold require
  split <;> simp [*]

theorem require_of {c : Prop} [Decidable c] {e : ε} (h : c) : require c e = .ok () := if_pos h

theorem require_of_not {c : Prop} [Decidable c] {e : ε} (h : ¬c) : require c e = .error e := if_neg h

@[simp] theorem orError_eq_ok {o : Option α} {e : ε} {a : α} :
    orError o e = .ok a ↔ o = some a := by
  cases o <;> simp [orError]

@[simp] theorem orError_some (a : α) (e : ε) : orError (some a) e = .ok a := rfl

/-- A `do` step succeeded iff its first action did and the rest did from there. -/
theorem bind_eq_ok {x : Except ε α} {f : α → Except ε β} {b : β} :
    (x >>= f) = .ok b ↔ ∃ a, x = .ok a ∧ f a = .ok b := by
  cases x with
  | ok a => exact ⟨fun h => ⟨a, rfl, h⟩, fun ⟨_, ha, h⟩ => by cases ha; exact h⟩
  | error e =>
    constructor
    · intro h; cases h
    · rintro ⟨_, ha, -⟩; cases ha

@[simp] theorem ok_bind (a : α) (f : α → Except ε β) : (Except.ok a >>= f) = f a := rfl

@[simp] theorem error_bind (e : ε) (f : α → Except ε β) : (Except.error e >>= f) = .error e := rfl

@[simp] theorem pure_eq_ok {a b : α} : (pure a : Except ε α) = .ok b ↔ a = b :=
  ⟨fun h => Except.ok.inj h, fun h => congrArg Except.ok h⟩

/-! ## Two computations side by side -/

section Map

variable {α' β' : Type} {x : Except ε α} {x' : Except ε α'} {f : α → Except ε β}
  {f' : α' → Except ε β'} {g : α → α'} {h : β → β'}

/-- Where the first actions correspond and so does what follows, the whole does. -/
theorem bind_map (first : x' = x.map g) (next : ∀ a, x = .ok a → f' (g a) = (f a).map h) :
    (x' >>= f') = (x >>= f).map h := by
  subst first
  cases x with
  | ok a => exact next a rfl
  | error e => rfl

/-- A continuation that gives the same up to `h` makes the whole the same up to `h`. -/
theorem bind_same {f' : α → Except ε β'} (next : ∀ a, x = .ok a → f' a = (f a).map h) :
    (x >>= f') = (x >>= f).map h := by
  cases x with
  | ok a => exact next a rfl
  | error e => rfl

end Map

end Infra
