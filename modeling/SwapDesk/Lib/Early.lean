import Mathlib.Tactic.Common

/-!
# Computations with an early answer

A function that may return before its end is a computation in `Except ε`: an
error is the early answer, a value is what the rest goes on with. Two rules
reason about a sequence of such blocks, one about a single run and one about two
runs side by side.

* `Ends P Q x`: an early answer of `x` satisfies `P`, a value `Q`;
* `Agree R S x y`: `x` and `y` take the same way out, with early answers related
  by `R` and values by `S`.
-/

namespace Early

variable {ε α β : Type}

section Ends
variable {P : ε → Prop} {Q : α → Prop}

def Ends (P : ε → Prop) (Q : α → Prop) : Except ε α → Prop
  | .error e => P e
  | .ok a => Q a

/-- What is known of a first block is known when the rest starts. -/
theorem Ends.bind {Q' : β → Prop} {x : Except ε α} {f : α → Except ε β} (hx : Ends P Q x)
    (hf : ∀ a, Q a → Ends P Q' (f a)) : Ends P Q' (x >>= f) := by
  cases x with
  | error e => exact hx
  | ok a => exact hf a hx

end Ends

section Agree
variable {R : ε → ε → Prop} {S : α → α → Prop}

def Agree (R : ε → ε → Prop) (S : α → α → Prop) : Except ε α → Except ε α → Prop
  | .error e, .error e' => R e e'
  | .ok a, .ok a' => S a a'
  | _, _ => False

/-- Blocks that agree one by one agree in sequence. -/
theorem Agree.bind {S' : β → β → Prop} {x y : Except ε α} {f g : α → Except ε β}
    (hxy : Agree R S x y) (hfg : ∀ a b, S a b → Agree R S' (f a) (g b)) :
    Agree R S' (x >>= f) (y >>= g) := by
  cases x <;> cases y
  case error.error => exact hxy
  case error.ok => exact hxy.elim
  case ok.error => exact hxy.elim
  case ok.ok a b => exact hfg a b hxy

end Agree

end Early
