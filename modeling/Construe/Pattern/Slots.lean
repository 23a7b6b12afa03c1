/-! # Slots addressed by number

A table whose slots are numbered from zero. Slot `0` stands at the root; the bits of any other
number, lowest first, lead from the root to its slot. -/
namespace Construe.Pattern

inductive Slots (α : Type) where
  | empty
  | fork (here : Option α) (even odd : Slots α)

namespace Slots

def here? : Slots α → Option α
  | .empty => none
  | .fork here _ _ => here

def even : Slots α → Slots α
  | .empty => .empty
  | .fork _ even _ => even

def odd : Slots α → Slots α
  | .empty => .empty
  | .fork _ _ odd => odd

def get? : Slots α → Nat → Option α
  | .empty, _ => none
  | .fork here even odd, n =>
    if n = 0 then here else if n % 2 = 0 then even.get? (n / 2) else odd.get? (n / 2)

/-- Fills a slot whose number has at most `bits` bits. -/
def set (value : α) : (bits : Nat) → Slots α → Nat → Slots α
  | 0, t, _ => .fork (some value) t.even t.odd
  | bits + 1, t, n =>
    if n = 0 then .fork (some value) t.even t.odd
    else if n % 2 = 0 then .fork t.here? (set value bits t.even (n / 2)) t.odd
    else .fork t.here? t.even (set value bits t.odd (n / 2))

end Slots

end Construe.Pattern
