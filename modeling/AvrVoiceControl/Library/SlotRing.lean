import Mathlib.Data.Nat.ModEq
import Mathlib.Logic.Function.Iterate

set_option autoImplicit false

namespace SlotRing

variable {A : Type} {size : Nat}

def next (slot : Fin size) : Fin size :=
  ⟨(slot.val + 1) % size, Nat.mod_lt _ (Nat.lt_of_le_of_lt (Nat.zero_le _) slot.isLt)⟩

def stored (slots : Fin size -> A) : Fin size -> Nat -> List A
  | _, 0 => []
  | tail, count + 1 => slots (next tail) :: stored slots (next tail) count

end SlotRing
