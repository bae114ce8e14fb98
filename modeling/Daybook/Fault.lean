import Daybook.Decimal.Arithmetic

/-!
# Faults

A computation on amounts stops at an overflow, or at an error of its own kind. Both are values of
`Fault`, so the one that comes first wins.
-/

namespace Daybook

/-- Why a computation has no result. -/
inductive Fault (ε : Type) where
  | overflow (operation : Overflow)
  | error (cause : ε)
  deriving DecidableEq

/-- Arithmetic inside a computation with errors of its own. -/
def liftOverflow : Except Overflow α → Except (Fault ε) α
  | .ok a    => .ok a
  | .error o => .error (.overflow o)

instance : MonadLift (Except Overflow) (Except (Fault ε)) := ⟨liftOverflow⟩

@[simp] theorem liftOverflow_ok (a : α) : (liftOverflow (.ok a) : Except (Fault ε) α) = .ok a := rfl

end Daybook
