import FlutterZero.Lib.Machine

/-! # Ways a call can end without returning

`Fault` collects what ends a call of the `fml` library before it returns.  A
failed `FML_CHECK` kills the process.  `FML_DCHECK` is `FML_CHECK` in the builds
that do not define `NDEBUG` and nothing in the others; the model is of the
former, so a run of the model is a run in which every `FML_DCHECK` is met, and
what is proved of such runs is also true of them in a release build.
-/

namespace FlutterZero.Fml

inductive Fault where
  /-- `FML_CHECK` on a false condition. -/
  | check
  /-- `FML_DCHECK` on a false condition. -/
  | dcheck
  /-- `std::map::at` on an absent key. -/
  | outOfRange
  /-- Behaviour the language leaves undefined: signed overflow, `pop` of an empty container. -/
  | undefined
deriving DecidableEq, Repr

def fmlCheck (condition : Bool) : Except Fault Unit :=
  if condition then .ok () else .error .check

def fmlDcheck (condition : Bool) : Except Fault Unit :=
  if condition then .ok () else .error .dcheck

@[simp] theorem fmlCheck_true : fmlCheck true = .ok () := rfl
@[simp] theorem fmlCheck_false : fmlCheck false = .error .check := rfl
@[simp] theorem fmlDcheck_true : fmlDcheck true = .ok () := rfl
@[simp] theorem fmlDcheck_false : fmlDcheck false = .error .dcheck := rfl

theorem fmlCheck_eq_ok {condition : Bool} {u : Unit} :
    fmlCheck condition = .ok u ↔ condition = true := by
  cases condition <;> simp

theorem fmlDcheck_eq_ok {condition : Bool} {u : Unit} :
    fmlDcheck condition = .ok u ↔ condition = true := by
  cases condition <;> simp

end FlutterZero.Fml
