import Highlighting.Error
import Highlighting.Log

/-!
# Recorded calls

A call has a result, or the failure that ended it, and the records that it made up to its end.
Calls in a row keep the records of all of them, and a failure ends the row.

## Main definitions

* `Logged` -- the result of a call with its records.
* `Logged.record`, `Logged.fail` -- calls that only record or only fail.
-/
namespace Highlighting

/-- The result of a call, and what was recorded during it. -/
structure Logged (α : Type) where
  result : Except Failure α
  records : List LogRecord

namespace Logged

/-- The call that has a result and records nothing. -/
protected def pure {α : Type} (a : α) : Logged α := ⟨.ok a, []⟩

/-- A call followed by another that depends on its result. -/
protected def bind {α β : Type} (x : Logged α) (f : α → Logged β) : Logged β :=
  match x.result with
  | .ok a => ⟨(f a).result, x.records ++ (f a).records⟩
  | .error e => ⟨.error e, x.records⟩

instance : Monad Logged where
  pure := Logged.pure
  bind := Logged.bind

/-- The call that makes one record. -/
def record (level : LogLevel) (message : String) : Logged Unit := ⟨.ok (), [⟨level, message⟩]⟩

/-- The call that fails. -/
def fail {α : Type} (e : Failure) : Logged α := ⟨.error e, []⟩

/-- The call that has the result of a computation and records nothing. -/
def ofResult {α : Type} (r : Except Failure α) : Logged α := ⟨r, []⟩

@[simp] theorem result_pure {α : Type} (a : α) : (pure a : Logged α).result = .ok a := rfl

@[simp] theorem records_pure {α : Type} (a : α) : (pure a : Logged α).records = [] := rfl

theorem result_bind {α β : Type} (x : Logged α) (f : α → Logged β) :
    (x >>= f).result = x.result >>= fun a => (f a).result := by
  change (Logged.bind x f).result = _
  unfold Logged.bind
  cases x.result <;> rfl

end Logged

end Highlighting
