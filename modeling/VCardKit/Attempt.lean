/-
  Operations that may fail. What an operation acts on may have changed before it failed, so a
  failure leaves a state behind as well as an error; that it is the state from before is a property
  of the operation (`KeepsIfFailed`).
-/
namespace VCardKit

/-- An operation that may fail, with the state that it leaves behind in either case. -/
structure Attempt (ε σ α : Type) where
  result : Except ε α
  state : σ

namespace Attempt

variable {ε σ τ α : Type}

/-- An operation that succeeded. -/
def done (value : α) (state : σ) : Attempt ε σ α := ⟨.ok value, state⟩

/-- An operation that failed. -/
def failed (error : ε) (state : σ) : Attempt ε σ α := ⟨.error error, state⟩

/-- The same operation seen in a larger state. -/
def mapState (f : σ → τ) (a : Attempt ε σ α) : Attempt ε τ α := ⟨a.result, f a.state⟩

/-- The attempt leaves a state behind if it fails. -/
def KeepsIfFailed (a : Attempt ε σ α) (s : σ) : Prop := ∀ e, a.result = .error e → a.state = s

theorem keepsIfFailed_done {value : α} {state s : σ} :
    (done value state : Attempt ε σ α).KeepsIfFailed s :=
  nofun

theorem keepsIfFailed_failed {e : ε} {s : σ} : (failed e s : Attempt ε σ α).KeepsIfFailed s :=
  fun _ _ => rfl

theorem KeepsIfFailed.mapState {a : Attempt ε σ α} {s : σ} (h : a.KeepsIfFailed s) (f : σ → τ) :
    (a.mapState f).KeepsIfFailed (f s) :=
  fun e he => congrArg f (h e he)

end Attempt

end VCardKit
