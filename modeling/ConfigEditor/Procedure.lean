import ConfigEditor.Fault
set_option autoImplicit false

/-!
# Procedures

A procedure works on a state in place, and ends with a result or a fault.  A fault takes
nothing back: what was changed before it stays changed.
-/

namespace ConfigEditor

/-- Work on a state that ends with a result or a fault. -/
abbrev Procedure (σ : Type) := ExceptT Fault (StateM σ)

namespace Procedure

variable {σ α : Type}

/-- The result or fault of a procedure and the state after it. -/
def perform (procedure : Procedure σ α) (state : σ) : Except Fault α × σ :=
  procedure.run.run state

/-- The result of a procedure and the state after it; of one that fails the fault only. -/
def result (procedure : Procedure σ α) (state : σ) : Except Fault (α × σ) :=
  match procedure.perform state with
  | (.ok value, after) => .ok (value, after)
  | (.error fault, _) => .error fault

/-- A result, or the fault that stands in its place. -/
def ofResult : Except Fault α → Procedure σ α
  | .ok value => pure value
  | .error fault => throw fault

/-- A result, or the refusal that stands in its place. -/
def ofRefusal : Except Refusal α → Procedure σ α
  | .ok value => pure value
  | .error refusal => throw (.refused refusal)

/-- A question to the state, which stays as it is. -/
def ask (question : σ → Except Fault α) : Procedure σ α := do
  let state ← get
  ofResult (question state)

end Procedure

end ConfigEditor
