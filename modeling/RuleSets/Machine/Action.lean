import RuleSets.Machine.Call

/-!
# Actions

Pieces of programs.  An action is a program that lacks what comes after it, so that actions can be
put together in sequence; they form a monad.
-/

namespace RuleSets.Machine

/-- A piece of a program that ends in a value. -/
def Action (α : Type) : Type := (α → Program) → Program

namespace Action

instance : Monad Action where
  pure a := fun next => next a
  bind a f := fun next => a fun b => f b next

instance : LawfulMonad Action :=
  LawfulMonad.mk' Action (fun _ => rfl) (fun _ _ => rfl) (fun _ _ _ => rfl)

/-- The program that does this and exits with the code it ends in. -/
def toProgram (a : Action Nat) : Program := a .exit

end Action

/-- Make a call. -/
def ask (c : Call) : Action c.Answer := Program.call c

/-- Start a child, and say its number. -/
def fork (child : Action Nat) : Action Nat := Program.fork child.toProgram

/-- End the process. -/
def exit {α : Type} (code : Nat) : Action α := fun _ => .exit code

end RuleSets.Machine
