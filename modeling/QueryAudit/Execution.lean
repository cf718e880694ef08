import QueryAudit.Statement.Classify

/-!
# Executions

One execution of a statement, as it was observed while a test ran, and the run
that gathers them in order.
-/

namespace QueryAudit

open Statement (Kind)

/-- One execution of a statement. -/
structure Execution where
  /-- The text of the statement. -/
  text : String
  /-- What the statement does. -/
  kind : Kind
  /-- Were the values of the statement bound as parameters? -/
  bound : Bool
  /-- The time that it took, in milliseconds. -/
  elapsed : Nat
  deriving DecidableEq, Repr

/-- An execution whose kind is read off its text. -/
def Execution.classified (text : String) (bound : Bool) (elapsed : Nat) : Execution :=
  ⟨text, Statement.classify text, bound, elapsed⟩

/-- The executions of a run, in order. -/
structure Run where
  executions : List Execution
  deriving DecidableEq, Repr

namespace Run

/-- The run in which nothing was executed. -/
def empty : Run := ⟨[]⟩

/-- The run with one more execution at its end. -/
def push (run : Run) (e : Execution) : Run := ⟨run.executions ++ [e]⟩

/-- One run after another. -/
def append (run next : Run) : Run := ⟨run.executions ++ next.executions⟩

/-- The number of executions. -/
def count (run : Run) : Nat := run.executions.length

/-- Was nothing executed? -/
def isEmpty (run : Run) : Bool := run.executions.isEmpty

/-- The number of executions of a kind. -/
def countOf (kind : Kind) (run : Run) : Nat := run.executions.countP (·.kind = kind)

/-- The executions of a kind, in order. -/
def ofKind (kind : Kind) (run : Run) : Run := ⟨run.executions.filter (·.kind = kind)⟩

/-- The longest time that an execution took; zero for an empty run. -/
def maxElapsed (run : Run) : Nat := run.executions.foldl (fun m e => max m e.elapsed) 0

/-- Did some execution lack bound parameters? -/
def hasUnbound (run : Run) : Bool := run.executions.any fun e => !e.bound

end Run

end QueryAudit
