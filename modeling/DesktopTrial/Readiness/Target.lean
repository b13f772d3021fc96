import DesktopTrial.Readiness.Wait

/-!
# Navigation targets

A URL together with the condition that shows that its document is there.
-/

namespace DesktopTrial

/-- Where to go and what to wait for.  The budget is in nanoseconds and not zero. -/
structure Target where
  url : String
  condition : Condition
  budget : Nat
  budget_pos : 0 < budget

namespace Target

/-- Refuses a budget of nothing. -/
def make (url : String) (condition : Condition) (budget : Nat) : Except Failure Target :=
  if h : 0 < budget then .ok ⟨url, condition, budget, h⟩
  else .error (.configuration "readiness timeout must be > 0")

/-- The whole milliseconds of the budget, up to the greatest 64-bit number. -/
def milliseconds (target : Target) : Nat := min (target.budget / 1000000) (UInt64.size - 1)

/-- Navigates to a target and waits for its condition. -/
def reach {σ : Type} (page : Page σ) (target : Target) (interval : Nat) :
    Run (Moment σ) Readiness.Awaited := do
  Run.ask page (.navigate target.url)
  Readiness.awaitReady page target.condition ⟨target.milliseconds, interval⟩

end Target

def currentPath {σ : Type} (page : Page σ) : Run (Moment σ) String := do
  return Url.path (← Run.ask page .currentUrl)

end DesktopTrial
