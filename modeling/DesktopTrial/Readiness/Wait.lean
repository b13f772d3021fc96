import DesktopTrial.Page
import DesktopTrial.Readiness.Condition

/-!
# Waiting for a page

A wait probes the page again and again until an answer is decisive or its budget
is used up.  Every probe is bounded by what is left of the budget, so a page that
does not answer cannot stretch the wait; an answer that comes exactly at the end
still counts.  A document that was replaced under a probe means "not yet".
-/

namespace DesktopTrial

/-- How long to wait and how long to pause between two probes. -/
structure Patience where
  budget : Nat := 10000
  interval : Nat := 50

def Timeouts.patience (t : Timeouts) : Patience := ⟨t.ready.toNat, t.poll.toNat⟩

namespace Readiness

variable {σ α : Type}

/-- What an answer to a probe decides: the wait's outcome, or nothing yet. -/
def verdict (accept : List Sighting → Option α) :
    Except Failure (List Sighting) → Option (Except Failure α)
  | .ok found => (accept found).map .ok
  | .error failure => if failure.isTransient then none else some (.error failure)

/-- Probes the page until an answer is accepted, and says how long that took.
`elapsed` is the time since the wait began and never more than the budget; `fuel`
bounds the number of probes. -/
def poll (page : Page σ) (locator : Locator) (goal : String) (patience : Patience)
    (accept : List Sighting → Option α) :
    (fuel elapsed : Nat) → Run (Moment σ) (α × Nat)
  | 0, _ => Run.endless
  | fuel + 1, elapsed => fun moment =>
      if patience.budget ≤ elapsed then some (.error (.timeout goal elapsed), moment)
      else
        let left := patience.budget - elapsed
        let cut := ⟨page.abandon moment.page locator, moment.clock + left⟩
        match page.reply moment.page (.query locator) with
        | .stuck latency =>
            if left < latency then some (.error (.timeout goal patience.budget), cut) else none
        | .pending => some (.error (.timeout goal patience.budget), cut)
        | .answered latency result after =>
            if left < latency then some (.error (.timeout goal patience.budget), cut)
            else
              let answered := moment.clock + latency
              match verdict accept result with
              | some outcome =>
                  some (outcome.map fun value => (value, elapsed + latency), ⟨after, answered⟩)
              | none =>
                  let pause := min patience.interval (left - latency)
                  poll page locator goal patience accept fuel (elapsed + latency + pause)
                    ⟨after, answered + pause⟩

/-- More probes than any wait makes that ever ends.  With a pause between probes
there are no more of them than milliseconds in the budget; without, only a page
that answers at once makes more. -/
def probeLimit (patience : Patience) : Nat := patience.budget + UInt64.size

/-- Waits until an answer is accepted. -/
def await (page : Page σ) (locator : Locator) (goal : String) (patience : Patience)
    (accept : List Sighting → Option α) : Run (Moment σ) (α × Nat) :=
  poll page locator goal patience accept (probeLimit patience) 0

/-- How long a wait took, and what it waited for. -/
structure Awaited where
  elapsed : Nat
  waitedFor : String
deriving DecidableEq, Repr

/-- Waits until a condition holds. -/
def awaitReady (page : Page σ) (condition : Condition) (patience : Patience) :
    Run (Moment σ) Awaited := do
  let ((), elapsed) ← await page condition.locator condition.describe patience fun found =>
    if condition.holds found then some () else none
  return ⟨elapsed, condition.describe⟩

/-- The box of the element that a locator refers to, if it is visible. -/
def visibleBox? (locator : Locator) (found : List Sighting) : Option Box :=
  match locator.resolve found with
  | .ok element => element.visibleBox?
  | .error _ => none

/-- Waits until the located element is visible, and gives its box. -/
def awaitVisible (page : Page σ) (locator : Locator) (patience : Patience) :
    Run (Moment σ) Box := do
  let (box, _) ← await page locator (locator.describe ++ " visible") patience
    (visibleBox? locator)
  return box

end Readiness

end DesktopTrial
