import DesktopTrial.Harness

/-!
# Injected faults

Pages on which chosen calls fail before they reach the page.
-/

namespace DesktopTrial

inductive Method where
  | navigate
  | currentUrl
  | install
  | readStorage
  | query
  | click
  | screenshot
  | close
deriving DecidableEq, Repr

def Call.method : Call → Method
  | .navigate _ => .navigate
  | .currentUrl => .currentUrl
  | .install _ => .install
  | .readStorage _ => .readStorage
  | .query _ => .query
  | .click _ _ => .click
  | .screenshot => .screenshot
  | .close => .close

/-- A failure of the calls of one kind: the `nth` on a page, counted from one, or
all of them when `nth` is zero. -/
structure Fault where
  method : Method
  nth : Nat
  failure : Failure

def Fault.strikes (fault : Fault) (method : Method) (count : Nat) : Bool :=
  fault.method == method && (fault.nth == 0 || fault.nth == count)

/-- A state together with the number of calls of each kind made on each page. -/
structure Counted (σ η : Type) where
  inner : σ
  counts : List ((η × Method) × Nat) := []

namespace Counted

variable {σ η : Type} [DecidableEq η]

def count (s : Counted σ η) (handle : η) (method : Method) : Nat :=
  (s.counts.lookup (handle, method)).getD 0

def note (s : Counted σ η) (handle : η) (method : Method) : Counted σ η :=
  { s with
    counts := ((handle, method), s.count handle method + 1) ::
      s.counts.filter fun entry => entry.1 != (handle, method) }

end Counted

variable {σ η : Type} [DecidableEq η]

/-- The page on which the first fault that strikes a call answers it at once. -/
def Page.withFaults (faults : List Fault) (handle : η) (page : Page σ) : Page (Counted σ η) where
  reply s call :=
    let noted := s.note handle call.method
    match faults.find? fun fault => fault.strikes call.method (noted.count handle call.method) with
    | some fault => .answered 0 (.error fault.failure) noted
    | none =>
        match page.reply s.inner call with
        | .answered latency result after => .answered latency result { noted with inner := after }
        | .pending => .pending
        | .stuck latency => .stuck latency
  abandon s locator :=
    { s.note handle .query with inner := page.abandon s.inner locator }

/-- The pool of such pages. -/
def Pool.withFaults (faults : List Fault) (pool : Pool σ η) : Pool (Counted σ η) η where
  «open» s viewport :=
    match pool.open s.inner viewport with
    | (opened, after) => (opened, { s with inner := after })
  page handle := (pool.page handle).withFaults faults handle

end DesktopTrial
