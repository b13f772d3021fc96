import DesktopTrial.Harness
import DesktopTrial.Model.Page

/-!
# Pools of model pages

All pages of a pool show the same application and share nothing else.
-/

namespace DesktopTrial.Model

/-- The pages that were handed out, in order, and how many were released. -/
structure PoolState where
  pages : List PageState := []
  released : Nat := 0

namespace PoolState

def opened (s : PoolState) : Nat := s.pages.length

def update (s : PoolState) (handle : Nat) (before after : PageState) : PoolState where
  pages := s.pages.set handle after
  released := if after.closed && !before.closed then s.released + 1 else s.released

end PoolState

def pageOf (app : App) (handle : Nat) : Page PoolState where
  reply s call :=
    match s.pages[handle]? with
    | none => .stuck 0
    | some state =>
        match (page app).reply state call with
        | .answered latency result after => .answered latency result (s.update handle state after)
        | .pending => .pending
        | .stuck latency => .stuck latency
  abandon s locator :=
    match s.pages[handle]? with
    | none => s
    | some state => s.update handle state ((page app).abandon state locator)

/-- A pool of pages of an application; one that is failing opens none. -/
def pool (app : App) (failing : Bool) : Pool PoolState Nat where
  «open» s _ :=
    if failing then (.error (.driver "Target.createBrowserContext failed"), s)
    else (.ok s.pages.length, { s with pages := s.pages ++ [PageState.fresh app] })
  page := pageOf app

end DesktopTrial.Model
