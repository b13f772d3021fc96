import DesktopTrial.Page

/-!
# Sessions on a page

A session is installed before the first document exists, so it can be confirmed
only after a navigation.
-/

namespace DesktopTrial.Seed

variable {σ : Type}

/-- Installs a session for every later document of the page. -/
def install (page : Page σ) (seed : Seed) : Run (Moment σ) Unit := do
  Run.ask page (.install (← MonadExcept.ofExcept seed.entries))

/-- Confirms that a stored entry has the value that was installed. -/
def confirm (page : Page σ) (key expected : String) : Run (Moment σ) Unit := do
  match ← Run.ask page (.readStorage key) with
  | some actual =>
      if actual = expected then return ()
      else throw (.bootstrap ("storage key " ++ Text.quoted key ++
        " was overwritten before verification"))
  | none =>
      throw (.bootstrap ("storage key " ++ Text.quoted key ++ " missing after navigation"))

/-- Confirms every entry of the session in the page's current document. -/
def verify (page : Page σ) (seed : Seed) : Run (Moment σ) Unit := do
  let entries ← MonadExcept.ofExcept seed.entries
  entries.entries.forM fun entry => confirm page entry.1 entry.2

end DesktopTrial.Seed
