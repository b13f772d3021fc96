import DesktopTrial.Locator.Sighting
import DesktopTrial.Failure
import DesktopTrial.Session

/-!
# Pages

A page is anything that takes the eight calls below: a browser's page, or a model
of one.  Time is counted in milliseconds; it passes while a page makes up its
answer and while a run sleeps, and at no other time.
-/

namespace DesktopTrial

inductive Button where
  | primary
  /-- The button that opens context menus. -/
  | secondary
deriving DecidableEq, Repr

namespace Button

def text : Button → String
  | .primary => "primary"
  | .secondary => "secondary"

def document : Button → Document
  | .primary => .text "Primary"
  | .secondary => .text "Secondary"

def read? {ν : Type} [Source ν] (tree : ν) : Option Button :=
  match Source.choice? ["Primary", "Secondary"] tree with
  | some 0 => some .primary
  | some 1 => some .secondary
  | _ => none

end Button

/-- What a page can be asked to do. -/
inductive Call where
  | navigate (url : String)
  /-- The URL of the current document. -/
  | currentUrl
  /-- Write these entries into the storage of every later document. -/
  | install (entries : Storage)
  /-- Read an entry of the current document's storage. -/
  | readStorage (key : String)
  /-- All elements that match the selector, in document order. -/
  | query (locator : Locator)
  /-- Press and release a button. -/
  | click (point : Point) (button : Button)
  /-- The viewport as an image. -/
  | screenshot
  /-- Release the page. -/
  | close

/-- What a call that succeeds answers. -/
abbrev Call.Answer : Call → Type
  | .navigate _ => Unit
  | .currentUrl => String
  | .install _ => Unit
  | .readStorage _ => Option String
  | .query _ => List Sighting
  | .click _ _ => Unit
  | .screenshot => ByteArray
  | .close => Unit

/-- How a page in some state takes a call. -/
inductive Reply (σ α : Type) where
  /-- It answers after a while and is then in another state. -/
  | answered (latency : Nat) (result : Except Failure α) (after : σ)
  /-- It never answers, while time passes. -/
  | pending
  /-- After a while it holds up everything else, and never answers. -/
  | stuck (latency : Nat)

/-- A page with states of type `σ`. -/
structure Page (σ : Type) where
  reply : σ → (call : Call) → Reply σ call.Answer
  /-- The state after a query that is given up before it is answered. -/
  abandon : σ → Locator → σ

/-- A page's state and the time. -/
structure Moment (σ : Type) where
  page : σ
  clock : Nat

/-- Work on a state that may fail and may never end.  The state outlives a
failure. -/
abbrev Run (ω α : Type) := ExceptT Failure (StateT ω Option) α

namespace Run

variable {σ α : Type}

def endless {ω : Type} : Run ω α := fun _ => none

def sleep (duration : Nat) : Run (Moment σ) Unit :=
  modify fun moment => { moment with clock := moment.clock + duration }

/-- Makes a call and waits for its answer, however long it takes. -/
def ask (page : Page σ) (call : Call) : Run (Moment σ) call.Answer := fun moment =>
  match page.reply moment.page call with
  | .answered latency result after => some (result, ⟨after, moment.clock + latency⟩)
  | .pending => none
  | .stuck _ => none

/-- Goes on with work of which only the outcome is of interest. -/
def attempt {ω : Type} (run : Run ω α) : Run ω (Except Failure α) := fun state =>
  match run state with
  | some (outcome, after) => some (.ok outcome, after)
  | none => none

/-- Does work on a part of the state. -/
def on {ω ν : Type} (part : ω → ν) (put : ν → ω → ω) (run : Run ν α) : Run ω α := fun state =>
  match run (part state) with
  | some (outcome, after) => some (outcome, put after state)
  | none => none

end Run

end DesktopTrial
