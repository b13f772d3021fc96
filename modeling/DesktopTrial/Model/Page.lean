import DesktopTrial.Model.Click
import DesktopTrial.Model.Selection
import DesktopTrial.Page

/-!
# Model pages

A page of a model application.  It remembers what it was asked to do.
-/

namespace DesktopTrial.Model

structure PageState where
  url : String := "about:blank"
  /-- The document is the application's. -/
  rendered : Bool := false
  elements : List Element
  /-- The entries that a navigation writes into the storage. -/
  installed : Option Storage := none
  /-- How many installations changed something. -/
  installs : Nat := 0
  storage : Storage := Dictionary.empty
  /-- What the page was asked to do. -/
  history : List String := []
  closed : Bool := false
  /-- How many more queries find the document replaced. -/
  replacements : Nat := 0

def PageState.fresh (app : App) : PageState := { elements := app.elements }

namespace PageState

def note (entry : String) (s : PageState) : PageState :=
  { s with history := s.history ++ [entry] }

def menuOpen (app : App) (s : PageState) : Bool :=
  s.rendered && s.elements.any fun e => e.id == app.menuId && e.shown

/-- Did something happen whose entry begins like this? -/
def wasAsked (start : String) (s : PageState) : Bool :=
  s.history.any fun entry => Text.startsWith entry start

/-- The storage of the next document. -/
def nextStorage (app : App) (s : PageState) : Storage :=
  match app.storageBlocked, s.installed with
  | false, some entries => s.storage.merge entries
  | _, _ => s.storage

/-- Where a visitor with this storage ends up.  Without a session only the root and
the login page are open. -/
def landing (app : App) (storage : Storage) (url : String) : String :=
  if storage.has app.tokenKey || Url.path url == "/" || Url.path url == app.loginPath then url
  else Url.origin url ++ app.loginPath

/-- The state after a navigation that is made. -/
def visit (app : App) (url : String) (s : PageState) : PageState :=
  let storage := s.nextStorage app
  let landed := landing app storage url
  { s with
    url := landed
    rendered := Url.path landed == app.documentPath
    elements := app.elements
    storage
    replacements := app.replacements }

/-- The state after an installation.  One that changes nothing is none. -/
def install (entries : Storage) (s : PageState) : PageState :=
  if s.installed = some entries then s
  else { s with installed := some entries, installs := s.installs + 1 }.note
    "install_storage_seed"

/-- The elements that are present, given what the backend does. -/
def present (app : App) (s : PageState) : List Element :=
  s.elements.filter fun e => !e.needsBackend || app.backendAvailable

/-- The state after a click. -/
def click (app : App) (p : Point) (button : Button) (s : PageState) : PageState :=
  let noted := s.note ("click:" ++ button.text ++ "@" ++ p.text)
  if !s.rendered then noted
  else match button with
    | .secondary => { noted with elements := secondaryClick app p s.elements }
    | .primary =>
        let (elements, item) := primaryClick app p s.elements
        let clicked := { noted with elements }
        match item with
        | some text => clicked.note ("menu_item:" ++ text)
        | none => clicked

end PageState

def closedFailure : Failure := .driver "browsing context already closed"

def blockedFailure : Failure :=
  .bootstrap "SecurityError: access to 'localStorage' is denied for this document"

def replacedFailure : Failure :=
  .replaced "Execution context was destroyed, most likely because of a navigation"

/-- The answer to a query of an open page. -/
def queryReply (app : App) (s : PageState) (locator : Locator) :
    Reply PageState (List Sighting) :=
  if app.failing = some locator.selector then
    .answered app.queryDelay
      (.error (.driver ("Runtime.evaluate failed for " ++ locator.describe))) s
  else if 0 < s.replacements then
    .answered app.queryDelay (.error replacedFailure)
      { s with replacements := s.replacements - 1 }
  else if !s.rendered then .answered app.queryDelay (.ok []) s
  else match select? (s.present app) locator.selector with
    | some found => .answered app.queryDelay (.ok (found.map Element.sighting)) s
    | none => .stuck app.queryDelay

/-- The image that every screenshot of a model page is: the mark of the format. -/
def image : ByteArray := ⟨#[0x89, 0x50, 0x4E, 0x47, 0x0D, 0x0A, 0x1A, 0x0A]⟩

/-- How a page that is not closed takes a call. -/
def openReply (app : App) (s : PageState) : (call : Call) → Reply PageState call.Answer
  | .navigate url =>
      let noted := s.note ("navigate:" ++ Url.path url)
      if Url.isAbsolute url then .answered 0 (.ok ()) (noted.visit app url)
      else .answered 0 (.error (.navigation url "invalid URL")) noted
  | .currentUrl => .answered 0 (.ok s.url) s
  | .install entries => .answered 0 (.ok ()) (s.install entries)
  | .readStorage key =>
      if app.storageBlocked then .answered 0 (.error blockedFailure) s
      else .answered 0 (.ok (s.storage.find? key)) s
  | .query locator => queryReply app s locator
  | .click p button => .answered 0 (.ok ()) (s.click app p button)
  | .screenshot => .answered 0 (.ok image) (s.note "screenshot")
  | .close => .answered 0 (.ok ()) ({ s with closed := true }.note "close")

/-- How a closed page takes a call: it can be closed again, and nothing else. -/
def closedReply (app : App) (s : PageState) : (call : Call) → Reply PageState call.Answer
  | .close => .answered 0 (.ok ()) s
  | .query _ => .answered app.queryDelay (.error closedFailure) s
  | _ => .answered 0 (.error closedFailure) s

/-- The pages of an application.  A query that is given up changes nothing. -/
def page (app : App) : Page PageState where
  reply s call := if s.closed then closedReply app s call else openReply app s call
  abandon s _ := s

end DesktopTrial.Model
