import DesktopTrial.Check
import DesktopTrial.Failure
import DesktopTrial.Locator.Basic
import DesktopTrial.Url

/-!
# Configuration

Every URL, time, coordinate and selector that the built-in scenarios depend on.
A configuration is checked before anything is run with it.
-/

namespace DesktopTrial

/-- Times in milliseconds. -/
structure Timeouts where
  /-- Budget of a wait for readiness. -/
  ready : UInt64 := 10000
  /-- Pause after an interaction. -/
  settle : UInt64 := 1000
  /-- Pause between two probes of a wait. -/
  poll : UInt64 := 50

structure SessionSettings where
  token : String := "mock-token"
  username : String := "admin"
  /-- Further fields of the stored user. -/
  userFields : Dictionary Json :=
    Dictionary.ofList [("is_admin", .bool true), ("role", .string "admin")]

/-- How the parts of the desktop are recognised. -/
structure Markers where
  desktopPath : String := "/desktop"
  loginPath : String := "/login"
  /-- A text that only the rendered desktop shows. -/
  readyText : String := "Mynt NAS"
  menuBar : String := ".desktop-menubar"
  dock : String := ".desktop-dock"
  icon : String := ".desktop-icon"
  window : String := ".desktop-window"
  contextMenu : Locator := .byText "Change Wallpaper"
  /-- The application opened by the activity scenario. -/
  activityApp : String := "Activity Monitor"
  /-- The application opened by the centering scenario. -/
  centeringApp : String := "Settings"

structure BrowserSettings where
  headless : Bool := true
  /-- The browser's executable; found by itself when not given. -/
  executable : Option String := none
  sandbox : Bool := true
  /-- Budget of a single request to the browser, in milliseconds. -/
  requestTimeout : UInt64 := 30000

structure Configuration where
  baseUrl : String := "http://localhost:5173"
  viewport : Size := ⟨1280, 800⟩
  timeouts : Timeouts := {}
  /-- By how many pixels a centered window may be off. -/
  tolerance : UInt32 := 5
  /-- The directory of the screenshots. -/
  artifactDir : String := "verification"
  session : SessionSettings := {}
  markers : Markers := {}
  /-- The size of an application window. -/
  window : Size := ⟨800, 600⟩
  /-- An empty spot of the desktop, where a right-click opens the menu. -/
  backgroundPoint : Point := ⟨500, 500⟩
  /-- An empty spot where a click dismisses the menu. -/
  dismissPoint : Point := ⟨900, 300⟩
  browser : BrowserSettings := {}

namespace Configuration

/-- The URL of a route of the application. -/
def url (config : Configuration) (route : String) : String := Url.join config.baseUrl route

/-- Where a window is expected when it is centered. -/
def centering (config : Configuration) : Centering :=
  ⟨config.viewport, config.window, config.tolerance⟩

/-- Does the base URL name one of the two web schemes? -/
def isWebUrl (url : String) : Bool :=
  Text.startsWith url "http://" || Text.startsWith url "https://"

/-- Does the point lie inside a viewport of this size? -/
def inViewport (viewport : Size) (p : Point) : Bool :=
  0 ≤ p.x && 0 ≤ p.y && p.x < floatOfWord viewport.width && p.y < floatOfWord viewport.height

def showSize (s : Size) : String :=
  showNat s.width.toNat ++ "x" ++ showNat s.height.toNat

/-- The first thing about the configuration that no scenario can run with. -/
def fault? (config : Configuration) : Option String :=
  if !isWebUrl config.baseUrl then
    some ("base_url must be an http(s) URL, got " ++ Text.quoted config.baseUrl)
  else if config.viewport.width = 0 ∨ config.viewport.height = 0 then
    some "viewport must be non-empty"
  else if config.timeouts.ready = 0 then some "timeouts.ready_ms must be > 0"
  else if config.timeouts.poll = 0 then some "timeouts.poll_ms must be > 0"
  else if !inViewport config.viewport config.backgroundPoint then
    some ("background_point " ++ config.backgroundPoint.text ++ " lies outside the viewport")
  else if !inViewport config.viewport config.dismissPoint then
    some ("dismiss_point " ++ config.dismissPoint.text ++ " lies outside the viewport")
  else if config.viewport.width < config.window.width ∨
      config.viewport.height < config.window.height then
    some ("window " ++ showSize config.window ++ " does not fit viewport " ++
      showSize config.viewport)
  else none

/-- Refuses a configuration that no scenario can run with. -/
def validate (config : Configuration) : Except Failure Unit :=
  match config.fault? with
  | some fault => .error (.configuration fault)
  | none => .ok ()

end Configuration

end DesktopTrial
