import DesktopTrial.Locator.Sighting
import DesktopTrial.Text.Lowercase
import DesktopTrial.Text.Search

/-!
# Model applications

A model of the application under test: the elements of its document, and how it
treats visitors, clicks and queries.
-/

namespace DesktopTrial.Model

structure Element where
  id : String
  box : Box
  /-- The CSS selectors that the element answers to. -/
  css : List String := []
  role : Option String := none
  /-- The accessible name. -/
  name : String := ""
  text : String := ""
  shown : Bool := true
  /-- The elements that a primary click on this one shows, by their ids. -/
  reveals : List String := []
  /-- A secondary click on this element opens the context menu. -/
  opensMenu : Bool := false
  /-- The element is there only when the backend answers. -/
  needsBackend : Bool := false
  /-- The id of the enclosing element. -/
  parent : Option String := none

/-- Does a text match the wanted one, as a whole or, in lower case, in a part? -/
def textMatches (actual wanted : String) (exact : Bool) : Bool :=
  if exact then actual == wanted
  else Text.contains (Text.lowercase actual) (Text.lowercase wanted)

namespace Element

/-- Does the element itself match?  Where it stands is not asked here. -/
def fits (e : Element) : Selector → Bool
  | .css pattern => e.css.contains pattern
  | .role kind name exact => e.role == some kind && textMatches e.name name exact
  | .text wanted exact => textMatches e.text wanted exact
  | .cssWithText pattern wanted => e.css.contains pattern && textMatches e.text wanted false
  | .textWithin _ _ wanted exact => textMatches e.text wanted exact

def sighting (e : Element) : Sighting :=
  (if e.shown then Sighting.inBox e.box else Sighting.hidden).withText e.text

end Element

structure App where
  /-- The elements of the application's document, before any click. -/
  elements : List Element := []
  /-- The id of the context menu. -/
  menuId : String := "context-menu"
  /-- The path of the application's document. -/
  documentPath : String := "/desktop"
  /-- Where visitors without a session are sent. -/
  loginPath : String := "/login"
  /-- The storage key that makes a session. -/
  tokenKey : String := "auth_token"
  /-- The page has no access to its storage. -/
  storageBlocked : Bool := false
  /-- The backend answers. -/
  backendAvailable : Bool := true
  /-- Clicks beside the context menu leave it open. -/
  stickyMenu : Bool := false
  /-- Queries with this selector fail. -/
  failing : Option Selector := none
  /-- How many queries find the document replaced, after each navigation. -/
  replacements : Nat := 0
  /-- The time that a query takes, in milliseconds. -/
  queryDelay : Nat := 0

/-- Gives the first element with an id another box. -/
def placeFirst (id : String) (box : Box) : List Element → List Element
  | [] => []
  | e :: rest => if e.id = id then { e with box } :: rest else e :: placeFirst id box rest

namespace App

def withBox (id : String) (box : Box) (app : App) : App :=
  { app with elements := placeFirst id box app.elements }

def withoutElement (id : String) (app : App) : App :=
  { app with elements := app.elements.filter fun e => e.id != id }

/-- Lets a secondary click on the elements with an id open the context menu. -/
def withMenuTarget (id : String) (app : App) : App :=
  { app with
    elements := app.elements.map fun e => if e.id = id then { e with opensMenu := true } else e }

end App

/-- An icon of the desktop that opens a window. -/
def icon (id name : String) (y : Float) (window : String) : Element where
  id := id
  box := ⟨24, y, 80, 80⟩
  css := ["button.desktop-icon", ".desktop-icon"]
  role := some "button"
  name := name
  text := name
  reveals := [window]

def activityText (id text : String) (box : Box) : Element where
  id := id
  box := box
  text := text
  shown := false
  parent := some "window-activity"

def activityTab (id name : String) (box : Box) : Element :=
  { activityText id name box with role := some "button", name }

/-- The elements of the desktop in a viewport of 1280 by 800 pixels. -/
def desktopElements : List Element :=
  [{ id := "background", box := ⟨0, 0, 1280, 800⟩, css := [".desktop"], opensMenu := true },
   { id := "menubar", box := ⟨0, 0, 1280, 28⟩, css := [".desktop-menubar"], text := "Mynt NAS" },
   { id := "icon-grid", box := ⟨16, 40, 96, 200⟩, css := [".desktop-icon-grid"] },
   icon "icon-activity" "Activity Monitor" 48 "window-activity",
   icon "icon-settings" "Settings" 144 "window-settings",
   { id := "dock", box := ⟨340, 740, 600, 56⟩, css := [".desktop-dock"] },
   { id := "window-activity", box := ⟨240, 100, 800, 600⟩, css := [".desktop-window"],
     shown := false,
     reveals := ["title-activity", "tab-cpu", "tab-memory", "header-process", "header-cpu",
       "row-process"] },
   activityText "title-activity" "Activity Monitor" ⟨560, 104, 160, 20⟩,
   activityTab "tab-cpu" "CPU" ⟨260, 140, 60, 24⟩,
   activityTab "tab-memory" "Memory" ⟨330, 140, 80, 24⟩,
   activityText "header-process" "Process Name" ⟨260, 180, 200, 20⟩,
   activityText "header-cpu" "% CPU" ⟨700, 180, 60, 20⟩,
   { activityText "row-process" "myntd" ⟨260, 204, 760, 20⟩ with
     css := [".process-row"], needsBackend := true },
   { id := "window-settings", box := ⟨240, 100, 800, 600⟩, css := [".desktop-window"],
     text := "Settings", shown := false },
   { id := "context-menu", box := ⟨500, 500, 180, 96⟩, css := [".context-menu"],
     text := "Change Wallpaper", shown := false }]

def desktop : App := { elements := desktopElements }

end DesktopTrial.Model
