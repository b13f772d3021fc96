import DesktopTrial.Configuration.Basic
import DesktopTrial.Scenario

/-!
# The catalog

The built-in scenarios for the desktop.
-/

namespace DesktopTrial.Catalog

def names : List String := ["activity-monitor", "context-menu", "window-centering"]

/-- The steps that every built-in scenario begins with. -/
def openDesktop (markers : Markers) : List Step :=
  [.navigate markers.desktopPath, .assertNotRedirected "session bypasses login"]

/-- Opens the activity monitor from its icon and checks what it shows. -/
def activityMonitor (config : Configuration) : Scenario :=
  let m := config.markers
  let inWindow (name wanted : String) : Step :=
    .assertText name (some (Locator.css m.window).first) wanted .first
  let tab (name : String) : Step := .assertVisible (name ++ " tab") (.byRole "button" name)
  { name := "activity-monitor"
    description := "opens the activity monitor and shows its tabs and process columns"
    steps := openDesktop m ++
      [.awaitReady (.textVisible m.readyText .first),
       .click (Locator.byRole "button" m.activityApp).first,
       .awaitReady (.textVisible m.activityApp (.nth 1)),
       inWindow "window title" m.activityApp,
       tab "CPU",
       tab "Memory",
       inWindow "process name column" "Process Name",
       inWindow "cpu column" "% CPU",
       .settle,
       .checkpoint "activity_monitor"] }

/-- Right-clicks the regions of the desktop; only the background opens the menu. -/
def contextMenu (config : Configuration) : Scenario :=
  let m := config.markers
  { name := "context-menu"
    description := "context menu opens on the background only"
    steps := openDesktop m ++
      [.awaitReady (.selectorPresent m.menuBar),
       .probeRegions [⟨"background", .point config.backgroundPoint, true⟩],
       .checkpoint "desktop_context_menu",
       .probeRegions
         [⟨"menu bar", .locator (.css m.menuBar), false⟩,
          ⟨"desktop icon", .locator (Locator.css m.icon).first, false⟩,
          ⟨"dock", .locator (.css m.dock), false⟩],
       .checkpoint "no_context_menu"] }

/-- Opens an application and checks that its window is centered. -/
def windowCentering (config : Configuration) : Scenario :=
  let m := config.markers
  let showing (pattern : String) : Locator :=
    ((Locator.css pattern).withText m.centeringApp).first
  { name := "window-centering"
    description := "a newly opened window is centered in the viewport"
    steps := openDesktop m ++
      [.awaitReady (.selectorPresent m.icon),
       .click (showing m.icon),
       .awaitReady (.selectorPresent m.window),
       .settle,
       .checkpoint "window_centering",
       .assertCentered (m.centeringApp ++ " window centered") (showing m.window)] }

def all (config : Configuration) : List Scenario :=
  [activityMonitor config, contextMenu config, windowCentering config]

def find? (config : Configuration) (name : String) : Option Scenario :=
  (all config).find? fun scenario => scenario.name == name

/-- The names in a selection that no built-in scenario has are refused with this
text. -/
def unknownText (name : String) : String :=
  "unknown scenario " ++ Text.quoted name ++ " (known: " ++ ", ".intercalate names ++ ")"

/-- The scenarios with these names, in this order; all of them when none is named. -/
def select (config : Configuration) (wanted : List String) : Except String (List Scenario) :=
  if wanted.isEmpty then .ok (all config)
  else wanted.mapM fun name =>
    match find? config name with
    | some scenario => .ok scenario
    | none => .error (unknownText name)

end DesktopTrial.Catalog
