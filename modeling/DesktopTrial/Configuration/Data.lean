import DesktopTrial.Configuration.Basic
import DesktopTrial.Locator.Data

/-!
# Configurations as data

The written form of configurations and their readers.  Every setting that is not
given keeps its standard value.
-/

namespace DesktopTrial

variable {ν : Type} [Source ν]

namespace Timeouts

def document (t : Timeouts) : Document :=
  .mapping [("ready_ms", .natural t.ready.toNat), ("settle_ms", .natural t.settle.toNat),
    ("poll_ms", .natural t.poll.toNat)]

def read? (tree : ν) : Option Timeouts :=
  let standard : Timeouts := {}
  match Source.record? 3 tree with
  | none => none
  | some fields =>
      match fields.defaulted? 0 "ready_ms" Source.word64? standard.ready,
          fields.defaulted? 1 "settle_ms" Source.word64? standard.settle,
          fields.defaulted? 2 "poll_ms" Source.word64? standard.poll with
      | some ready, some settle, some poll => some ⟨ready, settle, poll⟩
      | _, _, _ => none

end Timeouts

namespace SessionSettings

def document (s : SessionSettings) : Document :=
  .mapping [("token", .text s.token), ("username", .text s.username),
    ("user_fields", .ofJson (.ofDictionary s.userFields))]

def read? (tree : ν) : Option SessionSettings :=
  let standard : SessionSettings := {}
  match Source.record? 3 tree with
  | none => none
  | some fields =>
      match fields.defaulted? 0 "token" Source.text? standard.token,
          fields.defaulted? 1 "username" Source.text? standard.username,
          fields.defaulted? 2 "user_fields" Source.dictionary? standard.userFields with
      | some token, some username, some userFields => some ⟨token, username, userFields⟩
      | _, _, _ => none

end SessionSettings

namespace Markers

def document (m : Markers) : Document :=
  .mapping [("desktop_path", .text m.desktopPath), ("login_path", .text m.loginPath),
    ("desktop_ready_text", .text m.readyText), ("menu_bar", .text m.menuBar),
    ("dock", .text m.dock), ("icon", .text m.icon), ("window", .text m.window),
    ("context_menu", m.contextMenu.document), ("activity_app", .text m.activityApp),
    ("centering_app", .text m.centeringApp)]

def read? (tree : ν) : Option Markers := do
  let standard : Markers := {}
  let fields ← Source.record? 10 tree
  let text (place : Nat) (name standard : String) :=
    fields.defaulted? place name Source.text? standard
  let desktopPath ← text 0 "desktop_path" standard.desktopPath
  let loginPath ← text 1 "login_path" standard.loginPath
  let readyText ← text 2 "desktop_ready_text" standard.readyText
  let menuBar ← text 3 "menu_bar" standard.menuBar
  let dock ← text 4 "dock" standard.dock
  let icon ← text 5 "icon" standard.icon
  let window ← text 6 "window" standard.window
  let contextMenu ← fields.defaulted? 7 "context_menu" Locator.read? standard.contextMenu
  let activityApp ← text 8 "activity_app" standard.activityApp
  let centeringApp ← text 9 "centering_app" standard.centeringApp
  return { desktopPath, loginPath, readyText, menuBar, dock, icon, window, contextMenu,
           activityApp, centeringApp }

end Markers

namespace BrowserSettings

def document (b : BrowserSettings) : Document :=
  .mapping [("headless", .bool b.headless), ("chromium_path", .ofOption .text b.executable),
    ("sandbox", .bool b.sandbox), ("request_timeout_ms", .natural b.requestTimeout.toNat)]

def read? (tree : ν) : Option BrowserSettings :=
  let standard : BrowserSettings := {}
  match Source.record? 4 tree with
  | none => none
  | some fields =>
      match fields.defaulted? 0 "headless" Source.bool? standard.headless,
          fields.defaulted? 1 "chromium_path" (Source.optionOf? Source.text?)
            standard.executable,
          fields.defaulted? 2 "sandbox" Source.bool? standard.sandbox,
          fields.defaulted? 3 "request_timeout_ms" Source.word64? standard.requestTimeout with
      | some headless, some executable, some sandbox, some requestTimeout =>
          some ⟨headless, executable, sandbox, requestTimeout⟩
      | _, _, _, _ => none

end BrowserSettings

namespace Configuration

def document (c : Configuration) : Document :=
  .mapping [("base_url", .text c.baseUrl), ("viewport", c.viewport.document),
    ("timeouts", c.timeouts.document), ("tolerance_px", .natural c.tolerance.toNat),
    ("artifact_dir", .text c.artifactDir), ("session", c.session.document),
    ("markers", c.markers.document), ("window", c.window.document),
    ("background_point", c.backgroundPoint.document),
    ("dismiss_point", c.dismissPoint.document), ("browser", c.browser.document)]

def read? (tree : ν) : Option Configuration := do
  let standard : Configuration := {}
  let fields ← Source.record? 11 tree
  let baseUrl ← fields.defaulted? 0 "base_url" Source.text? standard.baseUrl
  let viewport ← fields.defaulted? 1 "viewport" Size.read? standard.viewport
  let timeouts ← fields.defaulted? 2 "timeouts" Timeouts.read? standard.timeouts
  let tolerance ← fields.defaulted? 3 "tolerance_px" Source.word32? standard.tolerance
  let artifactDir ← fields.defaulted? 4 "artifact_dir" Source.text? standard.artifactDir
  let session ← fields.defaulted? 5 "session" SessionSettings.read? standard.session
  let markers ← fields.defaulted? 6 "markers" Markers.read? standard.markers
  let window ← fields.defaulted? 7 "window" Size.read? standard.window
  let backgroundPoint ←
    fields.defaulted? 8 "background_point" Point.read? standard.backgroundPoint
  let dismissPoint ← fields.defaulted? 9 "dismiss_point" Point.read? standard.dismissPoint
  let browser ← fields.defaulted? 10 "browser" BrowserSettings.read? standard.browser
  return { baseUrl, viewport, timeouts, tolerance, artifactDir, session, markers, window,
           backgroundPoint, dismissPoint, browser }

end Configuration

end DesktopTrial
