import DesktopTrial.Configuration.Data
import DesktopTrial.Proofs.Locator.Data
import DesktopTrial.Proofs.Yaml.Freeform

/-!
# Configurations are read as they are written

A tree that denotes the document of some settings is read as these settings.  Every
setting is written, so that no standard value is ever used.
-/

namespace DesktopTrial

section Settings

variable {ν : Type} [Source ν] (D : Denotation ν) {tree : ν}

theorem Size.read?_denoted {size : Size} (htree : D.denotes tree size.document) :
    read? tree = some size := by
  obtain ⟨fields, hfields, hoffers⟩ := D.record htree (by simp) 2
  have hwidth : fields.required? 0 "width" Source.word32? = some size.width :=
    hoffers.given (fun _ => D.word32) (by simp)
  have hheight : fields.required? 1 "height" Source.word32? = some size.height :=
    hoffers.given (fun _ => D.word32) (by simp)
  simp only [read?, hfields, hwidth, hheight]

theorem Timeouts.read?_denoted {timeouts : Timeouts} (htree : D.denotes tree timeouts.document) :
    read? tree = some timeouts := by
  obtain ⟨fields, hfields, hoffers⟩ := D.record htree (by simp) 3
  have hready (standard : UInt64) :
      fields.defaulted? 0 "ready_ms" Source.word64? standard = some timeouts.ready :=
    hoffers.given (fun _ => D.word64) (by simp)
  have hsettle (standard : UInt64) :
      fields.defaulted? 1 "settle_ms" Source.word64? standard = some timeouts.settle :=
    hoffers.given (fun _ => D.word64) (by simp)
  have hpoll (standard : UInt64) :
      fields.defaulted? 2 "poll_ms" Source.word64? standard = some timeouts.poll :=
    hoffers.given (fun _ => D.word64) (by simp)
  simp only [read?, hfields, hready, hsettle, hpoll]

theorem BrowserSettings.read?_denoted {browser : BrowserSettings}
    (htree : D.denotes tree browser.document) : read? tree = some browser := by
  obtain ⟨fields, hfields, hoffers⟩ := D.record htree (by simp) 4
  have hheadless (standard : Bool) :
      fields.defaulted? 0 "headless" Source.bool? standard = some browser.headless :=
    hoffers.given (fun _ => D.bool) (by simp)
  have hexecutable (standard : Option String) :
      fields.defaulted? 1 "chromium_path" (Source.optionOf? Source.text?) standard =
        some browser.executable :=
    hoffers.given (fun _ => D.optionalText) (by simp)
  have hsandbox (standard : Bool) :
      fields.defaulted? 2 "sandbox" Source.bool? standard = some browser.sandbox :=
    hoffers.given (fun _ => D.bool) (by simp)
  have htimeout (standard : UInt64) :
      fields.defaulted? 3 "request_timeout_ms" Source.word64? standard =
        some browser.requestTimeout :=
    hoffers.given (fun _ => D.word64) (by simp)
  simp only [read?, hfields, hheadless, hexecutable, hsandbox, htimeout]

/-- A text that is given is read, whatever its standard value. -/
theorem Denotation.Offers.text {members : List (String × Document)} {fields : Fields ν}
    (hoffers : D.Offers members fields) (place : Nat) (name value : String)
    (hmember : (name, .text value) ∈ members) (standard : String) :
    fields.defaulted? place name Source.text? standard = some value :=
  hoffers.given (fun _ => D.text) hmember

/-- The markers are read when the selector of the menu can be set aside. -/
theorem Markers.read?_denoted {markers : Markers}
    (hkeeps : D.keeps markers.contextMenu.selector.members)
    (htree : D.denotes tree markers.document) : read? tree = some markers := by
  obtain ⟨fields, hfields, hoffers⟩ := D.record htree (by simp) 10
  have hdesktop := hoffers.text D 0 "desktop_path" markers.desktopPath (by simp)
  have hlogin := hoffers.text D 1 "login_path" markers.loginPath (by simp)
  have hready := hoffers.text D 2 "desktop_ready_text" markers.readyText (by simp)
  have hmenuBar := hoffers.text D 3 "menu_bar" markers.menuBar (by simp)
  have hdock := hoffers.text D 4 "dock" markers.dock (by simp)
  have hicon := hoffers.text D 5 "icon" markers.icon (by simp)
  have hwindow := hoffers.text D 6 "window" markers.window (by simp)
  have hmenu (standard : Locator) :
      fields.defaulted? 7 "context_menu" Locator.read? standard = some markers.contextMenu :=
    hoffers.given (fun _ => Locator.read?_denoted D hkeeps) (by simp)
  have hactivity := hoffers.text D 8 "activity_app" markers.activityApp (by simp)
  have hcentering := hoffers.text D 9 "centering_app" markers.centeringApp (by simp)
  simp only [read?, hfields, hdesktop, hlogin, hready, hmenuBar, hdock, hicon, hwindow, hmenu,
    hactivity, hcentering, Option.bind_eq_bind, Option.bind_some]
  rfl

end Settings

/-! ## Configurations in YAML text -/

open Yaml.Cursor (Denotes)

variable {cursor : Yaml.Cursor}

/-- A point with finite coordinates is read. -/
theorem Point.read?_denoted {p : Point} (hx : p.x.isFinite = true) (hy : p.y.isFinite = true)
    (htree : Denotes cursor p.document) : read? cursor = some p := by
  obtain ⟨fields, hfields, hoffers⟩ := Yaml.denotation.record htree (by simp) 2
  have hfirst : fields.required? 0 "x" Source.float? = some p.x :=
    hoffers.given (fun _ hgiven => Denotes.float? hgiven hx) (by simp)
  have hsecond : fields.required? 1 "y" Source.float? = some p.y :=
    hoffers.given (fun _ hgiven => Denotes.float? hgiven hy) (by simp)
  simp only [read?, hfields, hfirst, hsecond]

theorem SessionSettings.read?_denoted {session : SessionSettings}
    (hregular : Json.RegularMembers session.userFields.entries)
    (htree : Denotes cursor session.document) : read? cursor = some session := by
  obtain ⟨fields, hfields, hoffers⟩ := Yaml.denotation.record htree (by simp) 3
  have htoken := hoffers.text _ 0 "token" session.token (by simp)
  have husername := hoffers.text _ 1 "username" session.username (by simp)
  have huserFields (standard : Dictionary Json) :
      fields.defaulted? 2 "user_fields" Source.dictionary? standard = some session.userFields :=
    hoffers.given (fun _ hgiven => Denotes.dictionary? hgiven hregular) (by simp)
  simp only [read?, hfields, htoken, husername, huserFields]

namespace Configuration

/-- A configuration is read from the node of its document. -/
theorem read?_denoted {config : Configuration}
    (hregular : Json.RegularMembers config.session.userFields.entries)
    (hmenu : Document.KeptMembers config.markers.contextMenu.selector.members)
    (hbackground : config.backgroundPoint.x.isFinite = true ∧
      config.backgroundPoint.y.isFinite = true)
    (hdismiss : config.dismissPoint.x.isFinite = true ∧ config.dismissPoint.y.isFinite = true)
    (htree : Denotes cursor config.document) : read? cursor = some config := by
  obtain ⟨fields, hfields, hoffers⟩ := Yaml.denotation.record htree (by simp) 11
  have hbaseUrl := hoffers.text _ 0 "base_url" config.baseUrl (by simp)
  have hviewport (standard : Size) :
      fields.defaulted? 1 "viewport" Size.read? standard = some config.viewport :=
    hoffers.given (fun _ => Size.read?_denoted _) (by simp)
  have htimeouts (standard : Timeouts) :
      fields.defaulted? 2 "timeouts" Timeouts.read? standard = some config.timeouts :=
    hoffers.given (fun _ => Timeouts.read?_denoted _) (by simp)
  have htolerance (standard : UInt32) :
      fields.defaulted? 3 "tolerance_px" Source.word32? standard = some config.tolerance :=
    hoffers.given (fun _ => Yaml.denotation.word32) (by simp)
  have hartifacts := hoffers.text _ 4 "artifact_dir" config.artifactDir (by simp)
  have hsession (standard : SessionSettings) :
      fields.defaulted? 5 "session" SessionSettings.read? standard = some config.session :=
    hoffers.given (fun _ => SessionSettings.read?_denoted hregular) (by simp)
  have hmarkers (standard : Markers) :
      fields.defaulted? 6 "markers" Markers.read? standard = some config.markers :=
    hoffers.given (fun _ => Markers.read?_denoted Yaml.denotation hmenu) (by simp)
  have hwindow (standard : Size) :
      fields.defaulted? 7 "window" Size.read? standard = some config.window :=
    hoffers.given (fun _ => Size.read?_denoted _) (by simp)
  have hbackground (standard : Point) : fields.defaulted? 8 "background_point" Point.read?
      standard = some config.backgroundPoint :=
    hoffers.given (fun _ => Point.read?_denoted hbackground.1 hbackground.2) (by simp)
  have hdismiss (standard : Point) : fields.defaulted? 9 "dismiss_point" Point.read?
      standard = some config.dismissPoint :=
    hoffers.given (fun _ => Point.read?_denoted hdismiss.1 hdismiss.2) (by simp)
  have hbrowser (standard : BrowserSettings) :
      fields.defaulted? 10 "browser" BrowserSettings.read? standard = some config.browser :=
    hoffers.given (fun _ => BrowserSettings.read?_denoted _) (by simp)
  simp only [read?, hfields, hbaseUrl, hviewport, htimeouts, htolerance, hartifacts, hsession,
    hmarkers, hwindow, hbackground, hdismiss, hbrowser, Option.bind_eq_bind, Option.bind_some]
  rfl

end Configuration

end DesktopTrial
