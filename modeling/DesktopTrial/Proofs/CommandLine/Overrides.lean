import DesktopTrial.CommandLine.Effect
import DesktopTrial.Proofs.Configuration.Validity
import DesktopTrial.Proofs.Configuration.Yaml

/-!
# Values that are overridden

The overriding values of the command line take the place of those of a configuration file, so
that files which differ in nothing else come to the same configuration.  A file is checked
before its values are overridden, though: a value that is not valid is refused even when another
one takes its place.
-/

namespace DesktopTrial

/-- The text of the file denotes a configuration, be it valid or not. -/
def Files.Configures (files : Files) (path : String) (config : Configuration) : Prop :=
  ∃ text, files.readText path = .ok text ∧ Yaml.decode? Configuration.read? text = some config

namespace CommandLine

variable {o : Overrides} {c d : Configuration}

namespace Overrides

/-! ## What overriding forgets -/

/-- Two configurations that differ at most in what the overrides set. -/
structure AgreeOutside (o : Overrides) (c d : Configuration) : Prop where
  baseUrl : o.baseUrl = none → c.baseUrl = d.baseUrl
  viewport : c.viewport = d.viewport
  ready : o.timeout = none → c.timeouts.ready = d.timeouts.ready
  settle : o.settle = none → c.timeouts.settle = d.timeouts.settle
  poll : c.timeouts.poll = d.timeouts.poll
  tolerance : o.tolerance = none → c.tolerance = d.tolerance
  artifactDir : o.artifactDir = none → c.artifactDir = d.artifactDir
  session : c.session = d.session
  markers : c.markers = d.markers
  window : c.window = d.window
  backgroundPoint : c.backgroundPoint = d.backgroundPoint
  dismissPoint : c.dismissPoint = d.dismissPoint
  headless : o.headed = false → c.browser.headless = d.browser.headless
  executable : o.chromium = none → c.browser.executable = d.browser.executable
  sandbox : o.noSandbox = false → c.browser.sandbox = d.browser.sandbox
  requestTimeout : c.browser.requestTimeout = d.browser.requestTimeout

theorem getD_eq_getD_iff {α : Type} {overriding : Option α} {x y : α} :
    overriding.getD x = overriding.getD y ↔ (overriding = none → x = y) := by
  cases overriding <;> simp

theorem or_eq_or_iff {α : Type} {overriding x y : Option α} :
    overriding.or x = overriding.or y ↔ (overriding = none → x = y) := by
  cases overriding <;> simp

theorem and_not_eq_and_not_iff {overriding x y : Bool} :
    (x && !overriding) = (y && !overriding) ↔ (overriding = false → x = y) := by
  cases overriding <;> simp

/-- Overriding forgets the values that are overridden and nothing else. -/
theorem apply_eq_apply_iff : o.apply c = o.apply d ↔ o.AgreeOutside c d := by
  simp only [apply, Configuration.mk.injEq, Timeouts.mk.injEq, BrowserSettings.mk.injEq,
    getD_eq_getD_iff, or_eq_or_iff, and_not_eq_and_not_iff]
  constructor
  · rintro ⟨hbaseUrl, hviewport, ⟨hready, hsettle, hpoll⟩, htolerance, hartifactDir, hsession,
      hmarkers, hwindow, hbackground, hdismiss, hheadless, hexecutable, hsandbox, hrequest⟩
    exact ⟨hbaseUrl, hviewport, hready, hsettle, hpoll, htolerance, hartifactDir, hsession,
      hmarkers, hwindow, hbackground, hdismiss, hheadless, hexecutable, hsandbox, hrequest⟩
  · intro hagree
    exact ⟨hagree.baseUrl, hagree.viewport, ⟨hagree.ready, hagree.settle, hagree.poll⟩,
      hagree.tolerance, hagree.artifactDir, hagree.session, hagree.markers, hagree.window,
      hagree.backgroundPoint, hagree.dismissPoint, hagree.headless, hagree.executable,
      hagree.sandbox, hagree.requestTimeout⟩

/-! ## What overriding hides -/

/-- Some value that is overridden is not valid itself. -/
def Hides (o : Overrides) (config : Configuration) : Prop :=
  (o.baseUrl ≠ none ∧ Configuration.isWebUrl config.baseUrl = false) ∨
    (o.timeout ≠ none ∧ config.timeouts.ready = 0)

theorem not_hides_iff : ¬o.Hides c ↔
    (o.baseUrl ≠ none → Configuration.isWebUrl c.baseUrl = true) ∧
      (o.timeout ≠ none → c.timeouts.ready ≠ 0) := by
  rw [Hides, not_or, not_and, not_and, Bool.not_eq_false]

/-- What hides a value that is not valid is put over a configuration that is not. -/
theorem Hides.not_valid (hhides : o.Hides c) : ¬c.Valid := by
  intro hvalid
  rcases hhides with ⟨-, hbaseUrl⟩ | ⟨-, hready⟩
  · rw [hvalid.baseUrl] at hbaseUrl
    cases hbaseUrl
  · exact hvalid.ready hready

/-- Where no fault is hidden, a configuration that is made valid was valid before. -/
theorem valid_of_apply (happlied : (o.apply c).Valid) (hhides : ¬o.Hides c) : c.Valid := by
  obtain ⟨hbaseUrl, hready⟩ := not_hides_iff.mp hhides
  refine ⟨?_, happlied.viewport, ?_, happlied.poll, happlied.background, happlied.dismiss,
    happlied.window⟩
  · cases hoverride : o.baseUrl with
    | none => simpa [apply, hoverride] using happlied.baseUrl
    | some _ => exact hbaseUrl (by simp [hoverride])
  · cases hoverride : o.timeout with
    | none => simpa [apply, hoverride] using happlied.ready
    | some _ => exact hready (by simp [hoverride])

/-- Configurations that differ only in overridden values, all of them valid, have the same first
fault. -/
theorem AgreeOutside.fault?_eq (hagree : o.AgreeOutside c d) (hc : ¬o.Hides c) (hd : ¬o.Hides d) :
    c.fault? = d.fault? := by
  obtain ⟨hcUrl, hcReady⟩ := not_hides_iff.mp hc
  obtain ⟨hdUrl, hdReady⟩ := not_hides_iff.mp hd
  have hready : c.timeouts.ready = 0 ↔ d.timeouts.ready = 0 := by
    cases hoverride : o.timeout with
    | none => rw [hagree.ready hoverride]
    | some _ => simp [hcReady, hdReady, hoverride]
  have hbaseUrl :
      (Configuration.isWebUrl c.baseUrl = true ∧ Configuration.isWebUrl d.baseUrl = true) ∨
        c.baseUrl = d.baseUrl := by
    cases hoverride : o.baseUrl with
    | none => exact .inr (hagree.baseUrl hoverride)
    | some _ => exact .inl ⟨hcUrl (by simp [hoverride]), hdUrl (by simp [hoverride])⟩
  simp only [Configuration.fault?, hagree.viewport, hready, hagree.poll, hagree.backgroundPoint,
    hagree.dismissPoint, hagree.window]
  rcases hbaseUrl with ⟨hcWeb, hdWeb⟩ | hsame
  · rw [hcWeb, hdWeb]
    rfl
  · rw [hsame]

end Overrides

/-! ## The configuration that is in force -/

variable {files files' : Files} {path path' : String}

def unlessFaulty (fault : Option String) (config : Configuration) : Except Failure Configuration :=
  match fault with
  | some fault => .error (.configuration fault)
  | none => .ok config

theorem unlessFaulty_eq_ok_iff {fault : Option String} {config : Configuration} :
    unlessFaulty fault config = .ok config ↔ fault = none := by
  cases fault <;> simp [unlessFaulty]

/-- The values of a file are checked before they are overridden and again afterwards. -/
theorem effectiveConfiguration_of_configures (hfile : files.Configures path c) :
    effectiveConfiguration files (some path) o =
      unlessFaulty (c.fault?.or (o.apply c).fault?) (o.apply c) := by
  obtain ⟨text, htext, hdecoded⟩ := hfile
  simp only [effectiveConfiguration, loadConfiguration, Configuration.ofFile, htext,
    Configuration.ofYaml, hdecoded, Configuration.validate]
  cases c.fault? with
  | some fault => rfl
  | none =>
      cases hfault : (o.apply c).fault? <;> simp only [hfault] <;> rfl

theorem effectiveConfiguration_eq_ok_iff (hfile : files.Configures path c) :
    effectiveConfiguration files (some path) o = .ok (o.apply c) ↔
      (o.apply c).validate = .ok () ∧ ¬o.Hides c := by
  rw [effectiveConfiguration_of_configures hfile, unlessFaulty_eq_ok_iff, Option.or_eq_none_iff,
    Configuration.fault?_eq_none_iff, Configuration.fault?_eq_none_iff,
    Configuration.validate_eq_ok_iff]
  constructor
  · rintro ⟨hvalid, happlied⟩
    exact ⟨happlied, fun hhides => hhides.not_valid hvalid⟩
  · rintro ⟨happlied, hhides⟩
    exact ⟨Overrides.valid_of_apply happlied hhides, happlied⟩

/-- Files whose configurations differ only in overridden values come to the same, as long as
none of these values is refused in its own right: to the merged configuration if that is valid,
and otherwise to a fault.  A file in which an overridden value is not valid comes to a fault
even where the merged configuration is valid. -/
theorem overridden_values_forgotten (o : Overrides) (hfile : files.Configures path c)
    (hfile' : files'.Configures path' d) (hagree : o.AgreeOutside c d) :
    o.apply c = o.apply d ∧
    (¬o.Hides c → ¬o.Hides d →
      effectiveConfiguration files (some path) o = effectiveConfiguration files' (some path') o) ∧
    (effectiveConfiguration files (some path) o = .ok (o.apply c) ↔
      (o.apply c).validate = .ok () ∧ ¬o.Hides c) ∧
    (effectiveConfiguration files (some path) o ≠ .ok (o.apply c) →
      ∃ fault, effectiveConfiguration files (some path) o = .error (.configuration fault)) := by
  have hmerged := Overrides.apply_eq_apply_iff.mpr hagree
  refine ⟨hmerged, ?_, effectiveConfiguration_eq_ok_iff hfile, ?_⟩
  · intro hhides hhides'
    rw [effectiveConfiguration_of_configures hfile, effectiveConfiguration_of_configures hfile',
      hmerged, hagree.fault?_eq hhides hhides']
  · rw [effectiveConfiguration_of_configures hfile]
    intro hrefused
    cases hfault : c.fault?.or (o.apply c).fault? with
    | some fault => exact ⟨fault, rfl⟩
    | none => exact absurd (unlessFaulty_eq_ok_iff.mpr hfault) hrefused

/-! ## Files that were printed -/

def textFile (text : String) : Files := ⟨[(["home", "desktop.yaml"], .file text.toUTF8)]⟩

theorem readText_textFile (text : String) :
    (textFile text).readText "desktop.yaml" = .ok text := by
  have hread : (textFile text).read "desktop.yaml" = .ok text.toUTF8 := rfl
  have hdecoded : String.fromUTF8? text.toUTF8 = some text := by
    simp only [String.fromUTF8?, String.toUTF8_eq_toByteArray, Option.dite_none_right_eq_some]
    exact ⟨text.isValidUTF8, rfl⟩
  rw [Files.readText, hread]
  simp only [hdecoded]

/-- A configuration with standard points and menu is read back from what is printed of it, be it
valid or not. -/
theorem textFile_configures (hregular : Json.RegularMembers c.session.userFields.entries)
    (hscopes : c.markers.contextMenu.selector.picksScope = false)
    (hbackground : Configuration.inViewport c.viewport c.backgroundPoint = true)
    (hdismiss : Configuration.inViewport c.viewport c.dismissPoint = true)
    (hdepth : c.document.depth ≤ Yaml.nestingLimit) :
    (textFile (Yaml.print c.document)).Configures "desktop.yaml" c := by
  refine ⟨Yaml.print c.document, readText_textFile _, ?_⟩
  have hdenotes : Yaml.Cursor.Denotes ⟨Yaml.nestingLimit, 100 * c.document.node.events, [],
      c.document.node⟩ c.document := ⟨rfl, rfl, hdepth, c.proper_document⟩
  rw [Yaml.decode?, c.read?_print_document]
  exact Configuration.read?_denoted hregular (Selector.keptMembers hscopes)
    (Configuration.isFinite_of_inViewport hbackground)
    (Configuration.isFinite_of_inViewport hdismiss) hdenotes

def withBudget (budget : UInt64) : Configuration := { timeouts := { ready := budget } }

theorem withBudget_configures (budget : UInt64) :
    (textFile (Yaml.print (withBudget budget).document)).Configures "desktop.yaml"
      (withBudget budget) := by
  have hbackground : Configuration.inViewport ⟨1280, 800⟩ ⟨500, 500⟩ = true := by decide +kernel
  have hdismiss : Configuration.inViewport ⟨1280, 800⟩ ⟨900, 300⟩ = true := by decide +kernel
  have hdepth : ({} : Configuration).document.depth ≤ Yaml.nestingLimit := by decide
  exact textFile_configures ⟨trivial, trivial, trivial⟩ rfl hbackground hdismiss hdepth

def budgetOverride : Overrides := { timeout := some 5000 }

theorem budgetOverride_agrees (budget budget' : UInt64) :
    budgetOverride.AgreeOutside (withBudget budget) (withBudget budget') :=
  Overrides.apply_eq_apply_iff.mp rfl

/-- Of two files that differ in the overridden budget, both come to the same. -/
theorem budget_forgotten :
    (textFile (Yaml.print (withBudget 1).document)).Configures "desktop.yaml" (withBudget 1) ∧
    (textFile (Yaml.print (withBudget 2).document)).Configures "desktop.yaml" (withBudget 2) ∧
    budgetOverride.AgreeOutside (withBudget 1) (withBudget 2) ∧
    ¬budgetOverride.Hides (withBudget 1) ∧ ¬budgetOverride.Hides (withBudget 2) ∧
    effectiveConfiguration (textFile (Yaml.print (withBudget 1).document)) (some "desktop.yaml")
        budgetOverride =
      effectiveConfiguration (textFile (Yaml.print (withBudget 2).document)) (some "desktop.yaml")
        budgetOverride := by
  have hhides : ¬budgetOverride.Hides (withBudget 1) :=
    Overrides.not_hides_iff.mpr ⟨fun hurl => absurd rfl hurl, fun _ => by decide⟩
  have hhides' : ¬budgetOverride.Hides (withBudget 2) :=
    Overrides.not_hides_iff.mpr ⟨fun hurl => absurd rfl hurl, fun _ => by decide⟩
  have hfile := withBudget_configures 1
  have hfile' := withBudget_configures 2
  have hagree := budgetOverride_agrees 1 2
  exact ⟨hfile, hfile', hagree, hhides, hhides',
    (overridden_values_forgotten budgetOverride hfile hfile' hagree).2.1 hhides hhides'⟩

/-- A file whose budget is not valid is refused, although the budget is overridden and another
file that differs in nothing else is accepted. -/
theorem hidden_budget_refused :
    (textFile (Yaml.print (withBudget 0).document)).Configures "desktop.yaml" (withBudget 0) ∧
    (textFile (Yaml.print (withBudget 1).document)).Configures "desktop.yaml" (withBudget 1) ∧
    budgetOverride.AgreeOutside (withBudget 0) (withBudget 1) ∧
    effectiveConfiguration (textFile (Yaml.print (withBudget 0).document)) (some "desktop.yaml")
        budgetOverride = .error (.configuration "timeouts.ready_ms must be > 0") ∧
    effectiveConfiguration (textFile (Yaml.print (withBudget 1).document)) (some "desktop.yaml")
        budgetOverride = .ok (withBudget 5000) := by
  have hfault : (withBudget 0).fault? = some "timeouts.ready_ms must be > 0" := by
    decide +kernel
  have hnone : (withBudget 1).fault? = none := by decide +kernel
  have hmerged : (withBudget 5000).fault? = none := by decide +kernel
  refine ⟨withBudget_configures 0, withBudget_configures 1, budgetOverride_agrees 0 1, ?_, ?_⟩
  · rw [effectiveConfiguration_of_configures (withBudget_configures 0), hfault]
    rfl
  · have happlied : budgetOverride.apply (withBudget 1) = withBudget 5000 := rfl
    rw [effectiveConfiguration_of_configures (withBudget_configures 1), hnone, happlied, hmerged]
    rfl

end CommandLine

end DesktopTrial
