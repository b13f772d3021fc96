import DesktopTrial.Check.Region
import DesktopTrial.Readiness.Condition

/-!
# Scenarios

A scenario is a list of steps that are taken in order on one fresh page.
-/

namespace DesktopTrial

/-- A step of a scenario.  The steps that check something name the check. -/
inductive Step where
  /-- Navigate to a route of the application. -/
  | navigate (path : String)
  | awaitReady (condition : Condition)
  /-- Wait until the element is visible, then click its center. -/
  | click (target : Locator)
  /-- Let the page settle. -/
  | settle
  | assertVisible (name : String) (target : Locator)
  /-- Check that a text is visible, inside a scope or on the whole page. -/
  | assertText (name : String) (scope : Option Locator) (wanted : String)
      (occurrence : Occurrence)
  | assertCount (name : String) (target : Locator) (count : Count)
  | assertCentered (name : String) (target : Locator)
  /-- Check that the page is not the login page. -/
  | assertNotRedirected (name : String)
  /-- Probe regions for the context menu, one check each. -/
  | probeRegions (probes : List RegionProbe)
  /-- Write a screenshot to a file with this name. -/
  | checkpoint (name : String)

def Step.label : Step → String
  | .navigate _ => "navigate"
  | .awaitReady _ => "await_ready"
  | .click _ => "click"
  | .settle => "settle"
  | .assertVisible _ _ => "assert_visible"
  | .assertText _ _ _ _ => "assert_text"
  | .assertCount _ _ _ => "assert_exists"
  | .assertCentered _ _ => "assert_centered"
  | .assertNotRedirected _ => "assert_not_redirected"
  | .probeRegions _ => "probe_regions"
  | .checkpoint _ => "checkpoint"

structure Scenario where
  name : String
  description : String
  steps : List Step

def RegionProbe.checkName (probe : RegionProbe) : String := "context menu: " ++ probe.name

end DesktopTrial
