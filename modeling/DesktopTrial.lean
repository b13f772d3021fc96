import DesktopTrial.Main
import DesktopTrial.Proofs.Decimal.Rounding
import DesktopTrial.Proofs.Harness.Account
import DesktopTrial.Proofs.Harness.Gate
import DesktopTrial.Proofs.Harness.Release
import DesktopTrial.Proofs.Harness.Verdict
import DesktopTrial.Proofs.Locator.Data
import DesktopTrial.Proofs.Locator.Expression
import DesktopTrial.Proofs.Locator.Json
import DesktopTrial.Proofs.Model.Backend
import DesktopTrial.Proofs.Model.Independence
import DesktopTrial.Proofs.Model.Isolation
import DesktopTrial.Proofs.Model.Login
import DesktopTrial.Proofs.Readiness.Schedule
import DesktopTrial.Proofs.Region.Neutrality
import DesktopTrial.Proofs.Report.Json
import DesktopTrial.Proofs.Yaml.Denotation
import DesktopTrial.Source.JsonText
import DesktopTrial.Proofs.Decimal.Binary64
import DesktopTrial.Proofs.Decimal.Shortest
import DesktopTrial.Proofs.Decimal.Layout
import DesktopTrial.Proofs.Yaml.Number
import DesktopTrial.Proofs.Yaml.Freeform
import DesktopTrial.Proofs.Configuration.Data
import DesktopTrial.Proofs.Locator.Yaml
import DesktopTrial.Proofs.Configuration.Yaml
import DesktopTrial.Proofs.Yaml.Plain
import DesktopTrial.Proofs.Yaml.Quoted
import DesktopTrial.Proofs.Yaml.Literal
import DesktopTrial.Proofs.Yaml.Scanning
import DesktopTrial.Proofs.Yaml.Marks
import DesktopTrial.Proofs.Yaml.Lines
import DesktopTrial.Proofs.Yaml.Keys
import DesktopTrial.Proofs.Yaml.Tokens
import DesktopTrial.Proofs.Yaml.Scanned
import DesktopTrial.Proofs.Yaml.Composed
import DesktopTrial.Proofs.Yaml.Nesting
import DesktopTrial.Proofs.CommandLine.Overrides
import DesktopTrial.Proofs.Model.Centering
import DesktopTrial.Proofs.Model.Confirmation
import DesktopTrial.Proofs.Model.Navigation
import DesktopTrial.Proofs.Harness.Bootstrap
import DesktopTrial.Proofs.Model.Replacement
import DesktopTrial.Proofs.Region.Verdict
import DesktopTrial.Proofs.Readiness.Budget
import DesktopTrial.Proofs.Model.Answering
import DesktopTrial.Proofs.Model.Reveal
import DesktopTrial.Proofs.Configuration.Landing
import DesktopTrial.Proofs.Model.Seeding
import DesktopTrial.Proofs.Model.Intact
import DesktopTrial.Proofs.Model.Elements
import DesktopTrial.Proofs.Model.Forgetting
import DesktopTrial.Proofs.Model.Narrowing
import DesktopTrial.Proofs.Model.Matching
import DesktopTrial.Proofs.Check.Tolerance
import DesktopTrial.Proofs.Locator.Slices
import DesktopTrial.Proofs.Locator.Role
