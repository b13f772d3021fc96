import DesktopTrial.Proofs.Model.Click
import DesktopTrial.Proofs.Page.Transcript
import DesktopTrial.Proofs.Readiness.Schedule

/-!
# Waiting out replaced documents

Every query that finds the document replaced costs a wait the time of the query and a pause.
So the number of pending replacements alone decides when a condition that holds is seen to
hold, and whether that is in time.
-/

namespace DesktopTrial.Model

open Readiness (Watch)

variable {app : App} {condition : Condition} {patience : Patience} {s : PageState} {k : Nat}

/-- The page shows a document on which the condition holds, and queries for it do not fail. -/
structure PageState.Meets (app : App) (condition : Condition) (s : PageState) : Prop where
  rendered : s.rendered = true
  sound : app.failing ≠ some condition.locator.selector
  holds : ∃ found, select? (s.present app) condition.locator.selector = some found ∧
    condition.holds (found.map Element.sighting) = true

/-- A wait for the condition that begins in this state of the page. -/
abbrev readyWatch (app : App) (condition : Condition) (patience : Patience) (s : PageState) :
    Watch PageState :=
  ⟨page app, condition.locator, patience, s⟩

/-- The time that a wait loses to some replacements of the document. -/
def replacementTime (app : App) (patience : Patience) (replacements : Nat) : Nat :=
  replacements * (app.queryDelay + patience.interval)

theorem replacementTime_succ (app : App) (patience : Patience) (k : Nat) :
    replacementTime app patience (k + 1) =
      replacementTime app patience k + app.queryDelay + patience.interval := by
  rw [replacementTime, Nat.succ_mul, replacementTime, Nat.add_assoc]

section Probes

variable (hopen : s.closed = false) (hmeets : s.Meets app condition)
include hopen hmeets

/-- Each of the first queries uses up one of the replacements. -/
theorem state_readyWatch (hk : k ≤ s.replacements) :
    (readyWatch app condition patience s).state k =
      { s with replacements := s.replacements - k } := by
  induction k with
  | zero => rfl
  | succ k ih =>
      have hpending : 0 < s.replacements - k := Nat.sub_pos_of_lt hk
      rw [Watch.state, ih (Nat.le_of_succ_le hk),
        reply_replaced (s := { s with replacements := s.replacements - k })
          hopen hmeets.sound hpending]
      rfl

theorem probe_replaced (hk : k < s.replacements) :
    (readyWatch app condition patience s).probe k =
      .answered app.queryDelay (.error replacedFailure)
        { s with replacements := s.replacements - (k + 1) } := by
  rw [Watch.probe, state_readyWatch hopen hmeets (Nat.le_of_lt hk)]
  exact reply_replaced (s := { s with replacements := s.replacements - k })
    hopen hmeets.sound (Nat.sub_pos_of_lt hk)

/-- The query after the last replacement finds what the condition asks for. -/
theorem probe_settled (patience : Patience) : ∃ found, condition.holds found = true ∧
    (readyWatch app condition patience s).probe s.replacements =
      .answered app.queryDelay (.ok found) { s with replacements := 0 } := by
  obtain ⟨found, hselect, hholds⟩ := hmeets.holds
  refine ⟨found.map Element.sighting, hholds, ?_⟩
  rw [Watch.probe, state_readyWatch hopen hmeets (Nat.le_refl _), Nat.sub_self]
  exact reply_found hopen hmeets.sound rfl hmeets.rendered hselect

theorem start_readyWatch (hk : k ≤ s.replacements) :
    (readyWatch app condition patience s).start k =
      min (replacementTime app patience k) patience.budget := by
  induction k with
  | zero => rw [Watch.start, replacementTime, Nat.zero_mul, Nat.zero_min]
  | succ k ih =>
      rw [Watch.start, probe_replaced hopen hmeets hk, replacementTime_succ]
      simp only [ih (Nat.le_of_succ_le hk)]
      omega

/-- The query after the last replacement is in time when what was lost leaves room for it. -/
theorem inTime_settled_iff :
    (readyWatch app condition patience s).InTime s.replacements app.queryDelay ↔
      replacementTime app patience s.replacements < patience.budget ∧
        replacementTime app patience s.replacements + app.queryDelay ≤ patience.budget := by
  have hbudget : (readyWatch app condition patience s).patience.budget = patience.budget := rfl
  rw [Watch.InTime, start_readyWatch hopen hmeets (Nat.le_refl _), hbudget]
  omega

/-- A replaced document decides nothing. -/
theorem quiet_replaced {accepts : List Sighting → Unit → Prop} (hk : k ≤ s.replacements) :
    (readyWatch app condition patience s).QuietBefore accepts k := by
  rintro j hj time outcome ⟨latency, result, after, hprobe, -, hdecisive, -⟩
  rw [probe_replaced hopen hmeets (Nat.lt_of_lt_of_le hj hk)] at hprobe
  cases hprobe
  cases hdecisive with
  | failed htransient => cases htransient

/-- No query follows the one after the last replacement when that one comes too late. -/
theorem le_replacements_of_start_lt
    (hlate : ¬ (readyWatch app condition patience s).InTime s.replacements app.queryDelay)
    (hstart : (readyWatch app condition patience s).start k < patience.budget) :
    k ≤ s.replacements := by
  refine Nat.le_of_not_lt fun hmore => ?_
  obtain ⟨latency, result, after, hprobe, hintime⟩ := Watch.answered_of_start_lt hmore hstart
  obtain ⟨found, -, hsettled⟩ := probe_settled hopen hmeets patience
  rw [hsettled] at hprobe
  cases hprobe
  exact hlate hintime

theorem quiet_of_late {accepts : List Sighting → Unit → Prop}
    (hlate : ¬ (readyWatch app condition patience s).InTime s.replacements app.queryDelay) :
    (readyWatch app condition patience s).QuietBefore accepts k := by
  intro j _ time outcome hdecides
  obtain ⟨latency, result, after, hprobe, hintime, -, -⟩ := id hdecides
  rcases Nat.lt_or_eq_of_le (le_replacements_of_start_lt hopen hmeets hlate hintime.1) with
    hj | rfl
  · exact quiet_replaced hopen hmeets hj j (Nat.lt_succ_self j) time outcome hdecides
  · obtain ⟨found, -, hsettled⟩ := probe_settled hopen hmeets patience
    rw [hsettled] at hprobe
    cases hprobe
    exact hlate hintime

theorem not_blocks_of_late
    (hlate : ¬ (readyWatch app condition patience s).InTime s.replacements app.queryDelay) :
    ¬ (readyWatch app condition patience s).Blocks k := by
  rintro ⟨latency, hprobe, hintime⟩
  rcases Nat.lt_or_eq_of_le (le_replacements_of_start_lt hopen hmeets hlate hintime.1) with
    hk | rfl
  · rw [probe_replaced hopen hmeets hk] at hprobe
    cases hprobe
  · obtain ⟨found, -, hsettled⟩ := probe_settled hopen hmeets patience
    rw [hsettled] at hprobe
    cases hprobe

/-! ## The wait -/

omit hopen hmeets in
theorem readyWatch_governs (hinterval : 1 ≤ patience.interval) (clock : Nat) :
    (readyWatch app condition patience s).Governs
      (Watch.Accepts fun found => if condition.holds found then some () else none)
      condition.describe clock (fun time _ => ⟨time, condition.describe⟩)
      (Readiness.awaitReady (page app) condition patience ⟨s, clock⟩) := by
  rw [Readiness.awaitReady_eq_map]
  exact (Watch.await_governed (readyWatch app condition patience s) _ _ clock hinterval).map
    fun found => (⟨found.2, condition.describe⟩ : Readiness.Awaited)

theorem awaitReady_settled (hinterval : 1 ≤ patience.interval) (clock : Nat)
    (hintime : (readyWatch app condition patience s).InTime s.replacements app.queryDelay) :
    Readiness.awaitReady (page app) condition patience ⟨s, clock⟩ =
      some (.ok ⟨replacementTime app patience s.replacements + app.queryDelay,
          condition.describe⟩,
        ⟨{ s with replacements := 0 },
          clock + (replacementTime app patience s.replacements + app.queryDelay)⟩) := by
  obtain ⟨found, hholds, hprobe⟩ := probe_settled hopen hmeets patience
  have hstart : (readyWatch app condition patience s).start s.replacements =
      replacementTime app patience s.replacements := by
    rw [start_readyWatch hopen hmeets (Nat.le_refl _)]
    exact Nat.min_eq_left
      (Nat.le_of_lt ((inTime_settled_iff hopen hmeets).mp hintime).1)
  have hended := (readyWatch_governs hinterval clock).decided s.replacements _ (.ok ())
    ⟨_, _, _, hprobe, hintime, .accepted (if_pos hholds), rfl⟩
    (quiet_replaced hopen hmeets (Nat.le_refl _))
  rw [Watch.state_succ hprobe, hstart] at hended
  exact hended

theorem awaitReady_late (hinterval : 1 ≤ patience.interval) (clock : Nat)
    (hlate : ¬ (readyWatch app condition patience s).InTime s.replacements app.queryDelay) :
    ∃ cut, Readiness.awaitReady (page app) condition patience ⟨s, clock⟩ =
      some (.error (.timeout condition.describe patience.budget),
        ⟨cut, clock + patience.budget⟩) :=
  (readyWatch_governs hinterval clock).expired (fun _ => quiet_of_late hopen hmeets hlate)
    fun _ => not_blocks_of_late hopen hmeets hlate

end Probes

/-- A visit that succeeds was made by an open page, and every replacement of the document is
still to come. -/
theorem replacements_of_visited {url : String} {before after : Moment PageState}
    (hvisited : Run.ask (page app) (.navigate url) before = some (.ok (), after)) :
    after.page.closed = false ∧ after.page.replacements = app.replacements := by
  obtain ⟨s, clock⟩ := after
  obtain ⟨latency, hreply⟩ := Run.ask_eq_some hvisited
  obtain ⟨-, hreply⟩ | ⟨hopen, hreply⟩ := reply_cases hreply
  · cases hreply
  obtain ⟨-, -, hafter⟩ | ⟨hrefused, -⟩ := openReply_navigate hreply
  · cases hafter
    exact ⟨hopen, rfl⟩
  · cases hrefused

/-- Take a condition that holds on the document that a visit has shown.  The wait for it
loses a query and a pause to every replacement of the document, and then asks once more.  It
ends well with that query if it is asked before the deadline and answered by then, and
otherwise it times out at the deadline. -/
theorem replacements_waited_out (app : App) (condition : Condition) (patience : Patience)
    (hinterval : 1 ≤ patience.interval) {url : String} {before after : Moment PageState}
    (hvisited : Run.ask (page app) (.navigate url) before = some (.ok (), after))
    (hmeets : after.page.Meets app condition) :
    (replacementTime app patience app.replacements < patience.budget ∧
        replacementTime app patience app.replacements + app.queryDelay ≤ patience.budget →
      Readiness.awaitReady (page app) condition patience after =
        some (.ok ⟨replacementTime app patience app.replacements + app.queryDelay,
            condition.describe⟩,
          ⟨{ after.page with replacements := 0 },
            after.clock + (replacementTime app patience app.replacements + app.queryDelay)⟩)) ∧
    (¬ (replacementTime app patience app.replacements < patience.budget ∧
        replacementTime app patience app.replacements + app.queryDelay ≤ patience.budget) →
      ∃ cut, Readiness.awaitReady (page app) condition patience after =
        some (.error (.timeout condition.describe patience.budget),
          ⟨cut, after.clock + patience.budget⟩)) := by
  obtain ⟨s, clock⟩ := after
  obtain ⟨hopen, hreplacements⟩ := replacements_of_visited hvisited
  rw [← hreplacements, ← inTime_settled_iff hopen hmeets]
  exact ⟨awaitReady_settled hopen hmeets hinterval clock,
    awaitReady_late hopen hmeets hinterval clock⟩

/-- The desktop, whose document is replaced under three queries of 20 milliseconds. -/
def unsettledDesktop : App := { desktop with replacements := 3, queryDelay := 20 }

def sessionPage : PageState :=
  { PageState.fresh unsettledDesktop with
    storage := Dictionary.empty.insert "auth_token" "session" }

/-- With pauses of 30 milliseconds the dock is found after 170 milliseconds, and a budget of
as much suffices.  One of 169 does not, nor does one that ends when the last query is due. -/
theorem unsettledDesktop_waited_out :
    ∃ after,
      Run.ask (page unsettledDesktop) (.navigate "http://localhost/desktop") ⟨sessionPage, 0⟩ =
        some (.ok (), after) ∧
      after.page.Meets unsettledDesktop (.selectorPresent ".desktop-dock") ∧
      Readiness.awaitReady (page unsettledDesktop) (.selectorPresent ".desktop-dock") ⟨170, 30⟩
        after = some (.ok ⟨170, "selector \".desktop-dock\" present"⟩,
          ⟨{ after.page with replacements := 0 }, after.clock + 170⟩) ∧
      ∀ budget : Nat, budget = 169 ∨ budget = 150 →
        ∃ cut, Readiness.awaitReady (page unsettledDesktop) (.selectorPresent ".desktop-dock")
          ⟨budget, 30⟩ after = some (.error (.timeout
            (Condition.selectorPresent ".desktop-dock").describe budget),
            ⟨cut, after.clock + budget⟩) := by
  have hvisits : (Run.ask (page unsettledDesktop) (.navigate "http://localhost/desktop")
      ⟨sessionPage, 0⟩).any (fun ended => ended.1.isOk && ended.2.page.rendered &&
        (select? (ended.2.page.present unsettledDesktop) (.css ".desktop-dock")).any
          fun found => (Condition.selectorPresent ".desktop-dock").holds
            (found.map Element.sighting)) = true := by decide +kernel
  obtain ⟨⟨_ | ⟨⟨⟩⟩, after⟩, hvisited, hshows⟩ := (Option.any_eq_true _ _).mp hvisits
  · cases hshows
  simp only [Bool.and_eq_true, Option.any_eq_true] at hshows
  obtain ⟨⟨-, hrendered⟩, hholds⟩ := hshows
  have hmeets : after.page.Meets unsettledDesktop (.selectorPresent ".desktop-dock") :=
    ⟨hrendered, by simp [unsettledDesktop, desktop], hholds⟩
  refine ⟨after, hvisited, hmeets, ?_, ?_⟩
  · exact (replacements_waited_out unsettledDesktop (.selectorPresent ".desktop-dock")
      ⟨170, 30⟩ (by decide) hvisited hmeets).1 (by decide)
  · intro budget hbudget
    apply (replacements_waited_out unsettledDesktop (.selectorPresent ".desktop-dock")
      ⟨budget, 30⟩ (Nat.le_add_left 1 29) hvisited hmeets).2
    rcases hbudget with rfl | rfl <;> decide

end DesktopTrial.Model
