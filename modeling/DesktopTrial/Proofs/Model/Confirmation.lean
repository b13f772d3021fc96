import DesktopTrial.Check.OnPage
import DesktopTrial.Proofs.Model.Turn
import DesktopTrial.Proofs.Readiness.Ending

/-!
# Waits and the checks that follow them

On a model page the answer with which a wait ends well leaves the page as it was and shows
that no replacement of its document is pending, so that the same query asked again is
answered alike.  Hence the checks confirm what a wait has let through, and no query finds the
document replaced before the next visit.
-/

namespace DesktopTrial

/-! ## What the accepted elements mean to the checks -/

namespace Check

/-- A text that a wait found visible is visible to a check of the same occurrence. -/
theorem visibility_of_holds {wanted : String} {occurrence : Occurrence} {found : List Sighting}
    (hholds : (Condition.textVisible wanted occurrence).holds found = true) :
    (visibility (textLocator none wanted occurrence) found).passed = true := by
  obtain ⟨element, hpick, hvisible⟩ :
      ∃ element, occurrence.pick? found = some element ∧ element.visible = true := by
    rwa [Condition.holds, Option.any_eq_true] at hholds
  have hresolve : (textLocator none wanted occurrence).resolve found = .ok element := by
    simp only [textLocator, Locator.atOccurrence, Locator.resolve, hpick]
  rw [visibility, hresolve]
  simp only [hvisible, if_true]
  rfl

variable {locator : Locator} {found : List Sighting} {box : Box}

theorem visibility_of_showsBox (hshows : Readiness.ShowsBox locator found box) :
    (visibility locator found).passed = true := by
  obtain ⟨element, hresolve, hvisible, -⟩ := hshows
  rw [visibility, hresolve]
  simp only [hvisible, if_true]
  rfl

theorem centeredness_of_showsBox (hshows : Readiness.ShowsBox locator found box)
    (expected : Centering) : centeredness locator expected found = expected.check box := by
  obtain ⟨element, hresolve, hvisible, hbox⟩ := hshows
  have hvisibleBox : element.visibleBox? = some box := by
    rw [Sighting.visibleBox?, hvisible, if_pos rfl, hbox]
  simp only [centeredness, hresolve, hvisibleBox]

end Check

namespace Model

variable {app : App} {locator : Locator} {found : List Sighting} {s after : PageState}
  {latency : Nat}

/-! ## How a model page takes a query -/

theorem reply_queried {result : Except Failure (List Sighting)}
    (hreply : (page app).reply s (.query locator) = .answered latency result after) :
    latency = app.queryDelay ∧ s.Queried result after := by
  obtain ⟨-, hreply⟩ | ⟨-, hreply⟩ := reply_cases hreply
  · cases hreply
    exact ⟨rfl, .refused⟩
  · exact queryReply_queried hreply

/-- A query that was answered with elements is answered alike when it is asked again. -/
theorem ask_again (hprobed : Readiness.Probed (page app) locator found s) (clock : Nat) :
    Run.ask (page app) (.query locator) ⟨s, clock⟩ =
      some (.ok found, ⟨s, clock + app.queryDelay⟩) := by
  obtain ⟨before, latency, hreply⟩ := hprobed
  obtain ⟨rfl, hqueried⟩ := reply_queried hreply
  cases hqueried
  rw [Run.ask, hreply]

/-- A check that judges the elements of the query judges those that were found. -/
theorem judge_again (hprobed : Readiness.Probed (page app) locator found s) (clock : Nat)
    (judge : List Sighting → Outcome) :
    (do return judge (← Run.ask (page app) (.query locator)) : Run (Moment PageState) Outcome)
        ⟨s, clock⟩ = some (.ok (judge found), ⟨s, clock + app.queryDelay⟩) := by
  rw [Run.bind_apply, ask_again hprobed clock]
  rfl

theorem replacements_of_probed (hprobed : Readiness.Probed (page app) locator found s) :
    s.replacements = 0 := by
  obtain ⟨before, latency, hreply⟩ := hprobed
  cases (reply_queried hreply).2 with
  | answered hnone => exact hnone

/-! ## Replacements between two visits -/

/-- Without a visit no replacement becomes pending. -/
theorem reply_replacements {call : Call} {answer : Except Failure call.Answer}
    (hreply : (page app).reply s call = .answered latency answer after)
    (hvisited : Exchange.visited? ⟨call, some answer⟩ = none) (hnone : s.replacements = 0) :
    after.replacements = 0 := by
  obtain ⟨-, hreply⟩ | ⟨-, hreply⟩ := reply_cases hreply
  · rw [closedReply_unchanged hreply, hnone]
  cases call with
  | navigate url =>
      obtain ⟨-, rfl, -⟩ | ⟨-, rfl⟩ := openReply_navigate hreply
      · cases hvisited
      · exact hnone
  | install entries =>
      cases hreply
      obtain ⟨_, _, _, hinstall⟩ := s.install_frame entries
      rw [hinstall, hnone]
  | readStorage key =>
      rw [openReply_readStorage hreply, hnone]
  | query locator =>
      cases (queryReply_queried hreply).2 with
      | replaced hpending => exact absurd hnone (Nat.pos_iff_ne_zero.mp hpending)
      | _ => exact hnone
  | click p button =>
      cases hreply
      obtain ⟨_, _, hclick⟩ := s.click_frame app button (p := p)
      rw [hclick, hnone]
  | currentUrl | screenshot | close =>
      cases hreply
      exact hnone

/-- Every query of a conversation that found the document replaced came after a visit. -/
def ReplacedAfterVisit (made : List Exchange) : Prop :=
  ∀ first locator reason rest,
    made = first ++ ⟨.query locator, some (.error (.replaced reason))⟩ :: rest →
      ∃ exchange ∈ first, exchange.visited? ≠ none

/-- What holds of a page and of what was made on it since no replacement was pending. -/
structure PageState.Unreplaced (made : List Exchange) (s : PageState) : Prop where
  pending : (∀ exchange ∈ made, exchange.visited? = none) → s.replacements = 0
  replaced : ReplacedAfterVisit made

theorem PageState.Unreplaced.start (hnone : s.replacements = 0) : s.Unreplaced [] where
  pending _ := hnone
  replaced first _ _ _ hmade := by simp at hmade

theorem PageState.Unreplaced.reply {made : List Exchange} {call : Call}
    {answer : Except Failure call.Answer} (hunreplaced : s.Unreplaced made)
    (hreply : (page app).reply s call = .answered latency answer after) :
    after.Unreplaced (made ++ [⟨call, some answer⟩]) where
  pending hquiet := by
    rw [List.forall_mem_append, List.forall_mem_singleton] at hquiet
    exact reply_replacements hreply hquiet.2 (hunreplaced.pending hquiet.1)
  replaced first locator reason rest hmade := by
    rcases List.eq_nil_or_concat rest with rfl | ⟨rest, last, rfl⟩
    · obtain ⟨rfl, hlast⟩ := List.append_inj' hmade rfl
      cases hlast
      by_cases hquiet : ∀ exchange ∈ made, exchange.visited? = none
      · cases (reply_queried hreply).2 with
        | replaced hpending =>
            exact absurd (hunreplaced.pending hquiet) (Nat.pos_iff_ne_zero.mp hpending)
      · simpa using hquiet
    · rw [List.concat_eq_append, ← List.cons_append, ← List.append_assoc] at hmade
      exact hunreplaced.replaced first locator reason rest (List.append_inj' hmade rfl).1

/-! ## Waits and checks -/

/-- What a wait on a model page lets through, the checks after it confirm: a text that became
visible is found visible, and an element that became visible is found visible and in the box
that the wait gave.  After the wait no query finds the document replaced before the next
visit. -/
theorem checks_confirm_waits (app : App) (patience : Patience) (before after : Moment PageState) :
    (∀ wanted occurrence awaited,
      Readiness.awaitReady (page app) (.textVisible wanted occurrence) patience before =
          some (.ok awaited, after) →
        ∃ outcome, outcome.passed = true ∧
          Check.containsText (page app) none wanted occurrence after =
            some (.ok outcome, ⟨after.page, after.clock + app.queryDelay⟩)) ∧
    (∀ locator box,
      Readiness.awaitVisible (page app) locator patience before = some (.ok box, after) →
        (∃ outcome, outcome.passed = true ∧
          Check.isVisible (page app) locator after =
            some (.ok outcome, ⟨after.page, after.clock + app.queryDelay⟩)) ∧
        ∀ expected : Centering, Check.isCentered (page app) locator expected after =
          some (.ok (expected.check box), ⟨after.page, after.clock + app.queryDelay⟩)) ∧
    (Readiness.EndedWell (page app) patience before after →
      ∀ calls made later, (page app).converse calls after = some (.ok made, later) →
        ReplacedAfterVisit made) := by
  refine ⟨?_, ?_, ?_⟩
  · intro wanted occurrence awaited hended
    obtain ⟨found, hprobed, hholds⟩ := Readiness.awaitReady_eq_ok hended
    exact ⟨_, Check.visibility_of_holds hholds, judge_again hprobed after.clock _⟩
  · intro locator box hended
    obtain ⟨found, hprobed, hshows⟩ := Readiness.awaitVisible_eq_ok hended
    refine ⟨⟨_, Check.visibility_of_showsBox hshows, judge_again hprobed after.clock _⟩, ?_⟩
    intro expected
    rw [← Check.centeredness_of_showsBox hshows expected]
    exact judge_again hprobed after.clock _
  · intro hended calls made later hmade
    obtain ⟨locator, found, hprobed⟩ := hended.probed
    obtain ⟨_, hsame, hunreplaced⟩ := (page app).converse_keeps
      (fun hunreplaced hreply => PageState.Unreplaced.reply hunreplaced hreply)
      (PageState.Unreplaced.start (replacements_of_probed hprobed)) hmade
    cases hsame
    exact hunreplaced.replaced

/-- A desktop whose document is replaced twice while it is waited for. -/
def restlessDesktop : App := { desktop with replacements := 2, queryDelay := 10 }

def restlessPage : PageState := { PageState.fresh restlessDesktop with
  url := "http://localhost:5173/desktop", rendered := true, replacements := 2 }

/-- The wait gets over both replacements, and the checks confirm what it found. -/
theorem restlessDesktop_confirmed :
    (∃ awaited after outcome, Readiness.awaitReady (page restlessDesktop)
        (.textVisible "Mynt NAS" .first) {} ⟨restlessPage, 0⟩ = some (.ok awaited, after) ∧
      outcome.passed = true ∧
      Check.containsText (page restlessDesktop) none "Mynt NAS" .first after =
        some (.ok outcome, ⟨after.page, after.clock + 10⟩)) ∧
    ∃ box after, Readiness.awaitVisible (page restlessDesktop) (.css ".desktop-dock") {}
        ⟨restlessPage, 0⟩ = some (.ok box, after) ∧
      (∀ expected : Centering,
        Check.isCentered (page restlessDesktop) (.css ".desktop-dock") expected after =
          some (.ok (expected.check box), ⟨after.page, after.clock + 10⟩)) ∧
      ∀ calls made later, (page restlessDesktop).converse calls after = some (.ok made, later) →
        ReplacedAfterVisit made := by
  constructor
  · have hready : (Readiness.awaitReady (page restlessDesktop) (.textVisible "Mynt NAS" .first) {}
        ⟨restlessPage, 0⟩).any (·.1.isOk) = true := by decide +kernel
    obtain ⟨⟨_ | awaited, after⟩, hended, hok⟩ := (Option.any_eq_true _ _).mp hready
    · cases hok
    obtain ⟨outcome, hconfirmed⟩ :=
      (checks_confirm_waits restlessDesktop {} ⟨restlessPage, 0⟩ after).1 _ _ awaited hended
    exact ⟨awaited, after, outcome, hended, hconfirmed⟩
  · have hvisible : (Readiness.awaitVisible (page restlessDesktop) (.css ".desktop-dock") {}
        ⟨restlessPage, 0⟩).any (·.1.isOk) = true := by decide +kernel
    obtain ⟨⟨_ | box, after⟩, hended, hok⟩ := (Option.any_eq_true _ _).mp hvisible
    · cases hok
    obtain ⟨-, hvisible, hreplaced⟩ :=
      checks_confirm_waits restlessDesktop {} ⟨restlessPage, 0⟩ after
    exact ⟨box, after, hended, (hvisible _ box hended).2, hreplaced (.visible hended)⟩

end Model

end DesktopTrial
