import DesktopTrial.Proofs.Model.Backend
import DesktopTrial.Proofs.Model.Isolation
import DesktopTrial.Proofs.Model.Scope

/-!
# Queries that are never answered

A page answers every query, unless the selector makes it walk round a ring of elements that
are inside one another.  A document without such a ring answers whatever happened to it before.
-/

namespace DesktopTrial.Model

variable {app : App} {made : List Exchange} {s : PageState}

/-! ## Answers -/

/-- A query is answered after its delay or holds up everything from then on. -/
theorem query_answered_or_stuck (app : App) (s : PageState) (locator : Locator) :
    (∃ result after,
      (page app).reply s (.query locator) = .answered app.queryDelay result after) ∨
      (page app).reply s (.query locator) = .stuck app.queryDelay := by
  cases hclosed : s.closed with
  | true => exact .inl ⟨_, _, if_pos hclosed⟩
  | false =>
      rw [page_reply hclosed, openReply, queryReply]
      split
      · exact .inl ⟨_, _, rfl⟩
      split
      · exact .inl ⟨_, _, rfl⟩
      split
      · exact .inl ⟨_, _, rfl⟩
      split
      · exact .inl ⟨_, _, rfl⟩
      · exact .inr rfl

/-- Only an open page that shows its settled document begins a walk. -/
theorem query_stuck_iff (app : App) (s : PageState) (locator : Locator) :
    (page app).reply s (.query locator) = .stuck app.queryDelay ↔
      s.closed = false ∧ app.failing ≠ some locator.selector ∧ s.replacements = 0 ∧
        s.rendered = true ∧ Stalls (s.present app) locator.selector := by
  rw [← select?_eq_none_iff]
  cases hclosed : s.closed with
  | true =>
      have hreply : (page app).reply s (.query locator) =
          .answered app.queryDelay (.error closedFailure) s := if_pos hclosed
      simp [hreply]
  | false =>
      rw [page_reply hclosed, openReply, queryReply]
      by_cases hfailing : app.failing = some locator.selector
      · simp [hfailing]
      by_cases hreplaced : 0 < s.replacements
      · simp [hfailing, hreplaced, Nat.ne_of_gt hreplaced]
      cases hrendered : s.rendered with
      | false => simp [hfailing, hreplaced]
      | true =>
          cases select? (s.present app) locator.selector <;>
            simp [hfailing, Nat.eq_zero_of_not_pos hreplaced]

/-! ## Reachable documents -/

/-- No call changes the elements of a document but for whether they are shown and where. -/
theorem Reached.outlines (hreached : Reached app made s) :
    s.elements.map Element.outline = app.elements.map Element.outline := by
  obtain ⟨clock, hmade⟩ := hreached
  obtain ⟨_, -, houtlines⟩ := (page app).converse_keeps
    (I := fun _ s => s.elements.map Element.outline = app.elements.map Element.outline)
    (fun hbefore hreply => (reply_outline hreply).elim (·.trans hbefore) (congrArg _)) rfl hmade
  exact houtlines

/-- An application whose elements are in no ring has no ring on any page. -/
theorem Reached.acyclic_present (hreached : Reached app made s)
    (hacyclic : Acyclic app.elements) : Acyclic (s.present app) := by
  refine hacyclic.of_links fun e hmember => ?_
  have houtline : e.outline ∈ app.elements.map Element.outline :=
    hreached.outlines ▸ List.mem_map_of_mem (List.mem_of_mem_filter hmember)
  obtain ⟨link, hlink, hsame⟩ := List.mem_map.mp houtline
  obtain ⟨_, _, rfl⟩ := Element.outline_eq hsame
  exact ⟨_, hlink, rfl, rfl⟩

/-- On every page that calls can bring about, a query is never answered exactly when the page
is open, shows its settled document, and the selector sends some walk round a ring that no
container breaks.  It is answered in all other cases, and so always when no element of the
application is inside itself. -/
theorem query_answers_without_ring (hreached : Reached app made s) (locator : Locator) :
    ((page app).reply s (.query locator) = .stuck app.queryDelay ↔
      s.closed = false ∧ app.failing ≠ some locator.selector ∧ s.replacements = 0 ∧
        s.rendered = true ∧ Stalls (s.present app) locator.selector) ∧
    ((page app).reply s (.query locator) ≠ .stuck app.queryDelay →
      ∃ result after,
        (page app).reply s (.query locator) = .answered app.queryDelay result after) ∧
    (Acyclic app.elements → ∃ result after,
      (page app).reply s (.query locator) = .answered app.queryDelay result after) := by
  have hanswered (hgoes : (page app).reply s (.query locator) ≠ .stuck app.queryDelay) :=
    (query_answered_or_stuck app s locator).resolve_right hgoes
  refine ⟨query_stuck_iff app s locator, hanswered, fun hacyclic => hanswered fun hstuck => ?_⟩
  obtain ⟨-, -, -, -, hstalls⟩ := (query_stuck_iff app s locator).mp hstuck
  obtain ⟨e, hring⟩ := hstalls.exists_ring
  exact hreached.acyclic_present hacyclic e hring

/-- An application with an element that is inside itself. -/
def ringApp : App where
  elements :=
    [{ id := "ring", box := ⟨0, 0, 10, 10⟩, css := [".ring"], text := "ring",
       parent := some "ring" }]
  documentPath := "/"

/-- The text of the ring inside the elements of a class. -/
def ringInside (pattern : String) : Locator :=
  .ofSelector (.textWithin (.css pattern) none "ring" false)

def ringPage : PageState :=
  ((PageState.fresh ringApp).note ("navigate:" ++ Url.path "http://h/")).visit ringApp "http://h/"

theorem ringPage_reached : Reached ringApp [.visit "http://h/"] ringPage := by
  have habsolute : Url.isAbsolute "http://h/" = true := by decide +kernel
  have hreply : (page ringApp).reply (.fresh ringApp) (.navigate "http://h/") =
      .answered 0 (.ok ()) ringPage := by
    rw [page_reply rfl, openReply]
    exact if_pos habsolute
  exact (Reached.fresh ringApp).reply hreply

theorem ringPage_rendered : ringPage.rendered = true := by decide +kernel

/-- The walk from the ring looks for a container that is not there. -/
theorem ringPage_stalls :
    Stalls (ringPage.present ringApp) (ringInside ".missing").selector := by
  have hchain (height : Nat) :
      ancestor? (ringPage.present ringApp) (some "ring") height = some "ring" := by
    induction height with
    | zero => rfl
    | succ height ih =>
        rw [ancestor?_succ_eq_bind, ih]
        rfl
  refine .walk (e := ringApp.elements[0]) rfl List.mem_cons_self (by decide +kernel) ?_
  exact fun height => ⟨"ring", hchain height, List.not_mem_nil⟩

/-- The ring is found inside itself, but the search for it inside anything else never ends. -/
theorem ringPage_answers :
    Reached ringApp [.visit "http://h/"] ringPage ∧
      (page ringApp).reply ringPage (.query (ringInside ".missing")) = .stuck 0 ∧
      ∃ result after,
        (page ringApp).reply ringPage (.query (ringInside ".ring")) = .answered 0 result after := by
  refine ⟨ringPage_reached, ?_, ?_⟩
  · exact (query_answers_without_ring ringPage_reached (ringInside ".missing")).1.mpr
      ⟨rfl, nofun, rfl, ringPage_rendered, ringPage_stalls⟩
  · have hfound : (select? (ringPage.present ringApp) (ringInside ".ring").selector).isSome =
        true := by decide +kernel
    obtain ⟨hstuck_iff, hanswered, -⟩ :=
      query_answers_without_ring ringPage_reached (ringInside ".ring")
    refine hanswered fun hstuck => ?_
    obtain ⟨-, -, -, -, hstalls⟩ := hstuck_iff.mp hstuck
    rw [(select?_eq_none_iff _).mpr hstalls] at hfound
    cases hfound

/-- Some page that calls bring about never answers a query. -/
theorem ringPage_never_answers :
    ¬∀ (app : App) (made : List Exchange) (s : PageState) (locator : Locator),
      Reached app made s → ∃ latency result after,
        (page app).reply s (.query locator) = .answered latency result after := by
  intro hanswers
  obtain ⟨latency, result, after, hanswered⟩ :=
    hanswers ringApp _ _ (ringInside ".missing") ringPage_reached
  have hstuck : (page ringApp).reply ringPage (.query (ringInside ".missing")) = .stuck 0 :=
    (query_stuck_iff ringApp ringPage _).mpr
      ⟨rfl, nofun, rfl, ringPage_rendered, ringPage_stalls⟩
  cases hstuck.symm.trans hanswered

end DesktopTrial.Model
