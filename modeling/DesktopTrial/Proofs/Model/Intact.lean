import DesktopTrial.Proofs.Model.Click
import DesktopTrial.Proofs.Page.Exchanges

/-!
# Failed calls leave a page intact

A call that fails and a query that is given up change nothing on a page.  The page remembers the
URL that it refuses to go to, and a query that finds the document replaced uses up one of the
replacements.  Queries that succeed change nothing at all, so a wait leaves the page as it was but
for the replacements, whether it ends well, fails, or is cut off by its budget.
-/

namespace DesktopTrial

namespace Exchange

/-- The call failed, or the query was given up. -/
def Fails (exchange : Exchange) : Prop := ∀ value, exchange.answer ≠ some (.ok value)

def rejected? : Exchange → Option String
  | ⟨.navigate url, some (.error (.navigation _ _))⟩ => some url
  | _ => none

def foundReplaced (exchange : Exchange) : Bool := exchange.failure?.any Failure.isTransient

end Exchange

namespace Model

variable {app : App} {call : Call} {exchange : Exchange} {made : List Exchange}
  {start before after : PageState} {latency : Nat}

/-- Nothing but the history and the count of replacements may be changed by the exchange: the one
by the URL that was refused, the other by the replacement that was found. -/
structure PageState.Intact (before : PageState) (exchange : Exchange) (after : PageState) :
    Prop where
  url : after.url = before.url
  rendered : after.rendered = before.rendered
  elements : after.elements = before.elements
  storage : after.storage = before.storage
  installed : after.installed = before.installed
  installs : after.installs = before.installs
  closed : after.closed = before.closed
  history : after.history =
    before.history ++ (exchange.rejected?.map fun url => "navigate:" ++ Url.path url).toList
  replacements : after.replacements + exchange.foundReplaced.toNat = before.replacements

namespace PageState.Intact

/-- An exchange that changes nothing refuses no URL and finds no replacement. -/
theorem unchanged (hrejected : exchange.rejected? = none)
    (hreplaced : exchange.foundReplaced = false) : before.Intact exchange before where
  url := rfl
  rendered := rfl
  elements := rfl
  storage := rfl
  installed := rfl
  installs := rfl
  closed := rfl
  history := by rw [hrejected, Option.map_none, Option.toList_none, List.append_nil]
  replacements := by rw [hreplaced, Bool.toNat_false, Nat.add_zero]

/-- Where no URL is refused, only the count of replacements may change. -/
theorem eq_of_not_rejected (hintact : before.Intact exchange after)
    (hrejected : exchange.rejected? = none) :
    after = { before with replacements := after.replacements } := by
  have hhistory := hintact.history
  rw [hrejected, Option.map_none, Option.toList_none, List.append_nil] at hhistory
  rw [← hintact.url, ← hintact.rendered, ← hintact.elements, ← hintact.storage,
    ← hintact.installed, ← hintact.installs, ← hintact.closed, ← hhistory]

end PageState.Intact

/-! ## Single calls -/

theorem queryReply_intact {locator : Locator} {answer : Except Failure (List Sighting)}
    (hreply : queryReply app before locator = .answered latency answer after) :
    before.Intact ⟨.query locator, some answer⟩ after := by
  cases (queryReply_queried hreply).2 with
  | refused | answered => exact .unchanged rfl rfl
  | replaced hpending =>
      exact ⟨rfl, rfl, rfl, rfl, rfl, rfl, rfl, (List.append_nil _).symm,
        Nat.sub_add_cancel hpending⟩

theorem openReply_intact {failure : Failure}
    (hreply : openReply app before call = .answered latency (.error failure) after) :
    before.Intact ⟨call, some (.error failure)⟩ after := by
  cases call with
  | navigate url =>
      obtain ⟨-, hmade, -⟩ | ⟨hrefused, rfl⟩ := openReply_navigate hreply
      · cases hmade
      · cases hrefused
        exact ⟨rfl, rfl, rfl, rfl, rfl, rfl, rfl, rfl, rfl⟩
  | readStorage key =>
      simp only [openReply] at hreply
      split at hreply
      · cases hreply
        exact .unchanged rfl rfl
      · cases hreply
  | query locator => exact queryReply_intact hreply
  | currentUrl => cases hreply
  | install entries => cases hreply
  | click p button => cases hreply
  | screenshot => cases hreply
  | close => cases hreply

theorem closedReply_intact {answer : Except Failure call.Answer}
    (hreply : closedReply app before call = .answered latency answer after) :
    before.Intact ⟨call, some answer⟩ after := by
  cases call with
  | _ =>
      cases hreply
      exact .unchanged rfl rfl

/-- A call that fails or is given up leaves the page intact. -/
theorem intact_of_fails (hmakes : (page app).Makes before exchange after)
    (hfails : exchange.Fails) : before.Intact exchange after := by
  cases hmakes with
  | givenUp locator => exact .unchanged rfl rfl
  | @answered call latency answer _ hreply =>
      cases answer with
      | ok value => exact absurd rfl (hfails value)
      | error failure =>
          obtain ⟨-, hreply⟩ | ⟨-, hreply⟩ := reply_cases hreply
          · exact closedReply_intact hreply
          · exact openReply_intact hreply

/-- A query leaves the page intact even if it succeeds. -/
theorem intact_of_query (hmakes : (page app).Makes before exchange after) {locator : Locator}
    (hquery : exchange.call = .query locator) : before.Intact exchange after := by
  cases hmakes with
  | givenUp locator => exact .unchanged rfl rfl
  | @answered call latency answer _ hreply =>
      change call = .query locator at hquery
      subst hquery
      obtain ⟨-, hreply⟩ | ⟨-, hreply⟩ := reply_cases hreply
      · exact closedReply_intact hreply
      · exact queryReply_intact hreply

theorem rejected?_of_query {locator : Locator} (hquery : exchange.call = .query locator) :
    exchange.rejected? = none := by
  obtain ⟨call, answer⟩ := exchange
  change call = .query locator at hquery
  subst hquery
  rfl

/-! ## Queries one after the other -/

/-- Queries one after the other change only the count of replacements, by as many as they
find. -/
theorem queries_leave_page (hleads : (page app).Leads start made after) {locator : Locator}
    (hqueries : ∀ exchange ∈ made, exchange.call = .query locator) :
    after = { start with replacements := after.replacements } ∧
      after.replacements + made.countP Exchange.foundReplaced = start.replacements := by
  induction hleads with
  | nothing => exact ⟨rfl, rfl⟩
  | @snoc made exchange before after _ hmakes ih =>
      rw [List.forall_mem_append, List.forall_mem_singleton] at hqueries
      obtain ⟨hbefore, hcount⟩ := ih hqueries.1
      have hintact := intact_of_query hmakes hqueries.2
      have hafter := hintact.eq_of_not_rejected (rejected?_of_query hqueries.2)
      constructor
      · rw [hafter, hbefore]
      · have hlast := hintact.replacements
        rw [List.countP_append, List.countP_singleton]
        cases hfound : exchange.foundReplaced <;> simp only [hfound] at hlast ⊢ <;> grind

/-- In whatever state a page is, a call that fails and a query that is given up leave it intact.
A wait makes queries, however it ends, and leaves the page as it was but for the replacements
that they found. -/
theorem failures_leave_page (app : App) :
    (∀ (before after : PageState) (exchange : Exchange),
      (page app).Makes before exchange after → exchange.Fails → before.Intact exchange after) ∧
    ∀ (α : Type) (locator : Locator) (goal : String) (patience : Patience)
      (accept : List Sighting → Option α) (before after : Moment PageState)
      (outcome : Except Failure (α × Nat)),
      Readiness.await (page app) locator goal patience accept before = some (outcome, after) →
      ∃ made, (∀ exchange ∈ made, exchange.call = .query locator) ∧
        (page app).Leads before.page made after.page ∧
        after.page = { before.page with replacements := after.page.replacements } ∧
        after.page.replacements + made.countP Exchange.foundReplaced =
          before.page.replacements := by
  constructor
  · exact fun before after exchange hmakes hfails => intact_of_fails hmakes hfails
  · intro α locator goal patience accept before after outcome hended
    obtain ⟨made, hqueries, hleads⟩ := Readiness.await_leads hended
    exact ⟨made, hqueries, hleads, queries_leave_page hleads hqueries⟩

/-- The desktop with a document that is replaced once and with queries that take their time. -/
def slowDesktop : App := { desktop with replacements := 1, queryDelay := 20 }

def slowPage : PageState := (PageState.fresh slowDesktop).visit slowDesktop "http://h/desktop"

/-- A wait that finds the document replaced and is cut off while it asks again leaves the page as
it was, but for that replacement; and so does a navigation that is refused, but for its entry. -/
theorem slowPage_intact :
    (∃ failure after, Readiness.await (page slowDesktop) (.css ".desktop-dock") "dock" ⟨30, 5⟩
        List.head? ⟨slowPage, 0⟩ = some (.error failure, after) ∧
      after.clock = 30 ∧ after.page = { slowPage with replacements := 0 }) ∧
    slowPage.Intact ⟨.navigate "nowhere", some (.error (.navigation "nowhere" "invalid URL"))⟩
      (slowPage.note ("navigate:" ++ Url.path "nowhere")) := by
  obtain ⟨hfails, hawait⟩ := failures_leave_page slowDesktop
  constructor
  · have hrun : ((Readiness.await (page slowDesktop) (.css ".desktop-dock") "dock" ⟨30, 5⟩
        List.head? ⟨slowPage, 0⟩).map fun ended =>
          ((failed? ended.1).isSome, ended.2.clock, ended.2.page.replacements)) =
        some (true, 30, 0) := by
      decide +kernel
    obtain ⟨⟨outcome, after⟩, hended, hvalues⟩ := Option.map_eq_some_iff.mp hrun
    simp only [Prod.mk.injEq] at hvalues
    obtain ⟨hfailed, hclock, hreplacements⟩ := hvalues
    obtain ⟨made, -, -, hpage, -⟩ := hawait _ _ _ _ _ _ _ _ hended
    rw [hreplacements] at hpage
    cases outcome with
    | ok value => cases hfailed
    | error failure => exact ⟨failure, after, hended, hclock, hpage⟩
  · have hrelative : ¬Url.isAbsolute "nowhere" = true := by decide +kernel
    have hreply : (page slowDesktop).reply slowPage (.navigate "nowhere") =
        .answered 0 (.error (.navigation "nowhere" "invalid URL"))
          (slowPage.note ("navigate:" ++ Url.path "nowhere")) := by
      rw [page_reply rfl, openReply, if_neg hrelative]
    apply hfails _ _ _ (.answered hreply)
    intro value hvalue
    cases hvalue

end Model

end DesktopTrial
