import DesktopTrial.Check.OnPage
import DesktopTrial.Proofs.Model.Storage
import DesktopTrial.Proofs.Readiness.Ending
import DesktopTrial.Proofs.Run.Ensures

/-!
# Pages that present a document

On an application that refuses nothing a session is let in, and the page presents the
application's document.  What a page presents decides how waits, clicks and checks end on
it.
-/

namespace DesktopTrial

namespace Model

variable {app : App} {entries : Storage} {url : String} {elements found : List Element}
  {locator : Locator} {s : PageState}

/-- An application that refuses nothing and answers every query at once. -/
structure App.Obliging (app : App) : Prop where
  failing : app.failing = none
  backend : app.backendAvailable = true
  storage : app.storageBlocked = false
  replacements : app.replacements = 0
  delay : app.queryDelay = 0

/-- An open page shows the application's document at a URL, with these elements. -/
structure PageState.Presents (url : String) (elements : List Element) (s : PageState) :
    Prop where
  isOpen : s.closed = false
  rendered : s.rendered = true
  replacements : s.replacements = 0
  url : s.url = url
  elements : s.elements = elements

/-- A page presents a document at this moment. -/
def Presenting (url : String) (elements : List Element) (moment : Moment PageState) : Prop :=
  moment.page.Presents url elements

/-! ## Entering with a session -/

/-- A fresh page into which entries are written with the next document. -/
structure PageState.Awaits (entries : Storage) (s : PageState) : Prop where
  isOpen : s.closed = false
  installed : s.installed = some entries
  storage : s.storage = Dictionary.empty

/-- A page presents a document, whose storage has these entries. -/
structure PageState.Admits (entries : Storage) (url : String) (elements : List Element)
    (s : PageState) : Prop where
  presents : s.Presents url elements
  stored : ∀ entry ∈ entries.entries, s.storage.find? entry.1 = some entry.2

theorem install_ensures {seed : Seed} (hentries : seed.entries = .ok entries) :
    Run.Ensures (fun moment => moment.page = .fresh app) (seed.install (page app))
      fun _ moment => moment.page.Awaits entries := by
  refine .ofExcept_bind hentries (.ask fun before hfresh => ?_)
  refine ⟨0, (), (PageState.fresh app).install entries, ?_, rfl, rfl, rfl⟩
  rw [hfresh]
  rfl

/-- Whoever has a session is shown the page that was asked for. -/
theorem navigate_ensures (happ : app.Obliging) (htoken : entries.has app.tokenKey = true)
    (habsolute : Url.isAbsolute url = true) (hpath : Url.path url = app.documentPath) :
    Run.Ensures (fun moment => moment.page.Awaits entries) (Run.ask (page app) (.navigate url))
      fun _ moment => moment.page.Admits entries url app.elements := by
  refine .ask fun before hbefore => ?_
  generalize before.page = s at hbefore
  refine ⟨0, (), (s.note ("navigate:" ++ Url.path url)).visit app url, ?_, ?_⟩
  · rw [page_reply hbefore.isOpen, openReply, if_pos habsolute]
  have hstorage : (s.note ("navigate:" ++ Url.path url)).nextStorage app =
      Dictionary.empty.merge entries := by
    simp only [PageState.nextStorage, PageState.note, happ.storage, hbefore.installed,
      hbefore.storage]
  have hlanding : PageState.landing app (Dictionary.empty.merge entries) url = url := by
    rw [PageState.landing, Dictionary.has_merge, htoken]
    simp
  constructor
  · refine ⟨hbefore.isOpen, ?_, happ.replacements, ?_, rfl⟩
    · simp only [PageState.visit, hstorage, hlanding]
      exact beq_iff_eq.mpr hpath
    · simp only [PageState.visit, hstorage, hlanding]
  · intro entry hentry
    simp only [PageState.visit, hstorage]
    exact Dictionary.find?_merge_of_mem hentry

/-- The session is confirmed in a document whose storage has its entries. -/
theorem verify_ensures (happ : app.Obliging) {seed : Seed} (hentries : seed.entries = .ok entries) :
    Run.Ensures (fun moment => moment.page.Admits entries url elements) (seed.verify (page app))
      fun _ moment => moment.page.Admits entries url elements := by
  intro before hbefore
  obtain ⟨outcome, hverified, htells⟩ :=
    verify_tells hbefore.presents.isOpen happ.storage hentries
  obtain rfl := htells.confirmed.mpr hbefore.stored
  exact ⟨(), before, hverified, hbefore⟩

/-! ## Queries, clicks and checks -/

theorem select?_present (happ : app.Obliging) (hpresents : s.Presents url elements)
    (selector : Selector) : select? (s.present app) selector = select? elements selector := by
  have hpresent : s.present app = elements := by
    rw [PageState.present, happ.backend, hpresents.elements]
    simp
  rw [hpresent]

theorem reply_query (happ : app.Obliging) (hpresents : s.Presents url elements)
    (hselect : select? elements locator.selector = some found) :
    (page app).reply s (.query locator) = .answered 0 (.ok (found.map Element.sighting)) s := by
  have hsound : app.failing ≠ some locator.selector := by simp [happ.failing]
  rw [← happ.delay]
  exact reply_found hpresents.isOpen hsound hpresents.replacements hpresents.rendered
    ((select?_present happ hpresents _).trans hselect)

theorem query_ensures (happ : app.Obliging)
    (hselect : select? elements locator.selector = some found) :
    Run.Ensures (Presenting url elements) (Run.ask (page app) (.query locator))
      fun sightings moment =>
        sightings = found.map Element.sighting ∧ Presenting url elements moment :=
  .ask fun before hbefore =>
    ⟨0, _, before.page, reply_query happ hbefore hselect, rfl, hbefore⟩

theorem awaitReady_ensures (happ : app.Obliging) {condition : Condition} {patience : Patience}
    (hbudget : 0 < patience.budget)
    (hselect : select? elements condition.locator.selector = some found)
    (hholds : condition.holds (found.map Element.sighting) = true) :
    Run.Ensures (Presenting url elements)
      (Readiness.awaitReady (page app) condition patience) fun _ => Presenting url elements :=
  fun _ hbefore => ⟨⟨0, condition.describe⟩, _, Readiness.awaitReady_of_first
    (reply_query happ hbefore hselect) hbudget (Nat.zero_le _) hholds, hbefore⟩

theorem awaitVisible_ensures (happ : app.Obliging) {patience : Patience} {box : Box}
    (hbudget : 0 < patience.budget)
    (hselect : select? elements locator.selector = some found)
    (hshows : Readiness.ShowsBox locator (found.map Element.sighting) box) :
    Run.Ensures (Presenting url elements) (Readiness.awaitVisible (page app) locator patience)
      fun value moment => value = box ∧ Presenting url elements moment :=
  fun _ hbefore => ⟨box, _, Readiness.awaitVisible_of_first (reply_query happ hbefore hselect)
    hbudget (Nat.zero_le _) hshows, rfl, hbefore⟩

theorem click_ensures (p : Point) :
    Run.Ensures (Presenting url elements) (Run.ask (page app) (.click p .primary))
      fun _ => Presenting url (primaryClick app p elements).1 := by
  refine .ask fun before hbefore => ⟨0, (), before.page.click app p .primary, ?_, ?_⟩
  · rw [page_reply hbefore.isOpen]
    rfl
  · have helements : (before.page.click app p .primary).elements =
        (primaryClick app p before.page.elements).1 :=
      PageState.primaryClick_elements hbefore.rendered
    obtain ⟨_, _, hclick⟩ := before.page.click_frame app .primary (p := p)
    rw [hclick, hbefore.elements] at helements
    rw [hclick]
    exact ⟨hbefore.isOpen, hbefore.rendered, hbefore.replacements, hbefore.url, helements⟩

theorem isElsewhere_ensures (path : String) :
    Run.Ensures (Presenting url elements) (Check.isElsewhere (page app) path)
      fun outcome moment =>
        outcome.passed = (Url.path url != path) ∧ Presenting url elements moment := by
  intro before hbefore
  rw [Check.isElsewhere, currentPath, Run.bind_apply, Run.bind_apply,
    ask_currentUrl hbefore.isOpen, hbefore.url]
  exact ⟨_, before, rfl, rfl, hbefore⟩

theorem isCentered_ensures (happ : app.Obliging) {expected : Centering}
    (hselect : select? elements locator.selector = some found) :
    Run.Ensures (Presenting url elements) (Check.isCentered (page app) locator expected)
      fun outcome moment =>
        outcome = Check.centeredness locator expected (found.map Element.sighting) ∧
          Presenting url elements moment :=
  (query_ensures happ hselect).bind fun _ moment hmoment =>
    ⟨_, moment, rfl, by rw [hmoment.1], hmoment.2⟩

theorem screenshot_ensures :
    Run.Ensures (Presenting url elements) (Run.ask (page app) .screenshot)
      fun _ => Presenting url elements :=
  .ask fun before hbefore => ⟨0, image, before.page.note "screenshot",
    page_reply hbefore.isOpen _,
    hbefore.isOpen, hbefore.rendered, hbefore.replacements, hbefore.url, hbefore.elements⟩

end Model

end DesktopTrial
