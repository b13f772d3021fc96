import DesktopTrial.Proofs.Model.Turn

/-!
# A backend that does not answer

While the backend does not answer, no query finds the elements that need it.  A click
still meets them and what they reveal is still shown, so that a page is that of the
application without these elements only as long as clicks meet others.
-/

namespace DesktopTrial

namespace Model

def Element.isLocal (e : Element) : Bool := !e.needsBackend

def App.withoutBackend (app : App) : App :=
  { app with elements := app.elements.filter Element.isLocal }

def PageState.withoutBackend (s : PageState) : PageState :=
  { s with elements := s.elements.filter Element.isLocal }

/-- The elements that need the backend reveal nothing, and their ids are those of no
other elements. -/
structure BackendApart (elements : List Element) : Prop where
  reveals : ∀ e ∈ elements, e.needsBackend = true → e.reveals = []
  ids : ∀ e ∈ elements, e.needsBackend = true →
    ∀ other ∈ elements, other.id = e.id → other.needsBackend = true

variable {app : App} {elements : List Element} {p : Point}

theorem BackendApart.congr {after : List Element} (hapart : BackendApart elements)
    (houtline : after.map Element.outline = elements.map Element.outline) :
    BackendApart after := by
  have horigin : ∀ e ∈ after, ∃ original ∈ elements, original.id = e.id ∧
      original.reveals = e.reveals ∧ original.needsBackend = e.needsBackend := by
    intro e hmember
    have houtlined : e.outline ∈ elements.map Element.outline := by
      rw [← houtline]
      exact List.mem_map_of_mem hmember
    obtain ⟨original, horiginal, hsame⟩ := List.mem_map.mp houtlined
    obtain ⟨_, _, rfl⟩ := Element.outline_eq hsame
    exact ⟨_, horiginal, rfl, rfl, rfl⟩
  constructor
  · intro e hmember hbackend
    obtain ⟨original, horiginal, _, hreveals, hneeds⟩ := horigin e hmember
    rw [← hreveals]
    exact hapart.reveals original horiginal (hneeds.trans hbackend)
  · intro e hmember hbackend other hother hid
    obtain ⟨original, horiginal, hids, _, hneeds⟩ := horigin e hmember
    obtain ⟨original', horiginal', hids', _, hneeds'⟩ := horigin other hother
    rw [← hneeds']
    apply hapart.ids original horiginal (hneeds.trans hbackend) original' horiginal'
    rw [hids', hid, hids]

/-! ## What is shown without the elements of the backend -/

theorem showFirst?_absent {id : String} (habsent : ∀ e ∈ elements, e.id ≠ id) :
    showFirst? id elements = none := by
  rw [showFirst?_eq_none_iff]
  intro e hfound
  have hid := List.find?_some hfound
  exact absurd (eq_of_beq hid) (habsent e (List.mem_of_find?_eq_some hfound))

/-- An element that does not need the backend is shown alike. -/
theorem showFirst?_filter_local {id : String}
    (hlocal : ∀ e ∈ elements, e.id = id → e.isLocal = true) :
    showFirst? id (elements.filter Element.isLocal) =
      (showFirst? id elements).map fun found => (found.1, found.2.filter Element.isLocal) := by
  induction elements with
  | nil => rfl
  | cons e rest ih =>
      have hrest := ih fun other hother => hlocal other (List.mem_cons_of_mem _ hother)
      by_cases hid : e.id = id
      · have hfirst : e.isLocal = true := hlocal e List.mem_cons_self hid
        have hafter : Element.isLocal { e with shown := true } = true := hfirst
        rw [List.filter_cons_of_pos hfirst, showFirst?, showFirst?, if_pos hid, if_pos hid]
        split
        · rfl
        · rw [Option.map_some, List.filter_cons_of_pos hafter]
      · cases hfirst : e.isLocal <;>
          simp [showFirst?, hfirst, hid, hrest, Option.map_map, Function.comp_def]

/-- Showing an element that needs the backend makes no difference to the others. -/
theorem showFirst?_backend {id : String} {revealed : List String} {after : List Element}
    (hinert : ∀ e ∈ elements, e.id = id → e.isLocal = false ∧ e.reveals = [])
    (hshow : showFirst? id elements = some (revealed, after)) :
    revealed = [] ∧ after.filter Element.isLocal = elements.filter Element.isLocal := by
  induction elements generalizing after with
  | nil => cases hshow
  | cons e rest ih =>
      have hrest : ∀ other ∈ rest, other.id = id → other.isLocal = false ∧ other.reveals = [] :=
        fun other hother => hinert other (List.mem_cons_of_mem _ hother)
      obtain ⟨hid, rfl, rfl⟩ | ⟨-, others, hfound, rfl⟩ := showFirst?_cons_eq_some hshow
      · obtain ⟨hfirst, hreveals⟩ := hinert e List.mem_cons_self hid
        have hbefore : ¬e.isLocal = true := Bool.eq_false_iff.mp hfirst
        have hafter : ¬Element.isLocal { e with shown := true } = true := hbefore
        refine ⟨hreveals, ?_⟩
        rw [List.filter_cons_of_neg hafter, List.filter_cons_of_neg hbefore]
      · obtain ⟨hnothing, hothers⟩ := ih hrest hfound
        refine ⟨hnothing, ?_⟩
        rw [List.filter_cons, List.filter_cons, hothers]

/-- An id is that of elements that need the backend, which reveal nothing, or of others. -/
theorem BackendApart.inert_or_local (hapart : BackendApart elements) (id : String) :
    (∀ e ∈ elements, e.id = id → e.isLocal = false ∧ e.reveals = []) ∨
      ∀ e ∈ elements, e.id = id → e.isLocal = true := by
  by_cases hbackend : ∃ e ∈ elements, e.id = id ∧ e.needsBackend = true
  · obtain ⟨e, hmember, rfl, hneeds⟩ := hbackend
    left
    intro other hother hid
    have hneeds' := hapart.ids e hmember hneeds other hother hid
    exact ⟨by simp [Element.isLocal, hneeds'], hapart.reveals other hother hneeds'⟩
  · right
    intro e hmember hid
    cases hneeds : e.needsBackend with
    | false => simp [Element.isLocal, hneeds]
    | true => exact absurd ⟨e, hmember, hid, hneeds⟩ hbackend

/-- What is shown of the other elements does not depend on those that need the backend. -/
theorem reveal_filter (pending : List String) (elements : List Element)
    (hapart : BackendApart elements) :
    reveal pending (elements.filter Element.isLocal) =
      (reveal pending elements).filter Element.isLocal := by
  have habsent {elements : List Element} {id : String}
      (hinert : ∀ e ∈ elements, e.id = id → e.isLocal = false ∧ e.reveals = []) :
      showFirst? id (elements.filter Element.isLocal) = none := by
    apply showFirst?_absent
    intro e hmember hid
    obtain ⟨hmember, hlocal⟩ := List.mem_filter.mp hmember
    rw [(hinert e hmember hid).1] at hlocal
    cases hlocal
  -- An id of the backend's elements finds nothing without them, and reveals nothing with them.
  induction pending, elements using reveal.induct with
  | case1 elements => rw [reveal, reveal]
  | case2 elements id rest hshow ih =>
      have hnone : showFirst? id (elements.filter Element.isLocal) = none := by
        obtain hinert | hlocal := hapart.inert_or_local id
        · exact habsent hinert
        · rw [showFirst?_filter_local hlocal, hshow, Option.map_none]
      rw [reveal_none hshow, reveal_none hnone, ih hapart]
  | case3 elements id rest revealed after hshow ih =>
      have hafter := ih (hapart.congr (map_outline_of_covered (showFirst?_covered hshow)))
      obtain hinert | hlocal := hapart.inert_or_local id
      · obtain ⟨rfl, hothers⟩ := showFirst?_backend hinert hshow
        rw [reveal_none (habsent hinert), reveal_some hshow, ← hafter, hothers]
        rfl
      · have hsome : showFirst? id (elements.filter Element.isLocal) =
            some (revealed, after.filter Element.isLocal) := by
          rw [showFirst?_filter_local hlocal, hshow, Option.map_some]
        rw [reveal_some hsome, reveal_some hshow, hafter]

/-! ## Clicks and queries without the elements of the backend -/

theorem updateMenu_filter {menuId : String} {f : Element → Element}
    (hneeds : ∀ e, (f e).isLocal = e.isLocal) :
    updateMenu menuId f (elements.filter Element.isLocal) =
      (updateMenu menuId f elements).filter Element.isLocal := by
  rw [updateMenu, updateMenu, List.filter_map]
  congr 1
  apply List.filter_congr
  intro e _
  by_cases hmenu : e.id = menuId
  · simp [hmenu, hneeds]
  · simp [hmenu]

/-- No element that needs the backend is met by a click at this point. -/
def Spared (elements : List Element) (p : Point) : Prop :=
  ∀ target, topmost? elements p = some target → target.isLocal = true

theorem secondaryClick_filter (hspared : Spared elements p) :
    secondaryClick app.withoutBackend p (elements.filter Element.isLocal) =
      (secondaryClick app p elements).filter Element.isLocal := by
  rw [secondaryClick, secondaryClick, topmost?_filter hspared]
  cases topmost? elements p with
  | none => exact updateMenu_filter fun _ => rfl
  | some target =>
      by_cases hmenu : target.id = app.menuId
      · simp [App.withoutBackend, hmenu]
      · cases hopens : target.opensMenu with
        | true =>
            simp only [App.withoutBackend, hmenu, hopens, if_false, if_true]
            exact updateMenu_filter fun _ => rfl
        | false =>
            simp only [App.withoutBackend, hmenu, hopens, if_false, Bool.false_eq_true]
            exact updateMenu_filter fun _ => rfl

theorem primaryClick_filter (hapart : BackendApart elements) (hspared : Spared elements p) :
    primaryClick app.withoutBackend p (elements.filter Element.isLocal) =
      ((primaryClick app p elements).1.filter Element.isLocal, (primaryClick app p elements).2) := by
  have hclose : closeMenu app.menuId (elements.filter Element.isLocal) =
      (closeMenu app.menuId elements).filter Element.isLocal := updateMenu_filter fun _ => rfl
  have hclosed : BackendApart (closeMenu app.menuId elements) :=
    hapart.congr (updateMenu_outline fun _ => rfl)
  simp only [primaryClick, App.withoutBackend, topmost?_filter hspared]
  cases topmost? elements p with
  | none => by_cases hsticky : app.stickyMenu = true <;> simp [hsticky, hclose]
  | some target =>
      by_cases hmenu : target.id = app.menuId
      · simp [hmenu, hclose]
      · by_cases hsticky : app.stickyMenu = true
        · simp [hmenu, hsticky, reveal_filter _ _ hapart]
        · simp [hmenu, hsticky, hclose, reveal_filter _ _ hclosed]

namespace PageState

theorem click_withoutBackend {s : PageState} (button : Button) (hapart : BackendApart s.elements)
    (hspared : s.rendered = true → Spared s.elements p) :
    s.withoutBackend.click app.withoutBackend p button =
      (s.click app p button).withoutBackend := by
  cases hrendered : s.rendered with
  | false => simp [click, withoutBackend, note, hrendered]
  | true =>
      have hmet := hspared hrendered
      cases button with
      | secondary =>
          simp [click, withoutBackend, note, hrendered, secondaryClick_filter hmet]
      | primary =>
          simp only [click, withoutBackend, note, hrendered, primaryClick_filter hapart hmet,
            Bool.not_true, Bool.false_eq_true, if_false]
          generalize primaryClick app p s.elements = clicked
          obtain ⟨elements, item⟩ := clicked
          cases item <;> rfl

/-- While the backend does not answer, the same elements are present. -/
theorem present_withoutBackend (hbackend : app.backendAvailable = false) (s : PageState) :
    s.withoutBackend.present app.withoutBackend = s.present app := by
  simp [present, withoutBackend, App.withoutBackend, hbackend, List.filter_filter,
    Element.isLocal]

end PageState

theorem queryReply_withoutBackend (hbackend : app.backendAvailable = false) (s : PageState)
    (locator : Locator) :
    queryReply app.withoutBackend s.withoutBackend locator =
      (queryReply app s locator).mapState PageState.withoutBackend := by
  have hfailing : app.withoutBackend.failing = app.failing := rfl
  have hreplacements : s.withoutBackend.replacements = s.replacements := rfl
  have hrendered : s.withoutBackend.rendered = s.rendered := rfl
  rw [queryReply, queryReply, PageState.present_withoutBackend hbackend, hfailing,
    hreplacements, hrendered]
  by_cases hfails : app.failing = some locator.selector
  · rw [if_pos hfails, if_pos hfails]
    rfl
  rw [if_neg hfails, if_neg hfails]
  by_cases hreplaced : 0 < s.replacements
  · rw [if_pos hreplaced, if_pos hreplaced]
    rfl
  rw [if_neg hreplaced, if_neg hreplaced]
  cases s.rendered with
  | false => rfl
  | true => cases select? (s.present app) locator.selector <;> rfl

/-- A page of the application takes a call as it would without the elements that need the
backend, as long as a click meets none of them. -/
theorem reply_withoutBackend (hbackend : app.backendAvailable = false) (call : Call)
    (s : PageState) (hapart : BackendApart s.elements)
    (hspared : ∀ p button, call = .click p button → s.closed = false → s.rendered = true →
      Spared s.elements p) :
    (page app.withoutBackend).reply s.withoutBackend call =
      ((page app).reply s call).mapState PageState.withoutBackend := by
  have hpage : s.withoutBackend.closed = s.closed := rfl
  simp only [page, hpage]
  cases hclosed : s.closed with
  | true => cases call <;> rfl
  | false =>
      simp only [Bool.false_eq_true, if_false]
      cases call with
      | navigate url =>
          simp only [openReply]
          by_cases habsolute : Url.isAbsolute url = true
          · rw [if_pos habsolute, if_pos habsolute]
            rfl
          · rw [if_neg habsolute, if_neg habsolute]
            rfl
      | currentUrl => rfl
      | install entries =>
          have hinstalled : s.withoutBackend.installed = s.installed := rfl
          simp only [openReply, PageState.install, hinstalled]
          by_cases hsame : s.installed = some entries
          · rw [if_pos hsame, if_pos hsame]
            rfl
          · rw [if_neg hsame, if_neg hsame]
            rfl
      | readStorage key =>
          have hblocked : app.withoutBackend.storageBlocked = app.storageBlocked := rfl
          simp only [openReply, hblocked]
          cases app.storageBlocked <;> rfl
      | query locator => exact queryReply_withoutBackend hbackend s locator
      | click p button =>
          have hclick : s.withoutBackend.click app.withoutBackend p button =
              (s.click app p button).withoutBackend :=
            PageState.click_withoutBackend button hapart (hspared p button rfl hclosed)
          simp only [openReply, hclick]
          rfl
      | screenshot => rfl
      | close => rfl

/-- A call leaves the outlines of the elements or brings back those of the application. -/
theorem reply_outline {call : Call} {before after : PageState} {latency : Nat}
    {answer : Except Failure call.Answer}
    (hreply : (page app).reply before call = .answered latency answer after) :
    after.elements.map Element.outline = before.elements.map Element.outline ∨
      after.elements = app.elements := by
  obtain ⟨-, hreply⟩ | ⟨-, hreply⟩ := reply_cases hreply
  · rw [closedReply_unchanged hreply]
    exact .inl rfl
  · exact (openReply_turn hreply).outline

/-- No click of these calls meets an element that needs the backend. -/
def SparesBackend (app : App) (calls : List Call) (start : Moment PageState) : Prop :=
  ∀ front p button back, calls = front ++ .click p button :: back →
    ∀ made reached, (page app).converse front start = some (made, reached) →
      reached.page.closed = false → reached.page.rendered = true →
      Spared reached.page.elements p

namespace SparesBackend

variable {call : Call} {calls : List Call} {start middle : Moment PageState}

theorem head (hspares : SparesBackend app (call :: calls) start) :
    ∀ p button, call = .click p button → start.page.closed = false →
      start.page.rendered = true → Spared start.page.elements p := by
  rintro p button rfl
  exact hspares [] p button calls rfl _ _ rfl

theorem tail (hspares : SparesBackend app (call :: calls) start)
    {answer : Except Failure call.Answer}
    (hasked : Run.ask (page app) call start = some (answer, middle)) :
    SparesBackend app calls middle := by
  rintro front p button back rfl made reached hreached
  apply hspares (call :: front) p button back rfl
  rw [Page.converse_cons front hasked, hreached, Option.map_some]

end SparesBackend

def withoutBackend (moment : Moment PageState) : Moment PageState :=
  ⟨moment.page.withoutBackend, moment.clock⟩

theorem ask_withoutBackend (hbackend : app.backendAvailable = false) (call : Call)
    (start : Moment PageState) (hapart : BackendApart start.page.elements)
    (hspared : ∀ p button, call = .click p button → start.page.closed = false →
      start.page.rendered = true → Spared start.page.elements p) :
    Run.ask (page app.withoutBackend) call (withoutBackend start) =
      (Run.ask (page app) call start).map fun ended => (ended.1, withoutBackend ended.2) := by
  have hreply := reply_withoutBackend hbackend call start.page hapart hspared
  simp only [Run.ask, withoutBackend, hreply]
  cases (page app).reply start.page call <;> rfl

/-- A call leaves the elements that need the backend apart. -/
theorem BackendApart.ask {call : Call} {before after : Moment PageState}
    {answer : Except Failure call.Answer} (happ : BackendApart app.elements)
    (hapart : BackendApart before.page.elements)
    (hasked : Run.ask (page app) call before = some (answer, after)) :
    BackendApart after.page.elements := by
  obtain ⟨latency, hreply⟩ := Run.ask_eq_some hasked
  obtain houtline | helements := reply_outline hreply
  · exact hapart.congr houtline
  · rw [helements]
    exact happ

theorem converse_withoutBackend (hbackend : app.backendAvailable = false)
    (happ : BackendApart app.elements) (calls : List Call) (start : Moment PageState)
    (hapart : BackendApart start.page.elements) (hspares : SparesBackend app calls start) :
    (page app.withoutBackend).converse calls (withoutBackend start) =
      ((page app).converse calls start).map fun ended => (ended.1, withoutBackend ended.2) := by
  induction calls generalizing start with
  | nil => rfl
  | cons call calls ih =>
      have hask := ask_withoutBackend hbackend call start hapart hspares.head
      cases hasked : Run.ask (page app) call start with
      | none =>
          rw [hasked, Option.map_none] at hask
          rw [Page.converse_cons_endless calls hask, Page.converse_cons_endless calls hasked,
            Option.map_none]
      | some ended =>
          obtain ⟨answer, middle⟩ := ended
          rw [hasked, Option.map_some] at hask
          have hrest := ih middle (happ.ask hapart hasked) (hspares.tail hasked)
          rw [Page.converse_cons calls hask, Page.converse_cons calls hasked, hrest,
            Option.map_map, Option.map_map]
          rfl

/-- While the backend does not answer, calls on a fresh page are answered and remembered as
if the elements that need the backend were not there, provided that they reveal nothing,
share no id with others, and are not met by a click. -/
theorem unavailable_backend_absent (app : App) (hbackend : app.backendAvailable = false)
    (hapart : BackendApart app.elements) (calls : List Call)
    (hspares : SparesBackend app calls ⟨.fresh app, 0⟩) :
    ((page app.withoutBackend).converse calls ⟨.fresh app.withoutBackend, 0⟩).map
        (fun ended => (ended.1, ended.2.page.history)) =
      ((page app).converse calls ⟨.fresh app, 0⟩).map
        fun ended => (ended.1, ended.2.page.history) := by
  have hconverse := converse_withoutBackend hbackend hapart calls ⟨.fresh app, 0⟩ hapart hspares
  have hfresh : withoutBackend ⟨.fresh app, 0⟩ = ⟨.fresh app.withoutBackend, 0⟩ := rfl
  rw [hfresh] at hconverse
  rw [hconverse, Option.map_map]
  rfl

/-- An application with a row of the backend that lies over a part of the background. -/
def rowsApp : App where
  elements :=
    [{ id := "background", box := ⟨0, 0, 100, 100⟩, opensMenu := true },
     { id := "row", box := ⟨0, 0, 50, 50⟩, needsBackend := true },
     { id := "context-menu", box := ⟨0, 0, 40, 40⟩, css := [".context-menu"], shown := false }]
  documentPath := "/"
  backendAvailable := false

/-- Opens the menu with a right-click and looks for it. -/
def menuCalls (p : Point) : List Call :=
  [.navigate "http://h/", .click p .secondary, .query (.ofSelector (.css ".context-menu"))]

/-- Beside the row, a right-click opens the menu with and without the row. -/
theorem rowsApp_beside_row :
    ((page rowsApp.withoutBackend).converse (menuCalls ⟨70, 70⟩)
        ⟨.fresh rowsApp.withoutBackend, 0⟩).map (fun ended => (ended.1, ended.2.page.history)) =
      ((page rowsApp).converse (menuCalls ⟨70, 70⟩) ⟨.fresh rowsApp, 0⟩).map
        fun ended => (ended.1, ended.2.page.history) := by
  have hapart : BackendApart rowsApp.elements := by
    constructor <;> decide +kernel
  have hbackground : (((page rowsApp).converse [.navigate "http://h/"] ⟨.fresh rowsApp, 0⟩).all
      fun ended => (topmost? ended.2.page.elements ⟨70, 70⟩).all Element.isLocal) = true := by
    decide +kernel
  refine unavailable_backend_absent rowsApp rfl hapart (menuCalls ⟨70, 70⟩) ?_
  intro front p button back hcalls made reached hreached _ _ target htarget
  rcases front with _ | ⟨first, _ | ⟨second, _ | ⟨third, rest⟩⟩⟩
  · cases hcalls
  · cases hcalls
    rw [hreached, Option.all_some, htarget, Option.all_some] at hbackground
    exact hbackground
  · cases hcalls
  · simp [menuCalls] at hcalls

def showsSomething : Exchange → Bool
  | ⟨.query _, some (.ok found)⟩ => found.any (·.visible)
  | _ => false

/-- On the row, a right-click opens the menu only without the row, although the row is not
there. -/
theorem rowsApp_on_row :
    ¬∀ (app : App) (calls : List Call), app.backendAvailable = false →
      ((page app.withoutBackend).converse calls ⟨.fresh app.withoutBackend, 0⟩).map
          (fun ended => (ended.1, ended.2.page.history)) =
        ((page app).converse calls ⟨.fresh app, 0⟩).map
          fun ended => (ended.1, ended.2.page.history) := by
  intro hsame
  have hmenu := congrArg (fun ended => ended.any fun ended =>
    ended.1.toOption.any fun made => made.any showsSomething)
    (hsame rowsApp (menuCalls ⟨5, 5⟩) rfl)
  revert hmenu
  decide +kernel

end Model

end DesktopTrial
