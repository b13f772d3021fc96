import DesktopTrial.Proofs.Model.Login
import DesktopTrial.Proofs.Model.Reveal
import DesktopTrial.Proofs.Page.Exchanges

/-!
# Where a document changes

Whatever is asked of a page, its document stays the application's in the main: the same elements
in the same order, which differ from those of the application in whether they are shown, and, if
they belong to the context menu, in where they stand.  Nothing but the context menu is ever
hidden, until a navigation brings the application's own document back.
-/

namespace DesktopTrial.Model

/-- What is left of an element while its document is not replaced.  All but whether it is shown
and where it stands is the same.  An element that does not belong to the context menu also stands
where it stood, and is not hidden. -/
structure Element.Persists (menuId : String) (e other : Element) : Prop where
  same : other =
    { e with shown := other.shown, box := { e.box with x := other.box.x, y := other.box.y } }
  stands : e.id ≠ menuId → other.box = e.box
  shown : e.id ≠ menuId → e.shown = true → other.shown = true

namespace Element.Persists

variable {menuId : String} {e other last : Element}

theorem refl (e : Element) : e.Persists menuId e := ⟨rfl, fun _ => rfl, fun _ hshown => hshown⟩

/-- Whatever happens to the context menu, where it stands and whether it is shown alone changes. -/
theorem of_menu (hmenu : e.id = menuId) (shown : Bool) (x y : Float) :
    e.Persists menuId { e with shown, box := { e.box with x, y } } where
  same := rfl
  stands hbeside := absurd hmenu hbeside
  shown hbeside := absurd hmenu hbeside

theorem of_shown (e : Element) : e.Persists menuId { e with shown := true } where
  same := rfl
  stands _ := rfl
  shown _ _ := rfl

theorem id_eq (hpersists : e.Persists menuId other) : other.id = e.id := by rw [hpersists.same]

theorem trans (hfirst : e.Persists menuId other) (hnext : other.Persists menuId last) :
    e.Persists menuId last where
  same := by
    calc
      last = { other with
          shown := last.shown, box := { other.box with x := last.box.x, y := last.box.y } } :=
        hnext.same
      _ = { e with shown := last.shown, box := { e.box with x := last.box.x, y := last.box.y } } := by
        rw [hfirst.same]
  stands hbeside := (hnext.stands (hfirst.id_eq ▸ hbeside)).trans (hfirst.stands hbeside)
  shown hbeside hshown :=
    hnext.shown (hfirst.id_eq ▸ hbeside) (hfirst.shown hbeside hshown)

end Element.Persists

/-- What is left of the elements of a document while it is not replaced: each of them, at its
place. -/
def Persist (menuId : String) (elements others : List Element) : Prop :=
  List.Forall₂ (Element.Persists menuId) elements others

namespace Persist

variable {menuId : String} {elements others last : List Element}

theorem refl (elements : List Element) : Persist menuId elements elements :=
  List.forall₂_same.mpr fun e _ => .refl e

theorem trans (hfirst : Persist menuId elements others) (hnext : Persist menuId others last) :
    Persist menuId elements last := by
  induction hfirst generalizing last with
  | nil => exact hnext
  | cons hhead _ ih =>
      cases hnext with
      | cons hnextHead hrest => exact .cons (hhead.trans hnextHead) (ih hrest)

/-- Only elements of the context menu are changed, in whether they are shown and where. -/
theorem of_updateMenu {f : Element → Element}
    (hmenu : ∀ e : Element, e.id = menuId → e.Persists menuId (f e)) :
    Persist menuId elements (updateMenu menuId f elements) := by
  rw [Persist, updateMenu, List.forall₂_map_right_iff, List.forall₂_same]
  intro e _
  split
  · exact hmenu e ‹_›
  · exact .refl e

theorem of_closeMenu : Persist menuId elements (closeMenu menuId elements) :=
  of_updateMenu fun e hmenu => .of_menu hmenu false e.box.x e.box.y

theorem of_openMenu (p : Point) : Persist menuId elements (openMenu menuId p elements) :=
  of_updateMenu fun _ hmenu => .of_menu hmenu true p.x p.y

theorem of_showFirst? {id : String} {revealed : List String}
    (hshow : showFirst? id elements = some (revealed, others)) :
    Persist menuId elements others := by
  induction elements generalizing others with
  | nil => cases hshow
  | cons e rest ih =>
      obtain ⟨-, -, rfl⟩ | ⟨-, others, hothers, rfl⟩ := showFirst?_cons_eq_some hshow
      · exact List.Forall₂.cons (.of_shown e) (refl rest)
      · exact .cons (.refl e) (ih hothers)

theorem of_reveal (pending : List String) (elements : List Element) :
    Persist menuId elements (reveal pending elements) := by
  induction pending, elements using reveal.induct with
  | case1 elements =>
      rw [reveal]
      exact .refl elements
  | case2 elements id rest hshow ih =>
      rw [reveal_none hshow]
      exact ih
  | case3 elements id rest revealed after hshow ih =>
      rw [reveal_some hshow]
      exact (of_showFirst? hshow).trans ih

end Persist

variable {app : App} {call : Call} {exchange : Exchange} {made : List Exchange}
  {start before after : PageState} {latency : Nat}

/-! ## Clicks -/

theorem secondaryClick_persist (app : App) (p : Point) (elements : List Element) :
    Persist app.menuId elements (secondaryClick app p elements) := by
  rw [secondaryClick]
  split
  · exact .of_closeMenu
  · split
    · exact .refl elements
    · split
      · exact .of_openMenu p
      · exact .of_closeMenu

theorem leaveMenu_persist (app : App) (elements : List Element) :
    Persist app.menuId elements (leaveMenu app elements) := by
  rw [leaveMenu]
  split
  · exact .refl elements
  · exact .of_closeMenu

theorem primaryClick_persist (app : App) (p : Point) (elements : List Element) :
    Persist app.menuId elements (primaryClick app p elements).1 := by
  have hleave := leaveMenu_persist app elements
  simp only [primaryClick]
  split
  · exact hleave
  · split
    · exact .of_closeMenu
    · exact hleave.trans (.of_reveal _ _)

theorem click_persist (app : App) (p : Point) (button : Button) (s : PageState) :
    Persist app.menuId s.elements (s.click app p button).elements := by
  cases hrendered : s.rendered with
  | false =>
      have hclick : (s.click app p button).elements = s.elements := by
        simp only [PageState.click, hrendered, Bool.not_false, if_true]
        rfl
      rw [hclick]
      exact .refl s.elements
  | true =>
      cases button with
      | secondary =>
          rw [PageState.secondaryClick_elements hrendered]
          exact secondaryClick_persist app p s.elements
      | primary =>
          rw [PageState.primaryClick_elements hrendered]
          exact primaryClick_persist app p s.elements

/-! ## Exchanges -/

theorem openReply_persist {answer : Except Failure call.Answer}
    (hreply : openReply app before call = .answered latency answer after)
    (hvisited : Exchange.visited? ⟨call, some answer⟩ = none) :
    Persist app.menuId before.elements after.elements := by
  cases call with
  | navigate url =>
      obtain ⟨-, rfl, -⟩ | ⟨-, rfl⟩ := openReply_navigate hreply
      · cases hvisited
      · exact .refl _
  | query locator =>
      obtain ⟨replacements, rfl⟩ := queryReply_frame hreply
      exact .refl _
  | install entries =>
      cases hreply
      obtain ⟨_, _, _, hinstall⟩ := before.install_frame entries
      rw [hinstall]
      exact .refl _
  | readStorage key =>
      rw [openReply_readStorage hreply]
      exact .refl _
  | click p button =>
      cases hreply
      exact click_persist app p button before
  | currentUrl =>
      cases hreply
      exact .refl _
  | screenshot =>
      cases hreply
      exact .refl _
  | close =>
      cases hreply
      exact .refl _

/-- Whatever is asked of a page but a navigation, its elements persist. -/
theorem makes_persist (hmakes : (page app).Makes before exchange after)
    (hvisited : exchange.visited? = none) :
    Persist app.menuId before.elements after.elements := by
  cases hmakes with
  | givenUp locator => exact .refl _
  | answered hreply =>
      obtain ⟨-, hreply⟩ | ⟨-, hreply⟩ := reply_cases hreply
      · rw [closedReply_unchanged hreply]
        exact .refl _
      · exact openReply_persist hreply hvisited

/-- A navigation that is made brings back the application's elements. -/
theorem elements_of_visited (hmakes : (page app).Makes before exchange after)
    (hvisited : exchange.visited? ≠ none) : after.elements = app.elements := by
  cases hmakes with
  | givenUp locator => exact absurd rfl hvisited
  | answered hreply =>
      obtain ⟨url, -, -, -, rfl⟩ | hstays := PageState.visits_or_stays hreply
      · rfl
      · exact absurd hstays.visited hvisited

/-! ## Runs -/

/-- Between navigations elements persist. -/
theorem leads_persist (hleads : (page app).Leads start made after)
    (hvisited : ∀ exchange ∈ made, exchange.visited? = none) :
    Persist app.menuId start.elements after.elements := by
  induction hleads with
  | nothing => exact .refl _
  | snoc _ hmakes ih =>
      rw [List.forall_mem_append, List.forall_mem_singleton] at hvisited
      exact (ih hvisited.1).trans (makes_persist hmakes hvisited.2)

/-- Whatever is asked of a fresh page, what it shows is left of the application's elements. -/
theorem leads_persist_app (hleads : (page app).Leads (.fresh app) made after) :
    Persist app.menuId app.elements after.elements := by
  induction hleads with
  | nothing => exact .refl _
  | @snoc made exchange before after _ hmakes ih =>
      by_cases hvisited : exchange.visited? = none
      · exact ih.trans (makes_persist hmakes hvisited)
      · rw [elements_of_visited hmakes hvisited]
        exact .refl _

/-- Whatever is asked of a fresh page, the application's elements persist on it; between two
navigations, those persist that the first of them brought or that were left since; and a
navigation that is made brings back exactly those of the application. -/
theorem document_persists (app : App) :
    (∀ (made : List Exchange) (s : PageState), (page app).Leads (.fresh app) made s →
      Persist app.menuId app.elements s.elements) ∧
    (∀ (made later : List Exchange) (s t : PageState), (page app).Leads (.fresh app) made s →
      (page app).Leads s later t → (∀ exchange ∈ later, exchange.visited? = none) →
      Persist app.menuId s.elements t.elements) ∧
    ∀ (before after : PageState) (url : String), (page app).Makes before (.visit url) after →
      after.elements = app.elements := by
  refine ⟨?_, ?_, ?_⟩
  · exact fun made s hmade => leads_persist_app hmade
  · exact fun made later s t _ hlater hvisited => leads_persist hlater hvisited
  · exact fun before after url hmakes => elements_of_visited hmakes (Option.some_ne_none url)

/-- The hall, where a secondary click on the bell opens the menu. -/
def bellHall : App :=
  App.withMenuTarget "bell" { elements := hall false false false, documentPath := "/" }

def bellHallEntered : PageState :=
  ((PageState.fresh bellHall).note "navigate:/").visit bellHall "http://h/"

def bellHallPage : PageState := bellHallEntered.click bellHall ⟨5, 5⟩ .secondary

theorem bellHallPage_led :
    (page bellHall).Leads (.fresh bellHall)
      [.visit "http://h/", ⟨.click ⟨5, 5⟩ .secondary, some (.ok ())⟩] bellHallPage := by
  have hvisit : (page bellHall).Makes (.fresh bellHall) (.visit "http://h/") bellHallEntered :=
    .answered rfl
  have hclick : (page bellHall).Makes bellHallEntered
      ⟨.click ⟨5, 5⟩ .secondary, some (.ok ())⟩ bellHallPage := .answered rfl
  exact (Page.Leads.nothing.snoc hvisit).snoc hclick

/-- The open menu has moved and the rest is as it was, until the next navigation. -/
theorem bellHallPage_persists :
    bellHallPage.elements[6]?.map Element.box = some ⟨5, 5, 10, 10⟩ ∧
      Persist bellHall.menuId bellHall.elements bellHallPage.elements ∧
      ((bellHallPage.note "navigate:/").visit bellHall "http://h/").elements =
        bellHall.elements := by
  obtain ⟨hpersist, -, hvisit⟩ := document_persists bellHall
  have hagain : (page bellHall).Makes bellHallPage (.visit "http://h/")
      ((bellHallPage.note "navigate:/").visit bellHall "http://h/") := .answered rfl
  exact ⟨rfl, hpersist _ _ bellHallPage_led, hvisit _ _ _ hagain⟩

end DesktopTrial.Model
