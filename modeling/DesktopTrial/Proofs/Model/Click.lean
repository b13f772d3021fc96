import DesktopTrial.Model.Page

/-!
# Laws of clicks

What a click meets, what the changes of the context menu come to when one follows the
other, and what a click reveals.  A click changes only which elements are shown and
where the context menu stands.
-/

namespace DesktopTrial.Model

variable {menuId : String} {elements : List Element} {p : Point}

/-! ## The element that a click meets -/

theorem shown_of_topmost? {target : Element} (htarget : topmost? elements p = some target) :
    target ∈ elements ∧ target.shown = true := by
  have hmember : target ∈ elements.reverse := List.mem_of_find?_eq_some htarget
  have hmet := List.find?_some htarget
  rw [Bool.and_eq_true] at hmet
  exact ⟨List.mem_reverse.mp hmember, hmet.1⟩

/-- Leaving out elements does not change what a click meets, unless it meets one that is
left out. -/
theorem topmost?_filter {keep : Element → Bool}
    (hkeep : ∀ target, topmost? elements p = some target → keep target = true) :
    topmost? (elements.filter keep) p = topmost? elements p := by
  rw [topmost?, ← List.filter_reverse, List.find?_filter]
  cases htopmost : topmost? elements p with
  | none =>
      rw [topmost?, List.find?_eq_none] at htopmost
      rw [List.find?_eq_none]
      intro e hmember hmet
      simp only [Bool.decide_and, Bool.decide_eq_true, Bool.and_eq_true] at hmet
      apply htopmost e hmember
      simp [hmet]
  | some target =>
      have hkept := hkeep target htopmost
      rw [topmost?, List.find?_eq_some_iff_append] at htopmost
      obtain ⟨hmet, above, below, hreverse, habove⟩ := htopmost
      rw [List.find?_eq_some_iff_append]
      refine ⟨by simp_all, above, below, hreverse, ?_⟩
      intro e hmember
      have := habove e hmember
      simp_all

/-! ## The context menu -/

def MenuHidden (menuId : String) (elements : List Element) : Prop :=
  ∀ e ∈ elements, e.id = menuId → e.shown = false

theorem updateMenu_updateMenu {f g : Element → Element} (hid : ∀ e, (f e).id = e.id) :
    updateMenu menuId g (updateMenu menuId f elements) =
      updateMenu menuId (fun e => g (f e)) elements := by
  simp only [updateMenu, List.map_map]
  apply List.map_congr_left
  intro e _
  by_cases hmenu : e.id = menuId
  · simp [hid, hmenu]
  · simp [hmenu]

theorem menuHidden_updateMenu {f : Element → Element} (hhides : ∀ e, (f e).shown = false) :
    MenuHidden menuId (updateMenu menuId f elements) := by
  intro e hmember hmenu
  obtain ⟨original, _, rfl⟩ := List.mem_map.mp hmember
  by_cases horiginal : original.id = menuId
  · simp [horiginal, hhides]
  · simp [horiginal] at hmenu

theorem menuHidden_closeMenu : MenuHidden menuId (closeMenu menuId elements) :=
  menuHidden_updateMenu fun _ => rfl

/-- A click does not meet a menu that is hidden. -/
theorem MenuHidden.topmost?_ne (hhidden : MenuHidden menuId elements) {target : Element}
    (htarget : topmost? elements p = some target) : target.id ≠ menuId := by
  obtain ⟨hmember, hshown⟩ := shown_of_topmost? htarget
  intro hmenu
  simp [hhidden target hmember hmenu] at hshown

/-- The elements with the context menu put away: hidden, and in the corner of the
viewport.  It is what does not depend on whether the menu is open and where it stands. -/
def stowMenu (menuId : String) (elements : List Element) : List Element :=
  updateMenu menuId (fun e => { e with shown := false, box := { e.box with x := 0, y := 0 } })
    elements

@[simp]
theorem stowMenu_closeMenu :
    stowMenu menuId (closeMenu menuId elements) = stowMenu menuId elements :=
  updateMenu_updateMenu fun _ => rfl

@[simp]
theorem stowMenu_openMenu :
    stowMenu menuId (openMenu menuId p elements) = stowMenu menuId elements :=
  updateMenu_updateMenu fun _ => rfl

/-- Opening the menu does not depend on where it stood. -/
theorem openMenu_stowMenu :
    openMenu menuId p (stowMenu menuId elements) = openMenu menuId p elements :=
  updateMenu_updateMenu fun _ => rfl

theorem updateMenu_filter_ne {f : Element → Element} (hid : ∀ e, (f e).id = e.id) :
    (updateMenu menuId f elements).filter (fun e => e.id != menuId) =
      elements.filter fun e => e.id != menuId := by
  induction elements with
  | nil => rfl
  | cons e rest ih =>
      rw [updateMenu] at ih ⊢
      by_cases hmenu : e.id = menuId
      · simp [hmenu, hid, ih]
      · simp [hmenu, ih]

theorem menuHidden_stowMenu : MenuHidden menuId (stowMenu menuId elements) :=
  menuHidden_updateMenu fun _ => rfl

/-- A click that does not meet the menu meets the same with the menu put away. -/
theorem topmost?_stowMenu
    (hbeside : ∀ target, topmost? elements p = some target → target.id ≠ menuId) :
    topmost? (stowMenu menuId elements) p = topmost? elements p := by
  have hstowed : ∀ target, topmost? (stowMenu menuId elements) p = some target →
      (target.id != menuId) = true :=
    fun target htarget => bne_iff_ne.mpr (menuHidden_stowMenu.topmost?_ne htarget)
  calc
    topmost? (stowMenu menuId elements) p =
        topmost? ((stowMenu menuId elements).filter fun e => e.id != menuId) p :=
      (topmost?_filter hstowed).symm
    _ = topmost? (elements.filter fun e => e.id != menuId) p :=
      congrArg (topmost? · p) (updateMenu_filter_ne fun _ => rfl)
    _ = topmost? elements p :=
      topmost?_filter fun target htarget => bne_iff_ne.mpr (hbeside target htarget)

/-- A click meets the same wherever a hidden menu stands. -/
theorem MenuHidden.topmost?_stowMenu (hhidden : MenuHidden menuId elements) (p : Point) :
    topmost? (stowMenu menuId elements) p = topmost? elements p :=
  Model.topmost?_stowMenu fun _ htarget => hhidden.topmost?_ne htarget

/-- Closing a menu that is hidden changes nothing. -/
theorem MenuHidden.closeMenu_eq (hhidden : MenuHidden menuId elements) :
    closeMenu menuId elements = elements := by
  calc
    closeMenu menuId elements = elements.map id := by
      apply List.map_congr_left
      intro e hmember
      by_cases hmenu : e.id = menuId
      · rw [if_pos hmenu, ← hhidden e hmember hmenu]
        rfl
      · exact if_neg hmenu
    _ = elements := List.map_id elements

/-- Does a right-click at the point meet an element that opens the context menu? -/
def opensMenuAt (elements : List Element) (p : Point) : Bool :=
  (topmost? elements p).any (·.opensMenu)

/-- With the menu hidden, a right-click opens it where it meets an element that does so, and
leaves it hidden elsewhere. -/
theorem secondaryClick_of_hidden {app : App} (hhidden : MenuHidden app.menuId elements) :
    secondaryClick app p elements =
      if opensMenuAt elements p then openMenu app.menuId p elements
      else closeMenu app.menuId elements := by
  rw [secondaryClick, opensMenuAt]
  cases htopmost : topmost? elements p with
  | none => rfl
  | some target =>
      dsimp only
      rw [if_neg (hhidden.topmost?_ne htopmost)]
      rfl

/-! ## What a click reveals -/

/-- Nothing is shown where no element has the id, or where the first one is shown. -/
theorem showFirst?_eq_none_iff {id : String} :
    showFirst? id elements = none ↔
      ∀ e, elements.find? (fun e => e.id == id) = some e → e.shown = true := by
  induction elements with
  | nil => simp [showFirst?]
  | cons e rest ih =>
      by_cases hid : e.id = id
      · by_cases hshown : e.shown = true <;> simp [showFirst?, hid, hshown]
      · simp [showFirst?, hid, ih]

/-- Only ids and what is shown already decide whether there is something to show. -/
theorem showFirst?_map_eq_none_iff {f : Element → Element} {id : String}
    (hsame : ∀ e ∈ elements, (f e).id = e.id ∧ (f e).shown = e.shown) :
    showFirst? id (elements.map f) = none ↔ showFirst? id elements = none := by
  induction elements with
  | nil => rfl
  | cons e rest ih =>
      obtain ⟨hid, hshown⟩ := hsame e List.mem_cons_self
      have hrest := ih fun other hother => hsame other (List.mem_cons_of_mem _ hother)
      by_cases hfirst : e.id = id
      · simp [showFirst?, hid, hshown, hfirst]
      · simp [showFirst?, hid, hfirst, hrest]

theorem MenuHidden.showFirst?_stowMenu (hhidden : MenuHidden menuId elements) {id : String} :
    showFirst? id (stowMenu menuId elements) = none ↔ showFirst? id elements = none := by
  apply showFirst?_map_eq_none_iff
  intro e hmember
  by_cases hmenu : e.id = menuId
  · simp [hmenu, hhidden e hmember hmenu]
  · simp [hmenu]

theorem reveal_none {id : String} {rest : List String}
    (hshow : showFirst? id elements = none) :
    reveal (id :: rest) elements = reveal rest elements := by
  rw [reveal]
  split
  · rfl
  · rename_i hfound
    cases hshow.symm.trans hfound

theorem reveal_some {id : String} {rest revealed : List String} {after : List Element}
    (hshow : showFirst? id elements = some (revealed, after)) :
    reveal (id :: rest) elements = reveal (revealed.reverse ++ rest) after := by
  rw [reveal]
  split
  · rename_i hfound
    cases hshow.symm.trans hfound
  · rename_i hfound
    cases hshow.symm.trans hfound
    rfl

/-- What is shown already is not revealed. -/
theorem reveal_eq_self {pending : List String}
    (hshown : ∀ id ∈ pending, showFirst? id elements = none) :
    reveal pending elements = elements := by
  induction pending with
  | nil => rw [reveal]
  | cons id rest ih =>
      rw [reveal_none (hshown id List.mem_cons_self)]
      exact ih fun other hother => hshown other (List.mem_cons_of_mem _ hother)

/-- The elements once a primary click beside the context menu is done with the menu. -/
def leaveMenu (app : App) (elements : List Element) : List Element :=
  if app.stickyMenu then elements else closeMenu app.menuId elements

/-- A click beside the context menu leaves it and shows what the element reveals. -/
theorem primaryClick_of_topmost? {app : App} {target : Element}
    (htopmost : topmost? elements p = some target) (hbeside : target.id ≠ app.menuId) :
    (primaryClick app p elements).1 = reveal target.reveals.reverse (leaveMenu app elements) := by
  simp only [primaryClick, htopmost, if_neg hbeside, leaveMenu]

/-! ## What a click does not change -/

/-- An element but for whether it is shown and where. -/
def Element.outline (e : Element) : Element := { e with shown := false, box := ⟨0, 0, 0, 0⟩ }

/-- Elements of one outline differ at most in whether they are shown and where. -/
theorem Element.outline_eq {e other : Element} (houtline : e.outline = other.outline) :
    ∃ shown box, e = { other with shown, box } := by
  refine ⟨e.shown, e.box, ?_⟩
  calc
    e = { e.outline with shown := e.shown, box := e.box } := rfl
    _ = { other.outline with shown := e.shown, box := e.box } := by rw [houtline]

theorem updateMenu_outline {f : Element → Element} (houtline : ∀ e, (f e).outline = e.outline) :
    (updateMenu menuId f elements).map Element.outline = elements.map Element.outline := by
  simp only [updateMenu, List.map_map]
  apply List.map_congr_left
  intro e _
  by_cases hmenu : e.id = menuId
  · simp [hmenu, houtline]
  · simp [hmenu]

/-- An element but for whether it is shown. -/
def Element.covered (e : Element) : Element := { e with shown := false }

theorem map_outline_of_covered {after : List Element}
    (hcovered : after.map Element.covered = elements.map Element.covered) :
    after.map Element.outline = elements.map Element.outline := by
  have houtline (elements : List Element) :
      (elements.map Element.covered).map Element.outline = elements.map Element.outline :=
    List.map_map
  rw [← houtline, hcovered, houtline]

/-- What is shown is the first element, if it has the id, and else among the others. -/
theorem showFirst?_cons_eq_some {id : String} {e : Element} {rest after : List Element}
    {revealed : List String} (hshow : showFirst? id (e :: rest) = some (revealed, after)) :
    e.id = id ∧ revealed = e.reveals ∧ after = { e with shown := true } :: rest ∨
      e.id ≠ id ∧ ∃ others, showFirst? id rest = some (revealed, others) ∧ after = e :: others := by
  rw [showFirst?] at hshow
  by_cases hid : e.id = id
  · rw [if_pos hid] at hshow
    split at hshow
    · cases hshow
    · cases hshow
      exact .inl ⟨hid, rfl, rfl⟩
  · rw [if_neg hid] at hshow
    obtain ⟨⟨_, others⟩, hothers, heq⟩ := Option.map_eq_some_iff.mp hshow
    cases heq
    exact .inr ⟨hid, others, hothers, rfl⟩

theorem showFirst?_covered {id : String} {revealed : List String} {after : List Element}
    (hshow : showFirst? id elements = some (revealed, after)) :
    after.map Element.covered = elements.map Element.covered := by
  induction elements generalizing after with
  | nil => cases hshow
  | cons e rest ih =>
      obtain ⟨-, -, rfl⟩ | ⟨-, others, hothers, rfl⟩ := showFirst?_cons_eq_some hshow
      · rfl
      · rw [List.map_cons, List.map_cons, ih hothers]

/-- Nothing but whether elements are shown is changed by what a click reveals. -/
theorem reveal_covered (pending : List String) (elements : List Element) :
    (reveal pending elements).map Element.covered = elements.map Element.covered := by
  induction pending, elements using reveal.induct with
  | case1 elements => rw [reveal]
  | case2 elements id rest hshow ih => rw [reveal_none hshow, ih]
  | case3 elements id rest revealed after hshow ih =>
      rw [reveal_some hshow, ih, showFirst?_covered hshow]

theorem reveal_outline (pending : List String) (elements : List Element) :
    (reveal pending elements).map Element.outline = elements.map Element.outline :=
  map_outline_of_covered (reveal_covered pending elements)

/-! ## Queries and clicks on a page -/

theorem page_reply {app : App} {s : PageState} (hopen : s.closed = false) (call : Call) :
    (page app).reply s call = openReply app s call := by
  simp [page, hopen]

theorem page_reply_closed {app : App} {s : PageState} (hclosed : s.closed = true) (call : Call) :
    (page app).reply s call = closedReply app s call := by
  simp [page, hclosed]

/-- A call that is answered is answered by a closed page, or by an open one. -/
theorem reply_cases {app : App} {call : Call} {before after : PageState} {latency : Nat}
    {answer : Except Failure call.Answer}
    (hreply : (page app).reply before call = .answered latency answer after) :
    before.closed = true ∧ closedReply app before call = .answered latency answer after ∨
      before.closed = false ∧ openReply app before call = .answered latency answer after := by
  cases hclosed : before.closed with
  | true =>
      rw [page_reply_closed hclosed] at hreply
      exact .inl ⟨rfl, hreply⟩
  | false =>
      rw [page_reply hclosed] at hreply
      exact .inr ⟨rfl, hreply⟩

/-- An open page navigates to an absolute URL, and refuses any other.  Either way it remembers
the path. -/
theorem openReply_navigate {app : App} {before after : PageState} {url : String} {latency : Nat}
    {answer : Except Failure Unit}
    (hreply : openReply app before (.navigate url) = .answered latency answer after) :
    Url.isAbsolute url = true ∧ answer = .ok () ∧
        after = (before.note ("navigate:" ++ Url.path url)).visit app url ∨
      answer = .error (.navigation url "invalid URL") ∧
        after = before.note ("navigate:" ++ Url.path url) := by
  simp only [openReply] at hreply
  split at hreply
  · rename_i habsolute
    cases hreply
    exact .inl ⟨habsolute, rfl, rfl⟩
  · cases hreply
    exact .inr ⟨rfl, rfl⟩

/-- Whether its storage can be read or not, an open page that is asked for it does not change. -/
theorem openReply_readStorage {app : App} {before after : PageState} {key : String}
    {latency : Nat} {answer : Except Failure (Option String)}
    (hreply : openReply app before (.readStorage key) = .answered latency answer after) :
    after = before := by
  simp only [openReply] at hreply
  split at hreply
  · cases hreply
    rfl
  · cases hreply
    rfl

theorem reply_replaced {app : App} {s : PageState} {locator : Locator}
    (hopen : s.closed = false) (hsound : app.failing ≠ some locator.selector)
    (hpending : 0 < s.replacements) :
    (page app).reply s (.query locator) = .answered app.queryDelay (.error replacedFailure)
      { s with replacements := s.replacements - 1 } := by
  rw [page_reply hopen, openReply, queryReply, if_neg hsound, if_pos hpending]

theorem reply_found {app : App} {s : PageState} {locator : Locator} {found : List Element}
    (hopen : s.closed = false) (hsound : app.failing ≠ some locator.selector)
    (hnone : s.replacements = 0) (hrendered : s.rendered = true)
    (hselect : select? (s.present app) locator.selector = some found) :
    (page app).reply s (.query locator) =
      .answered app.queryDelay (.ok (found.map Element.sighting)) s := by
  rw [page_reply hopen, openReply, queryReply, if_neg hsound, hnone, hrendered, hselect]
  rfl

/-- The answers of a model page to a query, each with the state that it leaves. -/
inductive PageState.Queried (before : PageState) :
    Except Failure (List Sighting) → PageState → Prop where
  | refused {message : String} : Queried before (.error (.driver message)) before
  | replaced : 0 < before.replacements →
      Queried before (.error replacedFailure)
        { before with replacements := before.replacements - 1 }
  | answered {found : List Sighting} : before.replacements = 0 → Queried before (.ok found) before

theorem queryReply_queried {app : App} {locator : Locator} {s after : PageState} {latency : Nat}
    {result : Except Failure (List Sighting)}
    (hreply : queryReply app s locator = .answered latency result after) :
    latency = app.queryDelay ∧ s.Queried result after := by
  rw [queryReply] at hreply
  split at hreply
  · cases hreply
    exact ⟨rfl, .refused⟩
  split at hreply
  · rename_i hpending
    cases hreply
    exact ⟨rfl, .replaced hpending⟩
  rename_i hpending
  have hnone := Nat.eq_zero_of_not_pos hpending
  split at hreply
  · cases hreply
    exact ⟨rfl, .answered hnone⟩
  · split at hreply <;> cases hreply
    exact ⟨rfl, .answered hnone⟩

/-- A query changes at most how many more of them find the document replaced. -/
theorem queryReply_frame {app : App} {locator : Locator} {before after : PageState}
    {latency : Nat} {result : Except Failure (List Sighting)}
    (hreply : queryReply app before locator = .answered latency result after) :
    ∃ replacements, after = { before with replacements } := by
  cases (queryReply_queried hreply).2 with
  | refused | replaced | answered => exact ⟨_, rfl⟩

namespace PageState

/-- A click changes the elements and is remembered. -/
theorem click_frame (app : App) (button : Button) (s : PageState) :
    ∃ elements history, s.click app p button = { s with elements, history } := by
  simp only [click]
  split
  · exact ⟨_, _, rfl⟩
  · cases button with
    | secondary => exact ⟨_, _, rfl⟩
    | primary =>
        generalize primaryClick app p s.elements = clicked
        obtain ⟨elements, item⟩ := clicked
        cases item <;> exact ⟨_, _, rfl⟩

theorem secondaryClick_elements {app : App} {s : PageState} (hrendered : s.rendered = true) :
    (s.click app p .secondary).elements = secondaryClick app p s.elements := by
  simp [click, hrendered]

theorem primaryClick_elements {app : App} {s : PageState} (hrendered : s.rendered = true) :
    (s.click app p .primary).elements = (primaryClick app p s.elements).1 := by
  simp only [click, hrendered, Bool.not_true, Bool.false_eq_true, if_false]
  generalize primaryClick app p s.elements = clicked
  obtain ⟨elements, item⟩ := clicked
  cases item <;> rfl

/-- A click changes only which elements are shown and where they stand. -/
theorem click_outline (app : App) (p : Point) (button : Button) (s : PageState) :
    (s.click app p button).elements.map Element.outline = s.elements.map Element.outline := by
  have hclose : (closeMenu app.menuId s.elements).map Element.outline =
      s.elements.map Element.outline := updateMenu_outline fun _ => rfl
  cases hrendered : s.rendered with
  | false => simp [click, hrendered, note]
  | true =>
      cases button with
      | secondary =>
          rw [secondaryClick_elements hrendered, secondaryClick]
          split
          · exact hclose
          · split
            · rfl
            · split
              · exact updateMenu_outline fun _ => rfl
              · exact hclose
      | primary =>
          rw [primaryClick_elements hrendered]
          simp only [primaryClick]
          split
          · split
            · rfl
            · exact hclose
          · split
            · exact hclose
            · rw [reveal_outline]
              split
              · rfl
              · exact hclose

end PageState

end DesktopTrial.Model
