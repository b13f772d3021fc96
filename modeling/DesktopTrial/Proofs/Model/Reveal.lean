import DesktopTrial.Proofs.Model.Click
import Mathlib.Data.List.Forall2

/-!
# What a click reveals

A primary click beside the context menu closes the menu and shows what the element reveals.
Of the hidden elements it shows exactly those that a chain of hidden elements leads to, each
revealed by the one before it.  In which order elements name what they reveal, and how often,
makes no difference.
-/

namespace DesktopTrial.Model

variable {elements after : List Element} {e : Element} {id : String} {ids pending : List String}
  {place : Nat}

/-! ## Places in a document -/

/-- The first element with this id is hidden, and stands at this place. -/
structure FirstHidden (elements : List Element) (id : String) (place : Nat) (e : Element) :
    Prop where
  stands : elements[place]? = some e
  named : e.id = id
  first : ∀ earlier < place, elements[earlier]?.map Element.id ≠ some id
  hidden : e.shown = false

def ShownAt (elements : List Element) (place : Nat) : Prop :=
  ∃ e, elements[place]? = some e ∧ e.shown = true

instance : Decidable (ShownAt elements place) :=
  decidable_of_iff (elements[place]?.map Element.shown = some true) Option.map_eq_some_iff

theorem firstHidden_cons_of_id {head : Element} {rest : List Element} (hid : head.id = id) :
    FirstHidden (head :: rest) id place e ↔ place = 0 ∧ e = head ∧ head.shown = false := by
  constructor
  · rintro ⟨hstands, -, hfirst, hhidden⟩
    cases place with
    | zero =>
        cases hstands
        exact ⟨rfl, rfl, hhidden⟩
    | succ place => exact absurd (congrArg some hid) (hfirst 0 (Nat.succ_pos place))
  · rintro ⟨rfl, rfl, hhidden⟩
    exact ⟨rfl, hid, fun _ hearlier => absurd hearlier (Nat.not_lt_zero _), hhidden⟩

theorem firstHidden_cons_of_id_ne {head : Element} {rest : List Element} (hid : head.id ≠ id) :
    FirstHidden (head :: rest) id place e ↔
      ∃ below, place = below + 1 ∧ FirstHidden rest id below e := by
  constructor
  · rintro ⟨hstands, hnamed, hfirst, hhidden⟩
    cases place with
    | zero =>
        cases hstands
        exact absurd hnamed hid
    | succ below =>
        refine ⟨below, rfl, hstands, hnamed, fun earlier hearlier => ?_, hhidden⟩
        exact hfirst (earlier + 1) (Nat.succ_lt_succ hearlier)
  · rintro ⟨below, rfl, hstands, hnamed, hfirst, hhidden⟩
    refine ⟨hstands, hnamed, ?_, hhidden⟩
    rintro (_ | earlier) hearlier
    · exact fun hsame => hid (Option.some.inj hsame)
    · exact hfirst earlier (Nat.lt_of_succ_lt_succ hearlier)

/-- Showing an id shows the first element with it, if that is hidden. -/
theorem showFirst?_eq_some_iff {revealed : List String} :
    showFirst? id elements = some (revealed, after) ↔
      ∃ place e, FirstHidden elements id place e ∧ e.reveals = revealed ∧
        elements.set place { e with shown := true } = after := by
  induction elements generalizing revealed after with
  | nil =>
      refine iff_of_false nofun ?_
      rintro ⟨_, _, ⟨⟨⟩, -, -, -⟩, -, -⟩
  | cons head rest ih =>
      rw [showFirst?]
      by_cases hid : head.id = id
      · simp only [firstHidden_cons_of_id hid, if_pos hid]
        cases head.shown with
        | true => simp
        | false =>
            simp only [Bool.false_eq_true, if_false, Option.some.injEq, Prod.mk.injEq]
            constructor
            · rintro ⟨hreveals, hafter⟩
              exact ⟨0, head, ⟨rfl, rfl, trivial⟩, hreveals, hafter⟩
            · rintro ⟨_, _, ⟨rfl, rfl, -⟩, hreveals, hafter⟩
              exact ⟨hreveals, hafter⟩
      · simp only [firstHidden_cons_of_id_ne hid, if_neg hid, Option.map_eq_some_iff,
          Prod.exists, ih, Prod.mk.injEq]
        constructor
        · rintro ⟨_, _, ⟨place, e, hfirst, rfl, rfl⟩, rfl, rfl⟩
          exact ⟨place + 1, e, ⟨place, rfl, hfirst⟩, rfl, rfl⟩
        · rintro ⟨_, e, ⟨place, rfl, hfirst⟩, rfl, rfl⟩
          exact ⟨_, _, ⟨place, e, hfirst, rfl, rfl⟩, rfl, rfl⟩

theorem FirstHidden.place_eq {other : Element} {next : Nat}
    (hfirst : FirstHidden elements id place e) (hother : FirstHidden elements id next other) :
    place = next := by
  rcases Nat.lt_trichotomy place next with hlt | heq | hgt
  · refine absurd ?_ (hother.first place hlt)
    rw [hfirst.stands, Option.map_some, hfirst.named]
  · exact heq
  · refine absurd ?_ (hfirst.first next hgt)
    rw [hother.stands, Option.map_some, hother.named]

theorem FirstHidden.showFirst?_ne_none (hfirst : FirstHidden elements id place e) :
    showFirst? id elements ≠ none := by
  rw [showFirst?_eq_some_iff.mpr ⟨place, e, hfirst, rfl, rfl⟩]
  exact Option.some_ne_none _

/-! ## Chains of hidden elements -/

/-- A chain of hidden elements leads from these ids to the element at this place: each is the
first with its id, the first of them is among the ids, and every other one is revealed by the
one before it. -/
inductive Uncovered (elements : List Element) (ids : List String) : Nat → Element → Prop where
  | named {id : String} {place : Nat} {e : Element} :
      id ∈ ids → FirstHidden elements id place e → Uncovered elements ids place e
  | revealed {id : String} {place next : Nat} {e other : Element} :
      Uncovered elements ids place e → id ∈ e.reveals → FirstHidden elements id next other →
      Uncovered elements ids next other

namespace Uncovered

theorem hidden (huncovered : Uncovered elements ids place e) :
    elements[place]? = some e ∧ e.shown = false := by
  cases huncovered with
  | named _ hfirst => exact ⟨hfirst.stands, hfirst.hidden⟩
  | revealed _ _ hfirst => exact ⟨hfirst.stands, hfirst.hidden⟩

/-- What leads somewhere by itself or by way of the ids leads nowhere else. -/
theorem of_leading {leading : List String}
    (hleading : ∀ id ∈ leading, ∀ place e, FirstHidden elements id place e →
      Uncovered elements ids place e)
    (huncovered : Uncovered elements leading place e) : Uncovered elements ids place e := by
  induction huncovered with
  | named hid hfirst => exact hleading _ hid _ _ hfirst
  | revealed _ hid hfirst ih => exact .revealed ih hid hfirst

theorem mono {more : List String} (hmore : ids ⊆ more)
    (huncovered : Uncovered elements ids place e) : Uncovered elements more place e :=
  huncovered.of_leading fun _ hid _ _ hfirst => .named (hmore hid) hfirst

end Uncovered

theorem not_uncovered_nil : ¬Uncovered elements [] place e := by
  intro huncovered
  induction huncovered with
  | named hid _ => cases hid
  | revealed _ _ _ ih => exact ih

/-- An id that shows nothing leads nowhere. -/
theorem uncovered_cons_of_none {rest : List String} (hshow : showFirst? id elements = none) :
    Uncovered elements (id :: rest) place e ↔ Uncovered elements rest place e := by
  refine ⟨fun huncovered => huncovered.of_leading ?_, Uncovered.mono (List.subset_cons_self _ _)⟩
  intro other hother place e hfirst
  rcases List.mem_cons.mp hother with rfl | hrest
  · exact absurd hshow hfirst.showFirst?_ne_none
  · exact .named hrest hfirst

/-! ## One element is shown -/

section Shown

variable {spot : Nat} {found : Element} (hfound : FirstHidden elements id spot found)
include hfound

theorem getElem?_set_shown (place : Nat) :
    (elements.set spot { found with shown := true })[place]? =
      if spot = place then some { found with shown := true } else elements[place]? := by
  have hspot : spot < elements.length := (List.getElem?_eq_some_iff.mp hfound.stands).1
  rw [List.getElem?_set, if_pos hspot]

theorem shownAt_set_iff :
    ShownAt (elements.set spot { found with shown := true }) place ↔
      place = spot ∨ ShownAt elements place := by
  rw [ShownAt, getElem?_set_shown hfound]
  by_cases hplace : spot = place
  · rw [if_pos hplace]
    exact iff_of_true ⟨_, rfl, rfl⟩ (.inl hplace.symm)
  · rw [if_neg hplace, or_iff_right (Ne.symm hplace)]
    rfl

/-- The other hidden elements stay the first with their ids. -/
theorem firstHidden_set_iff {other : String} :
    FirstHidden (elements.set spot { found with shown := true }) other place e ↔
      place ≠ spot ∧ FirstHidden elements other place e := by
  -- At the spot the id is the same before and after.
  have hids (earlier : Nat) :
      (elements.set spot { found with shown := true })[earlier]?.map Element.id =
        elements[earlier]?.map Element.id := by
    rw [getElem?_set_shown hfound]
    split
    · rename_i hspot
      rw [← hspot, hfound.stands]
      rfl
    · rfl
  constructor
  · rintro ⟨hstands, hnamed, hfirst, hhidden⟩
    simp only [hids] at hfirst
    rw [getElem?_set_shown hfound] at hstands
    split at hstands
    · cases hstands
      cases hhidden
    · rename_i hplace
      exact ⟨Ne.symm hplace, hstands, hnamed, hfirst, hhidden⟩
  · rintro ⟨hplace, hstands, hnamed, hfirst, hhidden⟩
    refine ⟨?_, hnamed, ?_, hhidden⟩
    · rw [getElem?_set_shown hfound, if_neg (Ne.symm hplace), hstands]
    · simp only [hids]
      exact hfirst

/-- Before, the element led to what it reveals. -/
theorem Uncovered.before_shown {rest : List String}
    (huncovered : Uncovered (elements.set spot { found with shown := true })
      (found.reveals.reverse ++ rest) place e) : Uncovered elements (id :: rest) place e := by
  induction huncovered with
  | named hid hfirst =>
      obtain ⟨-, hbefore⟩ := (firstHidden_set_iff hfound).mp hfirst
      rcases List.mem_append.mp hid with hrevealed | hrest
      · exact .revealed (.named List.mem_cons_self hfound) (List.mem_reverse.mp hrevealed) hbefore
      · exact .named (List.mem_cons_of_mem id hrest) hbefore
  | revealed _ hid hfirst ih =>
      exact .revealed ih hid ((firstHidden_set_iff hfound).mp hfirst).2

/-- Afterwards, only the element itself is led to no more. -/
theorem Uncovered.after_shown {rest : List String}
    (huncovered : Uncovered elements (id :: rest) place e) :
    place = spot ∨ Uncovered (elements.set spot { found with shown := true })
      (found.reveals.reverse ++ rest) place e := by
  induction huncovered with
  | named hid hfirst =>
      refine or_iff_not_imp_left.mpr fun hplace => ?_
      rcases List.mem_cons.mp hid with rfl | hrest
      · exact absurd (hfirst.place_eq hfound) hplace
      · exact .named (List.mem_append_right _ hrest)
          ((firstHidden_set_iff hfound).mpr ⟨hplace, hfirst⟩)
  | revealed hbefore hid hfirst ih =>
      refine or_iff_not_imp_left.mpr fun hplace => ?_
      have hafter := (firstHidden_set_iff hfound).mpr ⟨hplace, hfirst⟩
      rcases ih with rfl | hchain
      · cases hbefore.hidden.1.symm.trans hfound.stands
        exact .named (List.mem_append_left _ (List.mem_reverse.mpr hid)) hafter
      · exact .revealed hchain hid hafter

end Shown

/-! ## All that is revealed -/

/-- Exactly the elements that a chain leads to are shown in the end. -/
theorem shownAt_reveal_iff (pending : List String) (elements : List Element) (place : Nat) :
    ShownAt (reveal pending elements) place ↔
      ShownAt elements place ∨ ∃ e, Uncovered elements pending place e := by
  -- Shown or led to is the invariant: an element that is shown hands on what it reveals.
  induction pending, elements using reveal.induct with
  | case1 elements =>
      rw [reveal, or_iff_left]
      rintro ⟨_, huncovered⟩
      exact not_uncovered_nil huncovered
  | case2 elements id rest hshow ih =>
      rw [reveal_none hshow, ih]
      simp only [uncovered_cons_of_none hshow]
  | case3 elements id rest revealed after hshow ih =>
      rw [reveal_some hshow, ih]
      obtain ⟨spot, found, hfound, rfl, rfl⟩ := showFirst?_eq_some_iff.mp hshow
      rw [shownAt_set_iff hfound]
      constructor
      · rintro ((rfl | hshown) | ⟨e, huncovered⟩)
        · exact .inr ⟨found, .named List.mem_cons_self hfound⟩
        · exact .inl hshown
        · exact .inr ⟨e, huncovered.before_shown hfound⟩
      · rintro (hshown | ⟨e, huncovered⟩)
        · exact .inl (.inr hshown)
        · exact (huncovered.after_shown hfound).imp .inl fun hafter => ⟨e, hafter⟩

/-! ## Another order -/

/-- An element but for what it reveals. -/
def Element.unlisted (e : Element) : Element := { e with reveals := [] }

/-- The elements agree but for the order in which they name what they reveal, and how often. -/
structure Element.Relisted (e other : Element) : Prop where
  same : e.unlisted = other.unlisted
  reveals : ∀ id, id ∈ e.reveals ↔ id ∈ other.reveals

namespace Element.Relisted

variable {other : Element}

theorem symm (hlisted : e.Relisted other) : other.Relisted e :=
  ⟨hlisted.same.symm, fun id => (hlisted.reveals id).symm⟩

theorem id_eq (hlisted : e.Relisted other) : e.id = other.id := by
  have hsame : e.unlisted.id = other.unlisted.id := congrArg Element.id hlisted.same
  exact hsame

theorem shown_eq (hlisted : e.Relisted other) : e.shown = other.shown := by
  have hsame : e.unlisted.shown = other.unlisted.shown := congrArg Element.shown hlisted.same
  exact hsame

theorem box_eq (hlisted : e.Relisted other) : e.box = other.box := by
  have hsame : e.unlisted.box = other.unlisted.box := congrArg Element.box hlisted.same
  exact hsame

/-- Elements that are both hidden, or both shown, stay alike. -/
theorem withShown (hlisted : e.Relisted other) (shown : Bool) :
    { e with shown }.Relisted { other with shown } where
  same := congrArg ({ · with shown }) hlisted.same
  reveals := hlisted.reveals

theorem of_covered (hcovered : e.covered.Relisted other.covered) (hshown : e.shown = other.shown) :
    e.Relisted other := by
  have hback : { e.covered with shown := e.shown }.Relisted
      { other.covered with shown := other.shown } := hshown ▸ hcovered.withShown e.shown
  exact hback

end Element.Relisted

section Relisted

variable {listed : List Element} (hlisted : List.Forall₂ Element.Relisted elements listed)
include hlisted

theorem relisted_symm : List.Forall₂ Element.Relisted listed elements :=
  List.Forall₂.flip (hlisted.imp fun _ _ => Element.Relisted.symm)

theorem getElem?_relisted (hstands : elements[place]? = some e) :
    ∃ other, e.Relisted other ∧ listed[place]? = some other := by
  induction hlisted generalizing place with
  | nil => cases hstands
  | cons hhead _ ih =>
      cases place with
      | zero =>
          cases hstands
          exact ⟨_, hhead, rfl⟩
      | succ below => exact ih hstands

theorem find?_relisted {seen : Element → Bool}
    (hseen : ∀ e other, e.Relisted other → seen e = seen other)
    (hfind : elements.find? seen = some e) :
    ∃ other, e.Relisted other ∧ listed.find? seen = some other := by
  induction hlisted with
  | nil => cases hfind
  | @cons head other _ _ hhead _ ih =>
      rw [List.find?_cons] at hfind ⊢
      rw [← hseen head other hhead]
      split at hfind
      · cases hfind
        exact ⟨other, hhead, rfl⟩
      · exact ih hfind

theorem topmost?_relisted {p : Point} (htopmost : topmost? elements p = some e) :
    ∃ other, e.Relisted other ∧ topmost? listed p = some other := by
  refine find?_relisted (List.forall₂_reverse_iff.mpr hlisted) (fun e other hrelisted => ?_)
    htopmost
  rw [hrelisted.shown_eq, hrelisted.box_eq]

theorem FirstHidden.relisted (hfirst : FirstHidden elements id place e) :
    ∃ other, e.Relisted other ∧ FirstHidden listed id place other := by
  have hids : List.Forall₂ (· = ·) (elements.map Element.id) (listed.map Element.id) := by
    rw [List.forall₂_map_left_iff, List.forall₂_map_right_iff]
    exact hlisted.imp fun _ _ => Element.Relisted.id_eq
  rw [List.forall₂_eq_eq_eq] at hids
  obtain ⟨other, hother, hstands⟩ := getElem?_relisted hlisted hfirst.stands
  refine ⟨other, hother, hstands, ?_, fun earlier hearlier => ?_, ?_⟩
  · rw [← hother.id_eq, hfirst.named]
  · rw [← List.getElem?_map, ← hids, List.getElem?_map]
    exact hfirst.first earlier hearlier
  · rw [← hother.shown_eq, hfirst.hidden]

theorem Uncovered.relisted {others : List String} (hids : ids ⊆ others)
    (huncovered : Uncovered elements ids place e) :
    ∃ other, e.Relisted other ∧ Uncovered listed others place other := by
  induction huncovered with
  | named hid hfirst =>
      obtain ⟨other, hother, hsame⟩ := hfirst.relisted hlisted
      exact ⟨other, hother, .named (hids hid) hsame⟩
  | revealed _ hid hfirst ih =>
      obtain ⟨revealing, hrevealing, hchain⟩ := ih
      obtain ⟨other, hother, hsame⟩ := hfirst.relisted hlisted
      exact ⟨other, hother, .revealed hchain ((hrevealing.reveals _).mp hid) hsame⟩

theorem ShownAt.relisted (hshown : ShownAt elements place) : ShownAt listed place := by
  obtain ⟨e, hstands, hshown⟩ := hshown
  obtain ⟨other, hother, hsame⟩ := getElem?_relisted hlisted hstands
  exact ⟨other, hsame, hother.shown_eq ▸ hshown⟩

theorem shownAt_reveal_relisted {others : List String} (hids : ids ⊆ others)
    (hshown : ShownAt (reveal ids elements) place) : ShownAt (reveal others listed) place := by
  rw [shownAt_reveal_iff] at hshown ⊢
  refine hshown.imp (·.relisted hlisted) ?_
  rintro ⟨e, huncovered⟩
  obtain ⟨other, -, hsame⟩ := huncovered.relisted hlisted hids
  exact ⟨other, hsame⟩

end Relisted

/-- Elements that are alike but for whether they are shown, and shown at the same places. -/
theorem relisted_of_covered {listed : List Element}
    (hcovered : List.Forall₂ Element.Relisted (elements.map Element.covered)
      (listed.map Element.covered))
    (hshown : ∀ place, ShownAt elements place ↔ ShownAt listed place) :
    List.Forall₂ Element.Relisted elements listed := by
  rw [List.forall₂_map_left_iff, List.forall₂_map_right_iff] at hcovered
  induction hcovered with
  | nil => exact .nil
  | cons hhead _ ih =>
      refine .cons (hhead.of_covered (Bool.eq_iff_iff.mpr ?_)) (ih fun place => hshown (place + 1))
      simpa [ShownAt] using hshown 0

/-- What is revealed does not depend on the order in which it is named, nor on how often. -/
theorem reveal_relisted {listed : List Element} {others : List String}
    (hlisted : List.Forall₂ Element.Relisted elements listed)
    (hids : ∀ id, id ∈ ids ↔ id ∈ others) :
    List.Forall₂ Element.Relisted (reveal ids elements) (reveal others listed) := by
  refine relisted_of_covered ?_ fun place => ⟨?_, ?_⟩
  · rw [reveal_covered, reveal_covered]
    exact List.rel_map (fun _ _ hrelisted => hrelisted.withShown false) hlisted
  · exact shownAt_reveal_relisted hlisted fun id => (hids id).mp
  · exact shownAt_reveal_relisted (relisted_symm hlisted) fun id => (hids id).mpr

/-! ## Primary clicks -/

theorem leaveMenu_relisted {app : App} {listed : List Element}
    (hlisted : List.Forall₂ Element.Relisted elements listed) :
    List.Forall₂ Element.Relisted (leaveMenu app elements) (leaveMenu app listed) := by
  rw [leaveMenu, leaveMenu]
  split
  · exact hlisted
  · refine List.rel_map (fun e other hrelisted => ?_) hlisted
    rw [hrelisted.id_eq]
    split
    · exact hrelisted.withShown false
    · exact hrelisted

theorem PageState.click_elements {app : App} {s : PageState} {p : Point} {target : Element}
    (hrendered : s.rendered = true) (htopmost : topmost? s.elements p = some target)
    (hbeside : target.id ≠ app.menuId) :
    (s.click app p .primary).elements =
      reveal target.reveals.reverse (leaveMenu app s.elements) :=
  (primaryClick_elements hrendered).trans (primaryClick_of_topmost? htopmost hbeside)

theorem uncovered_reverse :
    Uncovered elements ids.reverse place e ↔ Uncovered elements ids place e :=
  ⟨.mono fun _ => List.mem_reverse.mp, .mono fun _ => List.mem_reverse.mpr⟩

/-- A primary click on an element other than the menu ends, and changes nothing but what is
shown.  Shown is then what was shown once the menu was left, and what a chain of hidden
elements leads to from what the element reveals.  In which order and how often elements name
what they reveal makes no difference. -/
theorem click_reveals_reachable {app : App} {s : PageState} {p : Point} {target : Element}
    (hopen : s.closed = false) (hrendered : s.rendered = true)
    (htopmost : topmost? s.elements p = some target) (hbeside : target.id ≠ app.menuId) :
    (page app).reply s (.click p .primary) =
        .answered 0 (.ok ()) (s.click app p .primary) ∧
      (s.click app p .primary).elements.map Element.covered =
        (leaveMenu app s.elements).map Element.covered ∧
      (∀ place, ShownAt (s.click app p .primary).elements place ↔
        ShownAt (leaveMenu app s.elements) place ∨
          ∃ e, Uncovered (leaveMenu app s.elements) target.reveals place e) ∧
      ∀ others listed, List.Forall₂ Element.Relisted s.elements listed →
        List.Forall₂ Element.Relisted (s.click app p .primary).elements
          (PageState.click { app with elements := others } p .primary
            { s with elements := listed }).elements := by
  have hclick := PageState.click_elements hrendered htopmost hbeside
  refine ⟨?_, ?_, fun place => ?_, fun others listed hlisted => ?_⟩
  · rw [page_reply hopen, openReply]
  · rw [hclick, reveal_covered]
  · rw [hclick, shownAt_reveal_iff]
    simp only [uncovered_reverse]
  · obtain ⟨other, hother, hsame⟩ := topmost?_relisted hlisted htopmost
    have hclickListed : (PageState.click { app with elements := others } p .primary
        { s with elements := listed }).elements =
          reveal other.reveals.reverse (leaveMenu app listed) :=
      PageState.click_elements hrendered hsame (hother.id_eq ▸ hbeside)
    rw [hclick, hclickListed]
    refine reveal_relisted (leaveMenu_relisted hlisted) fun id => ?_
    rw [List.mem_reverse, List.mem_reverse, hother.reveals]

/-- Elements that reveal one another in a circle, themselves, a missing one, and one of two of
the same id.  The door stands open already. -/
def hall (lamp note menu : Bool) : List Element :=
  [{ id := "bell", box := ⟨0, 0, 10, 10⟩, reveals := ["lamp", "lamp", "missing"] },
   { id := "lamp", box := ⟨20, 0, 10, 10⟩, shown := lamp, reveals := ["bell", "lamp", "note"] },
   { id := "note", box := ⟨40, 0, 10, 10⟩, shown := note, reveals := ["lamp", "door"] },
   { id := "note", box := ⟨60, 0, 10, 10⟩, shown := false },
   { id := "door", box := ⟨80, 0, 10, 10⟩, reveals := ["room"] },
   { id := "room", box := ⟨100, 0, 10, 10⟩, shown := false },
   { id := "context-menu", box := ⟨120, 0, 10, 10⟩, shown := menu }]

def hallPage : PageState where
  rendered := true
  elements := hall false false true

theorem hallPage_bell :
    topmost? hallPage.elements ⟨5, 5⟩ = some hallPage.elements[0] ∧
      hallPage.elements[0].id ≠ App.menuId {} := ⟨rfl, by decide⟩

theorem hallPage_click :
    (hallPage.click {} ⟨5, 5⟩ .primary).elements = hall true true false := by
  calc
    (hallPage.click {} ⟨5, 5⟩ .primary).elements =
        reveal ["missing", "lamp", "lamp"] (hall false false false) :=
      PageState.click_elements rfl hallPage_bell.1 hallPage_bell.2
    _ = reveal ["lamp", "lamp"] (hall false false false) := reveal_none rfl
    _ = reveal (["bell", "lamp", "note"].reverse ++ ["lamp"]) (hall true false false) :=
      reveal_some rfl
    _ = reveal (["lamp", "door"].reverse ++ ["lamp", "bell", "lamp"]) (hall true true false) :=
      reveal_some rfl
    _ = hall true true false := reveal_eq_self (by decide)

/-- The bell leads by way of the lamp to the first note, but neither to the other note nor to
the room behind the open door.  It would in any order. -/
theorem hallPage_revealed :
    (page {}).reply hallPage (.click ⟨5, 5⟩ .primary) =
        .answered 0 (.ok ()) (hallPage.click {} ⟨5, 5⟩ .primary) ∧
      (∃ e, Uncovered (hall false false false) ["lamp", "lamp", "missing"] 2 e) ∧
      (¬∃ e, Uncovered (hall false false false) ["lamp", "lamp", "missing"] 3 e) ∧
      (¬∃ e, Uncovered (hall false false false) ["lamp", "lamp", "missing"] 5 e) ∧
      List.Forall₂ Element.Relisted (hallPage.click {} ⟨5, 5⟩ .primary).elements
        (PageState.click {} ⟨5, 5⟩ .primary { hallPage with
          elements := hallPage.elements.map
            fun e => { e with reveals := e.reveals.reverse } }).elements := by
  obtain ⟨hanswered, -, hshown, hany⟩ :=
    click_reveals_reachable (s := hallPage) rfl rfl hallPage_bell.1 hallPage_bell.2
  rw [hallPage_click] at hshown
  refine ⟨hanswered, ?_, ?_, ?_, hany [] _ ?_⟩
  · exact ((hshown 2).mp (by decide)).resolve_left (by decide)
  · exact fun hchain => absurd ((hshown 3).mpr (.inr hchain)) (by decide)
  · exact fun hchain => absurd ((hshown 5).mpr (.inr hchain)) (by decide)
  · rw [List.forall₂_map_right_iff]
    exact List.forall₂_same.mpr fun e _ => ⟨rfl, fun id => List.mem_reverse.symm⟩

end DesktopTrial.Model
