import DesktopTrial.Proofs.Model.Ancestry

/-!
# Texts inside a scope

A text inside a scope is looked for among the descendants of the containers that the scope
picks, where the scope is a selector of its own and may have a scope again.  Where no element
is inside itself, a selector picks exactly the elements that it denotes.
-/

namespace DesktopTrial.Model

variable {present elements : List Element} {e : Element} {keep : Element → Option Bool}

/-! ## Filters whose test may give no answer -/

theorem filterAuxM_eq_none_iff {found : List Element} :
    elements.filterAuxM keep found = none ↔ ∃ e ∈ elements, keep e = none := by
  induction elements generalizing found with
  | nil => simp [List.filterAuxM]
  | cons e rest ih =>
      rw [List.filterAuxM]
      cases hkeep : keep e with
      | none => exact iff_of_true rfl ⟨e, List.mem_cons_self, hkeep⟩
      | some kept =>
          simp only [List.mem_cons, exists_eq_or_imp, hkeep, reduceCtorEq, false_or]
          cases kept with
          | false => exact ih
          | true => exact ih

theorem filterM_eq_none_iff :
    elements.filterM keep = none ↔ ∃ e ∈ elements, keep e = none := by
  have hfound : elements.filterAuxM keep [] = none ↔ ∃ e ∈ elements, keep e = none :=
    filterAuxM_eq_none_iff
  rw [← hfound, List.filterM]
  cases elements.filterAuxM keep [] <;> simp

theorem filterAuxM_eq_filter {kept : Element → Bool} {found : List Element}
    (hkeep : ∀ e ∈ elements, keep e = some (kept e)) :
    elements.filterAuxM keep found = some ((elements.filter kept).reverse ++ found) := by
  induction elements generalizing found with
  | nil => rfl
  | cons e rest ih =>
      have hrest := fun other hmember => hkeep other (List.mem_cons_of_mem e hmember)
      rw [List.filterAuxM, hkeep e List.mem_cons_self]
      cases hkept : kept e with
      | false => simpa [hkept] using ih hrest
      | true => simpa [hkept] using ih hrest

/-- A filter whose test always answers is a filter. -/
theorem filterM_eq_filter {kept : Element → Bool}
    (hkeep : ∀ e ∈ elements, keep e = some (kept e)) :
    elements.filterM keep = some (elements.filter kept) := by
  rw [List.filterM, filterAuxM_eq_filter hkeep]
  simp

/-! ## Selections that never end -/

/-- Some walk that the selector asks for never ends. -/
inductive Stalls (present : List Element) : Selector → Prop where
  /-- The candidates of the scope are never known. -/
  | scope {scope : Selector} {occurrence : Option Occurrence} {wanted : String} {exact : Bool} :
      Stalls present scope → Stalls present (.textWithin scope occurrence wanted exact)
  /-- An element with the text is inside a ring that no container breaks. -/
  | walk {scope : Selector} {occurrence : Option Occurrence} {wanted : String} {exact : Bool}
      {candidates : List Element} {e : Element} :
      select? present scope = some candidates → e ∈ present →
      textMatches e.text wanted exact = true →
      Circles present ((picked occurrence candidates).map Element.id) e.parent →
      Stalls present (.textWithin scope occurrence wanted exact)

theorem stalls_textWithin_iff {scope : Selector} {occurrence : Option Occurrence}
    {wanted : String} {exact : Bool} :
    Stalls present (.textWithin scope occurrence wanted exact) ↔ Stalls present scope ∨
      ∃ candidates, select? present scope = some candidates ∧
        ∃ e ∈ present, textMatches e.text wanted exact = true ∧
          Circles present ((picked occurrence candidates).map Element.id) e.parent := by
  constructor
  · intro hstalls
    cases hstalls with
    | scope hscope => exact .inl hscope
    | walk hcandidates hmember hmatches hcircles =>
        exact .inr ⟨_, hcandidates, _, hmember, hmatches, hcircles⟩
  · rintro (hscope | ⟨_, hcandidates, _, hmember, hmatches, hcircles⟩)
    · exact .scope hscope
    · exact .walk hcandidates hmember hmatches hcircles

/-- A selector picks nothing that could be told exactly when one of its walks never ends. -/
theorem select?_eq_none_iff (selector : Selector) :
    select? present selector = none ↔ Stalls present selector := by
  induction selector with
  | textWithin scope occurrence wanted exact ih =>
      rw [stalls_textWithin_iff, ← ih, select?]
      cases select? present scope with
      | none => simp
      | some candidates =>
          simp only [filterM_eq_none_iff, reduceCtorEq, false_or, Option.some.injEq,
            exists_eq_left']
          refine exists_congr fun e => and_congr_right fun _ => ?_
          cases textMatches e.text wanted exact with
          | false => simp
          | true => simp [isInside_eq_none_iff]
  | css pattern => exact iff_of_false nofun nofun
  | role kind name exact => exact iff_of_false nofun nofun
  | text wanted exact => exact iff_of_false nofun nofun
  | cssWithText pattern wanted => exact iff_of_false nofun nofun

theorem Stalls.exists_ring {selector : Selector} (hstalls : Stalls present selector) :
    ∃ e, Descends present e e := by
  induction hstalls with
  | scope _ ih => exact ih
  | walk _ _ _ hcircles => exact hcircles.exists_ring

/-! ## What a selector denotes -/

open scoped Classical in
/-- The elements that a selector denotes, in document order: those that match themselves, or,
inside a scope, those with the text that descend from a container that the scope picks. -/
noncomputable def denoted (present : List Element) : Selector → List Element
  | .textWithin scope occurrence wanted exact =>
      present.filter fun e => textMatches e.text wanted exact = true ∧
        ∃ container ∈ picked occurrence (denoted present scope), Descends present e container
  | selector => present.filter fun e => e.fits selector

theorem mem_denoted_textWithin_iff {scope : Selector} {occurrence : Option Occurrence}
    {wanted : String} {exact : Bool} :
    e ∈ denoted present (.textWithin scope occurrence wanted exact) ↔
      e ∈ present ∧ textMatches e.text wanted exact = true ∧
        ∃ container ∈ picked occurrence (denoted present scope),
          Descends present e container := by
  simp only [denoted, List.mem_filter, decide_eq_true_eq]

theorem denoted_sublist (selector : Selector) : (denoted present selector).Sublist present := by
  cases selector <;> exact List.filter_sublist

theorem picked_subset (occurrence : Option Occurrence) (containers : List Element) :
    picked occurrence containers ⊆ containers := by
  intro container hcontainer
  cases occurrence with
  | none => exact hcontainer
  | some occurrence =>
      have hpick := Option.mem_toList.mp hcontainer
      cases occurrence with
      | first => exact List.mem_of_mem_head? hpick
      | nth place => exact List.mem_of_getElem? hpick
      | last => exact List.mem_of_mem_getLast? hpick

theorem select?_eq_denoted (hdistinct : (present.map Element.id).Nodup)
    (hacyclic : Acyclic present) (selector : Selector) :
    select? present selector = some (denoted present selector) := by
  induction selector with
  | textWithin scope occurrence wanted exact ih =>
      rw [select?, ih, denoted]
      apply filterM_eq_filter
      intro e hmember
      cases hmatches : textMatches e.text wanted exact with
      | false => simp
      | true =>
          have hcontainers : picked occurrence (denoted present scope) ⊆ present :=
            List.Subset.trans (picked_subset _ _) (denoted_sublist scope).subset
          have hinside := isInside_map_id_iff hdistinct hcontainers hmember
          have hends : isInside present
              ((picked occurrence (denoted present scope)).map Element.id) e ≠ none :=
            hacyclic.isInside_ne_none
          obtain ⟨inside, hanswer⟩ := Option.ne_none_iff_exists'.mp hends
          rw [hanswer, Option.some.injEq] at hinside
          simp only [if_true, hanswer, true_and, ← hinside, Bool.decide_eq_true]
  | css pattern => rfl
  | role kind name exact => rfl
  | text wanted exact => rfl
  | cssWithText pattern wanted => rfl

/-- Take elements with distinct ids none of which is inside itself.  A text inside a scope is
then found on those, in document order and each once, that have the text and descend from
another element that the scope picks.  The candidates of the scope are found by the same rule,
and its occurrence says which of them are picked. -/
theorem scoped_texts_descend (hdistinct : (present.map Element.id).Nodup)
    (hacyclic : Acyclic present) (scope : Selector) (occurrence : Option Occurrence)
    (wanted : String) (exact : Bool) :
    ∃ candidates found,
      select? present scope = some candidates ∧ candidates = denoted present scope ∧
      select? present (.textWithin scope occurrence wanted exact) = some found ∧
      found = denoted present (.textWithin scope occurrence wanted exact) ∧
      found.Sublist present ∧ found.Nodup ∧
      ∀ e, e ∈ found ↔ e ∈ present ∧ textMatches e.text wanted exact = true ∧
        ∃ container ∈ picked occurrence candidates,
          container ≠ e ∧ Descends present e container := by
  refine ⟨_, _, select?_eq_denoted hdistinct hacyclic _, rfl,
    select?_eq_denoted hdistinct hacyclic _, rfl, denoted_sublist _,
    hdistinct.of_map.sublist (denoted_sublist _), ?_⟩
  intro e
  rw [mem_denoted_textWithin_iff]
  refine and_congr_right fun _ => and_congr_right fun _ => exists_congr fun container =>
    and_congr_right fun _ => ?_
  constructor
  · intro hdescends
    refine ⟨?_, hdescends⟩
    rintro rfl
    exact hacyclic container hdescends
  · exact And.right

/-- Panels with texts inside them, at different depths, before and behind them in the document.
One text is inside an element that is not there. -/
def panelElements : List Element :=
  [{ id := "main", box := ⟨0, 0, 100, 100⟩, css := ["main"], text := "Load" },
   { id := "stray", box := ⟨0, 0, 1, 1⟩, text := "Load", parent := some "dialog" },
   { id := "deep", box := ⟨0, 0, 1, 1⟩, text := "Load", parent := some "group" },
   { id := "left", box := ⟨0, 0, 50, 100⟩, text := "Left panel", parent := some "main" },
   { id := "right", box := ⟨50, 0, 50, 100⟩, text := "Right panel", parent := some "main" },
   { id := "other", box := ⟨0, 0, 1, 1⟩, text := "Load", parent := some "left" },
   { id := "group", box := ⟨60, 0, 10, 10⟩, text := "Load average", parent := some "right" },
   { id := "near", box := ⟨70, 0, 1, 1⟩, text := "Load", parent := some "right" }]

def secondPanelLoad : Selector :=
  .textWithin (.textWithin (.css "main") none "panel" false) (some (.nth 1)) "Load" true

/-- How many elements the elements of the panels are in. -/
def panelDepth (e : Element) : Nat :=
  match e.id with
  | "main" => 0
  | "left" | "right" => 1
  | "other" | "group" | "near" => 2
  | _ => 3

/-- Only the second panel is searched, as deep as it goes. -/
theorem panels_scoped :
    (panelElements.map Element.id).Nodup ∧ Acyclic panelElements ∧
      ∃ found, select? panelElements secondPanelLoad = some found ∧
        found.map Element.id = ["deep", "near"] ∧
        ∀ e ∈ found, ∃ container ∈ panelElements,
          container.id = "right" ∧ Descends panelElements e container := by
  have hdistinct : (panelElements.map Element.id).Nodup := by decide
  have hacyclic : Acyclic panelElements := .of_rank panelDepth (by decide)
  obtain ⟨candidates, found, hcandidates, -, hfound, -, -, -, hmember⟩ :=
    scoped_texts_descend hdistinct hacyclic (.textWithin (.css "main") none "panel" false)
      (some (.nth 1)) "Load" true
  have hids : ((select? panelElements secondPanelLoad).map fun found => found.map Element.id) =
      some ["deep", "near"] := by decide +kernel
  have hpicked : ((select? panelElements (.textWithin (.css "main") none "panel" false)).map
      fun candidates => (picked (some (.nth 1)) candidates).map Element.id) =
      some ["right"] := by decide +kernel
  rw [secondPanelLoad, hfound, Option.map_some, Option.some.injEq] at hids
  rw [hcandidates, Option.map_some, Option.some.injEq] at hpicked
  refine ⟨hdistinct, hacyclic, found, hfound, hids, fun e he => ?_⟩
  obtain ⟨-, -, container, hcontainer, -, hdescends⟩ := (hmember e).mp he
  have hid : container.id ∈ (picked (some (.nth 1)) candidates).map Element.id :=
    List.mem_map_of_mem hcontainer
  rw [hpicked, List.mem_singleton] at hid
  obtain ⟨_, -, -, hpresent, -⟩ := Relation.TransGen.tail'_iff.mp hdescends
  exact ⟨container, hpresent, hid, hdescends⟩

end DesktopTrial.Model
