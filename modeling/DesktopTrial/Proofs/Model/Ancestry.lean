import DesktopTrial.Model.Selection
import Mathlib.Data.Finset.Card
import Mathlib.Data.List.Nodup
import Mathlib.Dynamics.PeriodicPts.Defs
import Mathlib.Logic.Relation
import Mathlib.Order.Monotone.Basic

/-!
# Ancestors of elements

Whether an element is inside a container is found out by walking from parent to parent.  The
walk ends at a root, or where an element has no parent or the parent is not there.  Among
finitely many elements it can do neither only by going round a ring of elements that are
inside one another.
-/

namespace DesktopTrial.Model

variable {present : List Element} {roots : List String} {e container : Element}
  {next : Option String} {fuel height : Nat}

/-! ## Chains of parents -/

/-- The id that many parents above the one that the chain begins with. -/
def ancestor? (present : List Element) (next : Option String) (height : Nat) : Option String :=
  (fun id => id.bind (parentOf? present))^[height] next

@[simp]
theorem ancestor?_zero : ancestor? present next 0 = next := rfl

theorem ancestor?_succ :
    ancestor? present next (height + 1) =
      ancestor? present (next.bind (parentOf? present)) height := rfl

theorem ancestor?_succ_eq_bind :
    ancestor? present next (height + 1) =
      (ancestor? present next height).bind (parentOf? present) :=
  Function.iterate_succ_apply' _ _ _

@[simp]
theorem ancestor?_none : ancestor? present none height = none := by
  induction height with
  | zero => rfl
  | succ height ih => rw [ancestor?_succ, Option.bind_none, ih]

/-- A chain that has ended goes on no more. -/
theorem ancestor?_eq_none_of_le {later : Nat} (hended : ancestor? present next height = none)
    (hlater : height ≤ later) : ancestor? present next later = none := by
  induction later, hlater using Nat.le_induction with
  | base => exact hended
  | succ later _ ih => rw [ancestor?_succ_eq_bind, ih, Option.bind_none]

/-- Only an element that is there has a parent. -/
theorem exists_mem_of_parentOf? {id parent : String}
    (hparent : parentOf? present id = some parent) :
    ∃ found ∈ present, found.id = id ∧ found.parent = some parent := by
  obtain ⟨found, hfound, hnext⟩ := Option.bind_eq_some_iff.mp hparent
  have hid : found.id = id := by simpa using List.find?_some hfound
  exact ⟨found, List.mem_of_find?_eq_some hfound, hid, hnext⟩

/-! ## The walk -/

/-- The walk meets a root when one of the ids within its reach is a root. -/
theorem meets_eq_true_iff :
    meets present roots fuel next = some true ↔
      ∃ height < fuel, ∃ id ∈ roots, ancestor? present next height = some id := by
  induction fuel generalizing next with
  | zero => cases next <;> simp [meets]
  | succ fuel ih =>
      cases next with
      | none => simp [meets]
      | some id =>
          by_cases hroot : id ∈ roots
          · simp only [meets, List.contains_iff_mem.mpr hroot, if_true, true_iff]
            exact ⟨0, Nat.succ_pos fuel, id, hroot, rfl⟩
          · have hother : roots.contains id = false := by simpa using hroot
            simp only [meets, hother, Bool.false_eq_true, if_false, ih]
            constructor
            · rintro ⟨height, hheight, hmet⟩
              exact ⟨height + 1, Nat.succ_lt_succ hheight, hmet⟩
            · rintro ⟨_ | height, hheight, root, hmember, hmet⟩
              · cases hmet
                exact absurd hmember hroot
              · exact ⟨height, Nat.lt_of_succ_lt_succ hheight, root, hmember, hmet⟩

/-- The walk is given up when the chain goes on beyond its reach and meets no root in it. -/
theorem meets_eq_none_iff :
    meets present roots fuel next = none ↔
      ancestor? present next fuel ≠ none ∧
        ∀ height < fuel, ∀ id, ancestor? present next height = some id → id ∉ roots := by
  induction fuel generalizing next with
  | zero => cases next <;> simp [meets]
  | succ fuel ih =>
      cases next with
      | none => simp [meets]
      | some id =>
          by_cases hroot : id ∈ roots
          · simp only [meets, List.contains_iff_mem.mpr hroot, if_true, reduceCtorEq, false_iff]
            rintro ⟨-, hfree⟩
            exact hfree 0 (Nat.succ_pos fuel) id rfl hroot
          · have hother : roots.contains id = false := by simpa using hroot
            simp only [meets, hother, Bool.false_eq_true, if_false, ih]
            refine and_congr_right fun _ => ?_
            constructor
            · rintro hfree (_ | height) hheight root hmet
              · cases hmet
                exact hroot
              · exact hfree height (Nat.lt_of_succ_lt_succ hheight) root hmet
            · intro hfree height hheight
              exact hfree (height + 1) (Nat.succ_lt_succ hheight)

/-! ## Chains that never end -/

/-- The chain of parents never ends and never meets a root. -/
def Circles (present : List Element) (roots : List String) (next : Option String) : Prop :=
  ∀ height, ∃ id, ancestor? present next height = some id ∧ id ∉ roots

/-- A chain that is longer than the list of elements comes back to an id. -/
theorem exists_repeated_ancestor
    (hlong : ancestor? present next (present.length + 1) ≠ none) :
    ∃ i j, i < j ∧ j ≤ present.length ∧
      ancestor? present next i = ancestor? present next j := by
  have hpresent : Set.MapsTo (ancestor? present next) (Finset.range (present.length + 1))
      (present.map fun e => some e.id).toFinset := by
    intro height hheight
    rw [Finset.coe_range, Set.mem_Iio] at hheight
    cases hid : ancestor? present next height with
    | none => exact absurd (ancestor?_eq_none_of_le hid (Nat.le_of_lt hheight)) hlong
    | some id =>
        have hfollowed : ancestor? present next (height + 1) ≠ none := fun hended =>
          hlong (ancestor?_eq_none_of_le hended hheight)
        rw [ancestor?_succ_eq_bind, hid, Option.bind_some] at hfollowed
        obtain ⟨parent, hparent⟩ := Option.ne_none_iff_exists'.mp hfollowed
        obtain ⟨found, hfound, rfl, -⟩ := exists_mem_of_parentOf? hparent
        rw [List.coe_toFinset]
        exact List.mem_map.mpr ⟨found, hfound, rfl⟩
  have hfewer : (present.map fun e => some e.id).toFinset.card <
      (Finset.range (present.length + 1)).card := by
    rw [Finset.card_range, Nat.lt_succ_iff]
    exact (List.toFinset_card_le _).trans_eq (List.length_map _)
  obtain ⟨i, hi, j, hj, hne, hsame⟩ :=
    Finset.exists_ne_map_eq_of_card_lt_of_maps_to hfewer hpresent
  rw [Finset.mem_range, Nat.lt_succ_iff] at hi hj
  rcases Nat.lt_or_gt_of_ne hne with hlt | hgt
  · exact ⟨i, j, hlt, hj, hsame⟩
  · exact ⟨j, i, hgt, hi, hsame.symm⟩

/-- From a repeated id on the chain repeats itself, so nothing new comes above it. -/
theorem exists_ancestor_lt {i j : Nat} (hlt : i < j)
    (hsame : ancestor? present next i = ancestor? present next j) (height : Nat) :
    ∃ below < j, ancestor? present next height = ancestor? present next below := by
  by_cases hbelow : height < j
  · exact ⟨height, hbelow, rfl⟩
  have hbeyond : i ≤ height := by omega
  have hperiodic : Function.IsPeriodicPt (fun id => id.bind (parentOf? present)) (j - i)
      (ancestor? present next i) := by
    have hround : ancestor? present (ancestor? present next i) (j - i) =
        ancestor? present next (j - i + i) := (Function.iterate_add_apply _ _ _ _).symm
    rw [Nat.sub_add_cancel (Nat.le_of_lt hlt), ← hsame] at hround
    exact hround
  refine ⟨(height - i) % (j - i) + i, ?_, ?_⟩
  · have := Nat.mod_lt (height - i) (Nat.sub_pos_of_lt hlt)
    omega
  · calc
      ancestor? present next height =
          ancestor? present next (height - i + i) := by rw [Nat.sub_add_cancel hbeyond]
      _ = ancestor? present (ancestor? present next i) (height - i) :=
        Function.iterate_add_apply _ _ _ _
      _ = ancestor? present (ancestor? present next i) ((height - i) % (j - i)) :=
        (hperiodic.iterate_mod_apply _).symm
      _ = ancestor? present next ((height - i) % (j - i) + i) :=
        (Function.iterate_add_apply _ _ _ _).symm

/-- The walk is given up exactly when it would never end. -/
theorem isInside_eq_none_iff :
    isInside present roots e = none ↔ Circles present roots e.parent := by
  rw [isInside, meets_eq_none_iff]
  constructor
  · rintro ⟨hlong, hfree⟩ height
    obtain ⟨i, j, hlt, hj, hsame⟩ := exists_repeated_ancestor hlong
    obtain ⟨below, hbelow, hheight⟩ := exists_ancestor_lt hlt hsame height
    rw [hheight]
    cases hid : ancestor? present e.parent below with
    | none => exact absurd (ancestor?_eq_none_of_le hid (by omega)) hlong
    | some id => exact ⟨id, rfl, hfree below (by omega) id hid⟩
  · intro hcircles
    constructor
    · obtain ⟨id, hid, -⟩ := hcircles (present.length + 1)
      exact hid ▸ Option.some_ne_none id
    · intro height _ id hid
      obtain ⟨_, hsame, hother⟩ := hcircles height
      cases hid.symm.trans hsame
      exact hother

/-- An element is found inside exactly when some ancestor, however high, is a root. -/
theorem isInside_eq_true_iff :
    isInside present roots e = some true ↔
      ∃ height, ∃ id ∈ roots, ancestor? present e.parent height = some id := by
  constructor
  · intro hinside
    obtain ⟨height, -, hmet⟩ := meets_eq_true_iff.mp hinside
    exact ⟨height, hmet⟩
  · rintro ⟨height, id, hroot, hmet⟩
    refine meets_eq_true_iff.mpr ?_
    by_contra hunmet
    have hfree : ∀ below < present.length + 1, ∀ other,
        ancestor? present e.parent below = some other → other ∉ roots :=
      fun below hbelow other hother hmember => hunmet ⟨below, hbelow, other, hmember, hother⟩
    by_cases hlong : ancestor? present e.parent (present.length + 1) = none
    · rcases Nat.lt_or_ge height (present.length + 1) with hbelow | hbeyond
      · exact hfree height hbelow id hmet hroot
      · cases hmet.symm.trans (ancestor?_eq_none_of_le hlong hbeyond)
    · obtain ⟨other, hother, hfreed⟩ :=
        isInside_eq_none_iff.mp (meets_eq_none_iff.mpr ⟨hlong, hfree⟩) height
      cases hmet.symm.trans hother
      exact hfreed hroot

/-! ## Descendants -/

/-- The one element is directly inside the other, and both are there. -/
def IsChild (present : List Element) (e container : Element) : Prop :=
  e ∈ present ∧ container ∈ present ∧ e.parent = some container.id

/-- The element is inside the container, at any depth. -/
abbrev Descends (present : List Element) : Element → Element → Prop :=
  Relation.TransGen (IsChild present)

def Acyclic (present : List Element) : Prop := ∀ e, ¬Descends present e e

/-- Elements whose ids and parents are among those of others have no ring of their own. -/
theorem Acyclic.of_links {links : List Element} (hacyclic : Acyclic links)
    (hlinked : ∀ e ∈ present, ∃ link ∈ links, link.id = e.id ∧ link.parent = e.parent) :
    Acyclic present := by
  intro e hring
  have : Nonempty Element := ⟨e⟩
  choose! link hlink using hlinked
  refine hacyclic (link e)
    (Relation.TransGen.lift link (fun child container hchild => ?_) e e hring)
  obtain ⟨hmember, hcontainer, hparent⟩ := hchild
  obtain ⟨hchildLink, -, hchildParent⟩ := hlink child hmember
  obtain ⟨hcontainerLink, hcontainerId, -⟩ := hlink container hcontainer
  exact ⟨hchildLink, hcontainerLink, by rw [hchildParent, hparent, hcontainerId]⟩

/-- Elements that have a rank below that of their container are not inside themselves. -/
theorem Acyclic.of_rank (rank : Element → Nat)
    (hrank : ∀ e ∈ present, ∀ container ∈ present, e.parent = some container.id →
      rank container < rank e) : Acyclic present := by
  have hdescends {e container : Element} (hdescends : Descends present e container) :
      rank container < rank e := by
    induction hdescends with
    | single hchild => exact hrank _ hchild.1 _ hchild.2.1 hchild.2.2
    | tail _ hchild ih => exact (hrank _ hchild.1 _ hchild.2.1 hchild.2.2).trans ih
  exact fun e hring => Nat.lt_irrefl _ (hdescends hring)

/-- A chain of parents that never ends goes round a ring. -/
theorem Circles.exists_ring (hcircles : Circles present roots next) :
    ∃ e, Descends present e e := by
  have hchain (height : Nat) : ∃ found ∈ present,
      ancestor? present next height = some found.id ∧
        found.parent = ancestor? present next (height + 1) := by
    obtain ⟨id, hid, -⟩ := hcircles height
    obtain ⟨parent, hparent, -⟩ := hcircles (height + 1)
    have hfollowed := hparent
    rw [ancestor?_succ_eq_bind, hid, Option.bind_some] at hfollowed
    obtain ⟨found, hfound, rfl, hnext⟩ := exists_mem_of_parentOf? hfollowed
    exact ⟨found, hfound, hid, hnext.trans hparent.symm⟩
  choose chain hpresent hid hparent using hchain
  have hstep (height : Nat) : Descends present (chain height) (chain (height + 1)) :=
    .single ⟨hpresent height, hpresent (height + 1), (hparent height).trans (hid (height + 1))⟩
  have hlong : ancestor? present next (present.length + 1) ≠ none := by
    rw [hid]
    exact Option.some_ne_none _
  obtain ⟨i, j, hlt, -, hsame⟩ := exists_repeated_ancestor hlong
  -- The elements at both heights need not be the same, but the one above either is.
  have hparents : (chain i).parent = (chain j).parent := by
    rw [hparent, hparent, ancestor?_succ_eq_bind, hsame, ← ancestor?_succ_eq_bind]
  have hback : Descends present (chain j) (chain (i + 1)) :=
    .single ⟨hpresent j, hpresent (i + 1), by rw [← hparents, hparent, hid]⟩
  have hup : Relation.ReflTransGen (IsChild present) (chain (i + 1)) (chain j) := by
    rcases Nat.eq_or_lt_of_le hlt with rfl | hbetween
    · exact .refl
    · exact (Nat.rel_of_forall_rel_succ_of_lt (Descends present) hstep hbetween).to_reflTransGen
  exact ⟨chain (i + 1), Relation.TransGen.trans_right hup hback⟩

theorem Acyclic.isInside_ne_none (hacyclic : Acyclic present) :
    isInside present roots e ≠ none := by
  intro hgiven
  obtain ⟨round, hring⟩ := (isInside_eq_none_iff.mp hgiven).exists_ring
  exact hacyclic round hring

/-- An ancestor that is there contains the element. -/
theorem descends_of_ancestor? (hmember : e ∈ present) (hcontainer : container ∈ present)
    (hancestor : ancestor? present e.parent height = some container.id) :
    Descends present e container := by
  induction height generalizing e with
  | zero => exact .single ⟨hmember, hcontainer, hancestor⟩
  | succ height ih =>
      cases hparent : e.parent with
      | none => simp [hparent] at hancestor
      | some id =>
          rw [hparent, ancestor?_succ, Option.bind_some] at hancestor
          cases hnext : parentOf? present id with
          | none => simp [hnext] at hancestor
          | some parent =>
              obtain ⟨found, hfound, rfl, hfoundParent⟩ := exists_mem_of_parentOf? hnext
              rw [hnext, ← hfoundParent] at hancestor
              exact .head ⟨hmember, hfound, hparent⟩ (ih hfound hancestor)

/-- With distinct ids an element is found by its own. -/
theorem parentOf?_id (hdistinct : (present.map Element.id).Nodup) (hmember : e ∈ present) :
    parentOf? present e.id = e.parent := by
  have hsome : (present.find? fun found => found.id == e.id).isSome = true :=
    List.find?_isSome.mpr ⟨e, hmember, BEq.rfl⟩
  obtain ⟨found, hfound⟩ := Option.isSome_iff_exists.mp hsome
  have hid : found.id = e.id := by simpa using List.find?_some hfound
  obtain rfl : found = e := List.inj_on_of_nodup_map hdistinct
    (List.mem_of_find?_eq_some hfound) hmember hid
  rw [parentOf?, hfound, Option.bind_some]

/-- With distinct ids every container of an element is among its ancestors. -/
theorem Descends.exists_ancestor? (hdistinct : (present.map Element.id).Nodup)
    (hdescends : Descends present e container) :
    ∃ height, ancestor? present e.parent height = some container.id := by
  induction hdescends using Relation.TransGen.head_induction_on with
  | single hchild => exact ⟨0, hchild.2.2⟩
  | head hchild _ ih =>
      obtain ⟨-, hmember, hparent⟩ := hchild
      obtain ⟨height, hancestor⟩ := ih
      refine ⟨height + 1, ?_⟩
      rw [hparent, ancestor?_succ, Option.bind_some, parentOf?_id hdistinct hmember, hancestor]

/-- With distinct ids an element is found inside exactly when it descends from a container. -/
theorem isInside_map_id_iff (hdistinct : (present.map Element.id).Nodup)
    {containers : List Element} (hcontainers : containers ⊆ present) (hmember : e ∈ present) :
    isInside present (containers.map Element.id) e = some true ↔
      ∃ container ∈ containers, Descends present e container := by
  rw [isInside_eq_true_iff]
  constructor
  · rintro ⟨height, id, hroot, hancestor⟩
    obtain ⟨container, hcontainer, rfl⟩ := List.mem_map.mp hroot
    exact ⟨container, hcontainer,
      descends_of_ancestor? hmember (hcontainers hcontainer) hancestor⟩
  · rintro ⟨container, hcontainer, hdescends⟩
    obtain ⟨height, hancestor⟩ := hdescends.exists_ancestor? hdistinct
    exact ⟨height, container.id, List.mem_map_of_mem hcontainer, hancestor⟩

end DesktopTrial.Model
