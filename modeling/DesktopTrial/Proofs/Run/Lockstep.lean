import DesktopTrial.Proofs.Run.Laws

/-!
# Runs in lockstep

Two runs are in lockstep for a relation between their states when, from related
states, both end with the same outcome in related states, or both go on for ever
where that is conceded.  Lockstep passes through every way of putting runs together.
With one run on both sides it says that the run keeps an invariant, and, where
nothing is conceded, that the run ends.
-/

namespace DesktopTrial.Run

variable {ω ν α β : Type} {hangs : Prop} {R : ω → ν → Prop}

/-- Both ended alike, or, where that may happen, neither did. -/
inductive Alike (hangs : Prop) (R : ω → ν → Prop) :
    Option (Except Failure α × ω) → Option (Except Failure α × ν) → Prop where
  | endless : hangs → Alike hangs R none none
  | ended (outcome : Except Failure α) {s : ω} {t : ν} :
      R s t → Alike hangs R (some (outcome, s)) (some (outcome, t))

/-- What is known of two runs that ended alike may be added to the relation. -/
theorem Alike.imp {S : ω → ν → Prop} {x : Option (Except Failure α × ω)}
    {y : Option (Except Failure α × ν)} (halike : Alike hangs R x y)
    (himp : ∀ outcome s t, x = some (outcome, s) → y = some (outcome, t) → R s t → S s t) :
    Alike hangs S x y := by
  cases halike with
  | endless hhangs => exact .endless hhangs
  | ended outcome hrelated => exact .ended outcome (himp outcome _ _ rfl rfl hrelated)

/-- From related states both runs end alike. -/
def Lockstep (hangs : Prop) (R : ω → ν → Prop) (left : Run ω α) (right : Run ν α) : Prop :=
  ∀ s t, R s t → Alike hangs R (left s) (right t)

namespace Lockstep

theorem pure (value : α) : Lockstep hangs R (pure value) (pure value) :=
  fun _ _ hrelated => .ended _ hrelated

theorem throw (failure : Failure) :
    Lockstep hangs R (throw failure : Run ω α) (throw failure) :=
  fun _ _ hrelated => .ended _ hrelated

theorem ofExcept (outcome : Except Failure α) :
    Lockstep hangs R (MonadExcept.ofExcept outcome) (MonadExcept.ofExcept outcome) := by
  intro s t hrelated
  rw [ofExcept_apply, ofExcept_apply]
  exact .ended _ hrelated

theorem modify {f : ω → ω} {g : ν → ν} (hkeep : ∀ s t, R s t → R (f s) (g t)) :
    Lockstep hangs R (modify f : Run ω PUnit) (modify g) :=
  fun s t hrelated => .ended _ (hkeep s t hrelated)

theorem bind {left : Run ω α} {right : Run ν α} {next : α → Run ω β} {next' : α → Run ν β}
    (hfirst : Lockstep hangs R left right)
    (hnext : ∀ value, Lockstep hangs R (next value) (next' value)) :
    Lockstep hangs R (left >>= next) (right >>= next') := by
  intro s t hrelated
  rw [bind_apply, bind_apply]
  have halike := hfirst s t hrelated
  generalize left s = x at halike ⊢
  generalize right t = y at halike ⊢
  cases halike with
  | endless hhangs => exact .endless hhangs
  | @ended outcome s' t' hafter =>
      cases outcome with
      | error failure => exact .ended _ hafter
      | ok value => exact hnext value s' t' hafter

/-- What follows may depend on the state as far as the relation allows. -/
theorem get_bind {next : ω → Run ω β} {next' : ν → Run ν β}
    (hnext : ∀ s t, R s t → Lockstep hangs R (next s) (next' t)) :
    Lockstep hangs R (get >>= next) (get >>= next') := by
  intro s t hrelated
  rw [bind_apply, bind_apply]
  exact hnext s t hrelated s t hrelated

theorem attempt {left : Run ω α} {right : Run ν α} (hrun : Lockstep hangs R left right) :
    Lockstep hangs R (attempt left) (attempt right) := by
  intro s t hrelated
  have halike := hrun s t hrelated
  rw [Run.attempt, Run.attempt]
  generalize left s = x at halike ⊢
  generalize right t = y at halike ⊢
  cases halike with
  | endless hhangs => exact .endless hhangs
  | ended outcome hafter => exact .ended _ hafter

theorem ite {condition : Prop} [Decidable condition] {left left' : Run ω α}
    {right right' : Run ν α} (hthen : Lockstep hangs R left right)
    (helse : Lockstep hangs R left' right') :
    Lockstep hangs R (if condition then left else left')
      (if condition then right else right') := by
  split
  · exact hthen
  · exact helse

theorem forM {items : List β} {left : β → Run ω PUnit} {right : β → Run ν PUnit}
    (hitem : ∀ item ∈ items, Lockstep hangs R (left item) (right item)) :
    Lockstep hangs R (items.forM left) (items.forM right) := by
  induction items with
  | nil => exact .pure _
  | cons item items ih =>
      change Lockstep hangs R (left item >>= fun _ => items.forM left)
        (right item >>= fun _ => items.forM right)
      exact (hitem item (by simp)).bind fun _ => ih fun other hother =>
        hitem other (by simp [hother])

theorem mapM {items : List β} {left : β → Run ω α} {right : β → Run ν α}
    (hitem : ∀ item ∈ items, Lockstep hangs R (left item) (right item)) :
    Lockstep hangs R (items.mapM left) (items.mapM right) := by
  induction items with
  | nil => exact .pure _
  | cons item items ih =>
      rw [List.mapM_cons, List.mapM_cons]
      refine (hitem item (by simp)).bind fun value => ?_
      refine (ih fun other hother => hitem other (by simp [hother])).bind fun values => ?_
      exact .pure _

/-- Work on parts of the states, whose relation is what the whole states allow. -/
theorem on {ω' ν' : Type} {S : ω' → ν' → Prop} {part : ω' → ω} {put : ω → ω' → ω'}
    {part' : ν' → ν} {put' : ν → ν' → ν'} {left : Run ω α} {right : Run ν α}
    (hpart : ∀ s t, S s t → R (part s) (part' t))
    (hput : ∀ s t m n, S s t → R m n → S (put m s) (put' n t))
    (hrun : Lockstep hangs R left right) :
    Lockstep hangs S (Run.on part put left) (Run.on part' put' right) := by
  intro s t hrelated
  have halike := hrun _ _ (hpart s t hrelated)
  rw [Run.on, Run.on]
  generalize left (part s) = x at halike ⊢
  generalize right (part' t) = y at halike ⊢
  cases halike with
  | endless hhangs => exact .endless hhangs
  | ended outcome hafter => exact .ended _ (hput s t _ _ hrelated hafter)

/-- A run in lockstep with itself leaves a state that is related to itself whenever it
starts from one.  Where only equal states with an invariant are related, the run keeps
the invariant. -/
theorem keeps {R : ω → ω → Prop} {run : Run ω α} (hrun : Lockstep hangs R run run)
    {before after : ω} {outcome : Except Failure α} (hbefore : R before before)
    (hended : run before = some (outcome, after)) : R after after := by
  have halike := hrun before before hbefore
  rw [hended] at halike
  cases halike with
  | ended _ hafter => exact hafter

/-- Where states are related that are the same but for what one of them forgets, the
run on them is the same but for that. -/
theorem forgets {forget : ω → ν} {left : Run ω α} {right : Run ν α}
    (hrun : Lockstep hangs (fun s t => forget s = t) left right) (state : ω) :
    right (forget state) = (left state).map fun ended => (ended.1, forget ended.2) := by
  have halike := hrun state _ rfl
  generalize left state = x at halike ⊢
  generalize right (forget state) = y at halike ⊢
  cases halike with
  | endless _ => rfl
  | ended outcome hafter =>
      subst hafter
      rfl

/-- A run to which no endless run is conceded ends. -/
theorem ends {left : Run ω α} {right : Run ν α} (hrun : Lockstep False R left right) {s : ω}
    {t : ν} (hrelated : R s t) : ∃ outcome after, left s = some (outcome, after) := by
  have halike := hrun s t hrelated
  generalize left s = x at halike ⊢
  generalize right t = y at halike ⊢
  cases halike with
  | endless himpossible => exact himpossible.elim
  | @ended outcome s' t' _ => exact ⟨outcome, s', rfl⟩

end Lockstep

end DesktopTrial.Run
