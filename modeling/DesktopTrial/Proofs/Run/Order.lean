import DesktopTrial.Proofs.Run.Lockstep

/-!
# Runs in any order

Suppose that some runs keep an invariant, and that none of them tells apart the states
that have it.  When they are tried one after the other, each comes to the same end
wherever it stands in the order.
-/

namespace DesktopTrial.Run

variable {ω α β : Type} {invariant : ω → Prop}

/-- From every state with the invariant the run comes to this end, and keeps the
invariant. -/
def EndsIn (invariant : ω → Prop) (run : Run ω α) (outcome : Except Failure α) : Prop :=
  ∀ start, invariant start → ∃ after, run start = some (outcome, after) ∧ invariant after

/-- A run that does not tell apart the states with the invariant and that ends from one of
them comes to this end from all. -/
theorem Lockstep.endsIn {hangs : Prop} {run : Run ω α} {start after : ω}
    {outcome : Except Failure α}
    (hrun : Lockstep hangs (fun s t => invariant s ∧ invariant t) run run)
    (hstart : invariant start) (hended : run start = some (outcome, after)) :
    EndsIn invariant run outcome := by
  intro other hother
  have halike := hrun start other ⟨hstart, hother⟩
  rw [hended] at halike
  generalize run other = x at halike ⊢
  cases halike with
  | @ended _ _ reached hinvariant => exact ⟨reached, rfl, hinvariant.2⟩

variable {items : List β} {run : β → Run ω α}

/-- Runs that come to their ends from every state with the invariant come to them one
after the other. -/
theorem mapM_attempt_endsIn {verdict : β → Except Failure α}
    (hruns : ∀ item ∈ items, EndsIn invariant (run item) (verdict item)) :
    EndsIn invariant (items.mapM fun item => attempt (run item)) (.ok (items.map verdict)) := by
  induction items with
  | nil => exact fun start hstart => ⟨start, rfl, hstart⟩
  | cons item items ih =>
      intro start hstart
      obtain ⟨middle, hfirst, hmiddle⟩ := hruns item List.mem_cons_self start hstart
      have hothers := ih fun other hother => hruns other (List.mem_cons_of_mem _ hother)
      obtain ⟨after, hrest, hafter⟩ := hothers middle hmiddle
      refine ⟨after, ?_, hafter⟩
      have hattempt : attempt (run item) start = some (.ok (verdict item), middle) := by
        rw [attempt, hfirst]
      rw [List.mapM_cons, bind_apply, hattempt, proceed_ok, bind_apply, hrest, proceed_ok]
      rfl

/-- Runs that are tried one after the other and do not tell apart the states with the
invariant come to their ends from every such state. -/
theorem endsIn_of_mapM_attempt {hangs : Prop} {start after : ω}
    {outcome : Except Failure (List (Except Failure α))}
    (hruns : ∀ item ∈ items,
      Lockstep hangs (fun s t => invariant s ∧ invariant t) (run item) (run item))
    (hstart : invariant start)
    (hended : (items.mapM fun item => attempt (run item)) start = some (outcome, after)) :
    ∀ item ∈ items, ∃ verdict, EndsIn invariant (run item) verdict := by
  induction items generalizing start after outcome with
  | nil => simp
  | cons item items ih =>
      rw [List.mapM_cons] at hended
      obtain ⟨verdict, middle, hfirst, hrest⟩ := attempt_bind_eq_some hended
      have hends := (hruns item List.mem_cons_self).endsIn hstart hfirst
      have hmiddle : invariant middle := by
        obtain ⟨_, hsame, hinvariant⟩ := hends start hstart
        cases hfirst.symm.trans hsame
        exact hinvariant
      have hothers : ∀ other ∈ items,
          Lockstep hangs (fun s t => invariant s ∧ invariant t) (run other) (run other) :=
        fun other hother => hruns other (List.mem_cons_of_mem _ hother)
      intro other hother
      obtain rfl | hother := List.mem_cons.mp hother
      · exact ⟨verdict, hends⟩
      · obtain ⟨_, _, hfailed, _⟩ | ⟨_, _, hvalues, _⟩ := bind_eq_some hrest
        · exact ih hothers hmiddle hfailed other hother
        · exact ih hothers hmiddle hvalues other hother

/-- Tried in whatever order, each of these runs comes to the same end. -/
theorem mapM_attempt_perm {hangs : Prop} {start after : ω}
    {outcome : Except Failure (List (Except Failure α))}
    (hruns : ∀ item ∈ items,
      Lockstep hangs (fun s t => invariant s ∧ invariant t) (run item) (run item))
    (hstart : invariant start)
    (hended : (items.mapM fun item => attempt (run item)) start = some (outcome, after)) :
    ∃ verdict : β → Except Failure α, outcome = .ok (items.map verdict) ∧
      (∀ item ∈ items, EndsIn invariant (run item) (verdict item)) ∧
      ∀ items' : List β, items'.Perm items →
        EndsIn invariant (items'.mapM fun item => attempt (run item))
          (.ok (items'.map verdict)) := by
  have hverdict : ∀ item, ∃ verdict, item ∈ items → EndsIn invariant (run item) verdict := by
    intro item
    by_cases hitem : item ∈ items
    · obtain ⟨verdict, hends⟩ := endsIn_of_mapM_attempt hruns hstart hended item hitem
      exact ⟨verdict, fun _ => hends⟩
    · exact ⟨.error (.driver ""), fun himpossible => absurd himpossible hitem⟩
  obtain ⟨verdict, hends⟩ := Classical.skolem.mp hverdict
  refine ⟨verdict, ?_, hends, ?_⟩
  · obtain ⟨_, hsame, _⟩ := mapM_attempt_endsIn hends start hstart
    cases hended.symm.trans hsame
    rfl
  · intro items' hperm
    exact mapM_attempt_endsIn fun item hitem => hends item (hperm.mem_iff.mp hitem)

end DesktopTrial.Run
