import DesktopTrial.Page

/-!
# Laws of runs

A run either goes on for ever or ends with an outcome in some state.  These laws say
how the ways of putting runs together act on a state, and what an ended run reveals
about its parts.
-/

namespace DesktopTrial.Run

variable {ω ν α β : Type}

@[simp]
theorem get_apply (state : ω) : (get : Run ω ω) state = some (.ok state, state) := rfl

@[simp]
theorem ofExcept_apply (outcome : Except Failure α) (state : ω) :
    (MonadExcept.ofExcept outcome : Run ω α) state = some (outcome, state) := by
  cases outcome <;> rfl

@[simp]
theorem pure_apply (value : α) (state : ω) :
    (pure value : Run ω α) state = some (.ok value, state) := rfl

/-- What follows when a run has ended: the continuation, unless there was a failure. -/
def proceed (next : α → Run ω β) :
    Option (Except Failure α × ω) → Option (Except Failure β × ω)
  | none => none
  | some (.error failure, after) => some (.error failure, after)
  | some (.ok value, after) => next value after

@[simp]
theorem proceed_none (next : α → Run ω β) : proceed next none = none := rfl

@[simp]
theorem proceed_error (next : α → Run ω β) (failure : Failure) (after : ω) :
    proceed next (some (.error failure, after)) = some (.error failure, after) := rfl

@[simp]
theorem proceed_ok (next : α → Run ω β) (value : α) (after : ω) :
    proceed next (some (.ok value, after)) = next value after := rfl

theorem bind_apply (run : Run ω α) (next : α → Run ω β) (state : ω) :
    (run >>= next) state = proceed next (run state) := by
  change Option.bind (run state) _ = _
  cases run state with
  | none => rfl
  | some ended =>
      obtain ⟨outcome, after⟩ := ended
      cases outcome <;> rfl

theorem ofExcept_bind_apply (outcome : Except Failure α) (next : α → Run ω β) (state : ω) :
    (MonadExcept.ofExcept outcome >>= next) state = proceed next (some (outcome, state)) := by
  rw [bind_apply, ofExcept_apply]

/-- A run that ends before its continuation begins has failed; otherwise the
continuation takes over the value and the state. -/
theorem bind_eq_some {run : Run ω α} {next : α → Run ω β} {state : ω}
    {ended : Except Failure β × ω} (hended : (run >>= next) state = some ended) :
    (∃ failure after, run state = some (.error failure, after) ∧
      ended = (.error failure, after)) ∨
    (∃ value middle, run state = some (.ok value, middle) ∧
      next value middle = some ended) := by
  rw [bind_apply] at hended
  cases hrun : run state with
  | none => simp [hrun] at hended
  | some first =>
      obtain ⟨outcome, after⟩ := first
      cases outcome with
      | error failure =>
          simp only [hrun, proceed_error, Option.some.injEq] at hended
          exact .inl ⟨failure, after, rfl, hended.symm⟩
      | ok value =>
          simp only [hrun, proceed_ok] at hended
          exact .inr ⟨value, after, rfl, hended⟩

/-- What succeeds as a whole has succeeded in both parts. -/
theorem bind_eq_ok {run : Run ω α} {next : α → Run ω β} {state after : ω} {result : β}
    (hended : (run >>= next) state = some (.ok result, after)) :
    ∃ value middle, run state = some (.ok value, middle) ∧
      next value middle = some (.ok result, after) := by
  rcases bind_eq_some hended with ⟨_, _, _, himpossible⟩ | hfollowed
  · cases himpossible
  · exact hfollowed

/-- After a run that cannot fail the continuation always takes over. -/
theorem bind_eq_some_of_ok {run : Run ω α} {next : α → Run ω β} {state : ω}
    (hok : ∀ outcome after, run state = some (outcome, after) → ∃ value, outcome = .ok value)
    {ended : Except Failure β × ω} (hended : (run >>= next) state = some ended) :
    ∃ value middle, run state = some (.ok value, middle) ∧ next value middle = some ended := by
  rcases bind_eq_some hended with ⟨_, _, hfailed, _⟩ | hfollowed
  · obtain ⟨_, himpossible⟩ := hok _ _ hfailed
    cases himpossible
  · exact hfollowed

/-- An attempt that ends tells how the run ended. -/
theorem attempt_eq_some {run : Run ω α} {state after : ω}
    {outcome : Except Failure (Except Failure α)}
    (hended : attempt run state = some (outcome, after)) :
    ∃ attempted, outcome = .ok attempted ∧ run state = some (attempted, after) := by
  rw [attempt] at hended
  cases hrun : run state with
  | none => simp [hrun] at hended
  | some ended =>
      simp only [hrun, Option.some.injEq, Prod.mk.injEq] at hended
      obtain ⟨rfl, rfl⟩ := hended
      exact ⟨ended.1, rfl, rfl⟩

/-- What follows an attempt is given the outcome, a failure included. -/
theorem attempt_bind_eq_some {run : Run ω α} {next : Except Failure α → Run ω β} {state : ω}
    {ended : Except Failure β × ω} (hended : (attempt run >>= next) state = some ended) :
    ∃ attempted middle, run state = some (attempted, middle) ∧
      next attempted middle = some ended := by
  obtain ⟨attempted, middle, hattempt, hrest⟩ := bind_eq_some_of_ok
    (fun _ _ hattempt => (attempt_eq_some hattempt).imp fun _ => And.left) hended
  obtain ⟨_, hattempted, hrun⟩ := attempt_eq_some hattempt
  cases hattempted
  exact ⟨attempted, middle, hrun, hrest⟩

/-- What every item of a loop keeps, given what the loop has yielded up to it, holds at the end
of the loop.  No item fails. -/
theorem mapM_keeps {f : β → Run ω α} {I : List α → ω → Prop}
    (hstep : ∀ {done : List α} {state after : ω} {item : β} {outcome : Except Failure α},
      I done state → f item state = some (outcome, after) →
        ∃ value, outcome = .ok value ∧ I (done ++ [value]) after)
    {items : List β} {done : List α} {state after : ω} {outcome : Except Failure (List α)}
    (hbefore : I done state) (hended : items.mapM f state = some (outcome, after)) :
    ∃ values, outcome = .ok values ∧ I (done ++ values) after := by
  induction items generalizing done state after outcome with
  | nil =>
      cases hended
      exact ⟨[], rfl, by rwa [List.append_nil]⟩
  | cons item items ih =>
      rw [List.mapM_cons] at hended
      obtain ⟨value, middle, hfirst, hrest⟩ := bind_eq_some_of_ok
        (fun _ _ hitem => (hstep hbefore hitem).imp fun _ => And.left) hended
      obtain ⟨_, hvalue, hkept⟩ := hstep hbefore hfirst
      cases hvalue
      obtain ⟨others, last, hothers, hlast⟩ := bind_eq_some_of_ok
        (fun _ _ hothers => (ih hkept hothers).imp fun _ => And.left) hrest
      obtain ⟨_, hothers', hall⟩ := ih hkept hothers
      cases hothers'
      cases hlast
      rw [List.append_assoc] at hall
      exact ⟨value :: others, rfl, hall⟩

/-- Where what a loop yields tells the item that it is for, all of it tells the items. -/
theorem mapM_recovers {f : β → Run ω α} {item? : α → β}
    (hitem : ∀ {item : β} {state after : ω} {value : α},
      f item state = some (.ok value, after) → item? value = item)
    {items : List β} {state after : ω} {values : List α}
    (hended : items.mapM f state = some (.ok values, after)) : values.map item? = items := by
  induction items generalizing state values with
  | nil =>
      cases hended
      rfl
  | cons item items ih =>
      rw [List.mapM_cons] at hended
      obtain ⟨value, middle, hfirst, hrest⟩ := bind_eq_ok hended
      obtain ⟨others, last, hothers, hlast⟩ := bind_eq_ok hrest
      cases hlast
      rw [List.map_cons, hitem hfirst, ih hothers]

theorem forM_cons (f : β → Run ω PUnit) (item : β) (items : List β) :
    (item :: items).forM f = f item >>= fun _ => items.forM f := rfl

/-- A loop over items stops at one of them: those before it are done, and it fails. -/
structure StopsAt (f : β → Run ω PUnit) (items : List β) (state : ω) (done : Nat) (item : β)
    (reached : ω) (failure : Failure) (after : ω) : Prop where
  found : items[done]? = some item
  taken : (items.take done).forM f state = some (.ok ⟨⟩, reached)
  failed : f item reached = some (.error failure, after)

theorem forM_eq_error {items : List β} {f : β → Run ω PUnit} {state after : ω}
    {failure : Failure} (hended : items.forM f state = some (.error failure, after)) :
    ∃ done item reached, StopsAt f items state done item reached failure after := by
  induction items generalizing state with
  | nil => cases hended
  | cons item items ih =>
      rw [forM_cons] at hended
      obtain ⟨_, _, hfailed, hoverall⟩ | ⟨_, next, hfirst, hrest⟩ := bind_eq_some hended
      · cases hoverall
        exact ⟨0, item, state, rfl, rfl, hfailed⟩
      · obtain ⟨done, other, reached, hother, hdone, hfailed⟩ := ih hrest
        refine ⟨done + 1, other, reached, hother, ?_, hfailed⟩
        rw [List.take_succ_cons, forM_cons, bind_apply, hfirst, proceed_ok, hdone]

theorem StopsAt.forM_eq {items : List β} {f : β → Run ω PUnit} {state reached after : ω}
    {failure : Failure} {done : Nat} {item : β}
    (hstops : StopsAt f items state done item reached failure after) :
    items.forM f state = some (.error failure, after) := by
  obtain ⟨hitem, hdone, hfailed⟩ := hstops
  induction items generalizing state done with
  | nil => simp at hitem
  | cons first items ih =>
      rw [forM_cons, bind_apply]
      cases done with
      | zero =>
          cases hitem
          cases hdone
          rw [hfailed, proceed_error]
      | succ done =>
          rw [List.take_succ_cons, forM_cons] at hdone
          obtain ⟨_, next, hfirst, hrest⟩ := bind_eq_ok hdone
          rw [hfirst, proceed_ok]
          exact ih hitem hrest

/-- Where a loop stops does not depend on the items that would have followed. -/
theorem StopsAt.replace {items : List β} {f : β → Run ω PUnit} {state reached after : ω}
    {failure : Failure} {done : Nat} {item : β}
    (hstops : StopsAt f items state done item reached failure after) (rest : List β) :
    StopsAt f (items.take (done + 1) ++ rest) state done item reached failure after := by
  have hlength : done < items.length := (List.getElem?_eq_some_iff.mp hstops.found).1
  have hshort : done < (items.take (done + 1)).length := by
    rw [List.length_take]
    omega
  refine ⟨?_, ?_, hstops.failed⟩
  · rw [List.getElem?_append_left hshort, List.getElem?_take_of_lt (Nat.lt_succ_self done)]
    exact hstops.found
  · rw [List.take_append_of_le_length (Nat.le_of_lt hshort), List.take_take,
      Nat.min_eq_left (Nat.le_succ done)]
    exact hstops.taken

/-- Work on a part of the state that ends leaves the rest as it was. -/
theorem on_eq_some {part : ω → ν} {put : ν → ω → ω} {run : Run ν α} {state after : ω}
    {outcome : Except Failure α} (hended : Run.on part put run state = some (outcome, after)) :
    ∃ changed, run (part state) = some (outcome, changed) ∧ after = put changed state := by
  rw [Run.on] at hended
  cases hrun : run (part state) with
  | none => simp [hrun] at hended
  | some ended =>
      simp only [hrun, Option.some.injEq, Prod.mk.injEq] at hended
      obtain ⟨rfl, rfl⟩ := hended
      exact ⟨ended.2, rfl, rfl⟩

/-- A call that ends was answered. -/
theorem ask_eq_some {σ : Type} {page : Page σ} {call : Call} {before after : Moment σ}
    {answer : Except Failure call.Answer}
    (hended : ask page call before = some (answer, after)) :
    ∃ latency, page.reply before.page call = .answered latency answer after.page := by
  rw [ask] at hended
  cases hreply : page.reply before.page call with
  | pending => simp [hreply] at hended
  | stuck latency => simp [hreply] at hended
  | answered latency result reached =>
      simp only [hreply, Option.some.injEq, Prod.mk.injEq] at hended
      obtain ⟨rfl, rfl⟩ := hended
      exact ⟨latency, rfl⟩

end DesktopTrial.Run
