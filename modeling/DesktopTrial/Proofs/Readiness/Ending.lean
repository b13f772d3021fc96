import DesktopTrial.Proofs.Readiness.Rounds

/-!
# How waits end well

A wait ends well with the answer to one probe, the last, which it accepts.  When that is
the answer to the first probe already, the wait takes as long as the answer did.
-/

namespace DesktopTrial.Readiness

variable {σ α : Type}

/-! ## The last probe -/

variable {page : Page σ} {locator : Locator} {patience : Patience} {before after : Moment σ}

/-- The query is answered with these elements, and the page is then in this state. -/
def Probed (page : Page σ) (locator : Locator) (found : List Sighting) (after : σ) : Prop :=
  ∃ s latency, page.reply s (.query locator) = .answered latency (.ok found) after

/-- A wait that ends well ends with a probe whose answer it accepts. -/
theorem poll_eq_ok {goal : String} {accept : List Sighting → Option α} {fuel elapsed time : Nat}
    {value : α} (hended : poll page locator goal patience accept fuel elapsed before =
      some (.ok (value, time), after)) :
    ∃ found, Probed page locator found after.page ∧ accept found = some value := by
  induction fuel generalizing elapsed before with
  | zero => cases hended
  | succ fuel ih =>
      generalize houtcome : (.ok (value, time) : Except Failure (α × Nat)) = outcome at hended
      cases poll_cases hended with
      | deadline => cases houtcome
      | overdue => cases houtcome
      | decided _ hreply hverdict =>
          cases Watch.verdict_eq_some_iff.mp hverdict with
          | failed _ => cases houtcome
          | accepted haccept =>
              cases houtcome
              exact ⟨_, ⟨_, _, hreply⟩, haccept⟩
      | undecided _ _ _ _ _ hrest =>
          rw [← houtcome] at hrest
          exact ih hrest

theorem awaitReady_eq_ok {condition : Condition} {awaited : Awaited}
    (hended : awaitReady page condition patience before = some (.ok awaited, after)) :
    ∃ found, Probed page condition.locator found after.page ∧ condition.holds found = true := by
  obtain ⟨⟨⟨⟩, time⟩, _, hawait, hlast⟩ := Run.bind_eq_ok hended
  cases hlast
  obtain ⟨found, hprobed, haccept⟩ := poll_eq_ok hawait
  exact ⟨found, hprobed, Option.isSome_ite.mp (Option.isSome_of_eq_some haccept)⟩

theorem awaitVisible_eq_ok {box : Box}
    (hended : awaitVisible page locator patience before = some (.ok box, after)) :
    ∃ found, Probed page locator found after.page ∧ ShowsBox locator found box := by
  obtain ⟨⟨_, time⟩, _, hawait, hlast⟩ := Run.bind_eq_ok hended
  cases hlast
  obtain ⟨found, hprobed, haccept⟩ := poll_eq_ok hawait
  exact ⟨found, hprobed, visibleBox?_eq_some_iff.mp haccept⟩

/-- A wait of either kind that ended well. -/
inductive EndedWell (page : Page σ) (patience : Patience) (before after : Moment σ) : Prop where
  | ready {condition : Condition} {awaited : Awaited} :
      awaitReady page condition patience before = some (.ok awaited, after) →
        EndedWell page patience before after
  | visible {locator : Locator} {box : Box} :
      awaitVisible page locator patience before = some (.ok box, after) →
        EndedWell page patience before after

theorem EndedWell.probed (hended : EndedWell page patience before after) :
    ∃ locator found, Probed page locator found after.page := by
  cases hended with
  | ready hready =>
      obtain ⟨found, hprobed, -⟩ := awaitReady_eq_ok hready
      exact ⟨_, found, hprobed⟩
  | visible hvisible =>
      obtain ⟨found, hprobed, -⟩ := awaitVisible_eq_ok hvisible
      exact ⟨_, found, hprobed⟩

/-! ## The first probe -/

/-- An answer in time that is accepted ends the wait at once. -/
theorem await_of_first {goal : String} {accept : List Sighting → Option α}
    {latency : Nat} {found : List Sighting} {reached : σ} {value : α}
    (hreply : page.reply before.page (.query locator) = .answered latency (.ok found) reached)
    (hbudget : 0 < patience.budget) (hlatency : latency ≤ patience.budget)
    (haccept : accept found = some value) :
    await page locator goal patience accept before =
      some (.ok (value, latency), ⟨reached, before.clock + latency⟩) := by
  have hverdict : verdict accept (.ok found) = some (.ok value) := by
    rw [verdict, haccept]
    rfl
  have hlimit : probeLimit patience = patience.budget + (UInt64.size - 1) + 1 := rfl
  rw [await, hlimit, poll]
  simp only [hreply, hverdict]
  rw [if_neg (by omega), if_neg (by omega), Nat.zero_add]
  rfl

theorem awaitReady_of_first {condition : Condition} {latency : Nat} {found : List Sighting}
    {reached : σ} (hreply : page.reply before.page (.query condition.locator) =
      .answered latency (.ok found) reached)
    (hbudget : 0 < patience.budget) (hlatency : latency ≤ patience.budget)
    (hholds : condition.holds found = true) :
    awaitReady page condition patience before =
      some (.ok ⟨latency, condition.describe⟩, ⟨reached, before.clock + latency⟩) := by
  have haccept : (if condition.holds found then some () else none) = some () := if_pos hholds
  rw [awaitReady_eq_map, await_of_first hreply hbudget hlatency haccept]
  rfl

theorem awaitVisible_of_first {latency : Nat} {found : List Sighting} {reached : σ} {box : Box}
    (hreply : page.reply before.page (.query locator) = .answered latency (.ok found) reached)
    (hbudget : 0 < patience.budget) (hlatency : latency ≤ patience.budget)
    (hshows : ShowsBox locator found box) :
    awaitVisible page locator patience before =
      some (.ok box, ⟨reached, before.clock + latency⟩) := by
  rw [awaitVisible_eq_map,
    await_of_first hreply hbudget hlatency (visibleBox?_eq_some_iff.mpr hshows)]
  rfl

end DesktopTrial.Readiness
