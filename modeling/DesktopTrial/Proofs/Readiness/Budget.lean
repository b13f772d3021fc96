import DesktopTrial.Proofs.Readiness.Ending
import DesktopTrial.Readiness.Target

/-!
# The budget of a navigation target

A target has a budget in nanoseconds, and the wait behind it counts milliseconds.  What is left
over of the last millisecond is lost: the wait times out by that much too early, and a budget
of less than one millisecond is over before the page is asked for the first time.
-/

namespace DesktopTrial

variable {σ α : Type} {page : Page σ}

/-! ## Budgets -/

/-- The budget is a whole number of milliseconds that 64 bits can count. -/
def Target.IsWhole (budget : Nat) : Prop :=
  ∃ milliseconds < UInt64.size, budget = milliseconds * 1000000

namespace Target

variable {url : String} {condition : Condition} {budget : Nat} {target : Target}

theorem make_eq_ok_iff : make url condition budget = .ok target ↔
    target.url = url ∧ target.condition = condition ∧ target.budget = budget := by
  obtain ⟨madeUrl, madeCondition, madeBudget, hpos⟩ := target
  rw [make]
  split
  · rw [Except.ok.injEq, mk.injEq]
    exact and_congr eq_comm (and_congr eq_comm eq_comm)
  · rename_i hnothing
    refine iff_of_false nofun ?_
    rintro ⟨-, -, rfl⟩
    exact hnothing hpos

theorem milliseconds_mul_le (target : Target) :
    target.milliseconds * 1000000 ≤ target.budget := by
  rw [milliseconds]
  omega

/-- A budget that 64 bits can count loses less than a millisecond. -/
theorem lt_milliseconds_succ_mul (hcounted : target.budget < UInt64.size * 1000000) :
    target.budget < (target.milliseconds + 1) * 1000000 := by
  have hfits : target.budget / 1000000 ≤ UInt64.size - 1 :=
    Nat.le_sub_one_of_lt ((Nat.div_lt_iff_lt_mul (by decide)).mpr hcounted)
  rw [milliseconds, Nat.min_eq_left hfits, Nat.mul_comm]
  exact Nat.lt_mul_div_succ target.budget (by decide)

theorem budget_le_milliseconds_mul_iff :
    target.budget ≤ target.milliseconds * 1000000 ↔ IsWhole target.budget := by
  have hsize : UInt64.size = 18446744073709551616 := rfl
  constructor
  · intro hkept
    refine ⟨target.milliseconds, ?_, Nat.le_antisymm hkept target.milliseconds_mul_le⟩
    rw [milliseconds]
    omega
  · rintro ⟨milliseconds, hcounted, hwhole⟩
    rw [Target.milliseconds, hwhole]
    omega

theorem milliseconds_eq_zero_iff : target.milliseconds = 0 ↔ target.budget < 1000000 := by
  have hsize : UInt64.size = 18446744073709551616 := rfl
  rw [milliseconds]
  omega

end Target

/-! ## Waits that fail -/

namespace Readiness

variable {locator : Locator} {goal : String} {patience : Patience}
  {accept : List Sighting → Option α}

/-- A query of the page is answered with this failure. -/
def AnsweredWith (page : Page σ) (locator : Locator) (failure : Failure) : Prop :=
  ∃ s latency reached, page.reply s (.query locator) = .answered latency (.error failure) reached

/-- A wait fails with the failure of a query, or times out when its budget is used up. -/
theorem poll_eq_error {fuel elapsed : Nat} {before after : Moment σ} {failure : Failure}
    (helapsed : elapsed ≤ patience.budget)
    (hended : poll page locator goal patience accept fuel elapsed before =
      some (.error failure, after)) :
    AnsweredWith page locator failure ∨ (failure = .timeout goal patience.budget ∧
      after.clock = before.clock + (patience.budget - elapsed)) := by
  induction fuel generalizing elapsed before with
  | zero => cases hended
  | succ fuel ih =>
      generalize houtcome : (.error failure : Except Failure (α × Nat)) = outcome at hended
      cases poll_cases hended with
      | deadline hdeadline =>
          cases houtcome
          obtain rfl := Nat.le_antisymm helapsed hdeadline
          exact .inr ⟨rfl, by rw [Nat.sub_self, Nat.add_zero]⟩
      | overdue _ =>
          cases houtcome
          exact .inr ⟨rfl, rfl⟩
      | decided _ hreply hverdict =>
          cases Watch.verdict_eq_some_iff.mp hverdict with
          | accepted _ => cases houtcome
          | failed _ =>
              cases houtcome
              exact .inl ⟨_, _, _, hreply⟩
      | @undecided latency pause _ reached _ _ hintime _ _ _ hpause hrest =>
          rw [← houtcome] at hrest
          rcases ih (by omega) hrest with hanswered | ⟨hfailure, hclock⟩
          · exact .inl hanswered
          · refine .inr ⟨hfailure, ?_⟩
            have hlater : ((before.later latency reached).later pause reached).clock =
                before.clock + latency + pause := rfl
            rw [hclock, hlater]
            omega

theorem awaitReady_eq_error {condition : Condition} {before after : Moment σ} {failure : Failure}
    (hended : awaitReady page condition patience before = some (.error failure, after)) :
    AnsweredWith page condition.locator failure ∨
      (failure = .timeout condition.describe patience.budget ∧
        after.clock = before.clock + patience.budget) := by
  rcases Run.bind_eq_some hended with ⟨failed, _, hawait, hfailed⟩ | ⟨⟨⟨⟩, _⟩, _, _, hlast⟩
  · cases hfailed
    exact poll_eq_error (Nat.zero_le _) hawait
  · cases hlast

/-- A wait without a budget is over before it asks. -/
theorem awaitReady_of_nothing {condition : Condition} (hnothing : patience.budget = 0)
    (before : Moment σ) :
    awaitReady page condition patience before =
      some (.error (.timeout condition.describe 0), before) := by
  have hlimit : probeLimit patience = patience.budget + (UInt64.size - 1) + 1 := rfl
  rw [awaitReady_eq_map, await, hlimit, poll]
  simp only [hnothing, Nat.le_refl, if_true]
  rfl

end Readiness

/-! ## Targets that are reached -/

namespace Target

open Readiness (AnsweredWith)

/-- Once the navigation is made, what is left is the wait. -/
theorem reach_of_visited {target : Target} {interval : Nat} {before visited : Moment σ}
    (hvisited : Run.ask page (.navigate target.url) before = some (.ok (), visited)) :
    target.reach page interval before =
      Readiness.awaitReady page target.condition ⟨target.milliseconds, interval⟩ visited := by
  rw [reach, Run.bind_apply, hvisited, Run.proceed_ok]

/-- Take a target whose navigation succeeds.  If the first query is answered at once and meets
the condition, then the target is reached when its budget has one millisecond at least, and
refused unasked when it has less.  A timeout that is not the page's own comes when the whole
milliseconds of the budget are over.  That is not before the budget is, just when the budget
is a whole number of milliseconds that 64 bits can count. -/
theorem budget_kept_to_milliseconds (page : Page σ) {url : String} {condition : Condition}
    {budget : Nat} {target : Target} (hmade : make url condition budget = .ok target)
    (interval : Nat) {before visited : Moment σ}
    (hvisited : Run.ask page (.navigate url) before = some (.ok (), visited)) :
    (∀ found reached,
      page.reply visited.page (.query condition.locator) = .answered 0 (.ok found) reached →
      condition.holds found = true →
      target.reach page interval before =
        if budget < 1000000 then some (.error (.timeout condition.describe 0), visited)
        else some (.ok ⟨0, condition.describe⟩, ⟨reached, visited.clock⟩)) ∧
    (∀ goal elapsed after,
      target.reach page interval before = some (.error (.timeout goal elapsed), after) →
      AnsweredWith page condition.locator (.timeout goal elapsed) ∨
        (goal = condition.describe ∧ elapsed = target.milliseconds ∧
          after.clock = visited.clock + target.milliseconds ∧
          (budget ≤ (after.clock - visited.clock) * 1000000 ↔ IsWhole budget))) ∧
    target.milliseconds * 1000000 ≤ budget ∧
    (budget < UInt64.size * 1000000 → budget < (target.milliseconds + 1) * 1000000) := by
  obtain ⟨rfl, rfl, rfl⟩ := make_eq_ok_iff.mp hmade
  rw [reach_of_visited hvisited]
  refine ⟨?_, ?_, target.milliseconds_mul_le, lt_milliseconds_succ_mul⟩
  · intro found reached hreply hholds
    by_cases hbrief : target.budget < 1000000
    · rw [if_pos hbrief, milliseconds_eq_zero_iff.mpr hbrief]
      exact Readiness.awaitReady_of_nothing rfl visited
    · have hbudget : 0 < target.milliseconds :=
        Nat.pos_of_ne_zero (mt milliseconds_eq_zero_iff.mp hbrief)
      rw [if_neg hbrief]
      exact Readiness.awaitReady_of_first hreply hbudget (Nat.zero_le _) hholds
  · intro goal elapsed after hended
    rcases Readiness.awaitReady_eq_error hended with hanswered | ⟨hfailure, hclock⟩
    · exact .inl hanswered
    · cases hfailure
      refine .inr ⟨rfl, rfl, hclock, ?_⟩
      rw [hclock, Nat.add_sub_cancel_left]
      exact budget_le_milliseconds_mul_iff

/-- A page that is navigated at once and takes every query like this. -/
def pageWithQueries (queries : Reply Unit (List Sighting)) : Page Unit where
  reply s call :=
    match call with
    | .navigate _ => .answered 0 (.ok ()) s
    | .query _ => queries
    | _ => .pending
  abandon s _ := s

/-- A page that has what is looked for at once. -/
def promptPage : Page Unit := pageWithQueries (.answered 0 (.ok [Sighting.hidden]) ())

def silentPage : Page Unit := pageWithQueries .pending

def dockPresent : Condition := .selectorPresent ".desktop-dock"

/-- With one nanosecond less than a millisecond the dock that is there is not found, and a
silent page is given up a nanosecond before two milliseconds are over, after one. -/
theorem promptPage_millisecond :
    ∃ brief exactly cut,
      make "http://h/" dockPresent 999999 = .ok brief ∧
      make "http://h/" dockPresent 1000000 = .ok exactly ∧
      make "http://h/" dockPresent 1999999 = .ok cut ∧
      Run.ask promptPage (.navigate "http://h/") ⟨(), 7⟩ = some (.ok (), ⟨(), 7⟩) ∧
      Run.ask silentPage (.navigate "http://h/") ⟨(), 7⟩ = some (.ok (), ⟨(), 7⟩) ∧
      brief.reach promptPage 50 ⟨(), 7⟩ =
        some (.error (.timeout dockPresent.describe 0), ⟨(), 7⟩) ∧
      exactly.reach promptPage 50 ⟨(), 7⟩ =
        some (.ok ⟨0, "selector \".desktop-dock\" present"⟩, ⟨(), 7⟩) ∧
      cut.reach silentPage 50 ⟨(), 7⟩ =
        some (.error (.timeout dockPresent.describe 1), ⟨(), 8⟩) ∧
      ¬IsWhole 1999999 := by
  have hbrief : make "http://h/" dockPresent 999999 = .ok ⟨_, _, 999999, by decide⟩ := rfl
  have hexactly : make "http://h/" dockPresent 1000000 = .ok ⟨_, _, 1000000, by decide⟩ := rfl
  have hcut : make "http://h/" dockPresent 1999999 = .ok ⟨_, _, 1999999, by decide⟩ := rfl
  have hprompt : Run.ask promptPage (.navigate "http://h/") ⟨(), 7⟩ =
      some (.ok (), ⟨(), 7⟩) := rfl
  have hsilent : Run.ask silentPage (.navigate "http://h/") ⟨(), 7⟩ =
      some (.ok (), ⟨(), 7⟩) := rfl
  have htimeout : (Target.mk "http://h/" dockPresent 1999999 (by decide)).reach silentPage 50
      ⟨(), 7⟩ = some (.error (.timeout dockPresent.describe 1), ⟨(), 8⟩) := rfl
  refine ⟨_, _, _, hbrief, hexactly, hcut, hprompt, hsilent, ?_, ?_, htimeout, ?_⟩
  · exact (budget_kept_to_milliseconds promptPage hbrief 50 hprompt).1 [.hidden] () rfl rfl
  · exact (budget_kept_to_milliseconds promptPage hexactly 50 hprompt).1 [.hidden] () rfl rfl
  · obtain ⟨-, htimeouts, -⟩ := budget_kept_to_milliseconds silentPage hcut 50 hsilent
    rcases htimeouts _ _ _ htimeout with ⟨_, _, _, hanswered⟩ | ⟨-, -, -, hkept⟩
    · cases hanswered
    · rw [← hkept]
      decide

/-- A target of a nanosecond does not get to see the dock that is there, and one of two
milliseconds less a nanosecond times out before they are over. -/
theorem nanosecond_budgets_cut :
    (¬∀ (page : Page Unit) (url : String) (condition : Condition) (budget : Nat)
        (target : Target) (interval : Nat) (before visited : Moment Unit)
        (found : List Sighting) (reached : Unit),
      make url condition budget = .ok target → 1 ≤ interval →
      Run.ask page (.navigate url) before = some (.ok (), visited) →
      page.reply visited.page (.query condition.locator) = .answered 0 (.ok found) reached →
      condition.holds found = true →
      ∃ awaited after, target.reach page interval before = some (.ok awaited, after)) ∧
    ¬∀ (page : Page Unit) (url : String) (condition : Condition) (budget : Nat)
        (target : Target) (interval : Nat) (before visited after : Moment Unit)
        (goal : String) (elapsed : Nat),
      make url condition budget = .ok target → 1 ≤ interval →
      Run.ask page (.navigate url) before = some (.ok (), visited) →
      target.reach page interval before = some (.error (.timeout goal elapsed), after) →
      budget ≤ (after.clock - visited.clock) * 1000000 := by
  constructor
  · intro hreaches
    obtain ⟨elapsed, after, hreached⟩ := hreaches promptPage "http://h/" dockPresent 1 _ 50
      ⟨(), 0⟩ _ _ _ rfl (by decide) rfl rfl rfl
    have hrefused : (Target.mk "http://h/" dockPresent 1 (by decide)).reach promptPage 50
        ⟨(), 0⟩ = some (.error (.timeout dockPresent.describe 0), ⟨(), 0⟩) := rfl
    cases hrefused.symm.trans hreached
  · intro hkept
    have hcut : (Target.mk "http://h/" dockPresent 1999999 (by decide)).reach silentPage 50
        ⟨(), 0⟩ = some (.error (.timeout dockPresent.describe 1), ⟨(), 1⟩) := rfl
    have hover := hkept silentPage "http://h/" dockPresent 1999999 _ 50 ⟨(), 0⟩ ⟨(), 0⟩ _ _ _
      rfl (by decide) rfl hcut
    revert hover
    decide

end Target

end DesktopTrial
