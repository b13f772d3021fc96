import DesktopTrial.Proofs.Page.Transcript
import DesktopTrial.Proofs.Readiness.Schedule
import Mathlib.Algebra.Order.Floor.Div

/-!
# The rounds of a wait

A wait goes round by round: each round makes one query, and the pause before the next one
takes its share of the budget.  So no wait makes more queries than the budget has pauses,
the last one begun counted in, and only a query that holds up everything else keeps it from
ending.
-/

namespace DesktopTrial.Readiness

variable {σ α : Type} {page : Page σ} {locator : Locator} {goal : String} {patience : Patience}
  {accept : List Sighting → Option α} {fuel elapsed : Nat}

/-! ## One round -/

/-- How a wait ends from some moment on, when this much of its budget has elapsed. -/
inductive Round (page : Page σ) (locator : Locator) (goal : String) (patience : Patience)
    (accept : List Sighting → Option α) (fuel elapsed : Nat) (before : Moment σ) :
    Except Failure (α × Nat) → Moment σ → Prop where
  /-- The budget is used up. -/
  | deadline :
      patience.budget ≤ elapsed →
      Round page locator goal patience accept fuel elapsed before
        (.error (.timeout goal elapsed)) before
  /-- The query is not answered in time and given up. -/
  | overdue :
      elapsed < patience.budget →
      Round page locator goal patience accept fuel elapsed before
        (.error (.timeout goal patience.budget))
        (before.later (patience.budget - elapsed) (page.abandon before.page locator))
  /-- The query is answered in time, and the answer decides. -/
  | decided {latency : Nat} {result : Except Failure (List Sighting)} {reached : σ}
      {outcome : Except Failure α} :
      elapsed < patience.budget →
      page.reply before.page (.query locator) = .answered latency result reached →
      verdict accept result = some outcome →
      Round page locator goal patience accept fuel elapsed before
        (outcome.map fun value => (value, elapsed + latency)) (before.later latency reached)
  /-- The query is answered in time, and the next round begins after a pause. -/
  | undecided {latency pause : Nat} {result : Except Failure (List Sighting)} {reached : σ}
      {outcome : Except Failure (α × Nat)} {after : Moment σ} :
      elapsed + latency ≤ patience.budget →
      elapsed < patience.budget →
      page.reply before.page (.query locator) = .answered latency result reached →
      verdict accept result = none →
      pause = min patience.interval (patience.budget - elapsed - latency) →
      poll page locator goal patience accept fuel (elapsed + latency + pause)
        ((before.later latency reached).later pause reached) = some (outcome, after) →
      Round page locator goal patience accept fuel elapsed before outcome after

theorem poll_cases {before after : Moment σ} {outcome : Except Failure (α × Nat)}
    (hended : poll page locator goal patience accept (fuel + 1) elapsed before =
      some (outcome, after)) :
    Round page locator goal patience accept fuel elapsed before outcome after := by
  rw [poll] at hended
  split at hended
  · rename_i hdeadline
    cases hended
    exact .deadline hdeadline
  rename_i hearly
  have hbudget : elapsed < patience.budget := Nat.lt_of_not_le hearly
  cases hreply : page.reply before.page (.query locator) with
  | pending =>
      simp only [hreply] at hended
      cases hended
      exact .overdue hbudget
  | stuck latency =>
      simp only [hreply] at hended
      split at hended
      · cases hended
        exact .overdue hbudget
      · cases hended
  | answered latency result reached =>
      simp only [hreply] at hended
      split at hended
      · cases hended
        exact .overdue hbudget
      rename_i hlatency
      cases hverdict : verdict accept result with
      | some outcome =>
          rw [hverdict] at hended
          cases hended
          exact .decided hbudget hreply hverdict
      | none =>
          rw [hverdict] at hended
          exact .undecided (by omega) hbudget hreply hverdict rfl hended

/-! ## The number of queries -/

/-- From one moment to the other the page was queried this often, and asked nothing else. -/
def QueriedTimes (locator : Locator) (count : Nat) (before after : Moment (Transcribed σ)) :
    Prop :=
  ∃ made : List Exchange, after.transcript = before.transcript ++ made ∧
    (∀ exchange ∈ made, exchange.call = .query locator) ∧ made.length = count

namespace QueriedTimes

variable {before middle after : Moment (Transcribed σ)}

theorem zero (moment : Moment (Transcribed σ)) : QueriedTimes locator 0 moment moment :=
  ⟨[], (List.append_nil _).symm, List.forall_mem_nil _, rfl⟩

theorem one {answer : Option (Except Failure (List Sighting))}
    (htranscript : after.transcript = before.transcript ++ [⟨.query locator, answer⟩]) :
    QueriedTimes locator 1 before after :=
  ⟨[⟨.query locator, answer⟩], htranscript, List.forall_mem_singleton.mpr rfl, rfl⟩

theorem trans {first rest : Nat} (hfirst : QueriedTimes locator first before middle)
    (hrest : QueriedTimes locator rest middle after) :
    QueriedTimes locator (first + rest) before after := by
  obtain ⟨made, hmiddle, hqueries, rfl⟩ := hfirst
  obtain ⟨later, hafter, hothers, rfl⟩ := hrest
  refine ⟨made ++ later, ?_, List.forall_mem_append.mpr ⟨hqueries, hothers⟩,
    List.length_append⟩
  rw [hafter, hmiddle, List.append_assoc]

/-- An answered query is one query, however long the page rests after it. -/
theorem of_reply {latency : Nat} {result : Except Failure (List Sighting)}
    {reached : Transcribed σ} (pause : Nat)
    (hreply : page.transcribed.reply before.page (.query locator) =
      .answered latency result reached) :
    QueriedTimes locator 1 before ((before.later latency reached).later pause reached) := by
  have hasked : Run.ask page.transcribed (.query locator) before =
      some (result, before.later latency reached) := by
    rw [Run.ask, hreply]
    rfl
  have htranscript := Run.ask_transcribed hasked
  exact .one htranscript

end QueriedTimes

/-- A round that leaves time for another one has taken a pause from what is left. -/
theorem ceilDiv_after_round {budget interval elapsed : Nat} (latency : Nat)
    (hinterval : 0 < interval) (helapsed : elapsed < budget) :
    (budget - (elapsed + latency + min interval (budget - elapsed - latency))) ⌈/⌉ interval + 1 ≤
      (budget - elapsed) ⌈/⌉ interval := by
  generalize hcount : (budget - elapsed) ⌈/⌉ interval = count
  have hcovers : budget - elapsed ≤ interval * count :=
    (ceilDiv_le_iff_le_mul hinterval).mp hcount.le
  cases count with
  | zero => omega
  | succ count =>
      rw [Nat.mul_succ] at hcovers
      exact Nat.succ_le_succ ((ceilDiv_le_iff_le_mul hinterval).mpr (by omega))

theorem one_le_ceilDiv {budget interval elapsed : Nat} (hinterval : 0 < interval)
    (helapsed : elapsed < budget) : 1 ≤ (budget - elapsed) ⌈/⌉ interval :=
  Nat.le_trans (Nat.le_add_left _ _) (ceilDiv_after_round 0 hinterval helapsed)

/-- Every round makes one query, and there are no more rounds than pauses in what is left of
the budget. -/
theorem poll_queried (hinterval : 0 < patience.interval)
    {before after : Moment (Transcribed σ)} {outcome : Except Failure (α × Nat)}
    (hended : poll page.transcribed locator goal patience accept fuel elapsed before =
      some (outcome, after)) :
    ∃ count, QueriedTimes locator count before after ∧
      count ≤ (patience.budget - elapsed) ⌈/⌉ patience.interval ∧
      (count = 0 ↔ patience.budget ≤ elapsed) := by
  induction fuel generalizing elapsed before with
  | zero => cases hended
  | succ fuel ih =>
      cases poll_cases hended with
      | deadline hdeadline => exact ⟨0, .zero _, Nat.zero_le _, iff_of_true rfl hdeadline⟩
      | overdue hbudget => exact ⟨1, .one rfl, one_le_ceilDiv hinterval hbudget, by omega⟩
      | decided hbudget hreply _ =>
          exact ⟨1, .of_reply 0 hreply, one_le_ceilDiv hinterval hbudget, by omega⟩
      | undecided _ hbudget hreply _ hpause hrest =>
          obtain ⟨count, hqueried, hcount, -⟩ := ih hrest
          refine ⟨1 + count, (QueriedTimes.of_reply _ hreply).trans hqueried, ?_, by omega⟩
          calc
            1 + count ≤ 1 + _ := Nat.add_le_add_left hcount 1
            _ ≤ (patience.budget - elapsed) ⌈/⌉ patience.interval := by
              rw [Nat.add_comm, hpause]
              exact ceilDiv_after_round _ hinterval hbudget

/-! ## The end of a wait -/

namespace Watch

variable {w : Watch σ} {clock : Nat}

/-- A wait that does not end is held up by a query that nothing decided before. -/
theorem blocked_of_endless (hinterval : 1 ≤ w.patience.interval)
    (hendless : await w.page w.locator goal w.patience accept ⟨w.first, clock⟩ = none) :
    ∃ k, w.Blocks k ∧ w.QuietBefore (Accepts accept) k := by
  have hgoverns := w.await_governed goal accept clock hinterval
  rw [hendless] at hgoverns
  obtain ⟨k, time, outcome, hdecides, hquiet⟩ | hquiet :=
    w.exists_first_or_quiet (Accepts accept)
  · cases hgoverns.decided k time outcome hdecides hquiet
  by_contra hfree
  obtain ⟨_, hexpired⟩ := hgoverns.expired hquiet fun k hblocks => hfree ⟨k, hblocks, hquiet k⟩
  cases hexpired

/-- A query that holds up everything is among those for which the budget has pauses. -/
theorem Blocks.lt_ceilDiv (hinterval : 1 ≤ w.patience.interval) {k : Nat}
    (hblocks : w.Blocks k) : k < w.patience.budget ⌈/⌉ w.patience.interval := by
  obtain ⟨_, -, hstart, -⟩ := hblocks
  have hpauses := mul_le_start hstart
  by_contra hmore
  have hcovers := (ceilDiv_le_iff_le_mul hinterval).mp (Nat.le_of_not_lt hmore)
  rw [Nat.mul_comm] at hcovers
  omega

end Watch

/-- Writing down what is asked and answered changes nothing.  A wait that ends has queried the
page at most once for every pause that its budget has room for, the last one begun counted in,
and not at all just when it has no budget.  A wait that does not end is held up by one of
these queries, so it ends on every page whose queries hold up nothing else, be they answered
late, never, or always with a replaced document. -/
theorem wait_queries_bounded (page : Page σ) (locator : Locator) (goal : String)
    (patience : Patience) (accept : List Sighting → Option α)
    (hinterval : 1 ≤ patience.interval) :
    (∀ before : Moment (Transcribed σ),
      await page locator goal patience accept before.untranscribed =
        (await page.transcribed locator goal patience accept before).map fun ended =>
          (ended.1, ended.2.untranscribed)) ∧
    (∀ (before after : Moment (Transcribed σ)) (outcome : Except Failure (α × Nat)),
      await page.transcribed locator goal patience accept before = some (outcome, after) →
      ∃ count, QueriedTimes locator count before after ∧
        count ≤ patience.budget ⌈/⌉ patience.interval ∧ (count = 0 ↔ patience.budget = 0)) ∧
    (∀ before : Moment σ, await page locator goal patience accept before = none →
      ∃ k < patience.budget ⌈/⌉ patience.interval,
        Watch.Blocks ⟨page, locator, patience, before.page⟩ k) ∧
    ((∀ s latency, page.reply s (.query locator) ≠ .stuck latency) → ∀ before : Moment σ,
      ∃ outcome after, await page locator goal patience accept before = some (outcome, after)) := by
  have hheld (before : Moment σ) (hendless : await page locator goal patience accept before = none) :
      ∃ k < patience.budget ⌈/⌉ patience.interval,
        Watch.Blocks ⟨page, locator, patience, before.page⟩ k := by
    obtain ⟨k, hblocks, -⟩ := Watch.blocked_of_endless
      (w := ⟨page, locator, patience, before.page⟩) hinterval hendless
    exact ⟨k, hblocks.lt_ceilDiv hinterval, hblocks⟩
  refine ⟨?_, ?_, hheld, ?_⟩
  · exact (page.transcribed_lockstep.await trivial goal patience accept (.inl trivial)).forgets
  · intro before after outcome hended
    obtain ⟨count, hqueried, hcount, hnone⟩ := poll_queried hinterval hended
    exact ⟨count, hqueried, hcount, hnone.trans Nat.le_zero⟩
  · intro hfree before
    cases hended : await page locator goal patience accept before with
    | some ended => exact ⟨ended.1, ended.2, rfl⟩
    | none =>
        obtain ⟨k, -, latency, hstuck, -⟩ := hheld before hended
        exact absurd hstuck (hfree _ latency)

/-- A page whose document is replaced under every query. -/
def restlessPage : Page Unit where
  reply s call :=
    match call with
    | .query _ => .answered 0 (.error (.replaced "navigated")) s
    | _ => .pending
  abandon s _ := s

/-- A budget with room for four pauses, the last of which is cut short. -/
def shortPatience : Patience := ⟨100, 30⟩

/-- Within this budget a page that never settles is queried four times. -/
theorem restlessPage_queried :
    1 ≤ shortPatience.interval ∧
      ∃ outcome after count,
        await restlessPage.transcribed (.css ".desktop") "desktop" shortPatience List.head?
          ⟨⟨(), []⟩, 0⟩ = some (outcome, after) ∧
        QueriedTimes (.css ".desktop") count ⟨⟨(), []⟩, 0⟩ after ∧
        count ≤ shortPatience.budget ⌈/⌉ shortPatience.interval ∧ count = 4 := by
  have hended : ∃ outcome after,
      await restlessPage.transcribed (.css ".desktop") "desktop" shortPatience List.head?
        ⟨⟨(), []⟩, 0⟩ = some (outcome, after) ∧ after.transcript.length = 4 :=
    ⟨_, _, rfl, rfl⟩
  obtain ⟨outcome, after, hended, hlength⟩ := hended
  obtain ⟨-, hqueries, -, -⟩ := wait_queries_bounded restlessPage (.css ".desktop") "desktop"
    shortPatience List.head? (by decide)
  obtain ⟨count, hqueried, hcount, -⟩ := hqueries _ _ _ hended
  obtain ⟨made, htranscript, -, hmade⟩ := id hqueried
  refine ⟨by decide, outcome, after, count, hended, hqueried, hcount, ?_⟩
  rw [← hmade, ← hlength, htranscript]
  rfl

end DesktopTrial.Readiness
