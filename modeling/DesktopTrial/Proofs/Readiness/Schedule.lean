import DesktopTrial.Proofs.Run.Laws
import DesktopTrial.Readiness.Wait

/-!
# The schedule of a wait

A wait sees a page as a sequence of probes, each of which is answered after some time
or never.  From that sequence alone follow the times at which the probes are asked,
and the first decisive answer inside the budget is what the wait ends with.  Without
such an answer it ends with a timeout, exactly when the budget is used up.
-/

namespace DesktopTrial.Readiness

variable {σ α β : Type}

/-- What is probed, how patiently, and the state of the page at the first probe. -/
structure Watch (σ : Type) where
  page : Page σ
  locator : Locator
  patience : Patience
  first : σ

/-- An answer that ends a wait, and the outcome that it dictates: a value that the
wait accepts, or a failure that the next document cannot mend. -/
inductive Decisive (accepts : List Sighting → α → Prop) :
    Except Failure (List Sighting) → Except Failure α → Prop where
  | accepted {found : List Sighting} {value : α} :
      accepts found value → Decisive accepts (.ok found) (.ok value)
  | failed {failure : Failure} :
      failure.isTransient = false → Decisive accepts (.error failure) (.error failure)

namespace Watch

/-- The page's state when it is probed for the `k`-th time, counted from zero. -/
def state (w : Watch σ) : Nat → σ
  | 0 => w.first
  | k + 1 =>
      match w.page.reply (w.state k) (.query w.locator) with
      | .answered _ _ after => after
      | _ => w.state k

def probe (w : Watch σ) (k : Nat) : Reply σ (List Sighting) :=
  w.page.reply (w.state k) (.query w.locator)

/-- The time of the `k`-th probe.  A probe that is never answered uses up the budget. -/
def start (w : Watch σ) : Nat → Nat
  | 0 => 0
  | k + 1 =>
      match w.probe k with
      | .answered latency _ _ =>
          min (w.start k + latency + w.patience.interval) w.patience.budget
      | _ => w.patience.budget

/-- The `k`-th probe is asked before the deadline, and what takes it that long is over
by then. -/
def InTime (w : Watch σ) (k latency : Nat) : Prop :=
  w.start k < w.patience.budget ∧ w.start k + latency ≤ w.patience.budget

/-- The `k`-th probe is answered in time, and its answer is decisive. -/
def Decides (w : Watch σ) (accepts : List Sighting → α → Prop) (k time : Nat)
    (outcome : Except Failure α) : Prop :=
  ∃ latency result after, w.probe k = .answered latency result after ∧
    w.InTime k latency ∧ Decisive accepts result outcome ∧ time = w.start k + latency

/-- No probe before the `k`-th decides. -/
def QuietBefore (w : Watch σ) (accepts : List Sighting → α → Prop) (k : Nat) : Prop :=
  ∀ j < k, ∀ time outcome, ¬ w.Decides accepts j time outcome

/-- The `k`-th probe holds up everything else before the deadline. -/
def Blocks (w : Watch σ) (k : Nat) : Prop :=
  ∃ latency, w.probe k = .stuck latency ∧ w.InTime k latency

/-- The wait that began at `clock` ends as its probes dictate.  `report` makes its
value from the time it took and the value that was accepted. -/
structure Governs (w : Watch σ) (accepts : List Sighting → α → Prop) (goal : String)
    (clock : Nat) (report : Nat → α → β)
    (ended : Option (Except Failure β × Moment σ)) : Prop where
  /-- The first decisive probe dictates outcome and time. -/
  decided : ∀ k time outcome, w.Decides accepts k time outcome → w.QuietBefore accepts k →
    ended = some (outcome.map (report time), ⟨w.state (k + 1), clock + time⟩)
  /-- Without one, the wait ends at its deadline. -/
  expired : (∀ k, w.QuietBefore accepts k) → (∀ k, ¬ w.Blocks k) →
    ∃ after, ended = some (.error (.timeout goal w.patience.budget),
      ⟨after, clock + w.patience.budget⟩)
  /-- Only a probe that holds up everything keeps the wait from ending. -/
  blocked : ∀ k, w.Blocks k → w.QuietBefore accepts k → ended = none
  /-- The wait never ends after its deadline, and before it only by a decision. -/
  punctual : ∀ outcome after, ended = some (outcome, after) →
    after.clock ≤ clock + w.patience.budget ∧
      (after.clock < clock + w.patience.budget →
        ∃ k time dictated, w.Decides accepts k time dictated ∧ w.QuietBefore accepts k ∧
          after.clock = clock + time)

/-! ## Times of probes -/

theorem start_le_budget (w : Watch σ) (k : Nat) : w.start k ≤ w.patience.budget := by
  cases k with
  | zero => exact Nat.zero_le _
  | succ k =>
      unfold start
      split
      · exact Nat.min_le_right _ _
      · exact Nat.le_refl _

/-- A probe is followed by another one only when it was answered in time. -/
theorem answered_of_start_succ_lt {w : Watch σ} {k : Nat}
    (hnext : w.start (k + 1) < w.patience.budget) :
    ∃ latency result after, w.probe k = .answered latency result after ∧
      w.InTime k latency ∧
      w.start (k + 1) = w.start k + latency + w.patience.interval := by
  rw [start] at hnext
  cases hprobe : w.probe k with
  | answered latency result after =>
      simp only [hprobe] at hnext
      refine ⟨latency, result, after, rfl, ⟨by omega, by omega⟩, ?_⟩
      rw [start, hprobe]
      exact Nat.min_eq_left (by omega)
  | pending => simp [hprobe] at hnext
  | stuck latency => simp [hprobe] at hnext

/-- A probe that is asked before the deadline follows probes that were answered in time. -/
theorem answered_of_start_lt {w : Watch σ} {i j : Nat} (hbefore : i < j)
    (hstart : w.start j < w.patience.budget) :
    ∃ latency result after, w.probe i = .answered latency result after ∧ w.InTime i latency := by
  induction j with
  | zero => exact absurd hbefore (Nat.not_lt_zero i)
  | succ j ih =>
      obtain ⟨latency, result, after, hprobe, hintime, -⟩ := answered_of_start_succ_lt hstart
      rcases Nat.lt_succ_iff_lt_or_eq.mp hbefore with hlt | rfl
      · exact ih hlt hintime.1
      · exact ⟨latency, result, after, hprobe, hintime⟩

/-- Every probe before this one was followed by a whole pause. -/
theorem mul_le_start {w : Watch σ} {k : Nat} (hstart : w.start k < w.patience.budget) :
    k * w.patience.interval ≤ w.start k := by
  induction k with
  | zero => rw [Nat.zero_mul]; exact Nat.zero_le _
  | succ k ih =>
      obtain ⟨latency, result, after, -, hintime, hnext⟩ := answered_of_start_succ_lt hstart
      have hk := ih hintime.1
      rw [Nat.succ_mul]
      omega

/-- Every pause takes a millisecond at least. -/
theorem le_start {w : Watch σ} (hinterval : 1 ≤ w.patience.interval) {k : Nat}
    (hstart : w.start k < w.patience.budget) : k ≤ w.start k :=
  Nat.le_trans (Nat.le_mul_of_pos_right k hinterval) (mul_le_start hstart)

/-- The pause after an answer in time leads to the time of the next probe. -/
theorem start_succ {w : Watch σ} {k latency : Nat} {result : Except Failure (List Sighting)}
    {after : σ} (hprobe : w.probe k = .answered latency result after)
    (hintime : w.InTime k latency) :
    w.start (k + 1) = w.start k + latency +
      min w.patience.interval (w.patience.budget - w.start k - latency) := by
  have hlatency := hintime.2
  rw [start, hprobe]
  simp only
  omega

theorem state_succ {w : Watch σ} {k latency : Nat} {result : Except Failure (List Sighting)}
    {after : σ} (hprobe : w.probe k = .answered latency result after) :
    w.state (k + 1) = after := by
  rw [probe] at hprobe
  rw [state, hprobe]

/-! ## The loop follows the schedule -/

section Loop

variable {w : Watch σ} {goal : String} {accept : List Sighting → Option α} {clock : Nat}

/-- What the loop accepts, as a relation. -/
abbrev Accepts (accept : List Sighting → Option α) (found : List Sighting) (value : α) : Prop :=
  accept found = some value

theorem verdict_eq_some_iff {result : Except Failure (List Sighting)}
    {outcome : Except Failure α} :
    verdict accept result = some outcome ↔ Decisive (Accepts accept) result outcome := by
  constructor
  · intro hverdict
    cases result with
    | error failure =>
        cases htransient : failure.isTransient with
        | true => simp [verdict, htransient] at hverdict
        | false =>
            simp only [verdict, htransient, Bool.false_eq_true, if_false,
              Option.some.injEq] at hverdict
            exact hverdict ▸ .failed htransient
    | ok found =>
        simp only [verdict, Option.map_eq_some_iff] at hverdict
        obtain ⟨value, haccept, rfl⟩ := hverdict
        exact .accepted haccept
  · intro hdecisive
    cases hdecisive with
    | accepted haccept => rw [verdict, haccept]; rfl
    | failed htransient => simp [verdict, htransient]

/-- The rest of the wait, from its `k`-th probe on. -/
def pollFrom (w : Watch σ) (goal : String) (accept : List Sighting → Option α)
    (clock fuel k : Nat) : Option (Except Failure (α × Nat) × Moment σ) :=
  poll w.page w.locator goal w.patience accept fuel (w.start k)
    ⟨w.state k, clock + w.start k⟩

/-- At the deadline there is no further probe. -/
theorem pollFrom_deadline {fuel k : Nat} (hstart : w.start k = w.patience.budget) :
    w.pollFrom goal accept clock (fuel + 1) k =
      some (.error (.timeout goal w.patience.budget),
        ⟨w.state k, clock + w.patience.budget⟩) := by
  rw [pollFrom, hstart, poll]
  simp

/-- A decisive answer in time ends the wait. -/
theorem pollFrom_decided {fuel k time : Nat} {outcome : Except Failure α}
    (hdecides : w.Decides (Accepts accept) k time outcome) :
    w.pollFrom goal accept clock (fuel + 1) k =
      some (outcome.map fun value => (value, time), ⟨w.state (k + 1), clock + time⟩) := by
  obtain ⟨latency, result, after, hprobe, hintime, hdecisive, rfl⟩ := hdecides
  have hverdict := verdict_eq_some_iff.mpr hdecisive
  obtain ⟨hstart, hlatency⟩ := hintime
  rw [state_succ hprobe]
  rw [probe] at hprobe
  rw [pollFrom, poll]
  simp only [hprobe, hverdict]
  rw [if_neg (by omega), if_neg (by omega), Nat.add_assoc]

/-- After an answer in time that decides nothing the wait goes on with the next probe. -/
theorem pollFrom_undecided {fuel k latency : Nat} {result : Except Failure (List Sighting)}
    {after : σ} (hprobe : w.probe k = .answered latency result after)
    (hintime : w.InTime k latency)
    (hquiet : ∀ time outcome, ¬ w.Decides (Accepts accept) k time outcome) :
    w.pollFrom goal accept clock (fuel + 1) k = w.pollFrom goal accept clock fuel (k + 1) := by
  have hverdict : verdict accept result = none := by
    rw [Option.eq_none_iff_forall_ne_some]
    intro outcome hsome
    exact hquiet _ outcome
      ⟨latency, result, after, hprobe, hintime, verdict_eq_some_iff.mp hsome, rfl⟩
  have hnext := start_succ hprobe hintime
  obtain ⟨hstart, hlatency⟩ := hintime
  rw [pollFrom, pollFrom, state_succ hprobe, hnext]
  rw [probe] at hprobe
  rw [poll]
  simp only [hprobe, hverdict]
  rw [if_neg (by omega), if_neg (by omega)]
  simp only [Nat.add_assoc]

/-- A probe that is not over by the deadline is given up then. -/
theorem pollFrom_overdue {fuel k : Nat} (hstart : w.start k < w.patience.budget)
    (hoverdue : ∀ latency, w.InTime k latency →
      (∀ result after, w.probe k ≠ .answered latency result after) ∧
        w.probe k ≠ .stuck latency) :
    ∃ after, w.pollFrom goal accept clock (fuel + 1) k =
      some (.error (.timeout goal w.patience.budget),
        ⟨after, clock + w.patience.budget⟩) := by
  refine ⟨w.page.abandon (w.state k) w.locator, ?_⟩
  have hdeadline : clock + w.start k + (w.patience.budget - w.start k) =
      clock + w.patience.budget := by omega
  cases hprobe : w.probe k with
  | answered latency result after =>
      have hlate : ¬ w.InTime k latency := fun hintime =>
        (hoverdue latency hintime).1 result after hprobe
      rw [InTime] at hlate
      rw [probe] at hprobe
      rw [pollFrom, poll]
      simp only [hprobe]
      rw [if_neg (by omega), if_pos (by omega), hdeadline]
  | pending =>
      rw [probe] at hprobe
      rw [pollFrom, poll]
      simp only [hprobe]
      rw [if_neg (by omega), hdeadline]
  | stuck latency =>
      have hlate : ¬ w.InTime k latency := fun hintime =>
        (hoverdue latency hintime).2 hprobe
      rw [InTime] at hlate
      rw [probe] at hprobe
      rw [pollFrom, poll]
      simp only [hprobe]
      rw [if_neg (by omega), if_pos (by omega), hdeadline]

/-- A probe that holds up everything before the deadline keeps the wait from ending. -/
theorem pollFrom_blocked {fuel k : Nat} (hblocks : w.Blocks k) :
    w.pollFrom goal accept clock (fuel + 1) k = none := by
  obtain ⟨latency, hprobe, hstart, hlatency⟩ := hblocks
  rw [probe] at hprobe
  rw [pollFrom, poll]
  simp only [hprobe]
  rw [if_neg (by omega), if_neg (by omega)]

/-- The wait gets to every probe that the schedule puts before the deadline, unless an
earlier one decides. -/
theorem pollFrom_reaches {fuel k : Nat} (hstart : w.start k < w.patience.budget)
    (hquiet : w.QuietBefore (Accepts accept) k) :
    w.pollFrom goal accept clock (fuel + k) 0 = w.pollFrom goal accept clock fuel k := by
  induction k generalizing fuel with
  | zero => rfl
  | succ k ih =>
      obtain ⟨latency, result, after, hprobe, hintime, -⟩ := answered_of_start_succ_lt hstart
      calc
        w.pollFrom goal accept clock (fuel + (k + 1)) 0 =
            w.pollFrom goal accept clock (fuel + 1 + k) 0 := by
          rw [Nat.add_assoc fuel 1 k, Nat.add_comm 1 k]
        _ = w.pollFrom goal accept clock (fuel + 1) k :=
          ih hintime.1 fun j hj => hquiet j (by omega)
        _ = w.pollFrom goal accept clock fuel (k + 1) :=
          pollFrom_undecided hprobe hintime (hquiet k (by omega))

/-- As long as the deadline is not reached, the next probe is asked later. -/
theorem start_lt_succ (hinterval : 1 ≤ w.patience.interval) {k latency : Nat}
    {result : Except Failure (List Sighting)} {after : σ}
    (hprobe : w.probe k = .answered latency result after) (hintime : w.InTime k latency) :
    w.start k < w.start (k + 1) := by
  have hnext := start_succ hprobe hintime
  obtain ⟨hstart, hlatency⟩ := hintime
  omega

/-- Without a decision the rest of the wait runs into the deadline. -/
theorem pollFrom_expired (hinterval : 1 ≤ w.patience.interval) {fuel k : Nat}
    (hfuel : w.patience.budget - w.start k < fuel)
    (hquiet : ∀ k, w.QuietBefore (Accepts accept) k) (hfree : ∀ k, ¬ w.Blocks k) :
    ∃ after, w.pollFrom goal accept clock fuel k =
      some (.error (.timeout goal w.patience.budget),
        ⟨after, clock + w.patience.budget⟩) := by
  induction fuel generalizing k with
  | zero => exact absurd hfuel (Nat.not_lt_zero _)
  | succ fuel ih =>
      by_cases hdeadline : w.start k = w.patience.budget
      · exact ⟨_, pollFrom_deadline hdeadline⟩
      have hstart : w.start k < w.patience.budget := by
        have := w.start_le_budget k
        omega
      by_cases hanswered : ∃ latency result after,
          w.probe k = .answered latency result after ∧ w.InTime k latency
      · obtain ⟨latency, result, after, hprobe, hintime⟩ := hanswered
        rw [pollFrom_undecided hprobe hintime (hquiet (k + 1) k (Nat.lt_succ_self k))]
        have hlater := start_lt_succ hinterval hprobe hintime
        exact ih (by omega)
      · apply pollFrom_overdue hstart
        intro latency hintime
        constructor
        · intro result after hprobe
          exact hanswered ⟨latency, result, after, hprobe, hintime⟩
        · intro hprobe
          exact hfree k ⟨latency, hprobe, hintime⟩

/-- Either some probe is the first to decide, or none decides. -/
theorem exists_first_or_quiet (w : Watch σ) (accepts : List Sighting → α → Prop) :
    (∃ k time outcome, w.Decides accepts k time outcome ∧ w.QuietBefore accepts k) ∨
      ∀ k, w.QuietBefore accepts k := by
  by_cases hfirst : ∃ k time outcome,
      w.Decides accepts k time outcome ∧ w.QuietBefore accepts k
  · exact .inl hfirst
  refine .inr fun k => ?_
  induction k with
  | zero => exact fun j hj => absurd hj (Nat.not_lt_zero j)
  | succ k ih =>
      intro j hj time outcome hdecides
      rcases Nat.lt_succ_iff_lt_or_eq.mp hj with hlt | rfl
      · exact ih j hlt time outcome hdecides
      · exact hfirst ⟨j, time, outcome, hdecides, ih⟩

/-- The limit on the number of probes is never what ends a wait. -/
theorem await_eq_pollFrom {k : Nat} (hinterval : 1 ≤ w.patience.interval)
    (hstart : w.start k < w.patience.budget) (hquiet : w.QuietBefore (Accepts accept) k) :
    ∃ fuel, await w.page w.locator goal w.patience accept ⟨w.first, clock⟩ =
      w.pollFrom goal accept clock (fuel + 1) k := by
  have hk := le_start hinterval hstart
  refine ⟨w.patience.budget - k - 1 + UInt64.size, ?_⟩
  rw [← pollFrom_reaches hstart hquiet, await, probeLimit]
  have hlimit : w.patience.budget + UInt64.size =
      w.patience.budget - k - 1 + UInt64.size + 1 + k := by omega
  rw [hlimit]
  rfl

theorem await_governed (w : Watch σ) (goal : String) (accept : List Sighting → Option α)
    (clock : Nat) (hinterval : 1 ≤ w.patience.interval) :
    w.Governs (Accepts accept) goal clock (fun time value => (value, time))
      (await w.page w.locator goal w.patience accept ⟨w.first, clock⟩) := by
  have hdecided : ∀ k time outcome, w.Decides (Accepts accept) k time outcome →
      w.QuietBefore (Accepts accept) k →
      await w.page w.locator goal w.patience accept ⟨w.first, clock⟩ =
        some (outcome.map fun value => (value, time),
          ⟨w.state (k + 1), clock + time⟩) := by
    intro k time outcome hdecides hquiet
    obtain ⟨latency, result, after, -, hintime, -⟩ := id hdecides
    obtain ⟨fuel, hawait⟩ := await_eq_pollFrom hinterval hintime.1 hquiet
    rw [hawait, pollFrom_decided hdecides]
  have hblocked : ∀ k, w.Blocks k → w.QuietBefore (Accepts accept) k →
      await w.page w.locator goal w.patience accept ⟨w.first, clock⟩ = none := by
    intro k hblocks hquiet
    obtain ⟨latency, -, hintime⟩ := id hblocks
    obtain ⟨fuel, hawait⟩ := await_eq_pollFrom hinterval hintime.1 hquiet
    rw [hawait, pollFrom_blocked hblocks]
  have hexpired : (∀ k, w.QuietBefore (Accepts accept) k) → (∀ k, ¬ w.Blocks k) →
      ∃ after, await w.page w.locator goal w.patience accept ⟨w.first, clock⟩ =
        some (.error (.timeout goal w.patience.budget),
          ⟨after, clock + w.patience.budget⟩) := by
    intro hquiet hfree
    exact pollFrom_expired (k := 0) hinterval
      (Nat.lt_add_of_pos_right (by decide)) hquiet hfree
  refine ⟨hdecided, hexpired, hblocked, ?_⟩
  intro outcome after hended
  rcases w.exists_first_or_quiet (Accepts accept) with
    ⟨k, time, dictated, hdecides, hquiet⟩ | hquiet
  · obtain ⟨latency, result, replied, -, hintime, -, rfl⟩ := id hdecides
    rw [hdecided _ _ _ hdecides hquiet] at hended
    obtain ⟨-, rfl⟩ := Prod.mk.inj (Option.some.inj hended)
    exact ⟨Nat.add_le_add_left hintime.2 clock,
      fun _ => ⟨k, _, dictated, hdecides, hquiet, rfl⟩⟩
  · have hfree : ∀ k, ¬ w.Blocks k := by
      intro k hblocks
      simp [hblocked k hblocks (hquiet k)] at hended
    obtain ⟨cut, hcut⟩ := hexpired hquiet hfree
    rw [hcut] at hended
    obtain ⟨-, rfl⟩ := Prod.mk.inj (Option.some.inj hended)
    exact ⟨Nat.le_refl _, fun hearly => absurd hearly (Nat.lt_irrefl _)⟩

end Loop

/-- A wait that reports something else about the same ending is governed alike. -/
theorem Governs.map {w : Watch σ} {accepts : List Sighting → α → Prop} {goal : String}
    {clock : Nat} {report : Nat → α → β} {γ : Type} (f : β → γ)
    {ended : Option (Except Failure β × Moment σ)}
    (hgoverns : w.Governs accepts goal clock report ended) :
    w.Governs accepts goal clock (fun time value => f (report time value))
      (ended.map fun result => (result.1.map f, result.2)) where
  decided k time outcome hdecides hquiet := by
    rw [hgoverns.decided k time outcome hdecides hquiet]
    cases outcome <;> rfl
  expired hquiet hfree := by
    obtain ⟨after, hended⟩ := hgoverns.expired hquiet hfree
    exact ⟨after, by rw [hended]; rfl⟩
  blocked k hblocks hquiet := by
    rw [hgoverns.blocked k hblocks hquiet]
    rfl
  punctual outcome after hended := by
    obtain ⟨⟨first, moment⟩, hfirst, heq⟩ := Option.map_eq_some_iff.mp hended
    obtain ⟨-, rfl⟩ := Prod.mk.inj heq
    exact hgoverns.punctual first moment hfirst

end Watch

/-! ## The two waits -/

theorem awaitReady_eq_map (page : Page σ) (condition : Condition) (patience : Patience)
    (moment : Moment σ) :
    awaitReady page condition patience moment =
      (await page condition.locator condition.describe patience
        (fun found => if condition.holds found then some () else none) moment).map
          fun ended => (ended.1.map fun found => ⟨found.2, condition.describe⟩, ended.2) := by
  rw [awaitReady, Run.bind_apply]
  generalize await page condition.locator condition.describe patience
    (fun found => if condition.holds found then some () else none) moment = ended
  rcases ended with _ | ⟨failure | ⟨⟨⟩, elapsed⟩, after⟩ <;> rfl

theorem awaitVisible_eq_map (page : Page σ) (locator : Locator) (patience : Patience)
    (moment : Moment σ) :
    awaitVisible page locator patience moment =
      (await page locator (locator.describe ++ " visible") patience
        (visibleBox? locator) moment).map fun ended => (ended.1.map Prod.fst, ended.2) := by
  rw [awaitVisible, Run.bind_apply]
  generalize await page locator (locator.describe ++ " visible") patience
    (visibleBox? locator) moment = ended
  rcases ended with _ | ⟨failure | ⟨box, elapsed⟩, after⟩ <;> rfl

/-- The locator refers to a visible element, and this is its box. -/
def ShowsBox (locator : Locator) (found : List Sighting) (box : Box) : Prop :=
  ∃ element, locator.resolve found = .ok element ∧ element.visible = true ∧
    element.box = some box

theorem visibleBox?_eq_some_iff {locator : Locator} {found : List Sighting} {box : Box} :
    visibleBox? locator found = some box ↔ ShowsBox locator found box := by
  rw [visibleBox?, ShowsBox]
  cases locator.resolve found with
  | error reason => simp
  | ok element => simp [Sighting.visibleBox?]

/-- Waiting for a condition and waiting for a visible element both end as the probes
of the page dictate, whatever the page answers and however long it takes. -/
theorem waits_governed_by_probes (page : Page σ) (patience : Patience)
    (hinterval : 1 ≤ patience.interval) (moment : Moment σ) :
    (∀ condition : Condition,
      Watch.Governs (β := Awaited) ⟨page, condition.locator, patience, moment.page⟩
        (fun found (_ : Unit) => condition.holds found = true) condition.describe
        moment.clock (fun time _ => ⟨time, condition.describe⟩)
        (awaitReady page condition patience moment)) ∧
    ∀ locator : Locator,
      Watch.Governs (β := Box) ⟨page, locator, patience, moment.page⟩ (ShowsBox locator)
        (locator.describe ++ " visible") moment.clock (fun _ box => box)
        (awaitVisible page locator patience moment) := by
  obtain ⟨first, clock⟩ := moment
  constructor
  · intro condition
    have haccepts : (fun found (_ : Unit) => condition.holds found = true) =
        Watch.Accepts fun found => if condition.holds found then some () else none := by
      funext found value
      simp [Watch.Accepts]
    have hawait := Watch.await_governed ⟨page, condition.locator, patience, first⟩
      condition.describe (fun found => if condition.holds found then some () else none) clock
      hinterval
    rw [haccepts, awaitReady_eq_map]
    exact hawait.map fun found => (⟨found.2, condition.describe⟩ : Awaited)
  · intro locator
    have haccepts : ShowsBox locator = Watch.Accepts (visibleBox? locator) := by
      funext found box
      exact propext visibleBox?_eq_some_iff.symm
    have hawait := Watch.await_governed ⟨page, locator, patience, first⟩
      (locator.describe ++ " visible") (visibleBox? locator) clock hinterval
    rw [haccepts, awaitVisible_eq_map]
    exact hawait.map Prod.fst

/-- A page whose document is replaced under the first query.  The second query takes
as long as is left of a budget of 100 milliseconds with pauses of 50. -/
def lastMomentPage : Page Nat where
  reply s call :=
    match call with
    | .query _ =>
        if s = 0 then .answered 30 (.error (.replaced "navigated")) 1
        else .answered 20 (.ok [Sighting.hidden]) (s + 1)
    | _ => .pending
  abandon s _ := s

/-- An answer at the deadline still counts. -/
theorem lastMomentPage_ready :
    1 ≤ (⟨100, 50⟩ : Patience).interval ∧
      awaitReady lastMomentPage (.selectorPresent ".desktop-dock") ⟨100, 50⟩ ⟨0, 7⟩ =
        some (.ok ⟨100, "selector \".desktop-dock\" present"⟩, ⟨2, 107⟩) := by
  refine ⟨by decide, ?_⟩
  have hgoverns := (waits_governed_by_probes lastMomentPage ⟨100, 50⟩ (by decide) ⟨0, 7⟩).1
    (.selectorPresent ".desktop-dock")
  apply hgoverns.decided 1 100 (.ok ())
  · exact ⟨20, .ok [Sighting.hidden], 2, rfl, ⟨by decide, by decide⟩, .accepted rfl, rfl⟩
  · intro j hj time outcome hdecides
    obtain rfl : j = 0 := by omega
    obtain ⟨latency, result, after, hprobe, -, hdecisive, -⟩ := hdecides
    cases hprobe
    cases hdecisive with
    | failed htransient => cases htransient

end DesktopTrial.Readiness
