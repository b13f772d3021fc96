import DesktopTrial.Check.OnPage
import DesktopTrial.Check.Region
import DesktopTrial.Proofs.Run.Lockstep
import DesktopTrial.Session.OnPage

/-!
# Pages that are taken for one another

When two pages answer every call alike as long as their moments are related, all work
on the one is in lockstep with the same work on the other: waits, checks, region
probes and sessions.  A page may be compared with itself, to find what the calls that
some work is allowed to make cannot disturb.
-/

namespace DesktopTrial

variable {σ τ α : Type}

/-- Two replies that take equally long and say the same.  Both may fail to come where
that is conceded. -/
inductive Reply.Alike (hangs : Prop) (R : Nat → σ → τ → Prop) :
    Reply σ α → Reply τ α → Prop where
  | answered {latency : Nat} {result : Except Failure α} {s : σ} {t : τ} :
      R latency s t → Alike hangs R (.answered latency result s) (.answered latency result t)
  | pending : hangs → Alike hangs R .pending .pending
  | stuck (latency : Nat) : hangs → Alike hangs R (.stuck latency) (.stuck latency)

def Reply.mapState (f : σ → τ) : Reply σ α → Reply τ α
  | .answered latency result after => .answered latency result (f after)
  | .pending => .pending
  | .stuck latency => .stuck latency

theorem Reply.mapState_id (reply : Reply σ α) : reply.mapState id = reply := by
  cases reply <;> rfl

/-- Replies that are the same but for what is forgotten of the states. -/
theorem Reply.Alike.of_mapState {ρ : Type} {f : σ → ρ} {g : τ → ρ} {reply : Reply σ α}
    {other : Reply τ α} (hsame : reply.mapState f = other.mapState g) :
    reply.Alike True (fun _ s t => f s = g t) other := by
  cases reply with
  | answered latency result after =>
      cases other with
      | answered latency' result' after' =>
          obtain ⟨rfl, rfl, hafter⟩ := Reply.answered.inj hsame
          exact .answered hafter
      | pending => cases hsame
      | stuck latency' => cases hsame
  | pending =>
      cases other with
      | pending => exact .pending trivial
      | answered latency' result' after' => cases hsame
      | stuck latency' => cases hsame
  | stuck latency =>
      cases other with
      | stuck latency' =>
          cases hsame
          exact .stuck latency trivial
      | answered latency' result' after' => cases hsame
      | pending => cases hsame

/-- One reply, taken to different states, is alike if those that it may lead to are related. -/
theorem Reply.Alike.mapState {ρ : Type} {R : Nat → σ → τ → Prop} {f : ρ → σ} {g : ρ → τ}
    {reply : Reply ρ α}
    (hafter : ∀ latency result after, reply = .answered latency result after →
      R latency (f after) (g after)) : (reply.mapState f).Alike True R (reply.mapState g) := by
  cases reply with
  | answered latency result after => exact .answered (hafter _ _ _ rfl)
  | pending => exact .pending trivial
  | stuck latency => exact .stuck latency trivial

/-- A reply is like itself, if what it may lead to is related to itself. -/
theorem Reply.Alike.of_answered {R : Nat → σ → σ → Prop} {reply : Reply σ α}
    (hafter : ∀ latency result after, reply = .answered latency result after →
      R latency after after) : reply.Alike True R reply := by
  have halike : (reply.mapState id).Alike True R (reply.mapState id) := .mapState hafter
  rwa [reply.mapState_id] at halike

theorem Reply.Alike.imp {hangs : Prop} {R S : Nat → σ → τ → Prop} {reply : Reply σ α}
    {other : Reply τ α} (halike : reply.Alike hangs R other)
    (himp : ∀ latency s t, R latency s t → S latency s t) : reply.Alike hangs S other := by
  cases halike with
  | answered hafter => exact .answered (himp _ _ _ hafter)
  | pending hhangs => exact .pending hhangs
  | stuck latency hhangs => exact .stuck latency hhangs

def Moment.later (moment : Moment σ) (duration : Nat) (after : σ) : Moment σ :=
  ⟨after, moment.clock + duration⟩

/-- The calls by which a page is waited for, checked and looked at. -/
def Call.isEveryday : Call → Bool
  | .query _ | .click _ _ | .currentUrl | .screenshot => true
  | _ => false

/-- From related moments the pages answer the allowed calls alike, and time alone
changes nothing. -/
structure Page.Lockstep (hangs : Prop) (allowed : Call → Prop)
    (R : Moment σ → Moment τ → Prop) (left : Page σ) (right : Page τ) : Prop where
  sleep : ∀ m n duration, R m n →
    R (m.later duration m.page) (n.later duration n.page)
  reply : ∀ m n call, allowed call → R m n →
    (left.reply m.page call).Alike hangs
      (fun latency s t => R (m.later latency s) (n.later latency t))
      (right.reply n.page call)
  abandon : ∀ m n locator duration, allowed (.query locator) → R m n →
    R (m.later duration (left.abandon m.page locator))
      (n.later duration (right.abandon n.page locator))

namespace Page.Lockstep

/-- A page that keeps something beside the states of another answers as that page does. -/
theorem of_mapState (inner : τ → σ) {beside : Page τ} {page : Page σ}
    (hreply : ∀ s call, (beside.reply s call).mapState inner = page.reply (inner s) call)
    (habandon : ∀ s locator, inner (beside.abandon s locator) = page.abandon (inner s) locator) :
    Page.Lockstep True (fun _ => True) (fun m n => (⟨inner m.page, m.clock⟩ : Moment σ) = n)
      beside page where
  sleep := by
    rintro m _ duration rfl
    rfl
  reply := by
    rintro m _ call - rfl
    have hsame : (beside.reply m.page call).mapState inner =
        (page.reply (inner m.page) call).mapState id := by
      rw [hreply, Reply.mapState_id]
    exact (Reply.Alike.of_mapState hsame).imp fun latency s t hafter =>
      congrArg (Moment.mk · _) hafter
  abandon := by
    rintro m _ locator duration - rfl
    exact congrArg (Moment.mk · _) (habandon m.page locator)

variable {hangs : Prop} {allowed : Call → Prop} {R : Moment σ → Moment τ → Prop}
variable {left : Page σ} {right : Page τ}

theorem ask (hpages : Lockstep hangs allowed R left right) {call : Call}
    (hcall : allowed call) :
    Run.Lockstep hangs R (Run.ask left call) (Run.ask right call) := by
  intro m n hrelated
  have halike := hpages.reply m n call hcall hrelated
  rw [Run.ask, Run.ask]
  generalize left.reply m.page call = x at halike ⊢
  generalize right.reply n.page call = y at halike ⊢
  cases halike with
  | answered hafter => exact .ended _ hafter
  | pending hhangs => exact .endless hhangs
  | stuck latency hhangs => exact .endless hhangs

theorem pause (hpages : Lockstep hangs allowed R left right) (duration : Nat) :
    Run.Lockstep hangs R (Run.sleep duration) (Run.sleep duration) :=
  .modify fun m n hrelated => hpages.sleep m n duration hrelated

/-! ## Waits -/

/-- With a pause between the probes there are no more of them than milliseconds left,
so the fuel lasts. -/
theorem poll (hpages : Lockstep hangs allowed R left right) {locator : Locator}
    (hquery : allowed (.query locator)) (goal : String) (patience : Patience)
    (accept : List Sighting → Option α) (fuel elapsed : Nat)
    (hfuel : hangs ∨ 1 ≤ patience.interval ∧ patience.budget - elapsed < fuel) :
    Run.Lockstep hangs R (Readiness.poll left locator goal patience accept fuel elapsed)
      (Readiness.poll right locator goal patience accept fuel elapsed) := by
  induction fuel generalizing elapsed with
  | zero => exact fun _ _ _ => .endless (hfuel.resolve_right (by omega))
  | succ fuel ih =>
      intro m n hrelated
      have halike := hpages.reply m n (.query locator) hquery hrelated
      have hcut := hpages.abandon m n locator (patience.budget - elapsed) hquery hrelated
      rw [Readiness.poll, Readiness.poll]
      dsimp only
      by_cases hdeadline : patience.budget ≤ elapsed
      · rw [if_pos hdeadline, if_pos hdeadline]
        exact .ended _ hrelated
      rw [if_neg hdeadline, if_neg hdeadline]
      generalize left.reply m.page (.query locator) = x at halike ⊢
      generalize right.reply n.page (.query locator) = y at halike ⊢
      cases halike with
      | pending => exact .ended _ hcut
      | stuck latency hhangs =>
          simp only
          split
          · exact .ended _ hcut
          · exact .endless hhangs
      | @answered latency result s t hafter =>
          simp only
          split
          · exact .ended _ hcut
          · cases Readiness.verdict accept result with
            | some outcome => exact .ended _ hafter
            | none =>
                refine ih _ (hfuel.imp_right fun hleft => ⟨hleft.1, ?_⟩) _ _
                  (hpages.sleep _ _
                    (min patience.interval (patience.budget - elapsed - latency)) hafter)
                omega

theorem await (hpages : Lockstep hangs allowed R left right) {locator : Locator}
    (hquery : allowed (.query locator)) (goal : String) (patience : Patience)
    (accept : List Sighting → Option α) (hpatience : hangs ∨ 1 ≤ patience.interval) :
    Run.Lockstep hangs R (Readiness.await left locator goal patience accept)
      (Readiness.await right locator goal patience accept) := by
  refine hpages.poll hquery goal patience accept _ 0 (hpatience.imp_right fun hpause => ?_)
  have hwords : 0 < UInt64.size := by decide
  exact ⟨hpause, by rw [Readiness.probeLimit]; omega⟩

variable (hpages : Lockstep hangs allowed R left right)
  (heveryday : ∀ call : Call, call.isEveryday = true → allowed call)
include hpages heveryday

theorem awaitReady (condition : Condition) (patience : Patience)
    (hpatience : hangs ∨ 1 ≤ patience.interval) :
    Run.Lockstep hangs R (Readiness.awaitReady left condition patience)
      (Readiness.awaitReady right condition patience) :=
  (hpages.await (heveryday _ rfl) _ _ _ hpatience).bind fun _ => .pure _

theorem awaitVisible (locator : Locator) (patience : Patience)
    (hpatience : hangs ∨ 1 ≤ patience.interval) :
    Run.Lockstep hangs R (Readiness.awaitVisible left locator patience)
      (Readiness.awaitVisible right locator patience) :=
  (hpages.await (heveryday _ rfl) _ _ _ hpatience).bind fun _ => .pure _

/-! ## Checks -/

theorem isVisible (locator : Locator) :
    Run.Lockstep hangs R (Check.isVisible left locator) (Check.isVisible right locator) :=
  (hpages.ask (heveryday _ rfl)).bind fun _ => .pure _

theorem hasCount (locator : Locator) (count : Count) :
    Run.Lockstep hangs R (Check.hasCount left locator count) (Check.hasCount right locator count) :=
  (hpages.ask (heveryday _ rfl)).bind fun _ => .pure _

theorem isCentered (locator : Locator) (expected : Centering) :
    Run.Lockstep hangs R (Check.isCentered left locator expected)
      (Check.isCentered right locator expected) :=
  (hpages.ask (heveryday _ rfl)).bind fun _ => .pure _

theorem isElsewhere (path : String) :
    Run.Lockstep hangs R (Check.isElsewhere left path) (Check.isElsewhere right path) :=
  ((hpages.ask (heveryday _ rfl)).bind fun _ => .pure _).bind fun _ => .pure _

/-! ## Region probes -/

section Region

omit heveryday
variable (hquery : ∀ locator, allowed (.query locator))
include hquery

theorem menuVisible (menu : Locator) :
    Run.Lockstep hangs R (RegionProbe.menuVisible left menu) (RegionProbe.menuVisible right menu) :=
  (hpages.ask (hquery menu)).bind fun _ => .pure _

theorem pointOf (target : ProbeTarget) :
    Run.Lockstep hangs R (RegionProbe.pointOf left target) (RegionProbe.pointOf right target) := by
  cases target with
  | point p => exact .pure _
  | locator locator => exact (hpages.ask (hquery locator)).bind fun _ => .pure _

variable (hright : ∀ p, allowed (.click p .secondary))
include hright

theorem clickAndLook (probe : RegionProbe) (handling : MenuHandling) (p : Point) :
    Run.Lockstep hangs R (probe.clickAndLook left handling p) (probe.clickAndLook right handling p) :=
  (hpages.ask (hright p)).bind fun _ =>
    (hpages.pause _).bind fun _ =>
      (menuVisible hpages hquery _).bind fun _ => .pure _

theorem examine (probe : RegionProbe) (handling : MenuHandling) :
    Run.Lockstep hangs R (probe.examine left handling) (probe.examine right handling) := by
  apply (menuVisible hpages hquery _).bind
  intro shown
  apply Run.Lockstep.ite (.pure _)
  apply (pointOf hpages hquery probe.target).bind
  intro found
  cases found with
  | error reason => exact .pure _
  | ok p => exact clickAndLook hpages hquery hright probe handling p

omit hquery hright in
theorem dismiss (handling : MenuHandling) (hdismiss : allowed (.click handling.dismissAt .primary)) :
    Run.Lockstep hangs R (RegionProbe.dismiss left handling) (RegionProbe.dismiss right handling) :=
  (hpages.ask hdismiss).bind fun _ => hpages.pause _

/-- A probe asks, right-clicks anywhere, and clicks where the menu is dismissed. -/
theorem check (probe : RegionProbe) (handling : MenuHandling)
    (hdismiss : allowed (.click handling.dismissAt .primary)) :
    Run.Lockstep hangs R (probe.check left handling) (probe.check right handling) := by
  apply (examine hpages hquery hright probe handling).attempt.bind
  intro examined
  apply (dismiss hpages handling hdismiss).attempt.bind
  intro dismissed
  apply (Run.Lockstep.ofExcept examined).bind
  intro outcome
  apply (Run.Lockstep.ofExcept dismissed).bind
  intro _
  apply (menuVisible hpages hquery _).bind
  intro shown
  exact .ite (.pure _) (.pure _)

end Region

/-! ## Sessions -/

omit heveryday in
theorem install (seed : Seed) (hinstall : ∀ entries, allowed (.install entries)) :
    Run.Lockstep hangs R (seed.install left) (seed.install right) :=
  (Run.Lockstep.ofExcept seed.entries).bind fun entries => hpages.ask (hinstall entries)

omit heveryday in
theorem confirm (key expected : String) (hread : allowed (.readStorage key)) :
    Run.Lockstep hangs R (Seed.confirm left key expected) (Seed.confirm right key expected) := by
  apply (hpages.ask hread).bind
  intro stored
  cases stored with
  | none => exact .throw _
  | some actual => exact .ite (.pure _) (.throw _)

omit heveryday in
theorem verify (seed : Seed) (hread : ∀ key, allowed (.readStorage key)) :
    Run.Lockstep hangs R (seed.verify left) (seed.verify right) := by
  apply (Run.Lockstep.ofExcept seed.entries).bind
  intro entries
  exact .forM fun entry _ => confirm hpages entry.1 entry.2 (hread entry.1)

end Page.Lockstep

end DesktopTrial
