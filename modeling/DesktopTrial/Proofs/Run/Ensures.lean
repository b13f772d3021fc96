import DesktopTrial.Proofs.Run.Lockstep

/-!
# Runs that end

A run ensures something when, from every state that meets a condition, it ends without a
failure and with a value and a state as promised.  The rules follow the ways of putting runs
together, and what one run ensures another one in lockstep with it ensures too.  A run concludes
when it ends from every state, be it with one of the failures that are allowed.
-/

namespace DesktopTrial.Run

variable {σ ω ν α β : Type} {P : ω → Prop}

/-- From every state that meets the condition the run ends with a value, and the value and the
state that it leaves are as promised. -/
def Ensures (P : ω → Prop) (run : Run ω α) (Q : α → ω → Prop) : Prop :=
  ∀ before, P before → ∃ value after, run before = some (.ok value, after) ∧ Q value after

namespace Ensures

theorem pure {Q : α → ω → Prop} (value : α) : Ensures (Q value) (pure value) Q :=
  fun before hbefore => ⟨value, before, rfl, hbefore⟩

theorem bind {Q : α → ω → Prop} {S : β → ω → Prop} {run : Run ω α} {next : α → Run ω β}
    (hrun : Ensures P run Q) (hnext : ∀ value, Ensures (Q value) (next value) S) :
    Ensures P (run >>= next) S := by
  intro before hbefore
  obtain ⟨value, middle, hended, hmiddle⟩ := hrun before hbefore
  rw [bind_apply, hended, proceed_ok]
  exact hnext value middle hmiddle

/-- Less may be promised, and more may be asked. -/
theorem imp {P' : ω → Prop} {Q Q' : α → ω → Prop} {run : Run ω α} (hrun : Ensures P run Q)
    (hpre : ∀ before, P' before → P before)
    (hpost : ∀ value after, Q value after → Q' value after) : Ensures P' run Q' := by
  intro before hbefore
  obtain ⟨value, after, hended, hafter⟩ := hrun before (hpre before hbefore)
  exact ⟨value, after, hended, hpost value after hafter⟩

/-- A value that was computed beforehand is handed on. -/
theorem ofExcept_bind {Q : β → ω → Prop} {outcome : Except Failure α} {value : α}
    {next : α → Run ω β} (hok : outcome = .ok value) (hnext : Ensures P (next value) Q) :
    Ensures P (MonadExcept.ofExcept outcome >>= next) Q := by
  intro before hbefore
  rw [ofExcept_bind_apply, hok, proceed_ok]
  exact hnext before hbefore

/-- Work on a part of the state. -/
theorem on {P : ν → Prop} {Q : α → ν → Prop} {S : ω → Prop} {T : α → ω → Prop} {part : ω → ν}
    {put : ν → ω → ω} {run : Run ν α} (hrun : Ensures P run Q)
    (hpart : ∀ before, S before → P (part before))
    (hput : ∀ before value changed, S before → Q value changed → T value (put changed before)) :
    Ensures S (Run.on part put run) T := by
  intro before hbefore
  obtain ⟨value, changed, hended, hchanged⟩ := hrun _ (hpart before hbefore)
  refine ⟨value, put changed before, ?_, hput before value changed hbefore hchanged⟩
  rw [Run.on, hended]

/-! ## Pages -/

theorem ask {P : Moment σ → Prop} {page : Page σ} {call : Call}
    {Q : call.Answer → Moment σ → Prop}
    (hanswers : ∀ before, P before → ∃ latency value after,
      page.reply before.page call = .answered latency (.ok value) after ∧
        Q value ⟨after, before.clock + latency⟩) :
    Ensures P (Run.ask page call) Q := by
  intro before hbefore
  obtain ⟨latency, value, after, hreply, hafter⟩ := hanswers before hbefore
  refine ⟨value, _, ?_, hafter⟩
  rw [Run.ask, hreply]

theorem sleep {P : Moment σ → Prop} {duration : Nat}
    (hlater : ∀ before, P before → P ⟨before.page, before.clock + duration⟩) :
    Ensures P (Run.sleep duration) fun _ => P :=
  fun before hbefore => ⟨⟨⟩, _, rfl, hlater before hbefore⟩

/-! ## Loops -/

theorem forM_nil {f : β → Run ω PUnit} : Ensures P ([].forM f) fun _ => P :=
  fun before hbefore => ⟨⟨⟩, before, rfl, hbefore⟩

theorem forM_cons {Q R : ω → Prop} {f : β → Run ω PUnit} {item : β} {items : List β}
    (hitem : Ensures P (f item) fun _ => Q) (hitems : Ensures Q (items.forM f) fun _ => R) :
    Ensures P ((item :: items).forM f) fun _ => R :=
  hitem.bind fun _ => hitems

end Ensures

/-- What a run ensures, a run in lockstep with it ensures in the related states. -/
theorem Lockstep.ensures {hangs : Prop} {R : ω → ν → Prop} {left : Run ω α} {right : Run ν α}
    {P : ν → Prop} {Q : α → ν → Prop} (hruns : Lockstep hangs R left right)
    (hright : Ensures P right Q) :
    Ensures (fun s => ∃ t, R s t ∧ P t) left fun value s => ∃ t, R s t ∧ Q value t := by
  rintro s ⟨t, hrelated, ht⟩
  obtain ⟨value, after, hended, hafter⟩ := hright t ht
  have halike := hruns s t hrelated
  rw [hended] at halike
  generalize left s = x at halike ⊢
  cases halike with
  | @ended _ reached _ hreached => exact ⟨value, reached, rfl, after, hreached, hafter⟩

/-! ## Runs that may fail -/

/-- From every state the run ends, and where it fails the failure is one that is allowed. -/
def Concludes (allowed : Failure → Prop) (run : Run ω α) : Prop :=
  ∀ before, ∃ outcome after, run before = some (outcome, after) ∧
    ∀ failure, outcome = .error failure → allowed failure

namespace Concludes

variable {allowed : Failure → Prop}

theorem pure (value : α) : Concludes allowed (pure value : Run ω α) :=
  fun before => ⟨.ok value, before, rfl, fun _ himpossible => by cases himpossible⟩

theorem throw {failure : Failure} (hallowed : allowed failure) :
    Concludes allowed (throw failure : Run ω α) := by
  refine fun before => ⟨.error failure, before, rfl, fun _ hfailure => ?_⟩
  cases hfailure
  exact hallowed

theorem ofExcept {outcome : Except Failure α}
    (hallowed : ∀ failure, outcome = .error failure → allowed failure) :
    Concludes allowed (MonadExcept.ofExcept outcome : Run ω α) :=
  fun before => ⟨outcome, before, ofExcept_apply outcome before, hallowed⟩

theorem modify (f : ω → ω) : Concludes allowed (modify f : Run ω PUnit) :=
  fun before => ⟨.ok ⟨⟩, f before, rfl, fun _ himpossible => by cases himpossible⟩

theorem bind {run : Run ω α} {next : α → Run ω β} (hrun : Concludes allowed run)
    (hnext : ∀ value, Concludes allowed (next value)) : Concludes allowed (run >>= next) := by
  intro before
  obtain ⟨outcome, middle, hended, hallowed⟩ := hrun before
  rw [bind_apply, hended]
  cases outcome with
  | error failure =>
      refine ⟨.error failure, middle, proceed_error next failure middle, fun other hother => ?_⟩
      cases hother
      exact hallowed failure rfl
  | ok value => exact hnext value middle

theorem get_bind {next : ω → Run ω β} (hnext : ∀ state, Concludes allowed (next state)) :
    Concludes allowed (get >>= next) := by
  intro before
  rw [bind_apply, get_apply, proceed_ok]
  exact hnext before before

theorem on {part : ω → ν} {put : ν → ω → ω} {run : Run ν α} (hrun : Concludes allowed run) :
    Concludes allowed (Run.on part put run) := by
  intro before
  obtain ⟨outcome, changed, hended, hallowed⟩ := hrun (part before)
  refine ⟨outcome, put changed before, ?_, hallowed⟩
  rw [Run.on, hended]

theorem forM {f : β → Run ω PUnit} {items : List β}
    (hitem : ∀ item ∈ items, Concludes allowed (f item)) : Concludes allowed (items.forM f) := by
  induction items with
  | nil => exact .pure _
  | cons item items ih =>
      exact (hitem item List.mem_cons_self).bind fun _ =>
        ih fun other hother => hitem other (List.mem_cons_of_mem _ hother)

theorem ask {page : Page σ} {call : Call}
    (hanswers : ∀ s, ∃ latency answer after, page.reply s call = .answered latency answer after ∧
      ∀ failure, answer = .error failure → allowed failure) :
    Concludes allowed (Run.ask page call) := by
  intro before
  obtain ⟨latency, answer, after, hreply, hallowed⟩ := hanswers before.page
  refine ⟨answer, ⟨after, before.clock + latency⟩, ?_, hallowed⟩
  rw [Run.ask, hreply]

end Concludes

end DesktopTrial.Run
