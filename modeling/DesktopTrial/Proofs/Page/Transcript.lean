import DesktopTrial.Proofs.Harness.Lockstep

/-!
# Transcripts

A transcribed page writes down every call together with its answer, and is otherwise
the page that it was.  So whatever is done on it is done as it would be without the
transcript, and the transcript is what was asked and answered, in order.
-/

namespace DesktopTrial

/-- A call and its answer.  A query that is given up has none. -/
structure Exchange where
  call : Call
  answer : Option (Except Failure call.Answer)

/-- A page's state together with the transcript, whose last exchange is the newest. -/
structure Transcribed (σ : Type) where
  inner : σ
  transcript : List Exchange

variable {σ α β : Type}

/-- The page whose calls and answers are written down. -/
def Page.transcribed (page : Page σ) : Page (Transcribed σ) where
  reply s call :=
    match page.reply s.inner call with
    | .answered latency result after =>
        .answered latency result ⟨after, s.transcript ++ [⟨call, some result⟩]⟩
    | .pending => .pending
    | .stuck latency => .stuck latency
  abandon s locator :=
    ⟨page.abandon s.inner locator, s.transcript ++ [⟨.query locator, none⟩]⟩

namespace Moment

def untranscribed (moment : Moment (Transcribed σ)) : Moment σ :=
  ⟨moment.page.inner, moment.clock⟩

def transcript (moment : Moment (Transcribed σ)) : List Exchange := moment.page.transcript

end Moment

/-! ## The transcript changes nothing -/

theorem Page.mapState_reply_transcribed {page : Page σ} {s : Transcribed σ} {call : Call} :
    (page.transcribed.reply s call).mapState Transcribed.inner = page.reply s.inner call := by
  simp only [Page.transcribed]
  cases page.reply s.inner call <;> rfl

theorem Page.transcribed_lockstep (page : Page σ) :
    Page.Lockstep True (fun _ => True) (fun m n => m.untranscribed = n) page.transcribed
      page :=
  .of_mapState Transcribed.inner (fun _ _ => Page.mapState_reply_transcribed) fun _ _ => rfl

theorem Page.Answers.transcribed {page : Page σ} (hanswers : page.Answers) :
    page.transcribed.Answers := by
  intro s call
  obtain ⟨latency, result, after, hreply⟩ := hanswers s.inner call
  refine ⟨latency, result, ⟨after, s.transcript ++ [⟨call, some result⟩]⟩, ?_⟩
  simp [Page.transcribed, hreply]

/-! ## What is written down -/

/-- An answer of a transcribed page is one of the page, and is written down. -/
theorem Page.reply_transcribed {page : Page σ} {call : Call} {before after : Transcribed σ}
    {latency : Nat} {answer : Except Failure call.Answer}
    (hreply : page.transcribed.reply before call = .answered latency answer after) :
    page.reply before.inner call = .answered latency answer after.inner ∧
      after.transcript = before.transcript ++ [⟨call, some answer⟩] := by
  simp only [Page.transcribed] at hreply
  cases hinner : page.reply before.inner call with
  | pending => simp [hinner] at hreply
  | stuck latency => simp [hinner] at hreply
  | answered latency result inner =>
      simp only [hinner, Reply.answered.injEq] at hreply
      obtain ⟨rfl, rfl, rfl⟩ := hreply
      exact ⟨rfl, rfl⟩

theorem Run.ask_transcribed {page : Page σ} {call : Call} {before after : Moment (Transcribed σ)}
    {answer : Except Failure call.Answer}
    (hended : Run.ask page.transcribed call before = some (answer, after)) :
    after.transcript = before.transcript ++ [⟨call, some answer⟩] := by
  obtain ⟨_, hreply⟩ := Run.ask_eq_some hended
  exact (Page.reply_transcribed hreply).2

/-- Since the transcript was `start`, only allowed calls were made. -/
def Moment.MadeSince (start : List Exchange) (allowed : Call → Prop)
    (moment : Moment (Transcribed σ)) : Prop :=
  ∃ made : List Exchange, (∀ exchange ∈ made, allowed exchange.call) ∧
    moment.transcript = start ++ made

namespace Moment.MadeSince

variable {start : List Exchange} {allowed : Call → Prop}

theorem refl (moment : Moment (Transcribed σ)) : moment.MadeSince moment.transcript allowed :=
  ⟨[], by simp, by simp⟩

theorem snoc {before after : Moment (Transcribed σ)} (exchange : Exchange)
    (hmade : before.MadeSince start allowed) (hallowed : allowed exchange.call)
    (htranscript : after.transcript = before.transcript ++ [exchange]) :
    after.MadeSince start allowed := by
  obtain ⟨made, hall, hbefore⟩ := hmade
  refine ⟨made ++ [exchange], ?_, ?_⟩
  · rw [List.forall_mem_append]
    exact ⟨hall, List.forall_mem_singleton.mpr hallowed⟩
  · rw [htranscript, hbefore, List.append_assoc]

end Moment.MadeSince

/-- Work that is allowed certain calls only makes no others. -/
theorem Page.transcribed_made (page : Page σ) (start : List Exchange) (allowed : Call → Prop) :
    Page.Lockstep True allowed (fun m n => m = n ∧ m.MadeSince start allowed) page.transcribed
      page.transcribed where
  sleep := by
    rintro m _ duration ⟨rfl, hmade⟩
    exact ⟨rfl, hmade⟩
  reply := by
    rintro m _ call hcall ⟨rfl, hmade⟩
    exact .of_answered fun latency result after hreply =>
      ⟨rfl, hmade.snoc ⟨call, some result⟩ hcall (Page.reply_transcribed hreply).2⟩
  abandon := by
    rintro m _ locator duration hquery ⟨rfl, hmade⟩
    exact ⟨rfl, hmade.snoc ⟨.query locator, none⟩ hquery rfl⟩

/-! ## Conversations -/

/-- Makes calls one after the other, whatever they are answered, and writes them down. -/
def Page.converse (page : Page σ) (calls : List Call) : Run (Moment σ) (List Exchange) :=
  calls.mapM fun call => do
    let answer ← Run.attempt (Run.ask page call)
    return ⟨call, some answer⟩

/-- Makes one call, whatever it is answered, and writes it down. -/
def Page.exchange (page : Page σ) (call : Call) : Run (Moment σ) Exchange := do
  let answer ← Run.attempt (Run.ask page call)
  return ⟨call, some answer⟩

theorem Page.converse_eq (page : Page σ) (calls : List Call) :
    page.converse calls = calls.mapM page.exchange := rfl

/-- Pages in lockstep are told the same by the same calls. -/
theorem Page.Lockstep.converse {τ : Type} {hangs : Prop} {R : Moment σ → Moment τ → Prop}
    {left : Page σ} {right : Page τ} (hpages : Page.Lockstep hangs (fun _ => True) R left right)
    (calls : List Call) : Run.Lockstep hangs R (left.converse calls) (right.converse calls) :=
  .mapM fun _ _ => (hpages.ask trivial).attempt.bind fun _ => .pure _

section Converse

variable {page : Page σ} {call : Call} {before middle : Moment σ}

theorem Page.converse_cons (calls : List Call) {answer : Except Failure call.Answer}
    (hasked : Run.ask page call before = some (answer, middle)) :
    page.converse (call :: calls) before = (page.converse calls middle).map fun ended =>
      (ended.1.map (⟨call, some answer⟩ :: ·), ended.2) := by
  have hattempt : Run.attempt (Run.ask page call) before = some (.ok answer, middle) := by
    rw [Run.attempt, hasked]
  rw [converse, List.mapM_cons, Run.bind_apply, Run.bind_apply, hattempt, Run.proceed_ok,
    Run.pure_apply, Run.proceed_ok, Run.bind_apply]
  change Run.proceed _ (page.converse calls middle) = _
  cases page.converse calls middle with
  | none => rfl
  | some ended =>
      obtain ⟨outcome, after⟩ := ended
      cases outcome <;> rfl

theorem Page.converse_cons_endless (calls : List Call)
    (hasked : Run.ask page call before = none) : page.converse (call :: calls) before = none := by
  have hattempt : Run.attempt (Run.ask page call) before = none := by
    rw [Run.attempt, hasked]
  rw [converse, List.mapM_cons, Run.bind_apply, Run.bind_apply, hattempt, Run.proceed_none,
    Run.proceed_none]

/-- A conversation in which one call follows another conversation. -/
theorem Page.converse_snoc {calls : List Call} {made : List Exchange} {after : Moment σ}
    {answer : Except Failure call.Answer}
    (hmade : page.converse calls before = some (.ok made, middle))
    (hasked : Run.ask page call middle = some (answer, after)) :
    page.converse (calls ++ [call]) before =
      some (.ok (made ++ [⟨call, some answer⟩]), after) := by
  have hlast := converse_cons [] hasked
  rw [converse] at hmade hlast ⊢
  rw [List.mapM_append, Run.bind_apply, hmade, Run.proceed_ok, Run.bind_apply, hlast]
  rfl

theorem Page.exchange_eq_some {outcome : Except Failure Exchange} {after : Moment σ}
    (hended : page.exchange call before = some (outcome, after)) :
    ∃ answer, outcome = .ok ⟨call, some answer⟩ ∧ Run.ask page call before = some (answer, after) := by
  obtain ⟨answer, _, hasked, hlast⟩ := Run.attempt_bind_eq_some hended
  cases hlast
  exact ⟨answer, rfl, hasked⟩

/-- What every answered call keeps, given what was asked and answered up to it, holds at the end
of a conversation. -/
theorem Page.converse_keeps {I : List Exchange → σ → Prop}
    (hstep : ∀ {made : List Exchange} {s reached : σ} {call : Call} {latency : Nat}
      {answer : Except Failure call.Answer}, I made s →
        page.reply s call = .answered latency answer reached →
          I (made ++ [⟨call, some answer⟩]) reached)
    {calls : List Call} {after : Moment σ} {outcome : Except Failure (List Exchange)}
    (hbefore : I [] before.page)
    (hended : page.converse calls before = some (outcome, after)) :
    ∃ made, outcome = .ok made ∧ I made after.page := by
  rw [converse_eq] at hended
  refine Run.mapM_keeps (I := fun made moment => I made moment.page) ?_ hbefore hended
  intro made start reached call outcome hmade hexchange
  obtain ⟨answer, rfl, hasked⟩ := exchange_eq_some hexchange
  obtain ⟨_, hreply⟩ := Run.ask_eq_some hasked
  exact ⟨_, rfl, hstep hmade hreply⟩

/-- What was made in a conversation is its calls. -/
theorem Page.map_call_converse {calls : List Call} {made : List Exchange} {after : Moment σ}
    (hended : page.converse calls before = some (.ok made, after)) :
    made.map Exchange.call = calls := by
  rw [converse_eq] at hended
  refine Run.mapM_recovers ?_ hended
  intro call start reached exchange hexchange
  obtain ⟨_, hsame, _⟩ := exchange_eq_some hexchange
  cases hsame
  rfl

end Converse

/-! ## The first failing call -/

def failed? : Except Failure α → Option Failure
  | .error failure => some failure
  | .ok _ => none

def Exchange.failure? (exchange : Exchange) : Option Failure := exchange.answer.bind failed?

def firstFailure? (made : List Exchange) : Option Failure := made.findSome? Exchange.failure?

@[simp]
theorem firstFailure?_append (made rest : List Exchange) :
    firstFailure? (made ++ rest) = (firstFailure? made).or (firstFailure? rest) :=
  List.findSome?_append

/-- From one moment to the other these exchanges were written down, and the outcome is
a failure just when one of the calls failed: the failure of the first of them. -/
structure Wrote (made : List Exchange) (before after : Moment (Transcribed σ))
    (outcome : Except Failure α) : Prop where
  transcript : after.transcript = before.transcript ++ made
  failure : firstFailure? made = failed? outcome

namespace Wrote

variable {before middle after : Moment (Transcribed σ)} {made rest : List Exchange}

theorem nothing (moment : Moment (Transcribed σ)) (value : α) :
    Wrote [] moment moment (.ok value : Except Failure α) := ⟨by simp, rfl⟩

theorem of_ask {page : Page σ} {call : Call} {answer : Except Failure call.Answer}
    (hended : Run.ask page.transcribed call before = some (answer, after)) :
    Wrote [⟨call, some answer⟩] before after answer := by
  refine ⟨Run.ask_transcribed hended, ?_⟩
  cases answer <;> rfl

/-- Of an outcome only its failure matters. -/
theorem congr {outcome : Except Failure α} {outcome' : Except Failure β}
    (hwrote : Wrote made before after outcome) (hfailed : failed? outcome = failed? outcome') :
    Wrote made before after outcome' := ⟨hwrote.transcript, hwrote.failure.trans hfailed⟩

theorem pause {outcome : Except Failure α} (hwrote : Wrote made before after outcome)
    (duration : Nat) : Wrote made before (after.later duration after.page) outcome :=
  ⟨hwrote.transcript, hwrote.failure⟩

/-- After calls that did not fail, the first failing call is the first of the rest. -/
theorem trans {value : α} {outcome : Except Failure β}
    (hfirst : Wrote made before middle (.ok value : Except Failure α))
    (hrest : Wrote rest middle after outcome) : Wrote (made ++ rest) before after outcome := by
  constructor
  · rw [hrest.transcript, hfirst.transcript, List.append_assoc]
  · have hnone : firstFailure? made = none := hfirst.failure
    rw [firstFailure?_append, hnone, Option.none_or, hrest.failure]

end Wrote

end DesktopTrial
