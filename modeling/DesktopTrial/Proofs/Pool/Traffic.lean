import DesktopTrial.Proofs.Page.Transcript

/-!
# The traffic of a pool

Whoever shares a pool asks it for pages and makes calls on the pages that were handed
out, in any order: one after the other as they take effect.  What was asked and answered
is written down, and can be read for every page on its own.
-/

namespace DesktopTrial

variable {σ η : Type}

inductive Request (η : Type) where
  /-- A fresh page. -/
  | page (viewport : Size)
  /-- A call on a page that was handed out. -/
  | call (handle : η) (call : Call)

inductive Dealing (η : Type) where
  | opened (viewport : Size) (outcome : Except Failure η)
  | asked (handle : η) (exchange : Exchange)

namespace Dealing

def request : Dealing η → Request η
  | .opened viewport _ => .page viewport
  | .asked handle exchange => .call handle exchange.call

def handedOut? : Dealing η → Option η
  | .opened _ (.ok handle) => some handle
  | _ => none

def with? [DecidableEq η] (handle : η) : Dealing η → Option Exchange
  | .asked other exchange => if other = handle then some exchange else none
  | .opened _ _ => none

def closed? : Dealing η → Option η
  | .asked handle ⟨.close, _⟩ => some handle
  | _ => none

section Projections

variable (viewport : Size) (handle other : η) (exchange : Exchange)

@[simp]
theorem handedOut?_ok : (opened viewport (.ok handle)).handedOut? = some handle := rfl

@[simp]
theorem handedOut?_error (failure : Failure) :
    (opened viewport (.error failure) : Dealing η).handedOut? = none := rfl

@[simp]
theorem handedOut?_asked : (asked handle exchange).handedOut? = none := rfl

@[simp]
theorem with?_opened [DecidableEq η] (outcome : Except Failure η) :
    (opened viewport outcome).with? handle = none := rfl

@[simp]
theorem with?_asked [DecidableEq η] :
    (asked other exchange).with? handle = if other = handle then some exchange else none := rfl

@[simp]
theorem closed?_opened (outcome : Except Failure η) : (opened viewport outcome).closed? = none :=
  rfl

end Projections

theorem with?_eq_some_iff [DecidableEq η] {dealing : Dealing η} {handle : η}
    {exchange : Exchange} :
    dealing.with? handle = some exchange ↔ dealing = .asked handle exchange := by
  cases dealing with
  | opened viewport outcome => simp [with?]
  | asked other made =>
      by_cases hother : other = handle <;> simp [with?, hother]

theorem closed?_eq_some_iff {dealing : Dealing η} {handle : η} :
    dealing.closed? = some handle ↔
      ∃ exchange, dealing = .asked handle exchange ∧ exchange.call = .close := by
  constructor
  · intro hclosed
    cases dealing with
    | opened viewport outcome => cases hclosed
    | asked other made =>
        obtain ⟨call, answer⟩ := made
        cases call with
        | close =>
            cases hclosed
            exact ⟨_, rfl, rfl⟩
        | _ => cases hclosed
  · rintro ⟨⟨call, answer⟩, rfl, hclose⟩
    cases hclose
    rfl

end Dealing

def handedOut (dealings : List (Dealing η)) : List η := dealings.filterMap Dealing.handedOut?

/-- What was asked of a page and answered, in order. -/
def exchangesWith [DecidableEq η] (handle : η) (dealings : List (Dealing η)) : List Exchange :=
  dealings.filterMap (Dealing.with? handle)

/-- The pages that were asked to close, in order and as often as they were asked. -/
def askedToClose (dealings : List (Dealing η)) : List η := dealings.filterMap Dealing.closed?

section Dealings

variable (dealings : List (Dealing η)) (dealing : Dealing η)

@[simp]
theorem handedOut_snoc :
    handedOut (dealings ++ [dealing]) = handedOut dealings ++ dealing.handedOut?.toList := by
  rw [handedOut, List.filterMap_append]
  cases hhanded : dealing.handedOut? <;> simp [handedOut, hhanded]

@[simp]
theorem exchangesWith_snoc [DecidableEq η] (handle : η) :
    exchangesWith handle (dealings ++ [dealing]) =
      exchangesWith handle dealings ++ (dealing.with? handle).toList := by
  rw [exchangesWith, List.filterMap_append]
  cases hwith : dealing.with? handle <;> simp [exchangesWith, hwith]

@[simp]
theorem askedToClose_snoc :
    askedToClose (dealings ++ [dealing]) = askedToClose dealings ++ dealing.closed?.toList := by
  rw [askedToClose, List.filterMap_append]
  cases hclosed : dealing.closed? <;> simp [askedToClose, hclosed]

/-- The pages that were asked to close are those that one of the exchanges closed. -/
theorem mem_askedToClose_iff [DecidableEq η] {handle : η} :
    handle ∈ askedToClose dealings ↔
      ∃ exchange ∈ exchangesWith handle dealings, exchange.call = .close := by
  simp only [askedToClose, exchangesWith, List.mem_filterMap, Dealing.closed?_eq_some_iff,
    Dealing.with?_eq_some_iff]
  constructor
  · rintro ⟨dealing, hmember, exchange, rfl, hclose⟩
    exact ⟨exchange, ⟨_, hmember, rfl⟩, hclose⟩
  · rintro ⟨exchange, ⟨dealing, hmember, rfl⟩, hclose⟩
    exact ⟨_, hmember, exchange, rfl, hclose⟩

end Dealings

/-- Deals with one request, whatever it is answered. -/
def Pool.deal (pool : Pool σ η) : Request η → Run (Moment σ) (Dealing η)
  | .page viewport => fun moment =>
      match pool.open moment.page viewport with
      | (outcome, after) => some (.ok (.opened viewport outcome), ⟨after, moment.clock⟩)
  | .call handle call => do
      return .asked handle (← (pool.page handle).exchange call)

/-- Deals with requests in the order in which they take effect. -/
def Pool.serve (pool : Pool σ η) (requests : List (Request η)) :
    Run (Moment σ) (List (Dealing η)) := requests.mapM pool.deal

section Serve

variable {pool : Pool σ η} {before after : Moment σ}

/-- A request hands out a page or is a call that is answered. -/
theorem Pool.deal_eq_some {request : Request η} {outcome : Except Failure (Dealing η)}
    (hended : pool.deal request before = some (outcome, after)) :
    ∃ dealing, outcome = .ok dealing ∧ dealing.request = request ∧
      ((∃ viewport opened, dealing = .opened viewport opened ∧
        pool.open before.page viewport = (opened, after.page)) ∨
      ∃ handle call answer latency, dealing = .asked handle ⟨call, some answer⟩ ∧
        (pool.page handle).reply before.page call = .answered latency answer after.page) := by
  cases request with
  | page viewport =>
      cases hended
      exact ⟨_, rfl, rfl, .inl ⟨viewport, _, rfl, rfl⟩⟩
  | call handle call =>
      obtain ⟨exchange, middle, hexchange, hlast⟩ := Run.bind_eq_some_of_ok
        (fun _ _ hexchange => by
          obtain ⟨_, hok, _⟩ := Page.exchange_eq_some hexchange
          exact ⟨_, hok⟩) hended
      obtain ⟨answer, hsame, hasked⟩ := Page.exchange_eq_some hexchange
      obtain ⟨latency, hreply⟩ := Run.ask_eq_some hasked
      cases hsame
      cases hlast
      exact ⟨_, rfl, rfl, .inr ⟨handle, call, answer, latency, rfl, hreply⟩⟩

/-- What a request keeps, given the dealings up to it, holds after any requests. -/
theorem Pool.serve_keeps {I : List (Dealing η) → σ → Prop}
    (hopen : ∀ {dealings : List (Dealing η)} {s reached : σ} {viewport : Size}
      {opened : Except Failure η}, I dealings s → pool.open s viewport = (opened, reached) →
        I (dealings ++ [.opened viewport opened]) reached)
    (hcall : ∀ {dealings : List (Dealing η)} {s reached : σ} {handle : η} {call : Call}
      {latency : Nat} {answer : Except Failure call.Answer}, I dealings s →
        (pool.page handle).reply s call = .answered latency answer reached →
          I (dealings ++ [.asked handle ⟨call, some answer⟩]) reached)
    {requests : List (Request η)} {outcome : Except Failure (List (Dealing η))}
    (hbefore : I [] before.page)
    (hended : pool.serve requests before = some (outcome, after)) :
    ∃ dealings, outcome = .ok dealings ∧ I dealings after.page := by
  refine Run.mapM_keeps (I := fun dealings moment => I dealings moment.page) ?_ hbefore hended
  intro dealings start reached request outcome hkept hdealt
  obtain ⟨dealing, rfl, -, ⟨viewport, opened, rfl, hopened⟩ |
    ⟨handle, call, answer, latency, rfl, hreply⟩⟩ := deal_eq_some hdealt
  · exact ⟨_, rfl, hopen hkept hopened⟩
  · exact ⟨_, rfl, hcall hkept hreply⟩

theorem Pool.map_request_serve {requests : List (Request η)} {dealings : List (Dealing η)}
    (hended : pool.serve requests before = some (.ok dealings, after)) :
    dealings.map Dealing.request = requests := by
  refine Run.mapM_recovers ?_ hended
  intro request start reached dealing hdealt
  obtain ⟨_, hsame, hrequest, _⟩ := deal_eq_some hdealt
  cases hsame
  exact hrequest

end Serve

end DesktopTrial
