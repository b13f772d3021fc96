import DesktopTrial.Proofs.Model.Pool
import DesktopTrial.Proofs.Pool.Traffic
import Mathlib.Data.Finset.Card

/-!
# Pages of a pool do not share anything

However the calls on the pages of a model pool are mixed, every page is in the state that
its own calls would have brought a fresh page of its own to, and answers accordingly.  The
pool counts the pages that it handed out and those that were asked to close, each once.  A
page that was closed stays as it is.
-/

namespace DesktopTrial.Model

variable {app : App} {failing : Bool} {made : List Exchange} {call : Call} {latency : Nat}

/-! ## What calls make of a page -/

/-- A fresh page that is asked these calls answers so, and is then in this state. -/
def Reached (app : App) (made : List Exchange) (s : PageState) : Prop :=
  ∃ clock, (page app).converse (made.map Exchange.call) ⟨.fresh app, 0⟩ =
    some (.ok made, ⟨s, clock⟩)

theorem Reached.fresh (app : App) : Reached app [] (.fresh app) := ⟨0, rfl⟩

theorem Reached.reply {before after : PageState} {answer : Except Failure call.Answer}
    (hreached : Reached app made before)
    (hreply : (page app).reply before call = .answered latency answer after) :
    Reached app (made ++ [⟨call, some answer⟩]) after := by
  obtain ⟨clock, hmade⟩ := hreached
  have hasked : Run.ask (page app) call ⟨before, clock⟩ =
      some (answer, ⟨after, clock + latency⟩) := by
    rw [Run.ask, hreply]
  refine ⟨clock + latency, ?_⟩
  rw [List.map_append]
  exact Page.converse_snoc hmade hasked

/-- A page is closed once it was asked to close, and remembers the first time as the last thing
that it did. -/
structure PageState.Closing (made : List Exchange) (s : PageState) : Prop where
  closed : s.closed = true ↔ ∃ exchange ∈ made, exchange.call = .close
  history : ∃ before, "close" ∉ before ∧
    s.history = before ++ if s.closed then ["close"] else []

namespace PageState.Closing

theorem fresh (app : App) : Closing [] (.fresh app) where
  closed := by
    constructor
    · intro hclosed
      cases hclosed
    · rintro ⟨_, hmember, _⟩
      cases hmember
  history := ⟨[], List.not_mem_nil, rfl⟩

theorem still_open {s : PageState} (hclosing : Closing made s) (hopen : s.closed = false) :
    "close" ∉ s.history := by
  obtain ⟨before, hbefore, hhistory⟩ := hclosing.history
  rwa [hhistory, hopen, if_neg Bool.false_ne_true, List.append_nil]

theorem unchanged {exchange : Exchange} {s : PageState} (hclosing : Closing made s)
    (hclosed : s.closed = true) : Closing (made ++ [exchange]) s where
  closed := by
    obtain ⟨earlier, hmember, hclose⟩ := hclosing.closed.mp hclosed
    exact iff_of_true hclosed ⟨earlier, List.mem_append_left _ hmember, hclose⟩
  history := hclosing.history

theorem own {exchange : Exchange} {before after : PageState} (hclosing : Closing made before)
    (hopen : before.closed = false) (hturn : before.Turn app exchange after)
    (hown : exchange.call.isOwn = true) : Closing (made ++ [exchange]) after where
  closed := by
    rw [hturn.closed_eq hown, hclosing.closed]
    constructor
    · rintro ⟨earlier, hmember, hclose⟩
      exact ⟨earlier, List.mem_append_left _ hmember, hclose⟩
    · rintro ⟨other, hmember, hclose⟩
      rcases List.mem_append.mp hmember with hbefore | hlast
      · exact ⟨other, hbefore, hclose⟩
      · rw [← List.mem_singleton.mp hlast, hclose] at hown
        cases hown
  history := by
    obtain ⟨entries, hentries, hafter⟩ := hturn.history hown
    refine ⟨before.history ++ entries, ?_, ?_⟩
    · rw [List.mem_append]
      exact not_or.mpr ⟨hclosing.still_open hopen, hentries⟩
    · rw [hturn.closed_eq hown, hopen, if_neg Bool.false_ne_true, List.append_nil, hafter]

theorem close {before : PageState} {answer : Except Failure Unit}
    (hclosing : Closing made before) (hopen : before.closed = false) :
    Closing (made ++ [⟨.close, some answer⟩]) ({ before with closed := true }.note "close") where
  closed := iff_of_true rfl ⟨_, List.mem_append_right _ List.mem_cons_self, rfl⟩
  history := ⟨before.history, hclosing.still_open hopen, rfl⟩

theorem turn {exchange : Exchange} {before after : PageState} (hclosing : Closing made before)
    (hopen : before.closed = false) (hturn : before.Turn app exchange after) :
    Closing (made ++ [exchange]) after := by
  cases hown : exchange.call.isOwn with
  | true => exact hclosing.own hopen hturn hown
  | false =>
      cases hturn with
      | visit _ => cases hown
      | install _ => cases hown
      | close => exact hclosing.close hopen
      | other _ himpossible _ _ =>
          rw [himpossible] at hown
          cases hown

theorem reply {before after : PageState} {answer : Except Failure call.Answer}
    (hclosing : Closing made before)
    (hreply : (page app).reply before call = .answered latency answer after) :
    Closing (made ++ [⟨call, some answer⟩]) after := by
  obtain ⟨hclosed, hreply⟩ | ⟨hopen, hreply⟩ := reply_cases hreply
  · rw [closedReply_unchanged hreply]
    exact hclosing.unchanged hclosed
  · exact hclosing.turn hopen (openReply_turn hreply)

end PageState.Closing

theorem Reached.closing {s : PageState} (hreached : Reached app made s) : s.Closing made := by
  obtain ⟨clock, hmade⟩ := hreached
  obtain ⟨_, hsame, hclosing⟩ := (page app).converse_keeps
    (fun hclosing hreply => PageState.Closing.reply hclosing hreply) (.fresh app) hmade
  cases hsame
  exact hclosing

/-! ## What requests make of a pool -/

/-- The pages of a pool, and its counts, are what was asked of it and answered. -/
structure PoolState.Accounts (app : App) (dealings : List (Dealing Nat)) (s : PoolState) :
    Prop where
  handles : handedOut dealings = List.range s.opened
  pages : ∀ handle state, s.pages[handle]? = some state →
    Reached app (exchangesWith handle dealings) state
  unborn : ∀ handle, s.opened ≤ handle → exchangesWith handle dealings = []
  released : s.released = (askedToClose dealings).toFinset.card

namespace PoolState.Accounts

variable {dealings : List (Dealing Nat)} {s : PoolState}

theorem empty (app : App) : Accounts app [] {} where
  handles := rfl
  pages _ _ hstate := by cases hstate
  unborn _ _ := rfl
  released := rfl

/-- A request that is refused changes nothing. -/
theorem refused (haccounts : Accounts app dealings s) (viewport : Size) (failure : Failure) :
    Accounts app (dealings ++ [.opened viewport (.error failure)]) s where
  handles := by simp [haccounts.handles]
  pages handle state hstate := by simpa using haccounts.pages handle state hstate
  unborn handle hhandle := by simpa using haccounts.unborn handle hhandle
  released := by simpa using haccounts.released

/-- A fresh page was not asked anything. -/
theorem opened (haccounts : Accounts app dealings s) (viewport : Size) :
    Accounts app (dealings ++ [.opened viewport (.ok s.opened)])
      { s with pages := s.pages ++ [.fresh app] } where
  handles := by simp [haccounts.handles, PoolState.opened, List.range_succ]
  pages handle state hstate := by
    rw [exchangesWith_snoc, Dealing.with?_opened, Option.toList_none, List.append_nil]
    rcases Nat.lt_or_ge handle s.pages.length with hlt | hge
    · rw [List.getElem?_append_left hlt] at hstate
      exact haccounts.pages handle state hstate
    · rw [List.getElem?_append_right hge, List.getElem?_singleton] at hstate
      split at hstate
      · cases hstate
        rw [haccounts.unborn handle hge]
        exact .fresh app
      · cases hstate
  unborn handle hhandle := by
    rw [exchangesWith_snoc, Dealing.with?_opened, Option.toList_none, List.append_nil]
    apply haccounts.unborn
    simp only [PoolState.opened, List.length_append] at hhandle ⊢
    omega
  released := by simpa using haccounts.released

theorem closed_iff (haccounts : Accounts app dealings s) {handle : Nat} {state : PageState}
    (hstate : s.pages[handle]? = some state) :
    state.closed = true ↔ handle ∈ askedToClose dealings := by
  rw [mem_askedToClose_iff]
  exact (haccounts.pages handle state hstate).closing.closed

/-- Of all calls, the first that asks a page to close releases it. -/
theorem released_called (haccounts : Accounts app dealings s) {handle : Nat} {exchange : Exchange}
    {before after : PageState} (hbefore : s.pages[handle]? = some before)
    (hafter : after.closed = true ↔ handle ∈ askedToClose (dealings ++ [.asked handle exchange])) :
    (s.update handle before after).released =
      (askedToClose (dealings ++ [.asked handle exchange])).toFinset.card := by
  have hclosed := haccounts.closed_iff hbefore
  rw [askedToClose_snoc] at hafter ⊢
  rw [PoolState.update]
  cases hasked : (Dealing.asked handle exchange).closed? with
  | none =>
      rw [hasked, Option.toList_none, List.append_nil] at hafter
      have hsame : after.closed = before.closed := Bool.eq_iff_iff.mpr (hafter.trans hclosed.symm)
      simp [hsame, haccounts.released]
  | some other =>
      obtain ⟨_, hdealing, _⟩ := Dealing.closed?_eq_some_iff.mp hasked
      cases hdealing
      have hnow : after.closed = true := by
        rw [hafter, hasked]
        exact List.mem_append_right _ List.mem_cons_self
      rw [Option.toList_some, List.toFinset_append]
      by_cases hearlier : handle ∈ askedToClose dealings
      · have hbefore' : before.closed = true := hclosed.mpr hearlier
        have hmember : handle ∈ (askedToClose dealings).toFinset := List.mem_toFinset.mpr hearlier
        simp [hbefore', haccounts.released, hmember]
      · have hbefore' : before.closed = false :=
          Bool.eq_false_iff.mpr fun hbefore' => hearlier (hclosed.mp hbefore')
        have hmember : handle ∉ (askedToClose dealings).toFinset :=
          fun hmember => hearlier (List.mem_toFinset.mp hmember)
        simp [hnow, hbefore', haccounts.released, Finset.union_comm _ {handle},
          Finset.card_insert_of_notMem hmember]

theorem called (haccounts : Accounts app dealings s) {handle : Nat} {before after : PageState}
    {answer : Except Failure call.Answer} (hbefore : s.pages[handle]? = some before)
    (hreply : (page app).reply before call = .answered latency answer after) :
    Accounts app (dealings ++ [.asked handle ⟨call, some answer⟩])
      (s.update handle before after) := by
  have hreached := (haccounts.pages handle before hbefore).reply hreply
  have hlength : handle < s.opened := (List.getElem?_eq_some_iff.mp hbefore).1
  constructor
  case handles => simp [haccounts.handles]
  case pages =>
    intro other state hstate
    rw [PoolState.update_pages hbefore] at hstate
    rw [exchangesWith_snoc, Dealing.with?_asked]
    by_cases hother : other = handle
    · rw [if_pos hother] at hstate
      cases hstate
      rw [hother, if_pos rfl]
      exact hreached
    · rw [if_neg hother] at hstate
      rw [if_neg (Ne.symm hother), Option.toList_none, List.append_nil]
      exact haccounts.pages other state hstate
  case unborn =>
    intro other hother
    rw [PoolState.update_opened] at hother
    have hne : handle ≠ other := Nat.ne_of_lt (Nat.lt_of_lt_of_le hlength hother)
    simp [haccounts.unborn other hother, hne]
  case released =>
    apply haccounts.released_called hbefore
    rw [mem_askedToClose_iff, exchangesWith_snoc, Dealing.with?_asked, if_pos rfl]
    exact hreached.closing.closed

theorem serve {requests : List (Request Nat)} {outcome : Except Failure (List (Dealing Nat))}
    {after : Moment PoolState}
    (hended : (pool app failing).serve requests ⟨{}, 0⟩ = some (outcome, after)) :
    ∃ dealings, outcome = .ok dealings ∧ Accounts app dealings after.page := by
  refine Pool.serve_keeps (I := Accounts app) ?_ ?_ (empty app) hended
  · intro dealings s reached viewport opened haccounts hopened
    cases failing with
    | true =>
        cases hopened
        exact haccounts.refused viewport _
    | false =>
        cases hopened
        exact haccounts.opened viewport
  · intro dealings s reached handle call latency answer haccounts hreply
    obtain ⟨state, after, hstate, hanswer, rfl⟩ := pageOf_answered hreply
    exact haccounts.called hstate hanswer

/-- No page is released that was not handed out. -/
theorem released_le (haccounts : Accounts app dealings s) : s.released ≤ s.opened := by
  have hsubset : (askedToClose dealings).toFinset ⊆ Finset.range s.opened := by
    intro handle hmember
    rw [List.mem_toFinset, mem_askedToClose_iff] at hmember
    obtain ⟨exchange, hexchange, _⟩ := hmember
    rw [Finset.mem_range]
    by_contra hunborn
    rw [haccounts.unborn handle (Nat.le_of_not_lt hunborn)] at hexchange
    cases hexchange
  calc
    s.released = (askedToClose dealings).toFinset.card := haccounts.released
    _ ≤ (Finset.range s.opened).card := Finset.card_le_card hsubset
    _ = s.opened := Finset.card_range s.opened

theorem handle_state (haccounts : Accounts app dealings s) {handle : Nat}
    (hhanded : handle ∈ handedOut dealings) : ∃ state, s.pages[handle]? = some state := by
  rw [haccounts.handles, List.mem_range] at hhanded
  exact ⟨_, List.getElem?_eq_getElem hhanded⟩

end PoolState.Accounts

/-- A page of the pool is as its own calls alone would have made it, and goes on to answer as it
would on its own, or not at all. -/
def AsIfAlone (app : App) (handle : Nat) (made : List Exchange) (moment : Moment PoolState) :
    Prop :=
  ∃ alone : Moment PageState,
    (page app).converse (made.map Exchange.call) ⟨.fresh app, 0⟩ = some (.ok made, alone) ∧
    moment.page.pages[handle]? = some alone.page ∧
    ∀ call, (Run.ask (pageOf app handle) call moment).map (·.1) =
      (Run.ask (page app) call alone).map (·.1)

theorem Reached.asIfAlone {handle : Nat} {moment : Moment PoolState} {state : PageState}
    (hreached : Reached app made state) (hstate : moment.page.pages[handle]? = some state) :
    AsIfAlone app handle made moment := by
  obtain ⟨clock, hmade⟩ := hreached
  refine ⟨⟨state, clock⟩, hmade, hstate, ?_⟩
  intro call
  rw [Run.ask, Run.ask, pageOf_reply hstate]
  cases (page app).reply state call <;> rfl

/-- A page refuses every call but another closing, does not change any more, whatever is asked of
the pool, and remembers as the last thing that it was closed, and that once. -/
structure ClosedForGood (app : App) (failing : Bool) (handle : Nat) (moment : Moment PoolState) :
    Prop where
  refuses : ∀ call, call ≠ .close →
    ∃ later, Run.ask (pageOf app handle) call moment = some (.error closedFailure, later)
  stays : ∀ requests outcome later, (pool app failing).serve requests moment =
    some (outcome, later) → later.page.pages[handle]? = moment.page.pages[handle]?
  history : ∃ state before, moment.page.pages[handle]? = some state ∧
    state.history = before ++ ["close"] ∧ "close" ∉ before

theorem closedReply_refuses (s : PageState) (hclose : call ≠ .close) :
    ∃ latency, closedReply app s call = .answered latency (.error closedFailure) s := by
  cases call with
  | close => exact absurd rfl hclose
  | _ => exact ⟨_, rfl⟩

theorem closed_stays {handle : Nat} {state : PageState} {before after : Moment PoolState}
    {requests : List (Request Nat)} {outcome : Except Failure (List (Dealing Nat))}
    (hclosed : state.closed = true) (hstate : before.page.pages[handle]? = some state)
    (hended : (pool app failing).serve requests before = some (outcome, after)) :
    after.page.pages[handle]? = some state := by
  have hkept : ∃ dealings, outcome = .ok dealings ∧
      after.page.pages[handle]? = some state := by
    refine Pool.serve_keeps (I := fun _ s => s.pages[handle]? = some state) ?_ ?_ hstate hended
    · intro dealings s reached viewport opened hstate hopened
      cases failing with
      | true =>
          cases hopened
          exact hstate
      | false =>
          cases hopened
          have hlength : handle < s.pages.length := (List.getElem?_eq_some_iff.mp hstate).1
          rw [List.getElem?_append_left hlength]
          exact hstate
    · intro dealings s reached other call latency answer hstate hreply
      obtain ⟨before', after', hbefore, hanswer, rfl⟩ := pageOf_answered hreply
      rw [PoolState.update_pages hbefore]
      by_cases hother : handle = other
      · rw [← hother, hstate] at hbefore
        cases hbefore
        simp only [page, hclosed, if_true] at hanswer
        rw [if_pos hother, closedReply_unchanged hanswer]
      · rw [if_neg hother]
        exact hstate
  obtain ⟨_, _, hstill⟩ := hkept
  exact hstill

theorem Reached.closedForGood {handle : Nat} {moment : Moment PoolState} {state : PageState}
    (hreached : Reached app made state) (hclosed : state.closed = true)
    (hstate : moment.page.pages[handle]? = some state) :
    ClosedForGood app failing handle moment where
  refuses call hclose := by
    obtain ⟨latency, hreply⟩ := closedReply_refuses state hclose
    have hpage : (page app).reply state call = closedReply app state call := by
      simp [page, hclosed]
    rw [Run.ask, pageOf_reply hstate, hpage, hreply]
    exact ⟨_, rfl⟩
  stays requests outcome later hended := by
    rw [closed_stays hclosed hstate hended, hstate]
  history := by
    obtain ⟨before, hbefore, hhistory⟩ := hreached.closing.history
    rw [hclosed, if_pos rfl] at hhistory
    exact ⟨state, before, hstate, hhistory, hbefore⟩

/-- However requests to a model pool are mixed, every page that was handed out is as if it was
alone, and closed for good once it was asked to close; the pool counts the pages that it handed
out and, once each, those that were asked to close. -/
theorem pages_share_nothing {requests : List (Request Nat)}
    {outcome : Except Failure (List (Dealing Nat))} {after : Moment PoolState}
    (hended : (pool app failing).serve requests ⟨{}, 0⟩ = some (outcome, after)) :
    ∃ dealings, outcome = .ok dealings ∧ dealings.map Dealing.request = requests ∧
      (∀ handle ∈ handedOut dealings,
        AsIfAlone app handle (exchangesWith handle dealings) after ∧
        (handle ∈ askedToClose dealings → ClosedForGood app failing handle after)) ∧
      (handedOut dealings).Nodup ∧ after.page.opened = (handedOut dealings).length ∧
      after.page.released = (askedToClose dealings).toFinset.card ∧
      after.page.released ≤ after.page.opened := by
  obtain ⟨dealings, rfl, haccounts⟩ := PoolState.Accounts.serve hended
  refine ⟨dealings, rfl, Pool.map_request_serve hended, ?_, ?_, ?_, haccounts.released,
    haccounts.released_le⟩
  · intro handle hhanded
    obtain ⟨state, hstate⟩ := haccounts.handle_state hhanded
    have hreached := haccounts.pages handle state hstate
    refine ⟨hreached.asIfAlone hstate, fun hasked => ?_⟩
    exact hreached.closedForGood ((haccounts.closed_iff hstate).mpr hasked) hstate
  · rw [haccounts.handles]
    exact List.nodup_range
  · rw [haccounts.handles, List.length_range]

/-- Two pages in turn, of which the first is closed twice and then still asked. -/
def sharedRequests : List (Request Nat) :=
  [.page ⟨1280, 800⟩, .page ⟨1280, 800⟩, .call 0 (.navigate "http://h/desktop"),
   .call 1 (.install (Dictionary.ofList [("auth_token", "t")])), .call 0 .close,
   .call 1 (.navigate "http://h/desktop"), .call 0 .close, .call 0 .screenshot,
   .call 1 .currentUrl]

/-- The first page is closed for good and released once, and the second does not notice. -/
theorem desktop_pages_share_nothing :
    ∃ dealings after, (pool desktop false).serve sharedRequests ⟨{}, 0⟩ =
        some (.ok dealings, after) ∧
      after.page.opened = 2 ∧ after.page.released = 1 ∧
      ClosedForGood desktop false 0 after ∧
      AsIfAlone desktop 1 (exchangesWith 1 dealings) after := by
  have hshared : (((pool desktop false).serve sharedRequests ⟨{}, 0⟩).map fun ended =>
      (ended.1.toOption.map fun dealings => (handedOut dealings, askedToClose dealings))) =
        some (some ([0, 1], [0, 0])) := by
    decide +kernel
  obtain ⟨⟨outcome, after⟩, hended, hdealt⟩ := Option.map_eq_some_iff.mp hshared
  obtain ⟨dealings, rfl, -, hpages, -, hopened, hreleased, -⟩ := pages_share_nothing hended
  obtain ⟨hhanded, hasked⟩ := Prod.mk.inj (Option.some.inj hdealt)
  rw [hhanded] at hpages hopened
  rw [hasked] at hpages hreleased
  exact ⟨dealings, after, hended, hopened, hreleased, (hpages 0 (by decide)).2 (by decide),
    (hpages 1 (by decide)).1⟩

end DesktopTrial.Model
