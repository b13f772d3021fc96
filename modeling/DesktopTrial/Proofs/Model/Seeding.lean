import DesktopTrial.Proofs.Model.Storage
import DesktopTrial.Proofs.Session.Profile

/-!
# Installing a session again

An installation changes a page only if other entries were installed before it.  A page counts the
installations that do, and remembers each of them once.  So a session can be installed again,
however it is written down, and the page stays as it is.
-/

namespace DesktopTrial

/-! ## Installations that change something -/

/-- Does the exchange install entries, and others than were installed? -/
def changesInstalled : Option Storage × Exchange → Bool
  | (installed, exchange) => exchange.installed?.any fun entries => installed ≠ some entries

/-- How many of these exchanges with a fresh page changed what was installed. -/
def installations (made : List Exchange) : Nat := (withInstalled none made).countP changesInstalled

theorem installations_snoc (made : List Exchange) (exchange : Exchange) :
    installations (made ++ [exchange]) =
      installations made + (changesInstalled (lastInstalled? made, exchange)).toNat := by
  rw [installations, withInstalled_snoc, Option.or_none, List.countP_append, List.countP_singleton]
  cases changesInstalled (lastInstalled? made, exchange) <;> rfl

namespace Model

variable {app : App} {made : List Exchange} {exchange : Exchange} {call : Call}
  {before after : PageState} {latency : Nat}

def installNote : String := "install_storage_seed"

namespace PageState

/-- From one state to the other the page counted and remembered so many installations. -/
structure Counted (installations : Nat) (before after : PageState) : Prop where
  installs : after.installs = before.installs + installations
  history : after.history.count installNote = before.history.count installNote + installations

namespace Counted

theorem nothing (s : PageState) : Counted 0 s s := ⟨rfl, rfl⟩

/-- Whatever else is remembered counts as no installation. -/
theorem other {entries : List String} (hinstalls : after.installs = before.installs)
    (hhistory : after.history = before.history ++ entries) (hentries : installNote ∉ entries) :
    Counted 0 before after where
  installs := hinstalls
  history := by rw [hhistory, List.count_append, List.count_eq_zero.mpr hentries]

theorem noted {entry : String} (hentry : installNote ≠ entry) : Counted 0 before (before.note entry) :=
  .other rfl rfl (mt List.mem_singleton.mp hentry)

theorem click (p : Point) (button : Button) : Counted 0 before (before.click app p button) := by
  obtain ⟨entries, hentries, hhistory⟩ :=
    click_history installNote (by decide) (by decide) app p button before
  obtain ⟨_, _, hclick⟩ := before.click_frame app button (p := p)
  exact .other (by rw [hclick]) hhistory hentries

theorem install (entries : Storage) :
    Counted (changesInstalled (before.installed, ⟨.install entries, some (.ok ())⟩)).toNat before
      (before.install entries) := by
  have hchanges : changesInstalled (before.installed, ⟨.install entries, some (.ok ())⟩) =
      decide (before.installed ≠ some entries) := rfl
  rw [hchanges, PageState.install]
  by_cases hsame : before.installed = some entries
  · rw [if_pos hsame, decide_eq_false (not_not.mpr hsame)]
    exact .nothing before
  · rw [if_neg hsame, decide_eq_true hsame]
    exact ⟨rfl, List.count_append.trans (congrArg _ List.count_singleton_self)⟩

/-- Every answered call counts as one installation if it changes what is installed, and as none
otherwise. -/
theorem reply {answer : Except Failure call.Answer}
    (hreply : (page app).reply before call = .answered latency answer after) :
    Counted (changesInstalled (before.installed, ⟨call, some answer⟩)).toNat before after := by
  obtain ⟨-, hreply⟩ | ⟨-, hreply⟩ := reply_cases hreply
  · have hquiet := closedReply_quiet before.url hreply
    rw [closedReply_unchanged hreply, changesInstalled, hquiet.installed]
    exact .nothing before
  cases call with
  | navigate url =>
      have hnote : installNote ≠ "navigate:" ++ Url.path url := ne_append (by decide) _
      obtain ⟨-, rfl, rfl⟩ | ⟨rfl, rfl⟩ := openReply_navigate hreply
      · exact .other rfl rfl (mt List.mem_singleton.mp hnote)
      · exact .noted hnote
  | currentUrl =>
      cases hreply
      exact .nothing before
  | install entries =>
      cases hreply
      exact .install entries
  | readStorage key =>
      rw [openReply_readStorage hreply]
      exact .nothing before
  | query locator =>
      obtain ⟨_, rfl⟩ := queryReply_frame hreply
      exact ⟨rfl, rfl⟩
  | click p button =>
      cases hreply
      exact .click p button
  | screenshot =>
      cases hreply
      have hnote : installNote ≠ "screenshot" := by decide
      exact .noted hnote
  | close =>
      cases hreply
      have hnote : installNote ≠ "close" := by decide
      exact .other rfl rfl (mt List.mem_singleton.mp hnote)

end Counted

/-- A page counts and remembers the installations among these exchanges that changed something. -/
structure Counts (made : List Exchange) (s : PageState) : Prop where
  installed : s.installed = lastInstalled? made
  installs : s.installs = installations made
  history : s.history.count installNote = installations made

namespace Counts

theorem fresh (app : App) : Counts [] (.fresh app) := ⟨rfl, rfl, rfl⟩

theorem reply {answer : Except Failure call.Answer} (hcounts : Counts made before)
    (hreply : (page app).reply before call = .answered latency answer after) :
    Counts (made ++ [⟨call, some answer⟩]) after := by
  have hcounted := Counted.reply hreply
  rw [hcounts.installed] at hcounted
  constructor
  case installed => exact PageState.installed_reply hcounts.installed hreply
  case installs => rw [installations_snoc, hcounted.installs, hcounts.installs]
  case history => rw [installations_snoc, hcounted.history, hcounts.history]

end Counts

theorem install_install (entries : Storage) (s : PageState) :
    (s.install entries).install entries = s.install entries :=
  if_pos (s.installed_install entries)

end PageState

/-! ## Sessions that are written down in different ways -/

/-- At this moment a session can be installed, if it is valid, and installed again as it is
written down in any other way: the entries are the same, and the page stays as it is. -/
def SeedsOnce (app : App) (moment : Moment PageState) : Prop :=
  ∀ (token : String) (profile profile' : Seed.Profile),
    (∀ key, profile.value? key = profile'.value? key) →
      (profile.seed token).entries = (profile'.seed token).entries ∧
      ∃ outcome seeded, (profile.seed token).install (page app) moment = some (outcome, seeded) ∧
        (outcome = .ok () ↔ ∃ entries, (profile.seed token).entries = .ok entries) ∧
        (profile'.seed token).install (page app) seeded = some (outcome, seeded)

theorem install_of_invalid {seed : Seed} {failure : Failure}
    (hentries : seed.entries = .error failure) (moment : Moment PageState) :
    seed.install (page app) moment = some (.error failure, moment) := by
  rw [Seed.install, Run.ofExcept_bind_apply, hentries]
  rfl

theorem seedsOnce_of_open {moment : Moment PageState} (hopen : moment.page.closed = false) :
    SeedsOnce app moment := by
  intro token profile profile' hvalues
  rw [← Seed.Profile.seed_eq_iff.mpr hvalues]
  refine ⟨rfl, ?_⟩
  cases hentries : (profile.seed token).entries with
  | error failure =>
      have hrefused : (profile.seed token).install (page app) moment =
          some (.error failure, moment) := install_of_invalid hentries moment
      exact ⟨_, moment, hrefused, by simp, hrefused⟩
  | ok entries =>
      have hstill := (moment.page.closed_install entries).trans hopen
      refine ⟨_, _, install_of_valid hopen hentries, by simp, ?_⟩
      rw [install_of_valid hstill hentries, PageState.install_install]

/-- After any calls on a fresh page, as many installations are counted, and remembered, as there
were that differ from what was installed just before.  On an open page it does not matter how a
session is written down: installing it again leaves the page as it is. -/
theorem sessions_installed_once {calls : List Call} {outcome : Except Failure (List Exchange)}
    {after : Moment PageState}
    (hended : (page app).converse calls ⟨.fresh app, 0⟩ = some (outcome, after)) :
    ∃ made, outcome = .ok made ∧ made.map Exchange.call = calls ∧
      after.page.installs = installations made ∧
      after.page.history.count "install_storage_seed" = installations made ∧
      (after.page.closed = false → SeedsOnce app after) := by
  obtain ⟨made, rfl, hcounts⟩ := (page app).converse_keeps
    (fun hcounts hreply => PageState.Counts.reply hcounts hreply) (.fresh app) hended
  exact ⟨made, rfl, Page.map_call_converse hended, hcounts.installs, hcounts.history,
    seedsOnce_of_open⟩

/-- An installation that is repeated at once, and again after another one. -/
def installCalls : List Call :=
  [.install darkEntries, .install darkEntries, .navigate "http://h/desktop",
   .install otherToken, .screenshot, .install darkEntries]

def promotedProfile : Seed.Profile :=
  ⟨"admin", [("role", .string "viewer"), ("is_admin", .bool true), ("role", .string "admin")]⟩

def renamedProfile : Seed.Profile :=
  ⟨"guest", [("is_admin", .bool true), ("role", .string "admin"), ("username", .string "admin")]⟩

/-- Three installations count, and then the administrator is installed once, however the session
is written down. -/
theorem desktop_sessions_installed_once :
    ∃ made after, (page desktop).converse installCalls ⟨.fresh desktop, 0⟩ =
        some (.ok made, after) ∧
      after.page.installs = 3 ∧ after.page.history.count "install_storage_seed" = 3 ∧
      ∃ seeded, (promotedProfile.seed "t").install (page desktop) after = some (.ok (), seeded) ∧
        (renamedProfile.seed "t").install (page desktop) seeded = some (.ok (), seeded) := by
  have hrun : (((page desktop).converse installCalls ⟨.fresh desktop, 0⟩).map fun ended =>
      (ended.1.toOption.map installations, ended.2.page.closed)) = some (some 3, false) := by
    decide +kernel
  obtain ⟨⟨outcome, after⟩, hended, hvalues⟩ := Option.map_eq_some_iff.mp hrun
  obtain ⟨made, rfl, -, hinstalls, hhistory, honce⟩ := sessions_installed_once hended
  obtain ⟨hcount, hopen⟩ := Prod.mk.inj hvalues
  have hcount : installations made = 3 := Option.some.inj hcount
  have hsame : promotedProfile.seed "t" = renamedProfile.seed "t" := rfl
  obtain ⟨-, outcome, seeded, hfirst, hvalid, hsecond⟩ :=
    honce hopen "t" promotedProfile renamedProfile (Seed.Profile.seed_eq_iff.mp hsame)
  obtain rfl := hvalid.mpr ⟨_, rfl⟩
  exact ⟨made, after, hended, hinstalls.trans hcount, hhistory.trans hcount, seeded, hfirst,
    hsecond⟩

end Model

end DesktopTrial
