import DesktopTrial.Proofs.Configuration.Routes
import DesktopTrial.Proofs.Model.Presentation

/-!
# Navigations to configured routes

A model page makes a navigation to every URL that names a scheme.  So a step that navigates to a
route below a valid base URL is refused only where the base names no host, and the route does not
make up for it.
-/

namespace DesktopTrial

def Failure.OutsideNavigation (failure : Failure) : Prop :=
  ∀ url message, failure ≠ .navigation url message

theorem Failure.OutsideNavigation.of_error {α : Type} {failure : Failure}
    (houtside : failure.OutsideNavigation) (other : Failure)
    (hsame : (.error failure : Except Failure α) = .error other) : other.OutsideNavigation := by
  cases hsame
  exact houtside

theorem Seed.validate_outside {seed : Seed} {failure : Failure}
    (hfailed : seed.validate = .error failure) : failure.OutsideNavigation := by
  rw [Seed.validate] at hfailed
  split at hfailed
  · cases hfailed
    exact fun _ _ himpossible => by cases himpossible
  · split at hfailed
    · cases hfailed
    · cases hfailed
      exact fun _ _ himpossible => by cases himpossible

theorem Seed.entries_outside {seed : Seed} {failure : Failure}
    (hfailed : seed.entries = .error failure) : failure.OutsideNavigation := by
  rw [Seed.entries] at hfailed
  split at hfailed
  · rename_i hinvalid
    cases hfailed
    exact Seed.validate_outside hinvalid
  · cases hfailed

namespace Model

variable {app : App} {config : Configuration} {route url : String} {stage : Stage PageState}

/-! ## What a page answers -/

theorem closedFailure_outside : closedFailure.OutsideNavigation :=
  fun _ _ himpossible => by cases himpossible

theorem blockedFailure_outside : blockedFailure.OutsideNavigation :=
  fun _ _ himpossible => by cases himpossible

theorem navigate_concludes (habsolute : Url.isAbsolute url = true) :
    Run.Concludes Failure.OutsideNavigation (Run.ask (page app) (.navigate url)) := by
  refine .ask fun s => ?_
  cases hclosed : s.closed with
  | true =>
      exact ⟨0, .error closedFailure, s, page_reply_closed hclosed _,
        closedFailure_outside.of_error⟩
  | false =>
      refine ⟨0, .ok (), (s.note ("navigate:" ++ Url.path url)).visit app url, ?_, ?_⟩
      · rw [page_reply hclosed, openReply, if_pos habsolute]
      · exact fun _ himpossible => by cases himpossible

theorem readStorage_concludes (key : String) :
    Run.Concludes Failure.OutsideNavigation (Run.ask (page app) (.readStorage key)) := by
  refine .ask fun s => ?_
  cases hclosed : s.closed with
  | true =>
      exact ⟨0, .error closedFailure, s, page_reply_closed hclosed _,
        closedFailure_outside.of_error⟩
  | false =>
      cases hblocked : app.storageBlocked with
      | true =>
          refine ⟨0, .error blockedFailure, s, ?_, blockedFailure_outside.of_error⟩
          rw [page_reply hclosed, openReply, if_pos hblocked]
      | false =>
          refine ⟨0, .ok (s.storage.find? key), s, ?_, ?_⟩
          · rw [page_reply hclosed, openReply, hblocked]
            rfl
          · exact fun _ himpossible => by cases himpossible

/-! ## Confirming a session -/

theorem confirm_concludes (key expected : String) :
    Run.Concludes Failure.OutsideNavigation (Seed.confirm (page app) key expected) := by
  have houtside : ∀ message, (Failure.bootstrap message).OutsideNavigation :=
    fun _ _ _ himpossible => by cases himpossible
  refine (readStorage_concludes key).bind fun stored => ?_
  cases stored with
  | none => exact .throw (houtside _)
  | some actual =>
      dsimp only
      split
      · exact .pure _
      · exact .throw (houtside _)

theorem verify_concludes (seed : Seed) :
    Run.Concludes Failure.OutsideNavigation (seed.verify (page app)) := by
  have hentries : Run.Concludes Failure.OutsideNavigation
      (MonadExcept.ofExcept seed.entries : Run (Moment PageState) Storage) :=
    .ofExcept fun _ => Seed.entries_outside
  exact hentries.bind fun entries => .forM fun entry _ => confirm_concludes entry.1 entry.2

theorem confirmOnce_concludes (seed : Seed) :
    Run.Concludes Failure.OutsideNavigation (Stage.confirmOnce (page app) seed) := by
  refine .get_bind fun stage => ?_
  cases stage.confirmed with
  | true => exact .pure _
  | false => exact (Run.Concludes.on (.on (verify_concludes seed))).bind fun _ => .modify _

/-! ## The step that navigates -/

theorem step_concludes (habsolute : Url.isAbsolute (config.url route) = true) :
    Run.Concludes Failure.OutsideNavigation ((Step.navigate route).take (page app) config) :=
  (Run.Concludes.on (.on (navigate_concludes habsolute))).bind fun _ => confirmOnce_concludes _

/-- A page that does not make the navigation ends the step. -/
theorem step_failed {failure : Failure} {after : PageState}
    (hreply : (page app).reply stage.setting.moment.page (.navigate (config.url route)) =
      .answered 0 (.error failure) after) :
    ∃ stopped, (Step.navigate route).take (page app) config stage =
      some (.error failure, stopped) := by
  let refused : Moment PageState := ⟨after, stage.setting.moment.clock⟩
  let stopped : Stage PageState := { stage with setting.moment := refused }
  have hasked : Stage.onPage (Run.ask (page app) (.navigate (config.url route))) stage =
      some (.error failure, stopped) := by
    simp only [Stage.onPage, Stage.onSetting, Setting.onPage, Run.on, Run.ask, hreply]
    rfl
  refine ⟨stopped, ?_⟩
  rw [Step.take, Run.bind_apply, hasked, Run.proceed_error]

/-- An open page refuses to navigate to what names no scheme. -/
theorem step_refused (hrelative : Url.isAbsolute (config.url route) = false)
    (hopen : stage.setting.moment.page.closed = false) :
    ∃ stopped, (Step.navigate route).take (page app) config stage =
      some (.error (.navigation (config.url route) "invalid URL"), stopped) := by
  apply step_failed
  rw [page_reply hopen, openReply, hrelative]
  rfl

theorem step_closed (hclosed : stage.setting.moment.page.closed = true) :
    ∃ stopped, (Step.navigate route).take (page app) config stage =
      some (.error closedFailure, stopped) := by
  apply step_failed
  rw [page_reply_closed hclosed]
  rfl

/-- A step that navigates comes to an end on every page of an application.  It fails as a
navigation just when the page is open and the URL of the route names no scheme. -/
theorem step_ends (app : App) (config : Configuration) (route : String)
    (stage : Stage PageState) : ∃ outcome after,
    (Step.navigate route).take (page app) config stage = some (outcome, after) ∧
      ((∃ url message, outcome = .error (.navigation url message)) ↔
        stage.setting.moment.page.closed = false ∧
          Url.isAbsolute (config.url route) = false) := by
  cases habsolute : Url.isAbsolute (config.url route) with
  | true =>
      have hconcludes : Run.Concludes Failure.OutsideNavigation
          ((Step.navigate route).take (page app) config) := step_concludes habsolute
      obtain ⟨outcome, after, hended, houtside⟩ := hconcludes stage
      refine ⟨outcome, after, hended, iff_of_false ?_ (by simp)⟩
      rintro ⟨url, message, hfailed⟩
      exact houtside _ hfailed url message rfl
  | false =>
      cases hclosed : stage.setting.moment.page.closed with
      | true =>
          obtain ⟨after, hended⟩ := step_closed hclosed
          refine ⟨_, after, hended, iff_of_false ?_ (by simp)⟩
          rintro ⟨url, message, hfailed⟩
          cases hfailed
      | false =>
          obtain ⟨after, hended⟩ := step_refused habsolute hclosed
          exact ⟨_, after, hended, iff_of_true ⟨_, _, rfl⟩ ⟨rfl, rfl⟩⟩

/-- With a configuration that is valid, the URL of a route has the scheme of the base URL just
when the base names a host or the route begins with two slashes.  A step that navigates to the
route comes to an end, and it fails as a navigation just when neither is the case, the route
names no scheme itself, and the page is open. -/
theorem valid_base_navigates (hvalid : config.validate = .ok ()) (route : String) :
    (Url.ShareScheme config.baseUrl (config.url route) ↔
      Url.namesHost config.baseUrl = true ∨ Text.startsWith route "//" = true) ∧
    ∀ (app : App) (stage : Stage PageState), ∃ outcome after,
      (Step.navigate route).take (page app) config stage = some (outcome, after) ∧
        ((∃ url message, outcome = .error (.navigation url message)) ↔
          stage.setting.moment.page.closed = false ∧ Url.namesHost config.baseUrl = false ∧
            Text.startsWith route "//" = false ∧ Url.isAbsolute route = false) := by
  have hweb := (Configuration.validate_eq_ok_iff.mp hvalid).baseUrl
  -- Only a text without a scheme is refused, and what gives a route one is known.
  have hrelative : Url.isAbsolute (config.url route) = false ↔
      Url.namesHost config.baseUrl = false ∧ Text.startsWith route "//" = false ∧
        Url.isAbsolute route = false := by
    rw [← Bool.not_eq_true, Configuration.url, Url.isAbsolute_join_iff hweb route]
    simp only [not_or, Bool.not_eq_true]
  refine ⟨Url.shareScheme_join_iff hweb route, fun app stage => ?_⟩
  obtain ⟨outcome, after, hended, hfails⟩ := step_ends app config route stage
  exact ⟨outcome, after, hended, by rw [hfails, hrelative]⟩

def openedDesktop : Stage PageState where
  setting := ⟨⟨.fresh desktop, 0⟩, ⟨[]⟩, []⟩
  confirmed := false
  result := { scenario := "visit" }

/-- With the standard configuration the URL of the desktop has the scheme of the base, and no
step that navigates there is refused for its URL. -/
theorem standard_base_navigates :
    ({} : Configuration).validate = .ok () ∧
    Url.ShareScheme ({} : Configuration).baseUrl (({} : Configuration).url "/desktop") ∧
    ∃ outcome after,
      (Step.navigate "/desktop").take (page desktop) {} openedDesktop = some (outcome, after) ∧
        ¬∃ url message, outcome = .error (.navigation url message) := by
  have hvalid : ({} : Configuration).validate = .ok () := by decide +kernel
  have hhost : Url.namesHost ({} : Configuration).baseUrl = true := by decide
  obtain ⟨hshares, hsteps⟩ := valid_base_navigates hvalid "/desktop"
  obtain ⟨outcome, after, hended, hfails⟩ := hsteps desktop openedDesktop
  refine ⟨hvalid, hshares.mpr (.inl hhost), outcome, after, hended, fun hfailed => ?_⟩
  have hhostless := (hfails.mp hfailed).2.1
  rw [hhost] at hhostless
  cases hhostless

/-- The standard configuration with a base URL that names no host. -/
def hostlessConfiguration : Configuration := { baseUrl := "http://" }

/-- A base URL that names no host is valid, but the URL of the desktop has another scheme then,
if any, and the navigation to it is refused. -/
theorem hostless_base_refused :
    hostlessConfiguration.validate = .ok () ∧
    hostlessConfiguration.url "/desktop" = "http:/desktop" ∧
    ¬Url.ShareScheme hostlessConfiguration.baseUrl (hostlessConfiguration.url "/desktop") ∧
    ∃ stopped, (Step.navigate "/desktop").take (page desktop) hostlessConfiguration openedDesktop =
      some (.error (.navigation "http:/desktop" "invalid URL"), stopped) := by
  have hvalid : hostlessConfiguration.validate = .ok () := by decide +kernel
  have hurl : hostlessConfiguration.url "/desktop" = "http:/desktop" := by decide +kernel
  have hrelative : Url.isAbsolute (hostlessConfiguration.url "/desktop") = false := by
    rw [hurl]
    decide
  refine ⟨hvalid, hurl, ?_, ?_⟩
  · rw [hurl, Url.ShareScheme]
    decide
  · rw [← hurl]
    exact step_refused hrelative rfl

end Model

end DesktopTrial
