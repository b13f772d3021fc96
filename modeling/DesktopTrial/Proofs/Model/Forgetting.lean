import DesktopTrial.Proofs.Model.Storage

/-!
# A navigation forgets the document before it

What a page answers does not depend on what it remembers of the calls that were made.  A
navigation takes from the page no more than its storage and the entries that are installed, and
has written them by the time it ends.  After a navigation, two pages with the same storage and
the same installed entries therefore cannot be told apart, and neither can a page that was sent
to a URL once and one that was sent there twice.
-/

namespace DesktopTrial.Model

variable {app : App} {url : String}

namespace PageState

/-- A page but for what it remembers of what it was asked. -/
def forgotten (s : PageState) : PageState := { s with history := [], installs := 0 }

/-! ## Calls -/

theorem click_forgotten (app : App) (p : Point) (button : Button) (s : PageState) :
    (s.forgotten.click app p button).forgotten = (s.click app p button).forgotten := by
  have hrendered : s.forgotten.rendered = s.rendered := rfl
  have helements : s.forgotten.elements = s.elements := rfl
  simp only [click, hrendered, helements]
  cases s.rendered with
  | false => rfl
  | true =>
      cases button with
      | secondary => rfl
      | primary =>
          generalize primaryClick app p s.elements = clicked
          obtain ⟨elements, item⟩ := clicked
          cases item <;> rfl

theorem install_forgotten (entries : Storage) (s : PageState) :
    (s.forgotten.install entries).forgotten = (s.install entries).forgotten := by
  have hinstalled : s.forgotten.installed = s.installed := rfl
  rw [install, install, hinstalled]
  split <;> rfl

end PageState

open PageState

theorem queryReply_forgotten (app : App) (locator : Locator) (s : PageState) :
    (queryReply app s.forgotten locator).mapState forgotten =
      (queryReply app s locator).mapState forgotten := by
  have hreplacements : s.forgotten.replacements = s.replacements := rfl
  have hrendered : s.forgotten.rendered = s.rendered := rfl
  have hpresent : s.forgotten.present app = s.present app := rfl
  rw [queryReply, queryReply, hreplacements, hrendered, hpresent]
  split
  · rfl
  split
  · rfl
  split
  · rfl
  cases select? (s.present app) locator.selector <;> rfl

/-- What a page remembers makes no difference to what it answers. -/
theorem reply_forgotten (app : App) (call : Call) (s : PageState) :
    ((page app).reply s.forgotten call).mapState forgotten =
      ((page app).reply s call).mapState forgotten := by
  have hclosed : s.forgotten.closed = s.closed := rfl
  simp only [page, hclosed]
  cases s.closed with
  | true => cases call <;> rfl
  | false =>
      simp only [Bool.false_eq_true, if_false]
      cases call with
      | navigate url =>
          simp only [openReply]
          split <;> rfl
      | currentUrl => rfl
      | install entries =>
          simp only [openReply, Reply.mapState, install_forgotten]
      | readStorage key =>
          simp only [openReply]
          split <;> rfl
      | query locator => exact queryReply_forgotten app locator s
      | click p button =>
          simp only [openReply, Reply.mapState, click_forgotten]
      | screenshot => rfl
      | close => rfl

/-! ## Conversations -/

/-- The pages are the same but for what they remember, and as much time has passed since the
first moments. -/
structure Together (first other m n : Moment PageState) : Prop where
  pages : m.page.forgotten = n.page.forgotten
  clock : m.clock + other.clock = n.clock + first.clock

/-- Pages that are the same but for what they remember answer alike. -/
theorem Together.lockstep (app : App) (first other : Moment PageState) :
    Page.Lockstep True (fun _ => True) (Together first other) (page app) (page app) where
  sleep := by
    rintro m n duration ⟨hpages, hclock⟩
    exact ⟨hpages, by simp only [Moment.later]; omega⟩
  reply := by
    rintro m n call - ⟨hpages, hclock⟩
    have hreplies : ((page app).reply m.page call).mapState forgotten =
        ((page app).reply n.page call).mapState forgotten := by
      rw [← reply_forgotten app call m.page, hpages, reply_forgotten]
    refine (Reply.Alike.of_mapState hreplies).imp fun latency s t hafter => ⟨hafter, ?_⟩
    simp only [Moment.later]
    omega
  abandon := by
    rintro m n locator duration - ⟨hpages, hclock⟩
    exact ⟨hpages, by simp only [Moment.later]; omega⟩

/-- The pages have the same storage, show the context menu or not alike, and are the same but for
their history and the count of installations. -/
structure PageState.Agrees (app : App) (s other : PageState) : Prop where
  storage : other.storage = s.storage
  menuOpen : other.menuOpen app = s.menuOpen app
  rest : other = { s with history := other.history, installs := other.installs }

theorem PageState.Agrees.of_forgotten {s other : PageState}
    (hsame : s.forgotten = other.forgotten) : s.Agrees app other where
  storage := by
    have hstorage : other.forgotten.storage = s.forgotten.storage := by rw [hsame]
    exact hstorage
  menuOpen := by
    have hmenu : other.forgotten.menuOpen app = s.forgotten.menuOpen app := by rw [hsame]
    exact hmenu
  rest := by
    calc
      other = { other.forgotten with history := other.history, installs := other.installs } := rfl
      _ = { s.forgotten with history := other.history, installs := other.installs } := by
        rw [hsame]

/-- Whatever calls are made next, they are answered alike, take equally long, and leave pages
that agree.  If a call is never answered, neither is the same call to the other page. -/
def Indistinct (app : App) (m n : Moment PageState) : Prop :=
  ∀ calls : List Call,
    Run.Alike True
      (fun after after' => after.page.Agrees app after'.page ∧
        after.clock + n.clock = after'.clock + m.clock)
      ((page app).converse calls m) ((page app).converse calls n)

theorem Indistinct.of_forgotten {m n : Moment PageState}
    (hsame : m.page.forgotten = n.page.forgotten) : Indistinct app m n := by
  intro calls
  have hstart : Together m n m n := ⟨hsame, Nat.add_comm _ _⟩
  have halike := (Together.lockstep app m n).converse calls m n hstart
  exact halike.imp fun _ _ _ _ _ htogether => ⟨.of_forgotten htogether.pages, htogether.clock⟩

/-! ## Navigations -/

theorem nextStorage_congr {s other : PageState} (hstorage : other.storage = s.storage)
    (hinstalled : other.installed = s.installed) :
    other.nextStorage app = s.nextStorage app := by
  rw [nextStorage, nextStorage, hstorage, hinstalled]

/-- A navigation takes no more from a page than what it writes and what is installed. -/
theorem visit_forgotten {s other : PageState} (hnext : other.nextStorage app = s.nextStorage app)
    (hinstalled : other.installed = s.installed) (hclosed : other.closed = s.closed) :
    (s.visit app url).forgotten = (other.visit app url).forgotten := by
  simp only [visit, forgotten, hnext, hinstalled, hclosed]

/-- A navigation has written what the next one would write. -/
theorem nextStorage_visit (url : String) (s : PageState) :
    (s.visit app url).nextStorage app = (s.visit app url).storage := by
  have hstorage : (s.visit app url).storage = s.nextStorage app := rfl
  have hinstalled : (s.visit app url).installed = s.installed := rfl
  rw [nextStorage, hstorage, hinstalled, nextStorage]
  cases app.storageBlocked with
  | true => rfl
  | false =>
      cases s.installed with
      | none => rfl
      | some entries => exact Dictionary.merge_merge_self s.storage entries

/-- To go where the page was sent last changes no more than what the page remembers. -/
theorem visit_again_forgotten (entry : String) (s : PageState) :
    (s.visit app url).forgotten = (((s.visit app url).note entry).visit app url).forgotten := by
  have hnext : ((s.visit app url).note entry).nextStorage app = s.nextStorage app :=
    nextStorage_visit url s
  exact visit_forgotten hnext rfl rfl

/-- Only open pages can be sent somewhere, and only to URLs with a scheme. -/
theorem navigated {before visited : Moment PageState}
    (hvisited : Run.ask (page app) (.navigate url) before = some (.ok (), visited)) :
    before.page.closed = false ∧ Url.isAbsolute url = true ∧
      visited.page = (before.page.note ("navigate:" ++ Url.path url)).visit app url := by
  have hopen : before.page.closed = false := by
    obtain ⟨latency, hreply⟩ := Run.ask_eq_some hvisited
    obtain ⟨-, hreply⟩ | ⟨hopen, -⟩ := reply_cases hreply
    · cases hreply
    · exact hopen
  have habsolute := isAbsolute_of_visited hopen hvisited
  rw [ask_navigate hopen habsolute] at hvisited
  cases hvisited
  exact ⟨hopen, habsolute, rfl⟩

/-- After a navigation that is made, a page cannot be told apart from any other open page of the
application that had the same storage and the same installed entries and was sent to the same
URL, nor from itself once it is sent there again. -/
theorem navigation_forgets {before visited other : Moment PageState}
    (hvisited : Run.ask (page app) (.navigate url) before = some (.ok (), visited))
    (hopen : other.page.closed = false) (hstorage : other.page.storage = before.page.storage)
    (hinstalled : other.page.installed = before.page.installed) :
    (∃ visited', Run.ask (page app) (.navigate url) other = some (.ok (), visited') ∧
      Indistinct app visited visited') ∧
    ∃ again, Run.ask (page app) (.navigate url) visited = some (.ok (), again) ∧
      Indistinct app visited again := by
  obtain ⟨hbefore, habsolute, hpage⟩ := navigated hvisited
  have hstill : visited.page.closed = false := by rw [hpage]; exact hbefore
  constructor
  · refine ⟨_, ask_navigate hopen habsolute, .of_forgotten ?_⟩
    rw [hpage]
    exact visit_forgotten (nextStorage_congr hstorage hinstalled) hinstalled
      (hopen.trans hbefore.symm)
  · refine ⟨_, ask_navigate hstill habsolute, .of_forgotten ?_⟩
    rw [hpage]
    exact visit_again_forgotten _ _

/-- A page of the desktop on which a session was installed before it was sent there. -/
def seededDesktop : PageState :=
  ((PageState.fresh desktop).install darkEntries).visit desktop "http://h/desktop"

def usedDesktop : PageState := seededDesktop.click desktop ⟨700, 450⟩ .secondary

/-- The open menu makes no difference once both pages are sent to the desktop again. -/
theorem usedDesktop_forgotten :
    (seededDesktop.menuOpen desktop, usedDesktop.menuOpen desktop) = (false, true) ∧
      ∃ visited visited',
        Run.ask (page desktop) (.navigate "http://h/desktop") ⟨seededDesktop, 0⟩ =
          some (.ok (), visited) ∧
        Run.ask (page desktop) (.navigate "http://h/desktop") ⟨usedDesktop, 7⟩ =
          some (.ok (), visited') ∧
        Indistinct desktop visited visited' := by
  have hmenu : (seededDesktop.menuOpen desktop, usedDesktop.menuOpen desktop) = (false, true) := by
    decide +kernel
  have habsolute : Url.isAbsolute "http://h/desktop" = true := by decide +kernel
  obtain ⟨elements, history, hclick⟩ :=
    seededDesktop.click_frame desktop (p := ⟨700, 450⟩) .secondary
  have hopen : usedDesktop.closed = false := by rw [usedDesktop, hclick]; rfl
  have hstorage : usedDesktop.storage = seededDesktop.storage := by rw [usedDesktop, hclick]
  have hinstalled : usedDesktop.installed = seededDesktop.installed := by rw [usedDesktop, hclick]
  let seeded : Moment PageState := ⟨seededDesktop, 0⟩
  let used : Moment PageState := ⟨usedDesktop, 7⟩
  have hseeded : seeded.page.closed = false := rfl
  have hused : used.page.closed = false := hopen
  have hvisited : Run.ask (page desktop) (.navigate "http://h/desktop") seeded = _ :=
    ask_navigate hseeded habsolute
  obtain ⟨⟨visited', hvisited', hindistinct⟩, -⟩ :=
    navigation_forgets hvisited hused hstorage hinstalled
  exact ⟨hmenu, _, visited', hvisited, hvisited', hindistinct⟩

end DesktopTrial.Model
