import DesktopTrial.Proofs.Page.Transcript

/-!
# Exchanges lead from state to state

A page goes from one state to the next by an exchange: a call that it answers, or a query that is
given up.  Calls that are made one after the other lead to the state in which they leave the page,
and so do the queries of a wait, the last of which may be cut off when the budget is used up.
-/

namespace DesktopTrial

variable {σ α : Type} {page : Page σ}

/-- The page goes from one state to another by this exchange. -/
inductive Page.Makes (page : Page σ) (before : σ) : Exchange → σ → Prop where
  | answered {call : Call} {latency : Nat} {answer : Except Failure call.Answer} {after : σ} :
      page.reply before call = .answered latency answer after →
      Makes page before ⟨call, some answer⟩ after
  | givenUp (locator : Locator) :
      Makes page before ⟨.query locator, none⟩ (page.abandon before locator)

/-- The page goes from one state to another by these exchanges, one after the other. -/
inductive Page.Leads (page : Page σ) (start : σ) : List Exchange → σ → Prop where
  | nothing : Leads page start [] start
  | snoc {made : List Exchange} {exchange : Exchange} {before after : σ} :
      Leads page start made before → page.Makes before exchange after →
      Leads page start (made ++ [exchange]) after

/-! ## Work on a transcribed page -/

/-- What is written down leads from where the page was to where it is. -/
theorem Page.transcribed_leads (page : Page σ) (start : σ) :
    Page.Lockstep True (fun _ => True)
      (fun m n => m = n ∧ page.Leads start m.transcript m.page.inner)
      page.transcribed page.transcribed where
  sleep := by
    rintro m _ duration ⟨rfl, hleads⟩
    exact ⟨rfl, hleads⟩
  reply := by
    rintro m _ call - ⟨rfl, hleads⟩
    refine .of_answered fun latency result after hreply => ⟨rfl, ?_⟩
    obtain ⟨hinner, htranscript⟩ := Page.reply_transcribed hreply
    change page.Leads start after.transcript after.inner
    rw [htranscript]
    exact hleads.snoc (.answered hinner)
  abandon := by
    rintro m _ locator duration - ⟨rfl, hleads⟩
    exact ⟨rfl, hleads.snoc (.givenUp locator)⟩

/-- A wait leads to where it ends by queries for what it waits for. -/
theorem Readiness.await_leads {locator : Locator} {goal : String} {patience : Patience}
    {accept : List Sighting → Option α} {before after : Moment σ}
    {outcome : Except Failure (α × Nat)}
    (hended : Readiness.await page locator goal patience accept before = some (outcome, after)) :
    ∃ made, (∀ exchange ∈ made, exchange.call = .query locator) ∧
      page.Leads before.page made after.page := by
  -- The wait is made again with an empty transcript, which changes nothing else.
  let first : Moment (Transcribed σ) := ⟨⟨before.page, []⟩, before.clock⟩
  have hagain : Readiness.await page locator goal patience accept first.untranscribed =
      (Readiness.await page.transcribed locator goal patience accept first).map
        fun ended => (ended.1, ended.2.untranscribed) :=
    (page.transcribed_lockstep.await trivial goal patience accept (.inl trivial)).forgets first
  have hbefore : first.untranscribed = before := rfl
  rw [hbefore, hended] at hagain
  obtain ⟨⟨_, last⟩, hlast, hsame⟩ := Option.map_eq_some_iff.mp hagain.symm
  cases hsame
  have hqueries := page.transcribed_made [] (· = .query locator)
  obtain ⟨-, made, hmade, htranscript⟩ :=
    (hqueries.await rfl goal patience accept (.inl trivial)).keeps ⟨rfl, .refl first⟩ hlast
  have hleads := page.transcribed_leads before.page
  obtain ⟨-, hled⟩ :=
    (hleads.await trivial goal patience accept (.inl trivial)).keeps ⟨rfl, .nothing⟩ hlast
  rw [htranscript, List.nil_append] at hled
  exact ⟨made, hmade, hled⟩

end DesktopTrial
