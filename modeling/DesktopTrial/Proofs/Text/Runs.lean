/-!
# Runs of characters

A run of characters of one kind ends where the text goes on with another kind, or not at
all.
-/

namespace DesktopTrial.Text

/-- The text does not go on with a character of the kind `p`. -/
def Stops (p : Char → Bool) (rest : List Char) : Prop := ∀ c ∈ rest.head?, p c = false

variable {p q : Char → Bool} {run rest : List Char}

theorem Stops.nil : Stops p [] := by
  intro c hc
  cases hc

theorem Stops.cons {c : Char} (hother : p c = false) : Stops p (c :: rest) := by
  intro d hd
  cases hd
  exact hother

theorem Stops.mono (hstops : Stops p rest) (hkinds : ∀ c, q c = true → p c = true) :
    Stops q rest := by
  intro c hc
  have hother := hstops c hc
  cases hq : q c
  · rfl
  · rw [hkinds c hq] at hother
    cases hother

theorem takeWhile_append_of_stops (hrun : ∀ c ∈ run, p c = true) (hstops : Stops p rest) :
    (run ++ rest).takeWhile p = run := by
  rw [List.takeWhile_append_of_pos hrun]
  cases rest with
  | nil => exact List.append_nil run
  | cons c rest => rw [List.takeWhile_cons_of_neg (by simp [hstops c rfl]), List.append_nil]

theorem dropWhile_append_of_stops (hrun : ∀ c ∈ run, p c = true) (hstops : Stops p rest) :
    (run ++ rest).dropWhile p = rest := by
  rw [List.dropWhile_append_of_pos hrun]
  cases rest with
  | nil => rfl
  | cons c rest => rw [List.dropWhile_cons_of_neg (by simp [hstops c rfl])]

/-- Every text is a run of characters of a kind and what goes on otherwise. -/
theorem exists_run (p : Char → Bool) (text : List Char) :
    ∃ run rest, text = run ++ rest ∧ (∀ c ∈ run, p c = true) ∧ Stops p rest := by
  induction text with
  | nil => exact ⟨[], [], rfl, by simp, .nil⟩
  | cons c text ih =>
      cases hc : p c with
      | false => exact ⟨[], c :: text, rfl, by simp, .cons hc⟩
      | true =>
          obtain ⟨run, rest, rfl, hrun, hrest⟩ := ih
          exact ⟨c :: run, rest, rfl, by simpa [hc] using hrun, hrest⟩

end DesktopTrial.Text
