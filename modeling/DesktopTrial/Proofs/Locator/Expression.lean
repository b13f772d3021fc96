import DesktopTrial.Proofs.Text.Literals

/-!
# Match expressions are read in one way

The expression of a selector tells its kind and every text, flag and scope in it, since no
text can end the literal that it stands in.  Only the first match of a scope and its match
at place zero are written alike.
-/

namespace DesktopTrial

/-! ## The parts of an expression -/

theorem roleCandidates_injective : Function.Injective roleCandidates := by
  intro kind kind' hsame
  have hchars := congrArg String.toList hsame
  simp only [roleCandidates, String.toList_append, List.append_assoc] at hchars
  exact (attributeValue_append_inj (List.append_cancel_left hchars)).1

theorem queryAll_append_inj {css css' : String} {rest rest' : List Char}
    (hsame : (queryAll css).toList ++ rest = (queryAll css').toList ++ rest') :
    css = css' ∧ rest = rest' := by
  unfold queryAll scriptLiteral at hsame
  rw [String.toList_append, String.toList_append, String.toList_append, String.toList_append,
    List.append_assoc, List.append_assoc, List.append_assoc, List.append_assoc] at hsame
  obtain ⟨hcss, hrest⟩ := Json.stringText_append_inj (List.append_cancel_left hsame)
  exact ⟨hcss, List.append_cancel_left hrest⟩

theorem flagText_append_inj {flag flag' : Bool} {rest rest' : List Char}
    (hsame : (flagText flag).toList ++ rest = (flagText flag').toList ++ rest') :
    flag = flag' ∧ rest = rest' := by
  cases flag <;> cases flag' <;> simp_all [flagText]

theorem comparison_append_inj {function wanted wanted' : String} {exact exact' : Bool}
    {rest rest' : List Char}
    (hsame : (comparison function wanted exact).toList ++ rest =
      (comparison function wanted' exact').toList ++ rest') :
    wanted = wanted' ∧ exact = exact' ∧ rest = rest' := by
  unfold comparison scriptLiteral at hsame
  simp only [String.toList_append, List.append_assoc, List.append_cancel_left_eq] at hsame
  obtain ⟨hwanted, hflag⟩ := Json.stringText_append_inj hsame
  obtain ⟨hexact, hrest⟩ := flagText_append_inj (List.append_cancel_left hflag)
  exact ⟨hwanted, hexact, List.append_cancel_left hrest⟩

/-- A comparison of names is none of texts. -/
theorem comparison_ne {wanted wanted' : String} {exact exact' : Bool} {rest rest' : List Char} :
    (comparison nameFunction wanted exact).toList ++ rest ≠
      (comparison textFunction wanted' exact').toList ++ rest' := by
  unfold comparison
  simp only [String.toList_append, List.append_assoc, ne_eq, List.append_cancel_left_eq]
  unfold nameFunction textFunction
  rw [String.toList_ofList, String.toList_ofList]
  simp

/-! ## Expressions without a scope -/

section Templates

variable {kind kind' name name' pattern pattern' wanted wanted' : String} {exact exact' : Bool}
  {rest rest' : List Char}

theorem roleExpression_append_inj
    (hsame : (roleExpression kind name exact).toList ++ rest =
      (roleExpression kind' name' exact').toList ++ rest') :
    kind = kind' ∧ name = name' ∧ exact = exact' ∧ rest = rest' := by
  unfold roleExpression at hsame
  simp only [String.toList_append, List.append_assoc] at hsame
  obtain ⟨hcandidates, hnarrowed⟩ := queryAll_append_inj hsame
  obtain ⟨hname, hexact, hend⟩ := comparison_append_inj (List.append_cancel_left hnarrowed)
  exact ⟨roleCandidates_injective hcandidates, hname, hexact, List.append_cancel_left hend⟩

theorem textExpression_append_inj
    (hsame : (textExpression wanted exact).toList ++ rest =
      (textExpression wanted' exact').toList ++ rest') :
    wanted = wanted' ∧ exact = exact' ∧ rest = rest' := by
  unfold textExpression at hsame
  simp only [String.toList_append, List.append_assoc] at hsame
  obtain ⟨hwanted, hexact, hend⟩ := comparison_append_inj (List.append_cancel_left hsame)
  exact ⟨hwanted, hexact, List.append_cancel_left hend⟩

theorem cssTextExpression_append_inj
    (hsame : (cssTextExpression pattern wanted).toList ++ rest =
      (cssTextExpression pattern' wanted').toList ++ rest') :
    pattern = pattern' ∧ wanted = wanted' ∧ rest = rest' := by
  unfold cssTextExpression at hsame
  simp only [String.toList_append, List.append_assoc] at hsame
  obtain ⟨hpattern, hnarrowed⟩ := queryAll_append_inj hsame
  obtain ⟨hwanted, -, hend⟩ := comparison_append_inj (List.append_cancel_left hnarrowed)
  exact ⟨hpattern, hwanted, List.append_cancel_left hend⟩

end Templates

/-! ## Scopes -/

/-- The occurrence with the first match taken as the match at place zero. -/
def Occurrence.placed : Occurrence → Occurrence
  | .first => .nth 0
  | occurrence => occurrence

/-- The selector with the first match of every scope taken as its match at place zero. -/
def Selector.placed : Selector → Selector
  | .textWithin scope occurrence wanted exact =>
      .textWithin scope.placed (occurrence.map Occurrence.placed) wanted exact
  | selector => selector

def greatestPlace : UInt64 := 18446744073709551615

theorem nextPlace?_greatest : nextPlace? greatestPlace = none := by decide

/-- Behind every other place comes its successor. -/
theorem nextPlace?_of_ne {place : UInt64} (hplace : place ≠ greatestPlace) :
    ∃ next, nextPlace? place = some next ∧ next.toNat = place.toNat + 1 := by
  have hless : place.toNat + 1 < UInt64.size := by
    have hword := place.toNat_lt_size
    have hne : place.toNat ≠ greatestPlace.toNat := mt UInt64.toNat_inj.mp hplace
    change place.toNat ≠ UInt64.size - 1 at hne
    omega
  exact ⟨place + 1, if_pos hless, (UInt64.toNat_add place 1).trans (Nat.mod_eq_of_lt hless)⟩

/-- The slice from a place to its successor. -/
def placeSlice (place : UInt64) : String :=
  "all.slice(" ++ showNat place.toNat ++ ", " ++ showNat (place.toNat + 1) ++ ")"

theorem placeSlice_append_inj {place place' : UInt64} {rest rest' : List Char}
    (hsame : (placeSlice place).toList ++ rest = (placeSlice place').toList ++ rest') :
    place = place' ∧ rest = rest' := by
  simp only [placeSlice, String.toList_append, List.append_assoc,
    List.append_cancel_left_eq] at hsame
  obtain ⟨hplace, hbehind⟩ := showNat_append_inj (c := ',') (by decide) hsame
  obtain rfl := UInt64.toNat_inj.mp hplace
  exact ⟨rfl, by simpa using hbehind⟩

/-- The slice of a place does not begin with a minus, as the slice of the last match does. -/
theorem placeSlice_append_ne {place : UInt64} {rest rest' : List Char} :
    (placeSlice place).toList ++ rest ≠ "all.slice(-1)".toList ++ rest' := by
  have hlast : "all.slice(-1)".toList = "all.slice(".toList ++ '-' :: ['1', ')'] := by decide
  intro hsame
  rw [hlast, placeSlice] at hsame
  simp only [String.toList_append, List.append_assoc, List.append_cancel_left_eq] at hsame
  exact showNat_append_ne (by decide) hsame

/-- The slice of a scope, in which the successor of a place may be greater than any place. -/
def spelledSlice : Option Occurrence → String
  | none => "all"
  | some .first => "all.slice(0, 1)"
  | some (.nth place) => placeSlice place
  | some .last => "all.slice(-1)"

/-- Only at the greatest place a scope has no slice. -/
theorem scopeSlice?_eq (occurrence : Option Occurrence) :
    scopeSlice? occurrence =
      if occurrence = some (.nth greatestPlace) then none else some (spelledSlice occurrence) := by
  rcases occurrence with _ | _ | place | _
  case some.nth =>
    by_cases hplace : place = greatestPlace
    · rw [if_pos (by rw [hplace]), hplace, scopeSlice?, nextPlace?_greatest]
      rfl
    · obtain ⟨next, hnext, hsucc⟩ := nextPlace?_of_ne hplace
      rw [if_neg (by simpa using hplace), spelledSlice, placeSlice, ← hsucc, scopeSlice?, hnext]
      rfl
  all_goals rfl

/-- There is a slice for no occurrence, one for every place, and one for the last match. -/
theorem spelledSlice_cases (occurrence : Option Occurrence) :
    (occurrence.map Occurrence.placed = none ∧ spelledSlice occurrence = "all") ∨
    (∃ place, occurrence.map Occurrence.placed = some (.nth place) ∧
      spelledSlice occurrence = placeSlice place) ∨
    (occurrence.map Occurrence.placed = some .last ∧
      spelledSlice occurrence = "all.slice(-1)") := by
  rcases occurrence with _ | _ | place | _
  · exact .inl ⟨rfl, rfl⟩
  · exact .inr (.inl ⟨0, rfl, rfl⟩)
  · exact .inr (.inl ⟨place, rfl, rfl⟩)
  · exact .inr (.inr ⟨rfl, rfl⟩)

theorem spelledSlice_append_inj {occurrence occurrence' : Option Occurrence}
    {rest rest' : List Char}
    (hsame : (spelledSlice occurrence).toList ++ '.' :: 'f' :: rest =
      (spelledSlice occurrence').toList ++ '.' :: 'f' :: rest') :
    occurrence.map Occurrence.placed = occurrence'.map Occurrence.placed ∧ rest = rest' := by
  obtain ⟨hplaced, hslice⟩ | ⟨place, hplaced, hslice⟩ | ⟨hplaced, hslice⟩ :=
      spelledSlice_cases occurrence <;>
    obtain ⟨hplaced', hslice'⟩ | ⟨place', hplaced', hslice'⟩ | ⟨hplaced', hslice'⟩ :=
      spelledSlice_cases occurrence' <;>
    rw [hslice, hslice'] at hsame <;> rw [hplaced, hplaced']
  · exact ⟨rfl, by simpa using hsame⟩
  · simp [placeSlice] at hsame
  · simp at hsame
  · simp [placeSlice] at hsame
  · obtain ⟨rfl, hrest⟩ := placeSlice_append_inj hsame
    exact ⟨rfl, by simpa using hrest⟩
  · exact absurd hsame placeSlice_append_ne
  · simp at hsame
  · exact absurd hsame.symm placeSlice_append_ne
  · exact ⟨rfl, by simpa using hsame⟩

/-- The first match of a scope is written as its match at place zero. -/
theorem spelledSlice_placed (occurrence : Option Occurrence) :
    spelledSlice (occurrence.map Occurrence.placed) = spelledSlice occurrence := by
  rcases occurrence with _ | _ | place | _ <;> rfl

def scopePlace? : Option Occurrence → Option UInt64
  | some (.nth place) => some place
  | _ => none

theorem scopePlace?_eq_some_iff {occurrence : Option Occurrence} {place : UInt64} :
    scopePlace? occurrence = some place ↔ occurrence = some (.nth place) := by
  rcases occurrence with _ | _ | place | _ <;> simp [scopePlace?]

/-! ## Kinds of selectors -/

namespace Selector

/-- The places at which scopes are picked, the outermost scope first. -/
def scopePlaces : Selector → List UInt64
  | .textWithin scope occurrence _ _ => scope.scopePlaces ++ (scopePlace? occurrence).toList
  | _ => []

theorem mem_scopePlaces_textWithin {scope : Selector} {occurrence : Option Occurrence}
    {wanted : String} {exact : Bool} {place : UInt64} :
    place ∈ (textWithin scope occurrence wanted exact).scopePlaces ↔
      occurrence = some (.nth place) ∨ place ∈ scope.scopePlaces := by
  rw [scopePlaces, List.mem_append, Option.mem_toList, scopePlace?_eq_some_iff, or_comm]

/-- The expression of a selector, in which every slice of a place ends at its successor. -/
def spelled : Selector → String
  | .css pattern => queryAll pattern
  | .role kind name exact => roleExpression kind name exact
  | .text wanted exact => textExpression wanted exact
  | .cssWithText pattern wanted => cssTextExpression pattern wanted
  | .textWithin scope occurrence wanted exact =>
      withinExpression scope.spelled (spelledSlice occurrence) wanted exact

/-- A selector has no expression just when a scope in it, at any level of nesting, is picked at
the greatest place. -/
theorem expression?_eq (s : Selector) :
    s.expression? = if greatestPlace ∈ s.scopePlaces then none else some s.spelled := by
  induction s with
  | textWithin scope occurrence wanted exact ih =>
      rw [expression?, scopeSlice?_eq, ih, ite_congr (propext mem_scopePlaces_textWithin)
        (fun _ => rfl) fun _ => rfl]
      by_cases hslice : occurrence = some (.nth greatestPlace)
      · rw [if_pos hslice, if_pos (Or.inl hslice : _ ∨ greatestPlace ∈ scope.scopePlaces)]
        rfl
      · by_cases hscope : greatestPlace ∈ scope.scopePlaces
        · rw [if_neg hslice, if_pos hscope, if_pos (Or.inr hscope)]
          rfl
        · rw [if_neg hslice, if_neg hscope, if_neg (not_or.mpr ⟨hslice, hscope⟩)]
          rfl
  | _ => rfl

/-- The place of the selector's kind among all kinds. -/
def kind : Selector → Nat
  | .css _ => 0
  | .role _ _ _ => 1
  | .cssWithText _ _ => 2
  | .text _ _ => 3
  | .textWithin _ _ _ _ => 4

/-- The expression of a CSS selector or a role begins with a query. -/
theorem spelled_queries {s : Selector} (hkind : s.kind < 3) :
    ∃ css rest, s.spelled.toList = (queryAll css).toList ++ rest := by
  cases s with
  | css pattern => exact ⟨pattern, [], (List.append_nil _).symm⟩
  | role kind name exact =>
      rw [spelled, roleExpression]
      simp only [String.toList_append, List.append_assoc]
      exact ⟨_, _, rfl⟩
  | cssWithText pattern wanted =>
      rw [spelled, cssTextExpression]
      simp only [String.toList_append, List.append_assoc]
      exact ⟨_, _, rfl⟩
  | text wanted exact => simp [kind] at hkind
  | textWithin scope occurrence wanted exact => simp [kind] at hkind

/-- The expression of a text begins with a function. -/
theorem spelled_begins {s : Selector} (hkind : 3 ≤ s.kind) :
    ∃ rest, s.spelled.toList = '(' :: rest := by
  cases s with
  | text wanted exact =>
      unfold spelled textExpression
      simp only [String.toList_append, List.append_assoc]
      rw [String.toList_ofList]
      exact ⟨_, rfl⟩
  | textWithin scope occurrence wanted exact =>
      unfold spelled withinExpression
      simp only [String.toList_append, List.append_assoc]
      rw [String.toList_ofList]
      exact ⟨_, rfl⟩
  | _ => simp [kind] at hkind

theorem queryAll_append_ne {css : String} {rest rest' : List Char} :
    (queryAll css).toList ++ rest ≠ '(' :: rest' := by
  unfold queryAll
  rw [String.toList_append, String.toList_append, String.toList_ofList]
  simp

/-- A query that is narrowed is none in front of a text that does not narrow it. -/
theorem queryAll_ne_narrowed {css css' : String} {narrowing rest : List Char}
    (hrest : rest.head? ≠ some '.') :
    (queryAll css).toList ++ rest ≠
      (queryAll css').toList ++ (".filter(el => ".toList ++ narrowing) := by
  intro hsame
  obtain ⟨-, rfl⟩ := queryAll_append_inj hsame
  rw [String.toList_ofList] at hrest
  exact hrest rfl

/-- The function for a text is none for a text within a scope. -/
theorem functions_ne {rest rest' : List Char} :
    "(() => \x7b const hit = el => ".toList ++ rest ≠
      "(() => \x7b const all = ".toList ++ rest' := by
  rw [String.toList_ofList, String.toList_ofList]
  simp

variable {s t : Selector} {rest rest' : List Char}

theorem spelled_ne_of_kind_lt (hrest : rest.head? ≠ some '.') (hkind : s.kind < t.kind) :
    s.spelled.toList ++ rest ≠ t.spelled.toList ++ rest' := by
  intro hsame
  by_cases hfunction : s.kind < 3 ∧ 3 ≤ t.kind
  · obtain ⟨css, behind, hquery⟩ := spelled_queries hfunction.1
    obtain ⟨body, hbegins⟩ := spelled_begins hfunction.2
    rw [hquery, hbegins, List.append_assoc] at hsame
    exact queryAll_append_ne hsame
  · cases s <;> cases t <;> simp [kind] at hkind hfunction
    case css.role =>
      unfold spelled roleExpression at hsame
      simp only [String.toList_append, List.append_assoc] at hsame
      exact queryAll_ne_narrowed hrest hsame
    case css.cssWithText =>
      unfold spelled cssTextExpression at hsame
      simp only [String.toList_append, List.append_assoc] at hsame
      exact queryAll_ne_narrowed hrest hsame
    case role.cssWithText =>
      unfold spelled roleExpression cssTextExpression at hsame
      simp only [String.toList_append, List.append_assoc] at hsame
      obtain ⟨-, hnarrowed⟩ := queryAll_append_inj hsame
      exact comparison_ne (List.append_cancel_left hnarrowed)
    case text.textWithin =>
      unfold spelled textExpression withinExpression at hsame
      simp only [String.toList_append, List.append_assoc] at hsame
      exact functions_ne hsame

theorem kind_eq_of_spelled (hrest : rest.head? ≠ some '.') (hrest' : rest'.head? ≠ some '.')
    (hsame : s.spelled.toList ++ rest = t.spelled.toList ++ rest') : s.kind = t.kind := by
  rcases Nat.lt_trichotomy s.kind t.kind with hlt | heq | hlt
  · exact absurd hsame (spelled_ne_of_kind_lt hrest hlt)
  · exact heq
  · exact absurd hsame.symm (spelled_ne_of_kind_lt hrest' hlt)

/-- What follows a slice begins with a point and a letter. -/
theorem flatten_begins :
    ∃ tail, ".flatMap(root => Array.from(root.querySelectorAll('*'))) .filter(el => !seen.has(el) && seen.add(el) && hit(el) && !Array.from(el.children).some(hit)); \x7d)()".toList = '.' :: 'f' :: tail := by
  rw [String.toList_ofList]
  exact ⟨_, rfl⟩

/-- What follows the expression of a scope does not narrow it. -/
theorem scope_end {rest : List Char} :
    ("; const hit = el => ".toList ++ rest).head? ≠ some '.' := by
  rw [String.toList_ofList]
  simp

/-- The expression in front of a text that does not narrow it further tells the selector, up
to the spelling of the first match of a scope, and the text behind it. -/
theorem spelled_append_inj (hrest : rest.head? ≠ some '.') (hrest' : rest'.head? ≠ some '.')
    (hsame : s.spelled.toList ++ rest = t.spelled.toList ++ rest') :
    s.placed = t.placed ∧ rest = rest' := by
  have hkind := kind_eq_of_spelled hrest hrest' hsame
  induction s generalizing t rest rest' with
  | css pattern =>
      cases t with
      | css pattern' =>
          obtain ⟨rfl, rfl⟩ := queryAll_append_inj hsame
          exact ⟨rfl, rfl⟩
      | _ => simp [kind] at hkind
  | role kind name exact =>
      cases t with
      | role kind' name' exact' =>
          obtain ⟨rfl, rfl, rfl, rfl⟩ := roleExpression_append_inj hsame
          exact ⟨rfl, rfl⟩
      | _ => simp [Selector.kind] at hkind
  | text wanted exact =>
      cases t with
      | text wanted' exact' =>
          obtain ⟨rfl, rfl, rfl⟩ := textExpression_append_inj hsame
          exact ⟨rfl, rfl⟩
      | _ => simp [kind] at hkind
  | cssWithText pattern wanted =>
      cases t with
      | cssWithText pattern' wanted' =>
          obtain ⟨rfl, rfl, rfl⟩ := cssTextExpression_append_inj hsame
          exact ⟨rfl, rfl⟩
      | _ => simp [kind] at hkind
  | textWithin scope occurrence wanted exact ih =>
      cases t with
      | textWithin scope' occurrence' wanted' exact' =>
          unfold spelled withinExpression at hsame
          simp only [String.toList_append, List.append_assoc] at hsame
          have hscopes := List.append_cancel_left hsame
          obtain ⟨hscope, hhit⟩ :=
            ih scope_end scope_end hscopes (kind_eq_of_spelled scope_end scope_end hscopes)
          obtain ⟨rfl, rfl, hslice⟩ := comparison_append_inj (List.append_cancel_left hhit)
          have hslices := List.append_cancel_left hslice
          obtain ⟨tail, htail⟩ := flatten_begins
          rw [htail] at hslices
          obtain ⟨hoccurrence, hend⟩ := spelledSlice_append_inj hslices
          rw [placed, placed, hscope, hoccurrence]
          exact ⟨rfl, List.append_cancel_left hend⟩
      | _ => simp [kind] at hkind

theorem spelled_placed (s : Selector) : s.placed.spelled = s.spelled := by
  induction s with
  | textWithin scope occurrence wanted exact ih =>
      rw [placed, spelled, spelled, ih, spelledSlice_placed]
  | _ => rfl

theorem spelled_eq_iff (s t : Selector) : s.spelled = t.spelled ↔ s.placed = t.placed := by
  constructor
  · intro hsame
    have hchars : s.spelled.toList ++ [] = t.spelled.toList ++ [] := by rw [hsame]
    exact (spelled_append_inj (by simp) (by simp) hchars).1
  · intro hplaced
    rw [← spelled_placed s, ← spelled_placed t, hplaced]

theorem greatestPlace_mem_placed_iff (s : Selector) :
    greatestPlace ∈ s.placed.scopePlaces ↔ greatestPlace ∈ s.scopePlaces := by
  induction s with
  | textWithin scope occurrence wanted exact ih =>
      have hplaced : occurrence.map Occurrence.placed = some (.nth greatestPlace) ↔
          occurrence = some (.nth greatestPlace) := by
        rcases occurrence with _ | _ | place | _ <;> simp [Occurrence.placed, greatestPlace]
      rw [placed, mem_scopePlaces_textWithin, mem_scopePlaces_textWithin, ih, hplaced]
  | _ => rfl

/-- The expression determines the kind of a selector and every text, flag and scope in it.  A
selector has an expression unless a scope in it is picked at the greatest place, and two that
have one have the same exactly when they are the same up to the spelling of the first match of
a scope, at every level of nesting. -/
theorem expression_eq_iff (s t : Selector) :
    (s.expression? = none ↔ greatestPlace ∈ s.scopePlaces) ∧
    (s.expression? = t.expression? ↔
      s.placed = t.placed ∨ greatestPlace ∈ s.scopePlaces ∧ greatestPlace ∈ t.scopePlaces) := by
  rw [expression?_eq, expression?_eq]
  constructor
  · exact ite_eq_left_iff.trans (by simp)
  · have hplaces : s.placed = t.placed →
        (greatestPlace ∈ s.scopePlaces ↔ greatestPlace ∈ t.scopePlaces) := by
      intro hplaced
      rw [← greatestPlace_mem_placed_iff s, hplaced, greatestPlace_mem_placed_iff t]
    by_cases hs : greatestPlace ∈ s.scopePlaces <;> by_cases ht : greatestPlace ∈ t.scopePlaces
    · simp [hs, ht]
    · simp only [hs, ht, if_true, if_false, reduceCtorEq, and_false, or_false, false_iff]
      exact fun hplaced => ht ((hplaces hplaced).mp hs)
    · simp only [hs, ht, if_true, if_false, reduceCtorEq, false_and, or_false, false_iff]
      exact fun hplaced => hs ((hplaces hplaced).mpr ht)
    · simp only [hs, ht, if_false, Option.some.injEq, false_and, or_false]
      exact spelled_eq_iff s t

end Selector

end DesktopTrial
