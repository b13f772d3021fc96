/-!
# Dictionaries

Maps from text to values, kept in ascending order of their keys.  The order is
part of the type, so two dictionaries that answer every look-up alike are equal
and are written alike.
-/

namespace DesktopTrial

variable {α : Type}

/-- Puts a value under a key into an ascending list of entries. -/
def insertEntry (key : String) (value : α) : List (String × α) → List (String × α)
  | [] => [(key, value)]
  | (k, v) :: rest =>
      if key < k then (key, value) :: (k, v) :: rest
      else if key = k then (key, value) :: rest
      else (k, v) :: insertEntry key value rest

def valueUnder? (key : String) : List (String × α) → Option α
  | [] => none
  | (k, v) :: rest => if key = k then some v else valueUnder? key rest

/-- Ascending keys, each occurring once. -/
abbrev Ascending (entries : List (String × α)) : Prop :=
  entries.Pairwise fun a b => a.1 < b.1

theorem mem_insertEntry {key : String} {value : α} {entry : String × α} :
    {entries : List (String × α)} → entry ∈ insertEntry key value entries →
      entry = (key, value) ∨ entry ∈ entries
  | [], hmem => by simpa [insertEntry] using hmem
  | (k, v) :: rest, hmem => by
      unfold insertEntry at hmem
      split at hmem
      · simpa using hmem
      · split at hmem
        · rcases List.mem_cons.mp hmem with h | h
          · exact Or.inl h
          · exact Or.inr (List.mem_cons_of_mem _ h)
        · rcases List.mem_cons.mp hmem with h | h
          · exact Or.inr (h ▸ List.mem_cons_self)
          · rcases mem_insertEntry h with h | h
            · exact Or.inl h
            · exact Or.inr (List.mem_cons_of_mem _ h)

theorem ascending_insertEntry (key : String) (value : α) :
    {entries : List (String × α)} → Ascending entries →
      Ascending (insertEntry key value entries)
  | [], _ => by simp [insertEntry]
  | (k, v) :: rest, hordered => by
      have hrest := (List.pairwise_cons.mp hordered).2
      have hhead := (List.pairwise_cons.mp hordered).1
      unfold insertEntry
      split
      · rename_i hlt
        refine List.pairwise_cons.mpr ⟨fun entry hmem => ?_, hordered⟩
        rcases List.mem_cons.mp hmem with h | h
        · exact h ▸ hlt
        · exact String.lt_trans hlt (hhead entry h)
      · split
        · rename_i heq
          exact List.pairwise_cons.mpr ⟨fun entry hmem => heq ▸ hhead entry hmem, hrest⟩
        · rename_i hnlt hne
          refine List.pairwise_cons.mpr
            ⟨fun entry hmem => ?_, ascending_insertEntry key value hrest⟩
          rcases mem_insertEntry hmem with h | h
          · exact h ▸ Std.lt_of_le_of_ne hnlt (Ne.symm hne)
          · exact hhead entry h

/-- A map from text to values in ascending order of keys. -/
structure Dictionary (α : Type) where
  entries : List (String × α)
  ascending : Ascending entries

namespace Dictionary

instance [DecidableEq α] : DecidableEq (Dictionary α) := fun a b =>
  if h : a.entries = b.entries then
    isTrue (by cases a; cases b; cases h; rfl)
  else isFalse fun heq => h (heq ▸ rfl)

def empty : Dictionary α := ⟨[], List.Pairwise.nil⟩

instance : EmptyCollection (Dictionary α) := ⟨empty⟩

instance : Inhabited (Dictionary α) := ⟨empty⟩

/-- Puts a value under a key, in place of the value that was there. -/
def insert (key : String) (value : α) (d : Dictionary α) : Dictionary α :=
  ⟨insertEntry key value d.entries, ascending_insertEntry key value d.ascending⟩

def find? (key : String) (d : Dictionary α) : Option α := valueUnder? key d.entries

def has (key : String) (d : Dictionary α) : Bool := (d.find? key).isSome

/-- Puts the pairs in one after another, so that the last of equal keys stays. -/
def insertAll (pairs : List (String × α)) (d : Dictionary α) : Dictionary α :=
  pairs.foldl (fun d pair => d.insert pair.1 pair.2) d

def ofList (pairs : List (String × α)) : Dictionary α := insertAll pairs empty

/-- Every entry of `newer`, and those of `older` under other keys. -/
def merge (older newer : Dictionary α) : Dictionary α := older.insertAll newer.entries

end Dictionary

theorem valueUnder?_insertEntry (key key' : String) (value : α) :
    (entries : List (String × α)) →
      valueUnder? key' (insertEntry key value entries) =
        if key' = key then some value else valueUnder? key' entries
  | [] => rfl
  | (k, v) :: rest => by
      unfold insertEntry
      split
      · simp [valueUnder?]
      · split
        · rename_i heq
          subst heq
          by_cases h : key' = key <;> simp [valueUnder?, h]
        · rename_i _ hne
          by_cases h : key' = k
          · subst h
            simp [valueUnder?, Ne.symm hne]
          · simp [valueUnder?, h, valueUnder?_insertEntry key key' value rest]

@[simp]
theorem Dictionary.find?_insert (key key' : String) (value : α) (d : Dictionary α) :
    (d.insert key value).find? key' = if key' = key then some value else d.find? key' :=
  valueUnder?_insertEntry key key' value d.entries

theorem valueUnder?_eq_none {key : String} {entries : List (String × α)}
    (hother : ∀ entry ∈ entries, key ≠ entry.1) : valueUnder? key entries = none := by
  induction entries with
  | nil => rfl
  | cons entry rest ih =>
      rw [List.forall_mem_cons] at hother
      exact (if_neg hother.1).trans (ih hother.2)

/-- With ascending keys every entry is found. -/
theorem valueUnder?_of_mem {key : String} {value : α} {entries : List (String × α)}
    (hascending : Ascending entries) (hmember : (key, value) ∈ entries) :
    valueUnder? key entries = some value := by
  induction entries with
  | nil => cases hmember
  | cons entry rest ih =>
      obtain ⟨hless, hrest⟩ := List.pairwise_cons.mp hascending
      rcases List.mem_cons.mp hmember with rfl | hmember
      · exact if_pos rfl
      · have hother : key ≠ entry.1 := (String.ne_of_lt (hless _ hmember)).symm
        exact (if_neg hother).trans (ih hrest hmember)

/-- A key in front of all others is not found. -/
theorem valueUnder?_of_lt {key k : String} {v : α} {rest : List (String × α)}
    (hascending : Ascending ((k, v) :: rest)) (hless : key < k) :
    valueUnder? key ((k, v) :: rest) = none := by
  apply valueUnder?_eq_none
  rw [List.forall_mem_cons]
  refine ⟨String.ne_of_lt hless, fun entry hentry => ?_⟩
  exact String.ne_of_lt (String.lt_trans hless (List.rel_of_pairwise_cons hascending hentry))

theorem valueUnder?_append (key : String) (front back : List (String × α)) :
    valueUnder? key (front ++ back) = (valueUnder? key front).or (valueUnder? key back) := by
  induction front with
  | nil => rfl
  | cons entry front ih =>
      rw [List.cons_append, valueUnder?, valueUnder?, ih]
      split <;> rfl

/-- With ascending keys the values under all keys determine the entries. -/
theorem Ascending.ext : {entries others : List (String × α)} → Ascending entries →
    Ascending others → (∀ key, valueUnder? key entries = valueUnder? key others) →
      entries = others
  | [], [], _, _, _ => rfl
  | [], (k, v) :: _, _, _, hsame => by simpa [valueUnder?] using hsame k
  | (k, v) :: _, [], _, _, hsame => by simpa [valueUnder?] using hsame k
  | (k, v) :: rest, (k', v') :: rest', hentries, hothers, hsame => by
      -- The smaller of two first keys would be missing on the other side.
      have hfound : valueUnder? k ((k, v) :: rest) = some v := if_pos rfl
      have hfound' : valueUnder? k' ((k', v') :: rest') = some v' := if_pos rfl
      by_cases hkey : k = k'
      · subst hkey
        have hvalue : v = v' := Option.some.inj (hfound.symm.trans ((hsame k).trans hfound'))
        have hrest : ∀ key, valueUnder? key rest = valueUnder? key rest' := by
          intro key
          by_cases hfirst : key = k
          · have hnone : valueUnder? key rest = none := valueUnder?_eq_none fun entry hentry =>
              hfirst ▸ String.ne_of_lt (List.rel_of_pairwise_cons hentries hentry)
            have hnone' : valueUnder? key rest' = none := valueUnder?_eq_none fun entry hentry =>
              hfirst ▸ String.ne_of_lt (List.rel_of_pairwise_cons hothers hentry)
            rw [hnone, hnone']
          · simpa [valueUnder?, hfirst] using hsame key
        rw [hvalue, Ascending.ext (List.pairwise_cons.mp hentries).2
          (List.pairwise_cons.mp hothers).2 hrest]
      · by_cases hless : k < k'
        · have hsame' := hsame k
          rw [hfound, valueUnder?_of_lt hothers hless] at hsame'
          cases hsame'
        · have hless' : k' < k := Std.lt_of_le_of_ne hless (Ne.symm hkey)
          have hsame' := hsame k'
          rw [hfound', valueUnder?_of_lt hentries hless'] at hsame'
          cases hsame'

namespace Dictionary

/-- Dictionaries that answer every look-up alike are equal. -/
theorem ext_find? {a b : Dictionary α} (hsame : ∀ key, a.find? key = b.find? key) : a = b := by
  obtain ⟨entries, hentries⟩ := a
  obtain ⟨others, hothers⟩ := b
  obtain rfl : entries = others := Ascending.ext hentries hothers hsame
  rfl

@[simp]
theorem find?_empty (key : String) : (empty : Dictionary α).find? key = none := rfl

/-- Under a key is the value that was put in, or else the one that was there. -/
theorem find?_insertAll {pairs : List (String × α)} (hascending : Ascending pairs)
    (key : String) (d : Dictionary α) :
    (d.insertAll pairs).find? key = (valueUnder? key pairs).or (d.find? key) := by
  induction pairs generalizing d with
  | nil => rfl
  | cons pair pairs ih =>
      obtain ⟨k, v⟩ := pair
      obtain ⟨hless, hrest⟩ := List.pairwise_cons.mp hascending
      change ((d.insert k v).insertAll pairs).find? key = _
      rw [ih hrest, find?_insert, valueUnder?]
      by_cases hkey : key = k
      · have hnone : valueUnder? key pairs = none :=
          valueUnder?_eq_none fun entry hentry => hkey ▸ String.ne_of_lt (hless entry hentry)
        rw [hnone, if_pos hkey, if_pos hkey]
        rfl
      · rw [if_neg hkey, if_neg hkey]

/-- Of several values that are put in under a key, the last one stays. -/
theorem find?_insertAll_reverse (pairs : List (String × α)) (key : String) (d : Dictionary α) :
    (d.insertAll pairs).find? key = (valueUnder? key pairs.reverse).or (d.find? key) := by
  induction pairs generalizing d with
  | nil => rfl
  | cons pair pairs ih =>
      change ((d.insert pair.1 pair.2).insertAll pairs).find? key = _
      rw [ih, find?_insert, List.reverse_cons, valueUnder?_append, Option.or_assoc, valueUnder?,
        valueUnder?]
      split <;> rfl

theorem find?_merge (older newer : Dictionary α) (key : String) :
    (older.merge newer).find? key = (newer.find? key).or (older.find? key) :=
  find?_insertAll newer.ascending key older

/-- To merge the same entries in again changes nothing. -/
theorem merge_merge_self (older newer : Dictionary α) :
    (older.merge newer).merge newer = older.merge newer := by
  refine ext_find? fun key => ?_
  rw [find?_merge, find?_merge, ← Option.or_assoc, Option.or_self]

theorem has_merge (older newer : Dictionary α) (key : String) :
    (older.merge newer).has key = (older.has key || newer.has key) := by
  rw [has, find?_merge, Option.isSome_or, Bool.or_comm]
  rfl

/-- Every entry that was merged in is found. -/
theorem find?_merge_of_mem {older newer : Dictionary α} {key : String} {value : α}
    (hmember : (key, value) ∈ newer.entries) : (older.merge newer).find? key = some value := by
  rw [find?_merge, find?, valueUnder?_of_mem newer.ascending hmember, Option.some_or]

end Dictionary

end DesktopTrial
