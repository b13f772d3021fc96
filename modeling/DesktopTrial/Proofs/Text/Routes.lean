import DesktopTrial.Url
import Mathlib.Data.List.TakeWhile

/-!
# Routes behind an origin

The origin of a URL with a route behind it is a URL whose path is the route.
-/

namespace DesktopTrial

namespace Text

variable {word text front rest : List Char}

theorem splitOnce?_word (hword : word ≠ []) (rest : List Char) :
    splitOnce? word (word ++ rest) = some ([], rest) := by
  cases word with
  | nil => contradiction
  | cons c word =>
      rw [List.cons_append, splitOnce?, if_pos, ← List.cons_append, List.drop_left]
      rw [List.isPrefixOf_iff_prefix, ← List.cons_append]
      exact List.prefix_append _ _

theorem eq_of_splitOnce? (hsplit : splitOnce? word text = some (front, rest)) :
    text = front ++ (word ++ rest) := by
  induction text generalizing front with
  | nil =>
      rw [splitOnce?] at hsplit
      split at hsplit
      · rename_i hempty
        cases hsplit
        rw [List.isEmpty_iff.mp hempty]
        rfl
      · cases hsplit
  | cons c text ih =>
      rw [splitOnce?] at hsplit
      split at hsplit
      · rename_i hhere
        cases hsplit
        exact (List.prefix_iff_eq_append.mp (List.isPrefixOf_iff_prefix.mp hhere)).symm
      · obtain ⟨parts, hparts, heq⟩ := Option.map_eq_some_iff.mp hsplit
        cases heq
        rw [List.cons_append, ← ih hparts]

/-- Where a word occurs first does not depend on what stands behind it there. -/
theorem splitOnce?_replace (hword : word ≠ []) (hsplit : splitOnce? word text = some (front, rest))
    (other : List Char) : splitOnce? word (front ++ (word ++ other)) = some (front, other) := by
  induction text generalizing front with
  | nil => simp [splitOnce?, hword] at hsplit
  | cons c text ih =>
      rw [splitOnce?] at hsplit
      split at hsplit
      · cases hsplit
        exact splitOnce?_word hword other
      · rename_i hlater
        obtain ⟨⟨between, behind⟩, hparts, heq⟩ := Option.map_eq_some_iff.mp hsplit
        cases heq
        have hnone : ¬word.isPrefixOf (c :: (between ++ (word ++ other))) = true := by
          intro hhere
          apply hlater
          rw [List.isPrefixOf_iff_prefix] at hhere ⊢
          -- An occurrence at the start would lie within the part that both texts share.
          have hshared : word <+: c :: between ++ word := by
            apply List.prefix_of_prefix_length_le hhere
            · rw [← List.cons_append, ← List.append_assoc]
              exact List.prefix_append _ _
            · rw [List.length_append]
              exact Nat.le_add_left _ _
          rw [eq_of_splitOnce? hparts, ← List.cons_append, ← List.append_assoc]
          exact hshared.trans (List.prefix_append _ _)
        rw [List.cons_append, splitOnce?, if_neg hnone, ih hparts]
        rfl

end Text

namespace Url

/-- Where a scheme is marked does not depend on characters in front that begin no mark. -/
theorem splitOnce?_skip {name : List Char} (hname : ':' ∉ name) (text : List Char) :
    Text.splitOnce? schemeMark (name ++ text) =
      (Text.splitOnce? schemeMark text).map fun parts => (name ++ parts.1, parts.2) := by
  induction name with
  | nil => exact Option.map_id'.symm
  | cons c name ih =>
      rw [List.mem_cons, not_or] at hname
      obtain ⟨hc, hname⟩ := hname
      have hlater : ¬schemeMark.isPrefixOf (c :: (name ++ text)) = true := by
        rw [List.isPrefixOf_iff_prefix, schemeMark, List.cons_prefix_cons]
        exact fun hmark => hc hmark.1
      rw [List.cons_append, Text.splitOnce?, if_neg hlater, ih hname, Option.map_map]
      rfl

/-- A route begins with a slash and has neither query nor fragment. -/
structure IsRoute (route : String) : Prop where
  slash : route.toList.head? = some '/'
  bare : ∀ c ∈ route.toList, endsPath c = false

theorem path_origin_append {url route : String} (habsolute : isAbsolute url = true)
    (hroute : IsRoute route) : path (origin url ++ route) = route := by
  obtain ⟨⟨scheme, rest⟩, hsplit⟩ := Option.isSome_iff_exists.mp habsolute
  have hauthority : ∀ c ∈ rest.takeWhile (· != '/'), (c != '/') = true :=
    fun _ hmember => List.mem_takeWhile_imp (p := (· != '/')) hmember
  have hchars : (origin url ++ route).toList =
      scheme ++ (schemeMark ++ (rest.takeWhile (· != '/') ++ route.toList)) := by
    rw [String.toList_append, origin, String.toList_ofList, originChars, hsplit]
    simp only [List.append_assoc]
  have hbehind : afterScheme (origin url ++ route).toList =
      rest.takeWhile (· != '/') ++ route.toList := by
    rw [afterScheme, hchars, Text.splitOnce?_replace (by decide) hsplit]
  obtain ⟨tail, htail⟩ := List.head?_eq_some_iff.mp hroute.slash
  have hpath : (rest.takeWhile (· != '/') ++ route.toList).dropWhile (· != '/') =
      route.toList := by
    rw [List.dropWhile_append_of_pos hauthority, htail, List.dropWhile_cons_of_neg (by decide)]
  have hwhole : route.toList.takeWhile (fun c => !endsPath c) = route.toList := by
    rw [List.takeWhile_eq_self_iff]
    intro c hmember
    rw [hroute.bare c hmember]
    rfl
  rw [path, pathChars, hbehind, hpath]
  split
  · rename_i hempty
    rw [hempty] at htail
    cases htail
  · rw [hwhole, String.ofList_toList]

end Url

end DesktopTrial
