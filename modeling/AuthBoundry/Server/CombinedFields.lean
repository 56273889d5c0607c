import AuthBoundry.Server.RequestReader
import Mathlib.Data.List.Flatten

/-!
# Fields that are combined

The map of the headers keeps the last field of a name and trims its value.  It
holds the combined values exactly if no two fields share a name and no value is
trimmed.
-/

namespace AuthBoundry

open Library

theorem trimList_sublist (text : List Char) :
    List.Sublist (trimList text) text := by
  unfold trimList
  have turned := (List.dropWhile_sublist isWhitespace
    (l := (text.dropWhile isWhitespace).reverse)).reverse
  rw [List.reverse_reverse] at turned
  exact turned.trans (List.dropWhile_sublist isWhitespace)

theorem length_utf8_trim_le (text : String) :
    (utf8 (trim text)).length ≤ (utf8 text).length := by
  have whole : utf8 text = text.toList.flatMap String.utf8EncodeChar := by
    rw [← utf8_ofList, String.ofList_toList]
  unfold trim
  rw [utf8_ofList, whole]
  exact ((trimList_sublist text.toList).flatMap _).length_le

theorem length_le_intercalate {separator value : List UInt8}
    {values : List (List UInt8)} (member : value ∈ values) :
    value.length ≤ (List.intercalate separator values).length := by
  induction values with
  | nil => cases member
  | cons first rest induction =>
      cases rest with
      | nil =>
          rw [List.mem_singleton.mp member, List.intercalate_singleton]
      | cons second rest =>
          rw [List.intercalate_cons_cons]
          simp only [List.length_append]
          rcases List.mem_cons.mp member with same | later
          · rw [same]
            omega
          · have shorter := induction later
            omega

/-- The combination of several values is longer than each of them. -/
theorem length_lt_intercalate {separator value first second : List UInt8}
    {rest : List (List UInt8)} (separated : separator ≠ [])
    (member : value ∈ first :: second :: rest) :
    value.length <
      (List.intercalate separator (first :: second :: rest)).length := by
  have positive := List.length_pos_iff.mpr separated
  rw [List.intercalate_cons_cons]
  simp only [List.length_append]
  rcases List.mem_cons.mp member with same | later
  · rw [same]
    omega
  · have shorter := @length_le_intercalate separator _ _ later
    omega

section Pairs

variable {pairs : List (String × String)}

def sentPair (pair : String × String) : String × List UInt8 :=
  (pair.1, utf8 pair.2)

def readPair (pair : String × String) : String × String :=
  (pair.1, trim pair.2)

theorem getElem?_readPairs (name : String) :
    (collectPairs (pairs.map readPair))[name]? =
      (pairs.reverse.find? fun pair => pair.1 == name).map fun pair =>
        trim pair.2 := by
  unfold collectPairs
  rw [KeyedMap.getElem?_foldl_insert Prod.fst Prod.snd, ← List.map_reverse,
    List.find?_map, Option.map_map, Std.ExtTreeMap.getElem?_empty,
    Option.or_none]
  rfl

theorem combineFields_sentPairs (name : String) :
    combineFields (pairs.map sentPair) name =
      match (pairs.filter fun pair => pair.1 == name).map fun pair =>
        utf8 pair.2 with
      | [] => none
      | values => some (List.intercalate (asciiBytes [',', ' ']) values) := by
  unfold combineFields
  rw [List.filter_map, List.map_map]
  rfl

/-- The last pair of a name is the only one if its value is the combined
one. -/
theorem filter_of_combined {pair : String × String} (member : pair ∈ pairs)
    (combined : (collectPairs (pairs.map readPair))[pair.1]?.map utf8 =
      combineFields (pairs.map sentPair) pair.1) :
    (pairs.filter fun other => other.1 == pair.1) = [pair] ∧
      trim pair.2 = pair.2 := by
  rw [getElem?_readPairs, combineFields_sentPairs] at combined
  have listed : pair ∈ pairs.filter fun other => other.1 == pair.1 :=
    List.mem_filter.mpr ⟨member, beq_self_eq_true pair.1⟩
  cases found : pairs.reverse.find? fun other => other.1 == pair.1 with
  | none =>
      have missed := List.find?_eq_none.mp found pair
        (List.mem_reverse.mpr member)
      exact absurd (beq_self_eq_true pair.1) missed
  | some last =>
      have lastListed : last ∈ pairs.filter fun other => other.1 == pair.1 :=
        List.mem_filter.mpr
          ⟨List.mem_reverse.mp (List.mem_of_find?_eq_some found),
            by simpa using List.find?_some found⟩
      rw [found] at combined
      have short := length_utf8_trim_le last.2
      match chosen : pairs.filter fun other => other.1 == pair.1 with
      | [] =>
          rw [chosen] at listed
          cases listed
      | [only] =>
          rw [chosen] at listed lastListed combined
          have isPair := List.mem_singleton.mp listed
          have isLast := List.mem_singleton.mp lastListed
          subst isPair isLast
          simp only [Option.map_some, List.map_cons, List.map_nil,
            List.intercalate_singleton, Option.some.injEq] at combined
          exact ⟨chosen, utf8_inj combined⟩
      | first :: second :: rest =>
          rw [chosen] at lastListed combined
          have value : utf8 last.2 ∈
              utf8 first.2 :: utf8 second.2 ::
                rest.map fun pair => utf8 pair.2 :=
            List.mem_map_of_mem (f := fun pair => utf8 pair.2) lastListed
          have separated : asciiBytes [',', ' '] ≠ [] := by decide
          have longer := length_lt_intercalate separated value
          have same := congrArg List.length (Option.some.inj combined)
          simp only [List.map_cons] at same
          omega

theorem count_names (name : String) :
    (pairs.map Prod.fst).count name =
      (pairs.filter fun pair => pair.1 == name).length := by
  rw [List.count_eq_countP, List.countP_map, List.countP_eq_length_filter]
  rfl

/-- The map holds the combined values exactly if every name is used once and
every value is kept. -/
theorem collected_iff :
    (∀ name, (collectPairs (pairs.map readPair))[name]?.map utf8 =
        combineFields (pairs.map sentPair) name) ↔
      (pairs.map Prod.fst).Nodup ∧ ∀ pair ∈ pairs, trim pair.2 = pair.2 := by
  constructor
  · intro combined
    have each : ∀ pair ∈ pairs,
        (pairs.filter fun other => other.1 == pair.1) = [pair] ∧
          trim pair.2 = pair.2 :=
      fun pair member => filter_of_combined member (combined pair.1)
    refine ⟨?_, fun pair member => (each pair member).2⟩
    rw [List.nodup_iff_count_le_one]
    intro name
    rw [count_names]
    by_cases used : name ∈ pairs.map Prod.fst
    · obtain ⟨pair, member, rfl⟩ := List.mem_map.mp used
      rw [(each pair member).1]
      exact Nat.le_refl 1
    · rw [← count_names, List.count_eq_zero.mpr used]
      exact Nat.zero_le 1
  · intro ⟨single, tight⟩ name
    rw [getElem?_readPairs, combineFields_sentPairs]
    cases found : pairs.reverse.find? fun pair => pair.1 == name with
    | none =>
        have empty : (pairs.filter fun pair => pair.1 == name) = [] := by
          rw [List.filter_eq_nil_iff]
          intro pair member
          exact List.find?_eq_none.mp found pair (List.mem_reverse.mpr member)
        rw [empty]
        rfl
    | some last =>
        have member := List.mem_reverse.mp (List.mem_of_find?_eq_some found)
        have named : last.1 = name := by
          simpa using List.find?_some found
        have few := List.nodup_iff_count_le_one.mp single name
        rw [count_names] at few
        have listed : last ∈ pairs.filter fun pair => pair.1 == name :=
          List.mem_filter.mpr ⟨member, beq_iff_eq.mpr named⟩
        obtain ⟨only, chosen⟩ := List.length_eq_one_iff.mp
          (Nat.le_antisymm few (List.length_pos_of_mem listed))
        rw [chosen] at listed ⊢
        have isOnly := List.mem_singleton.mp listed
        subst isOnly
        simp only [Option.map_some, List.map_cons, List.map_nil,
          List.intercalate_singleton, tight last member]

end Pairs

end AuthBoundry
