import AuthBoundry.Boundary.Runtime
import AuthBoundry.Discovery.Routes
import AuthBoundry.Library.JsonText
import AuthBoundry.Library.Parts

/-!
# The words that name resources

Discovery and the boundary each take the first part of a path to its singular.
A route's path is normalized for the one and taken as it is for the other.
-/

namespace AuthBoundry

open Discovery
open Library
open scoped Library.Listed

/-! ## Singulars -/

/-- What either side may make of a word. -/
def IsSingularOf (word result : String) : Prop :=
  result = word ∨ word = result ++ "s" ∨
    ∃ stem, word = stem ++ "ies" ∧ result = stem ++ "y"

theorem endsWith_iff {finish text : String} :
    Discovery.endsWith finish text = true ↔ ∃ stem, text = stem ++ finish := by
  unfold Discovery.endsWith
  rw [Option.isSome_iff_exists]
  exact exists_congr fun _ => stripFinish_eq_some_iff

theorem boundary_isSingularOf (word : String) :
    IsSingularOf word (singularResource word) := by
  unfold singularResource
  cases ies : stripFinish "ies" word with
  | some stem => exact .inr (.inr ⟨stem, stripFinish_eq_some_iff.mp ies, rfl⟩)
  | none =>
      cases s : stripFinish "s" word with
      | some stem => exact .inr (.inl (stripFinish_eq_some_iff.mp s))
      | none => exact .inl rfl

theorem trimFinish_s {word stem : String} (ends : word = stem ++ "s")
    (single : Discovery.endsWith "ss" word = false) :
    trimFinish "s" word = stem := by
  apply trimFinish_once _ ends
  · intro other more
    have doubled : Discovery.endsWith "ss" word = true := by
      apply endsWith_iff.mpr
      refine ⟨other, ?_⟩
      rw [ends, more, String.append_assoc]
      rfl
    rw [single] at doubled
    cases doubled
  · decide

theorem discovery_isSingularOf (word : String) :
    IsSingularOf word (Discovery.singularResource word) := by
  unfold Discovery.singularResource
  cases ies : stripFinish "ies" word with
  | some stem => exact .inr (.inr ⟨stem, stripFinish_eq_some_iff.mp ies, rfl⟩)
  | none =>
      dsimp only
      split
      · rename_i ending
        rw [Bool.and_eq_true, Bool.not_eq_true'] at ending
        obtain ⟨stem, ends⟩ := endsWith_iff.mp ending.1
        rw [trimFinish_s ends ending.2]
        exact .inr (.inl ends)
      · exact .inl rfl

/-- The two sides agree about every word that does not end in a double s. -/
theorem singularResource_agree {word : String}
    (single : Discovery.endsWith "ss" word = false) :
    Discovery.singularResource word = singularResource word := by
  unfold Discovery.singularResource singularResource
  cases ies : stripFinish "ies" word with
  | some stem => rfl
  | none =>
      cases s : stripFinish "s" word with
      | some stem =>
          have ends := stripFinish_eq_some_iff.mp s
          have ending : (Discovery.endsWith "s" word &&
              !Discovery.endsWith "ss" word) = true := by
            rw [single, endsWith_iff.mpr ⟨stem, ends⟩]
            rfl
          dsimp only
          rw [if_pos ending, trimFinish_s ends single]
          rfl
      | none =>
          have ending : ¬(Discovery.endsWith "s" word &&
              !Discovery.endsWith "ss" word) = true := by
            unfold Discovery.endsWith
            rw [s]
            exact Bool.false_ne_true
          dsimp only
          rw [if_neg ending]
          rfl

/-- They disagree about every word that does. -/
theorem singularResource_ne {word : String}
    (double : Discovery.endsWith "ss" word = true) :
    Discovery.singularResource word ≠ singularResource word := by
  obtain ⟨stem, ends⟩ := endsWith_iff.mp double
  have oneLess : word = (stem ++ "s") ++ "s" := by
    rw [ends, String.append_assoc]
    rfl
  have noIes : stripFinish "ies" word = none := by
    apply stripFinish_eq_none_iff.mpr
    intro other same
    have texts := congrArg String.toList (ends.symm.trans same)
    have turned := congrArg List.reverse texts
    simp [String.toList_append] at turned
  have kept : Discovery.singularResource word = word := by
    unfold Discovery.singularResource
    rw [noIes, double]
    simp
  have shortened : singularResource word = stem ++ "s" := by
    unfold singularResource
    rw [noIes, stripFinish_eq_some_iff.mpr oneLess]
    rfl
  rw [kept, shortened]
  intro same
  have lengths := congrArg String.length (oneLess.symm.trans same)
  simp [String.length_append] at lengths

namespace IsSingularOf

variable {word result : String}

theorem length_le (singular : IsSingularOf word result) :
    result.length ≤ word.length := by
  rcases singular with rfl | rfl | ⟨stem, rfl, rfl⟩
  · exact Nat.le_refl _
  · rw [String.length_append]
    omega
  · rw [String.length_append, String.length_append]
    exact Nat.add_le_add_left (by decide) _

theorem mem_or_eq (singular : IsSingularOf word result) {character : Char}
    (member : character ∈ result.toList) :
    character ∈ word.toList ∨ character = 'y' := by
  rcases singular with rfl | rfl | ⟨stem, rfl, rfl⟩
  · exact .inl member
  · rw [String.toList_append]
    exact .inl (List.mem_append_left _ member)
  · rw [String.toList_append] at member ⊢
    rcases List.mem_append.mp member with inStem | isY
    · exact .inl (List.mem_append_left _ inStem)
    · exact .inr (List.mem_singleton.mp isY)

/-- Only letters of the endings are lost. -/
theorem mem_of_mem (singular : IsSingularOf word result) {character : Char}
    (member : character ∈ word.toList) (kept : character ∉ ['i', 'e', 's']) :
    character ∈ result.toList := by
  rcases singular with rfl | rfl | ⟨stem, rfl, rfl⟩
  · exact member
  · rw [String.toList_append] at member
    rcases List.mem_append.mp member with inStem | isEnding
    · exact inStem
    · rw [List.mem_singleton.mp isEnding] at kept
      exact (kept (by decide)).elim
  · rw [String.toList_append] at member ⊢
    rcases List.mem_append.mp member with inStem | isEnding
    · exact List.mem_append_left _ inStem
    · exact (kept isEnding).elim

theorem head?_of_head? (singular : IsSingularOf word result)
    {character : Char} (isHead : word.toList.head? = some character)
    (kept : character ∉ ['i', 'e', 's']) :
    result.toList.head? = some character := by
  have isStem : ∀ stem ending : String,
      (∀ other ∈ ending.toList, other ∈ ['i', 'e', 's']) →
      (stem ++ ending).toList.head? = some character →
      stem.toList.head? = some character := by
    intro stem ending letters isHead
    rw [String.toList_append, List.head?_append] at isHead
    cases first : stem.toList.head? with
    | some other =>
        rw [first] at isHead
        exact isHead
    | none =>
        rw [first] at isHead
        exact (kept (letters _ (List.mem_of_head? isHead))).elim
  rcases singular with rfl | rfl | ⟨stem, rfl, rfl⟩
  · exact isHead
  · exact isStem result "s" (by decide) isHead
  · rw [String.toList_append, List.head?_append,
      isStem stem "ies" (by decide) isHead]
    rfl

theorem head?_or_eq (singular : IsSingularOf word result) {character : Char}
    (isHead : result.toList.head? = some character) :
    word.toList.head? = some character ∨ character = 'y' := by
  rcases singular with rfl | rfl | ⟨stem, rfl, rfl⟩
  · exact .inl isHead
  · rw [String.toList_append, List.head?_append, isHead]
    exact .inl rfl
  · rw [String.toList_append, List.head?_append] at isHead ⊢
    cases first : stem.toList.head? with
    | some other =>
        rw [first] at isHead
        exact .inl isHead
    | none =>
        rw [first] at isHead
        exact .inr (Option.some.inj isHead).symm

theorem eq_of_getLast? (singular : IsSingularOf word result)
    {character : Char} (isLast : word.toList.getLast? = some character)
    (other : character ≠ 's') : result = word := by
  rcases singular with rfl | rfl | ⟨stem, rfl, rfl⟩
  · rfl
  · rw [String.toList_append, List.getLast?_append] at isLast
    exact (other (Option.some.inj isLast).symm).elim
  · rw [String.toList_append, List.getLast?_append] at isLast
    exact (other (Option.some.inj isLast).symm).elim

end IsSingularOf

/-! ## Normal paths -/

theorem toLower_eq_slash_iff {character : Char} :
    character.toLower = '/' ↔ character = '/' := by
  rcases toLower_cases character with same | ⟨bounds, moved⟩
  · rw [same]
  · constructor
    · intro isSlash
      rw [isSlash] at moved
      have slash : '/'.toNat = 47 := rfl
      omega
    · intro isSlash
      rw [isSlash]
      rfl

theorem mem_pathSegments {path part : String}
    (member : part ∈ pathSegments path) :
    part ≠ "" ∧ '/' ∉ part.toList := by
  unfold pathSegments at member
  rw [segmentsOf_eq] at member
  obtain ⟨segment, listed, rfl⟩ := List.mem_map.mp member
  rw [String.toList_ofList]
  constructor
  · intro empty
    have isNil := congrArg String.toList empty
    rw [String.toList_ofList] at isNil
    exact ne_nil_of_mem_partsOf listed isNil
  · exact separator_notMem_segment _ _ (List.mem_of_mem_filter listed)

theorem normalizePart_whole {part : String} (nonempty : part ≠ "")
    (whole : '/' ∉ part.toList) :
    normalizePart part ≠ "" ∧ '/' ∉ (normalizePart part).toList := by
  unfold normalizePart
  split
  · decide
  · unfold asciiLower
    rw [String.toList_ofList]
    constructor
    · intro empty
      have isNil := congrArg String.toList empty
      rw [String.toList_ofList] at isNil
      exact nonempty (String.toList_inj.mp (List.map_eq_nil_iff.mp isNil))
    · intro member
      obtain ⟨character, listed, lowered⟩ := List.mem_map.mp member
      rw [toLower_eq_slash_iff.mp lowered] at listed
      exact whole listed

theorem pathSegments_join {parts : List String}
    (whole : ∀ part ∈ parts, part ≠ "" ∧ '/' ∉ part.toList) :
    pathSegments ("/" ++ "/".intercalate parts) = parts := by
  unfold pathSegments
  rw [segmentsOf_eq, String.toList_append, String.toList_intercalate]
  have joined : ("/".toList ++ ("/".toList).intercalate
      (parts.map String.toList)) =
        '/' :: ['/'].intercalate (parts.map String.toList) :=
    rfl
  rw [joined, partsOf_separator_cons]
  unfold partsOf
  cases parts with
  | nil => rfl
  | cons first rest =>
      have nonempty : (first :: rest).map String.toList ≠ [] := by simp
      have apart : ∀ segment ∈ (first :: rest).map String.toList,
          '/' ∉ segment := by
        intro segment member
        obtain ⟨part, listed, rfl⟩ := List.mem_map.mp member
        exact (whole part listed).2
      rw [List.splitOn_intercalate '/' apart nonempty]
      have all : (((first :: rest).map String.toList).filter
          fun segment => !segment.isEmpty) =
            (first :: rest).map String.toList := by
        apply List.filter_eq_self.mpr
        intro segment member
        obtain ⟨part, listed, rfl⟩ := List.mem_map.mp member
        have filledIn := (whole part listed).1
        cases text : part.toList with
        | nil => exact (filledIn (String.toList_inj.mp text)).elim
        | cons _ _ => rfl
      rw [all, List.map_map]
      apply List.map_id''
      intro part
      exact String.ofList_toList

/-- The segments of the normal form are the normal forms of the segments, once
the ends are trimmed. -/
theorem pathSegments_normalizePath (path : String) :
    pathSegments (normalizePath path) =
      (pathSegments (trim path)).map normalizePart := by
  unfold normalizePath
  dsimp only
  split
  · rename_i root
    rw [beq_iff_eq.mp root]
    decide
  · apply pathSegments_join
    intro part member
    obtain ⟨old, listed, rfl⟩ := List.mem_map.mp member
    obtain ⟨nonempty, whole⟩ := mem_pathSegments listed
    exact normalizePart_whole nonempty whole

/-! ## Parameters and blanks -/

theorem stripStart_char_iff {start : Char} {part : List Char} :
    (stripStart (String.ofList [start]) (String.ofList part)).isSome = true ↔
      part.head? = some start := by
  rw [Option.isSome_iff_exists]
  constructor
  · intro ⟨rest, found⟩
    have texts := congrArg String.toList (stripStart_eq_some_iff.mp found)
    rw [String.toList_append, String.toList_ofList,
      String.toList_ofList] at texts
    rw [texts]
    rfl
  · intro isHead
    obtain ⟨rest, rfl⟩ := List.head?_eq_some_iff.mp isHead
    refine ⟨String.ofList rest, stripStart_eq_some_iff.mpr ?_⟩
    rw [← String.ofList_append]
    rfl

theorem stripFinish_char_iff {finish : Char} {part : List Char} :
    (stripFinish (String.ofList [finish])
        (String.ofList part)).isSome = true ↔
      part.getLast? = some finish := by
  rw [Option.isSome_iff_exists]
  constructor
  · intro ⟨rest, found⟩
    have texts := congrArg String.toList (stripFinish_eq_some_iff.mp found)
    rw [String.toList_append, String.toList_ofList,
      String.toList_ofList] at texts
    rw [texts, List.getLast?_concat]
  · intro isLast
    obtain ⟨rest, rfl⟩ := List.getLast?_eq_some_iff.mp isLast
    refine ⟨String.ofList rest, stripFinish_eq_some_iff.mpr ?_⟩
    rw [← String.ofList_append]

/-- The three spellings of a parameter by their first and last characters. -/
theorem isParameterPart_iff {part : List Char} :
    isParameterPart (String.ofList part) = true ↔
      part.head? = some ':' ∨
        (part.head? = some '\x7b' ∧ part.getLast? = some '\x7d') ∨
          (part.head? = some '[' ∧ part.getLast? = some ']') := by
  unfold isParameterPart isBetween
  rw [Bool.or_eq_true, Bool.or_eq_true, Bool.and_eq_true, Bool.and_eq_true]
  have colon := @stripStart_char_iff ':' part
  have braceStart := @stripStart_char_iff '\x7b' part
  have braceFinish := @stripFinish_char_iff '\x7d' part
  have bracketStart := @stripStart_char_iff '[' part
  have bracketFinish := @stripFinish_char_iff ']' part
  rw [or_assoc]
  exact or_congr colon (or_congr (and_congr braceStart braceFinish)
    (and_congr bracketStart bracketFinish))

/-- A parameter begins with something visible. -/
theorem exists_head_of_isParameterPart {part : List Char}
    (parameter : isParameterPart (String.ofList part) = true) :
    ∃ first, part.head? = some first ∧ isWhitespace first = false := by
  rcases isParameterPart_iff.mp parameter with
    colon | ⟨brace, _⟩ | ⟨bracket, _⟩
  · exact ⟨_, colon, by decide⟩
  · exact ⟨_, brace, by decide⟩
  · exact ⟨_, bracket, by decide⟩

/-- A parameter stays one when blanks are dropped around it. -/
theorem isParameterPart_trimmed {word part before after : List Char}
    (trims : Trimmed isWhitespace word part before after)
    (parameter : isParameterPart (String.ofList word) = true) :
    isParameterPart (String.ofList part) = true := by
  have enclosed : ∀ {first last : Char}, word.head? = some first →
      word.getLast? = some last → isWhitespace first = false →
      isWhitespace last = false → part = word := by
    intro first last isHead isLast visible visibleLast
    rw [trims.cut, trims.before_eq_nil isHead visible,
      trims.after_eq_nil isLast visibleLast, List.nil_append,
      List.append_nil]
  rcases isParameterPart_iff.mp parameter with
    colon | ⟨brace, finish⟩ | ⟨bracket, finish⟩
  · exact isParameterPart_iff.mpr
      (.inl (trims.head?_trimmed colon (by decide)))
  · rwa [enclosed brace finish (by decide) (by decide)]
  · rwa [enclosed bracket finish (by decide) (by decide)]

/-! ## Shallow routes -/

def IsShallow (path word : String) : Prop :=
  pathSegments path = [word] ∨
    ∃ parameter, isParameterPart parameter = true ∧
      pathSegments path = [word, parameter]

/-- The part is what the first segment leaves when the path is trimmed; where
it leaves nothing, it is the parameter that followed. -/
def TrimsTo (word part : List Char) : Prop :=
  (∃ before after, Trimmed isWhitespace word part before after) ∨
    (∀ character ∈ word, isWhitespace character = true) ∧
      isParameterPart (String.ofList part) = true

theorem partsOf_eq_of_pathSegments {path : String} {words : List String}
    (segments : pathSegments path = words) :
    partsOf '/' path.toList = words.map String.toList := by
  unfold pathSegments at segments
  rw [segmentsOf_eq] at segments
  rw [← segments, List.map_map]
  symm
  apply List.map_id''
  intro part
  exact String.toList_ofList

theorem normal_of_shallow {path word : String}
    (shallow : IsShallow path word) :
    pathSegments (normalizePath path) = [] ∨
      ∃ part rest, part ≠ [] ∧ TrimsTo word.toList part ∧
        (rest = [] ∨ rest = [":param"]) ∧
        pathSegments (normalizePath path) =
          normalizePart (String.ofList part) :: rest := by
  obtain ⟨before, after, trims⟩ := exists_trimmed isWhitespace path.toList
  have apart : isWhitespace '/' = false := by decide
  have trimmed : pathSegments (trim path) =
      (partsOf '/' (trimList path.toList)).map String.ofList := by
    unfold pathSegments trim
    rw [segmentsOf_eq, String.toList_ofList]
  rw [pathSegments_normalizePath, trimmed]
  have present : ∀ {part}, part ∈ partsOf '/' (trimList path.toList) →
      part ≠ [] :=
    ne_nil_of_mem_partsOf
  rcases shallow with single | ⟨parameter, isParameter, pair⟩
  · rcases trims.parts_single apart (partsOf_eq_of_pathSegments single) with
      none | ⟨part, one, trimsWord⟩
    · left
      rw [show partsOf '/' (trimList path.toList) = [] from none]
      rfl
    · right
      have listed : partsOf '/' (trimList path.toList) = [part] := one
      rw [listed] at present ⊢
      exact ⟨part, [], present List.mem_cons_self,
        .inl ⟨_, _, trimsWord⟩, .inl rfl, rfl⟩
  · have isParameterText : isParameterPart
        (String.ofList parameter.toList) = true := by
      rwa [String.ofList_toList]
    obtain ⟨first, isHead, visible⟩ :=
      exists_head_of_isParameterPart isParameterText
    obtain ⟨otherPart, trimsOther, shape⟩ := trims.parts_pair apart
      (partsOf_eq_of_pathSegments pair)
      ⟨first, List.mem_of_head? isHead, visible⟩
    have otherParameter := isParameterPart_trimmed trimsOther isParameterText
    right
    rcases shape with ⟨one, blankWord⟩ | ⟨part, trimsWord, two⟩
    · have listed : partsOf '/' (trimList path.toList) = [otherPart] := one
      rw [listed] at present ⊢
      exact ⟨otherPart, [], present List.mem_cons_self,
        .inr ⟨blankWord, otherParameter⟩, .inl rfl, rfl⟩
    · have listed : partsOf '/' (trimList path.toList) =
          [part, otherPart] := two
      rw [listed] at present ⊢
      refine ⟨part, [":param"], present List.mem_cons_self,
        .inl ⟨_, _, trimsWord⟩, .inr rfl, ?_⟩
      have normal : normalizePart (String.ofList otherPart) = ":param" := by
        unfold normalizePart
        rw [if_pos otherParameter]
      rw [List.map_cons, List.map_cons, List.map_cons, List.map_cons, normal]
      rfl

end AuthBoundry
