import AuthBoundry.Server.AppliedRecommendations
import AuthBoundry.Server.ResourceWords

/-!
# Targets that discovery and the boundary share

Discovery infers a resource from the normal form of a route's path, and the
boundary derives one from the path of each request.  For routes of one segment,
or of one segment and a parameter, they agree about the words that are spelled
in the normal form and do not end in a double s.
-/

namespace AuthBoundry

open Discovery
open Library
open scoped Library.Listed

/-! ## Words that differ -/

theorem normalizePart_eq (part : List Char) :
    normalizePart (String.ofList part) = ":param" ∧
        isParameterPart (String.ofList part) = true ∨
      normalizePart (String.ofList part) =
          String.ofList (part.map Char.toLower) ∧
        isParameterPart (String.ofList part) = false := by
  unfold normalizePart
  cases parameter : isParameterPart (String.ofList part) with
  | true => exact .inl ⟨rfl, rfl⟩
  | false =>
      refine .inr ⟨?_, rfl⟩
      rw [if_neg Bool.false_ne_true]
      unfold asciiLower
      rw [String.toList_ofList]

/-- No letter of a normal form is a capital. -/
theorem toLower_of_mem_normalizePart {part : List Char} {character : Char}
    (member : character ∈ (normalizePart (String.ofList part)).toList) :
    character.toLower = character := by
  rcases normalizePart_eq part with ⟨normal, _⟩ | ⟨normal, _⟩
  · rw [normal] at member
    have small : ∀ letter ∈ ":param".toList, letter.toLower = letter := by
      decide
    exact small character member
  · rw [normal, String.toList_ofList] at member
    obtain ⟨old, _, rfl⟩ := List.mem_map.mp member
    exact toLower_toLower old

theorem exists_head_normalizePart {part : List Char} (nonempty : part ≠ [])
    (visible : ∀ character, part.head? = some character →
      isWhitespace character = false) :
    ∃ character, (normalizePart (String.ofList part)).toList.head? =
        some character ∧ isWhitespace character = false := by
  rcases normalizePart_eq part with ⟨normal, _⟩ | ⟨normal, _⟩
  · rw [normal]
    exact ⟨':', rfl, by decide⟩
  · rw [normal, String.toList_ofList]
    cases part with
    | nil => exact (nonempty rfl).elim
    | cons first rest =>
        refine ⟨first.toLower, rfl, ?_⟩
        rw [isWhitespace_toLower]
        exact visible first rfl

section Words

variable {word part : List Char} {result : String}

/-- White space at the start of a word stays in its singular, and no normal
form begins with it. -/
theorem not_shared_of_heads {first : Char}
    (left : IsSingularOf (normalizePart (String.ofList part)) result)
    (right : IsSingularOf (String.ofList word) result)
    (isHead : word.head? = some first) (isBlank : isWhitespace first = true)
    (nonempty : part ≠ [])
    (visible : ∀ character, part.head? = some character →
      isWhitespace character = false) : False := by
  have letters : ∀ letter ∈ ['i', 'e', 's'], isWhitespace letter = false := by
    decide
  have kept : first ∉ ['i', 'e', 's'] := by
    intro member
    rw [letters first member] at isBlank
    cases isBlank
  have resultHead : result.toList.head? = some first := by
    apply right.head?_of_head? _ kept
    rwa [String.toList_ofList]
  obtain ⟨other, otherHead, otherVisible⟩ :=
    exists_head_normalizePart nonempty visible
  rcases left.head?_or_eq resultHead with sameHead | isY
  · rw [otherHead] at sameHead
    cases sameHead
    rw [isBlank] at otherVisible
    cases otherVisible
  · rw [isY] at isBlank
    exact (by decide : ¬isWhitespace 'y' = true) isBlank

/-- White space at the end of a word stays in its singular, which is longer
than that of the trimmed word. -/
theorem not_shared_of_lasts {before after : List Char}
    (left : IsSingularOf (normalizePart (String.ofList part)) result)
    (right : IsSingularOf (String.ofList word) result)
    (trims : Trimmed isWhitespace word part before after)
    (nonempty : after ≠ [])
    (changed : normalizePart (String.ofList part) ≠ String.ofList word) :
    False := by
  obtain ⟨last, isLast⟩ : ∃ last, after.getLast? = some last :=
    Option.ne_none_iff_exists'.mp
      (mt List.getLast?_eq_none_iff.mp nonempty)
  have isBlank := trims.blankAfter last (List.mem_of_getLast? isLast)
  have wordLast : word.getLast? = some last := by
    rw [trims.cut, List.getLast?_append, List.getLast?_append, isLast]
    rfl
  have notS : last ≠ 's' := by
    intro isS
    rw [isS] at isBlank
    exact (by decide : ¬isWhitespace 's' = true) isBlank
  have same : result = String.ofList word := by
    apply right.eq_of_getLast? _ notS
    rwa [String.toList_ofList]
  rcases normalizePart_eq part with ⟨normal, _⟩ | ⟨normal, _⟩
  · rw [normal] at left changed
    have isLast : ":param".toList.getLast? = some 'm' := rfl
    have unchanged := left.eq_of_getLast? isLast (by decide)
    exact changed (unchanged.symm.trans same)
  · have shorter := left.length_le
    rw [normal, same, String.length_ofList, String.length_ofList,
      List.length_map] at shorter
    have lengths := congrArg List.length trims.cut
    rw [List.length_append, List.length_append] at lengths
    have longer := List.length_pos_iff.mpr nonempty
    omega

theorem not_shared_of_changed
    (left : IsSingularOf (normalizePart (String.ofList part)) result)
    (right : IsSingularOf (String.ofList word) result)
    (trims : TrimsTo word part) (partThere : part ≠ [])
    (wordThere : word ≠ [])
    (literal : isParameterPart (String.ofList word) = false)
    (changed : normalizePart (String.ofList part) ≠ String.ofList word) :
    False := by
  by_cases capital : ∃ letter ∈ word, letter.toLower ≠ letter
  · obtain ⟨letter, member, isCapital⟩ := capital
    have small : ∀ ending ∈ ['i', 'e', 's'], ending.toLower = ending := by
      decide
    have kept : letter ∉ ['i', 'e', 's'] := by
      intro ending
      exact isCapital (small letter ending)
    have inResult : letter ∈ result.toList := by
      apply right.mem_of_mem _ kept
      rwa [String.toList_ofList]
    rcases left.mem_or_eq inResult with inNormal | isY
    · exact isCapital (toLower_of_mem_normalizePart inNormal)
    · rw [isY] at isCapital
      exact isCapital rfl
  · have lower : ∀ letter ∈ word, letter.toLower = letter := by
      intro letter member
      by_contra isCapital
      exact capital ⟨letter, member, isCapital⟩
    rcases trims with ⟨before, after, trims⟩ | ⟨blank, parameter⟩
    · by_cases noneBefore : before = []
      · by_cases noneAfter : after = []
        · have same := trims.cut
          rw [noneBefore, noneAfter, List.nil_append,
            List.append_nil] at same
          rw [same] at literal lower changed
          rcases normalizePart_eq part with ⟨_, parameter⟩ | ⟨normal, _⟩
          · rw [literal] at parameter
            cases parameter
          · apply changed
            rw [normal, List.map_congr_left lower, List.map_id'']
            exact fun _ => rfl
        · exact not_shared_of_lasts left right trims noneAfter changed
      · cases cut : before with
        | nil => exact noneBefore cut
        | cons first rest =>
            have isHead : word.head? = some first := by
              rw [trims.cut, cut]
              rfl
            have isBlank := trims.blankBefore first
              (cut ▸ List.mem_cons_self)
            exact not_shared_of_heads left right isHead isBlank partThere
              (trims.first noneBefore)
    · cases word with
      | nil => exact wordThere rfl
      | cons first rest =>
          have visible : ∀ character, part.head? = some character →
              isWhitespace character = false := by
            obtain ⟨other, isHead, visible⟩ :=
              exists_head_of_isParameterPart parameter
            intro character sameHead
            rw [isHead] at sameHead
            cases sameHead
            exact visible
          exact not_shared_of_heads left right rfl
            (blank first List.mem_cons_self) partThere visible

end Words

/-! ## Targets -/

/-- Whatever resource discovery infers for the route, the boundary derives its
type and its action from every request for the route. -/
def SharesTarget (method : Method) (route : RouteCandidate) : Prop :=
  ∀ inference resource,
    inferCapability route.method route.path = some inference →
    inference.resource = some resource →
    ∀ path, RouteHasPath route path →
      (inferResourceTarget method path).map
          (fun target => (target.1, target.2.2)) =
        some (resource.resourceType, ⟨resource.action⟩)

/-- The first segment stands for itself, is spelled as in the normal form, is
not reserved, and does not end in a double s. -/
structure PlainWord (path word : String) : Prop where
  normal : (pathSegments (normalizePath path)).head? = some word
  literal : isParameterPart word = false
  unreserved : word ≠ "_authport"
  single : Discovery.endsWith "ss" word = false

/-- Every request with the method and some segment is taken to be about the
action, unless its first segment is reserved. -/
def DerivesAction (method : Method) (action : String) : Prop :=
  ∀ first others path, pathSegments path = first :: others →
    inferResourceTarget method path =
      if first == "auth" || first == "_authport" then none
      else some (singularResource first, others.headD "*", ⟨action⟩)

/-- What discovery's two tables make of a method is what the boundary makes of
it. -/
theorem derivesAction_of_tables {method : Method} {action : String}
    (acts : collectionAction method.asStr = some action ∨
      itemAction method.asStr = some action) :
    DerivesAction method action := by
  intro first others path cut
  unfold pathSegments at cut
  unfold inferResourceTarget
  rw [cut]
  dsimp only
  split
  · rfl
  · cases method <;> rcases acts with acts | acts <;> cases acts <;> rfl

theorem inferCapability_shallow {methodText path word : String}
    {method : Method} {rest : List String} {inference : Inference}
    (named : asciiUpper methodText = method.asStr)
    (segments : pathSegments (normalizePath path) = word :: rest)
    (short : rest = [] ∨ rest = [":param"])
    (found : inferCapability methodText path = some inference) :
    word ≠ "auth" ∧ ∃ resource, inference.resource = some resource ∧
      resource.resourceType = Discovery.singularResource word ∧
      DerivesAction method resource.action := by
  unfold inferCapability at found
  rw [segments, named] at found
  dsimp only at found
  split at found
  · cases found
  · rename_i owned
    constructor
    · intro isAuth
      rw [isAuth] at owned
      exact owned (by decide)
    · rcases short with rfl | rfl
      · obtain ⟨action, acts, same⟩ := Option.map_eq_some_iff.mp found
        subst same
        exact ⟨_, rfl, rfl, derivesAction_of_tables (.inl acts)⟩
      · dsimp only at found
        rw [if_pos (by decide)] at found
        obtain ⟨action, acts, same⟩ := Option.map_eq_some_iff.mp found
        subst same
        exact ⟨_, rfl, rfl, derivesAction_of_tables (.inr acts)⟩

section Routes

variable {route : RouteCandidate} {method : Method} {word path : String}

theorem word_ne_empty (shallow : IsShallow route.path word) :
    word.toList ≠ [] := by
  have member : word ∈ pathSegments route.path := by
    rcases shallow with single | ⟨parameter, _, pair⟩
    · rw [single]
      exact List.mem_cons_self
    · rw [pair]
      exact List.mem_cons_self
  intro empty
  exact (mem_pathSegments member).1 (String.toList_inj.mp empty)

theorem pathSegments_of_partsOf {parts : List (List Char)}
    (cut : partsOf '/' path.toList = parts) :
    pathSegments path = parts.map String.ofList := by
  unfold pathSegments
  rw [segmentsOf_eq, cut]

theorem first_of_routeHasPath (shallow : IsShallow route.path word)
    (literal : isParameterPart word = false)
    (hasPath : RouteHasPath route path) :
    ∃ others, pathSegments path = word :: others := by
  have pairs := IsInstance.parts hasPath (by decide)
  have fits : ∀ {concrete : List Char},
      Fits (fun part => isParameterPart (String.ofList part)) word.toList
        concrete → String.ofList concrete = word := by
    intro concrete fits
    have notWild : ¬isParameterPart (String.ofList word.toList) = true := by
      rw [String.ofList_toList, literal]
      exact Bool.false_ne_true
    unfold Fits at fits
    dsimp only at fits
    rw [if_neg notWild] at fits
    rw [fits, String.ofList_toList]
  rcases shallow with single | ⟨parameter, _, pair⟩
  · rw [partsOf_eq_of_pathSegments single] at pairs
    obtain ⟨concrete, rest, isConcrete, _, cut⟩ :=
      List.forall₂_cons_left_iff.mp pairs
    refine ⟨rest.map String.ofList, (pathSegments_of_partsOf cut).trans ?_⟩
    rw [List.map_cons, fits isConcrete]
  · rw [partsOf_eq_of_pathSegments pair] at pairs
    obtain ⟨concrete, rest, isConcrete, _, cut⟩ :=
      List.forall₂_cons_left_iff.mp pairs
    refine ⟨rest.map String.ofList, (pathSegments_of_partsOf cut).trans ?_⟩
    rw [List.map_cons, fits isConcrete]

/-- Some request for the route has an a in the place of every parameter. -/
theorem exists_filled_path (shallow : IsShallow route.path word) :
    ∃ path others, RouteHasPath route path ∧
      pathSegments path =
        (if isParameterPart word then "a" else word) :: others := by
  have apart : 'a' ≠ '/' := by decide
  let wild := fun part => isParameterPart (String.ofList part)
  let text := ['/'].intercalate
    ((route.path.toList.splitOn '/').map (filled wild 'a' 1))
  have cut : partsOf '/' text =
      (partsOf '/' route.path.toList).map (filled wild 'a' 1) :=
    partsOf_filled apart (by decide) 0
  have first : String.ofList (filled wild 'a' 1 word.toList) =
      if isParameterPart word then "a" else word := by
    have isWild : wild word.toList = isParameterPart word :=
      congrArg isParameterPart String.ofList_toList
    unfold filled
    cases parameter : isParameterPart word with
    | true =>
        rw [if_pos (isWild.trans parameter), if_pos rfl]
        rfl
    | false =>
        rw [if_neg (by rw [isWild, parameter]; exact Bool.false_ne_true),
          if_neg Bool.false_ne_true]
        exact String.ofList_toList
  have hasPath : RouteHasPath route (String.ofList text) := by
    unfold RouteHasPath
    rw [String.toList_ofList]
    exact isInstance_filled apart 0
  have segments : pathSegments (String.ofList text) =
      ((partsOf '/' route.path.toList).map
        (filled wild 'a' 1)).map String.ofList := by
    apply pathSegments_of_partsOf
    rw [String.toList_ofList]
    exact cut
  rcases shallow with single | ⟨parameter, _, pair⟩
  · rw [partsOf_eq_of_pathSegments single, List.map_cons, List.map_cons,
      List.map_cons, first] at segments
    exact ⟨_, _, hasPath, segments⟩
  · rw [partsOf_eq_of_pathSegments pair, List.map_cons, List.map_cons,
      List.map_cons, first] at segments
    exact ⟨_, _, hasPath, segments⟩

theorem asciiUpper_of_parse (named : Method.parse route.method = some method) :
    asciiUpper route.method = method.asStr := by
  unfold Method.parse at named
  split at named <;> cases named <;> assumption

/-- Plain words have the same singular on both sides, and every request for
the route begins with its word. -/
theorem sharesTarget_of_plainWord
    (named : Method.parse route.method = some method)
    (shallow : IsShallow route.path word)
    (plain : PlainWord route.path word) : SharesTarget method route := by
  intro inference resource found isResource path hasPath
  have head := plain.normal
  rcases normal_of_shallow shallow with none | ⟨part, rest, _, _, short, cut⟩
  · rw [none] at head
    cases head
  · rw [cut] at head
    have isWord := Option.some.inj head
    rw [isWord] at cut
    obtain ⟨notAuth, other, isOther, isType, derives⟩ :=
      inferCapability_shallow (asciiUpper_of_parse named) cut short found
    rw [isResource] at isOther
    cases isOther
    obtain ⟨others, segments⟩ :=
      first_of_routeHasPath shallow plain.literal hasPath
    have unreserved : ¬(word == "auth" || word == "_authport") = true := by
      simp [notAuth, plain.unreserved]
    rw [derives word others path segments, if_neg unreserved, isType,
      singularResource_agree plain.single]
    rfl

theorem plainWord_of_sharesTarget {inference : Inference}
    (named : Method.parse route.method = some method)
    (shallow : IsShallow route.path word)
    (found : inferCapability route.method route.path = some inference)
    (shares : SharesTarget method route) : PlainWord route.path word := by
  rcases normal_of_shallow shallow with
    none | ⟨part, rest, partThere, trims, short, cut⟩
  · unfold inferCapability at found
    rw [none] at found
    cases found
  · obtain ⟨_, resource, isResource, isType, derives⟩ :=
      inferCapability_shallow (asciiUpper_of_parse named) cut short found
    obtain ⟨path, others, hasPath, segments⟩ := exists_filled_path shallow
    have shared := shares inference resource found isResource path hasPath
    rw [derives _ _ _ segments] at shared
    have literal : isParameterPart word = false := by
      by_contra notLiteral
      have parameter : isParameterPart word = true := by
        simpa using notLiteral
      have isParameter : isParameterPart (String.ofList part) = true := by
        rcases trims with ⟨_, _, trims⟩ | ⟨_, isParameter⟩
        · apply isParameterPart_trimmed trims
          rwa [String.ofList_toList]
        · exact isParameter
      have normal : normalizePart (String.ofList part) = ":param" := by
        unfold normalizePart
        rw [if_pos isParameter]
      rw [if_pos parameter, if_neg (by decide)] at shared
      have sameType := congrArg Prod.fst (Option.some.inj shared)
      dsimp only at sameType
      rw [isType, normal] at sameType
      exact absurd sameType (by decide)
    rw [literal, if_neg Bool.false_ne_true] at shared
    by_cases reserved : (word == "auth" || word == "_authport") = true
    · rw [if_pos reserved] at shared
      cases shared
    · rw [if_neg reserved] at shared
      have sameType : singularResource word = Discovery.singularResource
          (normalizePart (String.ofList part)) :=
        (congrArg Prod.fst (Option.some.inj shared)).trans isType
      rw [Bool.or_eq_true, not_or, beq_iff_eq, beq_iff_eq] at reserved
      have isNormal : normalizePart (String.ofList part) = word := by
        by_contra changed
        have left := discovery_isSingularOf
          (normalizePart (String.ofList part))
        have right := boundary_isSingularOf word
        rw [← sameType] at left
        have literalText : isParameterPart
            (String.ofList word.toList) = false := by
          rwa [String.ofList_toList]
        have sameText : String.ofList word.toList = word :=
          String.ofList_toList
        rw [← sameText] at changed
        have rightText : IsSingularOf (String.ofList word.toList)
            (singularResource word) := by
          rwa [sameText]
        exact not_shared_of_changed left rightText trims partThere
          (word_ne_empty shallow) literalText changed
      rw [isNormal] at cut sameType
      refine ⟨by rw [cut]; rfl, literal, reserved.2, ?_⟩
      by_contra notSingle
      have double : Discovery.endsWith "ss" word = true := by
        simpa using notSingle
      exact singularResource_ne double sameType.symm

/-- The targets are shared exactly if there is none to share or the first
segment is a plain word. -/
theorem sharesTarget_iff (named : Method.parse route.method = some method)
    (shallow : IsShallow route.path word) :
    SharesTarget method route ↔
      inferCapability route.method route.path = none ∨
        PlainWord route.path word := by
  constructor
  · intro shares
    cases found : inferCapability route.method route.path with
    | none => exact .inl rfl
    | some inference =>
        exact .inr (plainWord_of_sharesTarget named shallow found shares)
  · intro condition
    rcases condition with none | plain
    · intro inference resource found
      rw [none] at found
      cases found
    · exact sharesTarget_of_plainWord named shallow plain

end Routes

theorem plainInvoices_shareTarget :
    SharesTarget .post (invoiceRoute "/invoices") := by
  have shallow : IsShallow (invoiceRoute "/invoices").path "invoices" :=
    .inl (by decide +kernel)
  apply (sharesTarget_iff (by decide +kernel) shallow).mpr
  exact .inr ⟨by decide +kernel, by decide, by decide, by decide⟩

/-- Addresses are inferred as such, and a request to create one is taken to be
about an "addres". -/
theorem address_not_shareTarget :
    ¬∀ (method : Method) (route : RouteCandidate) (word : String),
      Method.parse route.method = some method →
      IsShallow route.path word → SharesTarget method route := by
  intro always
  have shallow : IsShallow (invoiceRoute "/address").path "address" :=
    .inl (by decide +kernel)
  have shares := always .post (invoiceRoute "/address") "address"
    (by decide +kernel) shallow
  have found : ∃ inference, inferCapability
      (invoiceRoute "/address").method (invoiceRoute "/address").path =
        some inference :=
    Option.isSome_iff_exists.mp (by decide +kernel)
  obtain ⟨inference, found⟩ := found
  have plain := plainWord_of_sharesTarget (by decide +kernel) shallow found
    shares
  exact absurd plain.single (by decide)

end AuthBoundry
