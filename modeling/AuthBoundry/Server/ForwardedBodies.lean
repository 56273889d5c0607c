import AuthBoundry.Library.Cuts
import AuthBoundry.Library.Segments
import AuthBoundry.Server.LossyText
import AuthBoundry.Server.UpstreamProxy
import Mathlib.Data.List.Flatten

/-!
# The bodies that are forwarded

The proxy writes the fields of a body as JSON and adds a content type only if
the client sent none.  The upstream application reads the fields that the
boundary has seen unless the content type of the client says that the body is
a form.
-/

namespace AuthBoundry

open Library

/-! ## Maps and pairs -/

theorem getElem?_collectPairs {pairs : List (String × String)}
    {map : KeyedMap String String} {key : String}
    (told : ∀ value, (key, value) ∈ pairs ↔ map[key]? = some value) :
    (collectPairs pairs)[key]? = map[key]? := by
  unfold collectPairs
  rw [KeyedMap.getElem?_foldl_insert Prod.fst Prod.snd]
  cases found : pairs.reverse.find? fun pair => pair.1 == key with
  | none =>
      cases stored : map[key]? with
      | none => rfl
      | some value =>
          have member := List.mem_reverse.mpr ((told value).mpr stored)
          have missed := List.find?_eq_none.mp found _ member
          exact absurd (beq_self_eq_true key) missed
  | some pair =>
      obtain ⟨name, value⟩ := pair
      have same : name = key := by
        simpa using List.find?_some found
      subst same
      have member := List.mem_reverse.mp (List.mem_of_find?_eq_some found)
      exact ((told value).mp member).symm

theorem collectPairs_toList (map : KeyedMap String String) :
    collectPairs map.toList = map := by
  apply Std.ExtTreeMap.ext_getElem?
  intro key
  apply getElem?_collectPairs
  intro value
  exact Std.ExtTreeMap.mem_toList_iff_getElem?_eq_some

/-! ## Reading JSON back -/

theorem readJsonString_escapedChar (character : Char) (rest : List Char) :
    readJsonString (escapedChar character ++ rest) =
      (character :: (readJsonString rest).1, (readJsonString rest).2) := by
  unfold escapedChar
  by_cases backslash : character = '\\'
  · subst backslash
    rfl
  · by_cases quotes : character = '"'
    · subst quotes
      rfl
    · by_cases feed : character = '\n'
      · subst feed
        rfl
      · simp only [beq_iff_eq, backslash, quotes, feed, if_false,
          List.singleton_append]
        rw [readJsonString]
        · intro other later same
          exact (backslash same).elim
        · exact quotes

/-- An escaped text is read up to the quotation mark after it. -/
theorem readJsonString_escaped (characters rest : List Char) :
    readJsonString (characters.flatMap escapedChar ++ '"' :: rest) =
      (characters, rest) := by
  induction characters with
  | nil => rfl
  | cons first later induction =>
      rw [List.flatMap_cons, List.append_assoc, readJsonString_escapedChar,
        induction]

theorem toList_encodeField (field : String × String) :
    (encodeField field).toList =
      '"' :: (field.1.toList.flatMap escapedChar ++ '"' :: ':' :: ' ' :: '"' ::
        (field.2.toList.flatMap escapedChar ++ ['"'])) := by
  unfold encodeField
  simp only [String.toList_append, toList_escape]
  simp

theorem readFlatJson_field (field : String × String)
    (fields : KeyedMap String String) (rest : List Char) (fuel : Nat) :
    readFlatJson (fuel + 1) 1 fields ((encodeField field).toList ++ rest) =
      readFlatJson fuel 1 (fields.insert field.1 field.2) rest := by
  rw [toList_encodeField]
  simp only [List.cons_append, List.append_assoc, List.nil_append]
  rw [readFlatJson]
  have value : readFlatValue (String.ofList field.1.toList) fields
      (':' :: ' ' :: '"' ::
        (field.2.toList.flatMap escapedChar ++ '"' :: rest)) =
      (fields.insert field.1 field.2, rest) := by
    have colon : (':' :: ' ' :: '"' ::
        (field.2.toList.flatMap escapedChar ++ '"' :: rest)).dropWhile
          isWhitespace = ':' :: ' ' :: '"' ::
        (field.2.toList.flatMap escapedChar ++ '"' :: rest) := rfl
    have quote : (' ' :: '"' ::
        (field.2.toList.flatMap escapedChar ++ '"' :: rest)).dropWhile
          isWhitespace = '"' ::
        (field.2.toList.flatMap escapedChar ++ '"' :: rest) := rfl
    unfold readFlatValue
    simp only [colon, quote, readJsonString_escaped, String.ofList_toList]
  have quoted : opens '"' = false := rfl
  have unclosed : closes '"' = false := rfl
  simp only [quoted, unclosed, Bool.false_eq_true, if_false, beq_self_eq_true,
    Bool.and_self, if_true, readJsonString_escaped, value]

theorem readFlatJson_skip {character : Char}
    (unopened : opens character = false)
    (unclosed : closes character = false) (unquoted : character ≠ '"')
    (fields : KeyedMap String String) (rest : List Char) (depth fuel : Nat) :
    readFlatJson (fuel + 1) depth fields (character :: rest) =
      readFlatJson fuel depth fields rest := by
  rw [readFlatJson]
  simp [unopened, unclosed, unquoted]

theorem readFlatJson_fields (pairs : List (String × String))
    (fields : KeyedMap String String) {fuel : Nat}
    (enough : (", ".intercalate (pairs.map encodeField)).toList.length < fuel) :
    readFlatJson fuel 1 fields
        ((", ".intercalate (pairs.map encodeField)).toList ++ ['\x7d']) =
      pairs.foldl (fun map pair => map.insert pair.1 pair.2) fields := by
  rw [String.toList_intercalate] at enough ⊢
  induction pairs generalizing fields fuel with
  | nil =>
      obtain ⟨fuel, rfl⟩ := Nat.exists_eq_succ_of_ne_zero (by omega : fuel ≠ 0)
      cases fuel <;> rfl
  | cons pair pairs induction =>
      cases pairs with
      | nil =>
          obtain ⟨fuel, rfl⟩ :=
            Nat.exists_eq_succ_of_ne_zero (by omega : fuel ≠ 0)
          rw [List.map_cons, List.map_cons, List.map_nil, List.map_nil,
            List.intercalate_singleton, readFlatJson_field]
          cases fuel with
          | zero => rfl
          | succ fuel => cases fuel <;> rfl
      | cons second pairs =>
          rw [List.map_cons, List.map_cons, List.map_cons, List.map_cons,
            List.intercalate_cons_cons] at enough ⊢
          have field : 1 ≤ (encodeField pair).toList.length := by
            rw [toList_encodeField]
            exact Nat.succ_le_succ (Nat.zero_le _)
          have separator : ", ".toList = [',', ' '] := rfl
          simp only [List.length_append, separator, List.length_cons,
            List.length_nil] at enough
          obtain ⟨fuel, rfl⟩ : ∃ rest, fuel = rest + 3 :=
            ⟨fuel - 3, by omega⟩
          rw [separator, List.append_assoc, List.append_assoc,
            readFlatJson_field, List.cons_append,
            readFlatJson_skip rfl rfl (by decide), List.cons_append,
            readFlatJson_skip rfl rfl (by decide), List.nil_append]
          apply induction
          simp only [List.map_cons, separator]
          omega

theorem parseFlatJson_encodeFields (body : KeyedMap String String) :
    parseFlatJson (encodeFields body) = body := by
  have text : (encodeFields body).toList = '\x7b' ::
      ((", ".intercalate (body.toList.map encodeField)).toList ++
        ['\x7d']) := by
    unfold encodeFields
    simp only [String.toList_append]
    rfl
  unfold parseFlatJson
  rw [← String.length_toList, text, List.length_cons, readFlatJson]
  have opened : opens '\x7b' = true := rfl
  rw [if_pos opened, readFlatJson_fields]
  · exact collectPairs_toList body
  · rw [List.length_append]
    exact Nat.lt_succ_self _

/-! ## Reading JSON as a form -/

/-- The characters of all names and values. -/
def contents (pairs : List (String × String)) : List Char :=
  pairs.flatMap fun pair => pair.1.toList ++ pair.2.toList

theorem mem_of_collectPairs {pairs : List (String × String)}
    {key value : String} (collected : (collectPairs pairs)[key]? = some value) :
    (key, value) ∈ pairs := by
  unfold collectPairs at collected
  rw [KeyedMap.getElem?_foldl_insert Prod.fst Prod.snd] at collected
  cases found : pairs.reverse.find? fun pair => pair.1 == key with
  | none =>
      rw [found] at collected
      cases collected
  | some pair =>
      rw [found] at collected
      have same := List.find?_some found
      cases collected
      rw [← beq_iff_eq.mp same]
      exact List.mem_reverse.mp (List.mem_of_find?_eq_some found)

theorem count_collectPairs (pairs : List (String × String)) (mark : Char) :
    (contents (collectPairs pairs).toList).count mark ≤
      (contents pairs).count mark := by
  have distinct : (collectPairs pairs).toList.Nodup :=
    (Std.ExtTreeMap.distinct_keys_toList (t := collectPairs pairs)).imp
      fun {left right} apart same =>
        apart (by rw [same]; exact Std.ReflCmp.compare_self)
  have given : (collectPairs pairs).toList ⊆ pairs := by
    rintro ⟨key, value⟩ member
    exact mem_of_collectPairs
      (Std.ExtTreeMap.mem_toList_iff_getElem?_eq_some.mp member)
  obtain ⟨kept, permutation, sublist⟩ := List.subperm_of_subset distinct given
  unfold contents
  rw [← (permutation.flatMap_right _).count_eq]
  exact (sublist.flatMap _).count_le mark

/-- The pairs that a form writes down. -/
def pairsOf (parts : List String) : List (String × String) :=
  ((parts.filter fun pair => !isBlank pair).filterMap (splitOnce '=')).map
    fun (name, value) => (percentDecode name, percentDecode value)

theorem parseForm_eq (input : String) :
    parseForm input = collectPairs (pairsOf (splitParts '&' input)) := rfl

theorem pairsOf_cons (part : String) (parts : List String) :
    pairsOf (part :: parts) = pairsOf parts ∨
      ∃ name value, splitOnce '=' part = some (name, value) ∧
        pairsOf (part :: parts) =
          (percentDecode name, percentDecode value) :: pairsOf parts := by
  unfold pairsOf
  rw [List.filter_cons]
  split
  · rw [List.filterMap_cons]
    cases split : splitOnce '=' part with
    | none => exact .inl rfl
    | some pair => exact .inr ⟨pair.1, pair.2, rfl, rfl⟩
  · exact .inl rfl

/-- Reading parts as pairs turns percent signs into separators at most. -/
theorem count_separators_pairsOf {parts : List String}
    (apart : ∀ part ∈ parts, '&' ∉ part.toList) :
    (contents (pairsOf parts)).count '%' +
        (contents (pairsOf parts)).count '&' ≤
      (parts.flatMap String.toList).count '%' := by
  induction parts with
  | nil => exact Nat.le_refl _
  | cons part parts induction =>
      obtain ⟨free, others⟩ := List.forall_mem_cons.mp apart
      have later := induction others
      rw [List.flatMap_cons, List.count_append]
      rcases pairsOf_cons part parts with same | ⟨name, value, split, read⟩
      · rw [same]
        omega
      · have whole := splitOnce_eq_some split
        rw [whole, List.mem_append, List.mem_cons, not_or, not_or] at free
        have names := count_separators_percentDecode name
        have values := count_separators_percentDecode value
        rw [List.count_eq_zero.mpr free.1] at names
        rw [List.count_eq_zero.mpr free.2.2] at values
        rw [read, whole]
        unfold contents at later ⊢
        simp only [List.flatMap_cons, List.count_append]
        rw [List.count_cons_of_ne (by decide)]
        omega

theorem count_splitParts (input : String) {mark : Char} (other : mark ≠ '&') :
    ((splitParts '&' input).flatMap String.toList).count mark =
      input.toList.count mark := by
  unfold splitParts
  rw [List.flatMap_map]
  induction input.toList with
  | nil => rfl
  | cons first rest induction =>
      rw [List.splitOn_cons_eq_if_modifyHead]
      split
      · rename_i separates
        have separator : first = '&' := by simpa using separates
        rw [List.flatMap_cons, List.count_append, induction, separator,
          List.count_cons_of_ne other.symm]
        exact Nat.zero_add _
      · cases cut : rest.splitOn '&' with
        | nil => exact (List.splitOn_ne_nil '&' rest cut).elim
        | cons head tail =>
            rw [cut] at induction
            rw [List.modifyHead_cons, List.flatMap_cons, List.count_append,
              String.toList_ofList, List.count_cons, List.count_cons]
            rw [List.flatMap_cons, List.count_append,
              String.toList_ofList] at induction
            omega

theorem apart_of_splitParts (input : String) :
    ∀ part ∈ splitParts '&' input, '&' ∉ part.toList := by
  intro part member
  obtain ⟨characters, cut, rfl⟩ := List.mem_map.mp member
  rw [String.toList_ofList]
  exact separator_notMem_segment input.toList characters cut

theorem count_contents_cons (pair : String × String)
    (pairs : List (String × String)) (mark : Char) :
    (contents (pair :: pairs)).count mark =
      pair.1.toList.count mark + pair.2.toList.count mark +
        (contents pairs).count mark := by
  unfold contents
  rw [List.flatMap_cons, List.count_append, List.count_append]

theorem count_escapedChar {mark : Char} (backslash : mark ≠ '\\')
    (feed : mark ≠ '\n') (letter : mark ≠ 'n') (character : Char) :
    (escapedChar character).count mark = [character].count mark := by
  unfold escapedChar
  by_cases escaped : character = '\\'
  · subst escaped
    rw [if_pos (by rfl), List.count_cons_of_ne backslash.symm]
  · by_cases quotes : character = '"'
    · subst quotes
      rw [if_neg (by decide), if_pos (by rfl),
        List.count_cons_of_ne backslash.symm]
    · by_cases broken : character = '\n'
      · subst broken
        rw [if_neg (by decide), if_neg (by decide), if_pos (by rfl),
          List.count_cons_of_ne backslash.symm,
          List.count_cons_of_ne letter.symm, List.count_cons_of_ne feed.symm]
      · rw [if_neg (by simpa using escaped), if_neg (by simpa using quotes),
          if_neg (by simpa using broken)]

theorem count_escape {mark : Char} (backslash : mark ≠ '\\')
    (feed : mark ≠ '\n') (letter : mark ≠ 'n') (text : String) :
    (escape text).toList.count mark = text.toList.count mark := by
  rw [toList_escape]
  induction text.toList with
  | nil => rfl
  | cons first rest induction =>
      rw [List.flatMap_cons, List.count_append, induction,
        count_escapedChar backslash feed letter, ← List.count_append]
      rfl

/-- A field that is written down has its own characters, and four quotation
marks. -/
theorem count_encodeField {mark : Char} (backslash : mark ≠ '\\')
    (feed : mark ≠ '\n') (letter : mark ≠ 'n') (field : String × String) :
    (encodeField field).toList.count mark =
      field.1.toList.count mark + field.2.toList.count mark +
        ['"', '"', ':', ' ', '"', '"'].count mark := by
  have frame : ['"', '"', ':', ' ', '"', '"'] =
      "\"".toList ++ "\": \"".toList ++ "\"".toList := rfl
  unfold encodeField
  rw [frame]
  simp only [String.toList_append, List.count_append,
    count_escape backslash feed letter]
  omega

theorem count_encodeFields {mark : Char} (opening : mark ≠ '\x7b')
    (closing : mark ≠ '\x7d') (comma : mark ≠ ',') (blank : mark ≠ ' ')
    (body : KeyedMap String String) :
    (encodeFields body).toList.count mark =
      (body.toList.flatMap fun field =>
        (encodeField field).toList).count mark := by
  have text : (encodeFields body).toList = '\x7b' ::
      (([',', ' '].intercalate
        ((body.toList.map encodeField).map String.toList)) ++ ['\x7d']) := by
    unfold encodeFields
    simp only [String.toList_append, String.toList_intercalate]
    rfl
  rw [text, List.count_cons_of_ne opening.symm, List.count_append,
    List.count_cons_of_ne closing.symm, List.count_nil, Nat.add_zero]
  induction body.toList with
  | nil => simp
  | cons field fields induction =>
      rw [List.flatMap_cons, List.count_append, ← induction]
      cases fields with
      | nil => simp
      | cons second fields =>
          rw [List.map_cons, List.map_cons, List.map_cons, List.map_cons,
            List.intercalate_cons_cons, List.count_append, List.count_append,
            List.count_cons_of_ne comma.symm, List.count_cons_of_ne blank.symm,
            List.count_nil, Nat.add_zero]

theorem count_separator_encodeFields {mark : Char}
    (separator : mark = '%' ∨ mark = '&') (body : KeyedMap String String) :
    (encodeFields body).toList.count mark =
      (contents body.toList).count mark := by
  have apart : ∀ other, other ≠ '%' → other ≠ '&' → mark ≠ other := by
    rintro other percent ampersand rfl
    rcases separator with same | same
    · exact percent same
    · exact ampersand same
  have frame : ['"', '"', ':', ' ', '"', '"'].count mark = 0 := by
    rcases separator with rfl | rfl <;> decide
  rw [count_encodeFields (apart _ (by decide) (by decide))
    (apart _ (by decide) (by decide)) (apart _ (by decide) (by decide))
    (apart _ (by decide) (by decide))]
  induction body.toList with
  | nil => simp [contents]
  | cons field fields induction =>
      rw [List.flatMap_cons, List.count_append, induction,
        count_contents_cons, count_encodeField
          (apart _ (by decide) (by decide)) (apart _ (by decide) (by decide))
          (apart _ (by decide) (by decide)), frame, Nat.add_zero]

/-- The JSON of fields has more quotation marks than they have. -/
theorem count_quote_encodeFields {body : KeyedMap String String}
    (nonempty : body ≠ ∅) :
    (contents body.toList).count '"' <
      (encodeFields body).toList.count '"' := by
  rw [count_encodeFields (by decide) (by decide) (by decide) (by decide)]
  have each : ∀ fields : List (String × String),
      (contents fields).count '"' ≤
        (fields.flatMap fun field => (encodeField field).toList).count '"' := by
    intro fields
    induction fields with
    | nil => simp [contents]
    | cons field fields induction =>
        rw [List.flatMap_cons, List.count_append, count_contents_cons,
          count_encodeField (by decide) (by decide) (by decide)]
        omega
  cases entries : body.toList with
  | nil =>
      have whole := collectPairs_toList body
      rw [entries] at whole
      exact absurd whole.symm nonempty
  | cons field fields =>
      have others := each fields
      have four : ['"', '"', ':', ' ', '"', '"'].count '"' = 4 := by decide
      rw [List.flatMap_cons, List.count_append, count_contents_cons,
        count_encodeField (by decide) (by decide) (by decide), four]
      omega

theorem parseForm_encodeFields {body : KeyedMap String String}
    (nonempty : body ≠ ∅) : parseForm (encodeFields body) ≠ body := by
  intro same
  rw [parseForm_eq] at same
  have fewer := count_collectPairs
    (pairsOf (splitParts '&' (encodeFields body)))
  rw [same] at fewer
  have separators := count_separators_pairsOf
    (apart_of_splitParts (encodeFields body))
  rw [count_splitParts _ (by decide : '%' ≠ '&'),
    count_separator_encodeFields (.inl rfl)] at separators
  have percents := fewer '%'
  have ampersands := fewer '&'
  have none : '&' ∉ (encodeFields body).toList := by
    rw [← List.count_eq_zero, count_separator_encodeFields (.inr rfl)]
    omega
  have single : splitParts '&' (encodeFields body) = [encodeFields body] := by
    unfold splitParts
    rw [List.splitOn_eq_singleton none, List.map_singleton,
      String.ofList_toList]
  rw [single] at same fewer
  rcases pairsOf_cons (encodeFields body) [] with
    lost | ⟨name, value, split, read⟩
  · rw [lost] at same
    exact nonempty same.symm
  · rw [read] at same
    have entry : (percentDecode name, percentDecode value) ∈ body.toList := by
      apply Std.ExtTreeMap.mem_toList_iff_getElem?_eq_some.mpr
      rw [← same]
      exact Std.ExtTreeMap.getElem?_insert_self
    have inside : (percentDecode name).toList.count '"' +
        (percentDecode value).toList.count '"' ≤
          (contents body.toList).count '"' := by
      have sublist := (List.singleton_sublist.mpr entry).flatMap
        fun pair => pair.1.toList ++ pair.2.toList
      have fewer := sublist.count_le '"'
      rw [List.flatMap_singleton, List.count_append] at fewer
      exact fewer
    have quotes := count_quote_encodeFields nonempty
    rw [splitOnce_eq_some split, List.count_append,
      List.count_cons_of_ne (by decide)] at quotes
    have names := count_quote_percentDecode name
    have values := count_quote_percentDecode value
    omega

/-! ## What the upstream application reads -/

/-- The request as it is received: the names of headers are in lower case
already. -/
def ClientRequest.received (self : ClientRequest) : HttpRequest :=
  .assemble self.method self.path (collectPairs self.headers)
    (fromUtf8Lossy self.body)

/-- There are no fields, or the content type of the client does not make their
JSON a form. -/
def BoundaryRequest.SendsNoForm (self : BoundaryRequest) : Prop :=
  self.body = ∅ ∨ ∀ contentType ∈ self.headers["content-type"]?,
    containsText "json" contentType = true ∨
      containsText "form-urlencoded" contentType = false

instance (self : BoundaryRequest) : Decidable self.SendsNoForm :=
  inferInstanceAs (Decidable (_ ∨ ∀ contentType ∈ self.headers[_]?, _))

section Forwarded

variable {proxy : UpstreamProxy} {request : BoundaryRequest}
  {context : Option AuthContext}

def injectedNames : List String :=
  [ProxyHeader.proxySignature, ProxyHeader.principal, ProxyHeader.principalKind,
    ProxyHeader.tenant, ProxyHeader.claims, ProxyHeader.capabilities,
    ProxyHeader.signature, ProxyHeader.context, ProxyHeader.delegation,
    ProxyHeader.delegatedBy]

theorem mem_injectedNames (proxy : UpstreamProxy)
    (context : Option AuthContext) :
    ∀ header ∈ proxy.injectedHeaders context, header.1 ∈ injectedNames := by
  unfold UpstreamProxy.injectedHeaders injectedNames
  cases context with
  | none => simp
  | some context =>
      dsimp only
      cases context.project.delegation <;> simp

theorem injectedHeaders_apart (proxy : UpstreamProxy)
    (context : Option AuthContext) :
    ∀ header ∈ proxy.injectedHeaders context, header.1 ≠ "content-type" := by
  intro header member same
  have listed := mem_injectedNames proxy context header member
  rw [same] at listed
  revert listed
  decide

theorem encodeBody_eq (body : KeyedMap String String) :
    encodeBody body =
      utf8 (if body = ∅ then "" else encodeFields body) := by
  unfold encodeBody
  by_cases empty : body = ∅
  · rw [if_pos (Std.ExtTreeMap.isEmpty_iff.mpr empty), if_pos empty]
    exact (utf8_eq_nil_iff.mpr rfl).symm
  · rw [if_neg (Std.ExtTreeMap.isEmpty_iff.not.mpr empty), if_neg empty]

theorem encodeFields_ne_empty (body : KeyedMap String String) :
    encodeFields body ≠ "" := by
  intro same
  have lists := congrArg String.toList same
  unfold encodeFields at lists
  simp at lists

/-- There are bytes exactly if there are fields. -/
theorem encodeBody_isEmpty (body : KeyedMap String String) :
    (encodeBody body).isEmpty = true ↔ body = ∅ := by
  rw [encodeBody_eq, List.isEmpty_iff, utf8_eq_nil_iff]
  by_cases empty : body = ∅
  · simp [empty]
  · simp [empty, encodeFields_ne_empty]

theorem forwarded_body :
    (proxy.forwarded request context).body = encodeBody request.body := by
  unfold UpstreamProxy.forwarded
  dsimp only
  split <;> rfl

theorem received_body :
    (proxy.forwarded request context).received.body =
      if request.body = ∅ then "" else encodeFields request.body := by
  change fromUtf8Lossy (proxy.forwarded request context).body = _
  rw [forwarded_body, encodeBody_eq, fromUtf8Lossy_utf8]

theorem collected_contentType (proxy : UpstreamProxy)
    (request : BoundaryRequest) (context : Option AuthContext) :
    (collectPairs
      ((request.headers.toList.filter fun (name, _) =>
          UpstreamProxy.passesOn name) ++
        proxy.injectedHeaders context))["content-type"]? =
      request.headers["content-type"]? := by
  apply getElem?_collectPairs
  intro value
  have passed : UpstreamProxy.passesOn "content-type" = true := by decide
  rw [List.mem_append, List.mem_filter,
    Std.ExtTreeMap.mem_toList_iff_getElem?_eq_some]
  constructor
  · rintro (⟨stored, -⟩ | injected)
    · exact stored
    · exact absurd rfl (injectedHeaders_apart proxy context _ injected)
  · intro stored
    exact .inl ⟨stored, passed⟩

theorem header_contentType (self : HttpRequest) :
    self.header "content-type" = self.headers["content-type"]? := by
  have lower : asciiLower "content-type" = "content-type" := by decide
  unfold HttpRequest.header
  rw [lower]

/-- A client's content type is passed on, and JSON is announced where it sent
none with its fields. -/
theorem received_contentType :
    (proxy.forwarded request context).received.header "content-type" =
      request.headers["content-type"]?.or
        (if request.body = ∅ then none else some "application/json") := by
  have collected := collected_contentType proxy request context
  rw [header_contentType]
  change (collectPairs
    (proxy.forwarded request context).headers)["content-type"]? = _
  unfold UpstreamProxy.forwarded
  dsimp only
  split
  · rename_i added
    simp only [Bool.and_eq_true, Bool.not_eq_true', ← Bool.not_eq_true,
      encodeBody_isEmpty] at added
    obtain ⟨fields, untyped⟩ := added
    have absent : request.headers["content-type"]? = none := by
      simpa using untyped
    unfold ClientRequest.withHeader collectPairs
    rw [List.foldl_append, absent, if_neg fields]
    exact Std.ExtTreeMap.getElem?_insert_self
  · rename_i kept
    simp only [Bool.and_eq_true, Bool.not_eq_true', ← Bool.not_eq_true,
      encodeBody_isEmpty, not_and, Decidable.not_not] at kept
    rw [collected]
    cases typed : request.headers["content-type"]? with
    | some contentType => rfl
    | none =>
        by_cases empty : request.body = ∅
        · rw [if_pos empty]
          rfl
        · have present := kept empty
          simp at present
          simp [present] at typed

/-- Fields that are announced as a form are read as one, and lost. -/
theorem parsedBody_form {contentType : String} (fields : request.body ≠ ∅)
    (typed : request.headers["content-type"]? = some contentType)
    (unnamed : containsText "json" contentType = false)
    (encoded : containsText "form-urlencoded" contentType = true) :
    (proxy.forwarded request context).received.parsedBody ≠ request.body := by
  unfold HttpRequest.parsedBody
  rw [received_contentType, received_body, typed, if_neg fields,
    if_neg fields, Option.some_or, Option.getD_some]
  dsimp only
  rw [unnamed, encoded]
  exact parseForm_encodeFields fields

/-- The upstream application reads the fields that the boundary has seen
exactly if the content type of the client does not make a form of them. -/
theorem forwarded_parsedBody_iff (proxy : UpstreamProxy)
    (request : BoundaryRequest) (context : Option AuthContext) :
    (proxy.forwarded request context).received.parsedBody = request.body ↔
      request.SendsNoForm := by
  unfold HttpRequest.parsedBody BoundaryRequest.SendsNoForm
  rw [received_contentType, received_body]
  by_cases empty : request.body = ∅
  · rw [if_pos empty, if_pos empty, empty]
    simp only [true_or, iff_true]
    split_ifs <;> rfl
  · rw [if_neg empty, if_neg empty]
    have json := parseFlatJson_encodeFields request.body
    have form := parseForm_encodeFields empty
    simp only [empty, false_or]
    cases request.headers["content-type"]? with
    | none =>
        have announced : containsText "json" "application/json" = true := by
          decide
        simp [announced, json]
    | some contentType =>
        have opened : ((encodeFields request.body).toList.dropWhile
            isWhitespace).head? = some '\x7b' := by
          unfold encodeFields
          simp only [String.toList_append]
          rfl
        simp only [Option.or_some, Option.getD_some, Option.mem_def,
          Option.some.injEq, forall_eq']
        by_cases named : containsText "json" contentType = true
        · rw [if_pos named]
          simp [named, json]
        · rw [if_neg named]
          by_cases encoded : containsText "form-urlencoded" contentType = true
          · rw [if_pos encoded]
            simp [named, encoded, form]
          · rw [if_neg encoded, if_pos (by rw [opened]; rfl)]
            simp [encoded, json]

end Forwarded

/-- A form as a browser sends it. -/
def postedForm : BoundaryRequest :=
  { BoundaryRequest.new .post "/notes" with
    headers := collectPairs
      [("content-type", "application/x-www-form-urlencoded")]
    body := collectPairs [("title", "hello")] }

/-- The fields of a form are lost. -/
theorem postedForm_fields :
    ¬∀ (proxy : UpstreamProxy) (request : BoundaryRequest)
      (context : Option AuthContext),
      (proxy.forwarded request context).received.parsedBody =
        request.body := by
  intro all
  have fields : postedForm.body ≠ ∅ := by decide
  have typed : postedForm.headers["content-type"]? =
      some "application/x-www-form-urlencoded" := by decide
  exact parsedBody_form fields typed (by decide) (by decide)
    (all { policy := .new, secret := "s" } postedForm none)

end AuthBoundry
