import AuthBoundry.Server.ControlRoutes
import AuthBoundry.Server.Router

/-!
# The policy of a proxied application

The flags of the command line become one list of rules: paths and path
prefixes that are public, path prefixes and paths that require a capability,
and authentication for everything else.  The list is tried in this order, and a
prefix is a prefix of the text.
-/

namespace AuthBoundry

open Library

/-- The flags that say what the application's paths require. -/
structure ServeOptions where
  publicPaths : List String
  publicExact : List String
  required : List (String × String)
  requiredExact : List (String × String)
  deriving DecidableEq, Repr

def proxiedMethods : List Method :=
  [.get, .post, .put, .patch, .delete, .head]

def RoutePolicy.ruleEach {α : Type} (self : RoutePolicy)
    (entries : List α) (methods : List Method) (pattern : α → PathPattern)
    (requirement : α → Requirement) : RoutePolicy :=
  entries.foldl
    (fun policy entry => policy.rule methods (pattern entry)
      (requirement entry))
    self

def applicationPolicy (options : ServeOptions) : RoutePolicy :=
  let policy := RoutePolicy.new.ruleEach options.publicExact [.get, .head]
    .exact fun _ => .publicAccess
  let policy := policy.ruleEach options.publicPaths proxiedMethods
    .prefixed fun _ => .publicAccess
  let policy := policy.ruleEach options.required proxiedMethods
    (fun entry => .prefixed entry.1) fun entry => .capability entry.2
  let policy := policy.ruleEach options.requiredExact proxiedMethods
    (fun entry => .exact entry.1) fun entry => .capability entry.2
  policy.rule proxiedMethods (.prefixed "/") .authenticated

/-! ## What the more specific path should require -/

/-- The path is an entry or continues it after a slash. -/
def LiesUnder (path entry : String) : Prop :=
  path = entry ∨ startsWith (entry ++ "/") path = true ∨
    endsWith "/" entry = true ∧ startsWith entry path = true

instance (path entry : String) : Decidable (LiesUnder path entry) :=
  inferInstanceAs (Decidable (_ ∨ _ ∨ _ ∧ _))

section Statement

variable (options : ServeOptions) (method : Method) (path : String)

/-- The outcome for a request. -/
def outcome : RouteOutcome := (applicationPolicy options).resolve method path

/-- An entry for the path itself, or a public one below which it lies, says
more about the path than this entry. -/
def Outdone (entry : String) : Prop :=
  (∃ capability, (path, capability) ∈ options.requiredExact) ∨
    path ∈ options.publicExact ∨
    ∃ publicEntry ∈ options.publicPaths,
      LiesUnder path publicEntry ∧ entry.length ≤ publicEntry.length

/-- Whatever is said about a path gives way only to what is said about a more
specific one. -/
structure SpecificRuleWins : Prop where
  exactEntry : ∀ capability, (path, capability) ∈ options.requiredExact →
    path ∉ options.publicExact →
      outcome options method path = .matched (.capability capability)
  longestEntry : ∀ entry ∈ options.required, LiesUnder path entry.1 →
    (∀ other ∈ options.required, LiesUnder path other.1 →
      other.1.length ≤ entry.1.length) →
    ¬Outdone options path entry.1 →
      ∃ longest ∈ options.required, LiesUnder path longest.1 ∧
        longest.1.length = entry.1.length ∧
        outcome options method path = .matched (.capability longest.2)
  publicEntry : outcome options method path = .matched .publicAccess →
    path ∈ options.publicExact ∧ (method = .get ∨ method = .head) ∨
      ∃ entry ∈ options.publicPaths, LiesUnder path entry

/-! ## What the order of the list makes of it -/

/-- A public entry covers the request. -/
def IsPublic : Prop :=
  path ∈ options.publicExact ∧ (method = .get ∨ method = .head) ∨
    ∃ entry ∈ options.publicPaths, startsWith entry path = true

instance : Decidable (IsPublic options method path) :=
  inferInstanceAs (Decidable (_ ∧ _ ∨ _))

/-- The first prefix that requires a capability of the path. -/
def firstRequired : Option (String × String) :=
  options.required.find? fun entry => startsWith entry.1 path

def firstRequiredExact : Option (String × String) :=
  options.requiredExact.find? fun entry => entry.1 == path

/-- Public entries come before all others, prefixes that require a capability
before paths that do, and each group is tried in the order of the flags. -/
structure DecidedInOrder : Prop where
  publicEntries : outcome options method path = .matched .publicAccess ↔
    IsPublic options method path
  requiredEntries : ¬IsPublic options method path → ∀ entry,
    firstRequired options path = some entry →
      outcome options method path = .matched (.capability entry.2)
  requiredExactEntries : ¬IsPublic options method path →
    firstRequired options path = none → ∀ entry,
      firstRequiredExact options path = some entry →
        outcome options method path = .matched (.capability entry.2)
  otherPaths : ¬IsPublic options method path →
    firstRequired options path = none →
      firstRequiredExact options path = none →
        outcome options method path =
          if startsWith "/" path then .matched .authenticated
          else if path ∈ options.publicExact then .methodNotAllowed
          else .noPolicy

end Statement

/-! ## The rules of the list -/

theorem RoutePolicy.resolveFrom_unmatched {method : Method} {path : String}
    {pathMatched : Bool} {rules : List RouteRule}
    (nothing : rules.find? (·.applies method path) = none) :
    RoutePolicy.resolveFrom method path pathMatched rules =
      if pathMatched || rules.any (·.pattern.covers path) then
        .methodNotAllowed
      else .noPolicy := by
  induction rules generalizing pathMatched with
  | nil => simp [RoutePolicy.resolveFrom]
  | cons rule rest induction =>
      have skipped : rule.applies method path = false := by
        simpa using List.find?_eq_none.mp nothing rule List.mem_cons_self
      have later : rest.find? (·.applies method path) = none := by
        simpa [List.find?_cons, skipped] using nothing
      unfold RoutePolicy.resolveFrom
      by_cases covered : rule.pattern.covers path = true
      · have unlisted : ¬rule.methods.contains method = true := by
          intro listed
          rw [RouteRule.applies, covered, listed] at skipped
          cases skipped
        rw [if_neg (by simp [covered]), if_neg unlisted, induction later,
          List.any_cons, covered]
        simp
      · rw [if_pos (by simp [covered]), induction later, List.any_cons,
          Bool.eq_false_of_not_eq_true covered, Bool.false_or]

theorem ruleEach_rules {α : Type} (self : RoutePolicy) (entries : List α)
    (methods : List Method) (pattern : α → PathPattern)
    (requirement : α → Requirement) :
    (self.ruleEach entries methods pattern requirement).rules =
      self.rules ++ entries.map fun entry =>
        { methods
          pattern := pattern entry
          requirement := requirement entry } := by
  unfold RoutePolicy.ruleEach
  induction entries generalizing self with
  | nil => simp
  | cons entry entries induction =>
      rw [List.foldl_cons, induction]
      simp [RoutePolicy.rule]

/-- A pattern for a beginning covers the texts that start with it. -/
@[simp]
theorem covers_prefixed {beginning path : String} :
    (PathPattern.prefixed beginning).covers path =
      startsWith beginning path := by
  have starts : (path.toList.dropPrefix? beginning.toList).isSome = true ↔
      beginning.toList <+: path.toList := by
    rw [Option.isSome_iff_exists]
    constructor
    · intro ⟨rest, found⟩
      obtain ⟨start, parts, same⟩ := List.dropPrefix?_eq_some_iff.mp found
      rw [parts, eq_of_beq same]
      exact List.prefix_append _ _
    · intro ⟨rest, parts⟩
      exact ⟨rest, List.dropPrefix?_eq_some_iff.mpr
        ⟨beginning.toList, parts.symm, BEq.rfl⟩⟩
  apply Bool.eq_iff_iff.mpr
  simp only [PathPattern.covers, stripStart, startsWith, Option.isSome_map,
    List.isPrefixOf_iff_prefix]
  exact starts

@[simp]
theorem covers_exact {expected path : String} :
    (PathPattern.exact expected).covers path = (expected == path) := rfl

section Order

variable {options : ServeOptions} {method : Method} {path : String}

theorem applicationPolicy_rules :
    (applicationPolicy options).rules =
      options.publicExact.map (fun path =>
        { methods := [.get, .head]
          pattern := .exact path
          requirement := .publicAccess }) ++
      options.publicPaths.map (fun path =>
        { methods := proxiedMethods
          pattern := .prefixed path
          requirement := .publicAccess }) ++
      options.required.map (fun entry =>
        { methods := proxiedMethods
          pattern := .prefixed entry.1
          requirement := .capability entry.2 }) ++
      options.requiredExact.map (fun entry =>
        { methods := proxiedMethods
          pattern := .exact entry.1
          requirement := .capability entry.2 }) ++
      [{ methods := proxiedMethods
         pattern := .prefixed "/"
         requirement := .authenticated }] := by
  simp [applicationPolicy, RoutePolicy.rule, ruleEach_rules, RoutePolicy.new]

theorem mem_proxiedMethods (proxied : method ≠ .options) :
    proxiedMethods.contains method = true := by
  cases method <;> first | rfl | exact absurd rfl proxied

theorem map_find?_eq {α β : Type} (holds : α → Bool) (items : List α)
    (result : β) :
    ((items.find? holds).map fun _ => result) =
      if ∃ item ∈ items, holds item = true then some result else none := by
  cases found : items.find? holds with
  | none =>
      rw [if_neg (by simpa using found)]
      rfl
  | some item =>
      rw [if_pos ⟨item, List.mem_of_find?_eq_some found,
        List.find?_some found⟩]
      rfl

theorem isPublic_iff :
    IsPublic options method path ↔
      (∃ entry ∈ options.publicExact,
        (entry == path && [Method.get, .head].contains method) = true) ∨
      ∃ entry ∈ options.publicPaths, startsWith entry path = true := by
  simp [IsPublic]

theorem find?_rules (proxied : method ≠ .options) :
    ((applicationPolicy options).rules.find?
        (·.applies method path)).map RouteRule.requirement =
      if IsPublic options method path then some .publicAccess
      else
        (((firstRequired options path).map fun entry =>
            Requirement.capability entry.2).or
          ((firstRequiredExact options path).map fun entry =>
            Requirement.capability entry.2)).or
        (if startsWith "/" path then some .authenticated else none) := by
  have others : ((List.find? (fun rule : RouteRule =>
        rule.pattern.covers path && rule.methods.contains method)
      [{ methods := proxiedMethods
         pattern := .prefixed "/"
         requirement := .authenticated }]).map RouteRule.requirement) =
      if startsWith "/" path then some .authenticated else none := by
    rw [List.find?_singleton, covers_prefixed, mem_proxiedMethods proxied,
      Bool.and_true]
    cases startsWith "/" path <;> rfl
  rw [applicationPolicy_rules]
  simp only [List.find?_append, List.find?_map, Option.map_or, Option.map_map,
    RouteRule.applies, Function.comp_def, covers_exact, covers_prefixed,
    mem_proxiedMethods proxied, Bool.and_true, others, isPublic_iff,
    map_find?_eq, firstRequired, firstRequiredExact]
  by_cases onPath : ∃ entry ∈ options.publicExact,
      (entry == path && [Method.get, .head].contains method) = true
  · simp only [if_pos onPath, if_pos (Or.inl onPath), Option.some_or]
  · by_cases below : ∃ entry ∈ options.publicPaths,
        startsWith entry path = true
    · simp only [if_neg onPath, if_pos below, if_pos (Or.inr below),
        Option.none_or, Option.some_or]
    · simp only [if_neg onPath, if_neg below,
        if_neg (not_or.mpr ⟨onPath, below⟩), Option.none_or]

theorem outcome_eq_matched (proxied : method ≠ .options)
    {requirement : Requirement}
    (decides : (if IsPublic options method path then some .publicAccess
      else
        (((firstRequired options path).map fun entry =>
            Requirement.capability entry.2).or
          ((firstRequiredExact options path).map fun entry =>
            Requirement.capability entry.2)).or
        (if startsWith "/" path then some .authenticated else none)) =
      some requirement) :
    outcome options method path = .matched requirement := by
  apply RoutePolicy.resolve_eq_matched_iff.mpr
  exact (find?_rules proxied).trans decides

theorem outcome_unmatched (proxied : method ≠ .options)
    (hidden : ¬IsPublic options method path)
    (noPrefix : firstRequired options path = none)
    (noExact : firstRequiredExact options path = none)
    (relative : startsWith "/" path = false) :
    outcome options method path =
      if path ∈ options.publicExact then .methodNotAllowed
      else .noPolicy := by
  have nothing : (applicationPolicy options).rules.find?
      (·.applies method path) = none := by
    apply Option.map_eq_none_iff.mp
    rw [find?_rules proxied, if_neg hidden, noPrefix, noExact, relative]
    rfl
  have noPublic : ¬∃ entry ∈ options.publicPaths,
      startsWith entry path = true := fun below => hidden (.inr below)
  have covered : (applicationPolicy options).rules.any
        (·.pattern.covers path) = true ↔
      path ∈ options.publicExact := by
    rw [applicationPolicy_rules]
    have noEntry : ∀ entry ∈ options.required,
        ¬startsWith entry.1 path = true := List.find?_eq_none.mp noPrefix
    have noExactEntry : ∀ entry ∈ options.requiredExact,
        ¬(entry.1 == path) = true := List.find?_eq_none.mp noExact
    have publicFalse : options.publicPaths.any (startsWith · path) = false :=
      List.any_eq_false.mpr fun entry member begins =>
        noPublic ⟨entry, member, begins⟩
    have requiredFalse :
        options.required.any (fun entry => startsWith entry.1 path) = false :=
      List.any_eq_false.mpr noEntry
    have exactFalse :
        options.requiredExact.any (fun entry => entry.1 == path) = false :=
      List.any_eq_false.mpr noExactEntry
    simp only [List.any_append, List.any_map, Function.comp_def, covers_exact,
      covers_prefixed, List.any_cons, List.any_nil, relative, publicFalse,
      requiredFalse, exactFalse, Bool.or_false]
    simp
  unfold outcome RoutePolicy.resolve
  rw [RoutePolicy.resolveFrom_unmatched nothing, Bool.false_or]
  simp only [covered]

theorem not_publicAccess {required exactEntry : Option (String × String)}
    {absolute : Bool} :
    ((required.map fun entry => Requirement.capability entry.2).or
        (exactEntry.map fun entry => Requirement.capability entry.2)).or
        (if absolute then some .authenticated else none) ≠
      some .publicAccess := by
  cases required <;> cases exactEntry <;> cases absolute <;> simp

/-- The flags decide in the order of the list. -/
theorem decidedInOrder (options : ServeOptions) (method : Method)
    (path : String) (proxied : method ≠ .options) :
    DecidedInOrder options method path := by
  refine ⟨?_, ?_, ?_, ?_⟩
  · unfold outcome
    rw [RoutePolicy.resolve_eq_matched_iff, find?_rules proxied]
    constructor
    · intro decides
      by_contra hidden
      rw [if_neg hidden] at decides
      exact not_publicAccess decides
    · intro isPublic
      rw [if_pos isPublic]
  · intro hidden entry found
    apply outcome_eq_matched proxied
    rw [if_neg hidden, found]
    rfl
  · intro hidden noPrefix entry found
    apply outcome_eq_matched proxied
    rw [if_neg hidden, noPrefix, found]
    rfl
  · intro hidden noPrefix noExact
    cases absolute : startsWith "/" path with
    | false => exact outcome_unmatched proxied hidden noPrefix noExact absolute
    | true =>
        apply outcome_eq_matched proxied
        rw [if_neg hidden, noPrefix, noExact, absolute]
        rfl

end Order

/-! ## A public prefix above everything else -/

def openOptions : ServeOptions :=
  { publicPaths := ["/"]
    publicExact := []
    required := [("/invoices", "invoice.read")]
    requiredExact := [] }

/-- The root is public, and for invoices a capability is required. -/
theorem openOptions_decidedInOrder :
    Method.get ≠ .options ∧ DecidedInOrder openOptions .get "/invoices" :=
  ⟨by decide, decidedInOrder openOptions .get "/invoices" (by decide)⟩

/-- The broader public entry wins over the requirement. -/
theorem applicationPolicy_not_specificRuleWins :
    ¬∀ (options : ServeOptions) (method : Method) (path : String),
      method ≠ .options → SpecificRuleWins options method path := by
  intro wins
  have invoices := wins openOptions .get "/invoices" (by decide)
  have notOutdone : ¬Outdone openOptions "/invoices" "/invoices" := by
    intro outdone
    rcases outdone with ⟨_, member⟩ | member | ⟨entry, member, _, longer⟩
    · exact List.not_mem_nil member
    · exact List.not_mem_nil member
    · rw [List.mem_singleton.mp member] at longer
      exact absurd longer (by decide)
  obtain ⟨longest, _, _, _, decides⟩ := invoices.longestEntry
    ("/invoices", "invoice.read") (by decide) (by decide +kernel)
    (by decide +kernel) notOutdone
  have isPublic : outcome openOptions .get "/invoices" =
      .matched .publicAccess := by
    decide +kernel
  rw [isPublic] at decides
  cases decides

end AuthBoundry
