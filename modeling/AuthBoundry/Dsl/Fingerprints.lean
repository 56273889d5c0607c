import AuthBoundry.Dsl.SettingsText

/-!
# What the fingerprint is taken of

The text that is hashed joins the names and values of a declaration by
separators without escaping them.  It can be read back as long as no name or
value looks like what may stand in its place or behind it.
-/

namespace AuthBoundry

open Library

/-! ## Claims -/

theorem readable_listed : Readable (fun _ => True)
    (fun text : String => ',' ∉ text.toList) (labelled "" ',') :=
  Readable.labelled "" ','

theorem prefix_of_listed {tag rest : List Char} {text : String}
    (separated : ',' ∉ tag) (begins : tag <+: labelled "" ',' text ++ rest) :
    tag <+: text.toList := by
  refine @prefix_of_separated Char ',' tag text.toList rest separated ?_
  simpa [labelled] using begins

namespace ClaimKind

/-- No value of an enum looks like two of them or like the end of the list. -/
def Plain (self : ClaimKind) : Prop :=
  ∀ values, self = .enum values → ∀ value ∈ values,
    ',' ∉ value.toList ∧ ¬"];".toList <+: value.toList

def text : ClaimKind → List Char
  | .enum values =>
      "enum[".toList ++ (values.flatMap (labelled "" ',') ++ "];".toList)
  | .string => "string;".toList
  | .integer => "integer;".toList
  | .boolean => "boolean;".toList

theorem text_enum (values : List String) :
    text (.enum values) =
      "enum[".toList ++ (values.flatMap (labelled "" ',') ++ "];".toList) :=
  rfl

theorem readable : Readable (fun _ => True) Plain text := by
  have values : Readable (fun rest => "];".toList <+: rest)
      (fun values => ∀ value ∈ values,
        ',' ∉ value.toList ∧ ¬"];".toList <+: value.toList)
      fun values : List String => values.flatMap (labelled "" ',') := by
    refine Readable.list
      (readable_listed.comap (fun _ plain => plain.1) fun _ _ _ _ same => same)
      ?_ (fun _ _ => trivial) fun _ _ _ => trivial
    intro value rest plain ends
    exact plain.2 (prefix_of_listed (by decide) ends)
  have ends : ∀ rest : List Char, "];".toList <+: "];".toList ++ rest :=
    fun rest => List.prefix_append _ rest
  intro left right rest rest' leftPlain rightPlain _ _ same
  cases left with
  | enum leftValues =>
      cases right with
      | enum rightValues =>
          simp only [text_enum, List.append_assoc] at same
          obtain ⟨rfl, ended⟩ := values (leftPlain leftValues rfl)
            (rightPlain rightValues rfl) (ends rest) (ends rest')
            (List.append_cancel_left same)
          exact ⟨rfl, List.append_cancel_left ended⟩
      | string => exact absurd (List.cons_eq_cons.mp same).1 (by decide)
      | integer => exact absurd (List.cons_eq_cons.mp same).1 (by decide)
      | boolean => exact absurd (List.cons_eq_cons.mp same).1 (by decide)
  | string =>
      cases right with
      | enum => exact absurd (List.cons_eq_cons.mp same).1 (by decide)
      | string => exact ⟨rfl, List.append_cancel_left same⟩
      | integer => exact absurd (List.cons_eq_cons.mp same).1 (by decide)
      | boolean => exact absurd (List.cons_eq_cons.mp same).1 (by decide)
  | integer =>
      cases right with
      | enum => exact absurd (List.cons_eq_cons.mp same).1 (by decide)
      | string => exact absurd (List.cons_eq_cons.mp same).1 (by decide)
      | integer => exact ⟨rfl, List.append_cancel_left same⟩
      | boolean => exact absurd (List.cons_eq_cons.mp same).1 (by decide)
  | boolean =>
      cases right with
      | enum => exact absurd (List.cons_eq_cons.mp same).1 (by decide)
      | string => exact absurd (List.cons_eq_cons.mp same).1 (by decide)
      | integer => exact absurd (List.cons_eq_cons.mp same).1 (by decide)
      | boolean => exact ⟨rfl, List.append_cancel_left same⟩

end ClaimKind

namespace ClaimDef

/-- How the text of a kind begins. -/
def kindLabels : List (List Char) :=
  ["enum[".toList, "string;".toList, "integer;".toList, "boolean;".toList]

/-- The name contains no other claim and does not look like what follows the
claims. -/
structure Plain (claim : ClaimDef) : Prop where
  name : Closed ':' kindLabels claim.name.toList
  apart : ¬"agents=".toList <+: claim.name.toList
  kind : claim.kind.Plain

def text (self : ClaimDef) : List Char :=
  labelled "" ':' self.name ++ self.kind.text

theorem toList_writeClaim (claim : ClaimDef) :
    (AuthConfig.writeClaim claim).toList = claim.text := by
  obtain ⟨name, kind⟩ := claim
  unfold AuthConfig.writeClaim text labelled
  cases kind with
  | enum values =>
      unfold ClaimKind.text labelled
      simp only [String.toList_append, String.toList_join, List.flatMap_map,
        List.append_assoc]
      rfl
  | string =>
      simp only [String.toList_append, List.append_assoc]
      rfl
  | integer =>
      simp only [String.toList_append, List.append_assoc]
      rfl
  | boolean =>
      simp only [String.toList_append, List.append_assoc]
      rfl

theorem readable : Readable (fun _ => True) Plain text := by
  have kindNext : ∀ (kind : ClaimKind) (rest : List Char),
      EndsBefore kindLabels (kind.text ++ rest) := by
    intro kind rest
    refine .inr ?_
    cases kind with
    | enum values =>
        refine ⟨"enum[".toList, .head _, ?_⟩
        rw [ClaimKind.text_enum, List.append_assoc]
        exact List.prefix_append _ _
    | string => exact ⟨_, .tail _ (.head _), List.prefix_append _ rest⟩
    | integer => exact ⟨_, .tail _ (.tail _ (.head _)), List.prefix_append _ rest⟩
    | boolean =>
        exact ⟨_, .tail _ (.tail _ (.tail _ (.head _))),
          List.prefix_append _ rest⟩
  intro left right rest rest' leftPlain rightPlain _ _ same
  simp only [text, List.append_assoc] at same
  obtain ⟨name, same⟩ := Readable.labelled_closed "" ':' (by decide)
    leftPlain.name rightPlain.name (kindNext _ _) (kindNext _ _) same
  obtain ⟨kind, rests⟩ := ClaimKind.readable leftPlain.kind rightPlain.kind
    trivial trivial same
  obtain ⟨⟩ := left
  obtain ⟨⟩ := right
  simp only [mk.injEq]
  exact ⟨⟨name, kind⟩, rests⟩

theorem readable_list : Readable (fun rest => "agents=".toList <+: rest)
    (fun claims => ∀ claim ∈ claims, Plain claim)
    fun claims : List ClaimDef => claims.flatMap text := by
  refine readable.list ?_ (fun _ _ => trivial) fun _ _ _ => trivial
  intro claim rest plain ends
  refine plain.apart (@prefix_of_separated Char ':' _ _ (claim.kind.text ++ rest)
    (by decide) ?_)
  simpa [text, labelled] using ends

end ClaimDef

/-! ## Policies -/

namespace PolicyClaimCondition

def ValuesBegin (self : PolicyClaimCondition) (start : String) : Prop :=
  ∃ value ∈ self.values.head?, start.toList <+: value.toList

/-- The name is no other name with a value or a policy behind it, no value is
two or ends the list, and the condition is not what follows the policies. -/
structure Plain (condition : PolicyClaimCondition) : Prop where
  claim : '=' ∉ condition.claim.toList
  noPolicy : ':' ∉ condition.claim.toList
  values : ∀ value ∈ condition.values,
    ',' ∉ value.toList ∧ ¬[';'] <+: value.toList
  apart : condition.claim = "ui" → ¬condition.ValuesBegin "mode:"

def valuesText (self : PolicyClaimCondition) : List Char :=
  self.values.flatMap (labelled "" ',') ++ [';']

def text (self : PolicyClaimCondition) : List Char :=
  labelled "" '=' self.claim ++ self.valuesText

theorem text_append (self : PolicyClaimCondition) (rest : List Char) :
    self.text ++ rest = self.claim.toList ++ '=' :: (self.valuesText ++ rest) := by
  simp [text, labelled]

theorem readable : Readable (fun _ => True) Plain text := by
  have values : Readable (fun rest => [';'] <+: rest)
      (fun values => ∀ value ∈ values,
        ',' ∉ value.toList ∧ ¬[';'] <+: value.toList)
      fun values : List String => values.flatMap (labelled "" ',') := by
    refine Readable.list
      (readable_listed.comap (fun _ plain => plain.1) fun _ _ _ _ same => same)
      ?_ (fun _ _ => trivial) fun _ _ _ => trivial
    intro value rest plain ends
    exact plain.2 (prefix_of_listed (by decide) ends)
  intro left right rest rest' leftPlain rightPlain _ _ same
  simp only [text, valuesText, List.append_assoc] at same
  obtain ⟨claim, same⟩ := Readable.labelled "" '=' leftPlain.claim
    rightPlain.claim trivial trivial same
  obtain ⟨sameValues, ended⟩ := values leftPlain.values rightPlain.values
    (List.prefix_append _ rest) (List.prefix_append _ rest') same
  obtain ⟨⟩ := left
  obtain ⟨⟩ := right
  simp only [mk.injEq]
  exact ⟨⟨claim, sameValues⟩, List.append_cancel_left ended⟩

/-- A condition begins like a label only if the claim has the label's name and
the values begin like the rest of the label. -/
theorem prefix_text {self : PolicyClaimCondition} (plain : self.Plain)
    {name : String} {start rest : List Char} (named : '=' ∉ name.toList)
    (begins : name.toList ++ '=' :: start <+: self.text ++ rest) :
    self.claim = name ∧ start <+: self.valuesText ++ rest := by
  rw [text_append] at begins
  obtain ⟨names, values⟩ := prefix_separator_inj named plain.claim begins
  exact ⟨(String.toList_inj.mp names).symm, values⟩

theorem valuesBegin_of_prefix {self : PolicyClaimCondition} {start : String}
    {first : Char} {others rest : List Char}
    (begins : start.toList = first :: others) (unended : first ≠ ';')
    (separated : ',' ∉ start.toList)
    (values : start.toList <+: self.valuesText ++ rest) :
    self.ValuesBegin start := by
  rw [valuesText] at values
  cases listed : self.values with
  | nil =>
      rw [listed, begins] at values
      exact absurd (List.cons_prefix_cons.mp values).1 unended
  | cons value later =>
      rw [listed, List.flatMap_cons, List.append_assoc, List.append_assoc]
        at values
      exact ⟨value, by rw [listed]; rfl, prefix_of_listed separated values⟩

end PolicyClaimCondition

namespace PolicyDef

/-- What may follow a policy: the user interface or the next capability. -/
def Follows (rest : List Char) : Prop :=
  "ui=mode:".toList <+: rest ∨
    ∃ (capability : String) (later : List Char), ':' ∉ capability.toList ∧
      '=' ∉ capability.toList ∧ rest = capability.toList ++ ':' :: later

/-- An omitted part is not imitated by the first claim condition, and no name
or value contains its own end. -/
structure Plain (policy : PolicyDef) : Prop where
  capability : ':' ∉ policy.capability.toList
  noCondition : '=' ∉ policy.capability.toList
  resource : ∀ resource ∈ policy.resource, ';' ∉ resource.toList
  action : ∀ action ∈ policy.action, ';' ∉ action.toList
  claims : ∀ condition ∈ policy.claims, condition.Plain
  tenantApart : policy.tenantCurrent = false → policy.resource = none →
    policy.action = none → ∀ condition ∈ policy.claims.head?,
      condition.claim = "tenant" → ¬condition.ValuesBegin "current;"
  resourceApart : policy.resource = none → policy.action = none →
    ∀ condition ∈ policy.claims.head?, condition.claim ≠ "resource"
  actionApart : policy.action = none →
    ∀ condition ∈ policy.claims.head?, condition.claim ≠ "action"

def conditionsText (self : PolicyDef) : List Char :=
  self.claims.flatMap PolicyClaimCondition.text

def actionText (self : PolicyDef) : List Char :=
  (self.action.map fun action =>
    "action=".toList ++ labelled "" ';' action).getD []

def resourceText (self : PolicyDef) : List Char :=
  (self.resource.map fun resource =>
    "resource=".toList ++ labelled "" ';' resource).getD []

def tenantText (self : PolicyDef) : List Char :=
  if self.tenantCurrent then "tenant=current;".toList else []

def text (self : PolicyDef) : List Char :=
  labelled "" ':' self.capability ++
    (self.tenantText ++
      (self.resourceText ++ (self.actionText ++ self.conditionsText)))

theorem toList_writePolicy (policy : PolicyDef) :
    (AuthConfig.writePolicy policy).toList = policy.text := by
  obtain ⟨capability, tenantCurrent, resource, action, claims⟩ := policy
  have conditions :
      (String.join (claims.map fun condition => condition.claim ++ "=" ++
        String.join (condition.values.map fun value => value ++ ",") ++
          ";")).toList = claims.flatMap PolicyClaimCondition.text := by
    unfold PolicyClaimCondition.text PolicyClaimCondition.valuesText labelled
    simp only [String.toList_append, String.toList_join, List.flatMap_map,
      List.append_assoc]
    rfl
  unfold AuthConfig.writePolicy text tenantText resourceText actionText
    conditionsText labelled
  simp only [String.toList_append, conditions, List.append_assoc]
  cases tenantCurrent <;> cases resource <;> cases action <;>
    simp only [Option.map_none, Option.map_some, Option.getD_none,
      Option.getD_some, String.toList_append, List.append_assoc, toString] <;>
    rfl

theorem readable_conditions : Readable Follows
    (fun claims => ∀ condition ∈ claims, PolicyClaimCondition.Plain condition)
    fun claims : List PolicyClaimCondition =>
      claims.flatMap PolicyClaimCondition.text := by
  refine PolicyClaimCondition.readable.list ?_ (fun _ _ => trivial)
    fun _ _ _ => trivial
  rintro condition rest plain (interface | ⟨capability, later, noPolicy,
    noCondition, same⟩)
  · have begins : "ui".toList ++ '=' :: "mode:".toList <+:
        condition.text ++ rest := interface
    obtain ⟨claim, values⟩ :=
      PolicyClaimCondition.prefix_text plain (by decide) begins
    exact plain.apart claim (PolicyClaimCondition.valuesBegin_of_prefix rfl
      (by decide) (by decide) values)
  · rw [PolicyClaimCondition.text_append] at same
    exact separators_apart (by decide) plain.noPolicy noCondition same

theorem Plain.not_prefix_conditionsText {policy : PolicyDef}
    {name : String} {start rest : List Char} (after : Follows rest)
    (named : '=' ∉ name.toList) (unseparated : ':' ∉ name.toList)
    (other : name ≠ "ui")
    (first : ∀ condition ∈ policy.claims.head?, ∀ later,
      ¬name.toList ++ '=' :: start <+: condition.text ++ later) :
    ¬name.toList ++ '=' :: start <+: policy.conditionsText ++ rest := by
  intro begins
  cases listed : policy.claims with
  | nil =>
      rw [conditionsText, listed] at begins
      change name.toList ++ '=' :: start <+: rest at begins
      rcases after with interface | ⟨capability, later, _, noCondition, same⟩
      · obtain ⟨later, rfl⟩ := interface
        have labels : name.toList ++ '=' :: start <+:
            "ui".toList ++ '=' :: ("mode:".toList ++ later) := begins
        exact other (String.toList_inj.mp
          (prefix_separator_inj named (by decide) labels).1)
      · obtain ⟨excess, rfl⟩ := begins
        rw [List.append_assoc, List.cons_append] at same
        exact separators_apart (by decide) unseparated noCondition same
  | cons condition conditions =>
      rw [conditionsText, listed, List.flatMap_cons, List.append_assoc] at begins
      exact first condition (by rw [listed]; rfl) _ begins

theorem Plain.not_prefix_action {policy : PolicyDef} (plain : policy.Plain)
    {rest : List Char} (after : Follows rest) (omitted : policy.action = none) :
    ¬"action=".toList <+: policy.conditionsText ++ rest := by
  refine @Plain.not_prefix_conditionsText policy "action" [] rest after
    (by decide) (by decide) (by decide) ?_
  intro condition head later begins
  have member := List.mem_of_mem_head? head
  exact plain.actionApart omitted condition head
    (PolicyClaimCondition.prefix_text (plain.claims condition member)
      (by decide) begins).1

theorem Plain.not_prefix_resource {policy : PolicyDef} (plain : policy.Plain)
    {rest : List Char} (after : Follows rest)
    (omitted : policy.resource = none) :
    ¬"resource=".toList <+:
      policy.actionText ++ (policy.conditionsText ++ rest) := by
  cases given : policy.action with
  | some action =>
      intro begins
      simp only [actionText, given] at begins
      exact absurd (List.cons_prefix_cons.mp begins).1 (by decide)
  | none =>
      rw [actionText, given]
      refine @Plain.not_prefix_conditionsText policy "resource" [] rest after
        (by decide) (by decide) (by decide) ?_
      intro condition head later begins
      have member := List.mem_of_mem_head? head
      exact plain.resourceApart omitted given condition head
        (PolicyClaimCondition.prefix_text (plain.claims condition member)
          (by decide) begins).1

theorem Plain.not_prefix_tenant {policy : PolicyDef} (plain : policy.Plain)
    {rest : List Char} (after : Follows rest)
    (omitted : policy.tenantCurrent = false) :
    ¬"tenant=current;".toList <+:
      policy.resourceText ++
        (policy.actionText ++ (policy.conditionsText ++ rest)) := by
  cases givenResource : policy.resource with
  | some resource =>
      intro begins
      simp only [resourceText, givenResource] at begins
      exact absurd (List.cons_prefix_cons.mp begins).1 (by decide)
  | none =>
      rw [resourceText, givenResource]
      cases given : policy.action with
      | some action =>
          intro begins
          simp only [actionText, given] at begins
          exact absurd (List.cons_prefix_cons.mp begins).1 (by decide)
      | none =>
          rw [actionText, given]
          refine @Plain.not_prefix_conditionsText policy "tenant"
            "current;".toList rest after (by decide) (by decide) (by decide) ?_
          intro condition head later begins
          have member := List.mem_of_mem_head? head
          obtain ⟨claim, values⟩ := PolicyClaimCondition.prefix_text
            (plain.claims condition member) (by decide) begins
          exact plain.tenantApart omitted givenResource given condition head
            claim (PolicyClaimCondition.valuesBegin_of_prefix rfl (by decide)
              (by decide) values)

theorem readable : Readable Follows Plain text := by
  intro left right rest rest' leftPlain rightPlain after after' same
  simp only [text, List.append_assoc] at same
  obtain ⟨capability, same⟩ := Readable.labelled "" ':' leftPlain.capability
    rightPlain.capability trivial trivial same
  obtain ⟨tenantCurrent, same⟩ := Readable.flag_inj "tenant=current;".toList
    (leftPlain.not_prefix_tenant after) (rightPlain.not_prefix_tenant after')
    same
  obtain ⟨resource, same⟩ := Readable.optional_inj (Readable.labelled "" ';')
    "resource=".toList leftPlain.resource rightPlain.resource
    (leftPlain.not_prefix_resource after)
    (rightPlain.not_prefix_resource after') same
  obtain ⟨action, same⟩ := Readable.optional_inj (Readable.labelled "" ';')
    "action=".toList leftPlain.action rightPlain.action
    (leftPlain.not_prefix_action after) (rightPlain.not_prefix_action after')
    same
  obtain ⟨claims, rests⟩ := readable_conditions leftPlain.claims
    rightPlain.claims after after' same
  obtain ⟨⟩ := left
  obtain ⟨⟩ := right
  simp only [mk.injEq]
  exact ⟨⟨capability, tenantCurrent, resource, action, claims⟩, rests⟩

theorem readable_list : Readable (fun rest => "ui=mode:".toList <+: rest)
    (fun policies => ∀ policy ∈ policies, Plain policy)
    fun policies : List PolicyDef => policies.flatMap text := by
  have split : ∀ (policy : PolicyDef) (rest : List Char),
      ∃ later, policy.text ++ rest =
        policy.capability.toList ++ ':' :: later := by
    intro policy rest
    exact ⟨_, by simp only [text, labelled, String.toList_empty,
      List.nil_append, List.append_assoc, List.singleton_append]; rfl⟩
  refine readable.list ?_ (fun _ interface => .inl interface) ?_
  · intro policy rest plain interface
    obtain ⟨later, same⟩ := split policy rest
    have begins : "ui=mode".toList ++ ':' :: [] <+:
        policy.capability.toList ++ ':' :: later := by
      rw [← same]
      exact interface
    have capability :=
      (prefix_separator_inj (by decide) plain.capability begins).1
    refine plain.noCondition ?_
    rw [← capability]
    decide
  · intro policy rest plain
    obtain ⟨later, same⟩ := split policy rest
    exact .inr ⟨policy.capability, later, plain.capability, plain.noCondition,
      same⟩

end PolicyDef

/-! ## Declarations -/

theorem IsolationMode.not_mem_debugName (self : IsolationMode) :
    ';' ∉ self.debugName.toList := by
  cases self <;> decide

theorem IsolationMode.debugName_inj (left right : IsolationMode)
    (same : left.debugName = right.debugName) : left = right := by
  revert same
  cases left <;> cases right <;> decide

namespace AuthConfig

def PlainProvider (provider : String) : Prop :=
  ',' ∉ provider.toList ∧ ¬";isolation=".toList <+: provider.toList

/-- No name or value of the declaration contains what separates it from the
next part. -/
structure Plain (config : AuthConfig) : Prop where
  providers : ∀ provider ∈ config.providers, PlainProvider provider
  claims : ∀ claim ∈ config.claims, claim.Plain
  policies : ∀ policy ∈ config.policies, policy.Plain
  ui : config.ui.Plain
  storage : config.storage.Plain
  mail : ∀ mail ∈ config.mail, mail.Plain

theorem readable_providers :
    Readable (fun rest => ";isolation=".toList <+: rest)
      (fun providers => ∀ provider ∈ providers, PlainProvider provider)
      fun providers : List String => providers.flatMap (labelled "" ',') := by
  refine Readable.list
    (readable_listed.comap (fun _ plain => plain.1) fun _ _ _ _ same => same)
    ?_ (fun _ _ => trivial) fun _ _ _ => trivial
  intro provider rest plain ends
  exact plain.2 (prefix_of_listed (by decide) ends)

theorem plain_canonicalClaim {claim : ClaimDef} (plain : claim.Plain) :
    (canonicalClaim claim).Plain := by
  obtain ⟨name, kind⟩ := claim
  cases kind with
  | enum values =>
      refine ⟨plain.name, plain.apart, ?_⟩
      intro sorted same value member
      cases same
      exact plain.kind values rfl value ((List.mem_insertionSort _).mp member)
  | string => exact plain
  | integer => exact plain
  | boolean => exact plain

theorem Plain.canonical {config : AuthConfig} (plain : config.Plain) :
    config.canonical.Plain where
  providers := fun provider member =>
    plain.providers provider ((List.mem_insertionSort _).mp member)
  claims := by
    intro claim member
    obtain ⟨declared, sorted, rfl⟩ := List.mem_map.mp member
    exact plain_canonicalClaim
      (plain.claims declared ((List.mem_insertionSort _).mp sorted))
  policies := fun policy member =>
    plain.policies policy ((List.mem_insertionSort _).mp member)
  ui := plain.ui
  storage := plain.storage
  mail := plain.mail

theorem ext_fields {left right : AuthConfig}
    (multiTenant : left.multiTenant = right.multiTenant)
    (providers : left.providers = right.providers)
    (claims : left.claims = right.claims)
    (isolation : left.isolation = right.isolation)
    (agents : left.agents = right.agents)
    (policies : left.policies = right.policies) (ui : left.ui = right.ui)
    (experience : left.experience = right.experience)
    (passwordPolicy : left.passwordPolicy = right.passwordPolicy)
    (storage : left.storage = right.storage) (mail : left.mail = right.mail) :
    left = right := by
  obtain ⟨⟩ := left
  obtain ⟨⟩ := right
  simp only [mk.injEq]
  exact ⟨multiTenant, providers, claims, isolation, agents, policies, ui,
    experience, passwordPolicy, storage, mail⟩

def mailText (self : AuthConfig) : List Char :=
  ((self.mail.map MailConfig.writeCanonical).getD "").toList

theorem toList_writeCanonical (self : AuthConfig) :
    self.writeCanonical.toList =
      labelled "multi_tenant=" ';' (toString self.multiTenant) ++
      ("providers=".toList ++
      (self.providers.flatMap (labelled "" ',') ++
      (labelled ";isolation=" ';' self.isolation.debugName ++
      ("claims=".toList ++
      (self.claims.flatMap ClaimDef.text ++
      (labelled "agents=" ';' (toString self.agents) ++
      ("policies=".toList ++
      (self.policies.flatMap PolicyDef.text ++
      (self.ui.writeCanonical.toList ++
      (self.experience.writeCanonical.toList ++
      (self.passwordPolicy.writeCanonical.toList ++
      (self.storage.writeCanonical.toList ++ self.mailText)))))))))))) := by
  have claims : (String.join (self.claims.map writeClaim)).toList =
      self.claims.flatMap ClaimDef.text := by
    rw [String.toList_join, List.flatMap_map]
    exact List.flatMap_congr fun claim _ => ClaimDef.toList_writeClaim claim
  have policies : (String.join (self.policies.map writePolicy)).toList =
      self.policies.flatMap PolicyDef.text := by
    rw [String.toList_join, List.flatMap_map]
    exact List.flatMap_congr fun policy _ => PolicyDef.toList_writePolicy policy
  have providers : (String.join (self.providers.map fun provider =>
      provider ++ ",")).toList = self.providers.flatMap (labelled "" ',') := by
    rw [String.toList_join, List.flatMap_map]
    exact List.flatMap_congr fun provider _ => String.toList_append
  unfold writeCanonical mailText labelled
  simp only [String.toList_append, claims, policies, providers,
    List.append_assoc, toString]
  rfl

theorem mailText_ends (self : AuthConfig) :
    EndsBefore ["mail=".toList] (self.mailText ++ []) := by
  rw [List.append_nil, mailText]
  cases self.mail with
  | none => exact .inl rfl
  | some mail =>
      refine .inr ⟨_, List.mem_singleton_self _, ?_⟩
      rw [Option.map_some, Option.getD_some, MailConfig.toList_writeCanonical]
      exact List.prefix_append _ _

theorem mailText_inj {left right : AuthConfig}
    (leftPlain : ∀ mail ∈ left.mail, mail.Plain)
    (rightPlain : ∀ mail ∈ right.mail, mail.Plain)
    (same : left.mailText = right.mailText) : left.mail = right.mail := by
  unfold mailText at same
  have written : ∀ mail : MailConfig, mail.writeCanonical.toList ≠ [] := by
    intro mail empty
    rw [MailConfig.toList_writeCanonical] at empty
    exact absurd (List.append_eq_nil_iff.mp empty).1 (by decide)
  cases leftMail : left.mail with
  | none =>
      cases rightMail : right.mail with
      | none => rfl
      | some mail =>
          rw [leftMail, rightMail] at same
          exact absurd same.symm (written mail)
  | some mail =>
      cases rightMail : right.mail with
      | none =>
          rw [leftMail, rightMail] at same
          exact absurd same (written mail)
      | some mail' =>
          rw [leftMail, rightMail] at same
          rw [MailConfig.writeCanonical_inj (leftPlain mail leftMail)
            (rightPlain mail' rightMail) same]

theorem writeCanonical_canonical_inj {left right : AuthConfig}
    (leftPlain : left.Plain) (rightPlain : right.Plain)
    (same : left.canonical.writeCanonical = right.canonical.writeCanonical) :
    left.canonical = right.canonical := by
  have leftCanonical := leftPlain.canonical
  have rightCanonical := rightPlain.canonical
  have texts : left.canonical.writeCanonical.toList ++ [] =
      right.canonical.writeCanonical.toList ++ [] := by rw [same]
  simp only [toList_writeCanonical, List.append_assoc] at texts
  obtain ⟨multiTenant, texts⟩ := PasswordPolicy.readable_flag "multi_tenant="
    trivial trivial trivial trivial texts
  obtain ⟨providers, texts⟩ := readable_providers leftCanonical.providers
    rightCanonical.providers (prefix_labelled _ _ _ _) (prefix_labelled _ _ _ _)
    (List.append_cancel_left texts)
  obtain ⟨isolation, texts⟩ := Readable.shown ";isolation=" ';'
    IsolationMode.not_mem_debugName IsolationMode.debugName_inj
    trivial trivial trivial trivial texts
  obtain ⟨claims, texts⟩ := ClaimDef.readable_list leftCanonical.claims
    rightCanonical.claims (prefix_labelled _ _ _ _) (prefix_labelled _ _ _ _)
    (List.append_cancel_left texts)
  obtain ⟨agents, texts⟩ := PasswordPolicy.readable_flag "agents="
    trivial trivial trivial trivial texts
  have interface : ∀ (ui : AuthUiConfig) (rest : List Char),
      "ui=mode:".toList <+: ui.writeCanonical.toList ++ rest := by
    intro ui rest
    rw [AuthUiConfig.toList_writeCanonical, List.append_assoc]
    exact prefix_labelled _ _ _ _
  obtain ⟨policies, texts⟩ := PolicyDef.readable_list leftCanonical.policies
    rightCanonical.policies (interface _ _) (interface _ _)
    (List.append_cancel_left texts)
  obtain ⟨ui, texts⟩ := AuthUiConfig.canonical_writeCanonical_inj leftPlain.ui
    rightPlain.ui texts
  obtain ⟨experience, texts⟩ := AuthExperience.readable
    trivial trivial trivial trivial texts
  obtain ⟨passwordPolicy, texts⟩ := PasswordPolicy.readable
    trivial trivial trivial trivial texts
  obtain ⟨storage, texts⟩ := StorageConfig.readable leftPlain.storage
    rightPlain.storage (mailText_ends _) (mailText_ends _) texts
  have mail := mailText_inj leftCanonical.mail rightCanonical.mail
    (by simpa using texts)
  exact ext_fields multiTenant providers claims isolation agents policies ui
    experience passwordPolicy storage mail

/-- Plain declarations with different canonical forms are hashed from different
bytes. -/
theorem utf8_writeCanonical_ne {left right : AuthConfig}
    (leftPlain : left.Plain) (rightPlain : right.Plain)
    (different : left.canonical ≠ right.canonical) :
    utf8 left.canonical.writeCanonical ≠ utf8 right.canonical.writeCanonical :=
  fun same => different
    (writeCanonical_canonical_inj leftPlain rightPlain (utf8_inj same))

/-! ## One provider or two -/

def providersConfig (providers : List String) : AuthConfig :=
  { AuthConfig.default with providers }

theorem plain_defaultUi : AuthUiConfig.default.Plain := by
  intro tag member
  rw [List.mem_singleton.mp member]
  decide

theorem plain_defaultStorage : StorageConfig.default.Plain := by
  refine ⟨?_, ?_, ?_⟩ <;>
  · intro tag member
    rw [List.mem_singleton.mp member]
    decide

theorem plain_providersConfig {providers : List String}
    (plain : ∀ provider ∈ providers, PlainProvider provider) :
    (providersConfig providers).Plain where
  providers := plain
  claims := nofun
  policies := nofun
  ui := plain_defaultUi
  storage := plain_defaultStorage
  mail := nofun

theorem utf8_writeCanonical_ne_apart :
    utf8 (providersConfig ["a", "b"]).canonical.writeCanonical ≠
      utf8 (providersConfig ["a", "c"]).canonical.writeCanonical :=
  utf8_writeCanonical_ne
    (plain_providersConfig (by unfold PlainProvider; decide))
    (plain_providersConfig (by unfold PlainProvider; decide))
    (by decide +kernel)

/-- A provider with a comma in its name is hashed like two providers. -/
theorem commaProvider_collides :
    (providersConfig ["a,b"]).validate = .ok () ∧
    (providersConfig ["a", "b"]).validate = .ok () ∧
    (providersConfig ["a,b"]).canonical ≠
      (providersConfig ["a", "b"]).canonical ∧
    utf8 (providersConfig ["a,b"]).canonical.writeCanonical =
      utf8 (providersConfig ["a", "b"]).canonical.writeCanonical := by
  refine ⟨by decide +kernel, by decide +kernel, by decide +kernel, ?_⟩
  have same : (providersConfig ["a,b"]).canonical.writeCanonical =
      (providersConfig ["a", "b"]).canonical.writeCanonical := by
    decide +kernel
  rw [same]

end AuthConfig

end AuthBoundry
