import AuthBoundry.Cli.SavedAccess

/-!
# Who is let through to a route

A rule of the proxy knows the path of a route but not its method, so that the
entry of the least method of a path decides for all of them.  The capability it
asks for is granted to the roles that its access is for.
-/

namespace AuthBoundry.Studio

open Library
open Discovery

open scoped Listed

/-! ## The server -/

def studioSeeds (discovered : List RouteCandidate) (accounts : List Account) :
    Serve.Seeds :=
  { tenants := ["development"]
    accounts
    grants := developmentRouteGrants discovered }

/-- A server of the studio whose authority is the one it was started with. -/
structure StudioServer (discovered : List RouteCandidate)
    (source : Option String) (server : AuthPortServer) : Prop where
  running : ∃ config accounts,
    Serve.Running config (studioSeeds discovered accounts) server.runtime.mesh
  routes : server.app.resolve =
    (applicationPolicy (proxyOptions discovered source)).resolve
  noPolicy : ∀ capability : String,
    server.runtime.authority.capabilityPolicies[capability]? = none
  noProtection : ∀ method path,
    server.runtime.getRouteProtection method path = none

/-- A principal of the development tenant with that role. -/
structure HasRole (context : AuthContext) (role : String) : Prop where
  tenant : context.tenant = Serve.tenantContext "development"
  human : context.principal.kind = .human
  claim : ∃ value, context.principal.claims.values["role"]? = some value ∧
    claimValueText value = role

/-- A signed-in principal with the role is let through to the application. -/
def Forwarded (server : AuthPortServer) (environment : Environment)
    (request : BoundaryRequest) (now : Int) (role : String) : Prop :=
  ∃ requirement context after,
    server.applicationRequirement request = .ok requirement ∧
      AuthPortRuntime.enforce environment request requirement now
        server.runtime = .ok (some context) after ∧
      HasRole context role

/-! ## What is to hold -/

def OpenTo (discovered : List RouteCandidate) (role : String) :
    Requirement → Prop
  | .publicAccess => True
  | .authenticated => True
  | .capability name => ∃ grant ∈ developmentRouteGrants discovered,
      grant.capability = name ∧ grant.claim = "role" ∧ grant.value = role

/-- Whoever meets the requirement now met the earlier one. -/
structure NotWeaker (discovered : List RouteCandidate)
    (earlier requirement : Requirement) : Prop where
  signedOut : requirement = .publicAccess → earlier = .publicAccess
  roles : ∀ role, OpenTo discovered role requirement →
    OpenTo discovered role earlier

/-- Another method of the path requires no less than before. -/
def Unweakened (discovered : List RouteCandidate)
    (before after : Option String) (saving : Saving) : Prop :=
  ∀ other ∈ discovered, other.path = saving.path →
    equalsIgnoringCase other.method saving.method = false →
      ∀ method path, Method.parse other.method = some method →
        RouteHasPath other path →
          ∀ earlier requirement,
            outcome (proxyOptions discovered before) method path =
              .matched earlier →
            outcome (proxyOptions discovered after) method path =
              .matched requirement →
            NotWeaker discovered earlier requirement

/-- The file has what was saved, and the proxy holds requests to it. -/
structure AccessKept (discovered : List RouteCandidate)
    (savings : List Saving) (source : Option String) : Prop where
  shown : ∀ route ∈ discovered,
    shownAccess (routeAccess source) route =
      lastSaved savings route.method route.path
  forwarded : ∀ route ∈ discovered, ∀ server environment request now role,
    StudioServer discovered source server →
      Method.parse route.method = some request.method →
        RouteHasPath route request.path →
          Forwarded server environment request now role →
            lastSaved savings route.method route.path ∈
              ["default", "authenticated", role]
  unweakened : ∀ earlier saving before, savings = earlier ++ [saving] →
    Saves discovered earlier before →
      Unweakened discovered before source saving

/-! ## When it does -/

def IsForwarded (route : RouteCandidate) (method : Method) : Prop :=
  Method.parse route.method = some method ∧ method ≠ .options

/-- Where a role is saved for a route, none of its paths is public, and the
least method of each of them has the same access. -/
def Enforceable (discovered : List RouteCandidate) (savings : List Saving) :
    Prop :=
  ∀ route ∈ discovered, ∀ method, IsForwarded route method →
    lastSaved savings route.method route.path ∈ ["admin", "user"] →
      ∀ path, RouteHasPath route path →
        ¬IsPublic (proxyOptions discovered none) method path ∧
          (startsWith "/" path = true ∨ (∃ access, Leads savings path access) →
            Leads savings path (lastSaved savings route.method route.path))

/-- Where a path has other methods, its least method keeps the access, or
moves from all roles to one of them. -/
def KeepsLeader (discovered : List RouteCandidate) (savings : List Saving)
    (saving : Saving) : Prop :=
  ∀ other ∈ discovered, other.path = saving.path →
    equalsIgnoringCase other.method saving.method = false →
      ∀ method, IsForwarded other method →
        ¬IsPublic (proxyOptions discovered none) method saving.path →
          ∀ access, Leads savings saving.path access →
            (startsWith "/" saving.path = true →
              ∃ next, Leads (savings ++ [saving]) saving.path next) ∧
              ∀ next, Leads (savings ++ [saving]) saving.path next →
                next = access ∨ access = "authenticated"

/-- What is saved after these savings can be read back and enforced. -/
structure SoundSaving (discovered : List RouteCandidate) (savings : List Saving)
    (saving : Saving) : Prop where
  readable : saving.Readable
  enforceable : Enforceable discovered (savings ++ [saving])
  keepsLeader : KeepsLeader discovered savings saving

/-! ## The table -/

section Names

variable {discovered : List RouteCandidate} {method path access role : String}

/-- The access is what follows the last dot of a name. -/
theorem routeCapability_access {other otherPath otherAccess : String}
    (given : access ∈ accesses) (otherGiven : otherAccess ∈ accesses)
    (same : routeCapability method path access =
      routeCapability other otherPath otherAccess) : access = otherAccess := by
  have dotless : ∀ access ∈ accesses, '.' ∉ access.toList := by decide
  have cut := congrArg (rsplitOnce '.') same
  unfold routeCapability at cut
  dsimp only at cut
  have single : String.singleton '.' = "." := rfl
  rw [← single, rsplitOnce_append (dotless access given),
    rsplitOnce_append (dotless otherAccess otherGiven)] at cut
  exact (Prod.mk.inj (Option.some.inj cut)).2

theorem routeCapability_congr {other : String}
    (same : asciiUpper method = asciiUpper other) :
    routeCapability method path access =
      routeCapability other path access := by
  have lower : asciiLower method = asciiLower other := by
    rw [← asciiLower_asciiUpper method, same, asciiLower_asciiUpper]
  unfold routeCapability
  rw [lower]

theorem openTo_routeCapability_iff {route : RouteCandidate}
    (known : route ∈ discovered) (samePath : route.path = path)
    (sameMethod : asciiUpper route.method = asciiUpper method)
    (given : access ∈ accesses) :
    OpenTo discovered role (.capability (routeCapability method path access)) ↔
      (access, role) ∈ accessRoles := by
  have granted : ∀ entry ∈ accessRoles, entry.1 ∈ accesses := by decide
  unfold OpenTo developmentRouteGrants
  constructor
  · rintro ⟨grant, member, named, -, rfl⟩
    obtain ⟨other, -, inRoute⟩ := List.mem_flatMap.mp member
    obtain ⟨⟨access', role⟩, inRoles, rfl⟩ := List.mem_map.mp inRoute
    have same := routeCapability_access (granted _ inRoles) given named
    rw [← same]
    exact inRoles
  · intro inRoles
    refine ⟨_, List.mem_flatMap.mpr ⟨route, known,
      List.mem_map.mpr ⟨(access, role), inRoles, rfl⟩⟩, ?_, rfl, rfl⟩
    dsimp only
    rw [samePath]
    exact routeCapability_congr sameMethod

end Names

section Table

variable {discovered : List RouteCandidate} {savings : List Saving}
  {source : Option String} {method : Method} {path access : String}
  {requirement : Requirement}

/-- No rule is for this method. -/
theorem outcome_options {options : ServeOptions} :
    outcome options .options path ≠ .matched requirement := by
  intro matched
  have found := RoutePolicy.resolve_eq_matched_iff.mp matched
  obtain ⟨rule, first, -⟩ := Option.map_eq_some_iff.mp found
  have applies := List.find?_some first
  have member := List.mem_of_find?_eq_some first
  have unlisted : ∀ rule ∈ (applicationPolicy options).rules,
      rule.methods.contains .options = false := by
    rw [applicationPolicy_rules]
    simp only [List.forall_mem_append, List.forall_mem_map,
      List.forall_mem_singleton]
    exact ⟨⟨⟨⟨fun _ _ => rfl, fun _ _ => rfl⟩, fun _ _ => rfl⟩,
      fun _ _ => rfl⟩, rfl⟩
  unfold RouteRule.applies at applies
  rw [unlisted rule member] at applies
  simp at applies

theorem firstRequiredExact_eq
    (records : Records discovered savings (routeAccess source)) :
    firstRequiredExact (proxyOptions discovered source) path =
      ((routeAccess source).find? (·.path == path)).map fun entry =>
        (entry.path, routeCapability entry.method entry.path entry.access) := by
  have all : (routeAccess source).filter (fun entry =>
      entry.access != "default") = routeAccess source := by
    rw [List.filter_eq_self]
    intro entry member
    simpa using (records.listed entry member).2
  unfold firstRequiredExact proxyOptions
  dsimp only
  rw [all, List.find?_map]
  rfl

theorem outcome_of_leads
    (records : Records discovered savings (routeAccess source))
    (proxied : method ≠ .options)
    (hidden : ¬IsPublic (proxyOptions discovered source) method path)
    (leads : Leads savings path access) :
    ∃ entry ∈ routeAccess source, entry.path = path ∧ entry.access = access ∧
      outcome (proxyOptions discovered source) method path =
        .matched (.capability (routeCapability entry.method path access)) := by
  obtain ⟨entry, found, rfl⟩ := records.find?_of_leads leads
  have here := List.find?_some found
  have onPath : entry.path = path := eq_of_beq here
  have exact : firstRequiredExact (proxyOptions discovered source) path = _ :=
    firstRequiredExact_eq records
  rw [found] at exact
  refine ⟨entry, List.mem_of_find?_eq_some found, onPath, rfl, ?_⟩
  have decided := (decidedInOrder (proxyOptions discovered source) method path
    proxied).requiredExactEntries hidden rfl _ exact
  subst onPath
  exact decided

/-- Without an entry for the path, signing in is enough. -/
theorem outcome_of_not_leads
    (records : Records discovered savings (routeAccess source))
    (proxied : method ≠ .options)
    (hidden : ¬IsPublic (proxyOptions discovered source) method path)
    (unled : ¬∃ access, Leads savings path access)
    (matched : outcome (proxyOptions discovered source) method path =
      .matched requirement) :
    startsWith "/" path = true ∧ requirement = .authenticated := by
  have exact : firstRequiredExact (proxyOptions discovered source) path =
      none := by
    rw [firstRequiredExact_eq records, Option.map_eq_none_iff]
    by_contra entries
    obtain ⟨entry, found⟩ := Option.ne_none_iff_exists'.mp entries
    exact unled ⟨entry.access, records.leads_of_find? found⟩
  have decided := (decidedInOrder (proxyOptions discovered source) method path
    proxied).otherPaths hidden rfl exact
  rw [decided] at matched
  split at matched
  · rename_i absolute
    cases matched
    exact ⟨absolute, rfl⟩
  · split at matched <;> cases matched

theorem openTo_iff (saves : Saves discovered savings source)
    (records : Records discovered savings (routeAccess source))
    (hidden : ¬IsPublic (proxyOptions discovered source) method path)
    (matched : outcome (proxyOptions discovered source) method path =
      .matched requirement) :
    requirement ≠ .publicAccess ∧ ∀ role,
      OpenTo discovered role requirement ↔
        ∀ access, Leads savings path access → (access, role) ∈ accessRoles := by
  have proxied : method ≠ .options := by
    rintro rfl
    exact outcome_options matched
  by_cases led : ∃ access, Leads savings path access
  · obtain ⟨access, leads⟩ := led
    obtain ⟨entry, member, onPath, hasAccess, decided⟩ :=
      outcome_of_leads records proxied hidden leads
    rw [decided] at matched
    cases matched
    obtain ⟨route, known, sameMethod, samePath⟩ := records.known entry member
    have given : access ∈ accesses := by
      obtain ⟨least, saved, -⟩ := leads
      rw [← saved]
      exact saves.lastSaved_mem least path
    constructor
    · intro impossible
      cases impossible
    · intro role
      rw [openTo_routeCapability_iff known (samePath.trans onPath)
        (equalsIgnoringCase_iff.mp sameMethod) given]
      constructor
      · intro inRoles other otherLeads
        rw [← leads.unique otherLeads]
        exact inRoles
      · intro all
        exact all access leads
  · obtain ⟨-, rfl⟩ := outcome_of_not_leads records proxied hidden led matched
    constructor
    · intro impossible
      cases impossible
    · intro role
      exact iff_of_true trivial fun access leads => absurd ⟨access, leads⟩ led

theorem absolute_or_led
    (records : Records discovered savings (routeAccess source))
    (hidden : ¬IsPublic (proxyOptions discovered source) method path)
    (matched : outcome (proxyOptions discovered source) method path =
      .matched requirement) :
    startsWith "/" path = true ∨ ∃ access, Leads savings path access := by
  have proxied : method ≠ .options := by
    rintro rfl
    exact outcome_options matched
  by_cases led : ∃ access, Leads savings path access
  · exact .inr led
  · exact .inl (outcome_of_not_leads records proxied hidden led matched).1

end Table

/-! ## The principal -/

section Principals

variable {discovered : List RouteCandidate} {source : Option String}
  {server : AuthPortServer} {environment : Environment}
  {request : BoundaryRequest} {now : Int} {role : String}

theorem openTo_of_rule {principal : Principal} {accounts : List Account}
    {rule : Rule} {name : String} {systemTime : Option Int}
    {attributes : Option ResourceAttributes}
    (claim : ∃ value, principal.claims.values["role"]? = some value ∧
      claimValueText value = role)
    (member : rule ∈ (Serve.policy (Serve.tenantContext "development")
      (studioSeeds discovered accounts).grants).rules)
    (named : rule.capability = ⟨name⟩)
    (holds : (evaluateCondition systemTime principal attributes
      rule.condition).1 = true) :
    OpenTo discovered role (.capability name) := by
  obtain ⟨value, hasValue, text⟩ := claim
  obtain ⟨grant, granted, rfl⟩ := List.mem_map.mp member
  have roleClaim : grant.claim = "role" := by
    obtain ⟨route, -, inRoute⟩ := List.mem_flatMap.mp granted
    obtain ⟨entry, -, rfl⟩ := List.mem_map.mp inRoute
    rfl
  have same : value = .enum grant.value := by
    simpa [Rule.allow, evaluateCondition, roleClaim, hasValue] using holds
  refine ⟨grant, granted, congrArg AuthorityId.value named, roleClaim, ?_⟩
  rw [← text, same]
  rfl

/-- A human is let through to what a capability is asked for only by a grant
for its role. -/
theorem openTo_of_decide (studio : StudioServer discovered source server)
    {context : AuthContext} (hasRole : HasRole context role) {name : String}
    (allows : AuthPortRuntime.Allows
      (AuthPortRuntime.decide environment context name request now)
      server.runtime) :
    OpenTo discovered role (.capability name) := by
  obtain ⟨config, accounts, running⟩ := studio.running
  have served : "development" ∈
      (studioSeeds discovered accounts).served := List.mem_singleton.mpr rfl
  have inForce := running.policy_eq served
  rw [← hasRole.tenant] at inForce
  have noAgent : context.principal.kind ≠ .agent := by
    rw [hasRole.human]
    decide
  cases targeted : authorizationRequest context.runtime name request with
  | none =>
      have holds :=
        ((AuthPortRuntime.decide_allows_by_name_iff targeted).mp allows).2
      unfold AuthPortRuntime.HoldsByName at holds
      rw [studio.noPolicy name] at holds
      obtain ⟨-, policy, found, -, byRule | ⟨agent, -⟩⟩ := holds
      · rw [inForce] at found
        cases found
        obtain ⟨rule, decides⟩ := Option.ne_none_iff_exists'.mp byRule
        have here := List.find?_some decides
        rw [Bool.and_eq_true, beq_iff_eq] at here
        rw [hasRole.tenant] at decides
        exact openTo_of_rule hasRole.claim (List.mem_of_find?_eq_some decides)
          here.1 here.2
      · exact absurd agent noAgent
  | some authRequest =>
      have holds :=
        ((AuthPortRuntime.decide_allows_resource_iff targeted).mp allows).2.2
      obtain ⟨-, policy, found, -, mayDo⟩ := holds
      rw [inForce] at found
      cases found
      cases decides : decidingRule environment.systemTime
          (Serve.policy context.tenant (studioSeeds discovered accounts).grants)
          context.principal authRequest
          (server.runtime.resourceAttributes authRequest) with
      | none =>
          have agent := ((mayDo_undecided_iff decides).mp mayDo).1
          exact absurd agent noAgent
      | some rule =>
          have here := List.find?_some decides
          rw [Bool.and_eq_true] at here
          rw [hasRole.tenant] at decides
          refine openTo_of_rule hasRole.claim
            (List.mem_of_find?_eq_some decides) ?_ here.2
          have addressed := here.1
          unfold ruleAddresses at addressed
          rw [Bool.and_eq_true, Bool.and_eq_true, beq_iff_eq] at addressed
          rw [addressed.1.1,
            AuthPortRuntime.authorizationRequest_capability targeted]

/-- Who is let through meets what the table requires. -/
theorem Forwarded.openTo (studio : StudioServer discovered source server)
    (forwarded : Forwarded server environment request now role) :
    ∃ requirement,
      outcome (proxyOptions discovered source) request.method request.path =
        .matched requirement ∧
      OpenTo discovered role requirement := by
  obtain ⟨requirement, context, after, required, enforced, hasRole⟩ := forwarded
  have table : server.app.resolve request.method request.path =
      outcome (proxyOptions discovered source) request.method request.path := by
    rw [studio.routes]
    rfl
  refine ⟨requirement, ?_, ?_⟩
  · rw [← table]
    unfold AuthPortServer.applicationRequirement at required
    rw [studio.noProtection] at required
    cases resolved : server.app.resolve request.method request.path with
    | matched other =>
        rw [resolved] at required
        cases required
        rfl
    | methodNotAllowed =>
        rw [resolved] at required
        cases required
    | notFound =>
        rw [resolved] at required
        cases required
    | noPolicy =>
        rw [resolved] at required
        cases required
  · cases requirement with
    | publicAccess => trivial
    | authenticated => trivial
    | capability name =>
        obtain ⟨other, decision, -, decided, allowed, same⟩ :=
          AuthPortRuntime.enforce_capability_eq_ok_iff.mp enforced
        cases same
        have sameRole : HasRole other role :=
          { tenant := hasRole.tenant
            human := hasRole.human
            claim := hasRole.claim }
        exact openTo_of_decide studio sameRole
          ⟨decision, after, decided, allowed⟩

end Principals

/-! ## Runs -/

section Runs

variable {discovered : List RouteCandidate} {savings : List Saving}
  {source : Option String}

theorem Enforceable.lastSaved_mem (saves : Saves discovered savings source)
    (records : Records discovered savings (routeAccess source))
    (enforceable : Enforceable discovered savings) {route : RouteCandidate}
    (known : route ∈ discovered) {server : AuthPortServer}
    {environment : Environment} {request : BoundaryRequest} {now : Int}
    {role : String} (studio : StudioServer discovered source server)
    (hasMethod : Method.parse route.method = some request.method)
    (hasPath : RouteHasPath route request.path)
    (forwarded : Forwarded server environment request now role) :
    lastSaved savings route.method route.path ∈
      ["default", "authenticated", role] := by
  obtain ⟨requirement, matched, openTo⟩ := forwarded.openTo studio
  have given := saves.lastSaved_mem route.method route.path
  by_cases needsRole :
      lastSaved savings route.method route.path ∈ ["admin", "user"]
  · have proxied : request.method ≠ .options := by
      intro same
      rw [same] at matched
      exact outcome_options matched
    obtain ⟨hidden, led⟩ := enforceable route known request.method
      ⟨hasMethod, proxied⟩ needsRole request.path hasPath
    have leads := led (absolute_or_led records hidden matched)
    have inRoles := ((openTo_iff saves records hidden matched).2 role).mp openTo
      _ leads
    have own : ∀ access ∈ ["admin", "user"], ∀ entry ∈ accessRoles,
        entry.1 = access → entry.2 = access := by decide
    have same : role = lastSaved savings route.method route.path :=
      own _ needsRole _ inRoles rfl
    rw [← same]
    simp
  · unfold accesses at given
    simp only [List.mem_cons, List.not_mem_nil, or_false] at given needsRole ⊢
    tauto

theorem leads_concat_iff {saving : Saving} {path access : String}
    (elsewhere : saving.path ≠ path) :
    Leads (savings ++ [saving]) path access ↔ Leads savings path access := by
  have kept : ∀ method, lastSaved (savings ++ [saving]) method path =
      lastSaved savings method path := by
    intro method
    rw [lastSaved_concat, if_neg]
    intro isFor
    exact elsewhere (Saving.isFor_iff.mp isFor).2
  unfold Leads
  simp only [kept]

/-- Another method is let through to as many as before at most. -/
theorem KeepsLeader.unweakened {saving : Saving} {text : Option String}
    (saves : Saves discovered savings source)
    (records : Records discovered savings (routeAccess source))
    (next : Saves discovered (savings ++ [saving]) text)
    (nextRecords : Records discovered (savings ++ [saving]) (routeAccess text))
    (keeps : KeepsLeader discovered savings saving) :
    Unweakened discovered source text saving := by
  intro other known samePath different method path hasMethod hasPath earlier
    requirement matched later
  have proxied : method ≠ .options := by
    intro isOptions
    rw [isOptions] at matched
    exact outcome_options matched
  by_cases isPublic : IsPublic (proxyOptions discovered none) method path
  · have open' := (decidedInOrder (proxyOptions discovered source) method path
      proxied).publicEntries.mpr isPublic
    rw [matched] at open'
    cases open'
    exact { signedOut := fun _ => rfl, roles := fun _ _ => trivial }
  · obtain ⟨closed, after⟩ := openTo_iff next nextRecords isPublic later
    obtain ⟨-, before⟩ := openTo_iff saves records isPublic matched
    refine ⟨fun isOpen => absurd isOpen closed, fun role openTo => ?_⟩
    rw [after role] at openTo
    rw [before role]
    intro access leads
    by_cases onPath : saving.path = path
    · subst onPath
      obtain ⟨absolute, kept⟩ := keeps other known samePath different method
        ⟨hasMethod, proxied⟩ isPublic access leads
      have led : ∃ access, Leads (savings ++ [saving]) saving.path access := by
        rcases absolute_or_led nextRecords isPublic later with begins | led
        · exact absolute begins
        · exact led
      obtain ⟨nextAccess, nextLeads⟩ := led
      have inRoles := openTo nextAccess nextLeads
      have everyRole : ∀ entry ∈ accessRoles,
          ("authenticated", entry.2) ∈ accessRoles := by decide
      rcases kept nextAccess nextLeads with same | same
      · rw [← same]
        exact inRoles
      · rw [same]
        exact everyRole _ inRoles
    · exact openTo access ((leads_concat_iff onPath).mpr leads)

theorem enforceable_nil : Enforceable discovered [] := by
  intro route known method isForwarded needsRole
  have unset : "default" ∉ ["admin", "user"] := by decide
  exact absurd needsRole unset

/-- If each access that is saved can be read back and enforced, the file has
what was saved last, and the proxy holds all requests to it. -/
theorem Saves.accessKept (saves : Saves discovered savings source)
    (sound : ∀ earlier saving later, savings = earlier ++ saving :: later →
      SoundSaving discovered earlier saving) :
    AccessKept discovered savings source := by
  have readable : ∀ saving ∈ savings, saving.Readable := by
    intro saving member
    obtain ⟨earlier, later, whole⟩ := List.append_of_mem member
    exact (sound earlier saving later whole).readable
  have records := saves.records readable
  have enforceable : Enforceable discovered savings := by
    rcases List.eq_nil_or_concat savings with rfl | ⟨earlier, saving, whole⟩
    · exact enforceable_nil
    · rw [List.concat_eq_append] at whole
      rw [whole]
      exact (sound earlier saving [] whole).enforceable
  constructor
  · intro route _
    exact records.shownAccess_eq route
  · intro route known server environment request now role studio hasMethod
      hasPath forwarded
    exact enforceable.lastSaved_mem saves records known studio hasMethod
      hasPath forwarded
  · intro earlier saving before whole reached
    subst whole
    have earlierReadable : ∀ saving ∈ earlier, saving.Readable :=
      fun other member => readable other (List.mem_append_left _ member)
    exact (sound earlier saving [] rfl).keepsLeader.unweakened reached
      (reached.records earlierReadable) saves records

end Runs

theorem leads_of_least {savings : List Saving} {method path access : String}
    (saved : lastSaved savings method path = access)
    (given : access ≠ "default")
    (least : ∀ saving ∈ savings, saving.path = path →
      (compare (asciiUpper method) (asciiUpper saving.method)).isLE = true) :
    Leads savings path access := by
  refine ⟨method, saved, given, fun other otherSaved => ?_⟩
  unfold lastSaved at otherSaved
  cases found : savings.reverse.find? (·.isFor other path) with
  | none =>
      rw [found] at otherSaved
      exact absurd rfl otherSaved
  | some saving =>
      have here := List.find?_some found
      obtain ⟨sameMethod, samePath⟩ := Saving.isFor_iff.mp here
      rw [← sameMethod]
      exact least saving
        (List.mem_reverse.mp (List.mem_of_find?_eq_some found)) samePath

/-! ## Two methods of a path -/

section Orders

/-- The orders can be read and written. -/
def orderRoutes : List RouteCandidate :=
  ["GET", "POST"].map fun method =>
    { method, path := "/orders", source := .embedded, capability := none }

def ordersSaving (method access : String) : Saving :=
  { method, path := "/orders", access }

theorem orders_save {savings : List Saving} {source : Option String}
    (saves : Saves orderRoutes savings source) (method access : String)
    (known : method ∈ ["GET", "POST"]) (given : access ∈ accesses) :
    ∃ text, Saves orderRoutes (savings ++ [ordersSaving method access])
      (some text) := by
  refine ⟨_, .save saves (saveRouteAccess_eq_ok_iff.mpr ⟨given, ?_, rfl⟩)⟩
  refine ⟨_, List.mem_map.mpr ⟨method, known, rfl⟩, ?_, rfl⟩
  exact beq_iff_eq.mpr rfl

theorem orders_hasPath {route : RouteCandidate} (known : route ∈ orderRoutes)
    {path : String} : RouteHasPath route path ↔ path = "/orders" := by
  have literal : ∀ route ∈ orderRoutes, WithoutParameters route := by decide
  have samePath : ∀ route ∈ orderRoutes, route.path = "/orders" := by decide
  rw [routeHasPath_iff_eq (literal route known), samePath route known]

theorem orders_hidden {source : Option String} {method : Method} :
    ¬IsPublic (proxyOptions orderRoutes source) method "/orders" := by
  have unlisted : "/orders" ∉
      (proxyOptions orderRoutes none).publicExact := by decide +kernel
  have elsewhere : ∀ entry ∈ publicBeginnings,
      startsWith entry "/orders" = false := by decide +kernel
  rintro (⟨listed, -⟩ | ⟨entry, member, begins⟩)
  · exact unlisted listed
  · rw [elsewhere entry member] at begins
    cases begins

/-- What is saved for reading opens writing, which was for one role. -/
theorem orders_weakened :
    ¬∀ (discovered : List RouteCandidate) (savings : List Saving)
      (source : Option String), Saves discovered savings source →
        AccessKept discovered savings source := by
  intro kept
  obtain ⟨first, before⟩ := orders_save .start "POST" "admin" (by decide)
    (by decide)
  obtain ⟨second, after⟩ := orders_save before "GET" "authenticated"
    (by decide) (by decide)
  have readable : ∀ saving ∈ [ordersSaving "POST" "admin",
      ordersSaving "GET" "authenticated"], saving.Readable := by
    have spared : ∀ method ∈ ["POST", "GET"], Spared escapes method := by decide
    have path : Spared escapes "/orders" := by decide
    rw [List.forall_mem_cons, List.forall_mem_singleton]
    exact ⟨fun _ => ⟨spared _ (by decide), path⟩,
      fun _ => ⟨spared _ (by decide), path⟩⟩
  have beforeRecords := before.records
    fun saving member => readable saving (List.mem_append_left _ member)
  have afterRecords := after.records readable
  have beforeLeads : Leads [ordersSaving "POST" "admin"] "/orders" "admin" :=
    @leads_of_least _ "POST" _ _ (by decide) (by decide) (by decide +kernel)
  have afterLeads : Leads [ordersSaving "POST" "admin",
      ordersSaving "GET" "authenticated"] "/orders" "authenticated" :=
    @leads_of_least _ "GET" _ _ (by decide) (by decide) (by decide +kernel)
  have proxied : Method.post ≠ .options := by decide
  obtain ⟨_, -, -, -, earlier⟩ :=
    outcome_of_leads beforeRecords proxied orders_hidden beforeLeads
  obtain ⟨_, -, -, -, later⟩ :=
    outcome_of_leads afterRecords proxied orders_hidden afterLeads
  have inRoutes : { method := "POST", path := "/orders", source := .embedded
                    capability := none } ∈ orderRoutes := by decide
  have notWeaker := (kept _ _ _ after).unweakened _ _ _ rfl before _ inRoutes
    rfl (by decide) .post "/orders" (by decide)
    ((orders_hasPath inRoutes).mpr rfl) _ _ earlier later
  have open' := ((openTo_iff after afterRecords orders_hidden later).2
    "user").mpr fun access leads => by
      rw [← afterLeads.unique leads]
      decide
  have closed := ((openTo_iff before beforeRecords orders_hidden earlier).2
    "user").mp (notWeaker.roles "user" open') "admin" beforeLeads
  exact absurd closed (by decide)

/-- A role that is saved for reading is enforced. -/
theorem orders_accessKept : ∃ text,
    Saves orderRoutes [ordersSaving "GET" "admin"] (some text) ∧
      AccessKept orderRoutes [ordersSaving "GET" "admin"] (some text) := by
  obtain ⟨text, saves⟩ := orders_save .start "GET" "admin" (by decide)
    (by decide)
  refine ⟨text, saves, saves.accessKept ?_⟩
  have leads : Leads [ordersSaving "GET" "admin"] "/orders" "admin" :=
    @leads_of_least _ "GET" _ _ (by decide) (by decide) (by decide +kernel)
  intro earlier saving later whole
  obtain ⟨rfl, rfl, rfl⟩ : earlier = [] ∧ saving = ordersSaving "GET" "admin" ∧
      later = [] := by
    cases earlier with
    | nil => simpa [eq_comm] using whole
    | cons first earlier => simp at whole
  constructor
  · intro _
    exact ⟨by decide, by decide⟩
  · intro route known method isForwarded needsRole path hasPath
    rw [orders_hasPath known] at hasPath
    rw [hasPath]
    refine ⟨orders_hidden, fun _ => ?_⟩
    have only : ∀ route ∈ orderRoutes,
        lastSaved [ordersSaving "GET" "admin"] route.method route.path ∈
            ["admin", "user"] →
          lastSaved [ordersSaving "GET" "admin"] route.method route.path =
            "admin" := by decide +kernel
    rw [List.nil_append] at needsRole ⊢
    rw [only route known needsRole]
    exact leads
  · intro other _ _ _ method _ _ access leads
    obtain ⟨least, saved, given, -⟩ := leads
    exact absurd saved.symm given

end Orders

end AuthBoundry.Studio
