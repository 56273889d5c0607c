import AuthBoundry.Boundary.Runtime
import AuthBoundry.Server.Http

/-!
# Routes and what they demand

A route policy is a list of rules.  The first rule that covers both the path
and the method decides; a path that no rule covers is refused, not forwarded.
-/

namespace AuthBoundry

open Library

/-- What a request has to satisfy, and whether there is a route for it. -/
inductive RouteOutcome where
  | matched (requirement : Requirement)
  | methodNotAllowed
  | notFound
  | noPolicy
  deriving DecidableEq, Repr

inductive PathPattern where
  | exact (expected : String)
  | prefixed (beginning : String)
  deriving DecidableEq, Repr

namespace PathPattern

def covers : PathPattern → String → Bool
  | .exact expected, path => expected == path
  | .prefixed beginning, path => (stripStart beginning path).isSome

end PathPattern

structure RouteRule where
  methods : List Method
  pattern : PathPattern
  requirement : Requirement
  deriving DecidableEq, Repr

namespace RouteRule

/-- The rule is about the path and lists the method. -/
def applies (self : RouteRule) (method : Method) (path : String) : Bool :=
  self.pattern.covers path && self.methods.contains method

end RouteRule

structure RoutePolicy where
  rules : List RouteRule
  deriving DecidableEq, Repr

namespace RoutePolicy

def new : RoutePolicy := { rules := [] }

def rule (self : RoutePolicy) (methods : List Method) (pattern : PathPattern)
    (requirement : Requirement) : RoutePolicy :=
  { rules := self.rules ++ [{ methods, pattern, requirement }] }

/-- Go through the rules, remembering whether one was about the path. -/
def resolveFrom (method : Method) (path : String) (pathMatched : Bool) :
    List RouteRule → RouteOutcome
  | [] => if pathMatched then .methodNotAllowed else .noPolicy
  | rule :: rest =>
      if !rule.pattern.covers path then
        resolveFrom method path pathMatched rest
      else if rule.methods.contains method then
        .matched rule.requirement
      else
        resolveFrom method path true rest

def resolve (self : RoutePolicy) (method : Method) (path : String) :
    RouteOutcome :=
  resolveFrom method path false self.rules

theorem resolveFrom_eq_matched_iff {method : Method} {path : String}
    {pathMatched : Bool} {rules : List RouteRule}
    {requirement : Requirement} :
    resolveFrom method path pathMatched rules = .matched requirement ↔
      (rules.find? (·.applies method path)).map RouteRule.requirement =
        some requirement := by
  induction rules generalizing pathMatched with
  | nil => cases pathMatched <;> simp [resolveFrom]
  | cons rule rest ih =>
      unfold resolveFrom
      by_cases covered : rule.pattern.covers path = true
      · by_cases listed : rule.methods.contains method = true
        · have applied : rule.applies method path = true := by
            rw [RouteRule.applies, covered, listed, Bool.and_self]
          rw [if_neg (by simp [covered]), if_pos listed, List.find?_cons,
            applied]
          simp
        · have skipped : rule.applies method path = false := by
            rw [RouteRule.applies, Bool.eq_false_of_not_eq_true listed,
              Bool.and_false]
          rw [if_neg (by simp [covered]), if_neg listed, List.find?_cons,
            skipped]
          exact ih
      · have skipped : rule.applies method path = false := by
          rw [RouteRule.applies, Bool.eq_false_of_not_eq_true covered,
            Bool.false_and]
        rw [if_pos (by simp [covered]), List.find?_cons, skipped]
        exact ih

theorem resolve_eq_matched_iff {self : RoutePolicy} {method : Method}
    {path : String} {requirement : Requirement} :
    self.resolve method path = .matched requirement ↔
      (self.rules.find? (·.applies method path)).map RouteRule.requirement =
        some requirement :=
  resolveFrom_eq_matched_iff

end RoutePolicy

/-- How the server reaches the application: where its routes are, how it
answers a request and whether it takes an upgraded connection. -/
structure ApplicationBinding where
  resolve : Method → String → RouteOutcome
  handle : BoundaryRequest → Option AuthContext → HttpResponse
  upgrade : BoundaryRequest → Option AuthContext → Bool

/-- A proxy resolves by its route policy.  What the application behind it
answers, and whether a tunnel to it opens, is not up to the proxy. -/
def upstreamProxy (policy : RoutePolicy)
    (forward : BoundaryRequest → Option AuthContext → HttpResponse)
    (tunnel : BoundaryRequest → Option AuthContext → Bool) :
    ApplicationBinding :=
  { resolve := policy.resolve, handle := forward, upgrade := tunnel }

end AuthBoundry
