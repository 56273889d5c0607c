import AuthBoundry.Boundary.Control
import AuthBoundry.Library.JsonText

/-!
# Changes as data

How a change is written for a reader of the control plane, and which request
bodies the command line builds to propose one.
-/

namespace AuthBoundry

open Library

/--
A count as a double: beyond 53 binary digits the nearest multiple of a power of
two, and of two that are as near the one with an even factor.
-/
def asF64 (count : Nat) : ℚ :=
  if count < 2 ^ 53 then
    count
  else
    let unit := 2 ^ (Nat.log2 count - 52)
    let factor := count / unit
    let excess := 2 * (count % unit)
    let up := unit < excess || (excess == unit && factor % 2 == 1)
    ((if up then factor + 1 else factor) * unit : Nat)

def passwordPolicyJsonValue (policy : PasswordPolicy) : JsonValue :=
  .object
    [("min_length", .number (asF64 policy.minLength)),
      ("max_length", .number (asF64 policy.maxLength)),
      ("require_uppercase", .bool policy.requireUppercase),
      ("require_lowercase", .bool policy.requireLowercase),
      ("require_number", .bool policy.requireNumber),
      ("require_special_character", .bool policy.requireSpecialCharacter),
      ("expiration_days",
        (policy.passwordExpirationDays.map
          fun days => JsonValue.number (asF64 days)).getD .null),
      ("history_count", .number (asF64 policy.passwordHistoryCount))]

def changeToJson : AuthorityChange → JsonValue
  | .protectRoute method path capability =>
      .object
        [("type", .string "protect_route"), ("method", .string method.asStr),
          ("path", .string path), ("capability", .string capability)]
  | .unprotectRoute method path =>
      .object
        [("type", .string "unprotect_route"), ("method", .string method.asStr),
          ("path", .string path)]
  | .setCapabilityPolicy capability policy =>
      .object
        [("type", .string "set_capability_policy"),
          ("capability", .string capability), ("policy", .string policy.id.value)]
  | .setProviderEnabled provider enabled =>
      .object
        [("type", .string "set_provider_enabled"),
          ("provider", .string provider), ("enabled", .bool enabled)]
  | .setPasswordPolicy policy =>
      .object
        [("type", .string "set_password_policy"),
          ("policy", passwordPolicyJsonValue policy)]
  | .revert changeId =>
      .object [("type", .string "revert"), ("change_id", .string changeId)]

namespace Cli

def optionValue : List String → String → Option String
  | first :: second :: rest, name =>
      if first = name then some second else optionValue (second :: rest) name
  | _, _ => none

def escape (value : String) : String :=
  replaceChar '"' "\\\"" (replaceChar '\\' "\\\\" value)

def getOption (args : List String) (name : String) : Except String String :=
  match optionValue args name with
  | some value => .ok value
  | none => .error (name ++ " needs a value")

def quotedField (field value : String) : String :=
  "\"" ++ field ++ "\": \"" ++ escape value ++ "\""

/-- A member whose value stands as it is. -/
def bareField (field value : String) : String :=
  "\"" ++ field ++ "\": " ++ value

/-- The member that says which change is proposed. -/
def typeField (change : String) : String :=
  bareField "type" ("\"" ++ change ++ "\"")

def braced (fields : List String) : String :=
  "\x7b" ++ ", ".intercalate fields ++ "\x7d"

def numberFlags : List (String × String) :=
  [("--min-length", "min_length"), ("--max-length", "max_length"),
    ("--expiration-days", "expiration_days"),
    ("--history-count", "history_count")]

def trueFlags : List (String × String) :=
  [("--require-uppercase", "require_uppercase"),
    ("--require-lowercase", "require_lowercase"),
    ("--require-number", "require_number"),
    ("--require-special-character", "require_special_character"),
    ("--allow-password-change", "allow_password_change"),
    ("--allow-password-reset", "allow_password_reset")]

def falseFlags : List (String × String) :=
  [("--no-uppercase", "require_uppercase"),
    ("--no-lowercase", "require_lowercase"),
    ("--no-number", "require_number"),
    ("--no-special-character", "require_special_character"),
    ("--no-password-change", "allow_password_change"),
    ("--no-password-reset", "allow_password_reset")]

def passwordPolicyFields (args : List String) : List String :=
  (numberFlags.filterMap fun (flag, field) =>
      (optionValue args flag).map (bareField field)) ++
    (trueFlags.filterMap fun (flag, field) =>
      if args.contains flag then some (bareField field "true") else none) ++
    (falseFlags.filterMap fun (flag, field) =>
      if args.contains flag then some (bareField field "false") else none) ++
    if args.contains "--no-expiration" then
      [bareField "expiration_days" "null"]
    else
      []

def passwordPolicyBody (args : List String) : Except String String :=
  let fields :=
    typeField "set_password_policy" :: passwordPolicyFields args
  if fields.length = 1 then
    .error "password-policy propose needs at least one setting"
  else
    .ok (braced fields)

def proposalBody (changeType : String) (args : List String) :
    Except String String :=
  match changeType with
  | "protect-route" => do
      let method ← getOption args "--method"
      let path ← getOption args "--path"
      let capability ← getOption args "--capability"
      return braced
        [typeField "protect_route", quotedField "method" method,
          quotedField "path" path, quotedField "capability" capability]
  | "unprotect-route" => do
      let method ← getOption args "--method"
      let path ← getOption args "--path"
      return braced
        [typeField "unprotect_route", quotedField "method" method,
          quotedField "path" path]
  | "set-policy" => do
      let capability ← getOption args "--capability"
      let policy ← getOption args "--policy"
      return braced
        [typeField "set_policy", quotedField "capability" capability,
          quotedField "policy" policy]
  | "enable-provider" => do
      let provider ← getOption args "--provider"
      return braced
        [typeField "enable_provider",
          quotedField "provider" provider, bareField "enabled" "true"]
  | "disable-provider" => do
      let provider ← getOption args "--provider"
      return braced
        [typeField "disable_provider",
          quotedField "provider" provider, bareField "enabled" "false"]
  | "password-policy" => passwordPolicyBody args
  | other => .error ("unknown proposal change type " ++ "`" ++ other ++ "`")

end Cli

end AuthBoundry
