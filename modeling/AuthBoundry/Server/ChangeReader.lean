import AuthBoundry.Boundary.Control
import AuthBoundry.Library.JsonSearch

/-!
# Reading a proposed change

The control plane reads a request body by searching it: a keyword anywhere in
the body decides which change is proposed, and a field is what follows the
first occurrence of its name.
-/

namespace AuthBoundry

open Library
open scoped Library.Listed

/-! ## Fields -/

/-- What follows the first occurrence of a field's name, without the blanks. -/
def afterField (json : List Char) (field : String) : Option (List Char) :=
  (afterEach (fieldPattern field.toList) json).head?.map
    (List.dropWhile isWhitespace)

/-- A quoted value, up to the next quotation mark. -/
def quotedValue : List Char → Option String
  | '"' :: rest =>
      if rest.contains '"' then some (String.ofList (upToQuote rest)) else none
  | _ => none

def extractQuotedField (json : List Char) (field : String) : Option String :=
  (afterField json field).bind quotedValue

def isNumberChar (character : Char) : Bool :=
  character.isDigit || character == '-'

def extractNumberField (json : List Char) (field : String) : Option ℤ :=
  (afterField json field).bind fun rest =>
    parseI64 (String.ofList (rest.takeWhile isNumberChar))

def boolValue (rest : List Char) : Option Bool :=
  if "true".toList.isPrefixOf rest then
    some true
  else if "false".toList.isPrefixOf rest then
    some false
  else
    none

def extractBoolField (json : List Char) (field : String) : Option Bool :=
  (afterField json field).bind boolValue

def bodyContains (body : List Char) (word : String) : Bool :=
  containsText word (String.ofList body)

def requireField (body : List Char) (field : String) : Except String String :=
  match extractQuotedField body field with
  | some value => .ok value
  | none => .error ("missing " ++ field)

/-! ## Methods -/

/--
The upper case of a character where it is in ASCII.  Besides the ASCII letters
these are the dotless i, the long s, the sharp s and the Latin ligatures.
-/
def upperAscii (character : Char) : Option (List Char) :=
  match character.toNat with
  | 0xDF => some ['S', 'S']
  | 0x131 => some ['I']
  | 0x17F => some ['S']
  | 0xFB00 => some ['F', 'F']
  | 0xFB01 => some ['F', 'I']
  | 0xFB02 => some ['F', 'L']
  | 0xFB03 => some ['F', 'F', 'I']
  | 0xFB04 => some ['F', 'F', 'L']
  | 0xFB05 | 0xFB06 => some ['S', 'T']
  | code => if code < 128 then some [character.toUpper] else none

def toAsciiUppercase (text : String) : Option String :=
  (text.toList.mapM upperAscii).map fun upper => String.ofList upper.flatten

def methodNamed (methodStr : String) : Except String Method :=
  match toAsciiUppercase methodStr with
  | some "POST" => .ok .post
  | some "GET" => .ok .get
  | some "PUT" => .ok .put
  | some "PATCH" => .ok .patch
  | some "DELETE" => .ok .delete
  | some "HEAD" => .ok .head
  | some "OPTIONS" => .ok .options
  | _ => .error ("unknown method: " ++ methodStr)

/-! ## Password policies -/

def countOr (found : Option ℤ) (limit : Nat) (error : String)
    (unset : Nat) : Except String Nat :=
  match found with
  | none => .ok unset
  | some value =>
      if 0 ≤ value ∧ value < limit then .ok value.toNat else .error error

/-- The days after which a password expires, `null` for never. -/
def expirationDays (body : List Char) : Except String (Option Nat) :=
  if bodyContains body "\"expiration_days\": null" ||
      bodyContains body "\"password_expiration_days\": null" then
    .ok none
  else
    match (extractNumberField body "expiration_days").or
        (extractNumberField body "password_expiration_days") with
    | none => .ok PasswordPolicy.default.passwordExpirationDays
    | some value =>
        (countOr (some value) (2 ^ 32) "invalid expiration_days" 0).map some

def passwordPolicyFromBody (body : List Char) :
    Except String PasswordPolicy := do
  let unset := PasswordPolicy.default
  let flag (field : String) (unset : Bool) : Bool :=
    (extractBoolField body field).getD unset
  let minLength ← countOr (extractNumberField body "min_length") (2 ^ 64)
    "invalid min_length" unset.minLength
  let maxLength ← countOr (extractNumberField body "max_length") (2 ^ 64)
    "invalid max_length" unset.maxLength
  let passwordExpirationDays ← expirationDays body
  let passwordHistoryCount ← countOr
    ((extractNumberField body "history_count").or
      (extractNumberField body "password_history_count")) (2 ^ 64)
    "invalid history_count" unset.passwordHistoryCount
  let policy : PasswordPolicy :=
    { minLength
      maxLength
      requireUppercase := flag "require_uppercase" unset.requireUppercase
      requireLowercase := flag "require_lowercase" unset.requireLowercase
      requireNumber := flag "require_number" unset.requireNumber
      requireSpecialCharacter :=
        flag "require_special_character" unset.requireSpecialCharacter
      passwordExpirationDays
      passwordHistoryCount
      allowPasswordChange :=
        flag "allow_password_change" unset.allowPasswordChange
      allowPasswordReset :=
        flag "allow_password_reset" unset.allowPasswordReset }
  policy.validate.mapError AuthConfigError.message
  return policy

/-! ## Changes -/

/-- The rules of a policy that some roles satisfy. -/
def rulesOfRoles (capability : String) (roles : Option String) : List Rule :=
  match roles with
  | none => []
  | some value =>
      let values := ((value.toList.splitOn ',').map trimList).filter
        fun role => !role.isEmpty
      [Rule.allow ⟨capability⟩
        (.claimIn "role" (values.map fun role => .enum (String.ofList role)))]

def parseAuthorityChange (request : String) : Except String AuthorityChange :=
  let body := request.toList
  if bodyContains body "protect_route" then do
    let method ← requireField body "method" >>= methodNamed
    let path ← requireField body "path"
    let capability ← requireField body "capability"
    return .protectRoute method path capability
  else if bodyContains body "unprotect_route" then do
    let method ← requireField body "method" >>= methodNamed
    let path ← requireField body "path"
    return .unprotectRoute method path
  else if bodyContains body "set_policy" ||
      bodyContains body "set_capability_policy" then do
    let capability ← requireField body "capability"
    let policyId ← requireField body "policy"
    let roles := (extractQuotedField body "roles").or
      (extractQuotedField body "role")
    return .setCapabilityPolicy capability
      { id := ⟨policyId⟩, rules := rulesOfRoles capability roles }
  else if bodyContains body "set_provider_enabled" ||
      bodyContains body "enable_provider" ||
      bodyContains body "disable_provider" then do
    let provider ← requireField body "provider"
    let enabled := bodyContains body "\"enabled\": true" ||
      bodyContains body "enable_provider"
    return .setProviderEnabled provider enabled
  else if bodyContains body "password_policy" ||
      bodyContains body "set_password_policy" then do
    return .setPasswordPolicy (← passwordPolicyFromBody body)
  else if bodyContains body "revert" then do
    return .revert (← requireField body "change_id")
  else
    .error "unknown action"

end AuthBoundry
