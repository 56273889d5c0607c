import AuthBoundry.Library.Encoding
import AuthBoundry.Runtime.Context

/-!
# Responses

Every refusal has the same shape: a status, a reason and a message.  The
status only says whether signing in could help.
-/

namespace AuthBoundry

open Library

structure HttpResponse where
  status : Nat
  headers : List (String × String)
  body : List UInt8
  deriving DecidableEq, Repr

/-- A text in a form that may stand between quotation marks. -/
def escape (value : String) : String :=
  replaceChar '\n' "\\n" (replaceChar '"' "\\\"" (replaceChar '\\' "\\\\" value))

/-- What a character is written as between quotation marks. -/
def escapedChar (character : Char) : List Char :=
  if character == '\\' then ['\\', '\\']
  else if character == '"' then ['\\', '"']
  else if character == '\n' then ['\\', 'n']
  else [character]

theorem toList_escape (value : String) :
    (escape value).toList = value.toList.flatMap escapedChar := by
  unfold escape replaceChar
  simp only [String.toList_ofList, List.flatMap_assoc]
  apply List.flatMap_congr
  intro character _
  unfold escapedChar
  by_cases backslash : character = '\\'
  · subst backslash
    rfl
  · by_cases quotes : character = '"'
    · subst quotes
      rfl
    · simp [backslash, quotes]

theorem escape_injective : Function.Injective escape := by
  have words : Function.Injective (List.flatMap escapedChar) := by
    apply flatMap_injective
    · intro character
      unfold escapedChar
      split_ifs <;> simp
    · intro letter other rest rest' same
      unfold escapedChar at same
      split_ifs at same <;> grind
  intro left right same
  have lists := congrArg String.toList same
  rw [toList_escape, toList_escape] at lists
  exact String.toList_inj.mp (words lists)

def keptInPath (byte : UInt8) : Bool :=
  let character := Char.ofNat byte.toNat
  character.isAlphanum || "/-_.".toList.contains character

def percentEncodePath (value : String) : String :=
  String.ofList <| (utf8 value).flatMap fun byte =>
    if keptInPath byte then
      [Char.ofNat byte.toNat]
    else
      '%' :: (hexDigits 2 byte.toNat).map Char.toUpper

namespace HttpResponse

def new (status : Nat) (contentType : String) (body : List UInt8) :
    HttpResponse :=
  { status, headers := [("content-type", contentType)], body }

def json (status : Nat) (body : String) : HttpResponse :=
  new status "application/json" (utf8 body)

def html (status : Nat) (body : String) : HttpResponse :=
  new status "text/html; charset=utf-8" (utf8 body)

def denied (status : Nat) (reason message : String) : HttpResponse :=
  let error := if status == 401 then "unauthenticated" else "denied"
  json status
    ("\x7b\"error\": \"" ++ error ++ "\", \"reason\": \"" ++ escape reason ++
      "\", \"message\": \"" ++ escape message ++ "\"\x7d")

/-- The message can be read back from a refusal. -/
theorem denied_inj {status : Nat} {reason left right : String}
    (same : denied status reason left =
      .denied status reason right) : left = right := by
  have bodies := utf8_inj (congrArg body same)
  have lists := congrArg String.toList bodies
  simp only [String.toList_append] at lists
  have middles := List.append_cancel_left (List.append_cancel_right lists)
  exact escape_injective (String.toList_inj.mp middles)

def withHeader (self : HttpResponse) (name value : String) : HttpResponse :=
  { self with headers := self.headers ++ [(name, value)] }

end HttpResponse

/-- The refusals after which the sign-in page is offered. -/
def shouldRedirectToLogin : DenialReason → Bool
  | .missingCredential | .invalidSession | .expiredSession | .revokedSession
  | .unknownPrincipal => true
  | _ => false

def statusFor : DenialReason → Nat
  | .missingCredential | .unknownPrincipal | .invalidSession | .expiredSession
  | .revokedSession => 401
  | _ => 403

def denial (err : AuthError) : HttpResponse :=
  .denied (statusFor err.denial) err.denial.asStr err.message

end AuthBoundry
