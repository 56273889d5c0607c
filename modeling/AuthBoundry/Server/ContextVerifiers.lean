import AuthBoundry.Boundary.ClientTexts
import AuthBoundry.Library.Doubles
import AuthBoundry.Library.Misreading
import AuthBoundry.Runtime.Attenuation
import AuthBoundry.Server.RelayedResponses

/-!
# The generated verifiers

The initialization writes a verifier of the injected context for Express and
one for FastAPI.  Both compute the digest of the proxy in another language.
Both are assumed to be handed the headers through a channel that reads each
byte as one character.
-/

namespace AuthBoundry

open Library

/-! ## One digest in three languages -/

namespace Express

/-- The lowest bits of a number without a limit. -/
def asUintN (bits number : Nat) : Nat := number % 2 ^ bits

def padStart (width : Nat) (filler : Char) (text : List Char) : List Char :=
  List.leftpad width filler text

def sign (secret context : String) : String :=
  let hash := (utf8 (secret ++ "|" ++ context)).foldl
    (fun hash byte => asUintN 64 ((hash ^^^ byte.toNat) * 0x100000001b3))
    0xcbf29ce484222325
  String.ofList (padStart 16 '0' (Nat.toDigits 16 hash))

end Express

namespace FastApi

def sign (secret context : String) : String :=
  let value := (utf8 (secret ++ "|" ++ context)).foldl
    (fun value byte =>
      ((value ^^^ byte.toNat) * 0x100000001b3) &&& 0xffffffffffffffff)
    0xcbf29ce484222325
  String.ofList (List.leftpad 16 '0' (Nat.toDigits 16 value))

end FastApi

theorem Express.sign_eq : Express.sign = UpstreamProxy.sign := by
  funext secret context
  rw [UpstreamProxy.sign, hex16_eq_leftpad, toNat_fnv1a]
  rfl

theorem FastApi.sign_eq : FastApi.sign = UpstreamProxy.sign := by
  have masked : ∀ number : Nat, number &&& 0xffffffffffffffff =
      number % 2 ^ 64 := fun number => Nat.and_two_pow_sub_one_eq_mod number 64
  funext secret context
  rw [UpstreamProxy.sign, hex16_eq_leftpad, toNat_fnv1a]
  simp only [FastApi.sign, masked]

/-! ## The verifiers -/

/-- What the application behind a verifier is handed. -/
inductive Handed where
  /-- The request is refused with status 403. -/
  | refused
  /-- The context is verified, but reading it raises an error. -/
  | crashed
  | attached (context : Option JsonValue)

/-- Both verifiers, up to the digest and the reader of their language. -/
def verifyContext (sign : String → String → String)
    (parse : String → Option JsonValue) (secret : String)
    (header : String → Option String) : Handed :=
  if secret.isEmpty ||
      some (sign secret "proxy") != header ProxyHeader.proxySignature then
    .refused
  else
    match header ProxyHeader.context, header ProxyHeader.signature with
    | some context, some signature =>
        if !context.isEmpty && !signature.isEmpty &&
            sign secret context == signature then
          match parse context with
          | some value => .attached (some value)
          | none => .crashed
        else
          .attached none
    | _, _ => .attached none

namespace Express

/-- `JSON.parse`: numbers are read as doubles. -/
def parse (text : String) : Option JsonValue :=
  (decodeJson text).map (JsonValue.mapLeaves id nearestDouble)

def authBoundryContext (secret : String) (header : String → Option String) :
    Handed :=
  verifyContext sign parse secret header

end Express

namespace FastApi

/-- `json.loads`: whole numbers have no limit. -/
def loads (text : String) : Option JsonValue := decodeJson text

def authboundryContext (secret : String) (header : String → Option String) :
    Handed :=
  verifyContext sign loads secret header

end FastApi

/-! ## The channel -/

def isHeaderBlank (character : Char) : Bool :=
  character == ' ' || character == '\t'

/-- A text without the blanks around it. -/
def stripBlanks (text : List Char) : List Char :=
  ((text.dropWhile isHeaderBlank).reverse.dropWhile isHeaderBlank).reverse

/-- A header value as it is assumed to reach a verifier: its bytes read as
Latin-1, without the blanks around it. -/
def receivedValue (value : String) : String :=
  String.ofList (stripBlanks (misread value).toList)

def receivedHeader (headers : List (String × String)) (name : String) :
    Option String :=
  (headers.lookup name).map receivedValue

theorem stripBlanks_eq {text : List Char}
    (head : ∀ first ∈ text.head?, isHeaderBlank first = false)
    (last : ∀ final ∈ text.getLast?, isHeaderBlank final = false) :
    stripBlanks text = text := by
  have front : ∀ {characters : List Char},
      (∀ first ∈ characters.head?, isHeaderBlank first = false) →
        characters.dropWhile isHeaderBlank = characters := by
    intro characters begins
    cases characters with
    | nil => rfl
    | cons first rest =>
        have solid := begins first rfl
        exact List.dropWhile_cons_of_neg (by simp [solid])
  have back : ∀ first ∈ text.reverse.head?, isHeaderBlank first = false := by
    rwa [List.head?_reverse]
  rw [stripBlanks, front head, front back, List.reverse_reverse]

theorem of_mem_hexDigits {width number : Nat} {character : Char}
    (member : character ∈ hexDigits width number) :
    ∃ digit < 16, Nat.digitChar digit = character := by
  induction width generalizing number with
  | zero => cases member
  | succ width induction =>
      rcases List.mem_append.mp member with leading | last
      · exact induction leading
      · exact ⟨number % 16, Nat.mod_lt number (by decide),
          (List.mem_singleton.mp last).symm⟩

theorem receivedValue_sign (secret context : String) :
    receivedValue (UpstreamProxy.sign secret context) =
      UpstreamProxy.sign secret context := by
  have hex : ∀ character ∈ (UpstreamProxy.sign secret context).toList,
      character.toNat < 128 ∧ isHeaderBlank character = false := by
    intro character member
    rw [UpstreamProxy.sign, hex16, String.toList_ofList] at member
    obtain ⟨digit, bounded, rfl⟩ := of_mem_hexDigits member
    have digits : ∀ digit < 16, (Nat.digitChar digit).toNat < 128 ∧
        isHeaderBlank (Nat.digitChar digit) = false := by
      decide
    exact digits digit bounded
  have ascii := (misread_eq_self_iff _).mpr fun character member =>
    (hex character member).1
  have solid := stripBlanks_eq
    (fun first member => (hex first (List.mem_of_mem_head? member)).2)
    (fun final member => (hex final (List.mem_of_mem_getLast? member)).2)
  rw [receivedValue, ascii, solid, String.ofList_toList]

namespace ClientAuthContext

theorem toList_receivedValue (self : ClientAuthContext) :
    (receivedValue self.toJson).toList =
      clientStyle.write (self.json.mapLeaves misread id) := by
  have written := clientStyle.misread_write self.json
  rw [← self.toList_toJson, ← toList_misread] at written
  have solid : stripBlanks (misread self.toJson).toList =
      (misread self.toJson).toList := by
    rw [written, json, JsonValue.mapLeaves_object, JsonStyle.write]
    refine stripBlanks_eq ?_ ?_
    · rintro _ ⟨⟩
      decide
    · intro final member
      rw [← List.cons_append, List.getLast?_concat] at member
      obtain rfl := Option.some.inj member
      decide
  rw [receivedValue, String.toList_ofList, solid, written]

end ClientAuthContext

/-! ## What the application is handed -/

section Handed

variable {parse : String → Option JsonValue} {number : ℚ → ℚ}

theorem receivedHeader_injected (proxy : UpstreamProxy)
    (context : AuthContext) :
    let header := receivedHeader (proxy.injectedHeaders (some context))
    header ProxyHeader.proxySignature =
        some (UpstreamProxy.sign proxy.secret "proxy") ∧
      header ProxyHeader.context =
        some (receivedValue context.project.toJson) ∧
      header ProxyHeader.signature =
        some (UpstreamProxy.sign proxy.secret context.project.toJson) := by
  refine ⟨?_, rfl, ?_⟩
  · exact congrArg some (receivedValue_sign proxy.secret "proxy")
  · exact congrArg some (receivedValue_sign proxy.secret _)

theorem isEmpty_receivedValue (self : ClientAuthContext) :
    (receivedValue self.toJson).isEmpty = false := by
  rw [String.isEmpty_eq_false_iff, Ne, ← String.toList_eq_nil_iff,
    self.toList_receivedValue]
  exact (clientStyle.opened_write _).ne_nil

theorem isEmpty_sign (secret text : String) :
    (UpstreamProxy.sign secret text).isEmpty = false := by
  rw [String.isEmpty_eq_false_iff, Ne, ← String.toList_eq_nil_iff,
    UpstreamProxy.sign, hex16, String.toList_ofList, hexDigits]
  exact List.concat_ne_nil _ _

/-- What keeps a projection as it is on the way and in the reader. -/
theorem each_project_plain_iff (self : ClientAuthContext) :
    self.json.Each
      (fun text => IsAscii text.toList ∧ clientStyle.LegibleText text)
      (fun inside => number (clientStyle.shown inside) = inside) ↔
        (∀ text ∈ self.texts, ∀ character ∈ text.toList,
          0x20 ≤ character.toNat ∧ character.toNat < 0x80) ∧
        number self.sessionExpiresAt = self.sessionExpiresAt := by
  have names : ∀ name ∈ ClientAuthContext.memberNames,
      IsAscii name.toList ∧ clientStyle.LegibleText name := by
    decide
  have shown : (clientStyle.shown self.sessionExpiresAt : ℚ) =
      self.sessionExpiresAt := by
    simp [clientStyle]
  rw [ClientAuthContext.each_json_iff names, shown]
  refine and_congr_left fun _ => forall₂_congr fun text _ => ?_
  rw [clientStyle_legibleText_iff, IsAscii, ← forall₂_and]
  exact forall₂_congr fun _ _ => and_comm

/-- The context that was injected is attached unaltered exactly if its texts
have only ASCII characters from the blank on and its time is a number of the
reader. -/
theorem verifyContext_injected_iff (proxy : UpstreamProxy)
    (context : AuthContext) (nonempty : proxy.secret ≠ "")
    (parses : ∀ text, parse text =
      (decodeJson text).map (JsonValue.mapLeaves id number)) :
    verifyContext UpstreamProxy.sign parse proxy.secret
        (receivedHeader (proxy.injectedHeaders (some context))) =
      .attached (some context.project.json) ↔
      (∀ text ∈ context.project.texts, ∀ character ∈ text.toList,
        0x20 ≤ character.toNat ∧ character.toNat < 0x80) ∧
        number context.project.sessionExpiresAt =
          context.project.sessionExpiresAt := by
  obtain ⟨admitted, carried, signed⟩ := receivedHeader_injected proxy context
  have entered : (proxy.secret.isEmpty ||
      some (UpstreamProxy.sign proxy.secret "proxy") !=
        some (UpstreamProxy.sign proxy.secret "proxy")) = false := by
    simp [nonempty]
  have written := context.project.toList_receivedValue
  have read := clientStyle.decodeJson_of_written written
  rw [← each_project_plain_iff, ← clientStyle.reading_misread_eq_some_iff,
    ← read, ← parses]
  unfold verifyContext
  rw [admitted, entered, carried, signed]
  simp only [isEmpty_receivedValue, isEmpty_sign, Bool.not_false, Bool.true_and,
    Bool.false_eq_true, if_false, beq_iff_eq]
  constructor
  · intro handed
    split at handed
    · cases parsed : parse (receivedValue context.project.toJson) with
      | none =>
          rw [parsed] at handed
          cases handed
      | some value =>
          rw [parsed] at handed
          exact Handed.attached.inj handed
    · cases handed
  · intro parsed
    have same : receivedValue context.project.toJson =
        context.project.toJson := by
      have untouched := parsed
      rw [parses, read, clientStyle.reading_misread_eq_some_iff] at untouched
      have leaves : context.project.json.mapLeaves misread id =
          context.project.json :=
        (JsonValue.mapLeaves_eq_self_iff _).mpr
          ⟨fun text member =>
            (misread_eq_self_iff text).mpr (untouched.1 text member).1,
            fun _ _ => rfl⟩
      rw [← String.toList_inj, written, leaves, context.project.toList_toJson]
    rw [parsed, same, if_pos rfl]

theorem verifyContext_unverified (secret : String)
    (header : String → Option String)
    (unverified : ∀ context ∈ header ProxyHeader.context,
      ∀ signature ∈ header ProxyHeader.signature,
        UpstreamProxy.verify secret context signature = false) :
    verifyContext UpstreamProxy.sign parse secret header = .refused ∨
      verifyContext UpstreamProxy.sign parse secret header =
        .attached none := by
  unfold verifyContext
  split
  · exact .inl rfl
  · refine .inr ?_
    split
    · next context signature found signed =>
        have refused := unverified context found signature signed
        rw [UpstreamProxy.verify] at refused
        simp [refused]
    · rfl

end Handed

namespace UpstreamProxy

/-- The application is handed what the boundary derived, whichever of the two
verifiers it has, and nothing that the proxy did not sign. -/
structure Bridges (proxy : UpstreamProxy) (context : AuthContext) : Prop where
  express : Express.authBoundryContext proxy.secret
      (receivedHeader (proxy.injectedHeaders (some context))) =
    .attached (some context.project.json)
  fastApi : FastApi.authboundryContext proxy.secret
      (receivedHeader (proxy.injectedHeaders (some context))) =
    .attached (some context.project.json)
  unverified : ∀ header : String → Option String,
    (∀ context ∈ header ProxyHeader.context,
      ∀ signature ∈ header ProxyHeader.signature,
        verify proxy.secret context signature = false) →
      (Express.authBoundryContext proxy.secret header = .refused ∨
        Express.authBoundryContext proxy.secret header = .attached none) ∧
      (FastApi.authboundryContext proxy.secret header = .refused ∨
        FastApi.authboundryContext proxy.secret header = .attached none)
  oneDigest : ∀ secret text : String,
    Express.sign secret text = sign secret text ∧
      FastApi.sign secret text = sign secret text

theorem express_attached_iff (self : UpstreamProxy) (context : AuthContext)
    (nonempty : self.secret ≠ "") :
    Express.authBoundryContext self.secret
        (receivedHeader (self.injectedHeaders (some context))) =
      .attached (some context.project.json) ↔
      (∀ text ∈ context.project.texts, ∀ character ∈ text.toList,
        0x20 ≤ character.toNat ∧ character.toNat < 0x80) ∧
        nearestDouble context.project.sessionExpiresAt =
          context.project.sessionExpiresAt := by
  rw [Express.authBoundryContext, Express.sign_eq]
  exact verifyContext_injected_iff self context nonempty fun _ => rfl

theorem fastApi_attached_iff (self : UpstreamProxy) (context : AuthContext)
    (nonempty : self.secret ≠ "") :
    FastApi.authboundryContext self.secret
        (receivedHeader (self.injectedHeaders (some context))) =
      .attached (some context.project.json) ↔
      ∀ text ∈ context.project.texts, ∀ character ∈ text.toList,
        0x20 ≤ character.toNat ∧ character.toNat < 0x80 := by
  have parses : ∀ text, FastApi.loads text =
      (decodeJson text).map (JsonValue.mapLeaves id id) := by
    intro text
    cases read : decodeJson text with
    | none => exact read
    | some value => simp [FastApi.loads, read, JsonValue.mapLeaves_id]
  rw [FastApi.authboundryContext, FastApi.sign_eq,
    verifyContext_injected_iff self context nonempty parses]
  exact and_iff_left rfl

/--
The context reaches the application with a verifier of either kind exactly if
its texts have only ASCII characters from the blank on and its time is a
double.  Any other text changes on the way, so that the digest does not fit, or
is a control character that was not escaped, so that it cannot be read.
-/
theorem bridges_iff (self : UpstreamProxy) (context : AuthContext)
    (nonempty : self.secret ≠ "") :
    self.Bridges context ↔
      (∀ text ∈ context.project.texts, ∀ character ∈ text.toList,
        0x20 ≤ character.toNat ∧ character.toNat < 0x80) ∧
        nearestDouble context.project.sessionExpiresAt =
          context.project.sessionExpiresAt := by
  constructor
  · intro bridges
    exact (self.express_attached_iff context nonempty).mp bridges.express
  · intro plain
    refine ⟨(self.express_attached_iff context nonempty).mpr plain,
      (self.fastApi_attached_iff context nonempty).mpr plain.1, ?_, ?_⟩
    · intro header unverified
      rw [Express.authBoundryContext, Express.sign_eq,
        FastApi.authboundryContext, FastApi.sign_eq]
      exact ⟨verifyContext_unverified self.secret header unverified,
        verifyContext_unverified self.secret header unverified⟩
    · intro secret text
      rw [Express.sign_eq, FastApi.sign_eq]
      exact ⟨rfl, rfl⟩

/-! ## A user with a plain name -/

/-- A user in a session of one hour. -/
def signedIn (subject : String) : AuthContext :=
  .new
    { id := ⟨"session-1"⟩
      identityId := ⟨"identity-1"⟩
      tenantId := ⟨"acme"⟩
      createdAt := 0
      expiresAt := 3600
      revokedAt := none }
    (AuthMesh.actor acme (acmePrincipal subject .human))

def signingProxy : UpstreamProxy :=
  { policy := RoutePolicy.new, secret := "proxy-secret" }

theorem bridges_alice : signingProxy.Bridges (signedIn "alice") := by
  refine (bridges_iff signingProxy _ (by decide)).mpr ⟨?_, ?_⟩
  · have texts : (signedIn "alice").project.texts =
        ["alice", "human", "acme"] :=
      rfl
    rw [texts]
    simp
  · exact @nearestDouble_intCast 3600 (by decide)

/-- Neither a letter beyond ASCII nor a control character gets through. -/
theorem zoe_not_bridged :
    ¬signingProxy.Bridges (signedIn "Zoë") ∧
      ¬signingProxy.Bridges (signedIn "ali\tce") := by
  have withheld : ∀ (subject : String) (character : Char),
      character ∈ subject.toList →
        ¬(0x20 ≤ character.toNat ∧ character.toNat < 0x80) →
          ¬signingProxy.Bridges (signedIn subject) := by
    intro subject character inside odd bridges
    have plain := (signingProxy.fastApi_attached_iff (signedIn subject)
      (by decide)).mp bridges.fastApi
    exact odd (plain subject List.mem_cons_self character inside)
  exact ⟨withheld _ 'ë' (by decide) (by decide),
    withheld _ '\t' (by decide) (by decide)⟩

/-! ## Headers that only the boundary speaks -/

def isReserved (name : String) : Bool :=
  reservedHeaderPrefix.toList.isPrefixOf name.toList

theorem isReserved_injected (proxy : UpstreamProxy)
    (context : Option AuthContext) :
    ∀ header ∈ proxy.injectedHeaders context,
      isReserved (asciiLower header.1) = true := by
  have reserved : ∀ name ∈ injectedNames,
      isReserved (asciiLower name) = true := by
    decide
  exact fun header member =>
    reserved _ (mem_injectedNames proxy context header member)

/-- The names that a server reads are in lower case. -/
theorem asciiLower_of_readFrom {stream : List UInt8} {read : ReceivedRequest}
    (found : ReceivedRequest.readFrom stream = .ok read) {name value : String}
    (stored : read.headers[name]? = some value) : asciiLower name = name := by
  obtain ⟨_, rest, _, _, _, _, _, _, _, found⟩ := readFrom_eq_ok found
  unfold readFieldsAndBody at found
  obtain ⟨⟨lines, after⟩, isLines, found⟩ := except_bind_eq_ok_iff.mp found
  obtain ⟨_, _, found⟩ := except_bind_eq_ok_iff.mp found
  cases found
  rcases readHeaders_cases rest with
    ⟨headers, ended, isRead, isHeaders⟩ | ⟨message, failed⟩
  · rw [isLines] at isRead
    cases isRead
    exact (headerLines_settled isHeaders _ (mem_of_collectPairs stored)).1
  · rw [isLines] at failed
    cases failed

/-- Whatever a client sends, and in whatever case it writes its headers, the
application is told in the vocabulary of the boundary what the boundary injects
and nothing else. -/
theorem forwarded_reserved {stream : List UInt8} {front : ReceivedRequest}
    (read : ReceivedRequest.readFrom stream = .ok front) (proxy : UpstreamProxy)
    (context : Option AuthContext) (host : String) :
    let request := (HttpRequest.assemble front.method front.target
      front.headers (fromUtf8Lossy front.body)).toBoundary
    ((proxy.forwarded request context).writtenFields host).filter
        (fun field => isReserved (asciiLower field.1)) =
      proxy.injectedHeaders context := by
  intro request
  have kept : ∀ field ∈ request.headers.toList.filter fun field =>
      passesOn field.1, isReserved (asciiLower field.1) = false := by
    intro field member
    obtain ⟨listed, passes⟩ := List.mem_filter.mp member
    have received : field ∈ front.headers.toList := by
      have sanitized : field ∈ (front.headers.filter fun name _ =>
          !reservedHeaderPrefix.toList.isPrefixOf name.toList).toList := listed
      rw [Std.ExtTreeMap.toList_filter] at sanitized
      exact List.mem_of_mem_filter sanitized
    rw [asciiLower_of_readFrom read
      (Std.ExtTreeMap.mem_toList_iff_getElem?_eq_some.mp received)]
    have kept : passesOn field.1 = true := passes
    rw [passesOn, Bool.not_eq_true', Bool.or_eq_false_iff] at kept
    exact kept.1
  have fixed : ∀ name ∈ ["host", "content-type", "content-length",
      "connection"], isReserved (asciiLower name) = false := by
    decide
  simp only [List.forall_mem_cons] at fixed
  have told := List.filter_eq_self.mpr (isReserved_injected proxy context)
  have withheld := List.filter_eq_nil_iff.mpr fun field member =>
    Bool.eq_false_iff.mp (kept field member)
  unfold ClientRequest.writtenFields
  have headers : ((proxy.forwarded request context).headers.filter fun field =>
      isReserved (asciiLower field.1)) = proxy.injectedHeaders context := by
    unfold UpstreamProxy.forwarded
    dsimp only
    split <;>
      simp only [ClientRequest.withHeader, List.filter_append, withheld, told,
        fixed, List.filter_cons, List.filter_nil, List.nil_append,
        List.append_nil, Bool.false_eq_true, if_false]
  simp [List.filter_append, headers, fixed]

/-- A client that claims to be somebody. -/
def forgingRequest : ClientRequest :=
  (ClientRequest.new .get "/").withHeader "X-AuthBoundry-Principal" "root"

theorem forwarded_reserved_forging :
    ∃ front, ReceivedRequest.readFrom (forgingRequest.written "app") =
        .ok front ∧
      ((signingProxy.forwarded (HttpRequest.assemble front.method front.target
          front.headers (fromUtf8Lossy front.body)).toBoundary none).writtenFields
        "app").filter (fun field => isReserved (asciiLower field.1)) =
          signingProxy.injectedHeaders none := by
  have read := @readFrom_written forgingRequest "app" (by decide)
    (by
      simp [forgingRequest, ClientRequest.new, ClientRequest.withHeader,
        isWhitespace]) (by
      have plain : ∀ field ∈ forgingRequest.writtenFields "app",
          (':' ∉ field.1.toList ∧ '\n' ∉ field.1.toList ∧
            trim field.1 = field.1) ∧ '\n' ∉ field.2.toList := by
        decide
      exact fun field member => ⟨(plain field member).1, (plain field member).2⟩)
  exact ⟨_, read, forwarded_reserved read signingProxy none "app"⟩

end UpstreamProxy

end AuthBoundry
