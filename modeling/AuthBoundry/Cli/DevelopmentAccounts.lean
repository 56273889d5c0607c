import AuthBoundry.Server.ForwardedBodies

/-!
# The development accounts

The accounts of the development setup are kept in a file.  They are written as
JSON, and read back by a search for names and quotation marks and by the syntax
of the command line, in which colons and commas separate.
-/

namespace AuthBoundry

open Library

open scoped Listed

/-! ## The syntax of the command line -/

/-- An account with its claims. -/
structure Account where
  tenant : String
  username : String
  password : String
  claims : KeyedMap String String

/-- At most so many parts, the last of which is not cut. -/
def splitn : Nat → Char → String → List String
  | 0, _, _ => []
  | 1, _, text => [text]
  | count + 2, separator, text =>
      match splitOnce separator text with
      | some (part, rest) => part :: splitn (count + 1) separator rest
      | none => [text]

namespace Account

def readClaims (claims : String) : KeyedMap String String :=
  collectPairs <|
    (((splitParts ',' claims).filter fun claim => !isBlank claim).filterMap
      (splitOnce '=')).map fun (name, value) => (trim name, trim value)

def parse (raw defaultTenant : String) : Except String Account :=
  let (spec, tenant) := (rsplitOnce '@' raw).getD (raw, defaultTenant)
  let parts := splitn 3 ':' spec
  match parts[0]?.filter (· ≠ "") with
  | none => .error "--account needs a username"
  | some username =>
      match parts[1]?.filter (· ≠ "") with
      | none => .error ("--account " ++ username ++ " needs a password")
      | some password =>
          .ok
            { tenant
              username
              password
              claims := (parts[2]?.map readClaims).getD ∅ }

end Account

/-! ## The file -/

def jsonEscape (value : String) : String :=
  replaceChar '\n' "\\n"
    (replaceChar '"' "\\\"" (replaceChar '\\' "\\\\" value))

/-- A member of an object, as the file has them. -/
def memberText (name value : String) : String :=
  "\"" ++ name ++ "\": \"" ++ value ++ "\""

/-- What is written of an account. -/
structure Row where
  username : String
  password : String
  claims : String
  deriving DecidableEq

def Row.text (self : Row) : String :=
  "    \x7b" ++ memberText "username" self.username ++ ", " ++
    memberText "password" self.password ++ ", " ++
    memberText "claims" self.claims ++ "\x7d"

def developmentText (proxySecret : String) (rows : List Row) : String :=
  "\x7b\n  " ++ memberText "tenant" "development" ++ ",\n  " ++
    memberText "proxy_secret" proxySecret ++ ",\n  \"accounts\": [\n" ++
    ",\n".intercalate (rows.map Row.text) ++ "\n  ]\n\x7d\n"

/-- A claim as it is written. -/
def claimText (claim : String × String) : String := claim.1 ++ "=" ++ claim.2

def Account.claimsText (self : Account) : String :=
  ",".intercalate (self.claims.toList.map claimText)

def Account.row (self : Account) : Row :=
  { username := jsonEscape self.username
    password := jsonEscape self.password
    claims := jsonEscape self.claimsText }

def passwordAlphabet : List Char :=
  ['A', 'B', 'C', 'D', 'E', 'F', 'G', 'H', 'J', 'K', 'L', 'M',
    'N', 'P', 'Q', 'R', 'S', 'T', 'U', 'V', 'W', 'X', 'Y', 'Z',
    'a', 'b', 'c', 'd', 'e', 'f', 'g', 'h', 'i', 'j', 'k', 'm',
    'n', 'o', 'p', 'q', 'r', 's', 't', 'u', 'v', 'w', 'x', 'y',
    'z', '2', '3', '4', '5', '6', '7', '8', '9']

def developmentPassword (bytes : Vector UInt8 18) : String :=
  String.ofList <| bytes.toList.map fun byte =>
    passwordAlphabet.getD (byte.toNat % passwordAlphabet.length) default

/-- The file as it is first written. -/
def developmentAccountsChange
    (proxySecret adminPassword userPassword : String) : String :=
  developmentText proxySecret
    [{ username := "admin", password := adminPassword, claims := "role=admin" },
      { username := "user", password := userPassword, claims := "role=user" }]

/-- The text of the first member of that name. -/
def jsonString (source key : String) : Option String := do
  let rest ← (afterEach (fieldPattern key.toList) source.toList).head?
  let value ← (rest.dropWhile isWhitespace).dropPrefix? ['"']
  let (text, _) ← splitOnce '"' (String.ofList value)
  return text

/-- Where a record begins. -/
def recordMark : List Char := '\x7b' :: '"' :: ("username".toList ++ ['"'])

/-- An account from a record.  The mark does not overlap itself, so that the
text is cut at each occurrence of it. -/
def developmentAccount (tenant : String) (rest : List Char) :
    Option Account := do
  let record := String.ofList (recordMark ++ upTo recordMark rest)
  let username ← jsonString record "username"
  let password ← jsonString record "password"
  let claims := (jsonString record "claims").getD ""
  (Account.parse (username ++ ":" ++ password ++ ":" ++ claims ++ "@" ++ tenant)
    tenant).toOption

def developmentAccounts (source : String) : List Account :=
  let tenant := (jsonString source "tenant").getD "development"
  (afterEach recordMark source.toList).filterMap (developmentAccount tenant)

def developmentProxySecret (source : String) : Option String :=
  jsonString source "proxy_secret"

/-- The file with another account. -/
def persistDevelopmentAccount (source : String) (account : Account) :
    Except String String :=
  let accounts := developmentAccounts source
  if accounts.any fun existing => existing.username = account.username then
    .error ("user `" ++ account.username ++ "` already exists")
  else
    .ok (developmentText
      (jsonEscape ((developmentProxySecret source).getD ""))
      ((accounts ++ [account]).map Account.row))

/-! ## Searching the file -/

section Members

variable {name content rest : List Char}

/-- A text between quotation marks is found if it is the name of a member. -/
theorem afterEach_quotation (lettered : Lettered name) (named : name ≠ [])
    (quoteless : '"' ∉ content) (follows : ∀ first ∈ rest.head?, first ∉ name) :
    afterEach (fieldPattern name) ('"' :: (content ++ '"' :: rest)) =
      (if content = name then (rest.dropPrefix? [':']).toList else []) ++
        afterEach (fieldPattern name) rest := by
  have nameQuoteless : '"' ∉ name := lettered.not_mem (by decide)
  have closing : ('"' :: rest).dropPrefix? (fieldPattern name) = none := by
    cases name with
    | nil => exact absurd rfl named
    | cons initial name =>
        cases rest with
        | nil => simp [fieldPattern, List.dropPrefix?]
        | cons first rest =>
            have different : first ≠ initial :=
              List.ne_of_not_mem_cons (follows first rfl)
            simp [fieldPattern, List.dropPrefix?, different]
  have opening : ∀ {name content : List Char}, '"' ∉ name → '"' ∉ content →
      (content ++ '"' :: rest).dropPrefix? (name ++ ['"', ':']) =
        if content = name then rest.dropPrefix? [':'] else none := by
    intro name content
    induction content generalizing name with
    | nil =>
        intro nameQuoteless _
        cases name with
        | nil => simp [List.dropPrefix?]
        | cons first name =>
            have different : '"' ≠ first :=
              List.ne_of_not_mem_cons nameQuoteless
            simp [List.dropPrefix?, different]
    | cons character content induction =>
        intro nameQuoteless quoteless
        rw [List.mem_cons, not_or] at quoteless
        cases name with
        | nil => simp [List.dropPrefix?, Ne.symm quoteless.1]
        | cons first name =>
            rw [List.mem_cons, not_or] at nameQuoteless
            have later := induction nameQuoteless.2 quoteless.2
            by_cases same : character = first
            · simp [List.dropPrefix?, same, later]
            · simp [List.dropPrefix?, same]
  have first : ('"' :: (content ++ '"' :: rest)).dropPrefix?
      (fieldPattern name) =
        if content = name then rest.dropPrefix? [':'] else none := by
    have here := opening nameQuoteless quoteless
    simpa [fieldPattern, List.dropPrefix?] using here
  rw [afterEach_cons, first, fieldPattern,
    afterEach_append_of_absent quoteless, ← fieldPattern, afterEach_cons,
    closing]
  by_cases same : content = name <;> simp [same]

theorem toList_memberText (key value : String) :
    (memberText key value).toList ++ rest =
      '"' :: (key.toList ++
        '"' :: (':' :: ' ' :: '"' :: (value.toList ++ '"' :: rest))) := by
  simp [memberText]

/-- What may follow a member. -/
def Ends (rest : List Char) : Prop :=
  ∀ first ∈ rest.head?, first ∈ marks ∧ first ≠ ':'

theorem Ends.cons {first : Char} (mark : first ∈ marks ∧ first ≠ ':')
    (rest : List Char) : Ends (first :: rest) := by
  intro character member
  cases member
  exact mark

theorem afterEach_member {key value : String} (lettered : Lettered name)
    (named : name ≠ []) (keyQuoteless : '"' ∉ key.toList)
    (valueQuoteless : '"' ∉ value.toList)
    (follows : Ends rest) :
    afterEach (fieldPattern name) ((memberText key value).toList ++ rest) =
      (if key.toList = name then
          [' ' :: '"' :: (value.toList ++ '"' :: rest)] else []) ++
        afterEach (fieldPattern name) rest := by
  have apart : ∀ first ∈ rest.head?, first ∉ name := fun first member =>
    lettered.not_mem (follows first member).1
  have other : rest.head? ≠ some ':' := fun same =>
    (follows ':' same).2 rfl
  have colon : ∀ {more : List Char}, ∀ first ∈ (':' :: more).head?,
      first ∉ name := by
    intro more first member
    cases member
    exact lettered.not_mem (by decide)
  have quotes : '"' ∉ [':', ' '] := by decide
  have skipped := afterEach_quotation lettered named valueQuoteless apart
  rw [dropPrefix?_colon other] at skipped
  rw [toList_memberText, afterEach_quotation lettered named keyQuoteless colon]
  have between : afterEach (fieldPattern name)
      ([':', ' '] ++ '"' :: (value.toList ++ '"' :: rest)) =
        afterEach (fieldPattern name) rest := by
    rw [fieldPattern, afterEach_append_of_absent quotes, ← fieldPattern,
      skipped]
    simp
  rw [List.cons_append, List.singleton_append] at between
  rw [between]
  by_cases same : key.toList = name
  · simp [same, List.dropPrefix?]
  · simp [same]

/-- The first member of that name has that text. -/
def Finds (key value : String) (text : List Char) : Prop :=
  ∃ rest, (afterEach (fieldPattern key.toList) text).head? =
    some (' ' :: '"' :: (value.toList ++ '"' :: rest))

variable {key value : String}

theorem finds_member (lettered : Lettered key.toList)
    (named : key.toList ≠ []) (quoteless : '"' ∉ value.toList)
    (ends : Ends rest) :
    Finds key value ((memberText key value).toList ++ rest) := by
  refine ⟨rest, ?_⟩
  rw [afterEach_member lettered named (lettered.not_mem (by decide)) quoteless
    ends, if_pos rfl]
  rfl

theorem Finds.otherMember {other text : String}
    (lettered : Lettered key.toList) (named : key.toList ≠ [])
    (quoteless : '"' ∉ text.toList)
    (otherName : '"' ∉ other.toList ∧ other.toList ≠ key.toList)
    (ends : Ends rest) (finds : Finds key value rest) :
    Finds key value ((memberText other text).toList ++ rest) := by
  obtain ⟨later, found⟩ := finds
  refine ⟨later, ?_⟩
  rw [afterEach_member lettered named otherName.1 quoteless ends,
    if_neg otherName.2, List.nil_append]
  exact found

theorem Finds.append {before : List Char} (quoteless : '"' ∉ before)
    (finds : Finds key value rest) : Finds key value (before ++ rest) := by
  obtain ⟨later, found⟩ := finds
  refine ⟨later, ?_⟩
  rw [fieldPattern, afterEach_append_of_absent quoteless, ← fieldPattern]
  exact found

theorem jsonString_of_finds {source : String} (quoteless : '"' ∉ value.toList)
    (finds : Finds key value source.toList) :
    jsonString source key = some value := by
  obtain ⟨rest, found⟩ := finds
  have whole : String.ofList (value.toList ++ '"' :: rest) =
      value ++ String.singleton '"' ++ String.ofList rest := by
    rw [← String.toList_inj]
    simp
  have skipped : (' ' :: '"' :: (value.toList ++ '"' :: rest)).dropWhile
      isWhitespace = '"' :: (value.toList ++ '"' :: rest) := rfl
  have opened : ('"' :: (value.toList ++ '"' :: rest)).dropPrefix? ['"'] =
      some (value.toList ++ '"' :: rest) := by
    simp [List.dropPrefix?]
  unfold jsonString
  rw [found, Option.bind_eq_bind, Option.bind_some, skipped, opened,
    Option.bind_eq_bind, Option.bind_some, whole, splitOnce_append quoteless]
  rfl

end Members

/-! ## Records -/

namespace Row

/-- The text is written as it is. -/
structure Quoteless (row : Row) : Prop where
  username : '"' ∉ row.username.toList
  password : '"' ∉ row.password.toList
  claims : '"' ∉ row.claims.toList

def read (self : Row) (tenant : String) : Option Account :=
  (Account.parse
    (self.username ++ ":" ++ self.password ++ ":" ++ self.claims ++ "@" ++
      tenant) tenant).toOption

/-- A record after its mark. -/
def tail (self : Row) : List Char :=
  ':' :: ' ' :: '"' :: (self.username.toList ++ '"' :: ',' :: ' ' ::
    ((memberText "password" self.password).toList ++ ',' :: ' ' ::
      ((memberText "claims" self.claims).toList ++ ['\x7d'])))

theorem toList_text (self : Row) :
    self.text.toList = [' ', ' ', ' ', ' '] ++ recordMark ++ self.tail := by
  simp [text, memberText, recordMark, tail]

theorem recordMark_tail (self : Row) (rest : List Char) :
    recordMark ++ (self.tail ++ rest) =
      ['\x7b'] ++ ((memberText "username" self.username).toList ++
        ([',', ' '] ++ ((memberText "password" self.password).toList ++
          ([',', ' '] ++ ((memberText "claims" self.claims).toList ++
            '\x7d' :: rest))))) := by
  simp [recordMark, tail, memberText]

theorem tail_unmarked {row : Row} (quoteless : row.Quoteless)
    (rest : List Char) : Unmarked recordMark row.tail rest := by
  have whole : row.tail =
      [':', ' ', '"'] ++ (row.username.toList ++
        (['"', ',', ' '] ++ "\"password\": \"".toList ++
          (row.password.toList ++
            (['"', ',', ' '] ++ "\"claims\": \"".toList ++
              (row.claims.toList ++ ['"', '\x7d']))))) := by
    simp [tail, memberText]
  have mark : recordMark = '\x7b' :: '"' :: 'u' :: "sername\"".toList := by
    simp [recordMark]
  rw [whole, mark]
  simp only [unmarked_append]
  refine ⟨unmarked_of_absent (by decide) _, ?_,
    ⟨unmarked_of_absent (by decide) _, unmarked_of_absent (by decide) _⟩, ?_,
    ⟨unmarked_of_absent (by decide) _, unmarked_of_absent (by decide) _⟩, ?_,
    unmarked_of_absent (by decide) _⟩
  · exact unmarked_of_apart quoteless.username (by decide) _
  · exact unmarked_of_apart quoteless.password (by decide) _
  · exact unmarked_of_apart quoteless.claims (by decide) _

/-- A record is read where it stands, whatever follows it. -/
theorem developmentAccount_tail {row : Row} (quoteless : row.Quoteless)
    (tenant : String) (rest : List Char) :
    developmentAccount tenant (row.tail ++ rest) = row.read tenant := by
  have record : recordMark ++ upTo recordMark (row.tail ++ rest) =
      recordMark ++ (row.tail ++ upTo recordMark rest) := by
    rw [upTo_unmarked (row.tail_unmarked quoteless rest)]
  have source : (String.ofList
      (recordMark ++ upTo recordMark (row.tail ++ rest))).toList =
        ['\x7b'] ++ ((memberText "username" row.username).toList ++
        ([',', ' '] ++ ((memberText "password" row.password).toList ++
          ([',', ' '] ++ ((memberText "claims" row.claims).toList ++
            '\x7d' :: upTo recordMark rest))))) := by
    rw [String.toList_ofList, record, row.recordMark_tail]
  have comma : ∀ more : List Char, Ends ([',', ' '] ++ more) :=
    fun more => .cons (by decide) (' ' :: more)
  have brace : ∀ more : List Char, Ends ('\x7d' :: more) :=
    fun more => .cons (by decide) more
  have username : jsonString (String.ofList
      (recordMark ++ upTo recordMark (row.tail ++ rest))) "username" =
        some row.username := by
    apply jsonString_of_finds quoteless.username
    rw [source]
    apply Finds.append (by decide)
    exact finds_member (by decide) (by decide) quoteless.username (comma _)
  have password : jsonString (String.ofList
      (recordMark ++ upTo recordMark (row.tail ++ rest))) "password" =
        some row.password := by
    apply jsonString_of_finds quoteless.password
    rw [source]
    apply Finds.append (by decide)
    apply Finds.otherMember (by decide) (by decide) quoteless.username
      (by decide) (comma _)
    apply Finds.append (by decide)
    exact finds_member (by decide) (by decide) quoteless.password (comma _)
  have claims : jsonString (String.ofList
      (recordMark ++ upTo recordMark (row.tail ++ rest))) "claims" =
        some row.claims := by
    apply jsonString_of_finds quoteless.claims
    rw [source]
    apply Finds.append (by decide)
    apply Finds.otherMember (by decide) (by decide) quoteless.username
      (by decide) (comma _)
    apply Finds.append (by decide)
    apply Finds.otherMember (by decide) (by decide) quoteless.password
      (by decide) (comma _)
    apply Finds.append (by decide)
    exact finds_member (by decide) (by decide) quoteless.claims (brace _)
  unfold developmentAccount
  dsimp only
  rw [username, password, claims]
  simp only [Option.bind_eq_bind, Option.bind_some, Option.getD_some, read]

end Row

/-! ## The file -/

section File

variable {proxySecret : String} {rows : List Row}

theorem filterMap_cons_eq {α β : Type} (f : α → Option β) (first : α)
    (rest : List α) :
    (first :: rest).filterMap f = (f first).toList ++ rest.filterMap f := by
  rw [List.filterMap_cons]
  cases f first <;> rfl

theorem afterEach_row {row : Row} (quoteless : row.Quoteless) (tenant : String)
    (rest : List Char) :
    (afterEach recordMark (row.text.toList ++ rest)).filterMap
        (developmentAccount tenant) =
      (row.read tenant).toList ++
        (afterEach recordMark rest).filterMap (developmentAccount tenant) := by
  have mark : recordMark = '\x7b' :: "\"username\"".toList := by
    simp [recordMark]
  have blanks : '\x7b' ∉ [' ', ' ', ' ', ' '] := by decide
  have name : '\x7b' ∉ "\"username\"".toList := by decide
  have dropped : (recordMark ++ (row.tail ++ rest)).dropPrefix? recordMark =
      some (row.tail ++ rest) := by
    rw [List.dropPrefix?_eq_some_iff]
    exact ⟨recordMark, rfl, BEq.rfl⟩
  have here : afterEach recordMark (recordMark ++ (row.tail ++ rest)) =
      (row.tail ++ rest) :: afterEach recordMark (row.tail ++ rest) := by
    rw [mark] at dropped ⊢
    rw [List.cons_append] at dropped ⊢
    rw [afterEach_cons, dropped, afterEach_append_of_absent name]
    rfl
  rw [row.toList_text, List.append_assoc, List.append_assoc, mark,
    afterEach_append_of_absent blanks, ← mark, here, filterMap_cons_eq,
    afterEach_unmarked (row.tail_unmarked quoteless rest),
    Row.developmentAccount_tail quoteless]

theorem afterEach_rows (quoteless : ∀ row ∈ rows, row.Quoteless)
    (tenant : String) {rest : List Char} (clear : '\x7b' ∉ rest) :
    (afterEach recordMark
        ((",\n".intercalate (rows.map Row.text)).toList ++ rest)).filterMap
          (developmentAccount tenant) =
      rows.filterMap fun row => row.read tenant := by
  have nothing : afterEach recordMark rest = [] := by
    have skipped : afterEach recordMark (rest ++ []) =
        afterEach recordMark [] :=
      afterEach_append_of_absent clear
    rwa [List.append_nil] at skipped
  induction rows with
  | nil => simp [nothing]
  | cons row rows induction =>
      rw [List.forall_mem_cons] at quoteless
      have later := induction quoteless.2
      cases rows with
      | nil =>
          rw [List.map_singleton, String.intercalate_singleton,
            afterEach_row quoteless.1, nothing, filterMap_cons_eq]
          rfl
      | cons next rows =>
          have comma : '\x7b' ∉ ",\n".toList := by decide
          rw [List.map_cons] at later
          rw [List.map_cons, List.map_cons, String.intercalate_cons_cons,
            String.toList_append, String.toList_append, List.append_assoc,
            List.append_assoc,
            afterEach_row quoteless.1, recordMark,
            afterEach_append_of_absent comma, ← recordMark, later,
            filterMap_cons_eq (fun row => row.read tenant) row]

/-- The rest of the file after the members at its beginning. -/
def recordsText (rows : List Row) : List Char :=
  "accounts\": [\n".toList ++
    ((",\n".intercalate (rows.map Row.text)).toList ++ "\n  ]\n\x7d\n".toList)

theorem toList_developmentText (proxySecret : String) (rows : List Row) :
    (developmentText proxySecret rows).toList =
      ['\x7b', '\n', ' ', ' '] ++
        ((memberText "tenant" "development").toList ++
          ([',', '\n', ' ', ' '] ++
            ((memberText "proxy_secret" proxySecret).toList ++
              ([',', '\n', ' ', ' '] ++ '"' :: recordsText rows)))) := by
  have opening : "\x7b\n  ".toList = ['\x7b', '\n', ' ', ' '] := by simp
  have comma : ",\n  ".toList = [',', '\n', ' ', ' '] := by simp
  have accounts : ",\n  \"accounts\": [\n".toList =
      [',', '\n', ' ', ' '] ++ '"' :: "accounts\": [\n".toList := by simp
  unfold developmentText recordsText
  simp only [String.toList_append, List.append_assoc, opening, comma,
    accounts, List.cons_append]

theorem jsonString_tenant (proxySecret : String) (rows : List Row) :
    jsonString (developmentText proxySecret rows) "tenant" =
      some "development" := by
  apply jsonString_of_finds (by decide)
  rw [toList_developmentText]
  apply Finds.append (by decide)
  exact finds_member (by decide) (by decide) (by decide)
    (.cons (by decide) _)

theorem jsonString_proxySecret (quoteless : '"' ∉ proxySecret.toList)
    (rows : List Row) :
    jsonString (developmentText proxySecret rows) "proxy_secret" =
      some proxySecret := by
  apply jsonString_of_finds quoteless
  rw [toList_developmentText]
  apply Finds.append (by decide)
  apply Finds.otherMember (by decide) (by decide) (by decide) (by decide)
    (.cons (by decide) _)
  apply Finds.append (by decide)
  exact finds_member (by decide) (by decide) quoteless (.cons (by decide) _)

theorem developmentAccounts_text (quoteless : '"' ∉ proxySecret.toList)
    (rowsQuoteless : ∀ row ∈ rows, row.Quoteless) :
    developmentAccounts (developmentText proxySecret rows) =
      rows.filterMap fun row => row.read "development" := by
  have mark : recordMark = '\x7b' :: '"' :: 'u' :: "sername\"".toList := by
    simp [recordMark]
  have opening : ∀ rest : List Char,
      Unmarked recordMark ['\x7b'] (['\n', ' ', ' '] ++ rest) := by
    intro rest
    rw [mark]
    simp [Unmarked, List.dropPrefix?]
  have secret : ∀ rest : List Char,
      Unmarked recordMark proxySecret.toList (['"', ','] ++ rest) := by
    intro rest
    rw [mark]
    exact unmarked_of_apart quoteless (by decide) rest
  have skip : ∀ {left : List Char}, '\x7b' ∉ left → ∀ rest : List Char,
      afterEach recordMark (left ++ rest) = afterEach recordMark rest := by
    intro left absent rest
    rw [mark]
    exact afterEach_append_of_absent absent
  have whole : (developmentText proxySecret rows).toList =
      ['\x7b'] ++ (['\n', ' ', ' '] ++
        ((memberText "tenant" "development").toList ++
          ([',', '\n', ' ', ' '] ++ ("\"proxy_secret\": \"".toList ++
            (proxySecret.toList ++ (['"', ','] ++
              (['\n', ' ', ' ', '"'] ++ ("accounts\": [\n".toList ++
                ((",\n".intercalate (rows.map Row.text)).toList ++
                  "\n  ]\n\x7d\n".toList))))))))) := by
    have name : "\"proxy_secret\": \"".toList =
        '"' :: ("proxy_secret".toList ++ ['"', ':', ' ', '"']) := by simp
    rw [toList_developmentText, toList_memberText "proxy_secret", name]
    unfold recordsText
    simp only [List.cons_append, List.nil_append, List.append_assoc]
  have tenant : '\x7b' ∉ (memberText "tenant" "development").toList := by
    simp [memberText]
  have name : '\x7b' ∉ "\"proxy_secret\": \"".toList := by simp
  have accounts : '\x7b' ∉ "accounts\": [\n".toList := by simp
  have clear : '\x7b' ∉ "\n  ]\n\x7d\n".toList := by simp
  unfold developmentAccounts
  dsimp only
  rw [jsonString_tenant, whole, afterEach_unmarked (opening _),
    skip (by decide), skip tenant, skip (by decide), skip name,
    afterEach_unmarked (secret _), skip (by decide), skip (by decide),
    skip accounts]
  exact afterEach_rows rowsQuoteless "development" clear

end File

end AuthBoundry
