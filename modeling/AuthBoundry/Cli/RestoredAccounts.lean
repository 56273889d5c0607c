import AuthBoundry.Cli.DevelopmentAccounts

/-!
# Accounts that are restored

An account is read from the file as it was written if none of its texts has a
character that is escaped or that separates.  Where all accounts that are added
are of this kind, the file restores all of them after each addition.
-/

namespace AuthBoundry

open Library

open scoped Listed

/-! ## Plain accounts -/

def Spared (characters : List Char) (text : String) : Prop :=
  ∀ character ∈ text.toList, character ∉ characters

instance (characters : List Char) (text : String) :
    Decidable (Spared characters text) :=
  inferInstanceAs (Decidable (∀ _ ∈ _, _))

/-- What is escaped in the file. -/
def escapes : List Char := ['"', '\\', '\n']

/-- A claim that is read as it was written. -/
structure Account.PlainClaim (claim : String × String) : Prop where
  name : Spared ('=' :: ',' :: escapes) claim.1
  nameTrimmed : trim claim.1 = claim.1
  value : Spared (',' :: escapes) claim.2
  valueTrimmed : trim claim.2 = claim.2

/-- An account without the characters that separate its parts. -/
structure Account.Plain (account : Account) : Prop where
  tenant : account.tenant = "development"
  usernameGiven : account.username ≠ ""
  username : Spared (':' :: escapes) account.username
  passwordGiven : account.password ≠ ""
  password : Spared (':' :: escapes) account.password
  claims : ∀ claim ∈ account.claims.toList, PlainClaim claim

theorem Spared.not_mem {characters : List Char} {text : String}
    (spared : Spared characters text) {character : Char}
    (member : character ∈ characters) : character ∉ text.toList :=
  fun inText => spared character inText member

theorem jsonEscape_eq_self {characters : List Char} {text : String}
    (spared : Spared characters text) (covers : escapes ⊆ characters) :
    jsonEscape text = text := by
  have escaped : (jsonEscape text).toList = text.toList.flatMap escapedChar :=
    toList_escape text
  have same : text.toList.flatMap escapedChar = text.toList.flatMap ([·]) := by
    apply List.flatMap_congr
    intro character member
    have other : character ∉ escapes :=
      fun inEscapes => spared character member (covers inEscapes)
    simp only [escapes, List.mem_cons, List.not_mem_nil, not_or] at other
    simp [escapedChar, other]
  rw [same, List.flatMap_singleton'] at escaped
  exact String.toList_inj.mp escaped

theorem mem_dropWhile {α : Type} {drops : α → Bool} {item : α}
    {items : List α} (member : item ∈ items) (kept : drops item = false) :
    item ∈ items.dropWhile drops := by
  have whole := List.takeWhile_append_dropWhile (p := drops) (l := items)
  rw [← whole, List.mem_append] at member
  refine member.resolve_left fun dropped => ?_
  have drop := List.mem_takeWhile_imp dropped
  rw [kept] at drop
  cases drop

theorem not_isBlank {text : String} {character : Char}
    (member : character ∈ text.toList)
    (visible : isWhitespace character = false) : isBlank text = false := by
  have left := List.mem_reverse.mpr (mem_dropWhile member visible)
  have right := List.mem_reverse.mpr (mem_dropWhile left visible)
  unfold isBlank
  rw [List.isEmpty_eq_false_iff]
  exact List.ne_nil_of_mem right

namespace Account

theorem PlainClaim.split {claim : String × String} (plain : PlainClaim claim) :
    isBlank (claimText claim) = false ∧
      splitOnce '=' (claimText claim) = some claim := by
  have equals : '=' ∈ (claimText claim).toList := by simp [claimText]
  have absent : '=' ∉ claim.1.toList := plain.name.not_mem (by decide)
  exact ⟨not_isBlank equals (by decide), splitOnce_append absent claim.2⟩

theorem readClaims_parts {claims : List (String × String)}
    (plain : ∀ claim ∈ claims, PlainClaim claim) :
    ((((claims.map claimText).filter fun claim => !isBlank claim).filterMap
      (splitOnce '=')).map fun (name, value) => (trim name, trim value)) =
        claims := by
  induction claims with
  | nil => rfl
  | cons claim claims induction =>
      rw [List.forall_mem_cons] at plain
      obtain ⟨given, split⟩ := plain.1.split
      have trimmed : (trim claim.1, trim claim.2) = claim := by
        rw [plain.1.nameTrimmed, plain.1.valueTrimmed]
      rw [List.map_cons, List.filter_cons_of_pos (by simp [given]),
        List.filterMap_cons, split, List.map_cons, induction plain.2]
      exact congrArg (· :: claims) trimmed

theorem readClaims_intercalate {claims : List (String × String)}
    (plain : ∀ claim ∈ claims, PlainClaim claim) :
    readClaims (",".intercalate (claims.map claimText)) =
      collectPairs claims := by
  have parts := readClaims_parts plain
  unfold readClaims splitParts
  cases claims with
  | nil => rfl
  | cons claim others =>
      have apart : ∀ part ∈ ((claim :: others).map claimText).map String.toList,
          ',' ∉ part := by
        intro part member
        obtain ⟨text, inTexts, rfl⟩ := List.mem_map.mp member
        obtain ⟨entry, inClaims, rfl⟩ := List.mem_map.mp inTexts
        have left : ',' ∉ entry.1.toList :=
          (plain entry inClaims).name.not_mem (by decide)
        have right : ',' ∉ entry.2.toList :=
          (plain entry inClaims).value.not_mem (by decide)
        simp [claimText, left, right]
      have separated : (",".intercalate
          ((claim :: others).map claimText)).toList.splitOn ',' =
            ((claim :: others).map claimText).map String.toList := by
        rw [String.toList_intercalate]
        exact List.splitOn_intercalate ',' apart (by simp)
      have texts : (((claim :: others).map claimText).map
          String.toList).map String.ofList =
            (claim :: others).map claimText := by
        simp
      rw [separated, texts, parts]

theorem splitn_three {username password : String} (claims : String)
    (usernameSpared : ':' ∉ username.toList)
    (passwordSpared : ':' ∉ password.toList) :
    splitn 3 ':' (username ++ ":" ++ password ++ ":" ++ claims) =
      [username, password, claims] := by
  have outer : splitOnce ':' (username ++ ":" ++ password ++ ":" ++ claims) =
      some (username, password ++ ":" ++ claims) := by
    rw [String.append_assoc, String.append_assoc,
      ← @String.append_assoc password]
    exact splitOnce_append usernameSpared (password ++ ":" ++ claims)
  have inner : splitOnce ':' (password ++ ":" ++ claims) =
      some (password, claims) := splitOnce_append passwordSpared claims
  unfold splitn
  rw [outer]
  unfold splitn
  simp only [inner, splitn]

theorem mem_intercalate {texts : List String} {character : Char}
    (member : character ∈ (",".intercalate texts).toList) :
    character = ',' ∨ ∃ text ∈ texts, character ∈ text.toList := by
  induction texts with
  | nil => simp at member
  | cons text texts induction =>
      cases texts with
      | nil =>
          rw [String.intercalate_singleton] at member
          exact .inr ⟨text, List.mem_cons_self, member⟩
      | cons next texts =>
          rw [String.intercalate_cons_cons, String.toList_append,
            String.toList_append, List.mem_append, List.mem_append] at member
          rcases member with (here | comma) | later
          · exact .inr ⟨text, List.mem_cons_self, here⟩
          · exact .inl (by simpa using comma)
          · refine (induction later).imp_right ?_
            rintro ⟨other, inside, inText⟩
            exact ⟨other, List.mem_cons_of_mem text inside, inText⟩

theorem PlainClaim.spared {claim : String × String} (plain : PlainClaim claim) :
    Spared escapes (claimText claim) := by
  intro character member
  unfold claimText at member
  rw [String.toList_append, String.toList_append, List.mem_append,
    List.mem_append] at member
  rcases member with (inName | equals) | inValue
  · exact fun escaped => plain.name character inName
      (List.mem_cons_of_mem _ (List.mem_cons_of_mem _ escaped))
  · have same : character = '=' := by simpa using equals
    rw [same]
    decide
  · exact fun escaped => plain.value character inValue
      (List.mem_cons_of_mem _ escaped)

theorem Plain.claimsSpared {account : Account} (plain : account.Plain) :
    Spared escapes account.claimsText := by
  intro character member
  rcases mem_intercalate member with rfl | ⟨text, inTexts, inText⟩
  · decide
  · obtain ⟨claim, inClaims, rfl⟩ := List.mem_map.mp inTexts
    exact (plain.claims claim inClaims).spared character inText

theorem Plain.row_eq {account : Account} (plain : account.Plain) :
    account.row =
      { username := account.username
        password := account.password
        claims := account.claimsText } := by
  have covers : escapes ⊆ ':' :: escapes := List.subset_cons_self ..
  unfold row
  rw [jsonEscape_eq_self plain.username covers,
    jsonEscape_eq_self plain.password covers,
    jsonEscape_eq_self plain.claimsSpared (List.Subset.refl _)]

theorem Plain.quoteless {account : Account} (plain : account.Plain) :
    account.row.Quoteless := by
  rw [plain.row_eq]
  exact
    { username := plain.username.not_mem (by decide)
      password := plain.password.not_mem (by decide)
      claims := plain.claimsSpared.not_mem (by decide) }

theorem Plain.read {account : Account} (plain : account.Plain) :
    account.row.read "development" = some account := by
  have tenant : '@' ∉ "development".toList := by decide
  have given : ∀ {text : String}, text ≠ "" →
      (some text).filter (· ≠ "") = some text := by
    intro text nonempty
    simp [Option.filter, nonempty]
  have colon : ∀ {text : String}, Spared (':' :: escapes) text →
      ':' ∉ text.toList := fun spared => spared.not_mem (by decide)
  have cut : rsplitOnce '@' (account.username ++ ":" ++ account.password ++
      ":" ++ account.claimsText ++ "@" ++ "development") =
        some (account.username ++ ":" ++ account.password ++ ":" ++
          account.claimsText, "development") := rsplitOnce_append tenant _
  have parts := splitn_three account.claimsText (colon plain.username)
    (colon plain.password)
  have claims : readClaims account.claimsText = account.claims := by
    unfold claimsText
    rw [readClaims_intercalate plain.claims, collectPairs_toList]
  rw [plain.row_eq]
  unfold Row.read parse
  dsimp only
  rw [cut]
  simp only [Option.getD_some, parts, List.getElem?_cons_zero,
    List.getElem?_cons_succ, given plain.usernameGiven,
    given plain.passwordGiven, Option.map_some, claims, Except.toOption,
    ← plain.tenant]

end Account

/-! ## Runs -/

/-- The file after all these accounts were added. -/
def persistAll (source : String) (created : List Account) :
    Except String String :=
  created.foldlM persistDevelopmentAccount source

def roleClaims (role : String) : KeyedMap String String :=
  collectPairs [("role", role)]

theorem roleClaims_toList (role : String) :
    (roleClaims role).toList = [("role", role)] := rfl

/-- The accounts that the file is first written with. -/
def initialAccounts (adminPassword userPassword : String) : List Account :=
  [{ tenant := "development"
     username := "admin"
     password := adminPassword
     claims := roleClaims "admin" },
    { tenant := "development"
      username := "user"
      password := userPassword
      claims := roleClaims "user" }]

theorem mem_developmentPassword {bytes : Vector UInt8 18} {character : Char}
    (member : character ∈ (developmentPassword bytes).toList) :
    character ∈ passwordAlphabet := by
  unfold developmentPassword at member
  rw [String.toList_ofList] at member
  obtain ⟨byte, -, rfl⟩ := List.mem_map.mp member
  have below : byte.toNat % passwordAlphabet.length <
      passwordAlphabet.length := Nat.mod_lt _ (by decide)
  rw [List.getD_eq_getElem?_getD, List.getElem?_eq_getElem below,
    Option.getD_some]
  exact List.getElem_mem below

theorem developmentPassword_spared (bytes : Vector UInt8 18) :
    Spared (':' :: escapes) (developmentPassword bytes) := by
  have letters : ∀ character ∈ passwordAlphabet,
      character ∉ ':' :: escapes := by decide
  exact fun character member =>
    letters character (mem_developmentPassword member)

theorem developmentPassword_ne_empty (bytes : Vector UInt8 18) :
    developmentPassword bytes ≠ "" := by
  intro empty
  have length := congrArg String.length empty
  simp [developmentPassword] at length

/-- What the file holds: rows of plain accounts. -/
structure FileOf (proxySecret : String) (accounts : List Account)
    (source : String) : Prop where
  text : source = developmentText proxySecret (accounts.map Account.row)
  plain : ∀ account ∈ accounts, account.Plain

section Runs

variable {proxySecret source : String} {accounts : List Account}

theorem filterMap_read (plain : ∀ account ∈ accounts, account.Plain) :
    (accounts.map Account.row).filterMap (fun row => row.read "development") =
      accounts := by
  induction accounts with
  | nil => rfl
  | cons account accounts induction =>
      rw [List.forall_mem_cons] at plain
      rw [List.map_cons, filterMap_cons_eq, plain.1.read, induction plain.2]
      rfl

theorem FileOf.read (secret : Spared escapes proxySecret)
    (holds : FileOf proxySecret accounts source) :
    developmentAccounts source = accounts ∧
      developmentProxySecret source = some proxySecret := by
  have quoteless : '"' ∉ proxySecret.toList := secret.not_mem (by decide)
  have rows : ∀ row ∈ accounts.map Account.row, row.Quoteless := by
    intro row member
    obtain ⟨account, inAccounts, rfl⟩ := List.mem_map.mp member
    exact (holds.plain account inAccounts).quoteless
  rw [holds.text]
  exact ⟨(developmentAccounts_text quoteless rows).trans
      (filterMap_read holds.plain),
    jsonString_proxySecret quoteless _⟩

/-- One more account is one more row. -/
theorem FileOf.persist (secret : Spared escapes proxySecret)
    (holds : FileOf proxySecret accounts source) {account : Account}
    (plain : account.Plain) {after : String}
    (persisted : persistDevelopmentAccount source account = .ok after) :
    FileOf proxySecret (accounts ++ [account]) after := by
  obtain ⟨read, told⟩ := holds.read secret
  unfold persistDevelopmentAccount at persisted
  dsimp only at persisted
  rw [read, told, Option.getD_some,
    jsonEscape_eq_self secret (List.Subset.refl _)] at persisted
  split at persisted
  · cases persisted
  · refine ⟨(Except.ok.inj persisted).symm, ?_⟩
    intro other member
    rcases List.mem_append.mp member with earlier | here
    · exact holds.plain other earlier
    · rw [List.mem_singleton.mp here]
      exact plain

theorem FileOf.accepts (secret : Spared escapes proxySecret)
    (holds : FileOf proxySecret accounts source) {account : Account}
    (fresh : ∀ existing ∈ accounts, existing.username ≠ account.username) :
    persistDevelopmentAccount source account =
      .ok (developmentText proxySecret
        ((accounts ++ [account]).map Account.row)) := by
  obtain ⟨read, told⟩ := holds.read secret
  have free : (accounts.any fun existing =>
      decide (existing.username = account.username)) = false := by
    rw [List.any_eq_false]
    intro existing member
    simp [fresh existing member]
  unfold persistDevelopmentAccount
  dsimp only
  rw [read, told, free, Option.getD_some,
    jsonEscape_eq_self secret (List.Subset.refl _)]
  rfl

theorem FileOf.persistAll (secret : Spared escapes proxySecret)
    (holds : FileOf proxySecret accounts source) {created : List Account}
    (plain : ∀ account ∈ created, account.Plain) {after : String}
    (persisted : AuthBoundry.persistAll source created = .ok after) :
    FileOf proxySecret (accounts ++ created) after := by
  induction created generalizing source accounts with
  | nil =>
      cases persisted
      rw [List.append_nil]
      exact holds
  | cons account created induction =>
      rw [List.forall_mem_cons] at plain
      unfold AuthBoundry.persistAll at persisted
      rw [List.foldlM_cons] at persisted
      cases first : persistDevelopmentAccount source account with
      | error message =>
          rw [first] at persisted
          cases persisted
      | ok next =>
          rw [first] at persisted
          have later := induction (holds.persist secret plain.1 first) plain.2
            persisted
          rwa [List.append_assoc] at later

/-- Plain accounts with names of their own are all added. -/
theorem FileOf.acceptsAll (secret : Spared escapes proxySecret)
    (holds : FileOf proxySecret accounts source) {created : List Account}
    (plain : ∀ account ∈ created, account.Plain)
    (apart : ((accounts ++ created).map Account.username).Nodup) :
    ∃ after, AuthBoundry.persistAll source created = .ok after := by
  induction created generalizing source accounts with
  | nil => exact ⟨source, rfl⟩
  | cons account created induction =>
      rw [List.forall_mem_cons] at plain
      have fresh : ∀ existing ∈ accounts,
          existing.username ≠ account.username := by
        intro existing member
        rw [List.map_append, List.map_cons] at apart
        intro same
        apply List.disjoint_of_nodup_append apart (List.mem_map_of_mem member)
        rw [same]
        exact List.mem_cons_self
      have first := holds.accepts secret fresh
      obtain ⟨after, others⟩ := induction
        (holds.persist secret plain.1 first) plain.2
        (by rwa [List.append_assoc, List.singleton_append])
      refine ⟨after, ?_⟩
      unfold AuthBoundry.persistAll at others ⊢
      rw [List.foldlM_cons, first]
      exact others

end Runs

theorem Account.plain_of_role {username password role : String}
    (usernameGiven : username ≠ "")
    (usernameSpared : Spared (':' :: escapes) username)
    (passwordGiven : password ≠ "")
    (passwordSpared : Spared (':' :: escapes) password)
    (value : Spared (',' :: escapes) role) (trimmed : trim role = role) :
    Account.Plain
      { tenant := "development", username, password
        claims := roleClaims role } where
  tenant := rfl
  usernameGiven := usernameGiven
  username := usernameSpared
  passwordGiven := passwordGiven
  password := passwordSpared
  claims := by
    intro claim member
    have name : Spared ('=' :: ',' :: escapes) "role" := by decide
    have nameTrimmed : trim "role" = "role" := by decide
    rw [roleClaims_toList, List.mem_singleton] at member
    subst member
    exact { name, nameTrimmed, value, valueTrimmed := trimmed }

section Drawn

variable (proxyBytes adminBytes userBytes : Vector UInt8 18)

/-- The file with the passwords that were drawn. -/
def initialSource : String :=
  developmentAccountsChange (developmentPassword proxyBytes)
    (developmentPassword adminBytes) (developmentPassword userBytes)

/-- What is read is what the file was first written with and what was added. -/
structure Restored (created : List Account) (source : String) : Prop where
  accounts : developmentAccounts source =
    initialAccounts (developmentPassword adminBytes)
      (developmentPassword userBytes) ++ created
  proxySecret : developmentProxySecret source =
    some (developmentPassword proxyBytes)

theorem initial_fileOf :
    FileOf (developmentPassword proxyBytes)
      (initialAccounts (developmentPassword adminBytes)
        (developmentPassword userBytes))
      (initialSource proxyBytes adminBytes userBytes) := by
  have plain : ∀ account ∈ initialAccounts (developmentPassword adminBytes)
      (developmentPassword userBytes), account.Plain := by
    unfold initialAccounts
    rw [List.forall_mem_cons, List.forall_mem_singleton]
    constructor
    · exact Account.plain_of_role (by decide) (by decide)
        (developmentPassword_ne_empty adminBytes)
        (developmentPassword_spared adminBytes) (by decide) (by decide)
    · exact Account.plain_of_role (by decide) (by decide)
        (developmentPassword_ne_empty userBytes)
        (developmentPassword_spared userBytes) (by decide) (by decide)
  refine ⟨?_, plain⟩
  have both := plain
  unfold initialAccounts at both ⊢
  rw [List.forall_mem_cons, List.forall_mem_singleton] at both
  rw [List.map_cons, List.map_singleton, both.1.row_eq, both.2.row_eq]
  unfold Account.claimsText initialSource developmentAccountsChange
  dsimp only
  rw [roleClaims_toList, roleClaims_toList]
  simp [claimText]

theorem proxySecret_spared : Spared escapes (developmentPassword proxyBytes) :=
  fun character member escaped =>
    developmentPassword_spared proxyBytes character member
      (List.mem_cons_of_mem ':' escaped)

end Drawn

/-- Where all accounts are plain, the file is read as it was written. -/
theorem persistAll_restored (proxyBytes adminBytes userBytes : Vector UInt8 18)
    {created : List Account} (plain : ∀ account ∈ created, account.Plain)
    {source : String}
    (persisted : persistAll (initialSource proxyBytes adminBytes userBytes)
      created = .ok source) :
    Restored proxyBytes adminBytes userBytes created source := by
  have secret := proxySecret_spared proxyBytes
  have holds := initial_fileOf proxyBytes adminBytes userBytes
  obtain ⟨accounts, proxySecret⟩ :=
    (holds.persistAll secret plain persisted).read secret
  exact { accounts, proxySecret }

section Examples

variable (username password : String)

def roleAccount : Account :=
  { tenant := "development", username, password, claims := roleClaims "user" }

def drawn : Vector UInt8 18 := .replicate 18 0

def written : String :=
  developmentText (developmentPassword drawn)
    ((initialAccounts (developmentPassword drawn) (developmentPassword drawn) ++
      [roleAccount username password]).map Account.row)

theorem persistAll_roleAccount (fresh : username ∉ ["admin", "user"]) :
    persistAll (initialSource drawn drawn drawn)
      [roleAccount username password] = .ok (written username password) := by
  have others : ∀ existing ∈ initialAccounts (developmentPassword drawn)
      (developmentPassword drawn),
      existing.username ≠ (roleAccount username password).username := by
    unfold initialAccounts
    rw [List.forall_mem_cons, List.forall_mem_singleton]
    simp only [List.mem_cons, List.not_mem_nil, or_false, not_or] at fresh
    exact ⟨Ne.symm fresh.1, Ne.symm fresh.2⟩
  have accepted := (initial_fileOf drawn drawn drawn).accepts
    (proxySecret_spared drawn) others
  unfold persistAll
  rw [List.foldlM_cons, accepted]
  rfl

end Examples

/-- A password is cut at its colon, and what is left is read as a claim. -/
theorem colonPassword_cut :
    ¬∀ (proxyBytes adminBytes userBytes : Vector UInt8 18)
      (created : List Account) (source : String),
      persistAll (initialSource proxyBytes adminBytes userBytes) created =
          .ok source →
        Restored proxyBytes adminBytes userBytes created source := by
  intro always
  have accepted := persistAll_roleAccount "dana" "correct:horse" (by decide)
  have restored := always drawn drawn drawn _ _ accepted
  have claims : (roleAccount "dana" "correct:horse").claimsText =
      "role=user" := by
    unfold Account.claimsText roleAccount
    rw [roleClaims_toList]
    simp [claimText]
  have row : (roleAccount "dana" "correct:horse").row =
      { username := "dana", password := "correct:horse"
        claims := "role=user" } := by
    unfold Account.row
    rw [claims]
    decide
  have holds := initial_fileOf drawn drawn drawn
  have quoteless : ∀ row ∈ (initialAccounts (developmentPassword drawn)
      (developmentPassword drawn)).map Account.row ++
        [(roleAccount "dana" "correct:horse").row], row.Quoteless := by
    intro other member
    rcases List.mem_append.mp member with earlier | here
    · obtain ⟨account, inAccounts, rfl⟩ := List.mem_map.mp earlier
      exact (holds.plain account inAccounts).quoteless
    · rw [List.mem_singleton.mp here, row]
      exact
        { username := by decide
          password := by decide
          claims := by decide }
  have read := developmentAccounts_text
    ((proxySecret_spared drawn).not_mem (by decide)) quoteless
  rw [List.filterMap_append, filterMap_read holds.plain, row] at read
  have told := restored.accounts
  unfold written at told
  rw [List.map_append, List.map_singleton, row, read] at told
  have same := congrArg (List.map Account.password)
    (List.append_cancel_left told)
  revert same
  decide

/-- Two accounts, one of which is given another role. -/
def addedAccounts : List Account :=
  [roleAccount "grace" "a longer password",
    { roleAccount "henri" "an even longer one" with
      claims := roleClaims "auditor" }]

/-- Both are there after a restart. -/
theorem addedAccounts_restored :
    ∃ source, persistAll (initialSource drawn drawn drawn) addedAccounts =
        .ok source ∧
      Restored drawn drawn drawn addedAccounts source := by
  have plain : ∀ account ∈ addedAccounts, account.Plain := by
    unfold addedAccounts
    rw [List.forall_mem_cons, List.forall_mem_singleton]
    constructor
    · exact Account.plain_of_role (by decide) (by decide) (by decide)
        (by decide) (by decide) (by decide)
    · exact Account.plain_of_role (by decide) (by decide) (by decide)
        (by decide) (by decide) (by decide)
  obtain ⟨source, persisted⟩ := (initial_fileOf drawn drawn drawn).acceptsAll
    (proxySecret_spared drawn) plain
    (by
      change ["admin", "user", "grace", "henri"].Nodup
      decide)
  exact ⟨source, persisted,
    persistAll_restored drawn drawn drawn plain persisted⟩

end AuthBoundry
