import AuthBoundry.Dsl.AcceptedEntries

/-!
# Entries in any order

The entries of an auth block are read one after another.  Two names of one
setting are told apart only for tenants, so of a setting that is given under
both names the later one stands.
-/

namespace AuthBoundry

open Library

/-! ## The same entries in another order -/

/-- The blocks whose fields can stand in another order. -/
def orderFreeBlocks : List String :=
  ["password", "password_policy", "experience", "storage", "ui"]

/-- An entry whose value may list its fields in another order. -/
inductive EntryRearranged : String × Value → String × Value → Prop
  | same (entry : String × Value) : EntryRearranged entry entry
  | block {key : String} {inner others : Entries}
      (free : key ∈ orderFreeBlocks) (perm : inner.Perm others) :
      EntryRearranged (key, .block inner) (key, .block others)

/-- The entries in another order, and the fields of some of their blocks. -/
def Rearranged (entries others : Entries) : Prop :=
  Reordered EntryRearranged entries others

/-- Both are rejected, or both are accepted as one canonical contract. -/
def Alike (left right : Except AuthDslError AuthConfig) : Prop :=
  left.toOption.map AuthConfig.canonical =
    right.toOption.map AuthConfig.canonical

/-- No setting is given twice with different values, neither by the entries of
an auth block nor in its password blocks nor in its experience block. -/
structure Agreeing (entries : Entries) : Prop where
  settings : AgreeIn readAuth AuthSetting.ctorIdx entries
  password : ∀ key ∈ ["password", "password_policy"], ∀ inner,
    (key, .block inner) ∈ entries →
      AgreeIn readPassword PasswordSetting.ctorIdx inner
  experience : ∀ inner, ("experience", .block inner) ∈ entries →
    AgreeIn readExperience ExperienceSetting.capability inner

/-- What an entry and a rearrangement of it are read as. -/
inductive Twins : AuthSetting → AuthSetting → Prop
  | same (setting : AuthSetting) : Twins setting setting
  | password (left right : PasswordPolicy) :
      Twins (.password left) (.password right)
  | experience (left right : AuthExperience) :
      Twins (.experience left) (.experience right)

theorem EntryRearranged.symm {entry other : String × Value}
    (rearranged : EntryRearranged entry other) :
    EntryRearranged other entry := by
  cases rearranged with
  | same => exact .same _
  | block free perm => exact .block free perm.symm

theorem Rearranged.symm {entries others : Entries}
    (rearranged : Rearranged entries others) : Rearranged others entries :=
  Reordered.symm (fun _ _ related => related.symm) rearranged

theorem EntryRearranged.reads {entry other : String × Value}
    (rearranged : EntryRearranged entry other) {setting : AuthSetting}
    (reads : readAuth entry.1 entry.2 = .ok setting) :
    ∃ twin, readAuth other.1 other.2 = .ok twin ∧ Twins setting twin := by
  cases rearranged with
  | same => exact ⟨setting, reads, .same setting⟩
  | @block key inner others free perm =>
      simp only [orderFreeBlocks, List.mem_cons, List.not_mem_nil,
        or_false] at free
      rcases free with rfl | rfl | rfl | rfl | rfl
      all_goals
        obtain ⟨parsed, accepted, found⟩ := except_bind_eq_ok_iff.mp reads
        cases found
      case block.inl.refl | block.inr.inl.refl =>
        obtain ⟨other, again⟩ :=
          PasswordPolicy.checksAlike.accepts perm accepted
        exact ⟨.password other, except_bind_eq_ok_iff.mpr ⟨other, again, rfl⟩,
          .password parsed other⟩
      case block.inr.inr.inl.refl =>
        obtain ⟨other, again⟩ :=
          AuthExperience.checksAlike.accepts perm accepted
        exact ⟨.experience other, except_bind_eq_ok_iff.mpr ⟨other, again, rfl⟩,
          .experience parsed other⟩
      case block.inr.inr.inr.inl.refl =>
        have again := parseStorage_perm perm accepted
        exact ⟨.storage parsed, except_bind_eq_ok_iff.mpr ⟨parsed, again, rfl⟩,
          .same _⟩
      case block.inr.inr.inr.inr.refl =>
        have again := parseUi_perm perm accepted
        exact ⟨.ui parsed, except_bind_eq_ok_iff.mpr ⟨parsed, again, rfl⟩,
          .same _⟩

theorem Twins.valid {setting twin : AuthSetting} (twins : Twins setting twin)
    (valid : setting.Valid) : twin.Valid := by
  cases twins with
  | same => exact valid
  | password => trivial
  | experience => trivial

theorem EntryRearranged.tenant {entry other : String × Value}
    (rearranged : EntryRearranged entry other) {declared : Bool}
    (reads : readAuth other.1 other.2 = .ok (.tenant declared)) :
    readAuth entry.1 entry.2 = .ok (.tenant declared) := by
  obtain ⟨twin, readsTwin, twins⟩ := rearranged.symm.reads reads
  cases twins
  exact readsTwin

theorem EntryRearranged.key {entry other : String × Value}
    (rearranged : EntryRearranged entry other) : entry.1 = other.1 := by
  cases rearranged <;> rfl

theorem Rearranged.exists_entry {entries others : Entries}
    (rearranged : Rearranged entries others) {other : String × Value}
    (member : other ∈ others) :
    ∃ entry ∈ entries, EntryRearranged entry other := by
  obtain ⟨middle, permuted, each⟩ := rearranged
  obtain ⟨entry, known, related⟩ := exists_left_of_forall₂ each member
  exact ⟨entry, permuted.mem_iff.mpr known, related⟩

theorem Rearranged.namedOnce {entries others : Entries}
    (rearranged : Rearranged entries others) (once : NamedOnce entries) :
    NamedOnce others := by
  obtain ⟨middle, permuted, each⟩ := rearranged
  have names : middle.map Prod.fst = others.map Prod.fst :=
    map_eq_of_forall₂ (fun _ _ related => related.key) each
  rw [NamedOnce, ← names]
  exact once.perm permuted

theorem Sound.rearranged {entries others : Entries}
    {mail : Except AuthDslError (Option MailConfig)}
    (sound : Sound entries mail) (rearranged : Rearranged entries others) :
    Sound others mail := by
  refine ⟨rearranged.namedOnce sound.once, ?_, ?_, sound.mail⟩
  · intro other member
    obtain ⟨entry, known, related⟩ := rearranged.exists_entry member
    obtain ⟨setting, reads, valid⟩ := sound.readable entry known
    obtain ⟨twin, readsTwin, twins⟩ := related.reads reads
    exact ⟨twin, readsTwin, twins.valid valid⟩
  · intro first firstMember second secondMember one two readsOne readsTwo
    obtain ⟨left, leftKnown, leftRelated⟩ :=
      rearranged.exists_entry firstMember
    obtain ⟨right, rightKnown, rightRelated⟩ :=
      rearranged.exists_entry secondMember
    exact sound.tenancy left leftKnown right rightKnown one two
      (leftRelated.tenant readsOne) (rightRelated.tenant readsTwo)

/-! ## Where the settings agree -/

theorem EntryRearranged.reads_same {entries : Entries}
    (agreeing : Agreeing entries) {entry other : String × Value}
    (member : entry ∈ entries) (rearranged : EntryRearranged entry other)
    {setting : AuthSetting} (reads : readAuth entry.1 entry.2 = .ok setting) :
    readAuth other.1 other.2 = .ok setting := by
  cases rearranged with
  | same => exact reads
  | @block key inner others free perm =>
      simp only [orderFreeBlocks, List.mem_cons, List.not_mem_nil,
        or_false] at free
      have password : key ∈ ["password", "password_policy"] →
          ∀ policy, parsePassword (.block inner) = .ok policy →
            parsePassword (.block others) = .ok policy := by
        intro spelled policy accepted
        exact (parsePassword_perm_iff accepted).mpr
          (agreeing.password key spelled inner member) others perm
      rcases free with rfl | rfl | rfl | rfl | rfl
      all_goals
        obtain ⟨parsed, accepted, found⟩ := except_bind_eq_ok_iff.mp reads
        cases found
        refine except_bind_eq_ok_iff.mpr ⟨parsed, ?_, rfl⟩
      · exact password (by decide) parsed accepted
      · exact password (by decide) parsed accepted
      · exact (parseExperience_perm_iff accepted).mpr
          (agreeing.experience inner member) others perm
      · exact parseStorage_perm perm accepted
      · exact parseUi_perm perm accepted

theorem Agreeing.reads_rearranged {entries others : Entries}
    (agreeing : Agreeing entries) (rearranged : Rearranged entries others)
    {settings : List AuthSetting} (each : Reads readAuth entries settings) :
    ∃ moved, settings.Perm moved ∧ Reads readAuth others moved := by
  obtain ⟨middle, permuted, related⟩ := rearranged
  obtain ⟨moved, perm, reads⟩ := each.perm permuted
  refine ⟨moved, perm, ?_⟩
  have known : ∀ entry ∈ middle, entry ∈ entries := fun entry member =>
    permuted.mem_iff.mpr member
  clear perm permuted each
  induction related generalizing moved with
  | nil =>
      cases reads
      exact .nil
  | cons pair _ induction =>
      obtain ⟨setting, rest, readsFirst, readsRest, rfl⟩ :=
        List.forall₂_cons_left_iff.mp reads
      apply List.Forall₂.cons
      · exact pair.reads_same agreeing (known _ List.mem_cons_self) readsFirst
      · exact induction rest readsRest fun entry member =>
          known entry (List.mem_cons_of_mem _ member)

/-- Entries that agree are read as one contract in every order. -/
theorem Agreeing.declared_eq {entries others : Entries}
    {mail : Except AuthDslError (Option MailConfig)} {config : AuthConfig}
    (agreeing : Agreeing entries) (rearranged : Rearranged entries others)
    (accepted : declared entries mail = .ok config) :
    declared others mail = .ok config := by
  obtain ⟨once, settings, each, tenancy, contract, given, valid, rfl⟩ :=
    declared_eq_ok_iff.mp accepted
  obtain ⟨moved, permuted, reads⟩ := agreeing.reads_rearranged rearranged each
  have folds : contractOf settings contract = contractOf moved contract := by
    unfold contractOf
    rw [(each.agree_iff.mpr agreeing.settings).foldl_eq AuthConfig.put_commute
      permuted]
  apply declared_eq_ok_iff.mpr
  refine ⟨rearranged.namedOnce once, moved, reads, ?_, contract, given,
    folds ▸ valid, folds.symm⟩
  intro one two said member
  exact tenancy one two
    (said.imp_right permuted.mem_iff.mpr) (permuted.mem_iff.mpr member)

/-! ## Where they do not -/

theorem readAuth_password {key : String}
    (spelled : key ∈ ["password", "password_policy"]) (value : Value) :
    readAuth key value =
      (parsePassword value >>= fun policy => .ok (.password policy)) := by
  rcases List.mem_pair.mp spelled with rfl | rfl
  · rfl
  · rfl

section Stable

variable {entries : Entries}
  {mail : Except AuthDslError (Option MailConfig)} {config : AuthConfig}

/-- Every order of the entries is read alike. -/
def Stable (entries : Entries)
    (mail : Except AuthDslError (Option MailConfig)) : Prop :=
  ∀ others, Rearranged entries others →
    Alike (declared entries mail) (declared others mail)

theorem Stable.shows (stable : Stable entries mail)
    (accepted : declared entries mail = .ok config) {α : Type}
    {part : AuthConfig → α} (kept : ∀ self, part self.canonical = part self)
    {setting : AuthSetting} {value : α}
    (puts : ∀ self contract,
      part { (AuthConfig.put self setting).withLocal with mail := contract } =
        value)
    {entry other : String × Value} (member : entry ∈ entries)
    (rearranged : EntryRearranged entry other)
    (reads : readAuth other.1 other.2 = .ok setting) : part config = value := by
  obtain ⟨rest, permuted⟩ := exists_perm_concat_of_mem member
  have moved : Rearranged entries (rest ++ [other]) := by
    refine ⟨rest ++ [entry], permuted, ?_⟩
    apply List.rel_append
    · exact List.forall₂_same.mpr fun item _ => .same item
    · exact .cons rearranged .nil
  have sound := (sound_iff.mpr ⟨config, accepted⟩).rearranged moved
  obtain ⟨last, acceptedLast⟩ := sound_iff.mp sound
  have alike := stable _ moved
  rw [accepted, acceptedLast] at alike
  have same : config.canonical = last.canonical := Option.some.inj alike
  obtain ⟨_, settings, each, _, contract, _, _, rfl⟩ :=
    declared_eq_ok_iff.mp acceptedLast
  obtain ⟨front, readsFront⟩ : ∃ front, Reads readAuth rest front := by
    apply Reads.of_each
    intro item known
    obtain ⟨found, readsItem, _⟩ := sound.readable item
      (List.mem_append_left [other] known)
    exact ⟨found, readsItem⟩
  have both : Reads readAuth (rest ++ [other]) (front ++ [setting]) :=
    List.rel_append readsFront (.cons reads .nil)
  have last : part (contractOf settings contract) = value := by
    rw [each.settings_eq both, contractOf, List.foldl_append]
    exact puts _ contract
  rw [← kept config, same, kept, last]

theorem Stable.agreeing (stable : Stable entries mail)
    (accepted : declared entries mail = .ok config) : Agreeing entries := by
  have sound := sound_iff.mpr ⟨config, accepted⟩
  have passwords : ∀ entry ∈ entries, ∀ other, EntryRearranged entry other →
      ∀ policy, readAuth other.1 other.2 = .ok (.password policy) →
        config.passwordPolicy = policy := by
    intro entry member other rearranged policy reads
    exact stable.shows accepted (fun _ => rfl)
      (fun self contract => by
        unfold AuthConfig.withLocal
        split <;> rfl)
      member rearranged reads
  have experiences : ∀ entry ∈ entries, ∀ other, EntryRearranged entry other →
      ∀ experience, readAuth other.1 other.2 = .ok (.experience experience) →
        config.experience = experience := by
    intro entry member other rearranged experience reads
    exact stable.shows accepted (fun _ => rfl)
      (fun self contract => by
        unfold AuthConfig.withLocal
        split <;> rfl)
      member rearranged reads
  constructor
  · obtain ⟨once, settings, each, _⟩ := declared_eq_ok_iff.mp accepted
    apply each.agree_iff.mp
    intro one oneMember two twoMember same
    have lone := fun name => @Reads.eq_of_lone _ _ _ _ _ readAuth_spelling
      each once _ _ oneMember twoMember name
    obtain ⟨first, firstMember, readsOne⟩ := each.exists_entry oneMember
    obtain ⟨second, secondMember, readsTwo⟩ := each.exists_entry twoMember
    cases one <;> cases two <;> cases same <;> try exact lone _ rfl rfl
    · rw [sound.tenancy first firstMember second secondMember _ _ readsOne
        readsTwo]
    · rw [← passwords first firstMember _ (.same first) _ readsOne,
        ← passwords second secondMember _ (.same second) _ readsTwo]
  · intro key spelled inner member
    obtain ⟨setting, reads, _⟩ := sound.readable _ member
    have free : key ∈ orderFreeBlocks :=
      List.mem_append_left ["experience", "storage", "ui"] spelled
    have readsPassword := readAuth_password spelled
    obtain ⟨policy, accepted, _⟩ := except_bind_eq_ok_iff.mp
      ((readsPassword _).symm.trans reads)
    apply (parsePassword_perm_iff accepted).mp
    intro others perm
    obtain ⟨other, again⟩ := PasswordPolicy.checksAlike.accepts perm accepted
    have shown := passwords _ member _ (.same _) policy
      ((readsPassword _).trans
        (except_bind_eq_ok_iff.mpr ⟨policy, accepted, rfl⟩))
    have otherShown := passwords _ member _ (.block free perm) other
      ((readsPassword _).trans
        (except_bind_eq_ok_iff.mpr ⟨other, again, rfl⟩))
    exact shown.symm.trans otherShown ▸ again
  · intro inner member
    obtain ⟨setting, reads, _⟩ := sound.readable _ member
    obtain ⟨experience, accepted, _⟩ := except_bind_eq_ok_iff.mp reads
    apply (parseExperience_perm_iff accepted).mp
    intro others perm
    obtain ⟨other, again⟩ := AuthExperience.checksAlike.accepts perm accepted
    have shown := experiences _ member _ (.same _) experience
      (except_bind_eq_ok_iff.mpr ⟨experience, accepted, rfl⟩)
    have otherShown := experiences _ member _
      (.block (by decide) perm) other
      (except_bind_eq_ok_iff.mpr ⟨other, again, rfl⟩)
    exact shown.symm.trans otherShown ▸ again

end Stable

/-! ## Texts -/

/-- A text with these entries in its auth block and this mail block. -/
structure Carries (src : String) (entries : Entries)
    (mail : Except AuthDslError (Option MailConfig)) : Prop where
  written : trim src ≠ "use auth"
  one : countMatches useAuth src.toList ≤ 1
  entries : (extractAuthBlock src.toList >>= entriesOf) = .ok entries
  mail : mailOf src.toList = mail

theorem Carries.parseAuthBlock_eq {src : String} {entries : Entries}
    {mail : Except AuthDslError (Option MailConfig)}
    (carries : Carries src entries mail) :
    parseAuthBlock src = declared entries mail := by
  have written : (trim src == "use auth") = false := by
    simpa using carries.written
  have one : ¬countMatches useAuth src.toList > 1 := by
    have atMost := carries.one
    omega
  obtain ⟨body, found, entriesFound⟩ := except_bind_eq_ok_iff.mp carries.entries
  unfold parseAuthBlock
  rw [written, if_neg one, found, carries.mail]
  simp [except_ok_bind, entriesFound]

/-- Texts carry the entries of an auth block into the contract, and the order
of the entries does not matter exactly when an accepted block gives no setting
twice with different values. -/
theorem parseAuthBlock_rearranged_iff (entries : Entries)
    (mail : Except AuthDslError (Option MailConfig)) :
    (∀ src, Carries src entries mail →
        parseAuthBlock src = declared entries mail) ∧
      ((∀ others, Rearranged entries others →
          Alike (declared entries mail) (declared others mail)) ↔
        (Sound entries mail → Agreeing entries)) := by
  refine ⟨fun src carries => carries.parseAuthBlock_eq, ?_, ?_⟩
  · intro stable sound
    obtain ⟨config, accepted⟩ := sound_iff.mp sound
    exact Stable.agreeing stable accepted
  · intro agreeing others rearranged
    by_cases sound : Sound entries mail
    · obtain ⟨config, accepted⟩ := sound_iff.mp sound
      rw [accepted, (agreeing sound).declared_eq rearranged accepted]
      rfl
    · have refused : ∀ {known : Entries}, ¬Sound known mail →
          (declared known mail).toOption = none := by
        intro known unsound
        cases outcome : declared known mail with
        | error => rfl
        | ok config => exact absurd (sound_iff.mpr ⟨config, outcome⟩) unsound
      have unsound : ¬Sound others mail := fun soundOthers =>
        sound (soundOthers.rearranged rearranged.symm)
      rw [Alike, refused sound, refused unsound]

/-- An auth block whose experience says two things. -/
def statesText (first second : String) : String :=
  "use auth \x7b experience \x7b " ++ first ++ " " ++ second ++ " \x7d \x7d"

def statesEntries (states : Entries) : Entries :=
  [("experience", .block states)]

theorem carries_devicesLast :
    Carries (statesText "device_management = disabled" "devices = true")
      (statesEntries [("device_management", .scalar "disabled"),
        ("devices", .scalar "true")]) (.ok none) := by
  refine ⟨?_, ?_, ?_, ?_⟩
  all_goals decide +kernel

theorem carries_devicesFirst :
    Carries (statesText "devices = true" "device_management = disabled")
      (statesEntries [("devices", .scalar "true"),
        ("device_management", .scalar "disabled")]) (.ok none) := by
  refine ⟨?_, ?_, ?_, ?_⟩
  all_goals decide +kernel

/-- Devices are enabled or disabled, by whichever of their names stands
last. -/
theorem devices_last_wins :
    Rearranged
        (statesEntries [("devices", .scalar "true"),
          ("device_management", .scalar "disabled")])
        (statesEntries [("device_management", .scalar "disabled"),
          ("devices", .scalar "true")]) ∧
      Carries (statesText "devices = true" "device_management = disabled")
        (statesEntries [("devices", .scalar "true"),
          ("device_management", .scalar "disabled")]) (.ok none) ∧
      Carries (statesText "device_management = disabled" "devices = true")
        (statesEntries [("device_management", .scalar "disabled"),
          ("devices", .scalar "true")]) (.ok none) ∧
      ¬Alike
        (parseAuthBlock
          (statesText "devices = true" "device_management = disabled"))
        (parseAuthBlock
          (statesText "device_management = disabled" "devices = true")) := by
  refine ⟨?_, carries_devicesFirst, carries_devicesLast, ?_⟩
  · exact ⟨_, .refl _, .cons (.block (by decide) (.swap _ _ [])) .nil⟩
  · rw [carries_devicesFirst.parseAuthBlock_eq,
      carries_devicesLast.parseAuthBlock_eq, Alike]
    decide +kernel

end AuthBoundry
