import AuthBoundry.Dsl.Declaration
import AuthBoundry.Library.Reordering
import AuthBoundry.Library.Settings

/-!
# Fields in any order

The fields of a block are read as settings, one for one, and put one after
another.  Where no two settings meet, the order of the fields does not matter.
-/

namespace AuthBoundry

open Library

section Fields

variable {σ γ ι : Type} {block : String}
  {read : String → Value → Except AuthDslError σ}

def NamedOnce (entries : Entries) : Prop :=
  (entries.map Prod.fst).Nodup

def Reads (read : String → Value → Except AuthDslError σ) (entries : Entries)
    (settings : List σ) : Prop :=
  List.Forall₂ (fun entry setting => read entry.1 entry.2 = .ok setting)
    entries settings

theorem readFields_eq_ok_iff {put : γ → σ → Except AuthDslError γ}
    {seen : List String} {config result : γ} {entries : Entries} :
    readFields block read put seen config entries = .ok result ↔
      (NamedOnce entries ∧ ∀ name ∈ entries.map Prod.fst, name ∉ seen) ∧
        ∃ settings, Reads read entries settings ∧
          settings.foldlM put config = .ok result := by
  induction entries generalizing seen config with
  | nil => simp [readFields, NamedOnce, Reads, pure, Except.pure]
  | cons entry entries induction =>
      obtain ⟨name, value⟩ := entry
      rw [readFields]
      by_cases known : name ∈ seen
      · simp [known]
      · rw [if_neg known, except_bind_eq_ok_iff]
        simp only [except_bind_eq_ok_iff, induction]
        constructor
        · rintro ⟨setting, reads, next, puts, ⟨once, fresh⟩, settings, rest,
            folds⟩
          refine ⟨⟨List.nodup_cons.mpr ⟨?_, once⟩, ?_⟩, setting :: settings,
            .cons reads rest, ?_⟩
          · intro again
            exact fresh name again List.mem_cons_self
          · intro other member seenBefore
            rcases List.mem_cons.mp member with same | member
            · subst same
              exact known seenBefore
            · exact fresh other member (List.mem_cons_of_mem _ seenBefore)
          · rw [List.foldlM_cons, puts]
            exact folds
        · rintro ⟨⟨once, fresh⟩, settings, each, folds⟩
          obtain ⟨apart, once⟩ := List.nodup_cons.mp once
          obtain ⟨setting, settings, reads, rest, rfl⟩ :=
            List.forall₂_cons_left_iff.mp each
          rw [List.foldlM_cons, except_bind_eq_ok_iff] at folds
          obtain ⟨next, puts, folds⟩ := folds
          refine ⟨setting, reads, next, puts, ⟨once, ?_⟩, settings, rest,
            folds⟩
          intro other member seenBefore
          rcases List.mem_cons.mp seenBefore with same | seenBefore
          · subst same
            exact apart member
          · exact fresh other (List.mem_cons_of_mem _ member) seenBefore

theorem foldlM_always (put : γ → σ → γ) (config : γ) (settings : List σ) :
    settings.foldlM (always put) config =
      .ok (settings.foldl put config) := by
  induction settings generalizing config with
  | nil => rfl
  | cons setting settings induction =>
      rw [List.foldlM_cons, List.foldl_cons]
      exact induction (put config setting)

theorem parseFields_eq_ok_iff {put : γ → σ → γ}
    {check : γ → Except AuthConfigError Unit} {finish : γ → γ}
    {config result : γ} {entries : Entries} :
    parseFields block read put check finish config (.block entries) =
        .ok result ↔
      NamedOnce entries ∧ ∃ settings, Reads read entries settings ∧
        check (settings.foldl put config) = .ok () ∧
        finish (settings.foldl put config) = result := by
  rw [parseFields, except_bind_eq_ok_iff]
  simp only [readFields_eq_ok_iff, foldlM_always, List.not_mem_nil,
    not_false_eq_true, implies_true, and_true,
    except_check_bind_eq_ok_iff, except_mapError_eq_ok_iff]
  constructor
  · rintro ⟨_, ⟨once, settings, each, folds⟩, checked, finished⟩
    cases folds
    cases finished
    exact ⟨once, settings, each, checked, rfl⟩
  · rintro ⟨once, settings, each, checked, rfl⟩
    exact ⟨_, ⟨once, settings, each, rfl⟩, checked, rfl⟩

theorem NamedOnce.perm {entries others : Entries} (once : NamedOnce entries)
    (perm : entries.Perm others) : NamedOnce others :=
  (perm.map Prod.fst).nodup_iff.mp once

theorem NamedOnce.setting_eq {entries : Entries} (once : NamedOnce entries)
    {first second : String × Value} (one : first ∈ entries)
    (two : second ∈ entries) (same : first.1 = second.1) {left right : σ}
    (readsFirst : read first.1 first.2 = .ok left)
    (readsSecond : read second.1 second.2 = .ok right) : left = right := by
  have entry : first = second :=
    List.inj_on_of_nodup_map once one two same
  subst entry
  rw [readsFirst] at readsSecond
  exact Except.ok.inj readsSecond

namespace Reads

variable {entries others : Entries} {settings : List σ}

theorem settings_eq {again : List σ} (each : Reads read entries settings)
    (other : Reads read entries again) : settings = again := by
  induction each generalizing again with
  | nil =>
      cases other
      rfl
  | cons reads _ induction =>
      obtain ⟨setting, rest, readsAgain, others, rfl⟩ :=
        List.forall₂_cons_left_iff.mp other
      rw [reads] at readsAgain
      rw [Except.ok.inj readsAgain, induction others]

theorem perm (each : Reads read entries settings)
    (permuted : entries.Perm others) :
    ∃ moved, settings.Perm moved ∧ Reads read others moved := by
  obtain ⟨moved, reads, back⟩ :=
    List.perm_comp_forall₂ permuted.symm each
  exact ⟨moved, back.symm, reads⟩

theorem perm_settings {moved : List σ} (each : Reads read entries settings)
    (permuted : settings.Perm moved) :
    ∃ others, entries.Perm others ∧ Reads read others moved := by
  obtain ⟨others, reads, back⟩ :=
    List.perm_comp_forall₂ permuted.symm each.flip
  exact ⟨others, back.symm, reads.flip⟩

theorem exists_entry (each : Reads read entries settings) {setting : σ}
    (member : setting ∈ settings) :
    ∃ entry ∈ entries, read entry.1 entry.2 = .ok setting :=
  exists_left_of_forall₂ each member

theorem exists_setting (each : Reads read entries settings)
    {entry : String × Value} (member : entry ∈ entries) :
    ∃ setting ∈ settings, read entry.1 entry.2 = .ok setting :=
  exists_left_of_forall₂ each.flip member

theorem of_each (readable : ∀ entry ∈ entries,
    ∃ setting, read entry.1 entry.2 = .ok setting) :
    ∃ settings, Reads read entries settings := by
  induction entries with
  | nil => exact ⟨[], .nil⟩
  | cons entry entries induction =>
      obtain ⟨setting, reads⟩ := readable entry List.mem_cons_self
      obtain ⟨settings, each⟩ := induction fun other member =>
        readable other (List.mem_cons_of_mem _ member)
      exact ⟨setting :: settings, .cons reads each⟩

end Reads

/-- No setting is given twice with different values. -/
def AgreeIn (read : String → Value → Except AuthDslError σ) (slot : σ → ι)
    (entries : Entries) : Prop :=
  ∀ first ∈ entries, ∀ second ∈ entries, ∀ one two,
    read first.1 first.2 = .ok one → read second.1 second.2 = .ok two →
      slot one = slot two → one = two

theorem Reads.agree_iff {entries : Entries} {settings : List σ}
    {slot : σ → ι} (each : Reads read entries settings) :
    Agree slot settings ↔ AgreeIn read slot entries := by
  constructor
  · intro agree first firstMember second secondMember one two readsOne readsTwo
    obtain ⟨left, leftMember, readsLeft⟩ := each.exists_setting firstMember
    obtain ⟨right, rightMember, readsRight⟩ := each.exists_setting secondMember
    rw [readsOne] at readsLeft
    rw [readsTwo] at readsRight
    rw [Except.ok.inj readsLeft, Except.ok.inj readsRight]
    exact agree left leftMember right rightMember
  · intro agree one oneMember two twoMember
    obtain ⟨first, firstMember, readsOne⟩ := each.exists_entry oneMember
    obtain ⟨second, secondMember, readsTwo⟩ := each.exists_entry twoMember
    exact agree first firstMember second secondMember one two readsOne readsTwo

theorem Reads.eq_of_lone {entries : Entries} {settings : List σ}
    {spellings : σ → List String}
    (spelled : ∀ key value setting, read key value = .ok setting →
      key ∈ spellings setting)
    (each : Reads read entries settings) (once : NamedOnce entries)
    {one two : σ} (oneMember : one ∈ settings) (twoMember : two ∈ settings)
    {name : String} (lone : spellings one = [name])
    (same : spellings two = [name]) : one = two := by
  obtain ⟨first, firstMember, readsOne⟩ := each.exists_entry oneMember
  obtain ⟨second, secondMember, readsTwo⟩ := each.exists_entry twoMember
  have namedOne := spelled _ _ _ readsOne
  have namedTwo := spelled _ _ _ readsTwo
  rw [lone, List.mem_singleton] at namedOne
  rw [same, List.mem_singleton] at namedTwo
  exact once.setting_eq firstMember secondMember (namedOne.trans namedTwo.symm)
    readsOne readsTwo

/-- Whether a block passes its check does not depend on the order. -/
def ChecksAlike (read : String → Value → Except AuthDslError σ)
    (put : γ → σ → γ) (check : γ → Except AuthConfigError Unit)
    (config : γ) : Prop :=
  ∀ {entries settings moved}, NamedOnce entries →
    Reads read entries settings → settings.Perm moved →
      check (settings.foldl put config) = check (moved.foldl put config)

section Alike

variable {put : γ → σ → γ} {check : γ → Except AuthConfigError Unit}
  {config result : γ} {entries others : Entries}

theorem ChecksAlike.accepts (alike : ChecksAlike read put check config)
    {finish : γ → γ} (perm : entries.Perm others)
    (accepted : parseFields block read put check finish config
      (.block entries) = .ok result) :
    ∃ other, parseFields block read put check finish config
      (.block others) = .ok other := by
  obtain ⟨once, settings, each, checked, _⟩ :=
    parseFields_eq_ok_iff.mp accepted
  obtain ⟨moved, permuted, reads⟩ := each.perm perm
  refine ⟨_, parseFields_eq_ok_iff.mpr ⟨once.perm perm, moved, reads, ?_, rfl⟩⟩
  rw [← alike once each permuted]
  exact checked

/-- The order of a block does not matter exactly when no setting is given twice
with different values. -/
theorem parseFields_perm_iff {slot : σ → ι} (slots : Slots slot put)
    (accepted : parseFields block read put check id config
      (.block entries) = .ok result) :
    (∀ others, entries.Perm others →
        parseFields block read put check id config (.block others) =
          .ok result) ↔
      AgreeIn read slot entries := by
  obtain ⟨once, settings, each, checked, folds⟩ :=
    parseFields_eq_ok_iff.mp accepted
  rw [← each.agree_iff, ← slots.foldl_iff settings config]
  constructor
  · intro same moved permuted
    obtain ⟨others, perm, reads⟩ := each.perm_settings permuted
    obtain ⟨_, again, readsAgain, _, foldsAgain⟩ :=
      parseFields_eq_ok_iff.mp (same others perm)
    rw [reads.settings_eq readsAgain]
    exact foldsAgain.trans folds.symm
  · intro same others perm
    obtain ⟨moved, permuted, reads⟩ := each.perm perm
    have foldsAgain := same moved permuted
    apply parseFields_eq_ok_iff.mpr
    refine ⟨once.perm perm, moved, reads, ?_, foldsAgain.trans folds⟩
    rw [foldsAgain]
    exact checked

end Alike

end Fields

end AuthBoundry
