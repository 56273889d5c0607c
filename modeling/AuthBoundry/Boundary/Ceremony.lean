import AuthBoundry.Library.Effects
import AuthBoundry.Library.KeyedMap
import AuthBoundry.Library.Text

/-!
# Ceremonies

Resetting a password and verifying an address take two requests: the first
issues an opaque token, which is mailed, and the second consumes it.  A token
is stored under its hash only.  It is consumed when the operation it protects
has succeeded, so a failed operation can be tried again.
-/

namespace AuthBoundry

open Library
open Library.Stateful

inductive CeremonyKind where
  | passwordReset
  | emailVerification
  deriving DecidableEq, Repr

structure MailMessage where
  template : String
  identity : String
  recipient : String
  tenant : String
  values : KeyedMap String String
  idempotencyKey : String
  deriving DecidableEq

abbrev MailPort := MailMessage → Except String Unit

/-- The hash of a token. -/
abbrev TokenDigest := List UInt8

structure Challenge where
  kind : CeremonyKind
  tenant : String
  account : String
  expiresAt : Int
  consumed : Bool
  revoked : Bool
  deriving DecidableEq, Repr

/-- The token that is written for a sequence of random bytes. -/
def tokenOfBytes (bytes : List UInt8) : String :=
  String.join (bytes.map fun byte => String.ofList (hexDigits 2 byte.toNat))

structure ChallengeStore where
  entries : KeyedMap TokenDigest Challenge

namespace ChallengeStore

def default : ChallengeStore := { entries := ∅ }

variable (hash : String → TokenDigest)

def issue (self : ChallengeStore) (bytes : List UInt8) (kind : CeremonyKind)
    (tenant account : String) (expiresAt : Int) : String × ChallengeStore :=
  let token := tokenOfBytes bytes
  (token,
    { entries :=
        self.entries.insert (hash token)
          { kind
            tenant
            account
            expiresAt
            consumed := false
            revoked := false } })

def open? (self : ChallengeStore) (token : String) (kind : CeremonyKind)
    (now : Int) : Except String Challenge :=
  match self.entries[hash token]? with
  | none => .error "invalid recovery challenge"
  | some entry =>
      if entry.kind != kind || entry.revoked || entry.consumed ||
          decide (entry.expiresAt ≤ now) then
        .error "invalid or expired recovery challenge"
      else
        .ok entry

def markConsumed (self : ChallengeStore) (token : String) (entry : Challenge) :
    ChallengeStore :=
  { entries := self.entries.insert (hash token) { entry with consumed := true } }

/-- Run the operation a token protects.  The store is locked meanwhile: the
operation works on the rest of the state. -/
def consumeWith {σ : Type} (token : String) (kind : CeremonyKind) (now : Int)
    (operation : String → String → EStateM String σ Unit) :
    EStateM String (ChallengeStore × σ) Unit := fun (self, rest) =>
  match self.open? hash token kind now with
  | .error message => .error message (self, rest)
  | .ok entry =>
      match operation entry.tenant entry.account rest with
      | .error message rest => .error message (self, rest)
      | .ok () rest => .ok () (self.markConsumed hash token entry, rest)

def revoke (self : ChallengeStore) (token : String) : ChallengeStore :=
  match self.entries[hash token]? with
  | none => self
  | some entry =>
      { entries :=
          self.entries.insert (hash token) { entry with revoked := true } }

variable {hash} {self : ChallengeStore} {token : String}
  {kind : CeremonyKind} {now : Int} {entry : Challenge}

theorem open?_eq_ok_iff :
    self.open? hash token kind now = .ok entry ↔
      self.entries[hash token]? = some entry ∧ entry.kind = kind ∧
        entry.revoked = false ∧ entry.consumed = false ∧
        now < entry.expiresAt := by
  unfold open?
  cases self.entries[hash token]? with
  | none => simp
  | some found =>
      dsimp only
      split
      · rename_i refused
        simp only [Bool.or_eq_true, bne_iff_ne, decide_eq_true_eq] at refused
        simp only [reduceCtorEq, Option.some.injEq, false_iff]
        rintro ⟨rfl, sameKind, unrevoked, unconsumed, early⟩
        rcases refused with ((kinds | revoked) | consumed) | late
        · exact kinds sameKind
        · rw [revoked] at unrevoked
          cases unrevoked
        · rw [consumed] at unconsumed
          cases unconsumed
        · omega
      · rename_i granted
        simp only [Bool.or_eq_true, bne_iff_ne, decide_eq_true_eq, not_or,
          Decidable.not_not, Bool.not_eq_true, Int.not_le] at granted
        obtain ⟨⟨⟨sameKind, unrevoked⟩, unconsumed⟩, early⟩ := granted
        simp only [Except.ok.injEq, Option.some.injEq]
        constructor
        · rintro rfl
          exact ⟨rfl, sameKind, unrevoked, unconsumed, early⟩
        · exact And.left

section Consumption

variable {σ : Type} {rest after : σ} {store : ChallengeStore}
  {operation : String → String → EStateM String σ Unit} {message : String}

theorem consumeWith_apply :
    consumeWith hash token kind now operation (self, rest) =
      match self.open? hash token kind now with
      | .error message => .error message (self, rest)
      | .ok entry =>
          match operation entry.tenant entry.account rest with
          | .error message rest => .error message (self, rest)
          | .ok () rest => .ok () (self.markConsumed hash token entry, rest) :=
  rfl

/-- A failure keeps the challenge, and of the rest what the operation keeps. -/
theorem consumeWith_failed {γ : Type} {view : σ → γ}
    (kept : ∀ tenant account, Frames view (operation tenant account))
    (failed : consumeWith hash token kind now operation (self, rest) =
      .error message (store, after)) :
    store = self ∧ view after = view rest := by
  rw [consumeWith_apply] at failed
  cases opened : self.open? hash token kind now with
  | error refusal =>
      rw [opened] at failed
      cases failed
      exact ⟨rfl, rfl⟩
  | ok entry =>
      have framed := kept entry.tenant entry.account rest
      rw [opened] at failed
      dsimp only at failed
      cases ran : operation entry.tenant entry.account rest with
      | error refusal final =>
          rw [ran] at failed framed
          cases failed
          exact ⟨rfl, framed⟩
      | ok done final =>
          rw [ran] at failed
          cases failed

theorem not_refuses_consumeWith_iff :
    ¬Refuses (consumeWith hash token kind now operation) (self, rest) ↔
      ∃ entry, self.open? hash token kind now = .ok entry ∧
        ¬Refuses (operation entry.tenant entry.account) rest := by
  unfold Refuses
  rw [consumeWith_apply]
  cases self.open? hash token kind now with
  | error refusal => simp
  | ok entry =>
      simp only [Except.ok.injEq, exists_eq_left']
      cases operation entry.tenant entry.account rest with
      | error refusal final => simp
      | ok done final => simp

theorem consumeWith_ignores {change : σ → σ}
    (ignores : ∀ tenant account, Ignores change (operation tenant account)) :
    Ignores (Prod.map id change)
      (consumeWith hash token kind now operation) := by
  rintro ⟨self, rest⟩
  change consumeWith hash token kind now operation (self, change rest) = _
  rw [consumeWith_apply, consumeWith_apply]
  cases self.open? hash token kind now with
  | error refusal => rfl
  | ok entry =>
      dsimp only
      rw [ignores entry.tenant entry.account rest]
      cases operation entry.tenant entry.account rest <;> rfl

end Consumption

end ChallengeStore

end AuthBoundry
