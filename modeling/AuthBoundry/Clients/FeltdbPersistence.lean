import AuthBoundry.Library.Collections

/-!
# The persistence bridge

The password reset over a database of four collections.  Every `await` of the
bridge is one call on a collection; between two of them other operations may
change the database.
-/

namespace AuthBoundry

open Library

/-! ## Records -/

inductive CollectionName where
  | recoveryCapability
  | credential
  | session
  | auditEvent
  deriving DecidableEq

inductive CapabilityKind where
  | passwordReset
  | emailVerification
  deriving DecidableEq

def CapabilityKind.asStr : CapabilityKind → String
  | .passwordReset => "password_reset"
  | .emailVerification => "email_verification"

structure RecoveryCapability where
  capabilityId : String
  tenantId : String
  identityId : String
  kind : CapabilityKind
  createdAt : Int
  expiresAt : Int
  consumedAt : Option Int
  deriving DecidableEq

structure StoredCredential where
  identityId : String
  passwordHash : String
  passwordChangedAt : Int
  deriving DecidableEq

structure StoredSession where
  identityId : String
  revokedAt : Option Int
  deriving DecidableEq

def StoredSession.isRevoked (self : StoredSession) : Bool :=
  match self.revokedAt with
  | some time => time != 0
  | none => false

structure SecurityEvent where
  timestamp : Int
  identityId : String
  eventKind : String
  capabilityId : String
  status : String
  deriving DecidableEq

abbrev CollectionName.Record : CollectionName → Type
  | .recoveryCapability => RecoveryCapability
  | .credential => StoredCredential
  | .session => StoredSession
  | .auditEvent => SecurityEvent

abbrev FeltCall := CollectionCall CollectionName CollectionName.Record

abbrev FeltAnswer (call : FeltCall) : Type :=
  CollectionAnswer CollectionName.Record call

abbrev FeltDB := Database CollectionName.Record

abbrev FeltExchange := CallExchange CollectionName.Record

/-- What an asynchronous method of the bridge does. -/
abbrev Felt := Procedure FeltCall FeltAnswer String

/-- To await one call: a call that fails throws. -/
def await (call : FeltCall) :
    Felt (CollectionResult CollectionName.Record call) :=
  ExceptT.mk (.ask call .done)

/-! ## The methods -/

/-- The methods of the bridge read the clock once, when they are called. -/
structure CapabilityRequest where
  tenantId : String
  identityId : String
  kind : CapabilityKind
  expiresAt : Int

def generateCapabilityId (kind : CapabilityKind) (random : String) : String :=
  s!"{kind.asStr}_{random}"

def createRecoveryCapability (now : Int) (random : String)
    (request : CapabilityRequest) : Felt (String × RecoveryCapability) :=
  let capability : RecoveryCapability :=
    { capabilityId := generateCapabilityId request.kind random
      tenantId := request.tenantId
      identityId := request.identityId
      kind := request.kind
      createdAt := now
      expiresAt := request.expiresAt
      consumedAt := none }
  let stored : Felt (String × RecoveryCapability) := do
    let storedId ← await (.insert .recoveryCapability capability)
    return (storedId, capability)
  tryCatch stored fun error =>
    throw s!"Failed to create recovery capability in FeltDB: {error}"

def getRecoveryCapability (capabilityId : String) :
    Felt (Option (Versioned RecoveryCapability)) :=
  tryCatch (await (.get .recoveryCapability capabilityId)) fun error =>
    throw s!"Failed to retrieve recovery capability: {error}"

structure ResetRequest where
  capabilityId : String
  newPasswordHash : String
  identityId : String
  sessionIdsToRevoke : List String

structure ResetResult where
  success : Bool
  consumedAt : Int
  deriving DecidableEq

def writeCredential (now : Int) (request : ResetRequest) : Felt Unit := do
  let credential ← await (.get .credential request.identityId)
  match credential with
  | some credential =>
      await (.updateIfVersion .credential credential.id credential.version
        { credential.record with
          passwordHash := request.newPasswordHash
          passwordChangedAt := now })
  | none =>
      let _ ← await (.insert .credential
        { identityId := request.identityId
          passwordHash := request.newPasswordHash
          passwordChangedAt := now })

def markConsumed (now : Int) (capability : Versioned RecoveryCapability) :
    Felt Unit :=
  await (.updateIfVersion .recoveryCapability capability.id capability.version
    { capability.record with consumedAt := some now })

def revokeSession (now : Int) (sessionId : String) : Felt Unit := do
  let session ← await (.get .session sessionId)
  match session with
  | some session =>
      if session.record.isRevoked then pure ()
      else
        await (.updateIfVersion .session session.id session.version
          { session.record with revokedAt := some now })
  | none => pure ()

def revokeSessions (now : Int) : List String → Felt Unit
  | [] => pure ()
  | sessionId :: sessionIds => do
      revokeSession now sessionId
      revokeSessions now sessionIds

def recordReset (now : Int) (request : ResetRequest) : Felt Unit := do
  let _ ← await (.insert .auditEvent
    { timestamp := now
      identityId := request.identityId
      eventKind := "password_reset_completed"
      capabilityId := request.capabilityId
      status := "success" })

/-- The steps inside the `try`. -/
def resetPassword (now : Int) (request : ResetRequest)
    (capability : Versioned RecoveryCapability) : Felt ResetResult := do
  writeCredential now request
  markConsumed now capability
  revokeSessions now request.sessionIdsToRevoke
  recordReset now request
  return { success := true, consumedAt := now }

def consumeRecoveryCapabilityAndResetPassword (now : Int)
    (request : ResetRequest) : Felt ResetResult := do
  let capability ← getRecoveryCapability request.capabilityId
  match capability with
  | none => throw "Recovery capability not found"
  | some capability =>
      if capability.record.consumedAt.isSome then
        throw "Recovery capability already consumed"
      else if capability.record.expiresAt < now then
        throw "Recovery capability expired"
      else
        tryCatch (resetPassword now request capability) fun error =>
          throw (s!"Password reset transaction failed: {error}. " ++
            "No state was modified.")

end AuthBoundry
