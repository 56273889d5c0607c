import AuthBoundry.Boundary.Request
import AuthBoundry.Library.Cuts
import AuthBoundry.Library.Parts

/-!
# Session credentials written and read

A credential is written as `apt_`, the tenant, a dot and the session.  Reading
cuts at the first dot, so the text is read back as it was meant exactly when
the tenant has no dot in it, which nothing asks of a tenant.
-/

namespace AuthBoundry

open Library

/-- The session id minted from the two numbers the keyed hasher gives. -/
def mintSessionId (high low : UInt64) : SessionId :=
  ⟨s!"sess_{hex16 high}{hex16 low}"⟩

namespace SessionCredential

/-- Read back as it was written, whatever white space is around it. -/
def RoundTrips (credential : SessionCredential) : Prop :=
  ∀ before after : List Char,
    (∀ character ∈ before, isWhitespace character = true) →
    (∀ character ∈ after, isWhitespace character = true) →
    parse (String.ofList before ++ credential.encode ++ String.ofList after) =
      some credential

theorem encode_eq (credential : SessionCredential) :
    credential.encode = start ++ (credential.tenantId ++
      String.singleton '.' ++ credential.sessionId.value) := by
  simp only [encode, toString, String.append_assoc]
  rfl

/-- What is accepted is the text of the credential, whose tenant has no dot. -/
theorem parse_eq_some_iff {raw : String} {credential : SessionCredential} :
    parse raw = some credential ↔
      trim raw = credential.encode ∧ '.' ∉ credential.tenantId.toList ∧
        credential.tenantId ≠ "" ∧ credential.sessionId.value ≠ "" := by
  constructor
  · intro accepted
    unfold parse at accepted
    obtain ⟨body, stripped, accepted⟩ := Option.bind_eq_some_iff.mp accepted
    obtain ⟨⟨tenantId, sessionId⟩, cut, accepted⟩ :=
      Option.bind_eq_some_iff.mp accepted
    dsimp only at accepted
    by_cases filled : tenantId.isEmpty || sessionId.isEmpty
    · rw [if_pos filled] at accepted
      cases accepted
    · rw [if_neg filled] at accepted
      cases accepted
      rw [Bool.or_eq_true, not_or, String.isEmpty_iff, String.isEmpty_iff]
        at filled
      have whole : body = tenantId ++ String.singleton '.' ++ sessionId := by
        apply String.toList_inj.mp
        rw [splitOnce_eq_some cut]
        simp
      refine ⟨?_, splitOnce_absent cut, filled.1, filled.2⟩
      rw [stripStart_eq_some_iff.mp stripped, whole, encode_eq]
  · intro ⟨trimmed, absent, named, minted⟩
    have stripped := stripStart_eq_some_iff.mpr (trimmed.trans
      credential.encode_eq)
    have cut := splitOnce_append absent credential.sessionId.value
    have filled : ¬ (credential.tenantId.isEmpty ||
        credential.sessionId.value.isEmpty) = true := by
      rw [Bool.or_eq_true, not_or, String.isEmpty_iff, String.isEmpty_iff]
      exact ⟨named, minted⟩
    apply Option.bind_eq_some_iff.mpr
    refine ⟨_, stripped, ?_⟩
    apply Option.bind_eq_some_iff.mpr
    refine ⟨_, cut, ?_⟩
    exact if_neg filled

end SessionCredential

/-! ## Minted session ids -/

theorem isWhitespace_digitChar : ∀ digit < 16,
    isWhitespace (Nat.digitChar digit) = false := by
  decide

theorem mintSessionId_toList (high low : UInt64) :
    (mintSessionId high low).value.toList =
      "sess_".toList ++ (hexDigits 16 high.toNat ++ (hexDigits 15
        (low.toNat / 16) ++ [Nat.digitChar (low.toNat % 16)])) := by
  simp [mintSessionId, hex16, toString, hexDigits]

theorem mintSessionId_ne_empty (high low : UInt64) :
    (mintSessionId high low).value ≠ "" := by
  intro empty
  have letters := congrArg String.toList empty
  rw [mintSessionId_toList] at letters
  cases letters

namespace SessionCredential

/-- The text of an issued credential begins and ends with something visible. -/
theorem trimList_encode (tenantId : String) (high low : UInt64) :
    let credential : SessionCredential :=
      { tenantId, sessionId := mintSessionId high low }
    trimList credential.encode.toList = credential.encode.toList := by
  intro credential
  have whole : credential.encode.toList = start.toList ++
      (tenantId.toList ++ '.' ::
        (mintSessionId high low).value.toList) := by
    rw [encode_eq]
    simp [credential]
  apply trimList_eq_self_of_ends
  · intro first member
    rw [whole] at member
    cases member
    rfl
  · intro last member
    rw [whole, mintSessionId_toList] at member
    simp only [← List.append_assoc, ← List.cons_append] at member
    rw [List.getLast?_concat] at member
    cases member
    exact isWhitespace_digitChar _ (Nat.mod_lt _ (by decide))

/-- An issued credential comes back exactly when its tenant is named without a
dot; what is accepted is written back as it was read in any case. -/
theorem issued_roundTrips_iff (tenantId : String) (high low : UInt64) :
    RoundTrips { tenantId, sessionId := mintSessionId high low } ∧
        (∀ raw credential, parse raw = some credential →
          credential.encode = trim raw) ↔
      tenantId ≠ "" ∧ '.' ∉ tenantId.toList := by
  constructor
  · intro ⟨returns, _⟩
    have accepted := returns [] [] (by simp) (by simp)
    obtain ⟨_, absent, named, _⟩ := parse_eq_some_iff.mp accepted
    exact ⟨named, absent⟩
  · intro ⟨named, absent⟩
    constructor
    · intro before after blankBefore blankAfter
      apply parse_eq_some_iff.mpr
      refine ⟨?_, absent, named, mintSessionId_ne_empty high low⟩
      unfold trim
      rw [String.append_assoc, String.toList_append, String.toList_append,
        String.toList_ofList, String.toList_ofList,
        trimList_between blankBefore blankAfter, trimList_encode,
        String.ofList_toList]
    · intro raw credential accepted
      exact (parse_eq_some_iff.mp accepted).1.symm

/-- A session of `acme.eu` is presented as one of `acme`. -/
theorem dotted_misread :
    let issued : SessionCredential :=
      { tenantId := "acme.eu", sessionId := mintSessionId 1 2 }
    (parse issued.encode).map tenantId = some "acme" ∧
      ¬ RoundTrips issued := by
  constructor
  · decide +kernel
  · intro returns
    have accepted := returns [] [] (by simp) (by simp)
    have absent := (parse_eq_some_iff.mp accepted).2.1
    revert absent
    decide +kernel

end SessionCredential

end AuthBoundry
