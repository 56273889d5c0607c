import AuthBoundry.Server.ReadResponses

/-!
# Lengths that are not granted

A stream may declare more bytes than the program is granted for a body, in its
content length or in the size of a chunk.  The program stops over such a stream
and over no other one.
-/

namespace AuthBoundry

open Library
open scoped Library.Listed

/-! ## Streams that outgrow the memory -/

/-- The header lines at the beginning of a stream, and what follows them. -/
inductive HeaderLines :
    List UInt8 → List (String × String) → List UInt8 → Prop
  | ended {stream rest : List UInt8} {line : String}
      (taken : takeLine stream = (utf8 line, rest))
      (blank : trimLineEnd line = "") : HeaderLines stream [] rest
  | line {stream more rest : List UInt8} {line : String}
      {headers : List (String × String)}
      (taken : takeLine stream = (utf8 line, more))
      (content : trimLineEnd line ≠ "")
      (later : HeaderLines more headers rest) :
      HeaderLines stream ((headerOf (trimLineEnd line)).toList ++ headers) rest

section Overflows

variable {heap : Heap} {stream rest body : List UInt8} {start : Nat}

theorem readLine_cases (stream : List UInt8) :
    (∃ line rest, readLine stream = .ok (line, rest) ∧
      takeLine stream = (utf8 line, rest)) ∨
    ∃ message, readLine stream = .error (.error message) := by
  cases isRead : readLine stream with
  | ok found => exact .inl ⟨found.1, found.2, rfl, readLine_eq_ok_iff.mp isRead⟩
  | error failure =>
      unfold readLine at isRead
      split at isRead
      · cases isRead
      · cases isRead
        exact .inr ⟨_, rfl⟩

/-- Reading headers ends with them or with an error. -/
theorem readHeaders_cases (stream : List UInt8) :
    (∃ headers rest, readHeaders stream = .ok (headers, rest) ∧
      HeaderLines stream headers rest) ∨
    ∃ message, readHeaders stream = .error (.error message) := by
  rcases readLine_cases stream with
    ⟨line, rest, isRead, taken⟩ | ⟨message, failed⟩
  · by_cases blank : trimLineEnd line = ""
    · exact .inl ⟨[], rest, readHeaders_of_end isRead blank,
        .ended taken blank⟩
    · rw [readHeaders_of_line isRead blank]
      have nonempty : line ≠ "" := by
        intro empty
        rw [empty] at blank
        exact blank rfl
      have shorter := readLine_length_lt isRead nonempty
      rcases readHeaders_cases rest with
        ⟨headers, after, found, lines⟩ | ⟨message, failed⟩
      · rw [found]
        exact .inl ⟨_, after, rfl, .line taken blank lines⟩
      · rw [failed]
        exact .inr ⟨message, rfl⟩
  · exact .inr ⟨message, readHeaders_of_error failed⟩
termination_by stream.length

theorem readExact_cases (size : Nat) (stream : List UInt8) :
    (∃ data after, readExact size stream = .ok (data, after) ∧
      stream = data ++ after ∧ data.length = size) ∨
    (stream.length < size ∧
      ∃ message, readExact size stream = .error (.error message)) := by
  cases isRead : readExact size stream with
  | ok found =>
      obtain ⟨whole, length⟩ := readExact_eq_ok isRead
      exact .inl ⟨found.1, found.2, rfl, whole, length⟩
  | error failure =>
      unfold readExact at isRead
      split at isRead
      · rename_i short
        cases isRead
        exact .inr ⟨short, _, rfl⟩
      · cases isRead

theorem HeaderLines.readHeaders {headers : List (String × String)}
    (lines : HeaderLines stream headers rest) :
    readHeaders stream = .ok (headers, rest) := by
  induction lines with
  | ended taken blank =>
      exact readHeaders_of_end (readLine_eq_ok_iff.mpr taken) blank
  | line taken content _ induction =>
      rw [readHeaders_of_line (readLine_eq_ok_iff.mpr taken) content,
        induction]
      rfl

end Overflows

/-! ## All streams -/

/-- A megabyte for a body. -/
def megabyte : Heap := { granted := 2 ^ 20, bounded := by decide }

end AuthBoundry
