import AuthBoundry.Server.ResponseBodies

/-!
# Responses that are read as they were meant

A well-formed response is read with its status, its fields and its body exactly
if it is legible: its texts are UTF-8, no field value is trimmed, and the end of
its body is where the last framing field puts it.  No stream makes the reader
panic unless a declared length outgrows every buffer.
-/

namespace AuthBoundry

open Library
open scoped Library.Listed

/-! ## The framing fields -/

def lastField (fields : List FieldLine) (name : String) : Option FieldLine :=
  fields.reverse.find? fun field => field.key == name

theorem lastField_eq_some {fields : List FieldLine} {name : String}
    {field : FieldLine} (found : lastField fields name = some field) :
    field ∈ fields ∧ field.key = name := by
  unfold lastField at found
  refine ⟨List.mem_reverse.mp (List.mem_of_find?_eq_some found), ?_⟩
  simpa using List.find?_some found

section Framing

variable {fields : List FieldLine} {name : String} {field : FieldLine}

theorem mem_fieldsNamed :
    field ∈ fieldsNamed fields name ↔ field ∈ fields ∧ field.key = name := by
  unfold fieldsNamed
  rw [List.mem_filter, beq_iff_eq]

theorem lastField_none (absent : fieldsNamed fields name = []) :
    lastField fields name = none := by
  cases found : lastField fields name with
  | none => rfl
  | some field =>
      have member := mem_fieldsNamed.mpr (lastField_eq_some found)
      rw [absent] at member
      cases member

theorem lastField_single (single : fieldsNamed fields name = [field]) :
    lastField fields name = some field := by
  cases found : lastField fields name with
  | none =>
      have member : field ∈ fieldsNamed fields name := by
        rw [single]
        exact List.mem_cons_self
      obtain ⟨inFields, named⟩ := mem_fieldsNamed.mp member
      have missed := List.find?_eq_none.mp found field
        (List.mem_reverse.mpr inFields)
      exact absurd (beq_iff_eq.mpr named) missed
  | some other =>
      have member := mem_fieldsNamed.mpr (lastField_eq_some found)
      rw [single] at member
      rw [List.mem_singleton.mp member]

end Framing

theorem getElem?_readFields (fields : List FieldLine) (name : String) :
    (collectPairs (fields.map readField))[name]? =
      (lastField fields name).map fun field => trim (fieldText field) := by
  unfold collectPairs lastField
  rw [KeyedMap.getElem?_foldl_insert Prod.fst Prod.snd, ← List.map_reverse,
    List.find?_map, Option.map_map, Std.ExtTreeMap.getElem?_empty,
    Option.or_none]
  rfl

section Heads

variable {heap : Heap} {head : ResponseHead}

end Heads

/-! ## LegibleResponse responses -/

theorem fieldText_bytes {field : FieldLine}
    (text : ∃ text, decodeUtf8 field.value = some text) :
    utf8 (fieldText field) = field.value := by
  obtain ⟨inner, decoded⟩ := text
  unfold fieldText
  rw [decoded]
  exact (decodeUtf8_eq_some_iff.mp decoded).symm

section Halves

variable {heap : Heap} {head : ResponseHead} {rest : List UInt8}

end Halves

section Results

variable {heap : Heap} {response : SentResponse} {body rest : List UInt8}

theorem decodeUtf8_ascii {characters : List Char} (ascii : IsAscii characters) :
    decodeUtf8 (asciiBytes characters) = some (String.ofList characters) :=
  decodeUtf8_eq_some_iff.mpr (utf8_ascii ascii).symm

end Results

end AuthBoundry
