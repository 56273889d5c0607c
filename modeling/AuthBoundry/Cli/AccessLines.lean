import AuthBoundry.Cli.RestoredAccounts
import AuthBoundry.Cli.RouteAccess

/-!
# The lines of the access file

An entry is one line of the file, and a member of a line is found by a search
for its name.  Where no text of an entry has a character that is escaped, the
file is read as it was written.
-/

namespace AuthBoundry.Studio

open Library

open scoped Listed

/-- No text of the entry has a character that is escaped. -/
structure Unescaped (entry : RouteAccess) : Prop where
  method : Spared escapes entry.method
  path : Spared escapes entry.path
  access : Spared escapes entry.access

/-! ## The members of a line -/

section Members

variable {name rest : List Char}

/-- What a longer pattern is found by. -/
theorem afterEach_append_pattern (first second text : List Char) :
    afterEach (first ++ second) text =
      (afterEach first text).filterMap (·.dropPrefix? second) := by
  have longer : ∀ first text : List Char,
      text.dropPrefix? (first ++ second) =
        (text.dropPrefix? first).bind (·.dropPrefix? second) := by
    intro first
    induction first with
    | nil => simp
    | cons character first induction =>
        intro text
        cases text with
        | nil => simp [List.dropPrefix?]
        | cons other text =>
            by_cases same : other = character
            · simp [List.dropPrefix?, same, induction]
            · simp [List.dropPrefix?, same]
  unfold afterEach
  rw [List.filterMap_filterMap]
  simp only [longer]

theorem toList_tightMember (key value : String) :
    (tightMember key value).toList ++ rest =
      '"' :: (key.toList ++
        '"' :: (':' :: '"' :: (value.toList ++ '"' :: rest))) := by
  simp [tightMember]

theorem afterEach_tightMember {key value : String} (lettered : Lettered name)
    (named : name ≠ []) (keyQuoteless : '"' ∉ key.toList)
    (valueQuoteless : '"' ∉ value.toList) (follows : Ends rest) :
    afterEach (fieldPattern name) ((tightMember key value).toList ++ rest) =
      (if key.toList = name then
          ['"' :: (value.toList ++ '"' :: rest)] else []) ++
        afterEach (fieldPattern name) rest := by
  have apart : ∀ first ∈ rest.head?, first ∉ name := fun first member =>
    lettered.not_mem (follows first member).1
  have other : rest.head? ≠ some ':' := fun same =>
    (follows ':' same).2 rfl
  have colon : ∀ {more : List Char}, ∀ first ∈ (':' :: more).head?,
      first ∉ name := by
    intro more first member
    cases member
    exact lettered.not_mem (by decide)
  have skipped := afterEach_quotation lettered named valueQuoteless apart
  rw [dropPrefix?_colon other] at skipped
  have quotes : '"' ∉ [':'] := by decide
  have between : afterEach (fieldPattern name)
      ([':'] ++ '"' :: (value.toList ++ '"' :: rest)) =
        afterEach (fieldPattern name) rest := by
    rw [fieldPattern, afterEach_append_of_absent quotes, ← fieldPattern,
      skipped]
    simp
  rw [List.singleton_append] at between
  rw [toList_tightMember, afterEach_quotation lettered named keyQuoteless colon,
    between]
  by_cases same : key.toList = name
  · simp [same, List.dropPrefix?]
  · simp [same]

end Members

/-! ## An entry -/

/-- An entry as one line, before a comma or the end. -/
def RouteAccess.line (self : RouteAccess) (finish : List Char) : List Char :=
  [' ', ' ', ' ', ' ', '\x7b'] ++
    ((tightMember "method" self.method).toList ++
      (',' :: ((tightMember "path" self.path).toList ++
        (',' :: ((tightMember "access" self.access).toList ++
          '\x7d' :: finish)))))

section Entries

variable {entry : RouteAccess} {finish : List Char}

theorem Unescaped.toList_text (unescaped : Unescaped entry) :
    entry.text.toList ++ finish = entry.line finish := by
  have covers : escapes ⊆ escapes := List.Subset.refl _
  unfold RouteAccess.text RouteAccess.line
  rw [jsonEscape_eq_self unescaped.method covers,
    jsonEscape_eq_self unescaped.path covers,
    jsonEscape_eq_self unescaped.access covers]
  simp

theorem jsonLineField_of_head {line : List Char} {field value : String}
    {rest : List Char} (quoteless : '"' ∉ value.toList)
    (found : (afterEach (fieldPattern field.toList) line) =
      ['"' :: (value.toList ++ '"' :: rest)]) :
    jsonLineField (String.ofList line) field = some value := by
  have opened : ('"' :: (value.toList ++ '"' :: rest)).dropPrefix? ['"'] =
      some (value.toList ++ '"' :: rest) := by
    simp [List.dropPrefix?]
  have marker : afterEach (fieldPattern field.toList ++ ['"']) line =
      [value.toList ++ '"' :: rest] := by
    rw [afterEach_append_pattern, found, List.filterMap_cons, opened]
    rfl
  unfold jsonLineField
  rw [String.toList_ofList, marker]
  simp only [List.head?_cons, Option.bind_eq_bind, Option.bind_some,
    splitOnce_ofList quoteless, String.ofList_toList]
  rfl

theorem afterEach_line (unescaped : Unescaped entry)
    (plain : '"' ∉ finish) {name : List Char} (lettered : Lettered name)
    (named : name ≠ []) :
    afterEach (fieldPattern name) (entry.line finish) =
      (if "method".toList = name then
          ['"' :: (entry.method.toList ++ '"' :: ',' ::
            ((tightMember "path" entry.path).toList ++ ',' ::
              ((tightMember "access" entry.access).toList ++
                '\x7d' :: finish)))] else []) ++
        ((if "path".toList = name then
            ['"' :: (entry.path.toList ++ '"' :: ',' ::
              ((tightMember "access" entry.access).toList ++
                '\x7d' :: finish))] else []) ++
          if "access".toList = name then
            ['"' :: (entry.access.toList ++ '"' :: '\x7d' :: finish)]
          else []) := by
  have quoteless : ∀ {text : String}, Spared escapes text →
      '"' ∉ text.toList := fun spared => spared.not_mem (by decide)
  have comma : ∀ more : List Char, Ends (',' :: more) :=
    fun more => .cons (by decide) more
  have brace : Ends ('\x7d' :: finish) := .cons (by decide) finish
  have opening : ∀ text : List Char, afterEach (fieldPattern name)
      ([' ', ' ', ' ', ' ', '\x7b'] ++ text) =
        afterEach (fieldPattern name) text :=
    fun text => afterEach_append_of_absent (by decide)
  have between : ∀ text : List Char, afterEach (fieldPattern name)
      (',' :: text) = afterEach (fieldPattern name) text :=
    fun text => afterEach_cons_of_ne (by decide)
  have finished : afterEach (fieldPattern name) ('\x7d' :: finish) = [] := by
    have absent : '"' ∉ '\x7d' :: finish := by
      rw [List.mem_cons, not_or]
      exact ⟨by decide, plain⟩
    have nothing := @afterEach_append_of_absent _ _ _ _ (name ++ ['"', ':'])
      ('\x7d' :: finish) [] absent
    rw [List.append_nil] at nothing
    exact nothing
  unfold RouteAccess.line
  rw [opening,
    afterEach_tightMember lettered named (by decide)
      (quoteless unescaped.method) (comma _),
    between,
    afterEach_tightMember lettered named (by decide)
      (quoteless unescaped.path) (comma _),
    between,
    afterEach_tightMember lettered named (by decide)
      (quoteless unescaped.access) brace,
    finished, List.append_nil]

theorem readEntry_line (unescaped : Unescaped entry)
    (plain : '"' ∉ finish) :
    readEntry (String.ofList (entry.line finish)) = some entry := by
  have quoteless : ∀ {text : String}, Spared escapes text →
      '"' ∉ text.toList := fun spared => spared.not_mem (by decide)
  have method : jsonLineField (String.ofList (entry.line finish)) "method" =
      some entry.method := by
    apply jsonLineField_of_head (quoteless unescaped.method)
    rw [afterEach_line unescaped plain (by decide) (by decide), if_pos rfl,
      if_neg (by decide), if_neg (by decide), List.append_nil, List.append_nil]
  have path : jsonLineField (String.ofList (entry.line finish)) "path" =
      some entry.path := by
    apply jsonLineField_of_head (quoteless unescaped.path)
    rw [afterEach_line unescaped plain (by decide) (by decide),
      if_neg (by decide), if_pos rfl, if_neg (by decide), List.nil_append,
      List.append_nil]
  have access : jsonLineField (String.ofList (entry.line finish)) "access" =
      some entry.access := by
    apply jsonLineField_of_head (quoteless unescaped.access)
    rw [afterEach_line unescaped plain (by decide) (by decide),
      if_neg (by decide), if_neg (by decide), if_pos rfl, List.nil_append,
      List.nil_append]
  unfold readEntry
  rw [method, path, access]
  rfl

theorem containsText_line :
    containsText "\"method\"" (String.ofList (entry.line finish)) = true := by
  rw [containsText_iff, String.toList_ofList]
  refine ⟨[' ', ' ', ' ', ' ', '\x7b'], ?_⟩
  unfold RouteAccess.line
  rw [toList_tightMember]
  exact ⟨_, by simp; rfl⟩

/-- No line ends before the brace. -/
theorem line_unbroken (unescaped : Unescaped entry) (plain : '\n' ∉ finish) :
    '\n' ∉ entry.line finish := by
  have unbroken : ∀ {text : String}, Spared escapes text →
      '\n' ∉ text.toList := fun spared => spared.not_mem (by decide)
  simp [RouteAccess.line, tightMember, unbroken unescaped.method,
    unbroken unescaped.path, unbroken unescaped.access, plain]

theorem withoutReturn_eq_self {line : List Char}
    (unfinished : line.getLast? ≠ some '\r') : withoutReturn line = line :=
  if_neg unfinished

theorem withoutReturn_line (plain : finish.getLast? ≠ some '\r') :
    withoutReturn (entry.line finish) = entry.line finish := by
  apply withoutReturn_eq_self
  obtain ⟨start, whole⟩ : ∃ start,
      entry.line finish = start ++ '\x7d' :: finish :=
    ⟨[' ', ' ', ' ', ' ', '\x7b'] ++
      (tightMember "method" entry.method).toList ++ [','] ++
      (tightMember "path" entry.path).toList ++ [','] ++
      (tightMember "access" entry.access).toList, by
        simp [RouteAccess.line]⟩
  have last : (entry.line finish).getLast? = ('\x7d' :: finish).getLast? := by
    rw [whole]
    exact List.getLast?_append_of_ne_nil _ (List.cons_ne_nil _ _)
  rw [last]
  cases finish with
  | nil => decide
  | cons first finish => exact plain

end Entries

/-! ## The file -/

/-- The lines of the entries.  Without entries there is an empty one. -/
def entryLines : List RouteAccess → List (List Char)
  | [] => [[]]
  | [entry] => [entry.line []]
  | entry :: entries => entry.line [','] :: entryLines entries

section Files

variable {entries : List RouteAccess}

theorem splitOn_entries (unescaped : ∀ entry ∈ entries, Unescaped entry)
    (more : List Char) :
    ((",\n".intercalate (entries.map RouteAccess.text)).toList ++
        '\n' :: more).splitOn '\n' =
      entryLines entries ++ more.splitOn '\n' := by
  induction entries with
  | nil =>
      exact List.splitOn_append_cons_self_of_not_mem List.not_mem_nil more
  | cons entry entries induction =>
      rw [List.forall_mem_cons] at unescaped
      cases entries with
      | nil =>
          have whole : entry.text.toList ++ [] = entry.line [] :=
            unescaped.1.toList_text
          rw [List.append_nil] at whole
          rw [List.map_singleton, String.intercalate_singleton, whole]
          exact List.splitOn_append_cons_self_of_not_mem
            (line_unbroken unescaped.1 List.not_mem_nil) more
      | cons next entries =>
          have later := induction unescaped.2
          have whole : (",\n".intercalate
              ((entry :: next :: entries).map RouteAccess.text)).toList ++
                '\n' :: more =
              entry.line [','] ++ '\n' ::
                ((",\n".intercalate
                  ((next :: entries).map RouteAccess.text)).toList ++
                    '\n' :: more) := by
            rw [← unescaped.1.toList_text, List.map_cons, List.map_cons,
              String.intercalate_cons_cons]
            simp
          rw [whole, List.splitOn_append_cons_self_of_not_mem
            (line_unbroken unescaped.1 (by decide)), later]
          rfl

theorem withoutReturn_entryLines (entries : List RouteAccess) :
    (entryLines entries).map withoutReturn = entryLines entries := by
  induction entries with
  | nil => rfl
  | cons entry entries induction =>
      cases entries with
      | nil =>
          have only : withoutReturn (entry.line []) = entry.line [] :=
            withoutReturn_line (by decide)
          rw [entryLines, List.map_singleton, only]
      | cons next entries =>
          have first : withoutReturn (entry.line [',']) = entry.line [','] :=
            withoutReturn_line (by decide)
          rw [entryLines, List.map_cons, first, induction]
          exact List.cons_ne_nil next entries

theorem readEntries_lines (unescaped : ∀ entry ∈ entries, Unescaped entry) :
    (((entryLines entries).map String.ofList).filter
        (containsText "\"method\"")).filterMap readEntry = entries := by
  induction entries with
  | nil => decide
  | cons entry entries induction =>
      rw [List.forall_mem_cons] at unescaped
      cases entries with
      | nil =>
          have read : readEntry (String.ofList (entry.line [])) =
              some entry := readEntry_line unescaped.1 List.not_mem_nil
          simp [entryLines, containsText_line, read]
      | cons next entries =>
          have read : readEntry (String.ofList (entry.line [','])) =
              some entry := readEntry_line unescaped.1 (by decide)
          have later := induction unescaped.2
          rw [entryLines, List.map_cons,
            List.filter_cons_of_pos containsText_line, List.filterMap_cons,
            read, later]
          exact List.cons_ne_nil next entries

/-- The file is read as it was written. -/
theorem routeAccess_accessText
    (unescaped : ∀ entry ∈ entries, Unescaped entry) :
    routeAccess (some (accessText entries)) = entries := by
  have unbroken : ∀ line ∈ [['\x7b'], "  \"routes\": [".toList, "  ]".toList,
      ['\x7d']], '\n' ∉ line := by decide
  have whole : (accessText entries).toList =
      ['\x7b'] ++ '\n' :: ("  \"routes\": [".toList ++ '\n' ::
        ((",\n".intercalate (entries.map RouteAccess.text)).toList ++
          '\n' :: ("  ]".toList ++ '\n' :: (['\x7d'] ++ '\n' :: [])))) := by
    have opening : "\x7b\n  \"routes\": [\n".toList =
        ['\x7b'] ++ '\n' :: ("  \"routes\": [".toList ++ ['\n']) := by decide
    have closing : "\n  ]\n\x7d\n".toList =
        '\n' :: ("  ]".toList ++ ['\n', '\x7d', '\n']) := by decide
    unfold accessText
    rw [String.toList_append, String.toList_append, opening, closing]
    simp only [List.append_assoc, List.cons_append, List.nil_append]
  have parts : (accessText entries).toList.splitOn '\n' =
      [['\x7b'], "  \"routes\": [".toList] ++ (entryLines entries ++
        ["  ]".toList, ['\x7d'], []]) := by
    rw [whole,
      List.splitOn_append_cons_self_of_not_mem (unbroken _ (by simp)),
      List.splitOn_append_cons_self_of_not_mem (unbroken _ (by simp)),
      splitOn_entries unescaped,
      List.splitOn_append_cons_self_of_not_mem (unbroken _ (by simp)),
      List.splitOn_append_cons_self_of_not_mem (unbroken _ (by simp))]
    rfl
  have lines : textLines (accessText entries) =
      ["\x7b", "  \"routes\": ["] ++
        ((entryLines entries).map String.ofList ++ ["  ]", "\x7d"]) := by
    unfold textLines
    rw [parts]
    have ended : ([['\x7b'], "  \"routes\": [".toList] ++
        (entryLines entries ++ ["  ]".toList, ['\x7d'], []])) =
          ([['\x7b'], "  \"routes\": [".toList] ++
            (entryLines entries ++ ["  ]".toList, ['\x7d']])) ++ [[]] := by
      simp
    have opening : ([['\x7b'], "  \"routes\": [".toList] :
        List (List Char)).map withoutReturn =
          [['\x7b'], "  \"routes\": [".toList] := by decide
    have closing : (["  ]".toList, ['\x7d']] : List (List Char)).map
        withoutReturn = ["  ]".toList, ['\x7d']] := by decide
    have kept : ([['\x7b'], "  \"routes\": [".toList] ++
        (entryLines entries ++ ["  ]".toList, ['\x7d']])).map withoutReturn =
          [['\x7b'], "  \"routes\": [".toList] ++
            (entryLines entries ++ ["  ]".toList, ['\x7d']]) := by
      rw [List.map_append, List.map_append, withoutReturn_entryLines, opening,
        closing]
    dsimp only
    rw [ended, List.dropLast_concat, List.getLast?_concat, kept]
    simp
  have head : ["\x7b", "  \"routes\": ["].filter
      (containsText "\"method\"") = [] := by decide
  have finish : ["  ]", "\x7d"].filter (containsText "\"method\"") = [] := by
    decide
  unfold routeAccess
  dsimp only
  rw [lines, List.filter_append, List.filter_append, List.filterMap_append,
    List.filterMap_append, readEntries_lines unescaped, head, finish]
  simp

end Files

end AuthBoundry.Studio
