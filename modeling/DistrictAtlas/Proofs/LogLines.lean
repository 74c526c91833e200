import DistrictAtlas.Journal
import DistrictAtlas.Proofs.Entries
import DistrictAtlas.Proofs.Json.Parts
import DistrictAtlas.Proofs.Text.Joining

/-!
# The lines of a log

The line of an event is one line, whatever texts the event carries from outside: what would end it or
begin another is written by escapes. Read as a document the line gives the fields of the event, each
with the value that was logged. No text is taken for a part of the notation, or for a pattern to be
filled in.
-/

namespace DistrictAtlas

namespace Json

variable {depth : Nat}

/-- A field of a record on one line. -/
def fieldText (field : String × Scalar) : String :=
  quoted field.1 ++ ": " ++ scalarText field.2

/-- The characters of fields on one line, before others. -/
def fieldChars (fields : List (String × Scalar)) (rest : List Char) : List Char :=
  (", ".intercalate (fields.map fieldText)).toList ++ rest

/-- The fields of a record as entries of a document. -/
def fieldEntries (fields : List (String × Scalar)) : List (Scalar × Value) :=
  fields.map fun field => (.text field.1, .scalar field.2)

/-- One field stands behind its key. -/
theorem fieldChars_singleton (key : String) (value : Scalar) (rest : List Char) :
    fieldChars [(key, value)] rest = keyChars key ((scalarText value).toList ++ rest) := by
  simp [fieldChars, fieldText, keyChars]

/-- A comma and a blank stand between fields. -/
theorem fieldChars_cons (key : String) (value : Scalar) (next : String × Scalar)
    (fields : List (String × Scalar)) (rest : List Char) :
    fieldChars ((key, value) :: next :: fields) rest =
      keyChars key ((scalarText value).toList ++
        ',' :: ([' '] ++ fieldChars (next :: fields) rest)) := by
  simp [fieldChars, fieldText, keyChars, String.intercalate_cons_cons]

/-- A value starts with the key of the first field, as it would start with any text. -/
theorem startsValue_fieldChars (field : String × Scalar) (fields : List (String × Scalar))
    (rest : List Char) : StartsValue (fieldChars (field :: fields) rest) := by
  cases fields with
  | nil =>
    rw [fieldChars_singleton]
    exact startsValue_keyChars _ _
  | cons next fields =>
    rw [fieldChars_cons]
    exact startsValue_keyChars _ _

/-- There are no more fields than characters. -/
theorem length_le_fieldChars (fields : List (String × Scalar)) (rest : List Char) :
    fields.length ≤ (fieldChars fields rest).length := by
  induction fields with
  | nil => exact Nat.zero_le _
  | cons field fields ih =>
    obtain ⟨key, value⟩ := field
    cases fields with
    | nil =>
      rw [fieldChars_singleton, keyChars, List.length_singleton, List.length_append, List.length_cons]
      omega
    | cons next fields =>
      rw [fieldChars_cons, keyChars]
      simp only [List.length_append, List.length_cons] at ih ⊢
      omega

/-- Fields with different keys are read one after the other, behind the entries before them. -/
theorem readEntries_fieldChars {fields : List (String × Scalar)} (hne : fields ≠ [])
    (hplain : ∀ field ∈ fields, field.2.IsPlain) (rest : List Char) {fuel : Nat}
    (hfuel : fields.length < fuel) {done : List (Scalar × Value)}
    (hdone : Entries.Distinct (done ++ fieldEntries fields)) :
    readEntries fuel depth done (fieldChars fields ('\x7d' :: rest)) =
      .ok (.mapping (done ++ fieldEntries fields), rest) := by
  induction fields generalizing fuel done with
  | nil => exact absurd rfl hne
  | cons field fields ih =>
    obtain ⟨key, value⟩ := field
    obtain ⟨hvalue, hothers⟩ := List.forall_mem_cons.mp hplain
    have hput : Entries.put (.text key) (.scalar value) done = done ++ [(.text key, .scalar value)] :=
      hdone.put_append
    obtain ⟨fuel, rfl⟩ : ∃ less, fuel = less + 2 :=
      Nat.exists_eq_add_of_le' (by rw [List.length_cons] at hfuel; omega)
    cases fields with
    | nil =>
      have hread := readValue_scalarText hvalue (endsNumber_brace rest) fuel depth
      have hlast := readEntries_last done key (startsValue_scalarText hvalue _) isGap_nil hread
      rw [fieldChars_singleton, hlast, hput]
      rfl
    | cons next fields =>
      have hrest : Entries.Distinct ((done ++ [(.text key, .scalar value)]) ++
          fieldEntries (next :: fields)) := by
        rwa [List.append_assoc]
      have hmore := ih (List.cons_ne_nil _ _) hothers (Nat.lt_of_succ_lt_succ hfuel) hrest
      have hread := readValue_scalarText hvalue
        (endsNumber_comma ([' '] ++ fieldChars (next :: fields) ('\x7d' :: rest))) fuel depth
      have hnext := readEntries_next done key (startsValue_scalarText hvalue _) isGap_blank
        (startsValue_fieldChars next fields _) hread
      rw [fieldChars_cons, hnext, hput, hmore, List.append_assoc]
      rfl

/-- The characters of a record on one line. -/
theorem toList_line (fields : List (String × Scalar)) :
    (line fields).toList = '\x7b' :: ([] ++ fieldChars fields ['\x7d']) := by
  have hopen : "\x7b".toList = ['\x7b'] := rfl
  have hclose : "\x7d".toList = ['\x7d'] := rfl
  rw [line, String.toList_append, String.toList_append, hopen, hclose]
  rfl

/-- A record of fields with different keys is read as a document, however deep it may be nested. -/
theorem readDocument_fieldChars {fields : List (String × Scalar)} (hne : fields ≠ [])
    (hplain : ∀ field ∈ fields, field.2.IsPlain)
    (hdistinct : Entries.Distinct (fieldEntries fields)) (depth : Nat) :
    readDocument (depth + 1) ('\x7b' :: ([] ++ fieldChars fields ['\x7d'])) =
      .ok (.mapping (fieldEntries fields)) := by
  obtain ⟨first, others, rfl⟩ := List.exists_cons_of_ne_nil hne
  have hfew := length_le_fieldChars (first :: others) ['\x7d']
  have hstart := startsValue_fieldChars first others ['\x7d']
  refine readDocument_of_readValue ⟨'\x7b', rfl, Or.inl (by decide)⟩ isGap_nil ?_
  rw [readValue_mapping isGap_nil hstart]
  refine readEntries_fieldChars hne hplain [] ?_ hdistinct
  simp only [List.nil_append, List.length_cons] at hfew ⊢
  omega

/-- A record of fields with different keys is read back from its line. -/
theorem read_line {fields : List (String × Scalar)} (hne : fields ≠ [])
    (hplain : ∀ field ∈ fields, field.2.IsPlain)
    (hdistinct : Entries.Distinct (fieldEntries fields)) :
    read (line fields) = .ok (.mapping (fieldEntries fields)) := by
  have hchars := toList_line fields
  have hlength : (line fields).length = (fieldChars fields ['\x7d']).length + 1 := by
    rw [← String.length_toList, hchars]
    rfl
  rw [read, readWithin, hlength, hchars, readDocument_fieldChars hne hplain hdistinct]
  rfl

/-- No control character stands in a field with a plain value. -/
theorem le_toNat_of_mem_fieldText {field : String × Scalar} (hplain : field.2.IsPlain) {c : Char}
    (h : c ∈ (fieldText field).toList) : 0x20 ≤ c.toNat := by
  have hcolon : ∀ c ∈ ": ".toList, 0x20 ≤ c.toNat := by simp
  rw [fieldText, String.toList_append, String.toList_append, List.mem_append, List.mem_append] at h
  rcases h with (hkey | hmark) | hvalue
  · exact le_toNat_of_mem_quoted hkey
  · exact hcolon c hmark
  · exact le_toNat_of_mem_scalarText hplain hvalue

/-- No control character stands in the line of a record of plain fields. -/
theorem le_toNat_of_mem_line {fields : List (String × Scalar)}
    (hplain : ∀ field ∈ fields, field.2.IsPlain) {c : Char} (h : c ∈ (line fields).toList) :
    0x20 ≤ c.toNat := by
  have hmarks : ∀ c ∈ ['\x7b', '\x7d', ',', ' '], 0x20 ≤ c.toNat := by simp
  rw [toList_line, List.nil_append, fieldChars, List.mem_cons, List.mem_append,
    List.mem_singleton] at h
  rcases h with rfl | hinside | rfl
  · exact hmarks _ (by decide)
  · rcases Text.mem_intercalate hinside with hcomma | ⟨text, htext, hc⟩
    · exact hmarks c (List.mem_of_mem_drop (i := 2) hcomma)
    · obtain ⟨field, hfield, rfl⟩ := List.mem_map.mp htext
      exact le_toNat_of_mem_fieldText (hplain field hfield) hc
  · exact hmarks _ (by decide)

end Json

namespace Event

/-- A number that is logged is plain if it has no more digits than are written. -/
theorem isPlain_countField {count : Option Int}
    (h : ∀ n ∈ count, (Digits.ofNat n.natAbs).length ≤ Digits.limit) :
    (countField count).IsPlain := by
  cases count with
  | none => trivial
  | some n => exact h n rfl

/-- A text that is logged is plain. -/
theorem isPlain_textField (text : Option String) : (textField text).IsPlain := by
  cases text <;> trivial

/-- The fields of an event are plain if none of its numbers has more digits than are written. -/
theorem isPlain_fields (stamp : String) {event : Event}
    (h : ∀ count ∈ [event.row, event.rowsIn, event.rowsOut], ∀ n ∈ count,
      (Digits.ofNat n.natAbs).length ≤ Digits.limit) :
    ∀ field ∈ event.fields stamp, field.2.IsPlain := by
  simp only [List.forall_mem_cons] at h
  obtain ⟨hrow, hin, hout, -⟩ := h
  simp only [fields, List.forall_mem_cons]
  exact ⟨trivial, trivial, isPlain_textField _, isPlain_textField _, isPlain_countField hrow,
    isPlain_textField _, isPlain_textField _, isPlain_countField hin, isPlain_countField hout,
    isPlain_textField _, trivial, nofun⟩

/-- The names of the fields of every event. -/
def fieldNames : List String :=
  ["timestamp", "level", "stage", "territory", "row", "event", "status", "rows_in", "rows_out",
    "error_code", "message"]

/-- The fields of an event have different keys. -/
theorem distinct_fields (stamp : String) (event : Event) :
    Entries.Distinct (Json.fieldEntries (event.fields stamp)) := by
  have hnames : (Json.fieldEntries (event.fields stamp)).map Prod.fst = fieldNames.map .text := rfl
  have hkeys : (fieldNames.map Scalar.text).Pairwise fun name later => (name == later) = false := by
    decide
  rw [← hnames, List.pairwise_map] at hkeys
  exact hkeys

/-- The value of a text that may be absent. -/
theorem scalar_textField (text : Option String) :
    Value.scalar (textField text) = text.elim .null .text := by
  cases text <;> rfl

/-- The value of a number that may be absent. -/
theorem scalar_countField (count : Option Int) :
    Value.scalar (countField count) = count.elim .null .int := by
  cases count <;> rfl

/-- The line of an event is one line without control characters, and it says what was logged and no
more: as a document it is the mapping with the fields of a log, each with the value that the event has
for it, or null where the event has none. This holds for all texts and for all numbers that do not have
more digits than are written. -/
theorem line_faithful (stamp : String) (event : Event)
    (h : ∀ count ∈ [event.row, event.rowsIn, event.rowsOut], ∀ n ∈ count,
      (Digits.ofNat n.natAbs).length ≤ Digits.limit) :
    (∀ c ∈ (event.line stamp).toList, 0x20 ≤ c.toNat) ∧
      Json.read (event.line stamp) = .ok (.record
        [("timestamp", .text stamp), ("level", .text event.level.name),
         ("stage", event.stage.elim .null .text), ("territory", event.territory.elim .null .text),
         ("row", event.row.elim .null .int), ("event", event.name.elim .null .text),
         ("status", event.status.elim .null .text), ("rows_in", event.rowsIn.elim .null .int),
         ("rows_out", event.rowsOut.elim .null .int),
         ("error_code", event.errorCode.elim .null .text), ("message", .text event.message)]) := by
  have hplain := isPlain_fields stamp h
  have hread := Json.read_line (List.cons_ne_nil _ _) hplain (distinct_fields stamp event)
  refine ⟨fun c hc => Json.le_toNat_of_mem_line hplain hc, hread.trans ?_⟩
  simp only [Json.fieldEntries, Value.record, List.map_cons, List.map_nil, scalar_textField,
    scalar_countField]

/-- An event whose texts would end the line, close the record, forge a field or be filled in. -/
def hostileEvent : Event where
  level := .warning
  stage := some "compile\r\n"
  territory := some "T1\"\x7d\n\x7b\"level\": \"INFO\""
  row := some (-3)
  name := some "ROW_SKIPPED\\"
  status := some "%s %d \x7b0\x7d"
  rowsIn := some 12
  errorCode := some "\u0000\u001f\u007f\u2028"
  message := "\", \"message\": \"\u0008\t %(name)s"

/-- What was logged of such an event is read from its line. -/
theorem line_hostileEvent_faithful :
    (∀ count ∈ [hostileEvent.row, hostileEvent.rowsIn, hostileEvent.rowsOut], ∀ n ∈ count,
      (Digits.ofNat n.natAbs).length ≤ Digits.limit) ∧
    (∀ c ∈ (hostileEvent.line "now").toList, 0x20 ≤ c.toNat) ∧
      Json.read (hostileEvent.line "now") = .ok (.record
        [("timestamp", .text "now"), ("level", .text "WARNING"), ("stage", .text "compile\r\n"),
         ("territory", .text "T1\"\x7d\n\x7b\"level\": \"INFO\""), ("row", .int (-3)),
         ("event", .text "ROW_SKIPPED\\"), ("status", .text "%s %d \x7b0\x7d"),
         ("rows_in", .int 12), ("rows_out", .null),
         ("error_code", .text "\u0000\u001f\u007f\u2028"),
         ("message", .text "\", \"message\": \"\u0008\t %(name)s")]) := by
  have hshort : ∀ count ∈ [hostileEvent.row, hostileEvent.rowsIn, hostileEvent.rowsOut],
      ∀ n ∈ count, (Digits.ofNat n.natAbs).length ≤ Digits.limit := by
    decide
  exact ⟨hshort, line_faithful "now" hostileEvent hshort⟩

end Event

end DistrictAtlas
