/-
  Deskhand.Proofs.Csv

  Reading tables back.

  A reader of tables goes through the text character by character and knows where it stands: at the
  start of a record or of a field, in a plain field, in a quoted one, or behind a quote in a quoted
  field. It passes over empty lines and takes everything else as it comes, so every text is some
  table. A written field leaves the reader where the delimiter ends the field and the line feed ends
  the record; the exception, an empty field that is alone in its record, is why such a field is
  quoted. All this needs a delimiter that is neither the quote nor the line feed.
-/

import Deskhand.Csv

namespace Deskhand.Csv

/-! ## The reader -/

/-- Where the reader stands. -/
inductive Place where
  | recordStart
  | fieldStart
  | plain
  | quoted
  | afterQuote
  deriving DecidableEq

/-- What has been read: the characters of the field, the fields of the record before it, and the
records before that. -/
structure Reading where
  place : Place
  field : List Char
  record : List String
  rows : List (List String)

namespace Reading

/-- The field is complete. -/
def endField (r : Reading) : Reading :=
  ⟨.fieldStart, [], r.record ++ [String.ofList r.field], r.rows⟩

/-- The field and the record are complete. -/
def endRecord (r : Reading) : Reading :=
  ⟨.recordStart, [], [], r.rows ++ [r.record ++ [String.ofList r.field]]⟩

/-- The field goes on with a character. -/
def push (r : Reading) (place : Place) (c : Char) : Reading :=
  { r with place := place, field := r.field ++ [c] }

/-- A character outside quotes. -/
def stepPlain (delimiter : Char) (r : Reading) (c : Char) : Reading :=
  if c = delimiter then r.endField
  else if c = '\n' then r.endRecord
  else r.push .plain c

/-- A character of the text. Two quotes in a quoted field stand for one. -/
def step (delimiter : Char) (r : Reading) (c : Char) : Reading :=
  match r.place with
  | .recordStart =>
    if c = '\n' then r
    else if c = '"' then { r with place := .quoted }
    else r.stepPlain delimiter c
  | .fieldStart => if c = '"' then { r with place := .quoted } else r.stepPlain delimiter c
  | .plain => r.stepPlain delimiter c
  | .quoted => if c = '"' then { r with place := .afterQuote } else r.push .quoted c
  | .afterQuote => if c = '"' then r.push .quoted c else r.stepPlain delimiter c

/-- At the start of a record, behind some records. -/
def atRecord (rows : List (List String)) : Reading := ⟨.recordStart, [], [], rows⟩

/-- The records, the last one being complete where the text ends. -/
def finish (r : Reading) : List (List String) :=
  match r.place with
  | .recordStart => r.rows
  | _ => r.endRecord.rows

end Reading

/-- The table that a text holds. -/
def read (delimiter : Char) (s : List Char) : List (List String) :=
  (s.foldl (Reading.step delimiter) (.atRecord [])).finish

/-! ## Reading a field -/

section

variable {delimiter : Char}

/-- A place where a delimiter ends the field. -/
def Place.EndsField (place : Place) : Prop := place ≠ .quoted

/-- A place where a line feed ends the record. -/
def Place.EndsRecord (place : Place) : Prop := place ≠ .quoted ∧ place ≠ .recordStart

theorem step_delimiter (hquote : delimiter ≠ '"') (hfeed : delimiter ≠ '\n') {r : Reading}
    (h : r.place.EndsField) : r.step delimiter delimiter = r.endField := by
  obtain ⟨place, field, record, rows⟩ := r
  cases place with
  | quoted => exact absurd rfl h
  | recordStart | fieldStart | plain | afterQuote =>
    simp [Reading.step, Reading.stepPlain, hquote, hfeed]

theorem step_lineFeed (hfeed : delimiter ≠ '\n') {r : Reading} (h : r.place.EndsRecord) :
    r.step delimiter '\n' = r.endRecord := by
  obtain ⟨place, field, record, rows⟩ := r
  cases place with
  | quoted => exact absurd rfl h.1
  | recordStart => exact absurd rfl h.2
  | fieldStart | plain | afterQuote => simp [Reading.step, Reading.stepPlain, hfeed.symm]

/-- Characters that need no quotes go on with a plain field. -/
theorem foldl_step_plain {field : List Char} (h : ∀ c ∈ field, isSpecial delimiter c = false)
    (before : List Char) (record : List String) (rows : List (List String)) :
    field.foldl (Reading.step delimiter) ⟨.plain, before, record, rows⟩ =
      ⟨.plain, before ++ field, record, rows⟩ := by
  -- The characters go to the end of the field, so the induction is for any field before them.
  induction field generalizing before with
  | nil => rw [List.append_nil, List.foldl_nil]
  | cons c field ih =>
    have hc := h c List.mem_cons_self
    simp only [isSpecial, Bool.or_eq_false_iff, beq_eq_false_iff_ne] at hc
    have hstep : Reading.step delimiter ⟨.plain, before, record, rows⟩ c =
        ⟨.plain, before ++ [c], record, rows⟩ := by
      simp [Reading.step, Reading.stepPlain, Reading.push, hc]
    have hfield := ih (fun d hd => h d (List.mem_cons_of_mem c hd)) (before ++ [c])
    rw [List.foldl_cons, hstep, hfield, List.append_assoc, List.singleton_append]

/-- Doubled quotes are read as quotes, and the field stays quoted. -/
theorem foldl_step_quoted (field before : List Char) (record : List String)
    (rows : List (List String)) :
    (field.flatMap fun c => if c = '"' then ['"', '"'] else [c]).foldl (Reading.step delimiter)
        ⟨.quoted, before, record, rows⟩ =
      ⟨.quoted, before ++ field, record, rows⟩ := by
  induction field generalizing before with
  | nil => rw [List.append_nil, List.flatMap_nil, List.foldl_nil]
  | cons c field ih =>
    have hfield := ih (before ++ [c])
    rw [List.append_assoc, List.singleton_append] at hfield
    rw [List.flatMap_cons, List.foldl_append, ← hfield]
    -- A quote is written twice: the first one leaves the quoted part, the second one goes back.
    by_cases hc : c = '"' <;> simp [Reading.step, Reading.push, hc]

theorem foldl_step_quotedField {place : Place} (h : place = .fieldStart ∨ place = .recordStart)
    (field : List Char) (record : List String) (rows : List (List String)) :
    (quotedField field).foldl (Reading.step delimiter) ⟨place, [], record, rows⟩ =
      ⟨.afterQuote, field, record, rows⟩ := by
  have hopen : Reading.step delimiter ⟨place, [], record, rows⟩ '"' =
      ⟨.quoted, [], record, rows⟩ := by
    rcases h with rfl | rfl <;> simp [Reading.step]
  rw [quotedField, List.cons_append, List.foldl_cons, hopen, List.foldl_append, foldl_step_quoted]
  simp [Reading.step]

/-- A written field is read from the start of a field or of a record. Only an empty field leaves
the reader where it was. -/
theorem exists_foldl_step_writeField (delimiter : Char) {place : Place}
    (h : place = .fieldStart ∨ place = .recordStart) (field : List Char) (record : List String)
    (rows : List (List String)) :
    ∃ reached : Place, reached.EndsField ∧
      (place = .fieldStart ∨ field ≠ [] → reached.EndsRecord) ∧
      (writeField delimiter field).foldl (Reading.step delimiter) ⟨place, [], record, rows⟩ =
        ⟨reached, field, record, rows⟩ := by
  unfold writeField
  split
  -- Between quotes even an empty field takes steps, so the reader has left the start.
  · exact ⟨.afterQuote, nofun, fun _ => ⟨nofun, nofun⟩, foldl_step_quotedField h field record rows⟩
  · next hplain =>
    have hfield : ∀ c ∈ field, isSpecial delimiter c = false := by
      simpa using hplain
    cases field with
    | nil =>
      -- Nothing is written, so the reader stays; at the start of a record that is no field yet.
      rcases h with rfl | rfl
      · exact ⟨.fieldStart, nofun, fun _ => ⟨nofun, nofun⟩, rfl⟩
      · exact ⟨.recordStart, nofun, by simp, rfl⟩
    | cons c field =>
      have hc := hfield c List.mem_cons_self
      simp only [isSpecial, Bool.or_eq_false_iff, beq_eq_false_iff_ne] at hc
      have hstep : Reading.step delimiter ⟨place, [], record, rows⟩ c =
          ⟨.plain, [c], record, rows⟩ := by
        rcases h with rfl | rfl <;> simp [Reading.step, Reading.stepPlain, Reading.push, hc]
      refine ⟨.plain, nofun, fun _ => ⟨nofun, nofun⟩, ?_⟩
      rw [List.foldl_cons, hstep]
      exact foldl_step_plain (fun d hd => hfield d (List.mem_cons_of_mem c hd)) [c] record rows

/-! ## Reading a table -/

/-- The fields of a record with delimiters between them. -/
def joinFields (delimiter : Char) (fields : List String) : List Char :=
  List.intercalate [delimiter] (fields.map fun field => writeField delimiter field.toList)

/-- Joined fields and a line feed are read as a record. At the start of the record its first field
must not be the only one and empty. -/
theorem foldl_step_joinFields (hquote : delimiter ≠ '"') (hfeed : delimiter ≠ '\n') {place : Place}
    {fields : List String} (hfields : fields ≠ [])
    (h : place = .fieldStart ∨ place = .recordStart ∧ fields ≠ [""]) (record : List String)
    (rows : List (List String)) :
    (joinFields delimiter fields ++ ['\n']).foldl (Reading.step delimiter)
        ⟨place, [], record, rows⟩ = .atRecord (rows ++ [record ++ fields]) := by
  induction fields generalizing place record with
  | nil => exact absurd rfl hfields
  | cons first others ih =>
    have hplace : place = .fieldStart ∨ place = .recordStart := h.imp id And.left
    obtain ⟨reached, hends, hends', hfirst⟩ :=
      exists_foldl_step_writeField delimiter hplace first.toList record rows
    cases others with
    | nil =>
      -- The last field: the line feed ends it together with the record.
      have hrecord : place = .fieldStart ∨ first.toList ≠ [] := by
        refine h.imp id fun hstart hempty => hstart.2 ?_
        rw [← String.ofList_toList (s := first), hempty]
      have hend := step_lineFeed (r := ⟨reached, first.toList, record, rows⟩) hfeed
        (hends' hrecord)
      rw [List.foldl_append, joinFields, List.map_singleton, List.intercalate_singleton, hfirst,
        List.foldl_cons, hend]
      simp [Reading.endRecord, Reading.atRecord]
    | cons second others =>
      -- The delimiter ends this field, and behind it even an empty field counts as one.
      have hend := step_delimiter (r := ⟨reached, first.toList, record, rows⟩) hquote hfeed hends
      have hothers := ih (List.cons_ne_nil second others)
        (.inl (rfl : Place.fieldStart = .fieldStart)) (record ++ [first])
      have hsplit : joinFields delimiter (first :: second :: others) =
          writeField delimiter first.toList ++
            delimiter :: joinFields delimiter (second :: others) := by
        simp [joinFields, List.intercalate_cons_cons]
      rw [hsplit, List.append_assoc, List.foldl_append, hfirst, List.cons_append, List.foldl_cons,
        hend, Reading.endField, String.ofList_toList, hothers]
      simp

/-- A written record and its line feed are read as the record. -/
theorem foldl_step_writeRecord (hquote : delimiter ≠ '"') (hfeed : delimiter ≠ '\n')
    {row : List String} (hrow : row ≠ []) (rows : List (List String)) :
    (writeRecord delimiter row ++ ['\n']).foldl (Reading.step delimiter) (.atRecord rows) =
      .atRecord (rows ++ [row]) := by
  -- A field that is alone and empty is written as a pair of quotes, unlike every other record.
  by_cases hempty : row = [""]
  · subst hempty
    have hstep := step_lineFeed (r := ⟨.afterQuote, [], [], rows⟩) hfeed ⟨nofun, nofun⟩
    simpa [writeRecord, Reading.atRecord, Reading.step, Reading.endRecord] using hstep
  · have hwrite : writeRecord delimiter row = joinFields delimiter row := by
      unfold writeRecord
      split
      · exact absurd rfl hrow
      · exact absurd rfl hempty
      · rfl
    rw [hwrite]
    exact foldl_step_joinFields hquote hfeed hrow (.inr ⟨rfl, hempty⟩) [] rows

/-- A written table is read back. -/
theorem read_write (hquote : delimiter ≠ '"') (hfeed : delimiter ≠ '\n')
    {rows : List (List String)} (hrows : ∀ row ∈ rows, row ≠ []) :
    read delimiter (write delimiter rows) = rows := by
  -- Each record adds to those before it, so the induction is on the rows behind any others.
  have hfold : ∀ before, (write delimiter rows).foldl (Reading.step delimiter) (.atRecord before) =
      .atRecord (before ++ rows) := by
    induction rows with
    | nil =>
      intro before
      rw [List.append_nil]
      rfl
    | cons row rows ih =>
      intro before
      have hrow := foldl_step_writeRecord hquote hfeed (hrows row List.mem_cons_self) before
      have hothers := ih (fun other hother => hrows other (List.mem_cons_of_mem row hother))
        (before ++ [row])
      rw [write, List.flatMap_cons, List.foldl_append, hrow]
      rw [write] at hothers
      rw [hothers, List.append_assoc, List.singleton_append]
  rw [read, hfold]
  rfl

end

end Deskhand.Csv
