import Blueprint.Command.Outputs
import Blueprint.Csv.Reader
import Blueprint.Machine.Session
import Blueprint.Proofs.Text

/-! Reading back what has been written. The reader gets through every field as the format has it,
with quotation marks or without them, and so through records and through listings of records. -/

namespace Blueprint

namespace Csv

/-- A text of a field with some content: the content as it is if nothing in it has a meaning of its
own, or the content between quotation marks, with those in it doubled. -/
inductive IsField : List Char → List Char → Prop where
  | plain {cs : List Char} (hPlain : ∀ c ∈ cs, isSpecial c = false) : IsField cs cs
  | quoted (cs : List Char) : IsField ('"' :: cs.flatMap doubled ++ ['"']) cs

theorem isField_fieldChars (cs : List Char) : IsField (fieldChars cs) cs := by
  unfold fieldChars
  split
  next => exact .quoted cs
  next hPlain =>
    have hNone := List.any_eq_false.mp (Bool.eq_false_iff.mpr hPlain)
    exact .plain fun c hMem => Bool.eq_false_iff.mpr (hNone c hMem)

namespace Reader

variable {r : Reader} {cs text : List Char}

theorem steps_cons (r : Reader) (c : Char) (rest : List Char) :
    r.steps (c :: rest) = (r.step c).bind fun next => next.steps rest := rfl

theorem steps_append (r : Reader) (front back : List Char) :
    r.steps (front ++ back) = (r.steps front).bind fun next => next.steps back :=
  List.foldlM_append

/-! ### Fields -/

/-- Between quotation marks everything is read as it was before its quotation marks were doubled. -/
theorem steps_doubled (hSpot : r.spot = .quoted) :
    r.steps (cs.flatMap doubled) = some { r with chars := r.chars ++ cs } := by
  induction cs generalizing r with
  | nil => simp [steps]
  | cons c rest ih =>
      have hChar : r.steps (doubled c) = some (r.add c .quoted) := by
        unfold doubled
        split
        next hQuote => simp [steps, step, hSpot, hQuote, add]
        next hOther => simp [steps, step, hSpot, hOther]
      rw [List.flatMap_cons, steps_append, hChar, Option.bind_some, ih rfl, add, ← hSpot,
        List.append_assoc, List.singleton_append]

/-- What has no meaning of its own is read as it is. -/
theorem steps_plain (hSpot : r.spot = .start ∨ r.spot = .plain)
    (hPlain : ∀ c ∈ cs, isSpecial c = false) :
    ∃ spot, spot ≠ .quoted ∧ r.steps cs = some { r with chars := r.chars ++ cs, spot } := by
  induction cs generalizing r with
  | nil =>
      refine ⟨r.spot, ?_, by simp [steps]⟩
      rcases hSpot with hSpot | hSpot <;> simp [hSpot]
  | cons c rest ih =>
      obtain ⟨hFirst, hRest⟩ := List.forall_mem_cons.mp hPlain
      have hChar : r.step c = some (r.add c .plain) := by
        simp only [isSpecial, Bool.or_eq_false_iff, decide_eq_false_iff_not] at hFirst
        obtain ⟨⟨⟨hComma, hQuote⟩, hLine⟩, hReturn⟩ := hFirst
        rcases hSpot with hSpot | hSpot <;>
          simp [step, stepPlain, hSpot, hComma, hQuote, hLine, hReturn]
      obtain ⟨spot, hOutside, hSteps⟩ := ih (r := r.add c .plain) (.inr rfl) hRest
      refine ⟨spot, hOutside, ?_⟩
      rw [steps_cons, hChar, Option.bind_some, hSteps, add, List.append_assoc,
        List.singleton_append]

/-- A reader gets through a field, and then stands where the field may end. -/
theorem steps_field (h : IsField text cs) (records : List (List String)) (fields : List String) :
    ∃ spot, spot ≠ .quoted ∧
      ({ records, fields } : Reader).steps text = some { records, fields, chars := cs, spot } := by
  cases h with
  | plain hPlain => exact steps_plain (.inl rfl) hPlain
  | quoted =>
      refine ⟨.closed, by decide, ?_⟩
      have hOpen : ({ records, fields } : Reader).step '"' =
          some { records, fields, spot := .quoted } := rfl
      rw [List.cons_append, steps_cons, hOpen, Option.bind_some, steps_append, steps_doubled rfl]
      rfl

theorem step_comma (hSpot : r.spot ≠ .quoted) : r.step ',' = some r.endField := by
  cases hWhere : r.spot with
  | quoted => exact absurd hWhere hSpot
  | _ => simp [step, stepPlain, hWhere]

theorem step_lineFeed (hSpot : r.spot ≠ .quoted) : r.step '\n' = some r.endRecord := by
  cases hWhere : r.spot with
  | quoted => exact absurd hWhere hSpot
  | _ => simp [step, stepPlain, hWhere]

/-! ### Records -/

/-- The induction is on the fields, with those that have been read already. -/
theorem steps_line (records : List (List String)) (before : List String) {fields : List String}
    (hFields : fields ≠ []) :
    ({ records, fields := before } : Reader).steps ((line fields).toList ++ ['\n']) =
      some { records := records ++ [before ++ fields] } := by
  induction fields generalizing before with
  | nil => exact absurd rfl hFields
  | cons first rest ih =>
      obtain ⟨spot, hSpot, hFirst⟩ :=
        steps_field (isField_fieldChars first.toList) records before
      cases rest with
      | nil =>
          have hLine : (line [first]).toList = fieldChars first.toList := by
            simp [line, field]
          rw [hLine, steps_append, hFirst, Option.bind_some, steps_cons, step_lineFeed hSpot]
          simp [endRecord, endField, steps]
      | cons second others =>
          have hLine : (line (first :: second :: others)).toList =
              fieldChars first.toList ++ ',' :: (line (second :: others)).toList := by
            simp [line, field, String.intercalate_cons_cons]
          have hNext :
              ({ records, fields := before, chars := first.toList, spot } : Reader).endField =
                { records, fields := before ++ [first] } := by
            simp [endField]
          rw [hLine, List.append_assoc, steps_append, hFirst, Option.bind_some, List.cons_append,
            steps_cons, step_comma hSpot, Option.bind_some, hNext,
            ih (before ++ [first]) (List.cons_ne_nil _ _), List.append_assoc,
            List.singleton_append]

theorem steps_lines (before : List (List String)) {records : List (List String)}
    (hRecords : ∀ fields ∈ records, fields ≠ []) :
    ({ records := before } : Reader).steps
        (records.flatMap fun fields => (line fields).toList ++ ['\n']) =
      some { records := before ++ records } := by
  induction records generalizing before with
  | nil => simp [steps]
  | cons first rest ih =>
      obtain ⟨hFirst, hRest⟩ := List.forall_mem_cons.mp hRecords
      rw [List.flatMap_cons, steps_append, steps_line before [] hFirst, Option.bind_some,
        List.nil_append, ih _ hRest, List.append_assoc, List.singleton_append]

end Reader

/-- Records that have been written are read back, if each of them has a field. -/
theorem read_ofLines {records : List (List String)}
    (hRecords : ∀ fields ∈ records, fields ≠ []) :
    read (Text.ofLines (records.map line)) = some records := by
  rw [read, Text.toList_ofLines, List.flatMap_map, Reader.steps_lines [] hRecords]
  rfl

end Csv

/-- Results that are written one after the other are said in their order, and nothing else is. -/
theorem Session.run_results (console : Console) (lines : List String) (s : Session) :
    s.run (lines.forM fun line => console.result line : Job CommandError Unit).run =
      (.ok (), { s with said := lines.reverse ++ s.said }) := by
  induction lines generalizing s with
  | nil => rfl
  | cons first rest ih =>
      have hFirst : s.run ((first :: rest).forM fun line => console.result line :
            Job CommandError Unit).run =
          Session.run (rest.forM fun line => console.result line : Job CommandError Unit).run
            { s with said := first :: s.said } := rfl
      rw [hFirst, ih, List.reverse_cons, List.append_assoc, List.singleton_append]

namespace OutputRow

/-- A listing of outputs is read back as it was meant: first the names of the columns and then a
record for each row, where an output without an export name has an empty field. A session in which
the listing is written puts out that text and nothing else. -/
theorem read_listing (rows : List OutputRow) :
    Csv.read (Text.ofLines (csvLines rows)) =
      some (["topology", "id", "export", "value"] :: rows.map fun row =>
        [row.topology, row.id, row.exportName.getD "", row.value.display]) ∧
    ∀ (console : Console) (s : Session),
      (s.renewed.run ((csvLines rows).forM fun line => console.result line :
        Job CommandError Unit).run).2.output = Text.ofLines (csvLines rows) := by
  refine ⟨Csv.read_ofLines (List.forall_mem_cons.mpr ⟨by decide, ?_⟩), fun console s => ?_⟩
  · exact List.forall_mem_map.mpr fun row _ => List.cons_ne_nil _ _
  · rw [Session.run_results, Session.output, Session.renewed, List.append_nil,
      List.reverse_reverse]

/-- Whatever characters a row has, in whatever place. -/
example : Csv.read (Text.ofLines (csvLines
    [⟨"Base", "\",\n", none, .literal "ns1\r\n\"ns2\""⟩, ⟨"", ",", some "\r", .literal ""⟩])) =
      some [["topology", "id", "export", "value"], ["Base", "\",\n", "", "ns1\r\n\"ns2\""],
        ["", ",", "\r", ""]] := by
  decide +kernel

end OutputRow

end Blueprint
