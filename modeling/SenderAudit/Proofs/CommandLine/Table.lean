import SenderAudit.CommandLine.Rows

/-!
Tables are read as they were written. Cells are separated by commas, and each row ends in a
newline. A cell that begins with a quote goes on to the next single one, whatever stands
between them, and two quotes in it stand for one.
-/
namespace SenderAudit.CommandLine

/-- Where reading stands: before a cell, in one without quotes, between quotes, or after a
quote, which ends the cell unless another one follows. -/
inductive CellPlace where
  | start
  | bare
  | quoted
  | closed
  deriving DecidableEq, Repr

/-- What is read of a table: the current cell, the cells before it in its row, and the rows
before that one. All of them come last first. -/
structure TableReading where
  place : CellPlace := .start
  cell : List Char := []
  row : List String := []
  rows : List (List String) := []
  deriving DecidableEq, Repr

namespace TableReading

def push (r : TableReading) (place : CellPlace) (c : Char) : TableReading :=
  { r with place, cell := c :: r.cell }

def endCell (r : TableReading) : TableReading :=
  { r with place := .start, cell := [], row := String.ofList r.cell.reverse :: r.row }

def endRow (r : TableReading) : TableReading :=
  { rows := r.endCell.row.reverse :: r.rows }

def next? (r : TableReading) (c : Char) : Option TableReading :=
  match r.place, c with
  | .quoted, '"' => some { r with place := .closed }
  | .quoted, c => some (r.push .quoted c)
  | _, ',' => some r.endCell
  | _, '\n' => some r.endRow
  | .start, '"' => some { r with place := .quoted }
  | .closed, '"' => some (r.push .quoted '"')
  | .closed, _ => none
  | _, c => if c = '"' ∨ c = '\r' then none else some (r.push .bare c)

def run : TableReading → List Char → Option TableReading
  | r, [] => some r
  | r, c :: rest => (r.next? c).bind fun r => run r rest

end TableReading

def table? (s : String) : Option (List (List String)) := do
  let r ← TableReading.run {} s.toList
  if r.place = .start ∧ r.cell = [] ∧ r.row = [] then some r.rows.reverse else none

namespace TableReading

variable (row : List String) (rows : List (List String))

theorem run_step (r after : TableReading) (c : Char) (rest : List Char)
    (step : r.next? c = some after) : run r (c :: rest) = run after rest := by
  rw [run, step, Option.bind_some]

def IsPlain (c : Char) : Prop :=
  c ≠ ',' ∧ c ≠ '"' ∧ c ≠ '\n' ∧ c ≠ '\r'

theorem next?_plain (place : CellPlace) (before : List Char) (c : Char) (plain : IsPlain c)
    (outside : place = .start ∨ place = .bare) :
    next? ⟨place, before, row, rows⟩ c = some ⟨.bare, c :: before, row, rows⟩ := by
  obtain ⟨noComma, noQuote, noNewline, noReturn⟩ := plain
  rcases outside with rfl | rfl <;> simp [next?, push, noQuote, noReturn]

theorem run_bare (s before rest : List Char) (plain : ∀ c ∈ s, IsPlain c) :
    run ⟨.bare, before, row, rows⟩ (s ++ rest) =
      run ⟨.bare, s.reverse ++ before, row, rows⟩ rest := by
  induction s generalizing before with
  | nil => rfl
  | cons c others ih =>
      have step := next?_plain row rows .bare before c (plain c List.mem_cons_self) (Or.inr rfl)
      rw [List.cons_append, run_step _ _ c _ step,
        ih (c :: before) fun c member => plain c (List.mem_cons_of_mem _ member),
        List.reverse_cons, List.append_assoc, List.singleton_append]

def doubled (c : Char) : List Char :=
  if c == '"' then ['"', '"'] else [c]

theorem run_doubled (c : Char) (before rest : List Char) :
    run ⟨.quoted, before, row, rows⟩ (doubled c ++ rest) =
      run ⟨.quoted, c :: before, row, rows⟩ rest := by
  by_cases quote : c = '"'
  · subst quote
    rfl
  · have alone : doubled c = [c] := if_neg (by simpa using quote)
    rw [alone]
    exact run_step _ _ c rest (by simp [next?, push])

theorem run_quoted (s before rest : List Char) :
    run ⟨.quoted, before, row, rows⟩ (s.flatMap doubled ++ rest) =
      run ⟨.quoted, s.reverse ++ before, row, rows⟩ rest := by
  induction s generalizing before with
  | nil => rfl
  | cons c others ih =>
      rw [List.flatMap_cons, List.append_assoc, run_doubled, ih, List.reverse_cons,
        List.append_assoc, List.singleton_append]

theorem run_cellText (cell : String) : ∃ place, place ≠ .quoted ∧ ∀ rest,
    run ⟨.start, [], row, rows⟩ ((cellText cell).toList ++ rest) =
      run ⟨place, cell.toList.reverse, row, rows⟩ rest := by
  by_cases quotes : needsQuotes cell.toList = true
  · refine ⟨.closed, by decide, fun rest => ?_⟩
    have written : (cellText cell).toList ++ rest =
        '"' :: (cell.toList.flatMap doubled ++ '"' :: rest) := by
      simp only [cellText, quotes, ↓reduceIte, String.toList_append, String.toList_ofList,
        List.append_assoc]
      rfl
    rw [written, run_step _ ⟨.quoted, [], row, rows⟩ '"' _ rfl, run_quoted, List.append_nil]
    exact run_step _ _ '"' rest rfl
  · have written : cellText cell = cell := if_neg quotes
    have plain : ∀ c ∈ cell.toList, IsPlain c := by
      intro c member
      have others := mt (fun found => List.any_eq_true.mpr ⟨c, member, found⟩) quotes
      simpa [IsPlain, not_or, and_assoc] using others
    rw [written]
    generalize cell.toList = s at plain
    cases s with
    | nil => exact ⟨.start, by decide, fun rest => rfl⟩
    | cons c others =>
        refine ⟨.bare, by decide, fun rest => ?_⟩
        have step := next?_plain row rows .start [] c (plain c List.mem_cons_self) (Or.inl rfl)
        rw [List.cons_append, run_step _ _ c _ step,
          run_bare row rows others [c] rest fun c member => plain c (List.mem_cons_of_mem _ member),
          List.reverse_cons]

theorem run_cell_comma (cell : String) (rest : List Char) :
    run ⟨.start, [], row, rows⟩ ((cellText cell).toList ++ ',' :: rest) =
      run ⟨.start, [], cell :: row, rows⟩ rest := by
  obtain ⟨place, outside, reads⟩ := run_cellText row rows cell
  rw [reads]
  apply run_step
  cases place <;> simp_all [next?, endCell]

theorem run_cell_newline (cell : String) (rest : List Char) :
    run ⟨.start, [], row, rows⟩ ((cellText cell).toList ++ '\n' :: rest) =
      run ⟨.start, [], [], (cell :: row).reverse :: rows⟩ rest := by
  obtain ⟨place, outside, reads⟩ := run_cellText row rows cell
  rw [reads]
  apply run_step
  cases place <;> simp_all [next?, endRow, endCell]

theorem run_cells (cells : List String) (nonempty : cells ≠ []) (rest : List Char) :
    run ⟨.start, [], row, rows⟩
        ((Text.joined "," (cells.map cellText)).toList ++ '\n' :: rest) =
      run ⟨.start, [], [], (row.reverse ++ cells) :: rows⟩ rest := by
  induction cells generalizing row with
  | nil => exact absurd rfl nonempty
  | cons cell others ih =>
      cases others with
      | nil =>
          have alone : (Text.joined "," [cellText cell]).toList = (cellText cell).toList := by
            rw [Text.joined, String.intercalate_singleton]
          rw [List.map_singleton, alone, run_cell_newline, List.reverse_cons]
      | cons next later =>
          have first : (Text.joined "," ((cell :: next :: later).map cellText)).toList =
              (cellText cell).toList ++
                ',' :: (Text.joined "," ((next :: later).map cellText)).toList := by
            simp only [Text.joined, String.toList_intercalate, List.map_cons,
              List.intercalate_cons_cons, List.append_assoc]
            rfl
          rw [first, List.append_assoc, List.cons_append, run_cell_comma,
            ih (cell :: row) (List.cons_ne_nil _ _), List.reverse_cons, List.append_assoc,
            List.singleton_append]

theorem run_tableLines (table : List (List String)) (nonempty : ∀ cells ∈ table, cells ≠ []) :
    run ⟨.start, [], [], rows⟩ (table.flatMap fun cells => (tableLine cells).toList) =
      some ⟨.start, [], [], table.reverse ++ rows⟩ := by
  induction table generalizing rows with
  | nil => rfl
  | cons cells others ih =>
      have line : (tableLine cells).toList =
          (Text.joined "," (cells.map cellText)).toList ++ ['\n'] := by
        rw [tableLine, CommandLine.line, String.toList_append]
        rfl
      rw [List.flatMap_cons, line, List.append_assoc, List.singleton_append,
        run_cells [] rows cells (nonempty cells List.mem_cons_self),
        ih _ fun cells member => nonempty cells (List.mem_cons_of_mem _ member),
        List.reverse_cons, List.append_assoc, List.singleton_append, List.reverse_nil,
        List.nil_append]

end TableReading

/-- A table of rows that are not empty is read as it was written. -/
theorem table?_lines (table : List (List String)) (nonempty : ∀ cells ∈ table, cells ≠ []) :
    table? (String.join (table.map tableLine)) = some table := by
  have read := TableReading.run_tableLines [] table nonempty
  rw [List.append_nil] at read
  rw [table?, String.toList_join, List.flatMap_map, read, Option.bind_eq_bind,
    Option.bind_some, if_pos ⟨rfl, rfl, rfl⟩, List.reverse_reverse]

example : table? "a,\"b\"\"\n,c\"\n" = some [["a", "b\"\n,c"]] := by decide

end SenderAudit.CommandLine
