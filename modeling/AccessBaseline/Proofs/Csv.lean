import AccessBaseline.Seed

/-! Tables read back. A reader that knows of semicolons, quotes and line ends, and of nothing else, finds in
the text of a table just the cells that were written, whatever characters they hold. -/
namespace AccessBaseline.Csv

/-- Where a reader stands: before a record, behind a carriage return that ended one, before a later cell, in a
cell without quotes, between quotes, or behind a quote that ends them unless another one follows. -/
inductive Place where
  | record
  | returned
  | cell
  | plain
  | quoted
  | closed
  deriving DecidableEq

structure Reading where
  place : Place := .record
  cells : List String := []
  chars : List Char := []

namespace Reading

def put (r : Reading) (place : Place) (c : Char) : Reading := ⟨place, r.cells, r.chars ++ [c]⟩

def row (r : Reading) : List String := r.cells ++ [String.ofList r.chars]

/-- A quote opens quotes at the start of a cell only. Behind a closing one it stands for itself, and the
quotes are open again. -/
def quote (r : Reading) : Reading :=
  match r.place with
  | .plain => r.put .plain '"'
  | .closed => r.put .quoted '"'
  | .record | .returned | .cell | .quoted => { r with place := .quoted }

def ended (r : Reading) (keepsBlank : Bool) : List (List String) :=
  match r.place with
  | .record | .returned => if keepsBlank then [[""]] else []
  | .cell | .plain | .quoted | .closed => [r.row]

end Reading

/-- The records of a text. Outside quotes a line ends with a line feed, a carriage return, or both. -/
def readFrom (keepsBlank : Bool) (r : Reading) : List Char → List (List String)
  | [] => if r.place = .record ∨ r.place = .returned then [] else [r.row]
  | c :: rest =>
    if r.place = .quoted then
      readFrom keepsBlank (if c = '"' then { r with place := .closed } else r.put .quoted c) rest
    else if c = '"' then readFrom keepsBlank r.quote rest
    else if c = ';' then readFrom keepsBlank ⟨.cell, r.row, []⟩ rest
    else if c = '\n' ∧ r.place = .returned then readFrom keepsBlank {} rest
    else if c = '\n' ∨ c = '\r' then
      r.ended keepsBlank ++
        readFrom keepsBlank { place := if c = '\r' then .returned else .record } rest
    else readFrom keepsBlank (r.put .plain c) rest

def read (keepsBlank : Bool) (text : String) : List (List String) := readFrom keepsBlank {} text.toList

section Cells
variable (keepsBlank : Bool) (cells : List String) (rest : List Char)

/-- Between quotes each character is itself, and of two quotes there is one. -/
theorem readFrom_quoted (chars cs : List Char) :
    readFrom keepsBlank ⟨.quoted, cells, chars⟩ (cs.flatMap quoteChar ++ '"' :: rest) =
      readFrom keepsBlank ⟨.closed, cells, chars ++ cs⟩ rest := by
  induction cs generalizing chars with
  | nil => simp [readFrom]
  | cons c cs ih =>
    by_cases hquote : c = '"'
    · subst hquote
      have hpair : readFrom keepsBlank ⟨.quoted, cells, chars⟩
          (('"' :: cs).flatMap quoteChar ++ '"' :: rest) =
          readFrom keepsBlank ⟨.quoted, cells, chars ++ ['"']⟩ (cs.flatMap quoteChar ++ '"' :: rest) := by
        simp [quoteChar, readFrom, Reading.quote, Reading.put]
      rw [hpair, ih, List.append_assoc, List.singleton_append]
    · have hone : readFrom keepsBlank ⟨.quoted, cells, chars⟩ ((c :: cs).flatMap quoteChar ++ '"' :: rest) =
          readFrom keepsBlank ⟨.quoted, cells, chars ++ [c]⟩ (cs.flatMap quoteChar ++ '"' :: rest) := by
        simp [quoteChar, hquote, readFrom, Reading.put]
      rw [hone, ih, List.append_assoc, List.singleton_append]

theorem isSpecial_eq_false {c : Char} :
    isSpecial c = false ↔ c ≠ ';' ∧ c ≠ '"' ∧ c ≠ '\r' ∧ c ≠ '\n' := by
  simp [isSpecial, and_assoc]

theorem readFrom_put {place : Place} (hplace : place ≠ .quoted) {c : Char} (hc : isSpecial c = false)
    (chars : List Char) :
    readFrom keepsBlank ⟨place, cells, chars⟩ (c :: rest) =
      readFrom keepsBlank ⟨.plain, cells, chars ++ [c]⟩ rest := by
  obtain ⟨hsemicolon, hquote, hreturn, hfeed⟩ := isSpecial_eq_false.1 hc
  simp [readFrom, hplace, hquote, hsemicolon, hfeed, hreturn, Reading.put]

theorem readFrom_plain {cs : List Char} (hcs : ∀ c ∈ cs, isSpecial c = false) (chars : List Char) :
    readFrom keepsBlank ⟨.plain, cells, chars⟩ (cs ++ rest) =
      readFrom keepsBlank ⟨.plain, cells, chars ++ cs⟩ rest := by
  induction cs generalizing chars with
  | nil => simp
  | cons c cs ih =>
    obtain ⟨hc, hcs⟩ := List.forall_mem_cons.1 hcs
    rw [List.cons_append, readFrom_put keepsBlank cells _ (by decide) hc, ih hcs, List.append_assoc,
      List.singleton_append]

def Place.Closes (place : Place) : Prop := place ≠ .quoted ∧ place ≠ .returned

/-- A written cell is read up to its end. Only an empty one leaves the reader before the record. -/
theorem readFrom_field {place : Place} (hplace : place = .record ∨ place = .cell) (cell : String) :
    ∃ after : Place, after.Closes ∧ (after = .record → place = .record ∧ cell = "") ∧ ∀ rest,
      readFrom keepsBlank ⟨place, cells, []⟩ (field cell ++ rest) =
        readFrom keepsBlank ⟨after, cells, cell.toList⟩ rest := by
  by_cases hspecial : cell.toList.any isSpecial = true
  · refine ⟨.closed, ⟨by decide, by decide⟩, (fun h => nomatch h), fun rest => ?_⟩
    have hopen : readFrom keepsBlank ⟨place, cells, []⟩ (field cell ++ rest) =
        readFrom keepsBlank ⟨.quoted, cells, []⟩ (cell.toList.flatMap quoteChar ++ '"' :: rest) := by
      rcases hplace with rfl | rfl <;> simp [field, hspecial, quoted, readFrom, Reading.quote]
    rw [hopen, readFrom_quoted, List.nil_append]
  · have hplain : ∀ c ∈ cell.toList, isSpecial c = false := by simpa using hspecial
    have hfield : field cell = cell.toList := if_neg hspecial
    rw [hfield]
    cases hchars : cell.toList with
    | nil =>
      have hempty : cell = "" := String.toList_inj.1 hchars
      refine ⟨place, ?_, fun h => ⟨h, hempty⟩, fun rest => rfl⟩
      rcases hplace with rfl | rfl <;> exact ⟨by decide, by decide⟩
    | cons c cs =>
      rw [hchars] at hplain
      obtain ⟨hc, hcs⟩ := List.forall_mem_cons.1 hplain
      refine ⟨.plain, ⟨by decide, by decide⟩, (fun h => nomatch h), fun rest => ?_⟩
      have hunquoted : place ≠ .quoted := by rcases hplace with rfl | rfl <;> decide
      rw [List.cons_append, readFrom_put keepsBlank cells _ hunquoted hc, readFrom_plain _ _ _ hcs]
      rfl

theorem readFrom_semicolon {place : Place} (hplace : place.Closes) (cell : String) :
    readFrom keepsBlank ⟨place, cells, cell.toList⟩ (';' :: rest) =
      readFrom keepsBlank ⟨.cell, cells ++ [cell], []⟩ rest := by
  simp [readFrom, hplace.1, Reading.row]

theorem readFrom_newline {place : Place} (hplace : place.Closes) (hrecord : place ≠ .record) (cell : String) :
    readFrom keepsBlank ⟨place, cells, cell.toList⟩ ('\n' :: rest) =
      (cells ++ [cell]) :: readFrom keepsBlank {} rest := by
  obtain ⟨hquoted, hreturned⟩ := hplace
  cases place <;> simp_all [readFrom, Reading.ended, Reading.row]

theorem readFrom_moreFields {place : Place} (hplace : place.Closes) (cell : String) {more : List String}
    (hrecord : place = .record → more ≠ []) :
    readFrom keepsBlank ⟨place, cells, cell.toList⟩ (moreFields more ++ rest) =
      (cells ++ cell :: more) :: readFrom keepsBlank {} rest := by
  induction more generalizing place cells cell with
  | nil =>
    have hnot : place ≠ .record := fun h => hrecord h rfl
    exact readFrom_newline keepsBlank cells rest hplace hnot cell
  | cons next more ih =>
    obtain ⟨after, hafter, hstart, hread⟩ := readFrom_field keepsBlank (cells ++ [cell]) (.inr rfl) next
    have hlater := ih (cells ++ [cell]) hafter next fun h => nomatch (hstart h).1
    have hsplit : moreFields (next :: more) ++ rest = ';' :: (field next ++ (moreFields more ++ rest)) := by
      simp [moreFields]
    rw [hsplit, readFrom_semicolon keepsBlank cells _ hplace, hread, hlater, List.append_assoc,
      List.singleton_append]

end Cells

theorem readFrom_record (keepsBlank : Bool) {row : List String} (hrow : row ≠ []) (rest : List Char) :
    readFrom keepsBlank {} (record row ++ rest) = row :: readFrom keepsBlank {} rest := by
  obtain ⟨cell, more, rfl⟩ := List.exists_cons_of_ne_nil hrow
  by_cases halone : cell = "" ∧ more = []
  · obtain ⟨rfl, rfl⟩ := halone
    simp [record, readFrom, Reading.quote, Reading.ended, Reading.row]
  · have hfields : record (cell :: more) = field cell ++ moreFields more := by
      unfold record
      split <;> simp_all
    obtain ⟨after, hafter, hstart, hread⟩ := readFrom_field keepsBlank [] (.inl rfl) cell
    rw [hfields, List.append_assoc, hread]
    exact readFrom_moreFields keepsBlank [] rest hafter cell fun h hmore => halone ⟨(hstart h).2, hmore⟩

theorem readFrom_records (keepsBlank : Bool) {rows : List (List String)} (h : ∀ row ∈ rows, row ≠ []) :
    readFrom keepsBlank {} (rows.flatMap record) = rows := by
  induction rows with
  | nil => rfl
  | cons row rows ih =>
    obtain ⟨hrow, hrows⟩ := List.forall_mem_cons.1 h
    rw [List.flatMap_cons, readFrom_record keepsBlank hrow, ih hrows]

theorem read_render (keepsBlank : Bool) {header : List String} {rows : List (List String)}
    (hheader : header ≠ []) (h : ∀ row ∈ rows, row.length = header.length) :
    read keepsBlank (String.ofList (render header rows)) = header :: rows := by
  have hrows : ∀ row ∈ header :: rows, row ≠ [] := by
    refine List.forall_mem_cons.2 ⟨hheader, fun row hrow => ?_⟩
    rw [← List.length_pos_iff, h row hrow]
    exact List.length_pos_iff.2 hheader
  rw [read, String.toList_ofList]
  exact readFrom_records keepsBlank hrows

/-- Tables are written when their rows are as long as the header, and only then. What was written is read as
the header and the rows, by readers that pass over empty lines and by those that do not; and so are the two
tables of a seed. -/
theorem tables_read_back :
    (∀ (header : List String) (rows : List (List String)), header ≠ [] →
      ((∃ text, write header rows = .ok text) ↔ ∀ row ∈ rows, row.length = header.length) ∧
      ∀ text, write header rows = .ok text → ∀ keepsBlank, read keepsBlank text = header :: rows) ∧
    ∀ (supply : Seed.Supply) (timestamp : String) (config : Config),
      let seed := Seed.build supply timestamp config.roles
      ∃ roles grants, seed.rolesText = .ok roles ∧ seed.grantsText = .ok grants ∧ ∀ keepsBlank,
        read keepsBlank roles = RoleRow.header :: seed.roles.map RoleRow.cells ∧
        read keepsBlank grants = GrantRow.header :: seed.grants.map GrantRow.cells := by
  constructor
  · intro header rows hheader
    refine ⟨⟨?_, fun h => ⟨_, write_of_lengths h⟩⟩, ?_⟩
    · rintro ⟨text, h⟩
      exact (write_isOk_iff header rows).1 (by rw [h]; rfl)
    · intro text h keepsBlank
      have hlengths := (write_isOk_iff header rows).1 (by rw [h]; rfl)
      rw [write_of_lengths hlengths] at h
      cases h
      exact read_render keepsBlank hheader hlengths
  · intro supply timestamp config seed
    refine ⟨_, _, seed.rolesText_eq, seed.grantsText_eq, fun keepsBlank => ⟨?_, ?_⟩⟩
    · exact read_render keepsBlank (by simp [RoleRow.header]) (by simp [RoleRow.cells, RoleRow.header])
    · exact read_render keepsBlank (by simp [GrantRow.header]) (by simp [GrantRow.cells, GrantRow.header])

theorem awkward_read_back :
    ["Name"] ≠ [] ∧ write ["Name"] [[""], [" a;\"b\"\r\n"], ["é"]] =
        .ok "Name\n\"\"\n\" a;\"\"b\"\"\r\n\"\né\n" ∧
      ∀ keepsBlank, read keepsBlank "Name\n\"\"\n\" a;\"\"b\"\"\r\n\"\né\n" =
        [["Name"], [""], [" a;\"b\"\r\n"], ["é"]] := by
  have hwritten : write ["Name"] [[""], [" a;\"b\"\r\n"], ["é"]] =
      .ok "Name\n\"\"\n\" a;\"\"b\"\"\r\n\"\né\n" := by rfl
  have hname : ["Name"] ≠ [] := by decide
  exact ⟨hname, hwritten, (tables_read_back.1 ["Name"] _ hname).2 _ hwritten⟩

end AccessBaseline.Csv
