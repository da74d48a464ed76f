import WebForm.Csv

/-!
# Records written and read back

A record that is written where the reader stands between records reads back as that record, cell by
cell, and leaves the reader between records. Where a file ends does not matter as long as it is not
between quotes: a line feed is put where the last line has none, and then the next record reads as
if nothing stood before it.

Results:
* `Invariant.read`: between records nothing is half read, and no record is without cells.
* `foldl_writeRecord`: a written record reads back, whatever was read before.
* `read_ended_writeRecord`: a record at the end of a file adds itself to the records.
* `read_writeRecord_append`: a record at the start of a file is its first, unless it starts with a
  byte-order mark.
-/

namespace WebForm.Csv

namespace Reader

/-! ## The invariant of the reader -/

/-- What holds of the reader after any bytes. -/
structure Invariant (r : Reader) : Prop where
  /-- Between records nothing is half read. -/
  rest : r.place = .recordStart → r.cell = [] ∧ r.cells = []
  /-- No record is without cells. -/
  cells_ne_nil : ∀ record ∈ r.records, record ≠ []

theorem Invariant.start : Invariant start := ⟨fun _ => ⟨rfl, rfl⟩, by simp [Reader.start]⟩

/-- A place other than between records asks for nothing. -/
theorem Invariant.of_place {r r' : Reader} (h : Invariant r) (hp : r'.place ≠ .recordStart)
    (hr : r'.records = r.records) : Invariant r' :=
  ⟨fun e => absurd e hp, fun record hm => h.cells_ne_nil record (hr ▸ hm)⟩

theorem Invariant.endRecord {r : Reader} (h : Invariant r) : Invariant r.endRecord := by
  refine ⟨fun _ => ⟨rfl, rfl⟩, fun record hm => ?_⟩
  unfold Reader.endRecord at hm
  rcases List.mem_cons.mp hm with rfl | hm
  · simp
  · exact h.cells_ne_nil record hm

theorem Invariant.stepPlain {r : Reader} (h : Invariant r) (b : UInt8) :
    Invariant (r.stepPlain b) := by
  unfold Reader.stepPlain
  split
  · exact h.of_place (by simp [endCell]) rfl
  split
  · exact h.endRecord
  · exact h.of_place (by simp [keep]) rfl

theorem Invariant.stepFirst {r : Reader} (h : Invariant r) (b : UInt8) :
    Invariant (r.stepFirst b) := by
  unfold Reader.stepFirst
  split
  · exact h.of_place (by simp) rfl
  · exact h.stepPlain b

/-- One byte keeps the invariant. -/
theorem Invariant.step {r : Reader} (h : Invariant r) (b : UInt8) : Invariant (r.step b) := by
  unfold Reader.step
  split
  · split
    · exact h
    · exact h.stepFirst b
  · exact h.stepFirst b
  · exact h.stepPlain b
  · split
    · exact h.of_place (by simp) rfl
    · exact h.of_place (by simp [keep]) rfl
  · split
    · exact h.of_place (by simp [keep]) rfl
    · exact h.stepPlain b

/-- Any bytes keep the invariant. -/
theorem Invariant.foldl : ∀ (bs : List UInt8) {r : Reader}, Invariant r →
    Invariant (bs.foldl Reader.step r)
  | [], _, h => h
  | b :: bs, _, h => Invariant.foldl bs (h.step b)

theorem Invariant.read (bs : List UInt8) : Invariant (Csv.read bs) :=
  Invariant.foldl _ Invariant.start

/-! ## Steps outside quotes -/

/-- The reader between records. -/
def atRest (records : List Record) : Reader := ⟨.recordStart, [], [], records⟩

theorem Invariant.eq_atRest {r : Reader} (h : Invariant r) (hp : r.place = .recordStart) :
    r = atRest r.records := by
  obtain ⟨place, cell, cells, records⟩ := r
  obtain ⟨rfl, rfl⟩ := h.rest hp
  obtain rfl := hp
  rfl

/-- Outside quotes, a comma ends the cell. -/
theorem step_comma {r : Reader} (h : r.place ≠ .inQuotes) : r.step comma = r.endCell := by
  obtain ⟨place, cell, cells, records⟩ := r
  cases place
  case inQuotes => exact absurd rfl h
  all_goals rfl

/-- Outside quotes, a line feed ends a record that has begun. -/
theorem step_lineFeed {r : Reader} (h : r.place ≠ .inQuotes) (hs : r.place ≠ .recordStart) :
    r.step lineFeed = r.endRecord := by
  obtain ⟨place, cell, cells, records⟩ := r
  cases place
  case inQuotes => exact absurd rfl h
  case recordStart => exact absurd rfl hs
  all_goals rfl

/-- Outside quotes, a line feed leaves the reader between records, with those that a file would
have that ends here. -/
theorem step_lineFeed_eq_atRest {r : Reader} (h : Invariant r) (hq : r.place ≠ .inQuotes) :
    r.step lineFeed = atRest r.finish.reverse := by
  by_cases hs : r.place = .recordStart
  · rw [h.eq_atRest hs]
    simp [atRest, finish, Reader.step, isBreak]
  · rw [step_lineFeed hq hs]
    unfold finish
    split
    · exact absurd ‹_› hs
    · rw [List.reverse_reverse]
      rfl

/-- A line feed leaves the reader between records, or between quotes. -/
theorem place_step_lineFeed {r : Reader} (hq : (r.step lineFeed).place ≠ .inQuotes) :
    (r.step lineFeed).place = .recordStart := by
  obtain ⟨place, cell, cells, records⟩ := r
  cases place
  case inQuotes => exact absurd rfl hq
  all_goals rfl

/-- Outside quotes, a byte that is not special belongs to the cell. -/
theorem step_of_plain {r : Reader} {b : UInt8}
    (hb : (b == comma || b == quote || isBreak b) = false) (h : r.place ≠ .inQuotes) :
    r.step b = r.keep .inCell b := by
  simp only [Bool.or_eq_false_iff] at hb
  obtain ⟨⟨hc, hq⟩, hl⟩ := hb
  have hplain : r.stepPlain b = r.keep .inCell b := by simp [stepPlain, hc, hl]
  unfold Reader.step
  split
  · simp [stepFirst, hq, hl, hplain]
  · simp [stepFirst, hq, hplain]
  · exact hplain
  · exact absurd ‹_› h
  · simp [hq, hplain]

/-! ## Cells -/

/-- A cell may start here. -/
def AtCell (r : Reader) : Prop :=
  (r.place = .recordStart ∨ r.place = .cellStart) ∧ r.cell = []

theorem AtCell.place_ne {r : Reader} (h : AtCell r) : r.place ≠ .inQuotes := by
  rcases h.1 with hp | hp <;> simp [hp]

/-- A cell without special bytes. -/
theorem foldl_plain : ∀ (cell : Cell) {r : Reader}, r.place ≠ .inQuotes → cell ≠ [] →
    needsQuotes cell = false →
    cell.foldl Reader.step r = { r with place := .inCell, cell := cell.reverse ++ r.cell }
  | [], _, _, h, _ => absurd rfl h
  | [b], r, hr, _, hn => by
    simp only [needsQuotes, List.any_cons, List.any_nil, Bool.or_false] at hn
    exact step_of_plain hn hr
  | b :: b' :: cell, r, hr, _, hn => by
    rw [needsQuotes, List.any_cons, Bool.or_eq_false_iff] at hn
    rw [List.foldl_cons, step_of_plain hn.1 hr,
      foldl_plain (b' :: cell) (by simp [keep]) (by simp) hn.2]
    simp [keep]

/-- What stands between the quotes of a cell. -/
theorem foldl_doubled : ∀ (cell : Cell) {r : Reader}, r.place = .inQuotes →
    (cell.flatMap fun b => if b == quote then [quote, quote] else [b]).foldl Reader.step r =
      { r with cell := cell.reverse ++ r.cell }
  | [], _, _ => rfl
  | b :: cell, r, hr => by
    have hone : (if b == quote then [quote, quote] else [b]).foldl Reader.step r =
        r.keep .inQuotes b := by
      by_cases hb : b = quote
      · subst hb
        simp [Reader.step, hr, keep]
      · simp [Reader.step, hr, hb]
    rw [List.flatMap_cons, List.foldl_append, hone, foldl_doubled cell (by simp [keep])]
    simp [keep, hr]

/-- A cell between quotes. -/
theorem foldl_quoted (cell : Cell) {r : Reader} (hr : AtCell r) :
    (quoted cell).foldl Reader.step r = { r with place := .afterQuote, cell := cell.reverse } := by
  have hopen : r.step quote = { r with place := .inQuotes } := by
    rcases hr.1 with hp | hp <;> simp [Reader.step, hp, stepFirst, isBreak, quote, lineFeed,
      carriageReturn]
  rw [quoted, List.foldl_cons, hopen, List.foldl_append, foldl_doubled cell rfl]
  simp [Reader.step, hr.2]

/-- A written cell, where a cell may start. An empty cell leaves the reader where it was. -/
theorem foldl_writeCell (cell : Cell) {r : Reader} (hr : AtCell r) :
    ∃ place, place ≠ .inQuotes ∧ (place = .recordStart → r.place = .recordStart ∧ cell = []) ∧
      (writeCell cell).foldl Reader.step r = { r with place := place, cell := cell.reverse } := by
  unfold writeCell
  by_cases hn : needsQuotes cell = true
  · rw [if_pos hn]
    exact ⟨.afterQuote, by simp, by simp, foldl_quoted cell hr⟩
  · rw [if_neg hn]
    cases cell with
    | nil =>
      refine ⟨r.place, hr.place_ne, fun e => ⟨e, rfl⟩, ?_⟩
      obtain ⟨place, cell, cells, records⟩ := r
      obtain rfl : cell = [] := hr.2
      rfl
    | cons b cell =>
      refine ⟨.inCell, by simp, by simp, ?_⟩
      rw [foldl_plain (b :: cell) hr.place_ne (by simp) (Bool.eq_false_iff.mpr hn), hr.2,
        List.append_nil]

/-! ## Records -/

/-- Written cells and a line feed, where a cell may start, end the record. Between records a single
empty cell would leave an empty line and is excluded. -/
theorem foldl_writeCells : ∀ {cells : List Cell} {r : Reader}, cells ≠ [] → AtCell r →
    (r.place = .recordStart → cells ≠ [[]]) →
    (writeCells cells ++ [lineFeed]).foldl Reader.step r =
      atRest ((r.cells.reverse ++ cells) :: r.records)
  | [], _, h, _, _ => absurd rfl h
  | [cell], r, _, hr, hone => by
    obtain ⟨place, hq, hs, hcell⟩ := foldl_writeCell cell hr
    have hs' : place ≠ .recordStart := by
      intro e
      obtain ⟨he, rfl⟩ := hs e
      exact hone he rfl
    rw [writeCells, List.foldl_append, hcell, List.foldl_cons, List.foldl_nil,
      step_lineFeed hq hs']
    simp [endRecord, atRest]
  | cell :: cell' :: cells, r, _, hr, _ => by
    obtain ⟨place, hq, -, hcell⟩ := foldl_writeCell cell hr
    -- Behind the comma the record has begun, so an empty cell may be the last.
    have hnext : AtCell (endCell { r with place := place, cell := cell.reverse }) :=
      ⟨Or.inr rfl, rfl⟩
    rw [writeCells, List.append_assoc, List.foldl_append, hcell, List.cons_append,
      List.foldl_cons, step_comma hq, foldl_writeCells (by simp) hnext (by simp [endCell])]
    · simp [endCell]
    · simp

/-- **A written record reads back**, whatever was read before. -/
theorem foldl_writeRecord {record : Record} (h : record ≠ []) (rs : List Record) :
    (writeRecord record).foldl Reader.step (atRest rs) = atRest (record :: rs) := by
  unfold writeRecord
  by_cases hone : record = [[]]
  · subst hone
    rfl
  · rw [if_neg hone, foldl_writeCells h ⟨Or.inl rfl, rfl⟩ fun _ => hone]
    rfl

end Reader

/-! ## Files -/

open Reader

theorem records_ne_nil {bs : List UInt8} {record : Record} (h : record ∈ records bs) :
    record ≠ [] := by
  unfold records finish at h
  split at h
  · exact (Invariant.read bs).cells_ne_nil record (List.mem_reverse.mp h)
  · exact (Invariant.read bs).endRecord.cells_ne_nil record (List.mem_reverse.mp h)

/-- The byte-order mark. -/
def mark : List UInt8 := [0xEF, 0xBB, 0xBF]

theorem skipMark_eq (bs : List UInt8) :
    skipMark bs = if mark <+: bs then bs.drop mark.length else bs := by
  unfold skipMark
  split
  · rw [if_pos ⟨_, rfl⟩]
    rfl
  · rename_i hne
    rw [if_neg]
    rintro ⟨bs', rfl⟩
    exact hne bs' rfl

/-- What follows a byte that is not in the mark does not matter to whether a file starts with it. -/
theorem mark_prefix_append {b : UInt8} (hb : b ∉ mark) (bs rest : List UInt8) :
    mark <+: bs ++ b :: rest ↔ mark <+: bs := by
  refine ⟨fun h => ?_, fun h => h.trans (List.prefix_append _ _)⟩
  rcases List.prefix_or_prefix_of_prefix h (List.prefix_append bs (b :: rest)) with h' | ⟨t, ht⟩
  · exact h'
  · rw [← ht, List.prefix_append_right_inj] at h
    cases t with
    | nil => exact ⟨[], by simpa using ht.symm⟩
    | cons c t =>
      obtain rfl := (List.cons_prefix_cons.mp h).1
      exact absurd (ht ▸ List.mem_append_right bs List.mem_cons_self) hb

theorem skipMark_append {b : UInt8} (hb : b ∉ mark) (bs rest : List UInt8) :
    skipMark (bs ++ b :: rest) = skipMark bs ++ b :: rest := by
  rw [skipMark_eq, skipMark_eq]
  by_cases h : mark <+: bs
  · rw [if_pos ((mark_prefix_append hb bs rest).mpr h), if_pos h,
      List.drop_append_of_le_length h.length_le]
  · rw [if_neg (mt (mark_prefix_append hb bs rest).mp h), if_neg h]

/-- Reading goes on behind a line feed. -/
theorem read_lineFeed_append (bs rest : List UInt8) :
    read (bs ++ lineFeed :: rest) = rest.foldl Reader.step ((read bs).step lineFeed) := by
  unfold read
  rw [skipMark_append (by decide), List.foldl_append, List.foldl_cons]

/-- A file with a line feed at its end, put there if it has none. -/
def ended (bs : List UInt8) : List UInt8 :=
  bs ++ if bs.getLast? = some lineFeed then [] else [lineFeed]

/-- The records of a file whose reader is between records. -/
theorem records_of_read {bs : List UInt8} {rs : List Record} (h : read bs = atRest rs) :
    records bs = rs.reverse := by
  rw [records, h]
  rfl

theorem endsInQuotes_of_read {bs : List UInt8} {rs : List Record} (h : read bs = atRest rs) :
    endsInQuotes bs = false := by
  rw [endsInQuotes, h]
  rfl

/-- A file that does not end between quotes, its last line ended, reads as its records. -/
theorem read_ended_append {bs : List UInt8} (h : endsInQuotes bs = false) (rest : List UInt8) :
    read (ended bs ++ rest) = rest.foldl Reader.step (atRest (records bs).reverse) := by
  have hq : (read bs).place ≠ .inQuotes := by simpa [endsInQuotes] using h
  unfold ended
  -- With a line feed at its end the file has been read up to a record's end or into quotes, and the
  -- latter is excluded; without one, the line feed that is put there ends the record.
  by_cases hl : bs.getLast? = some lineFeed
  · obtain ⟨init, rfl⟩ := List.getLast?_eq_some_iff.mp hl
    rw [if_pos hl, List.append_nil, List.append_assoc, List.singleton_append,
      read_lineFeed_append]
    have hread : read (init ++ [lineFeed]) = (read init).step lineFeed :=
      read_lineFeed_append init []
    have hp : (read (init ++ [lineFeed])).place = .recordStart := by
      rw [hread] at hq ⊢
      exact place_step_lineFeed hq
    obtain ⟨rs, hrs⟩ : ∃ rs, read (init ++ [lineFeed]) = atRest rs :=
      ⟨_, (Invariant.read _).eq_atRest hp⟩
    rw [← hread, hrs, records_of_read hrs, List.reverse_reverse]
  · rw [if_neg hl, List.append_assoc, List.singleton_append, read_lineFeed_append,
      step_lineFeed_eq_atRest (Invariant.read bs) hq]
    rfl

/-- **A record at the end of a file adds itself to the records**, and leaves the file outside
quotes. -/
theorem read_ended_writeRecord {bs : List UInt8} (h : endsInQuotes bs = false) {record : Record}
    (hr : record ≠ []) :
    read (ended bs ++ writeRecord record) = atRest (record :: (records bs).reverse) := by
  rw [read_ended_append h, foldl_writeRecord hr]

/-- A written record starts with the mark only if its first cell does. -/
theorem mark_prefix_writeRecord {cell : Cell} {cells : List Cell} {rest : List UInt8}
    (h : mark <+: writeRecord (cell :: cells) ++ rest) : mark <+: cell := by
  have hcell : ∀ {b : UInt8} {rest : List UInt8}, b ∉ mark →
      mark <+: writeCell cell ++ b :: rest → mark <+: cell := by
    intro b rest hb h
    rw [mark_prefix_append hb] at h
    unfold writeCell at h
    split at h
    · exact absurd (List.cons_prefix_cons.mp h).1 (by decide)
    · exact h
  unfold writeRecord at h
  split at h
  · exact absurd (List.cons_prefix_cons.mp h).1 (by decide)
  · rw [List.append_assoc] at h
    cases cells with
    | nil => exact hcell (by decide) h
    | cons cell' cells =>
      rw [writeCells, List.append_assoc, List.cons_append] at h
      · exact hcell (by decide) h
      · simp

/-- **A record at the start of a file is its first**, unless it looks like a byte-order mark. -/
theorem read_writeRecord_append {cell : Cell} {cells : List Cell} (h : ¬ mark <+: cell)
    (rest : List UInt8) :
    read (writeRecord (cell :: cells) ++ rest) =
      rest.foldl Reader.step (atRest [cell :: cells]) := by
  unfold read
  rw [skipMark_eq, if_neg (mt mark_prefix_writeRecord h), List.foldl_append]
  exact congrArg (rest.foldl Reader.step) (foldl_writeRecord (by simp) [])

end WebForm.Csv
