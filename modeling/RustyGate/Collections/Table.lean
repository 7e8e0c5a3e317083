/-
Tables with unique columns.

A table is the list of its rows in the order in which they were inserted.  An insertion is
refused when a row is there already that has the same value in one of the unique columns,
so that such a column determines the row.
-/
import Mathlib.Data.List.Basic
import Mathlib.Data.List.Nodup

namespace Table

variable {R K : Type} {column : R → K} {rows rows' new : List R} {row row' : R} {p : R → Bool}
  {f : R → R}

/-- No two rows have the same value in the column. -/
def Unique (column : R → K) (rows : List R) : Prop := (rows.map column).Nodup

/-- `UPDATE ... SET ... WHERE`. -/
def update (p : R → Bool) (f : R → R) (rows : List R) : List R :=
  rows.map fun row => if p row then f row else row

/-- `INSERT INTO ... ON CONFLICT DO UPDATE`: the rows that `p` holds of are updated, and
without such a row the new one is inserted. -/
def upsert (p : R → Bool) (row : R) (f : R → R) (rows : List R) : List R :=
  if rows.any p then update p f rows else rows ++ [row]

/-- `INSERT INTO` a table with the given unique columns. -/
def insert [DecidableEq K] (columns : List (R → K)) (rows : List R) (row : R) :
    Option (List R) :=
  if ∀ column ∈ columns, column row ∉ rows.map column then some (rows ++ [row]) else none

/-- Several insertions, of which none is made if one is refused. -/
def insertAll [DecidableEq K] (columns : List (R → K)) (rows new : List R) : Option (List R) :=
  new.foldlM (insert columns) rows

/-- Insertions one by one, where a refused one leaves the table as it is. -/
def insertEach [DecidableEq K] (columns : List (R → K)) (rows new : List R) : List R :=
  new.foldl (fun rows row => (insert columns rows row).getD rows) rows

theorem unique_nil : Unique column [] := List.nodup_nil

/-- A unique column determines the row. -/
theorem Unique.eq (h : Unique column rows) (hrow : row ∈ rows) (hrow' : row' ∈ rows)
    (he : column row = column row') : row = row' :=
  List.inj_on_of_nodup_map h hrow hrow' he

theorem Unique.not_mem (h : Unique column (rows ++ row :: new)) :
    column row ∉ rows.map column := by
  intro hmem
  unfold Unique at h
  rw [List.map_append] at h
  exact (List.nodup_append.mp h).2.2 _ hmem _ List.mem_cons_self rfl

theorem Unique.update (h : Unique column rows) (hf : ∀ row, column (f row) = column row) :
    Unique column (update p f rows) := by
  have hsame : ∀ row, column (if p row then f row else row) = column row := by
    intro row
    split
    · exact hf row
    · rfl
  unfold Unique Table.update
  rw [List.map_map]
  exact (List.map_congr_left fun row _ => hsame row) ▸ h

theorem find?_update (hf : ∀ row, p row = true → p (f row) = true) (rows : List R) :
    (update p f rows).find? p = (rows.find? p).map f := by
  induction rows with
  | nil => rfl
  | cons row rows ih =>
      show ((if p row then f row else row) :: update p f rows).find? p = _
      by_cases hp : p row = true
      · rw [if_pos hp, List.find?_cons_of_pos (hf row hp), List.find?_cons_of_pos hp]
        rfl
      · rw [if_neg hp, List.find?_cons_of_neg hp, List.find?_cons_of_neg hp, ih]

theorem find?_upsert (hf : ∀ row, p row = true → p (f row) = true) (hrow : p row = true)
    (rows : List R) :
    (upsert p row f rows).find? p = some ((rows.find? p).elim row f) := by
  unfold upsert
  by_cases hany : rows.any p = true
  · obtain ⟨found, hfound⟩ :=
      Option.isSome_iff_exists.mp (List.find?_isSome.mpr (by simpa using hany))
    rw [if_pos hany, find?_update hf, hfound]
    rfl
  · have hnone : rows.find? p = none := List.find?_eq_none.mpr (by simpa using hany)
    rw [if_neg hany, List.find?_append, hnone, Option.none_or, List.find?_cons_of_pos hrow]
    rfl

/-- What holds of the old rows and of the new one, and is kept by the update, holds of all. -/
theorem forall_mem_upsert {q : R → Prop} (hrows : ∀ row ∈ rows, q row) (hrow : q row)
    (hf : ∀ row, q row → q (f row)) : ∀ row' ∈ upsert p row f rows, q row' := by
  intro row' hmem
  unfold upsert at hmem
  split at hmem
  · obtain ⟨old, hold, rfl⟩ := List.mem_map.mp hmem
    split
    · exact hf old (hrows old hold)
    · exact hrows old hold
  · rcases List.mem_append.mp hmem with hold | hnew
    · exact hrows row' hold
    · rw [List.mem_singleton.mp hnew]
      exact hrow

/-- A row behind an upsert is an updated one, an old one that was left alone, or the new one. -/
theorem mem_upsert (h : row' ∈ upsert p row f rows) :
    (∃ old ∈ rows, p old = true ∧ row' = f old) ∨ (row' ∈ rows ∧ p row' = false) ∨ row' = row := by
  unfold upsert at h
  split at h
  · obtain ⟨old, hold, rfl⟩ := List.mem_map.mp h
    by_cases hp : p old = true
    · exact .inl ⟨old, hold, hp, if_pos hp⟩
    · rw [if_neg hp]
      exact .inr (.inl ⟨hold, Bool.eq_false_iff.mpr hp⟩)
  · rename_i hnone
    rcases List.mem_append.mp h with hold | hnew
    · have hp : ¬p row' = true := fun hp => hnone (List.any_eq_true.mpr ⟨row', hold, hp⟩)
      exact .inr (.inl ⟨hold, Bool.eq_false_iff.mpr hp⟩)
    · exact .inr (.inr (List.mem_singleton.mp hnew))

theorem exists_mem_upsert (hf : ∀ row, p row = true → p (f row) = true) (hrow : p row = true)
    (rows : List R) : ∃ row' ∈ upsert p row f rows, p row' = true :=
  ⟨_, List.mem_of_find?_eq_some (find?_upsert hf hrow rows),
    List.find?_some (find?_upsert hf hrow rows)⟩

theorem mem_upsert_of_neg (hmem : row' ∈ rows) (hp : p row' = false) :
    row' ∈ upsert p row f rows := by
  unfold upsert
  split
  · exact List.mem_map.mpr ⟨row', hmem, if_neg (Bool.eq_false_iff.mp hp)⟩
  · exact List.mem_append_left _ hmem

/-! ## Deletion and references -/

/-- `DELETE FROM ... WHERE`. -/
def delete (p : R → Bool) (rows : List R) : List R := rows.filter fun row => !p row

theorem mem_delete : row ∈ delete p rows ↔ row ∈ rows ∧ p row = false := by
  unfold delete
  rw [List.mem_filter, Bool.not_eq_true']

/-- Deletions agree exactly if they agree on the rows that are there. -/
theorem delete_eq_delete_iff {p q : R → Bool} :
    delete p rows = delete q rows ↔ ∀ row ∈ rows, p row = q row := by
  constructor
  · intro h row hrow
    have hsame : row ∈ delete p rows ↔ row ∈ delete q rows := by rw [h]
    rw [mem_delete, mem_delete] at hsame
    cases hp : p row <;> cases hq : q row <;> simp_all
  · intro h
    exact List.filter_congr fun row hrow => by rw [h row hrow]

section References

variable {C : Type} {foreign : C → K} {children : List C}

/-- Every child refers to a row of the table. -/
def References (foreign : C → K) (column : R → K) (children : List C) (rows : List R) : Prop :=
  ∀ child ∈ children, foreign child ∈ rows.map column

theorem References.append (h : References foreign column children rows) {new : List C}
    {newRows : List R} (hnew : References foreign column new (rows ++ newRows)) :
    References foreign column (children ++ new) (rows ++ newRows) := by
  intro child hchild
  rcases List.mem_append.mp hchild with hold | hfresh
  · rw [List.map_append]
    exact List.mem_append_left _ (h child hold)
  · exact hnew child hfresh

end References

/-! ## Insertion -/

variable [DecidableEq K] {columns : List (R → K)}

theorem insert_eq_some :
    insert columns rows row = some rows' ↔
      (∀ column ∈ columns, column row ∉ rows.map column) ∧ rows' = rows ++ [row] := by
  unfold insert
  split
  · rename_i h
    rw [Option.some_inj, eq_comm]
    exact (and_iff_right h).symm
  · rename_i h
    constructor
    · intro he
      cases he
    · intro ⟨hfree, _⟩
      exact absurd hfree h

theorem Unique.insert (h : Unique column rows) (hc : column ∈ columns)
    (hi : insert columns rows row = some rows') : Unique column rows' := by
  obtain ⟨hfree, rfl⟩ := insert_eq_some.mp hi
  unfold Unique
  rw [List.map_append, List.map_singleton]
  exact List.nodup_append.mpr ⟨h, List.nodup_singleton _,
    fun a ha b hb he => hfree column hc (List.mem_singleton.mp hb ▸ he ▸ ha)⟩

theorem insert_of_not_mem (h : column row ∉ rows.map column) :
    insert [column] rows row = some (rows ++ [row]) :=
  insert_eq_some.mpr ⟨by simpa using h, rfl⟩

theorem insert_of_mem (h : column row ∈ rows.map column) : insert [column] rows row = none :=
  if_neg fun hfree => hfree column List.mem_cons_self h

theorem insertAll_of_unique (h : Unique column (rows ++ new)) :
    insertAll [column] rows new = some (rows ++ new) := by
  induction new generalizing rows with
  | nil => rw [List.append_nil]; rfl
  | cons row new ih =>
      have hrest : insertAll [column] (rows ++ [row]) new = some (rows ++ [row] ++ new) :=
        ih (by rwa [List.append_assoc])
      show (insert [column] rows row).bind (fun rows => insertAll [column] rows new) = _
      rw [insert_of_not_mem h.not_mem, Option.bind_some, hrest, List.append_assoc]
      rfl

theorem insertEach_cons_of_not_mem (h : column row ∉ rows.map column) (new : List R) :
    insertEach [column] rows (row :: new) = insertEach [column] (rows ++ [row]) new := by
  show insertEach [column] ((insert [column] rows row).getD rows) new = _
  rw [insert_of_not_mem h, Option.getD_some]

theorem insertEach_cons_of_mem (h : column row ∈ rows.map column) (new : List R) :
    insertEach [column] rows (row :: new) = insertEach [column] rows new := by
  show insertEach [column] ((insert [column] rows row).getD rows) new = _
  rw [insert_of_mem h, Option.getD_none]

theorem insertEach_of_unique (h : Unique column (rows ++ new)) :
    insertEach [column] rows new = rows ++ new := by
  induction new generalizing rows with
  | nil => rw [List.append_nil]; rfl
  | cons row new ih =>
      rw [insertEach_cons_of_not_mem h.not_mem, ih (by rwa [List.append_assoc]), List.append_assoc]
      rfl

theorem length_insertEach_le (column : R → K) (rows new : List R) :
    (insertEach [column] rows new).length ≤ rows.length + new.length := by
  induction new generalizing rows with
  | nil => exact Nat.le_refl _
  | cons row new ih =>
      by_cases h : column row ∈ rows.map column
      · rw [insertEach_cons_of_mem h, List.length_cons]
        have := ih rows
        omega
      · rw [insertEach_cons_of_not_mem h, List.length_cons]
        have := ih (rows ++ [row])
        rw [List.length_append, List.length_singleton] at this
        omega

/-- Only rows with a value of their own are all inserted. -/
theorem unique_of_length_insertEach (hrows : Unique column rows)
    (h : (insertEach [column] rows new).length = rows.length + new.length) :
    Unique column (rows ++ new) := by
  induction new generalizing rows with
  | nil => rwa [List.append_nil]
  | cons row new ih =>
      by_cases hmem : column row ∈ rows.map column
      · rw [insertEach_cons_of_mem hmem, List.length_cons] at h
        have := length_insertEach_le column rows new
        omega
      · rw [insertEach_cons_of_not_mem hmem] at h
        have hnew : Unique column (rows ++ [row]) :=
          hrows.insert List.mem_cons_self (insert_of_not_mem hmem)
        have hall := ih hnew (by
          rw [h, List.length_append, List.length_singleton, List.length_cons]
          omega)
        rwa [List.append_assoc] at hall

/-- Insertions that are all made put the new rows after the old ones. -/
theorem eq_append_of_insertAll (h : insertAll columns rows new = some rows') :
    rows' = rows ++ new := by
  induction new generalizing rows with
  | nil =>
      rw [List.append_nil]
      exact (Option.some_inj.mp h).symm
  | cons row new ih =>
      obtain ⟨next, hinsert, hrest⟩ := Option.bind_eq_some_iff.mp h
      rw [ih hrest, (insert_eq_some.mp hinsert).2, List.append_assoc]
      rfl

/-! ## Deletion of rows that others refer to -/

section Referenced

variable {C : Type} {foreign : C → K} {children : List C}

/-- `DELETE FROM` a table that others refer to.  It is refused if it left a child behind. -/
def deleteReferenced (foreign : C → K) (column : R → K) (children : List C) (p : R → Bool)
    (rows : List R) : Option (List R) :=
  if ∀ child ∈ children, foreign child ∈ (delete p rows).map column then some (delete p rows)
  else none

/-- The children that refer to a row which `p` holds of. -/
def childrenOf (foreign : C → K) (column : R → K) (p : R → Bool) (rows : List R) (child : C) :
    Bool :=
  decide (foreign child ∈ (rows.filter p).map column)

/-- A deletion that first takes the children of the rows leaves no child behind. -/
theorem References.delete (h : References foreign column children rows) (p : R → Bool) :
    References foreign column (delete (childrenOf foreign column p rows) children)
      (delete p rows) := by
  intro child hchild
  obtain ⟨hmem, hkept⟩ := mem_delete.mp hchild
  obtain ⟨row, hrow, hcolumn⟩ := List.mem_map.mp (h child hmem)
  have hp : p row = false := by
    by_contra hp
    have hgone := of_decide_eq_false hkept
    exact hgone (List.mem_map.mpr
      ⟨row, List.mem_filter.mpr ⟨hrow, (Bool.not_eq_false _).mp hp⟩, hcolumn⟩)
  exact List.mem_map.mpr ⟨row, mem_delete.mpr ⟨hrow, hp⟩, hcolumn⟩

theorem deleteReferenced_of_references
    (h : References foreign column children (Table.delete p rows)) :
    deleteReferenced foreign column children p rows = some (Table.delete p rows) := if_pos h

end Referenced

end Table
