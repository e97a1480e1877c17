import Mathlib.Data.List.Nodup

/-!
# Ledgers of resources

A ledger records what is done with resources, oldest first. Whether each of them is used
properly is a question about its `history`, the entries for this resource alone.

Loops over a table of resources write the same entries for each row. `rows` is what they
write; if no resource stands in the table twice, the history of each is what the loop does
for one (`history_rows_head`, `history_rows_member`).
-/

namespace Ledger

variable {ρ κ : Type}

/-! ## Tables -/

/-- The entries `ks` for one resource. -/
def uses (r : ρ) (ks : List κ) : List (ρ × κ) := ks.map fun k => (r, k)

/-- For each row `before` for its head, `each` for its members, and `after` for its head. -/
def rows (before each after : List κ) (table : List (ρ × List ρ)) : List (ρ × κ) :=
  table.flatMap fun row =>
    uses row.1 before ++ row.2.flatMap (fun r => uses r each) ++ uses row.1 after

theorem rows_cons (before each after : List κ) (row : ρ × List ρ) (table : List (ρ × List ρ)) :
    rows before each after (row :: table) = rows before each after [row] ++
      rows before each after table := by
  simp only [rows, List.flatMap_cons, List.flatMap_nil, List.append_nil]

/-- The resources in a table. -/
def resources (table : List (ρ × List ρ)) : List ρ := table.flatMap fun row => row.1 :: row.2

/-- A table with its resources renamed. -/
def rename {σ : Type} (f : ρ → σ) (table : List (ρ × List ρ)) : List (σ × List σ) :=
  table.map fun row => (f row.1, row.2.map f)

theorem map_rows {σ : Type} (f : ρ → σ) (before each after : List κ) (table : List (ρ × List ρ)) :
    (rows before each after table).map (fun e => (f e.1, e.2)) =
      rows before each after (rename f table) := by
  have huses : ∀ (r : ρ) (ks : List κ), (uses r ks).map (fun e => (f e.1, e.2)) = uses (f r) ks :=
    fun r ks => List.map_map
  rw [rows, List.map_flatMap, rows, rename, List.flatMap_map]
  simp only [List.map_append, huses, List.map_flatMap, List.flatMap_map]

theorem resources_rename {σ : Type} (f : ρ → σ) (table : List (ρ × List ρ)) :
    resources (rename f table) = (resources table).map f := by
  rw [resources, rename, List.flatMap_map, resources, List.map_flatMap]
  simp only [List.map_cons]

theorem head_mem_resources {table : List (ρ × List ρ)} {row : ρ × List ρ} (h : row ∈ table) :
    row.1 ∈ resources table :=
  List.mem_flatMap.mpr ⟨row, h, List.mem_cons_self⟩

theorem member_mem_resources {table : List (ρ × List ρ)} {row : ρ × List ρ} (h : row ∈ table)
    {r : ρ} (hr : r ∈ row.2) : r ∈ resources table :=
  List.mem_flatMap.mpr ⟨row, h, List.mem_cons_of_mem _ hr⟩

theorem mem_resources_of_mem_rows {before each after : List κ} {table : List (ρ × List ρ)}
    {e : ρ × κ} (h : e ∈ rows before each after table) : e.1 ∈ resources table := by
  have huses : ∀ {r : ρ} {ks : List κ}, e ∈ uses r ks → e.1 = r := by
    intro r ks he
    obtain ⟨k, -, rfl⟩ := List.mem_map.mp he
    rfl
  obtain ⟨row, hrow, he⟩ := List.mem_flatMap.mp h
  rw [List.mem_append, List.mem_append] at he
  rcases he with (he | he) | he
  · exact huses he ▸ head_mem_resources hrow
  · obtain ⟨r, hr, he⟩ := List.mem_flatMap.mp he
    exact huses he ▸ member_mem_resources hrow hr
  · exact huses he ▸ head_mem_resources hrow

/-! ## Histories -/

variable [DecidableEq ρ]

/-- What has been done with `r`. -/
def history (log : List (ρ × κ)) (r : ρ) : List κ :=
  log.filterMap fun e => if e.1 = r then some e.2 else none

@[simp] theorem history_append (log log' : List (ρ × κ)) (r : ρ) :
    history (log ++ log') r = history log r ++ history log' r :=
  List.filterMap_append

theorem history_flatMap {α : Type} (f : α → List (ρ × κ)) (l : List α) (r : ρ) :
    history (l.flatMap f) r = l.flatMap fun a => history (f a) r :=
  List.filterMap_flatMap

@[simp] theorem history_uses_self (r : ρ) (ks : List κ) : history (uses r ks) r = ks := by
  rw [history, uses, List.filterMap_map]
  simp

theorem history_uses_of_ne {r r' : ρ} (h : r ≠ r') (ks : List κ) :
    history (uses r ks) r' = [] := by
  rw [history, uses, List.filterMap_map]
  simp [h]

theorem history_members_of_not_mem {each : List κ} {rs : List ρ} {r : ρ} (h : r ∉ rs) :
    history (rs.flatMap fun r => uses r each) r = [] := by
  rw [history_flatMap, List.flatMap_eq_nil_iff]
  intro r' hr'
  exact history_uses_of_ne (fun (heq : r' = r) => h (heq ▸ hr')) each

theorem history_members {each : List κ} {rs : List ρ} (hnodup : rs.Nodup) {r : ρ} (h : r ∈ rs) :
    history (rs.flatMap fun r => uses r each) r = each := by
  induction rs with
  | nil => cases h
  | cons r' rs ih =>
    obtain ⟨hnot, hrest⟩ := List.nodup_cons.mp hnodup
    rw [List.flatMap_cons, history_append]
    rcases List.mem_cons.mp h with rfl | h
    · rw [history_uses_self, history_members_of_not_mem hnot, List.append_nil]
    · have hne : r' ≠ r := fun heq => hnot (heq ▸ h)
      rw [history_uses_of_ne hne, ih hrest h, List.nil_append]

section Rows

variable {before each after : List κ}

theorem history_rows_of_not_mem {table : List (ρ × List ρ)} {r : ρ} (h : r ∉ resources table) :
    history (rows before each after table) r = [] := by
  rw [rows, history_flatMap, List.flatMap_eq_nil_iff]
  intro row hrow
  have hhead : row.1 ≠ r := fun heq => h (heq ▸ head_mem_resources hrow)
  have hmember : r ∉ row.2 := fun hr => h (member_mem_resources hrow hr)
  simp only [history_append, history_uses_of_ne hhead, history_members_of_not_mem hmember,
    List.append_nil]

/-- The history of the head of a row. -/
theorem history_rows_head {table : List (ρ × List ρ)} (hnodup : (resources table).Nodup)
    {row : ρ × List ρ} (h : row ∈ table) :
    history (rows before each after table) row.1 = before ++ after := by
  induction table with
  | nil => cases h
  | cons first table ih =>
    rw [resources, List.flatMap_cons, List.nodup_append'] at hnodup
    obtain ⟨hfirst, hrest, hdisjoint⟩ := hnodup
    rw [rows_cons, history_append]
    rcases List.mem_cons.mp h with rfl | h
    · have hnot : row.1 ∉ resources table := fun hmem => hdisjoint List.mem_cons_self hmem
      rw [history_rows_of_not_mem hnot, List.append_nil]
      simp only [rows, List.flatMap_cons, List.flatMap_nil, List.append_nil, history_append,
        history_uses_self, history_members_of_not_mem (List.nodup_cons.mp hfirst).1]
    · have hnot : row.1 ∉ resources [first] := by
        rw [resources, List.flatMap_singleton]
        exact fun hmem => hdisjoint hmem (head_mem_resources h)
      rw [history_rows_of_not_mem hnot, List.nil_append]
      exact ih hrest h

/-- The history of a member of a row. -/
theorem history_rows_member {table : List (ρ × List ρ)} (hnodup : (resources table).Nodup)
    {row : ρ × List ρ} (h : row ∈ table) {r : ρ} (hr : r ∈ row.2) :
    history (rows before each after table) r = each := by
  induction table with
  | nil => cases h
  | cons first table ih =>
    rw [resources, List.flatMap_cons, List.nodup_append'] at hnodup
    obtain ⟨hfirst, hrest, hdisjoint⟩ := hnodup
    rw [rows_cons, history_append]
    rcases List.mem_cons.mp h with rfl | h
    · have hnot : r ∉ resources table := fun hmem => hdisjoint (List.mem_cons_of_mem _ hr) hmem
      obtain ⟨hhead, hmembers⟩ := List.nodup_cons.mp hfirst
      have hne : row.1 ≠ r := fun heq => hhead (heq ▸ hr)
      rw [history_rows_of_not_mem hnot, List.append_nil]
      simp only [rows, List.flatMap_cons, List.flatMap_nil, List.append_nil, history_append,
        history_uses_of_ne hne, history_members hmembers hr, List.nil_append]
    · have hnot : r ∉ resources [first] := by
        rw [resources, List.flatMap_singleton]
        exact fun hmem => hdisjoint hmem (member_mem_resources h hr)
      rw [history_rows_of_not_mem hnot, List.nil_append]
      exact ih hrest h

end Rows

/-- A head is not a member of any row: their histories would differ. -/
theorem head_ne_member {table : List (ρ × List ρ)} (hnodup : (resources table).Nodup)
    {row row' : ρ × List ρ} (h : row ∈ table) (h' : row' ∈ table) {r : ρ} (hr : r ∈ row'.2) :
    row.1 ≠ r := by
  intro heq
  have hhead : history (rows [true] [] [] table) row.1 = [true] := history_rows_head hnodup h
  rw [heq, history_rows_member hnodup h' hr] at hhead
  cases hhead

end Ledger
