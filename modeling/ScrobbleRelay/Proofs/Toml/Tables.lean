import ScrobbleRelay.Toml.Table
import ScrobbleRelay.Toml.Writer

/-!
# The table that a sheet means

Where no name is given twice, every line of a sheet adds its value to the end
of the growing table, and so does every part with a heading of its own.  The
elements of an array of tables are gathered under one name at the end.
-/

namespace ScrobbleRelay.Toml

/-- A line as an entry of a growing table. -/
def Entry.node (e : Entry) : String × Node := (e.name, .value e.literal.value)

/-- The lines of a part as a growing table. -/
def Part.nodes (p : Part) : Table := p.entries.map Entry.node

/-- The entries that the lines of a part mean. -/
def Part.values (p : Part) : Entries :=
  p.entries.map fun e => (e.name, e.literal.value)

/-- No line of a part gives a name that another one gives. -/
def Part.Distinct (p : Part) : Prop := (p.entries.map (·.name)).Nodup

namespace Table

variable {t : Table} {name : String} {p : Part}

def names (t : Table) : List String := t.map Prod.fst

/-! ## What a name stands for -/

theorem get?_eq_none (h : name ∉ names t) : get? name t = none := by
  simp only [get?, Option.map_eq_none_iff, List.find?_eq_none, beq_iff_eq]
  intro entry hentry hname
  exact h (hname ▸ List.mem_map_of_mem hentry)

/-- A name that is added at the end stands for what was added. -/
theorem get?_append (h : name ∉ names t) (node : Node) :
    get? name (t ++ [(name, node)]) = some node := by
  have hnone := get?_eq_none h
  simp only [get?, Option.map_eq_none_iff] at hnone
  simp [get?, List.find?_append, hnone]

/-- A name at the end can be given another meaning. -/
theorem replace_append (h : name ∉ names t) (node other : Node) :
    replace name other (t ++ [(name, node)]) = t ++ [(name, other)] := by
  have hkeep :
      ∀ entry ∈ t, (if entry.1 == name then (name, other) else entry) = entry := by
    intro entry hentry
    apply if_neg
    intro hname
    exact h (eq_of_beq hname ▸ List.mem_map_of_mem hentry)
  unfold replace
  rw [List.map_append, List.map_congr_left hkeep]
  simp

/-! ## Lines and parts -/

/-- Lines with new names are added at the end, in their order. -/
theorem assignAll_assignments (entries : List Entry) {t : Table}
    (h : (names t ++ entries.map (·.name)).Nodup) :
    assignAll (entries.map Entry.assignment) t =
      some (t ++ entries.map Entry.node) := by
  unfold assignAll
  induction entries generalizing t with
  | nil => simp
  | cons e entries ih =>
      have hnew : e.name ∉ names t := by
        intro hmem
        exact (List.nodup_append.mp h).2.2 _ hmem _ (by simp) rfl
      have hstep :
          assign e.assignment.name e.assignment.value e.assignment.path t =
            some (t ++ [e.node]) := by
        have hnone : get? e.name t = none := get?_eq_none hnew
        simp [assign, Entry.assignment, hnone, append, Entry.node]
      have hrest := ih (t := t ++ [e.node]) (by simpa [names, Entry.node] using h)
      rw [List.map_cons, List.foldlM_cons, hstep]
      simpa using hrest

theorem assignAll_nodes (h : p.Distinct) :
    assignAll (p.entries.map Entry.assignment) [] = some p.nodes :=
  assignAll_assignments p.entries h

theorem addSection_table (htable : p.isElement = false)
    (hnew : p.name ∉ names t) (hdistinct : p.Distinct) :
    addSection t p.asSection =
      some (t ++ [(p.name, .table .heading p.nodes)]) := by
  simp [addSection, Part.asSection, htable, descend, addTable,
    get?_eq_none hnew, assignAll_nodes hdistinct, append]

theorem addSection_firstElement (helement : p.isElement = true)
    (hnew : p.name ∉ names t) (hdistinct : p.Distinct) :
    addSection t p.asSection = some (t ++ [(p.name, .elements [p.nodes])]) := by
  simp [addSection, Part.asSection, helement, descend, addElement,
    get?_eq_none hnew, assignAll_nodes hdistinct, append]

theorem addSection_element (helement : p.isElement = true)
    (hnew : p.name ∉ names t) (hdistinct : p.Distinct) (tables : List Table) :
    addSection (t ++ [(p.name, .elements tables)]) p.asSection =
      some (t ++ [(p.name, .elements (tables ++ [p.nodes]))]) := by
  simp [addSection, Part.asSection, helement, descend, addElement,
    get?_append hnew, replace_append hnew, assignAll_nodes hdistinct]

/-- Parts with new names add their tables at the end, in their order. -/
theorem addSections_tables (parts : List Part) {t : Table}
    (htables : ∀ p ∈ parts, p.isElement = false ∧ p.Distinct)
    (h : (names t ++ parts.map (·.name)).Nodup) :
    (parts.map Part.asSection).foldlM addSection t =
      some (t ++ parts.map fun p => (p.name, .table .heading p.nodes)) := by
  induction parts generalizing t with
  | nil => simp
  | cons p parts ih =>
      have hnew : p.name ∉ names t := by
        intro hmem
        exact (List.nodup_append.mp h).2.2 _ hmem _ (by simp) rfl
      obtain ⟨htable, hdistinct⟩ := htables p (by simp)
      have hrest := ih (t := t ++ [(p.name, .table .heading p.nodes)])
        (fun q hq => htables q (by simp [hq])) (by simpa [names] using h)
      rw [List.map_cons, List.foldlM_cons, addSection_table htable hnew hdistinct]
      simpa using hrest

/-- Elements are gathered in the array at the end, in their order. -/
theorem addSections_elements (parts : List Part) {t : Table}
    (helements : ∀ p ∈ parts, p.isElement = true ∧ p.name = name ∧ p.Distinct)
    (hnew : name ∉ names t) (tables : List Table) :
    (parts.map Part.asSection).foldlM addSection
        (t ++ [(name, .elements tables)]) =
      some (t ++ [(name, .elements (tables ++ parts.map Part.nodes))]) := by
  induction parts generalizing tables with
  | nil => simp
  | cons p parts ih =>
      obtain ⟨helement, rfl, hdistinct⟩ := helements p (by simp)
      have hrest := ih (fun q hq => helements q (by simp [hq]))
        (tables ++ [p.nodes])
      rw [List.map_cons, List.foldlM_cons,
        addSection_element helement hnew hdistinct]
      simpa using hrest

/-- Elements with a new name make an array at the end, if there are any. -/
theorem addSections_array (name : String) (parts : List Part) {t : Table}
    (helements : ∀ p ∈ parts, p.isElement = true ∧ p.name = name ∧ p.Distinct)
    (hnew : name ∉ names t) (hsome : parts ≠ []) :
    (parts.map Part.asSection).foldlM addSection t =
      some (t ++ [(name, .elements (parts.map Part.nodes))]) := by
  cases parts with
  | nil => exact absurd rfl hsome
  | cons p parts =>
      obtain ⟨helement, rfl, hdistinct⟩ := helements p (by simp)
      have hrest := addSections_elements parts
        (fun q hq => helements q (by simp [hq])) hnew [p.nodes]
      rw [List.map_cons, List.foldlM_cons,
        addSection_firstElement helement hnew hdistinct]
      simpa using hrest

/-! ## Meanings -/

theorem meaning_append (t u : Table) :
    meaning (t ++ u) = meaning t ++ meaning u := by
  induction t with
  | nil => rfl
  | cons entry t ih =>
      obtain ⟨name, node⟩ := entry
      simp [meaning, ih]

@[simp] theorem meaning_map_node (entries : List Entry) :
    meaning (entries.map Entry.node) =
      entries.map fun e => (e.name, e.literal.value) := by
  induction entries with
  | nil => rfl
  | cons e entries ih => simp [meaning, Entry.node, Node.meaning, ih]

@[simp] theorem meaning_nodes (p : Part) : meaning p.nodes = p.values :=
  meaning_map_node p.entries

@[simp] theorem meaning_map_table (parts : List Part) :
    meaning (parts.map fun p => (p.name, .table .heading p.nodes)) =
      parts.map fun p => (p.name, .table p.values) := by
  induction parts with
  | nil => rfl
  | cons p parts ih =>
      simp [meaning, Node.meaning, ih]

@[simp] theorem meanings_map_nodes (parts : List Part) :
    meanings (parts.map Part.nodes) = parts.map fun p => .table p.values := by
  induction parts with
  | nil => rfl
  | cons p parts ih => simp [meanings, ih]

end Table

end ScrobbleRelay.Toml
