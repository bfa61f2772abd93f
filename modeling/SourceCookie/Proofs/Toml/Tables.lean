import SourceCookie.Proofs.Toml.Values

/-!
Tables that are written are read back, whatever number of them and of lines in them, as long as their
names are distinct and stand without quotes, and so do the keys in each of them.
-/

namespace SourceCookie.Toml

variable {rest text : List Char} {key : String} {v : Toml} {first : Statement}
  {others : List Statement}

def IsBare (key : String) : Prop := key.toList ≠ [] ∧ key.toList.all isKeyChar = true

instance (key : String) : Decidable (IsBare key) :=
  inferInstanceAs (Decidable (key.toList ≠ [] ∧ key.toList.all isKeyChar = true))

structure Denotes (text : List Char) (v : Toml) : Prop where
  solid : Solid text
  read (rest : List Char) : readValue? (nestingLimit - 1) (text ++ '\n' :: rest) = some (v, '\n' :: rest)
  unmark : unmark? v = some v

section Keys

theorem solid_of_isKeyChar {c : Char} (hc : isKeyChar c = true) (rest : List Char)
    : Solid (c :: rest) := by
  apply solid_cons
  . by_contra hspace
    simp only [isSpace, Bool.not_eq_false, Bool.or_eq_true, beq_iff_eq] at hspace
    rcases hspace with rfl | rfl <;> revert hc <;> decide
  . refine ⟨?_, ?_, ?_⟩
    all_goals
      rintro rfl
      revert hc
      decide

theorem IsBare.keyChars (h : IsBare key) : ∀ c ∈ key.toList, isKeyChar c = true :=
  List.all_eq_true.1 h.2

theorem IsBare.solid_append (h : IsBare key) (rest : List Char) : Solid (key.toList ++ rest) := by
  obtain ⟨c, u, hkey⟩ := List.exists_cons_of_ne_nil h.1
  rw [hkey, List.cons_append]
  apply solid_of_isKeyChar
  apply h.keyChars
  rw [hkey]
  exact List.mem_cons_self

theorem IsBare.append_ne_cons (h : IsBare key) {c : Char} (hc : isKeyChar c = false) (rest u : List Char)
    : key.toList ++ rest ≠ c :: u := by
  obtain ⟨d, w, hkey⟩ := List.exists_cons_of_ne_nil h.1
  have hd := h.keyChars d (by simp [hkey])
  rw [hkey]
  rintro ⟨⟩
  rw [hd] at hc
  contradiction

theorem IsBare.ne_datetimeMark (h : IsBare key) : key ≠ datetimeMark := by
  rintro rfl
  have hdollar := h.keyChars '$' (by decide)
  revert hdollar
  decide

theorem readKeyPart?_of_isBare {c : Char} (h : IsBare key) (hc : isKeyChar c = false)
    : readKeyPart? (key.toList ++ c :: rest) = some (key, c :: rest) := by
  have htake : (key.toList ++ c :: rest).takeWhile isKeyChar = key.toList := by
    rw [List.takeWhile_append_of_pos h.keyChars, List.takeWhile_cons_of_neg (by simp [hc]), List.append_nil]
  have hdrop : (key.toList ++ c :: rest).dropWhile isKeyChar = c :: rest := by
    rw [List.dropWhile_append_of_pos h.keyChars, List.dropWhile_cons_of_neg (by simp [hc])]
  unfold readKeyPart?
  split
  . next heq => exact absurd heq (h.append_ne_cons (by decide) _ _)
  . next heq => exact absurd heq (h.append_ne_cons (by decide) _ _)
  . rw [htake, hdrop]
    split
    . next hnil => exact absurd hnil h.1
    . simp

theorem readKey?_of_isBare {c : Char} (h : IsBare key) (hc : isKeyChar c = false) (rest : List Char)
    (hdot : ∀ u, skipSpaces (c :: rest) ≠ '.' :: u)
    : readKey? (key.toList ++ c :: rest) = some (([], key), skipSpaces (c :: rest)) := by
  have hparts : readKeyParts? nestingLimit (key.toList ++ c :: rest)
      = some ([key], skipSpaces (c :: rest)) := by
    rw [nestingLimit, readKeyParts?, (h.solid_append _).skipSpaces_eq, readKeyPart?_of_isBare h hc]
    simp
  rw [readKey?, hparts]
  simp [nestingLimit]

end Keys

section Statements

def Reads (text : List Char) (statements : List Statement) : Prop :=
  ∀ fuel, text.length < fuel → readStatements? fuel text = some statements

theorem reads_nil : Reads [] [] := by
  intro fuel hfuel
  obtain ⟨fuel, rfl⟩ := Nat.exists_eq_add_one_of_ne_zero (Nat.ne_of_gt hfuel)
  rfl

theorem Reads.newline (h : Reads text others) (hsolid : Solid text)
    : Reads ('\n' :: text) others := by
  intro fuel hfuel
  obtain ⟨fuel, rfl⟩ := Nat.exists_eq_add_one_of_ne_zero (Nat.ne_of_gt (Nat.zero_lt_of_lt hfuel))
  obtain ⟨c, u, rfl, -⟩ := hsolid
  exact h fuel (by simpa using hfuel)

theorem readLineEnd?_newline (rest : List Char) : readLineEnd? ('\n' :: rest) = some rest := rfl

theorem Solid.readLineEnd?_eq (h : Solid text) : readLineEnd? text = none := by
  have hnewline := h.readNewline?_eq
  rw [readLineEnd?, h.skipSpaces_eq, h.skipComment_eq]
  obtain ⟨c, u, rfl, -⟩ := h
  exact hnewline

theorem Reads.cons (h : Reads rest others) (hsolid : Solid (text ++ '\n' :: rest))
    (hread : readStatement? (text ++ '\n' :: rest) = some (first, '\n' :: rest))
    : Reads (text ++ '\n' :: rest) (first :: others) := by
  intro fuel hfuel
  obtain ⟨fuel, rfl⟩ := Nat.exists_eq_add_one_of_ne_zero (Nat.ne_of_gt (Nat.zero_lt_of_lt hfuel))
  have hrest : rest.length < fuel := by
    simp only [List.length_append, List.length_cons] at hfuel
    omega
  rw [readStatements?, hsolid.readLineEnd?_eq, hsolid.skipSpaces_eq, hread]
  simp [readLineEnd?_newline, h fuel hrest]

theorem readStatement?_assign (hkey : IsBare key) (hvalue : Denotes text v)
    : readStatement? (key.toList ++ " = ".toList ++ text ++ '\n' :: rest)
        =
      some (.assign [] key v, '\n' :: rest) := by
  have htext : key.toList ++ " = ".toList ++ text ++ '\n' :: rest
      = key.toList ++ ' ' :: '=' :: ' ' :: (text ++ '\n' :: rest) := by
    simp
  have hgap : skipSpaces (' ' :: '=' :: ' ' :: (text ++ '\n' :: rest))
      = '=' :: ' ' :: (text ++ '\n' :: rest) := rfl
  have hspace : skipSpaces (' ' :: (text ++ '\n' :: rest)) = text ++ '\n' :: rest :=
    (hvalue.solid.append _).skipSpaces_append [' '] rfl
  have hread := readKey?_of_isBare hkey (by decide : isKeyChar ' ' = false)
    ('=' :: ' ' :: (text ++ '\n' :: rest)) (by simp [hgap])
  rw [htext, readStatement?]
  . rw [readAssign?, hread, hgap]
    simp [skip?, hspace, hvalue.read]
  . intro u
    exact hkey.append_ne_cons (by decide) _ _
  . intro u
    exact hkey.append_ne_cons (by decide) _ _

theorem readStatement?_header (hkey : IsBare key)
    : readStatement? ('[' :: key.toList ++ [']'] ++ '\n' :: rest)
        =
      some (.header [] key, '\n' :: rest) := by
  have htext : '[' :: key.toList ++ [']'] ++ '\n' :: rest
      = '[' :: (key.toList ++ ']' :: '\n' :: rest) := by
    simp
  have hgap : skipSpaces (']' :: '\n' :: rest) = ']' :: '\n' :: rest := rfl
  have hread := readKey?_of_isBare hkey (by decide : isKeyChar ']' = false) ('\n' :: rest)
    (by simp [hgap])
  rw [htext, readStatement?, hread, hgap]
  . simp [skip?]
  . intro u
    exact hkey.append_ne_cons (by decide) _ _

end Statements

structure Line where
  key : String
  text : List Char
  value : Toml

structure Table where
  name : String
  lines : List Line

structure Line.WellFormed (line : Line) : Prop where
  bare : IsBare line.key
  denotes : Denotes line.text line.value

structure Table.WellFormed (table : Table) : Prop where
  bare : IsBare table.name
  lines : ∀ line ∈ table.lines, line.WellFormed
  distinct : (table.lines.map Line.key).Nodup

namespace Line

variable {line : Line}

def render (line : Line) : List Char := renderAssign line.key line.text

def statement (line : Line) : Statement := .assign [] line.key line.value

def member (line : Line) : String × Toml := (line.key, line.value)

theorem WellFormed.reads_render (hline : line.WellFormed) (h : Reads rest others)
    : Reads (line.render ++ rest) (line.statement :: others) := by
  have htext : line.render ++ rest
      = line.key.toList ++ " = ".toList ++ line.text ++ '\n' :: rest := by
    simp [render, renderAssign]
  have hsolid : Solid (line.key.toList ++ " = ".toList ++ line.text ++ '\n' :: rest) := by
    rw [List.append_assoc, List.append_assoc]
    exact hline.bare.solid_append _
  rw [htext]
  exact h.cons hsolid (readStatement?_assign hline.bare hline.denotes)

end Line

namespace Table

variable {table : Table} {tables : List Table} {lines : List Line}

def render (table : Table) : List Char := renderTable table.name (table.lines.map Line.render)

def statements (table : Table) : List Statement :=
  .header [] table.name :: table.lines.map Line.statement

def member (table : Table) : String × Toml := (table.name, .table (table.lines.map Line.member))

theorem reads_lines (hlines : ∀ line ∈ lines, line.WellFormed) (h : Reads rest others)
    : Reads ((lines.map Line.render).flatten ++ rest) (lines.map Line.statement ++ others) := by
  induction lines with
  | nil => exact h
  | cons line lines ih =>
    obtain ⟨hline, hlines⟩ := List.forall_mem_cons.1 hlines
    have hreads := hline.reads_render (ih hlines)
    simpa using hreads

theorem WellFormed.reads_render (htable : table.WellFormed) (h : Reads rest others)
    : Reads (table.render ++ rest) (table.statements ++ others) := by
  have htext : table.render ++ rest
      = '[' :: table.name.toList ++ [']'] ++ '\n' :: ((table.lines.map Line.render).flatten ++ rest) := by
    simp [render, renderTable]
  rw [htext]
  exact (reads_lines htable.lines h).cons (solid_cons (by decide) (by decide) _)
    (readStatement?_header htable.bare)

theorem renderTables_eq_cons (table : Table) (tables : List Table)
    : ∃ u, renderTables ((table :: tables).map render) = '[' :: u := by
  cases tables with
  | nil => exact ⟨_, List.intercalate_singleton⟩
  | cons next tables => exact ⟨_, List.intercalate_cons_cons⟩

theorem solid_renderTables (table : Table) (tables : List Table)
    : Solid (renderTables ((table :: tables).map render)) := by
  obtain ⟨u, htext⟩ := renderTables_eq_cons table tables
  rw [htext]
  exact solid_cons (by decide) (by decide) u

theorem reads_renderTables (htables : ∀ table ∈ tables, table.WellFormed)
    : Reads (renderTables (tables.map render)) (tables.flatMap statements) := by
  induction tables with
  | nil => exact reads_nil
  | cons table tables ih =>
    obtain ⟨htable, htables⟩ := List.forall_mem_cons.1 htables
    cases tables with
    | nil =>
      have hreads := htable.reads_render reads_nil
      simpa [renderTables] using hreads
    | cons next tables =>
      have hreads := htable.reads_render ((ih htables).newline (solid_renderTables next tables))
      simpa [renderTables, List.intercalate_cons_cons] using hreads

end Table

section Documents

variable {members : List (String × Item)} {inner : List (String × Item)} {name : String}

theorem add_header (hname : name ∉ members.map Prod.fst) (current : List String)
    : Document.add ⟨members, current⟩ (.header [] name)
        =
      some ⟨members ++ [(name, .table .header [])], [name]⟩ := by
  have hlookup := Keyed.lookup_eq_none_iff.2 hname
  simp [Document.add, Document.change, Item.change, Item.openTable, hlookup,
    Keyed.put_of_lookup_eq_none]

theorem add_assign (hname : name ∉ members.map Prod.fst) (hkey : key ∉ inner.map Prod.fst)
    : Document.add ⟨members ++ [(name, .table .header inner)], [name]⟩ (.assign [] key v)
        =
      some ⟨members ++ [(name, .table .header (inner ++ [(key, .value v)]))], [name]⟩ := by
  have hlookup := Keyed.lookup_eq_none_iff.2 hname
  have hinner := Keyed.lookup_eq_none_iff.2 hkey
  simp [Document.add, Document.change, Item.change, Item.assignAt, Item.assign, hlookup, hinner,
    Keyed.put_of_lookup_eq_none, Keyed.put_append_singleton, List.lookup_append]

def Line.item (line : Line) : String × Item := (line.key, .value line.value)

def Table.item (table : Table) : String × Item :=
  (table.name, .table .header (table.lines.map Line.item))

theorem foldlM_lines (hname : name ∉ members.map Prod.fst) (lines : List Line)
    (hkeys : (inner.map Prod.fst ++ lines.map Line.key).Nodup)
    : (lines.map Line.statement).foldlM Document.add ⟨members ++ [(name, .table .header inner)], [name]⟩
        =
      some ⟨members ++ [(name, .table .header (inner ++ lines.map Line.item))], [name]⟩ := by
  induction lines generalizing inner with
  | nil => simp
  | cons line lines ih =>
    have hkey : line.key ∉ inner.map Prod.fst := by
      intro hmem
      exact (List.nodup_append.1 hkeys).2.2 _ hmem _ (by simp) rfl
    have hrest : ((inner ++ [line.item]).map Prod.fst ++ lines.map Line.key).Nodup := by
      simpa [Line.item] using hkeys
    rw [List.map_cons, List.foldlM_cons, Line.statement, add_assign hname hkey]
    simpa [Line.item] using ih hrest

theorem foldlM_table {table : Table} (htable : table.WellFormed)
    (hname : table.name ∉ members.map Prod.fst) (current : List String)
    : table.statements.foldlM Document.add ⟨members, current⟩
        =
      some ⟨members ++ [table.item], [table.name]⟩ := by
  have hkeys : (([] : List (String × Item)).map Prod.fst ++ table.lines.map Line.key).Nodup :=
    htable.distinct
  have hlines := foldlM_lines hname table.lines hkeys
  rw [Table.statements, List.foldlM_cons, add_header hname]
  simpa [Table.item] using hlines

theorem foldlM_tables {tables : List Table} (htables : ∀ table ∈ tables, table.WellFormed)
    (hnames : (members.map Prod.fst ++ tables.map Table.name).Nodup) (current : List String)
    : ∃ last, (tables.flatMap Table.statements).foldlM Document.add ⟨members, current⟩
        =
      some ⟨members ++ tables.map Table.item, last⟩ := by
  induction tables generalizing members current with
  | nil => exact ⟨current, by simp⟩
  | cons table tables ih =>
    obtain ⟨htable, htables⟩ := List.forall_mem_cons.1 htables
    have hname : table.name ∉ members.map Prod.fst := by
      intro hmem
      exact (List.nodup_append.1 hnames).2.2 _ hmem _ (by simp) rfl
    have hrest : ((members ++ [table.item]).map Prod.fst ++ tables.map Table.name).Nodup := by
      simpa [Table.item] using hnames
    obtain ⟨last, hlast⟩ := ih htables hrest [table.name]
    refine ⟨last, ?_⟩
    rw [List.flatMap_cons, List.foldlM_append, foldlM_table htable hname]
    simpa using hlast

theorem membersToToml_lines (lines : List Line)
    : Item.membersToToml (lines.map Line.item) = lines.map Line.member := by
  induction lines with
  | nil => rfl
  | cons line lines ih =>
    simp [Item.membersToToml, Line.item, Line.member, Item.toToml, ih]

theorem membersToToml_tables (tables : List Table)
    : Item.membersToToml (tables.map Table.item) = tables.map Table.member := by
  induction tables with
  | nil => rfl
  | cons table tables ih =>
    simp [Item.membersToToml, Table.item, Table.member, Item.toToml, membersToToml_lines, ih]

theorem ofStatements?_tables {tables : List Table} (htables : ∀ table ∈ tables, table.WellFormed)
    (hnames : (tables.map Table.name).Nodup)
    : Document.ofStatements? (tables.flatMap Table.statements) = some (tables.map Table.member) := by
  have hfirst : (([] : List (String × Item)).map Prod.fst ++ tables.map Table.name).Nodup := hnames
  obtain ⟨last, hlast⟩ := foldlM_tables htables hfirst []
  rw [Document.ofStatements?, Document.empty, hlast]
  simp [membersToToml_tables]

end Documents

section Marks

theorem unmark?_table {members : List (String × Toml)}
    (h : ∀ m ∈ members, m.1 ≠ datetimeMark ∧ unmark? m.2 = some m.2)
    : unmark? (.table members) = some (.table members) := by
  have hmembers : ∀ members : List (String × Toml), (∀ m ∈ members, unmark? m.2 = some m.2) →
      unmarkMembers? members = some members := by
    intro members hmembers
    induction members with
    | nil => rw [unmarkMembers?]
    | cons m members ih =>
      obtain ⟨hm, hmembers⟩ := List.forall_mem_cons.1 hmembers
      rw [unmarkMembers?, hm, ih hmembers]
      rfl
  cases members with
  | nil => rw [unmark?]
  | cons m members =>
    obtain ⟨hm, hrest⟩ := List.forall_mem_cons.1 h
    rw [unmark?, if_neg hm.1, hm.2, hmembers members (fun m hm => (hrest m hm).2)]
    rfl

theorem unmark?_tables {tables : List Table} (htables : ∀ table ∈ tables, table.WellFormed)
    : unmark? (.table (tables.map Table.member)) = some (.table (tables.map Table.member)) := by
  apply unmark?_table
  intro m hm
  obtain ⟨table, htable, rfl⟩ := List.mem_map.1 hm
  refine ⟨(htables table htable).bare.ne_datetimeMark, ?_⟩
  apply unmark?_table
  intro m hm
  obtain ⟨line, hline, rfl⟩ := List.mem_map.1 hm
  have hwritten := (htables table htable).lines line hline
  exact ⟨hwritten.bare.ne_datetimeMark, hwritten.denotes.unmark⟩

end Marks

theorem skipMark_renderTables (tables : List Table)
    : skipMark (renderTables (tables.map Table.render)) = renderTables (tables.map Table.render) := by
  cases tables with
  | nil => rfl
  | cons table tables =>
    obtain ⟨u, htext⟩ := Table.renderTables_eq_cons table tables
    rw [htext]
    rfl

theorem parse?_renderTables {tables : List Table} (htables : ∀ table ∈ tables, table.WellFormed)
    (hnames : (tables.map Table.name).Nodup)
    : parse? (renderTables (tables.map Table.render)) = some (tables.map Table.member) := by
  have hreads := Table.reads_renderTables htables _ (Nat.lt_add_one _)
  rw [parse?, skipMark_renderTables]
  simp [hreads, ofStatements?_tables htables hnames, unmark?_tables htables]

end SourceCookie.Toml
