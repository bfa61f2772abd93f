import SourceCookie.Config.Path

/-!
What becomes of a file of tables when it is the first source of settings: as long as the names are
distinct and in lower case, every table is there under its name, with the values that it has in the file.
-/

namespace SourceCookie.Tree

variable {name : String} {value t : Tree} {origin : Option String} {file : String}
  {members added : List (String × Tree)}

def Replaces (value : Tree) : Prop := ∀ origin members, value ≠ table origin members

structure Separate (members : List (String × Tree)) : Prop where
  distinct : (members.map Prod.fst).Nodup
  lower : ∀ m ∈ members, LowerCase.render m.1 = m.1

theorem separate_map {α : Type} {name : α → String} {items : List α} (value : α → Tree)
    (hdistinct : (items.map name).Nodup) (hlower : ∀ a ∈ items, LowerCase.render (name a) = name a)
    : Separate (items.map fun a => (name a, value a)) := by
  constructor
  . rw [List.map_map]
    exact hdistinct
  . intro m hm
    obtain ⟨a, ha, rfl⟩ := List.mem_map.1 hm
    exact hlower a ha

theorem changeMember_of_lower (hlower : LowerCase.render name = name)
    (hname : name ∉ members.map Prod.fst) (f : Option Tree → Tree)
    : changeMember name f (table origin members) = table origin (members ++ [(name, f none)]) := by
  have hlookup := Keyed.lookup_eq_none_iff.2 hname
  simp [changeMember, asTable, hlower, hlookup, Keyed.put_of_lookup_eq_none]

theorem setMember_of_replaces (hvalue : value.Replaces) (t : Tree)
    : setMember name value t = changeMember name (fun _ => value) t := by
  cases value with
  | table origin members => exact absurd rfl (hvalue origin members)
  | blank => rw [setMember]
  | scalar origin s => rw [setMember]
  | list origin items => rw [setMember]

theorem Separate.not_mem (h : Separate (members ++ (name, value) :: added))
    : name ∉ members.map Prod.fst := by
  have hdistinct := h.distinct
  rw [List.map_append] at hdistinct
  intro hmem
  exact (List.nodup_append.1 hdistinct).2.2 name hmem name (by simp) rfl

theorem setMembers_append (h : Separate (members ++ added)) (hvalues : ∀ m ∈ added, m.2.Replaces)
    : setMembers added (table origin members) = table origin (members ++ added) := by
  induction added generalizing members with
  | nil => simp [setMembers]
  | cons m added ih =>
    obtain ⟨name, value⟩ := m
    obtain ⟨hvalue, hvalues⟩ := List.forall_mem_cons.1 hvalues
    have hlower := h.lower (name, value) (by simp)
    rw [setMembers, setMember_of_replaces hvalue, changeMember_of_lower hlower h.not_mem, ih]
    . simp
    . simpa using h
    . exact hvalues

def ofPart (origin : Option String) (part : String × List (String × Tree)) : String × Tree :=
  (part.1, table origin part.2)

theorem set_part {part : String × List (String × Tree)} (hlower : LowerCase.render part.1 = part.1)
    (hname : part.1 ∉ members.map Prod.fst) (hpath : Path.ofKey part.1 = ⟨part.1, []⟩)
    (hseparate : Separate part.2) (hvalues : ∀ m ∈ part.2, m.2.Replaces)
    : (table origin members).set (Path.ofKey part.1) (table (some file) part.2)
        =
      table origin (members ++ [ofPart none part]) := by
  have hinner : setMembers part.2 empty = table none part.2 :=
    setMembers_append (by simpa using hseparate) hvalues
  rw [hpath, set, setSteps, setMember, changeMember_of_lower hlower hname, Option.getD_none, hinner]
  rfl

theorem addSource_append {parts : List (String × List (String × Tree))}
    (h : Separate (members ++ parts.map (ofPart none)))
    (hpaths : ∀ part ∈ parts, Path.ofKey part.1 = ⟨part.1, []⟩)
    (hparts : ∀ part ∈ parts, Separate part.2 ∧ ∀ m ∈ part.2, m.2.Replaces)
    : (table origin members).addSource (parts.map (ofPart (some file)))
        =
      table origin (members ++ parts.map (ofPart none)) := by
  induction parts generalizing members with
  | nil => simp [addSource]
  | cons part parts ih =>
    obtain ⟨hpath, hpaths⟩ := List.forall_mem_cons.1 hpaths
    obtain ⟨⟨hseparate, hvalues⟩, hparts⟩ := List.forall_mem_cons.1 hparts
    have hlower : LowerCase.render part.1 = part.1 := h.lower (ofPart none part) (by simp)
    have hname : part.1 ∉ members.map Prod.fst := Separate.not_mem h
    have hrest : Separate (members ++ [ofPart none part] ++ parts.map (ofPart none)) := by
      simpa using h
    rw [List.map_cons, addSource, List.foldl_cons]
    show addSource (set _ (Path.ofKey part.1) (table (some file) part.2)) _ = _
    rw [set_part hlower hname hpath hseparate hvalues, ih hrest hpaths hparts]
    simp

theorem ofTomlMembers_eq_map (file : String) (members : List (String × Toml))
    : ofTomlMembers file members = members.map fun m => (m.1, ofToml file m.2) := by
  induction members with
  | nil => rfl
  | cons m members ih =>
    rw [ofTomlMembers, ih]
    rfl

theorem ofTomlItems_eq_map (file : String) (items : List Toml)
    : ofTomlItems file items = items.map (ofToml file) := by
  induction items with
  | nil => rfl
  | cons item items ih =>
    rw [ofTomlItems, ih]
    rfl

end SourceCookie.Tree
