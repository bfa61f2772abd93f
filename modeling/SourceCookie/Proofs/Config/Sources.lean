import SourceCookie.Config.Path

/-!
What a source of settings does to a tree, seen from one setting. A key of the source is a path. It may lead
to the section of the setting, with a table that may hold the setting, or through the section to the
setting itself and below it; every other key leaves the setting as it is.
-/

namespace SourceCookie

namespace Tree

def IsTable (t : Tree) : Prop := ∃ origin members, t = table origin members

def member? (t : Tree) (name : String) : Option Tree := t.asTable.2.lookup name

def setting? (t : Tree) (part name : String) : Option Tree := (t.member? part).bind (·.member? name)

def merge (value : Tree) (old : Option Tree) : Tree :=
  match value with
  | table _ members => setMembers members (old.getD empty)
  | value => value

def mergeBelow (value : Tree) : List Path.Step → Option Tree → Tree
  | [], old => value.merge old
  | step :: steps, old => setSteps value step steps (old.getD blank)

def names (name : String) (m : String × Tree) : Bool := LowerCase.render m.1 = name

abbrev Mention := List Path.Step × Tree

def mentions (part name : String) (path : Path) (value : Tree) : List Mention :=
  if LowerCase.render path.name = part then
    match path.steps, value with
    | [], table _ members => (members.filter (names name)).map fun m => ([], m.2)
    | .member key :: steps, value => if LowerCase.render key = name then [(steps, value)] else []
    | _, _ => []
  else []

def changed (old : Option Tree) (mentions : List Mention) : Option Tree :=
  mentions.foldl (fun old m => some (m.2.mergeBelow m.1 old)) old

/-- A value set at a path leaves the section `part` a table: it is a table itself, or goes on by a name. -/
def KeepsTable (part : String) (path : Path) (value : Tree) : Prop :=
  LowerCase.render path.name = part →
    path.steps = [] ∧ value.IsTable ∨ ∃ key steps, path.steps = .member key :: steps

variable {t value : Tree} {name part : String} {path : Path}

section Members

theorem isTable_changeMember (name : String) (f : Option Tree → Tree) (t : Tree)
    : (changeMember name f t).IsTable :=
  ⟨_, _, rfl⟩

theorem member?_changeMember (name other : String) (f : Option Tree → Tree) (t : Tree)
    : (changeMember name f t).member? other
        =
      if LowerCase.render name = other then some (f (t.member? other)) else t.member? other := by
  by_cases h : LowerCase.render name = other
  . subst h
    rw [if_pos rfl]
    exact Keyed.lookup_put_self _ _ _
  . rw [if_neg h]
    exact Keyed.lookup_put_of_ne (Ne.symm h) _ _

theorem setMember_eq (name : String) (value t : Tree)
    : setMember name value t = changeMember name value.merge t := by
  cases value <;> rw [setMember] <;> rfl

theorem changed_append (old : Option Tree) (before after : List Mention)
    : changed old (before ++ after) = changed (changed old before) after :=
  List.foldl_append

theorem member?_setMembers (members : List (String × Tree)) (t : Tree) (name : String)
    : (setMembers members t).member? name
        =
      changed (t.member? name) ((members.filter (names name)).map fun m => ([], m.2)) := by
  induction members generalizing t with
  | nil => rfl
  | cons m members ih =>
    rw [setMembers, ih, setMember_eq, member?_changeMember]
    by_cases h : LowerCase.render m.1 = name
    . rw [if_pos h, List.filter_cons_of_pos (by simpa [names] using h)]
      rfl
    . rw [if_neg h, List.filter_cons_of_neg (by simpa [names] using h)]

theorem isTable_setMembers (h : t.IsTable) (members : List (String × Tree))
    : (setMembers members t).IsTable := by
  induction members generalizing t with
  | nil => exact h
  | cons m members ih =>
    rw [setMembers, setMember_eq]
    exact ih (isTable_changeMember _ _ _)

end Members

section Sets

theorem setSteps_member (value : Tree) (key : String) (steps : List Path.Step) (t : Tree)
    : setSteps value (.member key) steps t = changeMember key (value.mergeBelow steps) t := by
  cases steps with
  | nil => rw [setSteps, setMember_eq]; rfl
  | cons step steps => rw [setSteps]; rfl

theorem member?_set (t : Tree) (path : Path) (value : Tree) (part : String)
    : (t.set path value).member? part
        =
      if LowerCase.render path.name = part then some (value.mergeBelow path.steps (t.member? part))
      else t.member? part := by
  rw [set, setSteps_member, member?_changeMember]

theorem member?_getD (old : Option Tree) {t : Tree} (ht : t.member? name = none)
    : (old.getD t).member? name = old.bind (·.member? name) := by
  cases old with
  | none => exact ht
  | some s => rfl

theorem mentions_of_ne (h : LowerCase.render path.name ≠ part) (name : String) (value : Tree)
    : mentions part name path value = [] :=
  if_neg h

theorem mentions_of_member {key : String} {steps : List Path.Step} (h : path.steps = .member key :: steps)
    (part name : String) (value : Tree)
    : mentions part name path value
        =
      if LowerCase.render path.name = part ∧ LowerCase.render key = name then [(steps, value)] else [] := by
  unfold mentions
  rw [h]
  split <;> simp [*]

theorem member?_mergeBelow (h : KeepsTable part path value) (hpart : LowerCase.render path.name = part)
    (old : Option Tree) (name : String)
    : (value.mergeBelow path.steps old).member? name
        =
      changed (old.bind (·.member? name)) (mentions part name path value) := by
  unfold mentions
  rw [if_pos hpart]
  rcases h hpart with ⟨hsteps, origin, members, rfl⟩ | ⟨key, steps, hsteps⟩
  . simp only [hsteps, mergeBelow, merge]
    rw [member?_setMembers, member?_getD old rfl]
  . simp only [hsteps, mergeBelow]
    rw [setSteps_member, member?_changeMember, member?_getD old rfl]
    split <;> rfl

theorem setting?_set (h : KeepsTable part path value) (t : Tree) (name : String)
    : (t.set path value).setting? part name
        =
      changed (t.setting? part name) (mentions part name path value) := by
  unfold setting?
  rw [member?_set]
  by_cases hpart : LowerCase.render path.name = part
  . rw [if_pos hpart]
    exact member?_mergeBelow h hpart _ name
  . unfold mentions
    rw [if_neg hpart, if_neg hpart]
    rfl

def SectionIsTable (t : Tree) (part : String) : Prop := ∀ s, t.member? part = some s → s.IsTable

theorem SectionIsTable.set (ht : t.SectionIsTable part) (h : KeepsTable part path value)
    : (t.set path value).SectionIsTable part := by
  intro s hs
  rw [member?_set] at hs
  split at hs
  . next hpart =>
    obtain rfl := Option.some.inj hs
    -- the section is given as a whole table, or one of its members is set
    rcases h hpart with ⟨hsteps, origin, members, rfl⟩ | ⟨key, steps, hsteps⟩
    . rw [hsteps]
      apply isTable_setMembers
      cases hold : t.member? part with
      | none => exact ⟨none, [], rfl⟩
      | some old => exact ht old hold
    . rw [hsteps, mergeBelow, setSteps_member]
      exact isTable_changeMember _ _ _
  . exact ht s hs

end Sets

section Sources

def sourceMentions (source : List (String × Tree)) (part name : String) : List Mention :=
  source.flatMap fun entry => mentions part name (.ofKey entry.1) entry.2

theorem sourceMentions_append (source source' : List (String × Tree)) (part name : String)
    : sourceMentions (source ++ source') part name
        =
      sourceMentions source part name ++ sourceMentions source' part name :=
  List.flatMap_append

theorem sourceMentions_singleton (entry : String × Tree) (part name : String)
    : sourceMentions [entry] part name = mentions part name (.ofKey entry.1) entry.2 :=
  List.flatMap_singleton _ _

theorem addSource_cons (t : Tree) (entry : String × Tree) (source : List (String × Tree))
    : t.addSource (entry :: source) = (t.set (.ofKey entry.1) entry.2).addSource source := rfl

theorem SectionIsTable.addSource {source : List (String × Tree)} (ht : t.SectionIsTable part)
    (h : ∀ entry ∈ source, KeepsTable part (.ofKey entry.1) entry.2)
    : (t.addSource source).SectionIsTable part := by
  induction source generalizing t with
  | nil => exact ht
  | cons entry source ih =>
    obtain ⟨hentry, hrest⟩ := List.forall_mem_cons.1 h
    exact ih (ht.set hentry) hrest

theorem setting?_addSource {source : List (String × Tree)}
    (h : ∀ entry ∈ source, KeepsTable part (.ofKey entry.1) entry.2) (t : Tree) (name : String)
    : (t.addSource source).setting? part name
        =
      changed (t.setting? part name) (sourceMentions source part name) := by
  induction source generalizing t with
  | nil => rfl
  | cons entry source ih =>
    obtain ⟨hentry, hrest⟩ := List.forall_mem_cons.1 h
    rw [addSource_cons, ih hrest, setting?_set hentry, ← changed_append]
    rfl

end Sources

end Tree

end SourceCookie
