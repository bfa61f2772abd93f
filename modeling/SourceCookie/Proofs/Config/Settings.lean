import SourceCookie.Config.Typed
import SourceCookie.Proofs.Config.Sources

/-!
Settings are independent of each other. Each is read back as it was set, and setting it leaves all others
as they are; so a configuration that is read out of a tree has, for every setting, what the tree holds at
its place, or else what it had before.
-/

namespace SourceCookie

def Setting.Unaffected (s other : Setting) : Prop :=
  ∀ x c, s.get (other.put x c) = s.get c

def Setting.ofFound (s : Setting) (found : Option Tree) (key : String) (c : Config)
    : Except LoadError Config :=
  match found with
  | some t => s.ofTree t key c
  | none => .ok c

namespace Config

structure Place where
  part : Section
  setting : Setting

def places : List Place :=
  sections.flatMap fun part => part.settings.map (⟨part, ·⟩)

theorem mem_places {p : Place} : p ∈ places ↔ p.part ∈ sections ∧ p.setting ∈ p.part.settings := by
  obtain ⟨part, setting⟩ := p
  simp [places]

namespace Place

def key (p : Place) : String := Tree.memberKey p.part.name p.setting.name

def find? (p : Place) (t : Tree) : Option Tree := t.setting? p.part.name p.setting.name

def Holds (p : Place) (found : Option Tree) (before c : Config) : Prop :=
  match found with
  | some t => p.setting.kind.ofTree t p.key = .ok (p.setting.get c)
  | none => p.setting.get c = p.setting.get before

end Place

theorem get_put : ∀ p ∈ places, ∀ x c, p.setting.get (p.setting.put x c) = x := by
  simp [places, sections, protocolSection, cacheSection, policySection, rotationSection, daemonSection,
    metricsSection, loggingSection]

theorem pairwise_unaffected
    : places.Pairwise fun p q => p.setting.Unaffected q.setting ∧ q.setting.Unaffected p.setting := by
  simp [places, sections, protocolSection, cacheSection, policySection, rotationSection, daemonSection,
    metricsSection, loggingSection, Setting.Unaffected]

variable {c d : Config} {t : Tree} {ps : List Place}

section Reading

theorem ofMembers_eq_foldlM (key : String) (members : List (String × Tree)) (settings : List Setting)
    (c : Config)
    : Section.ofMembers key members settings c
        =
      settings.foldlM (fun c s => s.ofFound (members.lookup s.name) (Tree.memberKey key s.name) c) c := by
  induction settings generalizing c with
  | nil => rfl
  | cons s settings ih =>
    rw [Section.ofMembers, List.foldlM_cons]
    simp only [ih]
    cases members.lookup s.name <;> rfl

theorem foldlM_ofFound_none (key : String) (settings : List Setting) (c : Config)
    : settings.foldlM (fun c s => s.ofFound none (Tree.memberKey key s.name) c) c = .ok c := by
  induction settings with
  | nil => rfl
  | cons s settings ih => exact ih

theorem ofSection_eq_foldlM (part : Section) (h : t.SectionIsTable part.name) (c : Config)
    : (match t.member? part.name with
        | some s => part.ofTree s c
        | none => .ok c)
        =
      part.settings.foldlM
        (fun c s => s.ofFound (t.setting? part.name s.name) (Tree.memberKey part.name s.name) c) c := by
  unfold Tree.setting?
  cases hfound : t.member? part.name with
  | none => exact (foldlM_ofFound_none part.name part.settings c).symm
  | some s =>
    obtain ⟨origin, members, rfl⟩ := h s hfound
    exact ofMembers_eq_foldlM part.name members part.settings c

theorem ofSections_eq_foldlM (parts : List Section) (h : ∀ part ∈ parts, t.SectionIsTable part.name)
    (c : Config)
    : ofSections t.asTable.2 parts c
        =
      (parts.flatMap fun part => part.settings.map (Place.mk part)).foldlM
        (fun c p => p.setting.ofFound (p.find? t) p.key c) c := by
  induction parts generalizing c with
  | nil => rfl
  | cons part parts ih =>
    obtain ⟨hpart, hrest⟩ := List.forall_mem_cons.1 h
    have hsection := ofSection_eq_foldlM part hpart c
    rw [ofSections, List.flatMap_cons, List.foldlM_append, List.foldlM_map]
    simp only [ih hrest]
    unfold Place.find? Place.key
    rw [← hsection, Tree.member?]
    cases t.asTable.2.lookup part.name <;> rfl

end Reading

section Holding

theorem Place.Holds.of_get_eq {p : Place} {found : Option Tree} {before c c' : Config}
    (h : p.Holds found before c) (heq : p.setting.get c' = p.setting.get c)
    : p.Holds found before c' := by
  unfold Holds at h ⊢
  rw [heq]
  exact h

theorem Place.Holds.of_get_before_eq {p : Place} {found : Option Tree} {before before' c : Config}
    (h : p.Holds found before c) (heq : p.setting.get before' = p.setting.get before)
    : p.Holds found before' c := by
  unfold Holds at h ⊢
  rw [heq]
  exact h

theorem ofFound_eq_ok {p : Place} (hput : ∀ x c, p.setting.get (p.setting.put x c) = x)
    {found : Option Tree} (hfound : ∀ t, found = some t → ∃ x, p.setting.kind.ofTree t p.key = .ok x)
    (c : Config)
    : ∃ d, p.setting.ofFound found p.key c = .ok d ∧ p.Holds found c d ∧
        ∀ s : Setting, s.Unaffected p.setting → s.get d = s.get c := by
  cases found with
  | none => exact ⟨c, rfl, rfl, fun _ _ => rfl⟩
  | some t =>
    obtain ⟨x, hx⟩ := hfound t rfl
    refine ⟨p.setting.put x c, ?_, ?_, fun s hs => hs x c⟩
    . simp only [Setting.ofFound, Setting.ofTree, hx]
      rfl
    . show p.setting.kind.ofTree t p.key = .ok (p.setting.get (p.setting.put x c))
      rw [hput, hx]

theorem foldlM_ofFound_eq_ok (found : Place → Option Tree)
    (hput : ∀ p ∈ ps, ∀ x c, p.setting.get (p.setting.put x c) = x)
    (hpairwise : ps.Pairwise fun p q =>
      p.setting.Unaffected q.setting ∧ q.setting.Unaffected p.setting)
    (hfound : ∀ p ∈ ps, ∀ t, found p = some t → ∃ x, p.setting.kind.ofTree t p.key = .ok x) (c : Config)
    : ∃ d, ps.foldlM (fun c p => p.setting.ofFound (found p) p.key c) c = .ok d ∧
        (∀ p ∈ ps, p.Holds (found p) c d) ∧
        ∀ s : Setting, (∀ p ∈ ps, s.Unaffected p.setting) → s.get d = s.get c := by
  -- a setting that was read is not touched by those after it
  induction ps generalizing c with
  | nil => exact ⟨c, rfl, nofun, fun _ _ => rfl⟩
  | cons p ps ih =>
    rw [List.forall_mem_cons] at hput hfound
    obtain ⟨happart, hpairwise⟩ := List.pairwise_cons.1 hpairwise
    obtain ⟨c₁, hread, hholds, hkeeps⟩ := ofFound_eq_ok hput.1 hfound.1 c
    obtain ⟨d, hrest, hholdsRest, hkeepsRest⟩ := ih hput.2 hpairwise hfound.2 c₁
    refine ⟨d, ?_, ?_, ?_⟩
    . rw [List.foldlM_cons, hread]
      exact hrest
    . rw [List.forall_mem_cons]
      constructor
      . exact hholds.of_get_eq (hkeepsRest p.setting fun q hq => (happart q hq).1)
      . intro q hq
        exact (hholdsRest q hq).of_get_before_eq (hkeeps q.setting (happart q hq).2).symm
    . intro s hs
      rw [List.forall_mem_cons] at hs
      rw [hkeepsRest s hs.2, hkeeps s hs.1]

end Holding

theorem ofTree_eq_ok (htables : ∀ part ∈ sections, t.SectionIsTable part.name)
    (hconverts : ∀ p ∈ places, ∀ value, p.find? t = some value →
      ∃ x, p.setting.kind.ofTree value p.key = .ok x)
    : ∃ c, ofTree t = .ok c ∧ ∀ p ∈ places, p.Holds (p.find? t) {} c := by
  obtain ⟨c, hread, hholds, _⟩ :=
    foldlM_ofFound_eq_ok (·.find? t) get_put pairwise_unaffected hconverts {}
  refine ⟨c, ?_, hholds⟩
  rw [ofTree, ofSections_eq_foldlM sections htables]
  exact hread

end Config

end SourceCookie
