import SourceCookie.Config.Load
import SourceCookie.Proofs.Config.Merging
import SourceCookie.Proofs.Config.Saving

/-!
Loading undoes saving. Every value is converted back to itself, every section finds its table and every
setting its value in it, and so the configuration that is loaded agrees with the saved one everywhere.
-/

namespace SourceCookie

variable {c d : Config} {file key : String} {members : List (String × Tree)}

section Values

theorem textsFrom_map (key : String) (i : Nat) (items : List String)
    : Tree.textsFrom key i (items.map fun s => .scalar file (.text s)) = .ok items := by
  induction items generalizing i with
  | nil => rfl
  | cons s items ih =>
    rw [List.map_cons, Tree.textsFrom, ih]
    rfl

theorem ofName?_name (p : UnmarkedPolicy) : UnmarkedPolicy.ofName? (LowerCase.render p.name) = some p := by
  cases p <;> decide +kernel

theorem natural_ofToml (n : Nat) (key : String)
    : (Tree.ofToml file (.integer n)).natural key = .ok n := by
  simp [Tree.ofToml, Tree.natural]

theorem naturalBelow_ofToml {n bound : Nat} (h : n < bound) (expected : Expected) (key : String)
    : (Tree.ofToml file (.integer n)).naturalBelow bound expected key = .ok n := by
  rw [Tree.naturalBelow, natural_ofToml]
  show (if n < bound then _ else _) = _
  rw [if_pos h]

theorem Kind.ofTree_toToml (k : Kind) (x : k.Carrier)
    : Kind.ofTree (Tree.ofToml file (k.toToml x)) key k = .ok x := by
  cases k with
  | natural64 =>
    rw [toToml, Kind.ofTree, natural_ofToml]
    exact congrArg Except.ok UInt64.ofNat_toNat
  | natural32 =>
    rw [toToml, Kind.ofTree, naturalBelow_ofToml (UInt32.toNat_lt x)]
    exact congrArg Except.ok UInt32.ofNat_toNat
  | natural8 =>
    rw [toToml, Kind.ofTree, naturalBelow_ofToml (UInt8.toNat_lt x)]
    exact congrArg Except.ok UInt8.ofNat_toNat
  | flag => rfl
  | text => rfl
  | texts =>
    rw [toToml, Kind.ofTree, Tree.ofToml, Tree.ofTomlItems_eq_map, List.map_map]
    exact textsFrom_map key 0 x
  | unmarked =>
    rw [toToml, Kind.ofTree, Tree.ofToml, Tree.policy, Tree.policyOfName, ofName?_name]

theorem Kind.replaces_toToml (k : Kind) (x : k.Carrier)
    : (Tree.ofToml file (k.toToml x)).Replaces := by
  intro origin members
  cases k <;> simp [Kind.toToml, Tree.ofToml]

end Values

section Sections

def Section.tree (file : String) (c : Config) (part : Section) : String × List (String × Tree) :=
  (part.name, part.settings.map fun s => (s.name, Tree.ofToml file (s.kind.toToml (s.get c))))

def Section.copy (c : Config) (d : Config) (part : Section) : Config :=
  part.settings.foldl (fun d s => s.put (s.get c) d) d

theorem ofMembers_eq (key : String) (settings : List Setting) (d : Config)
    (hmembers : ∀ s ∈ settings, members.lookup s.name = some (Tree.ofToml file (s.kind.toToml (s.get c))))
    : Section.ofMembers key members settings d
        =
      .ok (settings.foldl (fun d s => s.put (s.get c) d) d) := by
  induction settings generalizing d with
  | nil => rfl
  | cons s settings ih =>
    obtain ⟨hs, hmembers⟩ := List.forall_mem_cons.1 hmembers
    rw [Section.ofMembers, hs]
    simp only [Setting.ofTree, Kind.ofTree_toToml]
    exact ih (s.put (s.get c) d) hmembers

theorem ofTree_tree (part : Section) (hdistinct : (part.settings.map Setting.name).Nodup) (d : Config)
    : part.ofTree (.table none (part.tree file c).2) d = .ok (part.copy c d) := by
  have hmembers : ∀ s ∈ part.settings,
      (part.tree file c).2.lookup s.name = some (Tree.ofToml file (s.kind.toToml (s.get c))) :=
    fun s hs => Keyed.lookup_map _ hdistinct hs
  exact ofMembers_eq part.name part.settings d hmembers

theorem ofSections_eq (parts : List Section) (d : Config)
    (hdistinct : ∀ part ∈ parts, (part.settings.map Setting.name).Nodup)
    (hmembers : ∀ part ∈ parts, members.lookup part.name = some (.table none (part.tree file c).2))
    : Config.ofSections members parts d = .ok (parts.foldl (Section.copy c) d) := by
  induction parts generalizing d with
  | nil => rfl
  | cons part parts ih =>
    obtain ⟨hpart, hmembers⟩ := List.forall_mem_cons.1 hmembers
    obtain ⟨hnames, hdistinct⟩ := List.forall_mem_cons.1 hdistinct
    rw [Config.ofSections, hpart]
    simp only [ofTree_tree part hnames]
    exact ih (part.copy c d) hdistinct hmembers

theorem foldl_copy (c d : Config) : Config.sections.foldl (Section.copy c) d = c := by
  simp [Config.sections, Section.copy, Config.protocolSection, Config.cacheSection,
    Config.policySection, Config.rotationSection, Config.daemonSection, Config.metricsSection,
    Config.loggingSection]

end Sections

section Names

theorem bare_name
    : ∀ part ∈ Config.sections, Toml.IsBare part.name ∧ ∀ s ∈ part.settings, Toml.IsBare s.name := by
  decide +kernel

theorem nodup_names
    : (Config.sections.map Section.name).Nodup
        ∧ ∀ part ∈ Config.sections, (part.settings.map Setting.name).Nodup := by
  decide +kernel

theorem lower_name
    : ∀ part ∈ Config.sections, LowerCase.render part.name = part.name
        ∧ ∀ s ∈ part.settings, LowerCase.render s.name = s.name := by
  decide +kernel

theorem ofKey_name : ∀ part ∈ Config.sections, Path.ofKey part.name = ⟨part.name, []⟩ := by
  decide +kernel

end Names

section Loading

theorem wellFormed_table (h : c.Storable)
    : ∀ table ∈ Config.sections.map (Section.table c), table.WellFormed := by
  intro table htable
  obtain ⟨part, hpart, rfl⟩ := List.mem_map.1 htable
  obtain ⟨hname, hnames⟩ := bare_name part hpart
  refine ⟨hname, ?_, ?_⟩
  . intro line hline
    obtain ⟨s, hs, rfl⟩ := List.mem_map.1 hline
    exact ⟨hnames s hs, Kind.denotes_tomlText (h part hpart s hs)⟩
  . rw [Section.table, List.map_map]
    exact nodup_names.2 part hpart

theorem parse?_saved (h : c.Storable)
    : Toml.parse? (Toml.renderTables ((Config.sections.map (Section.table c)).map Toml.Table.render))
        =
      some (Config.sections.map fun part => (part.table c).member) := by
  have hnames : ((Config.sections.map (Section.table c)).map Toml.Table.name).Nodup := by
    rw [List.map_map]
    exact nodup_names.1
  rw [Toml.parse?_renderTables (wellFormed_table h) hnames, List.map_map]
  rfl

theorem ofTomlMembers_saved (file : String) (c : Config)
    : Tree.ofTomlMembers file (Config.sections.map fun part => (part.table c).member)
        =
      (Config.sections.map (Section.tree file c)).map (Tree.ofPart (some file)) := by
  have hpart : ∀ part : Section, Tree.ofToml file (part.table c).member.2
      = .table (some file) (part.tree file c).2 := by
    intro part
    rw [Toml.Table.member, Tree.ofToml, Tree.ofTomlMembers_eq_map, Section.table, List.map_map,
      List.map_map]
    rfl
  rw [Tree.ofTomlMembers_eq_map, List.map_map, List.map_map]
  apply List.map_congr_left
  intro part _
  simp only [Function.comp_apply, hpart]
  rfl

theorem addSource_saved (file : String) (c : Config)
    : Tree.empty.addSource ((Config.sections.map (Section.tree file c)).map (Tree.ofPart (some file)))
        =
      .table none ((Config.sections.map (Section.tree file c)).map (Tree.ofPart none)) := by
  apply Tree.addSource_append
  . rw [List.nil_append, List.map_map]
    exact Tree.separate_map _ nodup_names.1 (fun part hpart => (lower_name part hpart).1)
  . intro p hp
    obtain ⟨part, hpart, rfl⟩ := List.mem_map.1 hp
    exact ofKey_name part hpart
  . intro p hp
    obtain ⟨part, hpart, rfl⟩ := List.mem_map.1 hp
    constructor
    . exact Tree.separate_map _ (nodup_names.2 part hpart) (lower_name part hpart).2
    . intro m hm
      obtain ⟨s, -, rfl⟩ := List.mem_map.1 hm
      exact Kind.replaces_toToml s.kind (s.get c)

theorem ofTree_saved (file : String) (c : Config)
    : Config.ofTree (.table none ((Config.sections.map (Section.tree file c)).map (Tree.ofPart none)))
        =
      .ok c := by
  have hmembers : ∀ part ∈ Config.sections,
      ((Config.sections.map (Section.tree file c)).map (Tree.ofPart none)).lookup part.name
        = some (.table none (part.tree file c).2) := by
    intro part hpart
    rw [List.map_map]
    exact Keyed.lookup_map (fun part => Tree.table none (part.tree file c).2) nodup_names.1 hpart
  rw [Config.ofTree, Tree.asTable, ofSections_eq Config.sections {} nodup_names.2 hmembers, foldl_copy]

theorem source_eq_nil {env : List (String × String)} (henv : ∀ v ∈ env, Environment.key? v.1 = none)
    : Environment.source env = [] := by
  rw [Environment.source, List.filterMap_eq_nil_iff]
  intro v hv
  exact Option.map_eq_none_iff.2 (henv v hv)

theorem ofSources_saved (h : c.Storable) (file : String) {env : List (String × String)}
    (henv : ∀ v ∈ env, Environment.key? v.1 = none)
    : let text := Toml.renderTables ((Config.sections.map (Section.table c)).map Toml.Table.render)
      Config.ofSources ⟨file, String.ofList text⟩ env = .ok c := by
  intro text
  rw [Config.ofSources, SettingsFile.source, String.toList_ofList, parse?_saved h]
  show Config.ofTree ((Tree.empty.addSource (Tree.ofTomlMembers file _)).addSource _) = _
  rw [ofTomlMembers_saved, addSource_saved, source_eq_nil henv]
  exact ofTree_saved file c

end Loading

namespace Config

theorem exists_save_eq_error_iff : (∃ e, c.save = .error e) ↔ ¬ c.Storable := by
  rw [save_eq]
  split
  . next h => simp [h]
  . next h => exact ⟨fun _ => h, fun _ => ⟨_, rfl⟩⟩

theorem eq_of_save_eq_ok {text : List Char} (h : c.save = .ok text)
    : c.Storable ∧ text = Toml.renderTables ((sections.map (Section.table c)).map Toml.Table.render) := by
  rw [save_eq] at h
  split at h
  . next hstorable => exact ⟨hstorable, (Except.ok.inj h).symm⟩
  . contradiction

section Finding

variable {files : String → Option SettingsFile} {folder path : String} {f : SettingsFile}

theorem find_of_hasType (htype : SettingsFile.hasType path = true) (hfile : files path = some f)
    : SettingsFile.find files folder path = .ok f := by
  unfold SettingsFile.find
  rw [hfile]
  exact if_pos htype

theorem load_of_find (hfind : SettingsFile.find files folder path = .ok f) (env : List (String × String))
    : load files folder path env = ofSources f env := by
  unfold load
  rw [hfind]
  rfl

end Finding

theorem save_eq_error_iff_and_load_save (c : Config)
    : ((∃ e, c.save = .error e)
          ↔
        2 ^ 63 - 1 < c.cache.capacity.toNat ∨ 2 ^ 63 - 1 < c.protocol.tRecoverSeconds.toNat
          ∨ 2 ^ 63 - 1 < c.rotation.intervalSeconds.toNat
          ∨ 2 ^ 63 - 1 < c.daemon.recvTimeoutMs.toNat)
        ∧
      ∀ text, c.save = .ok text →
        ∀ (files : String → Option SettingsFile) (folder path name : String)
            (env : List (String × String)),
          SettingsFile.hasType path = true → files path = some ⟨name, String.ofList text⟩ →
          (∀ v ∈ env, Environment.key? v.1 = none) →
            load files folder path env = .ok c := by
  constructor
  . rw [exists_save_eq_error_iff, storable_iff]
    simp only [Nat.pow_eq]
    omega
  . intro text hsave files folder path name env htype hfile henv
    obtain ⟨hstorable, rfl⟩ := eq_of_save_eq_ok hsave
    rw [load_of_find (find_of_hasType htype hfile)]
    exact ofSources_saved hstorable name henv

def hardToQuote : Config where
  cache := ⟨0x7fffffffffffffff⟩
  policy := ⟨["10.0.0.0/8", "\x22\x22\x22 and \x27\x27\x27", "C:\x5cx\n", "\x00\x7f\t", ""], .drop⟩
  metrics := ⟨true, "\x27quoted\x27 \x22twice\x22"⟩
  logging := ⟨"two\r\nlines", "\n\x22\x22", false⟩

theorem save_eq_error_iff_and_load_save_hardToQuote
    : Environment.key? "HOME" = none ∧
      ∃ text, hardToQuote.save = .ok text ∧
        load (fun path => if path = "node.toml" then some ⟨"node.toml", String.ofList text⟩ else none)
          "/etc" "node.toml" [("HOME", "/root")] = .ok hardToQuote := by
  have henv : Environment.key? "HOME" = none := by decide
  obtain ⟨text, hsave⟩ : ∃ text, hardToQuote.save = .ok text := ⟨_, rfl⟩
  refine ⟨henv, text, hsave, ?_⟩
  have hload := (save_eq_error_iff_and_load_save hardToQuote).2 text hsave
  exact hload _ "/etc" "node.toml" "node.toml" [("HOME", "/root")] (by decide) rfl (by simpa using henv)

end Config

end SourceCookie
