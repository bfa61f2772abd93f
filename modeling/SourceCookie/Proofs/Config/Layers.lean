import SourceCookie.Proofs.Config.Variables

/-!
Settings in layers. Where a file and the environment give every setting at most once, each setting is what
the environment gives for it, or else what the file gives, or else its default, whatever is given for the
others and in whatever order.
-/

namespace SourceCookie

namespace Tree

def alone (value : Tree) : List Path.Step → Tree
  | [] => value
  | step :: steps => setSteps value step steps blank

end Tree

namespace Config

namespace Place

def values (p : Place) (source : List (String × Tree)) : List Tree :=
  (Tree.sourceMentions source p.part.name p.setting.name).map fun m => m.2.alone m.1

/-- The value that counts for a setting: what the environment gives, or else what the file gives. -/
def layered (p : Place) (file : List (String × Tree)) (env : List (String × String)) : Option Tree :=
  (Environment.given p env).head?.map (.scalar Environment.origin) <|> (p.values file).head?

instance : (kind : Kind) → DecidableEq kind.Carrier
  | .natural64 => inferInstanceAs (DecidableEq UInt64)
  | .natural32 => inferInstanceAs (DecidableEq UInt32)
  | .natural8 => inferInstanceAs (DecidableEq UInt8)
  | .flag => inferInstanceAs (DecidableEq Bool)
  | .text => inferInstanceAs (DecidableEq String)
  | .texts => inferInstanceAs (DecidableEq (List String))
  | .unmarked => inferInstanceAs (DecidableEq UnmarkedPolicy)

instance (p : Place) (found : Option Tree) (before c : Config) : Decidable (p.Holds found before c) :=
  match found with
  | none => inferInstanceAs (Decidable (p.setting.get c = p.setting.get before))
  | some value =>
    match h : p.setting.kind.ofTree value p.key with
    | .ok x => decidable_of_iff (x = p.setting.get c) (by simp [Place.Holds, h])
    | .error e => isFalse (by simp [Place.Holds, h])

def Converts (p : Place) (value : Tree) : Prop := ∃ x, p.setting.kind.ofTree value p.key = .ok x

instance (p : Place) (value : Tree) : Decidable (p.Converts value) :=
  match h : p.setting.kind.ofTree value p.key with
  | .ok x => isTrue ⟨x, h⟩
  | .error e => isFalse fun ⟨x, hx⟩ => by rw [h] at hx; contradiction

end Place

structure Layers (file : List (String × Tree)) (env : List (String × String)) : Prop where
  tables : ∀ part ∈ sections, ∀ entry ∈ file, Tree.KeepsTable part.name (.ofKey entry.1) entry.2
  names : Environment.SetsSettings env
  fileOnce : ∀ p ∈ places, (p.values file).length ≤ 1
  environmentOnce : ∀ p ∈ places, (Environment.given p env).length ≤ 1
  converts : ∀ p ∈ places, ∀ value ∈ p.layered file env, p.Converts value

variable {p : Place} {file : List (String × Tree)} {env : List (String × String)} {c d : Config}

section Conversion

variable {kind : Kind} {value : Tree} {key : String} {x : kind.Carrier}

theorem lower_of_policyOfName {name : String} {policy : UnmarkedPolicy}
    (h : Tree.policyOfName name = .ok policy)
    : LowerCase.render name = policy.name := by
  unfold Tree.policyOfName at h
  split at h
  . next hfound =>
    obtain rfl := Except.ok.inj h
    unfold UnmarkedPolicy.ofName? at hfound
    simpa [eq_comm] using List.find?_some hfound
  . contradiction

theorem policyOfName_name (policy : UnmarkedPolicy) : Tree.policyOfName policy.name = .ok policy := by
  unfold Tree.policyOfName
  rw [ofName?_name]

theorem ofTree_table {origin : Option String} {members : List (String × Tree)}
    (h : kind.ofTree (.table origin members) key = .ok x)
    : kind = .unmarked ∧ ∃ m, members = [m] := by
  cases kind with
  | unmarked =>
    match members with
    | [m] => exact ⟨rfl, m, rfl⟩
    | [] | _ :: _ :: _ => simp [Kind.ofTree, Tree.policy] at h
  | natural64 | natural32 | natural8 | flag | text | texts =>
    simp [Kind.ofTree, Tree.natural, Tree.naturalBelow, Tree.boolean, Tree.text, Tree.texts,
      Tree.mismatch, bind, Except.bind] at h

theorem ofTree_merge (h : kind.ofTree value key = .ok x) : kind.ofTree (value.merge none) key = .ok x := by
  cases value with
  | blank | scalar | list => exact h
  -- only the policy is read from a table, by a name whose case does not count
  | table origin members =>
    obtain ⟨rfl, ⟨name, value⟩, rfl⟩ := ofTree_table h
    have hmerge : (Tree.table origin [(name, value)]).merge none
        =
      .table none [(LowerCase.render name, value.merge none)] := by
      rw [Tree.merge, Tree.setMembers, Tree.setMembers, Tree.setMember_eq]
      rfl
    rw [hmerge]
    show Tree.policyOfName (LowerCase.render name) = .ok x
    rw [lower_of_policyOfName h, policyOfName_name]

theorem ofTree_mergeBelow {steps : List Path.Step} (h : kind.ofTree (value.alone steps) key = .ok x)
    : kind.ofTree (value.mergeBelow steps none) key = .ok x := by
  cases steps with
  | nil => exact ofTree_merge h
  | cons step steps => exact h

end Conversion

section Trees

def overlaid (file : List (String × Tree)) (env : List (String × String)) : Tree :=
  (Tree.empty.addSource file).addSource (Environment.source env)

theorem dot_not_mem_name : ∀ part ∈ sections, '.' ∉ part.name.toList := by
  decide +kernel

theorem Layers.keepsTable (h : Layers file env) {part : Section} (hpart : part ∈ sections)
    : ∀ entry ∈ Environment.source env, Tree.KeepsTable part.name (.ofKey entry.1) entry.2 :=
  Environment.keepsTable_source h.names (dot_not_mem_name part hpart)

theorem sectionIsTable_overlaid (h : Layers file env)
    : ∀ part ∈ sections, (overlaid file env).SectionIsTable part.name := by
  intro part hpart
  apply Tree.SectionIsTable.addSource _ (h.keepsTable hpart)
  apply Tree.SectionIsTable.addSource _ (h.tables part hpart)
  exact nofun

theorem find?_overlaid (h : Layers file env) (hp : p ∈ places)
    : p.find? (overlaid file env)
        =
      Tree.changed (Tree.changed none (Tree.sourceMentions file p.part.name p.setting.name))
        ((Environment.given p env).map fun x => ([], .scalar Environment.origin x)) := by
  have hpart := (mem_places.1 hp).1
  unfold Place.find? overlaid
  rw [Tree.setting?_addSource (h.keepsTable hpart), Tree.setting?_addSource (h.tables _ hpart),
    Environment.sourceMentions_source h.names hp]
  rfl

theorem eq_nil_or_singleton {α : Type} {l : List α} (h : l.length ≤ 1) : l = [] ∨ ∃ a, l = [a] := by
  rw [← List.length_eq_zero_iff, ← List.length_eq_one_iff]
  omega

theorem find?_of_layered (h : Layers file env) (hp : p ∈ places)
    : match p.layered file env with
      | none => p.find? (overlaid file env) = none
      | some value => ∃ found, p.find? (overlaid file env) = some found ∧
          ∀ x, p.setting.kind.ofTree value p.key = .ok x → p.setting.kind.ofTree found p.key = .ok x := by
  rw [find?_overlaid h hp]
  have hfile := h.fileOnce p hp
  unfold Place.layered Place.values at *
  rw [List.length_map] at hfile
  rcases eq_nil_or_singleton (h.environmentOnce p hp) with henv | ⟨x, henv⟩
  . rw [henv]
    rcases eq_nil_or_singleton hfile with hmentions | ⟨m, hmentions⟩
    . rw [hmentions]
      rfl
    . rw [hmentions]
      exact ⟨m.2.mergeBelow m.1 none, rfl, fun _ => ofTree_mergeBelow⟩
  . -- a value of the environment is no table, and so replaces what the file gave
    rw [henv]
    exact ⟨.scalar Environment.origin x, rfl, fun _ => id⟩

end Trees

section Loading

variable {files : String → Option SettingsFile} {folder path : String} {f : SettingsFile}

theorem converts_of_find? (h : Layers file env) (hp : p ∈ places) {found : Tree}
    (hfound : p.find? (overlaid file env) = some found)
    : p.Converts found := by
  have hcounts := find?_of_layered h hp
  cases hlayered : p.layered file env with
  | none =>
    rw [hlayered, hfound] at hcounts
    contradiction
  | some value =>
    rw [hlayered, hfound] at hcounts
    obtain ⟨_, heq, hsame⟩ := hcounts
    obtain rfl := Option.some.inj heq
    obtain ⟨x, hx⟩ := h.converts p hp value hlayered
    exact ⟨x, hsame x hx⟩

theorem holds_layered (h : Layers file env) (hp : p ∈ places)
    (hholds : p.Holds (p.find? (overlaid file env)) {} c)
    : p.Holds (p.layered file env) {} c := by
  have hcounts := find?_of_layered h hp
  cases hlayered : p.layered file env with
  | none =>
    rw [hlayered] at hcounts
    rw [hcounts] at hholds
    exact hholds
  | some value =>
    rw [hlayered] at hcounts
    obtain ⟨found, hfound, hsame⟩ := hcounts
    rw [hfound] at hholds
    obtain ⟨x, hx⟩ := h.converts p hp value hlayered
    have heq : Except.ok x = .ok (p.setting.get c) := (hsame x hx).symm.trans hholds
    obtain rfl := Except.ok.inj heq
    exact hx

theorem load_eq (hfind : SettingsFile.find files folder path = .ok f) (hsource : f.source = .ok file)
    (env : List (String × String))
    : load files folder path env = ofTree (overlaid file env) := by
  rw [load_of_find hfind, ofSources, hsource]
  rfl

theorem exists_load_eq_ok (hfind : SettingsFile.find files folder path = .ok f)
    (hsource : f.source = .ok file) (h : Layers file env)
    : ∃ c, load files folder path env = .ok c ∧ ∀ p ∈ places, p.Holds (p.layered file env) {} c := by
  obtain ⟨c, hread, hholds⟩ := ofTree_eq_ok (sectionIsTable_overlaid h)
    fun p hp value hfound => converts_of_find? h hp hfound
  refine ⟨c, ?_, fun p hp => holds_layered h hp (hholds p hp)⟩
  rw [load_eq hfind hsource, hread]

end Loading

section Uniqueness

theorem copy_eq_of_get_eq {part : Section} (h : ∀ s ∈ part.settings, s.get c = s.get d) (base : Config)
    : part.copy c base = part.copy d base := by
  unfold Section.copy
  apply List.foldl_ext
  intro base s hs
  rw [h s hs]

theorem eq_of_get_eq (h : ∀ p ∈ places, p.setting.get c = p.setting.get d) : c = d := by
  rw [← foldl_copy c {}, ← foldl_copy d {}]
  apply List.foldl_ext
  intro base part hpart
  exact copy_eq_of_get_eq (fun s hs => h ⟨part, s⟩ (mem_places.2 ⟨hpart, hs⟩)) base

theorem Place.Holds.get_eq {found : Option Tree} {before : Config} (hc : p.Holds found before c)
    (hd : p.Holds found before d)
    : p.setting.get c = p.setting.get d := by
  unfold Holds at hc hd
  cases found with
  | none => exact hc.trans hd.symm
  | some value => exact Except.ok.inj (hc.symm.trans hd)

theorem head?_eq_of_mem_iff {α : Type} {l l' : List α} (hl : l.length ≤ 1) (hl' : l'.length ≤ 1)
    (h : ∀ a, a ∈ l ↔ a ∈ l')
    : l.head? = l'.head? := by
  rcases eq_nil_or_singleton hl with rfl | ⟨a, rfl⟩ <;> rcases eq_nil_or_singleton hl' with rfl | ⟨b, rfl⟩
  . rfl
  . simpa using h b
  . simpa using h a
  . simpa using h a

theorem layered_eq {file' : List (String × Tree)} {env' : List (String × String)} (h : Layers file env)
    (h' : Layers file' env') (hp : p ∈ places)
    (hfile : ∀ value, value ∈ p.values file' ↔ value ∈ p.values file)
    (henv : ∀ x, x ∈ Environment.given p env' ↔ x ∈ Environment.given p env)
    : p.layered file' env' = p.layered file env := by
  unfold Place.layered
  rw [head?_eq_of_mem_iff (h'.fileOnce p hp) (h.fileOnce p hp) hfile,
    head?_eq_of_mem_iff (h'.environmentOnce p hp) (h.environmentOnce p hp) henv]

end Uniqueness

/-- Every setting is what the environment gives for it, or else what the file gives, or else its default.
Nothing else of the file and the environment has any bearing on the configuration. -/
theorem load_eq_ok_and_holds_layered {files : String → Option SettingsFile} {folder path : String}
    {f : SettingsFile} (hfind : SettingsFile.find files folder path = .ok f) (hsource : f.source = .ok file)
    (h : Layers file env)
    : ∃ c, load files folder path env = .ok c ∧ (∀ p ∈ places, p.Holds (p.layered file env) {} c) ∧
        ∀ files' folder' path' f' file' env', SettingsFile.find files' folder' path' = .ok f' →
          f'.source = .ok file' → Layers file' env' →
          (∀ p ∈ places, ∀ value, value ∈ p.values file' ↔ value ∈ p.values file) →
          (∀ p ∈ places, ∀ x, x ∈ Environment.given p env' ↔ x ∈ Environment.given p env) →
          load files' folder' path' env' = .ok c := by
  obtain ⟨c, hload, hholds⟩ := exists_load_eq_ok hfind hsource h
  refine ⟨c, hload, hholds, ?_⟩
  intro files' folder' path' f' file' env' hfind' hsource' h' hfile henv
  obtain ⟨d, hload', hholds'⟩ := exists_load_eq_ok hfind' hsource' h'
  -- two configurations with the same settings are one
  have heq : d = c := by
    apply eq_of_get_eq
    intro p hp
    have hd := hholds' p hp
    rw [layered_eq h h' hp (hfile p hp) (henv p hp)] at hd
    exact hd.get_eq (hholds p hp)
  rw [hload', heq]

section MixedCase

def mixedCase : SettingsFile where
  name := "settings.toml"
  content := "[Protocol]\nTRY_LT2 = 5\nFallback_Lt2 = \"9\"\nretries = 1\n[cache]\ncapacity = 100\n"

def mixedCaseSource : List (String × Tree) := [
  ("Protocol", .table (some "settings.toml") [
    ("TRY_LT2", .scalar "settings.toml" (.integer 5)),
    ("Fallback_Lt2", .scalar "settings.toml" (.text "9")),
    ("retries", .scalar "settings.toml" (.integer 1))]),
  ("cache", .table (some "settings.toml") [("capacity", .scalar "settings.toml" (.integer 100))])]

def mixedCaseEnvironment : List (String × String) :=
  [("PATH", "/bin"), ("Ipcookies_PROTOCOL__fallback_LT2", "12"), ("IPCOOKIES_NODE__NAME", "a")]

theorem source_mixedCase : mixedCase.source = .ok mixedCaseSource := by
  have hparse : Toml.parse? mixedCase.content.toList
      =
    some [
      ("Protocol", .table [("TRY_LT2", .integer 5), ("Fallback_Lt2", .string "9"), ("retries", .integer 1)]),
      ("cache", .table [("capacity", .integer 100)])] := by
    simp only [mixedCase, String.reduceToList]
    rfl
  unfold SettingsFile.source
  rw [hparse]
  rfl

theorem layers_mixedCase : Layers mixedCaseSource mixedCaseEnvironment := by
  refine ⟨?_, ?_, by decide +kernel, by decide +kernel, by decide +kernel⟩
  . intro part _ entry hentry _
    simp only [mixedCaseSource, List.mem_cons, List.not_mem_nil, or_false] at hentry
    rcases hentry with rfl | rfl
    . exact Or.inl ⟨by decide +kernel, _, _, rfl⟩
    . exact Or.inl ⟨by decide +kernel, _, _, rfl⟩
  . intro v hv
    simp only [mixedCaseEnvironment, List.mem_cons, List.not_mem_nil, or_false] at hv
    rcases hv with rfl | rfl | rfl
    . exact Or.inl (by decide +kernel)
    . exact Or.inr ⟨"protocol".toList, "fallback_lt2".toList, by decide +kernel, by decide +kernel,
        by decide +kernel⟩
    . exact Or.inr ⟨"node".toList, "name".toList, by decide +kernel, by decide +kernel,
        by decide +kernel⟩

def mixedCaseConfig : Config :=
  { ({} : Config) with
    protocol.tryLt2 := 5
    protocol.fallbackLt2 := 12
    cache.capacity := 100 }

def mixedCaseFiles (path : String) : Option SettingsFile :=
  if path = "settings.toml" then some mixedCase else none

theorem load_eq_ok_and_holds_layered_mixedCase
    : load mixedCaseFiles "/etc" "settings" mixedCaseEnvironment = .ok mixedCaseConfig := by
  have hfind : SettingsFile.find mixedCaseFiles "/etc" "settings" = .ok mixedCase := rfl
  obtain ⟨c, hload, hholds, -⟩ := load_eq_ok_and_holds_layered hfind source_mixedCase layers_mixedCase
  have hwanted : ∀ p ∈ places,
      p.Holds (p.layered mixedCaseSource mixedCaseEnvironment) {} mixedCaseConfig := by
    decide +kernel
  rw [hload, eq_of_get_eq fun p hp => (hholds p hp).get_eq (hwanted p hp)]

end MixedCase

theorem overlaid_singleton (key : String) (value : Tree)
    : overlaid [(key, value)] [] = Tree.empty.set (.ofKey key) value := rfl

theorem load_topKey
    : let itemKey : SettingsFile := ⟨"settings.toml", "\"cache[0]\" = 7\n"⟩
      let dottedKey : SettingsFile := ⟨"settings.toml", "\"cache.capacity\" = 7\n"⟩
      itemKey.source = .ok [("cache[0]", .scalar "settings.toml" (.integer 7))] ∧
        dottedKey.source = .ok [("cache.capacity", .scalar "settings.toml" (.integer 7))] ∧
        (∀ part ∈ sections,
          LowerCase.render "cache[0]" ≠ part.name ∧ LowerCase.render "cache.capacity" ≠ part.name) ∧
        ∀ f ∈ [itemKey, dottedKey], ∃ c, load (fun _ => some f) "/etc" "settings.toml" [] = .ok c ∧
          c.cache.capacity ≠ ({} : Config).cache.capacity := by
  intro itemKey dottedKey
  have hitem : Toml.parse? itemKey.content.toList = some [("cache[0]", .integer 7)] := by
    simp only [itemKey, String.reduceToList]
    rfl
  have hdotted : Toml.parse? dottedKey.content.toList = some [("cache.capacity", .integer 7)] := by
    simp only [dottedKey, String.reduceToList]
    rfl
  have hitemSource : itemKey.source = .ok [("cache[0]", .scalar "settings.toml" (.integer 7))] := by
    rw [SettingsFile.source, hitem]
    rfl
  have hdottedSource : dottedKey.source = .ok [("cache.capacity", .scalar "settings.toml" (.integer 7))] := by
    rw [SettingsFile.source, hdotted]
    rfl
  have hitemPath : Path.ofKey "cache[0]" = ⟨"cache", [.item 0]⟩ := by decide +kernel
  have hdottedPath : Path.ofKey "cache.capacity" = ⟨"cache", [.member "capacity"]⟩ := by decide +kernel
  have hfind (f : SettingsFile) : SettingsFile.find (fun _ => some f) "/etc" "settings.toml" = .ok f := rfl
  refine ⟨hitemSource, hdottedSource, by decide +kernel, ?_⟩
  intro f hf
  rw [List.mem_pair] at hf
  refine ⟨{ ({} : Config) with cache.capacity := 7 }, ?_, by decide⟩
  rcases hf with rfl | rfl
  . rw [load_eq (hfind itemKey) hitemSource, overlaid_singleton, hitemPath]
    rfl
  . rw [load_eq (hfind dottedKey) hdottedSource, overlaid_singleton, hdottedPath]
    rfl

end Config

end SourceCookie
