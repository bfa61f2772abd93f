import SourceCookie.Config.Save
import SourceCookie.Proofs.Toml.Tables

/-!
What is saved: settings can be saved unless a natural number of 64 bits has no room in an integer of a
file, and the text then holds every section as a table, with a line for each of its settings.
-/

namespace SourceCookie

theorem mapM_ite {α β ε : Type} {p : α → Prop} [DecidablePred p] {f : α → Except ε β} {g : α → β}
    {e : ε} (h : ∀ x, f x = if p x then .ok (g x) else .error e) (l : List α)
    : l.mapM f = if ∀ x ∈ l, p x then .ok (l.map g) else .error e := by
  induction l with
  | nil => rfl
  | cons x l ih =>
    rw [List.mapM_cons, h, ih]
    by_cases hx : p x
    . by_cases hl : ∀ y ∈ l, p y
      . rw [if_pos hx, if_pos hl, if_pos (List.forall_mem_cons.2 ⟨hx, hl⟩)]
        rfl
      . rw [if_pos hx, if_neg hl, if_neg (fun hall => hl (List.forall_mem_cons.1 hall).2)]
        rfl
    . rw [if_neg hx, if_neg (fun hall => hx (List.forall_mem_cons.1 hall).1)]
      rfl

theorem bind_ite {α β ε : Type} {p : Prop} [Decidable p] {a : α} {e : ε} (f : α → β)
    : (if p then Except.ok a else Except.error e) >>= (fun x => pure (f x))
        =
      if p then Except.ok (f a) else Except.error e := by
  split <;> rfl

namespace Kind

variable {k : Kind} {x : k.Carrier}

def Storable : (k : Kind) → k.Carrier → Prop
  | natural64, n => n.toNat < Nat.pow 2 63
  | natural32, _ | natural8, _ | flag, _ | text, _ | texts, _ | unmarked, _ => True

instance decidableStorable : (k : Kind) → DecidablePred k.Storable
  | natural64 => fun n => inferInstanceAs (Decidable (n.toNat < Nat.pow 2 63))
  | natural32 | natural8 | flag | text | texts | unmarked => fun _ => inferInstanceAs (Decidable True)

def tomlText : (k : Kind) → k.Carrier → List Char
  | natural64, n | natural32, n | natural8, n => Digits.decimal n.toNat
  | flag, b => Toml.renderBool b
  | text, s => Toml.renderString s
  | texts, items => Toml.renderStrings items
  | unmarked, p => Toml.renderString p.name

def toToml : (k : Kind) → k.Carrier → Toml
  | natural64, n | natural32, n | natural8, n => .integer n.toNat
  | flag, b => .boolean b
  | text, s => .string s
  | texts, items => .array (items.map .string)
  | unmarked, p => .string p.name

theorem renderToml_eq (k : Kind) (x : k.Carrier)
    : k.renderToml x = if k.Storable x then .ok (k.tomlText x) else .error .numberTooLarge := by
  cases k with
  | natural64 =>
    by_cases h : UInt64.toNat x < Nat.pow 2 63
    . simp [renderToml, Storable, tomlText, h]
    . simp [renderToml, Storable, h]
  | natural32 => rfl
  | natural8 => rfl
  | flag => rfl
  | text => rfl
  | texts => rfl
  | unmarked => rfl

end Kind

namespace Toml

theorem solid_decimal (n : Nat) : Solid (Digits.decimal n) := by
  obtain ⟨c, u, htext⟩ := List.exists_cons_of_ne_nil (Nat.toDigits_ne_nil : Nat.toDigits 10 n ≠ [])
  have hdigit : c.isDigit = true := by
    apply Nat.isDigit_of_mem_toDigits (by decide : 0 < 10) (Nat.le_refl 10)
    rw [htext]
    exact List.mem_cons_self
  rw [Digits.decimal, htext]
  exact solid_of_isKeyChar (by simp [isKeyChar, Char.isAlphanum, hdigit]) u

theorem denotes_decimal {n : Nat} (hn : n < Nat.pow 2 63) : Denotes (Digits.decimal n) (.integer n) where
  solid := solid_decimal n
  read _ := readValue?_decimal hn
  unmark := rfl

theorem denotes_renderBool (b : Bool) : Denotes (renderBool b) (.boolean b) where
  solid := by cases b <;> exact solid_cons (by decide) (by decide) _
  read _ := readValue?_renderBool b
  unmark := rfl

theorem denotes_renderString (s : String) : Denotes (renderString s) (.string s) where
  solid := solid_renderString s
  read _ := readValue?_renderString s (unquoted_cons (by decide) (by decide) _)
  unmark := rfl

theorem unmarkItems?_strings (items : List String)
    : unmarkItems? (items.map .string) = some (items.map .string) := by
  induction items with
  | nil => rfl
  | cons s items ih =>
    rw [List.map_cons, unmarkItems?, ih]
    rfl

theorem denotes_renderStrings (items : List String)
    : Denotes (renderStrings items) (.array (items.map .string)) where
  solid := by
    match items with
    | [] | [_] | _ :: _ :: _ => exact solid_cons (by decide) (by decide) _
  read _ := readValue?_renderStrings items
  unmark := by
    rw [unmark?, unmarkItems?_strings]
    rfl

end Toml

theorem Kind.denotes_tomlText {k : Kind} {x : k.Carrier} (h : k.Storable x)
    : Toml.Denotes (k.tomlText x) (k.toToml x) := by
  cases k with
  | natural64 => exact Toml.denotes_decimal h
  | natural32 => exact Toml.denotes_decimal (Nat.lt_trans (UInt32.toNat_lt x) (by decide))
  | natural8 => exact Toml.denotes_decimal (Nat.lt_trans (UInt8.toNat_lt x) (by decide))
  | flag => exact Toml.denotes_renderBool x
  | text => exact Toml.denotes_renderString x
  | texts => exact Toml.denotes_renderStrings x
  | unmarked => exact Toml.denotes_renderString x.name

variable {s : Setting} {part : Section} {c : Config}

def Setting.Storable (s : Setting) (c : Config) : Prop := s.kind.Storable (s.get c)

def Section.Storable (part : Section) (c : Config) : Prop := ∀ s ∈ part.settings, s.Storable c

def Config.Storable (c : Config) : Prop := ∀ part ∈ Config.sections, part.Storable c

instance : Decidable (s.Storable c) := inferInstanceAs (Decidable (s.kind.Storable (s.get c)))

instance : Decidable (part.Storable c) :=
  inferInstanceAs (Decidable (∀ s ∈ part.settings, s.Storable c))

instance : Decidable c.Storable :=
  inferInstanceAs (Decidable (∀ part ∈ Config.sections, part.Storable c))

def Setting.line (c : Config) (s : Setting) : Toml.Line :=
  ⟨s.name, s.kind.tomlText (s.get c), s.kind.toToml (s.get c)⟩

def Section.table (c : Config) (part : Section) : Toml.Table :=
  ⟨part.name, part.settings.map (Setting.line c)⟩

theorem Setting.renderToml_eq (s : Setting) (c : Config)
    : s.renderToml c = if s.Storable c then .ok (s.line c).render else .error .numberTooLarge := by
  rw [Setting.renderToml, Kind.renderToml_eq]
  exact bind_ite (p := s.Storable c) _

theorem Section.renderToml_eq (part : Section) (c : Config)
    : part.renderToml c = if part.Storable c then .ok (part.table c).render else .error .numberTooLarge := by
  rw [Section.renderToml, mapM_ite (fun s => s.renderToml_eq c), Section.table, Toml.Table.render,
    List.map_map]
  exact bind_ite (p := part.Storable c) _

namespace Config

theorem save_eq (c : Config)
    : c.save
        =
      if c.Storable then .ok (Toml.renderTables ((sections.map (Section.table c)).map Toml.Table.render))
      else .error .numberTooLarge := by
  rw [save, mapM_ite (fun part => part.renderToml_eq c), List.map_map]
  exact bind_ite (p := c.Storable) _

theorem storable_iff
    : c.Storable
        ↔
      c.protocol.tRecoverSeconds.toNat < Nat.pow 2 63 ∧ c.cache.capacity.toNat < Nat.pow 2 63
        ∧ c.rotation.intervalSeconds.toNat < Nat.pow 2 63 ∧ c.daemon.recvTimeoutMs.toNat < Nat.pow 2 63 := by
  simp [Storable, sections, Section.Storable, Setting.Storable, Kind.Storable, protocolSection,
    cacheSection, policySection, rotationSection, daemonSection, metricsSection, loggingSection]

end Config

end SourceCookie
