import SourceCookie.Config.Environment
import SourceCookie.Proofs.Config.RoundTrip
import SourceCookie.Proofs.Config.Settings

/-!
Which setting an environment variable is about. A name in lower case is taken apart at its double
underscore, and then read as a path; so a name of the right form leads through a section, and it leads to a
setting just if it is spelled as that setting is.
-/

namespace SourceCookie

namespace LowerCase

variable {c : Char}

theorem isUpper_iff : c.isUpper = true ↔ 65 ≤ c.toNat ∧ c.toNat ≤ 90 := by
  change decide ('A'.val ≤ c.val ∧ c.val ≤ 'Z'.val) = true ↔ _
  rw [decide_eq_true_iff, UInt32.le_iff_toNat_le, UInt32.le_iff_toNat_le]
  exact Iff.rfl

theorem isUpper_ofNat {n : Nat} (h : 90 < n) : (Char.ofNat n).isUpper = false := by
  rw [Bool.eq_false_iff, ne_eq, isUpper_iff]
  by_cases hvalid : n.isValidChar
  . have hn : (Char.ofNat n).toNat = n := by
      unfold Char.ofNat
      rw [dif_pos hvalid]
      rfl
    omega
  . have hn : Char.ofNat n = '\x00' := dif_neg hvalid
    rw [hn]
    decide

theorem lt_first_add_offset : ∀ r ∈ runs, (90 : Int) < r.first + r.offset := by
  decide +kernel

theorem isUpper_toLower (hascii : c.toNat < 0x80) : c.toLower.isUpper = false := by
  have hall : ∀ n < 0x80, (Char.ofNat n).toLower.isUpper = false := by decide
  rw [← Char.ofNat_toNat c]
  exact hall _ hascii

theorem isUpper_ofChar (c : Char) : (ofChar c).isUpper = false := by
  unfold ofChar
  split
  . next hascii => exact isUpper_toLower hascii
  . next hascii =>
    split
    . next r hr =>
      have hmem := List.mem_of_find?_eq_some hr
      have hcontains := List.find?_some hr
      simp only [Run.contains, Bool.and_eq_true, decide_eq_true_eq] at hcontains
      have hlt := lt_first_add_offset r hmem
      apply isUpper_ofNat
      omega
    . rw [Bool.eq_false_iff, ne_eq, isUpper_iff]
      omega

theorem isUpper_of_mem_ofChars {before s : List Char} (h : c ∈ ofChars before s) : c.isUpper = false := by
  induction s generalizing before with
  | nil => contradiction
  | cons a s ih =>
    rw [ofChars, List.mem_append] at h
    rcases h with h | h
    . split at h
      . rw [List.mem_singleton] at h
        rw [h]
        split <;> decide
      . split at h
        . simp only [List.mem_cons, List.not_mem_nil, or_false] at h
          rcases h with rfl | rfl <;> decide
        . rw [List.mem_singleton] at h
          rw [h]
          exact isUpper_ofChar a
    . exact ih h

theorem dot_mem_ofChars {before s : List Char} (h : '.' ∈ s) : '.' ∈ ofChars before s := by
  induction s generalizing before with
  | nil => contradiction
  | cons a s ih =>
    rw [ofChars, List.mem_append]
    rcases List.mem_cons.1 h with rfl | h
    . left
      rw [if_neg (by decide), if_neg (by decide), List.mem_singleton]
      decide
    . exact Or.inr (ih h)

theorem ofChars_eq_self {before s : List Char} (h : ∀ c ∈ s, c.toNat < 0x80 ∧ c.isUpper = false)
    : ofChars before s = s := by
  induction s generalizing before with
  | nil => rfl
  | cons a s ih =>
    obtain ⟨⟨hascii, hupper⟩, hrest⟩ := List.forall_mem_cons.1 h
    have hsigma : a ≠ '\u03a3' := by
      rintro rfl
      exact absurd hascii (by decide)
    have hdotted : a ≠ '\u0130' := by
      rintro rfl
      exact absurd hascii (by decide)
    have hsmall : ofChar a = a := by
      unfold ofChar
      rw [if_pos hascii]
      exact dif_neg (of_decide_eq_false hupper)
    rw [ofChars, if_neg hsigma, if_neg hdotted, hsmall, ih hrest]
    rfl

end LowerCase

namespace Path

def dots (names : List String) : List Char := names.flatMap fun name => '.' :: name.toList

def IsName (name : String) : Prop := ∀ c ∈ name.toList, isNameChar c = true

variable {s rest : List Char} {name : String} {path : Path}

theorem eq_of_readName? (h : readName? s = some (name, rest)) : s = name.toList ++ rest ∧ IsName name := by
  unfold readName? at h
  split at h
  . contradiction
  . simp only [Option.some.injEq, Prod.mk.injEq] at h
    obtain ⟨rfl, rfl⟩ := h
    constructor
    . rw [String.toList_ofList, List.takeWhile_append_dropWhile]
    . intro c hc
      rw [String.toList_ofList] at hc
      exact List.all_eq_true.1 List.all_takeWhile c hc

theorem eq_of_readSteps? {fuel : Nat} {steps : List Step} (hbrackets : '[' ∉ s)
    (h : readSteps? fuel s = some steps)
    : ∃ names, steps = names.map .member ∧ s = dots names ∧ ∀ name ∈ names, IsName name := by
  induction fuel generalizing s steps with
  | zero => contradiction
  | succ fuel ih =>
    cases s with
    | nil =>
      obtain rfl := Option.some.inj h
      exact ⟨[], rfl, rfl, nofun⟩
    | cons c s =>
      simp only [readSteps?, Option.bind_eq_bind, Option.bind_eq_some_iff] at h
      obtain ⟨⟨step, rest⟩, hstep, steps', hsteps, heq⟩ := h
      obtain rfl := Option.some.inj heq
      unfold readStep? at hstep
      split at hstep
      . next hdot =>
        injection hdot with hc hs
        subst hc hs
        obtain ⟨⟨name, rest'⟩, hname, heq⟩ := Option.map_eq_some_iff.1 hstep
        obtain ⟨rfl, rfl⟩ := Prod.mk.inj heq
        obtain ⟨hs, hisName⟩ := eq_of_readName? hname
        subst hs
        obtain ⟨names, rfl, rfl, hnames⟩ := ih (by simp at hbrackets; simp [hbrackets]) hsteps
        refine ⟨name :: names, rfl, rfl, ?_⟩
        rw [List.forall_mem_cons]
        exact ⟨hisName, hnames⟩
      . next hbracket =>
        injection hbracket with hc
        subst hc
        simp at hbrackets
      . contradiction

theorem eq_of_parse? (hbrackets : '[' ∉ s) (h : parse? s = some path)
    : ∃ names, path.steps = names.map .member ∧ s = path.name.toList ++ dots names ∧
        ∀ name ∈ path.name :: names, IsName name := by
  simp only [parse?, Option.bind_eq_bind, Option.bind_eq_some_iff] at h
  obtain ⟨⟨name, rest⟩, hname, steps, hsteps, heq⟩ := h
  obtain rfl := Option.some.inj heq
  obtain ⟨rfl, hisName⟩ := eq_of_readName? hname
  obtain ⟨names, rfl, rfl, hnames⟩ := eq_of_readSteps? (fun h => hbrackets (by simp [h])) hsteps
  refine ⟨names, rfl, rfl, ?_⟩
  rw [List.forall_mem_cons]
  exact ⟨hisName, hnames⟩

theorem IsName.dot_not_mem (h : IsName name) : '.' ∉ name.toList :=
  fun hdot => absurd (h '.' hdot) (by decide)

theorem toNat_lt_of_isAlphanum {c : Char} (h : c.isAlphanum = true) : c.toNat < 0x80 := by
  change (decide ('A'.val ≤ c.val ∧ c.val ≤ 'Z'.val)
    || (decide ('a'.val ≤ c.val) && decide (c.val ≤ 'z'.val))
    || (decide ('0'.val ≤ c.val) && decide (c.val ≤ '9'.val))) = true at h
  simp only [Bool.or_eq_true, Bool.and_eq_true, decide_eq_true_eq] at h
  rcases h with ((⟨-, hle⟩ | ⟨-, hle⟩) | ⟨-, hle⟩)
  . exact Nat.lt_of_le_of_lt (UInt32.le_iff_toNat_le.mp hle) (by decide)
  . exact Nat.lt_of_le_of_lt (UInt32.le_iff_toNat_le.mp hle) (by decide)
  . exact Nat.lt_of_le_of_lt (UInt32.le_iff_toNat_le.mp hle) (by decide)

theorem toNat_lt_of_isNameChar {c : Char} (h : isNameChar c = true) : c.toNat < 0x80 := by
  simp only [isNameChar, Bool.or_eq_true, beq_iff_eq] at h
  rcases h with (((h | rfl) | rfl) | rfl)
  . exact toNat_lt_of_isAlphanum h
  . decide
  . decide
  . decide

theorem IsName.lower (h : IsName name) (hupper : ∀ c ∈ name.toList, c.isUpper = false)
    : LowerCase.render name = name := by
  unfold LowerCase.render
  rw [LowerCase.ofChars_eq_self fun c hc => ⟨toNat_lt_of_isNameChar (h c hc), hupper c hc⟩,
    String.ofList_toList]

end Path

namespace Path

theorem ofKey_of_lower_eq {s : List Char} (hbrackets : '[' ∉ s) (hdot : '.' ∈ s)
    (hupper : ∀ c ∈ s, c.isUpper = false) {part : String} (hpart : '.' ∉ part.toList)
    (h : LowerCase.render (ofKey (String.ofList s)).name = part)
    : ∃ key names, (ofKey (String.ofList s)).steps = .member key :: names.map .member ∧
        s = part.toList ++ '.' :: (key.toList ++ dots names) ∧ LowerCase.render key = key := by
  unfold ofKey at h ⊢
  rw [String.toList_ofList] at h ⊢
  cases hpath : parse? s with
  | none =>
    -- a key that is no path is one name, and keeps its dot in lower case
    rw [hpath, Option.getD_none] at h
    rw [← h, LowerCase.render, String.toList_ofList, String.toList_ofList] at hpart
    exact absurd (LowerCase.dot_mem_ofChars hdot) hpart
  | some path =>
    rw [hpath, Option.getD_some] at h
    obtain ⟨names, hsteps, rfl, hnames⟩ := eq_of_parse? hbrackets hpath
    obtain ⟨hname, hnames⟩ := List.forall_mem_cons.1 hnames
    rw [hname.lower fun c hc => hupper c (by simp [hc])] at h
    cases names with
    | nil =>
      simp only [dots, List.flatMap_nil, List.append_nil] at hdot
      exact absurd hdot hname.dot_not_mem
    | cons key names =>
      refine ⟨key, names, hsteps, by rw [h]; rfl, ?_⟩
      apply (hnames key List.mem_cons_self).lower
      intro c hc
      exact hupper c (by simp [dots, hc])

end Path

namespace Environment

structure IsPart (w : List Char) : Prop where
  single : ¬ ['_', '_'] <:+: w
  dot : '.' ∉ w
  bracket : '[' ∉ w

instance (w : List Char) : Decidable (IsPart w) :=
  decidable_of_iff (¬ ['_', '_'] <:+: w ∧ '.' ∉ w ∧ '[' ∉ w)
    ⟨fun ⟨single, dot, bracket⟩ => ⟨single, dot, bracket⟩, fun h => ⟨h.single, h.dot, h.bracket⟩⟩

def joined (part key : List Char) : List Char := part ++ '_' :: '_' :: key

def IsSettingName (name : String) : Prop :=
  ∃ part key, (LowerCase.render name).toList = lead ++ joined part key ∧ IsPart part ∧ IsPart key

section Dots

variable {s : List Char} {c : Char}

def undotted (s : List Char) : List Char := s.flatMap fun c => if c = '.' then ['_', '_'] else [c]

theorem undotted_append (s s' : List Char) : undotted (s ++ s') = undotted s ++ undotted s' :=
  List.flatMap_append

theorem undotted_dot (s : List Char) : undotted ('.' :: s) = '_' :: '_' :: undotted s := rfl

theorem undotted_eq_self (h : '.' ∉ s) : undotted s = s := by
  induction s with
  | nil => rfl
  | cons c s ih =>
    rw [List.mem_cons, not_or] at h
    show (if c = '.' then ['_', '_'] else [c]) ++ undotted s = c :: s
    rw [if_neg (Ne.symm h.1), ih h.2]
    rfl

theorem undotted_dotted (h : '.' ∉ s) : undotted (dotted s) = s := by
  fun_induction dotted s with
  | case1 rest ih =>
    show '_' :: '_' :: undotted (dotted rest) = _
    rw [ih (by simpa using h)]
  | case2 c rest _ ih =>
    rw [List.mem_cons, not_or] at h
    show (if c = '.' then ['_', '_'] else [c]) ++ undotted (dotted rest) = c :: rest
    rw [if_neg (Ne.symm h.1), ih h.2]
    rfl
  | case3 => rfl

theorem mem_of_mem_dotted (h : c ∈ dotted s) : c = '.' ∨ c ∈ s := by
  fun_induction dotted s with
  | case1 rest ih =>
    rcases List.mem_cons.1 h with h | h
    . exact Or.inl h
    . exact (ih h).imp id fun h => by simp [h]
  | case2 c' rest _ ih =>
    rcases List.mem_cons.1 h with h | h
    . exact Or.inr (by simp [h])
    . exact (ih h).imp id fun h => by simp [h]
  | case3 => contradiction

theorem dot_mem_dotted (h : ['_', '_'] <:+: s) : '.' ∈ dotted s := by
  fun_induction dotted s with
  | case1 rest => exact List.mem_cons_self
  | case2 c rest hsingle ih =>
    rcases List.infix_cons_iff.1 h with h | h
    . obtain ⟨tail, htail⟩ := h
      injection htail with hc htail
      exact absurd htail.symm (hsingle tail hc.symm)
    . exact List.mem_cons_of_mem _ (ih h)
  | case3 => simp at h

end Dots

theorem eq_of_joined_eq {part tail part' key : List Char} (hpart : '_' ∉ part)
    (htail : tail.head? ≠ some '_') (hsingle : ¬ ['_', '_'] <:+: part')
    (h : joined part tail = joined part' key)
    : part = part' ∧ tail = key := by
  rcases List.append_eq_append_iff.1 h with ⟨as, rfl, htail'⟩ | ⟨as, rfl, hkey⟩
  . cases as with
    | nil => simpa using htail'
    | cons a as =>
      injection htail' with ha htail'
      cases as with
      | nil =>
        injection htail' with _ htail'
        rw [htail'] at htail
        exact absurd rfl htail
      | cons b as =>
        injection htail' with hb htail'
        subst ha hb
        exact absurd ⟨part, as, by simp⟩ hsingle
  . cases as with
    | nil => simpa using hkey.symm
    | cons a as =>
      injection hkey with ha hkey
      subst ha
      exact absurd (by simp) hpart

theorem key?_eq {name : String} {rest : List Char} (h : (LowerCase.render name).toList = lead ++ rest)
    : key? name = some (String.ofList (dotted rest)) := by
  simp [key?, h]

theorem isUpper_of_mem_dotted {name : String} {rest : List Char} {c : Char}
    (h : (LowerCase.render name).toList = lead ++ rest) (hc : c ∈ dotted rest)
    : c.isUpper = false := by
  rcases mem_of_mem_dotted hc with rfl | hc
  . decide
  . have hlower : c ∈ (LowerCase.render name).toList := by rw [h]; simp [hc]
    rw [LowerCase.render, String.toList_ofList] at hlower
    exact LowerCase.isUpper_of_mem_ofChars hlower

section Parts

variable {part key : List Char} (hpart : IsPart part) (hkey : IsPart key)
include hpart hkey

theorem dot_not_mem_joined : '.' ∉ joined part key := by
  simp [joined, hpart.dot, hkey.dot]

theorem bracket_not_mem_dotted_joined : '[' ∉ dotted (joined part key) := by
  intro h
  rcases mem_of_mem_dotted h with h | h
  . contradiction
  . simp [joined, hpart.bracket, hkey.bracket] at h

end Parts

section Places

variable {p : Config.Place} {name : String} {value : Tree}

open Config (places)

theorem part_chars : ∀ p ∈ places, '_' ∉ p.part.name.toList ∧ '.' ∉ p.part.name.toList := by
  decide +kernel

theorem name_chars
    : ∀ p ∈ places, '.' ∉ p.setting.name.toList ∧ p.setting.name.toList.headD '_' ≠ '_' := by
  decide +kernel

theorem lower_place (hp : p ∈ places)
    : LowerCase.render p.part.name = p.part.name ∧ LowerCase.render p.setting.name = p.setting.name := by
  obtain ⟨hpart, hsetting⟩ := Config.mem_places.1 hp
  exact ⟨(lower_name p.part hpart).1, (lower_name p.part hpart).2 p.setting hsetting⟩

theorem ofKey_place
    : ∀ p ∈ places,
        Path.ofKey (String.ofList (dotted (joined p.part.name.toList p.setting.name.toList)))
          =
        ⟨p.part.name, [.member p.setting.name]⟩ := by
  decide +kernel

def IsAbout (p : Config.Place) (name : String) : Prop :=
  LowerCase.render name = "ipcookies_" ++ p.part.name ++ "__" ++ p.setting.name

instance : Decidable (IsAbout p name) := inferInstanceAs (Decidable (_ = _))

theorem isAbout_iff
    : IsAbout p name
        ↔
      (LowerCase.render name).toList = lead ++ joined p.part.name.toList p.setting.name.toList := by
  rw [IsAbout, ← String.toList_inj]
  simp only [String.toList_append, List.append_assoc]
  rfl

section Joined

variable {part key : List Char} (hpart : IsPart part) (hkey : IsPart key)
  (hlower : (LowerCase.render name).toList = lead ++ joined part key)
include hpart hkey hlower

theorem isAbout_of_dotted_eq (hp : p ∈ places) {names : List String}
    (hpath : dotted (joined part key)
        =
      p.part.name.toList ++ '.' :: (p.setting.name.toList ++ Path.dots names))
    : IsAbout p name := by
  obtain ⟨hunderscore, hpartDot⟩ := part_chars p hp
  obtain ⟨hsettingDot, hhead⟩ := name_chars p hp
  have hjoined : joined part key
      =
    joined p.part.name.toList (p.setting.name.toList ++ undotted (Path.dots names)) := by
    rw [← undotted_dotted (dot_not_mem_joined hpart hkey), hpath, undotted_append,
      undotted_eq_self hpartDot, undotted_dot, undotted_append, undotted_eq_self hsettingDot]
    rfl
  cases names with
  | nil =>
    rw [isAbout_iff, hlower, hjoined]
    simp [Path.dots, undotted]
  | cons next names =>
    -- the part of the name after the section would contain two underscores
    have htail : (p.setting.name.toList ++ undotted (Path.dots (next :: names))).head? ≠ some '_' := by
      cases h : p.setting.name.toList with
      | nil => rw [h] at hhead; contradiction
      | cons c s => rw [h] at hhead; simpa using hhead
    obtain ⟨-, rfl⟩ := eq_of_joined_eq hunderscore htail hpart.single hjoined.symm
    have hdots : undotted (Path.dots (next :: names))
        =
      '_' :: '_' :: undotted (next.toList ++ Path.dots names) := rfl
    refine absurd ⟨p.setting.name.toList, undotted (next.toList ++ Path.dots names), ?_⟩ hkey.single
    rw [hdots]
    simp

theorem steps_ofKey {sectionName : String} (hdot : '.' ∉ sectionName.toList)
    (h : LowerCase.render (Path.ofKey (String.ofList (dotted (joined part key)))).name = sectionName)
    : ∃ key' names,
        (Path.ofKey (String.ofList (dotted (joined part key)))).steps = .member key' :: names.map .member ∧
        dotted (joined part key) = sectionName.toList ++ '.' :: (key'.toList ++ Path.dots names) ∧
        LowerCase.render key' = key' :=
  Path.ofKey_of_lower_eq (bracket_not_mem_dotted_joined hpart hkey)
    (dot_mem_dotted ⟨part, key, by simp [joined]⟩) (fun _ hc => isUpper_of_mem_dotted hlower hc) hdot h

theorem mentions_eq (hp : p ∈ places) (value : Tree)
    : Tree.mentions p.part.name p.setting.name (.ofKey (String.ofList (dotted (joined part key)))) value
        =
      if IsAbout p name then [([], value)] else [] := by
  by_cases habout : IsAbout p name
  . have hjoined : joined part key = joined p.part.name.toList p.setting.name.toList := by
      rw [isAbout_iff, hlower] at habout
      exact List.append_cancel_left habout
    rw [if_pos habout, hjoined, ofKey_place p hp, Tree.mentions_of_member rfl]
    exact if_pos (lower_place hp)
  . rw [if_neg habout]
    by_cases hsection :
        LowerCase.render (Path.ofKey (String.ofList (dotted (joined part key)))).name = p.part.name
    . obtain ⟨key', names, hsteps, hpath, hkeyLower⟩ :=
        steps_ofKey hpart hkey hlower (part_chars p hp).2 hsection
      rw [Tree.mentions_of_member hsteps, if_neg]
      rintro ⟨-, hsetting⟩
      rw [← hkeyLower, hsetting] at hpath
      exact habout (isAbout_of_dotted_eq hpart hkey hlower hp hpath)
    . exact Tree.mentions_of_ne hsection _ _

end Joined

def given (p : Config.Place) (env : List (String × String)) : List Scalar :=
  (env.filter fun v => IsAbout p v.1).map fun v => scalar v.2

theorem given_cons (p : Config.Place) (v : String × String) (env : List (String × String))
    : given p (v :: env) = (if IsAbout p v.1 then [scalar v.2] else []) ++ given p env := by
  unfold given
  by_cases h : IsAbout p v.1 <;> simp [h]

theorem source_cons (v : String × String) (env : List (String × String))
    : source (v :: env)
        =
      ((key? v.1).map fun key => (key, .scalar origin (scalar v.2))).toList ++ source env := by
  unfold source
  cases h : key? v.1 <;> simp [h]

theorem not_isAbout_of_key?_eq_none (h : key? name = none) : ¬ IsAbout p name := by
  intro habout
  rw [key?_eq (isAbout_iff.1 habout)] at h
  contradiction

variable {env : List (String × String)}

def SetsSettings (env : List (String × String)) : Prop :=
  ∀ v ∈ env, key? v.1 = none ∨ IsSettingName v.1

theorem keepsTable_source (henv : SetsSettings env) {part : String} (hdot : '.' ∉ part.toList)
    : ∀ entry ∈ source env, Tree.KeepsTable part (.ofKey entry.1) entry.2 := by
  intro entry hentry hsection
  obtain ⟨v, hv, hread⟩ := List.mem_filterMap.1 hentry
  obtain ⟨key, hkey, rfl⟩ := Option.map_eq_some_iff.1 hread
  rcases henv v hv with hnone | ⟨_, _, hlower, hfirst, hsecond⟩
  . rw [hnone] at hkey
    contradiction
  . rw [key?_eq hlower] at hkey
    obtain rfl := Option.some.inj hkey
    obtain ⟨key', names, hsteps, -⟩ := steps_ofKey hfirst hsecond hlower hdot hsection
    exact Or.inr ⟨key', _, hsteps⟩

theorem sourceMentions_source (henv : SetsSettings env) (hp : p ∈ places)
    : Tree.sourceMentions (source env) p.part.name p.setting.name
        =
      (given p env).map fun x => ([], .scalar origin x) := by
  induction env with
  | nil => rfl
  | cons v env ih =>
    obtain ⟨hv, hrest⟩ := List.forall_mem_cons.1 henv
    rw [source_cons, given_cons, Tree.sourceMentions_append, ih hrest, List.map_append]
    rcases hv with hnone | ⟨_, _, hlower, hfirst, hsecond⟩
    . rw [hnone, if_neg (not_isAbout_of_key?_eq_none hnone)]
      rfl
    . rw [key?_eq hlower, Option.map_some, Option.toList_some, Tree.sourceMentions_singleton,
        mentions_eq hfirst hsecond hlower hp]
      split <;> rfl

end Places

end Environment

end SourceCookie
