import Mathlib.Data.List.Infix

/-!
# Unix paths and text

Paths as a program writes them. Two spellings of a path are equal when they have the same
components: repeated and trailing slashes and inner `.` components do not count.
-/

namespace UnixPath

/-- For comparisons that are reflexive only: two spellings of one path are equal to them. -/
@[simp] theorem bne_refl {α : Type} [BEq α] [ReflBEq α] (a : α) : (a != a) = false := by
  simp [bne]

/-- A path is its text. Two texts may have the same components. -/
structure PathBuf where
  text : String

/-- A component of a path. -/
inductive Component where
  | rootDir
  | curDir
  | parentDir
  | normal (name : List Char)
  deriving DecidableEq

namespace PathBuf

/-- The path begins at the root. -/
def isAbsolute (p : PathBuf) : Bool := p.text.toList.head? == some '/'

/-- A `.` counts only at the start of a relative path. -/
def components (p : PathBuf) : List Component :=
  let parts := p.text.toList.splitOn '/'
  let lead :=
    if p.isAbsolute then [.rootDir]
    else if parts.head? == some ['.'] then [.curDir]
    else []
  let inner := parts.filter fun part => part != [] && part != ['.']
  lead ++ inner.map fun part => if part = ['.', '.'] then .parentDir else .normal part

instance : BEq PathBuf := ⟨fun p q => p.components == q.components⟩

instance : ReflBEq PathBuf := ⟨fun {p} => beq_self_eq_true p.components⟩

theorem beq_iff {p q : PathBuf} : (p == q) = true ↔ p.components = q.components :=
  beq_iff_eq (a := p.components) (b := q.components)

/-- An absolute second path replaces the first. -/
def join (p : PathBuf) (relative : String) : PathBuf :=
  if relative.toList.head? == some '/' then ⟨relative⟩
  else if p.text.toList.getLast?.all (· == '/') then ⟨p.text ++ relative⟩
  else ⟨p.text ++ "/" ++ relative⟩

/-- The last component, if it is a name. -/
def fileName (p : PathBuf) : Option (List Char) :=
  match p.components.getLast? with
  | some (.normal name) => some name
  | _ => none

/-- The components without the last one. The root has no parent. -/
def parent (p : PathBuf) : Option (List Component) :=
  match p.components.getLast? with
  | none => none
  | some .rootDir => none
  | some _ => some p.components.dropLast

/-- A name put below a directory of the root. -/
theorem components_join (directory name : List Char) (hdirectory : '/' ∉ directory)
    (hdirectory₀ : directory ≠ []) (hdirectory₁ : directory ≠ ['.'])
    (hdirectory₂ : directory ≠ ['.', '.']) (hname : '/' ∉ name) (hname₀ : name ≠ [])
    (hname₁ : name ≠ ['.']) (hname₂ : name ≠ ['.', '.']) :
    (join ⟨String.ofList ('/' :: directory)⟩ (String.ofList name)).components =
      [.rootDir, .normal directory, .normal name] := by
  have hhead : name.head? ≠ some '/' := by
    intro h
    exact hname (List.mem_of_head? h)
  have hlast : ('/' :: directory).getLast? ≠ some '/' := by
    rw [List.getLast?_cons_of_ne_nil hdirectory₀]
    intro h
    exact hdirectory (List.mem_of_getLast? h)
  have hjoin : join ⟨String.ofList ('/' :: directory)⟩ (String.ofList name) =
      ⟨String.ofList ('/' :: directory) ++ "/" ++ String.ofList name⟩ := by
    obtain ⟨c, hc⟩ : ∃ c, ('/' :: directory).getLast? = some c :=
      ⟨_, List.getLast?_eq_some_getLast (List.cons_ne_nil '/' directory)⟩
    have hcs : c ≠ '/' := by
      rintro rfl
      exact hlast hc
    simp [join, hhead, hc, hcs]
  have htext : (String.ofList ('/' :: directory) ++ "/" ++ String.ofList name).toList =
      [] ++ '/' :: (directory ++ '/' :: name) := by
    simp [String.toList_append]
  have hsplit : ([] ++ '/' :: (directory ++ '/' :: name)).splitOn '/' = [[], directory, name] := by
    rw [List.splitOn_append_cons_of_beq _ _ rfl, List.splitOn_append_cons_of_beq _ _ rfl,
      List.splitOn_eq_singleton hdirectory, List.splitOn_eq_singleton hname]
    rfl
  rw [hjoin]
  unfold components isAbsolute
  simp only [htext, hsplit]
  simp [*]

/-- A text that ends with a name behind a slash, or is the name, has the name for its last
    component. -/
theorem fileName_of_splitOn {p : PathBuf} (parts : List (List Char)) {name : List Char}
    (hsplit : p.text.toList.splitOn '/' = parts ++ [name]) (hname₀ : name ≠ [])
    (hname₁ : name ≠ ['.']) (hname₂ : name ≠ ['.', '.']) : p.fileName = some name := by
  have hlast : p.components.getLast? = some (.normal name) := by
    unfold components
    simp only [hsplit, List.filter_append, List.map_append]
    simp [hname₀, hname₁, hname₂]
  unfold fileName
  rw [hlast]

/-- What is put below a path follows its parts. Only an empty part at the end, behind a slash,
    is lost. -/
theorem splitOn_join (p : PathBuf) {relative : String}
    (hrelative : relative.toList.head? ≠ some '/') :
    ∃ parts, (p.join relative).text.toList.splitOn '/' = parts ++ relative.toList.splitOn '/' ∧
      (p.text.toList.splitOn '/' = parts ∨ p.text.toList.splitOn '/' = parts ++ [[]]) ∧
      (p.join relative).isAbsolute = p.isAbsolute := by
  have hbehind : ∀ base rest : List Char,
      (base ++ '/' :: rest).splitOn '/' = base.splitOn '/' ++ rest.splitOn '/' :=
    fun base rest => List.splitOn_append_cons_of_beq base rest rfl
  cases hlast : p.text.toList.getLast? with
  | none =>
    -- an empty path is replaced
    have hempty : p.text.toList = [] := List.getLast?_eq_none_iff.1 hlast
    have htext : p.text = "" := by simpa using hempty
    have hjoin : (p.join relative).text = relative := by simp [join, hrelative, htext]
    refine ⟨[], by simp [hjoin], .inr (by simp [hempty]), ?_⟩
    simp [isAbsolute, hjoin, hempty, hrelative]
  | some c =>
    by_cases hc : c = '/'
    · subst hc
      obtain ⟨base, hbase⟩ : ∃ base, p.text.toList = base ++ ['/'] :=
        List.getLast?_eq_some_iff.1 hlast
      have hjoin : (p.join relative).text.toList = base ++ '/' :: relative.toList := by
        simp [join, hrelative, hbase]
      refine ⟨base.splitOn '/', by rw [hjoin, hbehind], .inr ?_, ?_⟩
      · rw [hbase, hbehind, List.splitOn_nil]
      · cases base <;> simp [isAbsolute, hjoin, hbase]
    · have hjoin : (p.join relative).text.toList = p.text.toList ++ '/' :: relative.toList := by
        simp [join, hrelative, hlast, hc]
      refine ⟨p.text.toList.splitOn '/', by rw [hjoin, hbehind], .inl rfl, ?_⟩
      cases htext : p.text.toList with
      | nil => simp [htext] at hlast
      | cons first rest => simp [isAbsolute, hjoin, htext]

/-- A name put below a path is its file name. -/
theorem fileName_join (p : PathBuf) (name : List Char) (hname : '/' ∉ name) (hname₀ : name ≠ [])
    (hname₁ : name ≠ ['.']) (hname₂ : name ≠ ['.', '.']) :
    (p.join (String.ofList name)).fileName = some name := by
  have hhead : (String.ofList name).toList.head? ≠ some '/' := by
    rw [String.toList_ofList]
    exact fun h => hname (List.mem_of_head? h)
  obtain ⟨parts, hparts, _⟩ := p.splitOn_join hhead
  rw [String.toList_ofList, List.splitOn_eq_singleton hname] at hparts
  exact fileName_of_splitOn parts hparts hname₀ hname₁ hname₂

/-- A component that names something: not empty, not the directory itself, not its parent. -/
def IsName (part : List Char) : Prop := part ≠ [] ∧ part ≠ ['.'] ∧ part ≠ ['.', '.']

/-- Names put below a path are added to its components. -/
theorem components_join_names (p : PathBuf) {relative : String}
    (hnames : ∀ part ∈ relative.toList.splitOn '/', IsName part) :
    (p.join relative).components =
      p.components ++ (relative.toList.splitOn '/').map .normal := by
  have hhead : relative.toList.head? ≠ some '/' := by
    intro h
    obtain ⟨rest, hrest⟩ := List.head?_eq_some_iff.1 h
    have hsplit : relative.toList.splitOn '/' = [] :: rest.splitOn '/' := by
      rw [hrest, ← List.nil_append ('/' :: rest), List.splitOn_append_cons_of_beq _ _ rfl,
        List.splitOn_nil]
      rfl
    exact (hnames [] (by simp [hsplit])).1 rfl
  obtain ⟨parts, hparts, hp, habsolute⟩ := p.splitOn_join hhead
  have hfilter : (relative.toList.splitOn '/').filter (fun part => part != [] && part != ['.']) =
      relative.toList.splitOn '/' := by
    apply List.filter_eq_self.2
    intro part hpart
    simp [(hnames part hpart).1, (hnames part hpart).2.1]
  have hmap : ((relative.toList.splitOn '/').map fun part =>
      if part = ['.', '.'] then Component.parentDir else .normal part) =
      (relative.toList.splitOn '/').map .normal := by
    apply List.map_congr_left
    intro part hpart
    rw [if_neg (hnames part hpart).2.2]
  -- the first part is the one of `p`, unless `p` is empty, and then it is a name
  have hfirst : ((parts ++ relative.toList.splitOn '/').head? == some ['.']) =
      ((p.text.toList.splitOn '/').head? == some ['.']) := by
    cases parts with
    | nil =>
      obtain ⟨part, rest, hcons⟩ := List.exists_cons_of_ne_nil
        (List.splitOn_ne_nil '/' relative.toList)
      have hpart := hnames part (by simp [hcons])
      rcases hp with hp | hp <;> simp [hp, hcons, hpart.2.1]
    | cons part rest => rcases hp with hp | hp <;> simp [hp]
  unfold components
  simp only [hparts, habsolute, hfirst, List.filter_append, List.map_append, hfilter, hmap]
  rcases hp with hp | hp <;> simp [hp]

/-! ## Lexical resolution -/

/-- One component further: a `.` stays, a `..` goes back over a name and stays at the root. -/
def resolveStep (done : List Component) : Component → List Component
  | .curDir => done
  | .parentDir =>
    match done.getLast? with
    | some (.normal _) => done.dropLast
    | some .rootDir => done
    | _ => done ++ [.parentDir]
  | component => done ++ [component]

/-- The components of a path without `.` and without `..` behind a name. -/
def resolve (p : PathBuf) : List Component := p.components.foldl resolveStep []

/-- Resolved, the path is the root and at least one name below it. -/
def StrictlyUnder (root p : PathBuf) : Prop :=
  ∃ names : List (List Char), names ≠ [] ∧ p.resolve = root.resolve ++ names.map .normal

theorem foldl_resolveStep_names (done : List Component) (names : List (List Char)) :
    (names.map Component.normal).foldl resolveStep done = done ++ names.map .normal := by
  induction names generalizing done with
  | nil => simp
  | cons name rest ih => simp [resolveStep, ih]

theorem strictlyUnder_join {root : PathBuf} {relative : String}
    (hnames : ∀ part ∈ relative.toList.splitOn '/', IsName part) :
    StrictlyUnder root (root.join relative) := by
  refine ⟨relative.toList.splitOn '/', List.splitOn_ne_nil _ _, ?_⟩
  rw [resolve, components_join_names root hnames, List.foldl_append, foldl_resolveStep_names]
  rfl

theorem StrictlyUnder.join {root p : PathBuf} {relative : String} (h : StrictlyUnder root p)
    (hnames : ∀ part ∈ relative.toList.splitOn '/', IsName part) :
    StrictlyUnder root (p.join relative) := by
  obtain ⟨names, hne, hnames'⟩ := h
  refine ⟨names ++ relative.toList.splitOn '/', by simp [hne], ?_⟩
  rw [resolve, components_join_names p hnames, List.foldl_append, foldl_resolveStep_names,
    List.map_append, ← List.append_assoc, ← hnames']
  rfl

/-- Whole components only. -/
def startsWith (p base : PathBuf) : Bool := base.components.isPrefixOf p.components

end PathBuf

/-! ## Text -/

/-- `text` has `part` somewhere in it. -/
def contains (text part : String) : Bool :=
  text.toList.tails.any fun rest => part.toList.isPrefixOf rest

/-- `is_ascii_hexdigit`. -/
def isHexDigit (c : Char) : Bool :=
  c.isDigit || ('a' ≤ c && c ≤ 'f') || ('A' ≤ c && c ≤ 'F')

/-- The Unicode property White_Space. -/
def isWhiteSpace (c : Char) : Bool :=
  let n := c.toNat
  (9 ≤ n && n ≤ 13) || n == 0x20 || n == 0x85 || n == 0xA0 || n == 0x1680 ||
    (0x2000 ≤ n && n ≤ 0x200A) || n == 0x2028 || n == 0x2029 || n == 0x202F || n == 0x205F ||
    n == 0x3000

/-- The bytes of a text. -/
def utf8 (text : String) : List UInt8 := text.toList.flatMap String.utf8EncodeChar

end UnixPath
