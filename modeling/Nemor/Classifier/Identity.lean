import Nemor.Lib.MachineNumbers
import Nemor.Lib.OrderedMap
import Nemor.Lib.Rendering

/-!
# Process identity

What is stored of a process is a display text and a signature. The signature is the hash of the
normalized path of the executable, or of its name where there is no such path. The display text
shows a path only below the directories of the system; of any other path it shows the last
component. §3 says when it shows no more than that.
-/

namespace Nemor.Classifier

open MachineNumbers Text UnixPath

/-! ## §1 Samples -/

/-- What the collector says of one process. -/
structure ProcessSample where
  timestampNs : Int64
  pid : UInt32
  executable : Option String
  executableName : Option String
  parentPid : Option UInt32
  processGroupId : Option Int32
  sessionId : Option Int32
  ttyNr : Option Int64
  foregroundProcessGroupId : Option Int32
  startTimeTicks : Option UInt64
  cgroupPath : Option String
  rssBytes : Option UInt64
  pssBytes : Option UInt64
  ussBytes : Option UInt64
  swapBytes : Option UInt64
  minorFaults : Option UInt64
  majorFaults : Option UInt64
  cpuPercent : Option F64
  ioReadBytes : Option UInt64
  ioWriteBytes : Option UInt64

/-- What the kernel adds to the path of an executable that was removed. -/
def deletedMark : List Char := " (deleted)".toList

/-- The last component of the executable's path. -/
def ProcessSample.fileName (s : ProcessSample) : Option (List Char) :=
  s.executable.bind fun value => (PathBuf.mk value).fileName

/-- The file name, or else the command name of the kernel. -/
def normalizedName (s : ProcessSample) : String :=
  let name := (s.fileName.or (s.executableName.map String.toList)).getD []
  String.ofList (toAsciiLowercase (trimEndText deletedMark name))

/-! ## §2 Stable identity -/

/-- One part of a path: a `..` takes the last name back, and there must be one. -/
def normalizeStep (parts : List (List Char)) (part : List Char) : Option (List (List Char)) :=
  if part = [] ∨ part = ['.'] then some parts
  else if part = ['.', '.'] then if parts = [] then none else some parts.dropLast
  else some (parts ++ [part])

/-- `normalize_linux_executable_path`: an absolute path without its dots, or nothing. -/
def normalizeLinuxExecutablePath (value : String) : Option String :=
  let raw := trimEndText deletedMark (trim value.toList)
  if raw.head? ≠ some '/' ∨ '\x00' ∈ raw then none
  else do
    let parts ← (raw.splitOn '/').foldlM normalizeStep []
    if parts = [] then none else some (String.ofList ('/' :: ['/'].intercalate parts))

/-- Paths that say nothing of a user. -/
def isSafeSystemPath (path : String) : Bool :=
  ["/usr/", "/bin/", "/sbin/", "/opt/", "/nix/store/", "/snap/"].any fun start =>
    start.toList.isPrefixOf path.toList

/-- `IDENTITY_FORMAT_VERSION`. -/
def identityFormatVersion : String := "nemor-process-identity-v2"

/-- The path of the executable, if it has a normal form. -/
def ProcessSample.normalizedPath (s : ProcessSample) : Option String :=
  s.executable.bind normalizeLinuxExecutablePath

/-- The last part of the normalized path, or else the name that was passed. -/
def ProcessSample.basename (s : ProcessSample) (fallbackName : String) : String :=
  let last := s.normalizedPath.bind fun path => (path.toList.splitOn '/').getLast?
  let basename := toAsciiLowercase ((last.filter fun value => value ≠ []).getD fallbackName.toList)
  if basename = [] then "unknown" else String.ofList basename

/-- The display text and the signature; `sha256` is the hexadecimal digest of a text. -/
def stableIdentity (sha256 : String → String) (s : ProcessSample) (fallbackName : String) :
    String × String :=
  let basename := s.basename fallbackName
  let (display, kind, identity) :=
    match s.normalizedPath with
    | some path =>
      (if isSafeSystemPath path then path else "private:" ++ basename, "path", path)
    | none => (basename, "basename", basename)
  (display, sha256 (identityFormatVersion ++ "\x00" ++ kind ++ "\x00" ++ identity))

/-! ## §3 What a path leaves behind -/

/-- A name that can stand between two slashes. -/
def IsPart (part : List Char) : Prop := PathBuf.IsName part ∧ '/' ∉ part

theorem normalizeStep_parts {parts result : List (List Char)} {part : List Char}
    (hparts : ∀ p ∈ parts, IsPart p) (hpart : '/' ∉ part)
    (h : normalizeStep parts part = some result) : ∀ p ∈ result, IsPart p := by
  unfold normalizeStep at h
  split at h
  · cases h
    exact hparts
  · next hdot =>
    split at h
    · obtain ⟨-, h⟩ := Option.ite_none_left_eq_some.1 h
      cases h
      exact fun p hp => hparts p (List.dropLast_subset parts hp)
    · next hdots =>
      cases h
      intro p hp
      rcases List.mem_append.1 hp with hp | hp
      · exact hparts p hp
      · rw [List.mem_singleton.1 hp]
        exact ⟨⟨fun h => hdot (.inl h), fun h => hdot (.inr h), hdots⟩, hpart⟩

theorem foldlM_normalizeStep_parts {rest done result : List (List Char)}
    (hrest : ∀ part ∈ rest, '/' ∉ part) (hdone : ∀ p ∈ done, IsPart p)
    (h : rest.foldlM normalizeStep done = some result) : ∀ p ∈ result, IsPart p := by
  induction rest generalizing done with
  | nil =>
    cases h
    exact hdone
  | cons part rest ih =>
    rw [List.foldlM_cons] at h
    obtain ⟨next, hnext, h⟩ := Option.bind_eq_some_iff.1 h
    have hparts := normalizeStep_parts hdone (hrest part (by simp)) hnext
    exact ih (fun q hq => hrest q (List.mem_cons_of_mem part hq)) hparts h

/-- A normalized path is a slash before each of its parts. -/
theorem normalizeLinuxExecutablePath_parts {value path : String}
    (h : normalizeLinuxExecutablePath value = some path) :
    ∃ parts, parts ≠ [] ∧ (∀ p ∈ parts, IsPart p) ∧
      path.toList = '/' :: ['/'].intercalate parts := by
  obtain ⟨-, h⟩ := Option.ite_none_left_eq_some.1 h
  obtain ⟨parts, hparts, h⟩ := Option.bind_eq_some_iff.1 h
  obtain ⟨hne, h⟩ := Option.ite_none_left_eq_some.1 h
  cases h
  refine ⟨parts, hne, ?_, String.toList_ofList⟩
  exact foldlM_normalizeStep_parts (fun _ => notMem_of_mem_splitOn) (by simp) hparts

theorem splitOn_parts {parts : List (List Char)} (hne : parts ≠ []) (h : ∀ p ∈ parts, IsPart p) :
    (['/'].intercalate parts).splitOn '/' = parts :=
  List.splitOn_intercalate '/' (fun p hp => (h p hp).2) hne

theorem normal_mem_components {p : PathBuf} {name : List Char}
    (h : UnixPath.Component.normal name ∈ p.components) : '/' ∉ name := by
  rcases List.mem_append.1 h with h | h
  · split at h
    · simp at h
    · split at h <;> simp at h
  · obtain ⟨part, hpart, hname⟩ := List.mem_map.1 h
    split at hname
    · cases hname
    · cases hname
      exact notMem_of_mem_splitOn (List.mem_of_mem_filter hpart)

theorem fileName_notMem {p : PathBuf} {name : List Char} (h : p.fileName = some name) :
    '/' ∉ name := by
  unfold PathBuf.fileName at h
  split at h
  · next last hlast =>
    cases h
    exact normal_mem_components (List.mem_of_getLast? hlast)
  · cases h

/-! ## §4 What is shown and what is hashed -/

/-- Without a slash, or a path below the directories of the system that does not lead out of
    them. -/
def Discreet (display : String) : Prop :=
  '/' ∉ display.toList ∨
    isSafeSystemPath display = true ∧
      ∀ part ∈ display.toList.tail.splitOn '/', PathBuf.IsName part

theorem discreet_of_safe {value path : String} (h : normalizeLinuxExecutablePath value = some path)
    (hsafe : isSafeSystemPath path = true) : Discreet path := by
  obtain ⟨parts, hne, hparts, hpath⟩ := normalizeLinuxExecutablePath_parts h
  refine .inr ⟨hsafe, ?_⟩
  rw [hpath, List.tail_cons, splitOn_parts hne hparts]
  exact fun p hp => (hparts p hp).1

section Display

variable {s : ProcessSample} {value path : String}

theorem exists_lastPart (h : normalizeLinuxExecutablePath value = some path) :
    ∃ part, (path.toList.splitOn '/').getLast? = some part ∧ IsPart part := by
  obtain ⟨parts, hne, hparts, hpath⟩ := normalizeLinuxExecutablePath_parts h
  have hsplit : path.toList.splitOn '/' = [] :: parts := by
    rw [hpath, ← List.nil_append ('/' :: _), List.splitOn_append_cons_self_of_not_mem (by simp),
      splitOn_parts hne hparts]
  obtain ⟨part, hpart⟩ := Option.ne_none_iff_exists'.1 fun hnone =>
    hne (List.getLast?_eq_none_iff.1 hnone)
  refine ⟨part, ?_, hparts part (List.mem_of_getLast? hpart)⟩
  rw [hsplit, List.getLast?_cons, hpart]
  rfl

/-- The name shown of a path is its last part, whatever name was passed. -/
theorem basename_of_some (h : s.normalizedPath = some path) :
    ∃ part, (path.toList.splitOn '/').getLast? = some part ∧ '/' ∉ part ∧
      ∀ fallbackName, s.basename fallbackName = String.ofList (toAsciiLowercase part) := by
  obtain ⟨value, -, hvalue⟩ := Option.bind_eq_some_iff.1 h
  obtain ⟨part, hpart, ⟨hne, -⟩, hslash⟩ := exists_lastPart hvalue
  refine ⟨part, hpart, hslash, fun fallbackName => ?_⟩
  unfold ProcessSample.basename
  simp [h, hpart, Option.filter, hne]

/-- Without a path the name that was passed is shown. -/
theorem basename_of_none (h : s.normalizedPath = none) (fallbackName : String) :
    s.basename fallbackName =
      if fallbackName.toList = [] then "unknown"
      else String.ofList (toAsciiLowercase fallbackName.toList) := by
  unfold ProcessSample.basename
  simp [h]

end Display

section Identity

variable (sha256 : String → String) (s : ProcessSample)

/-- The identity of a sample, with the name that the classifier passes. -/
def identityOf : String × String := stableIdentity sha256 s (normalizedName s)

/-- What an identity stands for: a path or the name of an executable. -/
inductive IdentityKey where
  | path (text : String)
  | basename (text : String)
  deriving DecidableEq

/-- What the identity is the digest of: the path, or else the name. -/
def identityKey : IdentityKey :=
  match s.normalizedPath with
  | some path => .path path
  | none => .basename (s.basename (normalizedName s))

/-- The command name as it is shown: without the mark, in lower case. -/
def commandText (name : String) : String :=
  String.ofList (toAsciiLowercase (trimEndText deletedMark name.toList))

/-- There is a path to take the name from, or the command name itself shows no directory. -/
def NamedDiscreetly : Prop :=
  s.normalizedPath.isSome = true ∨ s.fileName.isSome = true ∨
    ∀ name, s.executableName = some name → Discreet (commandText name)

theorem normalizedName_of_fileName {s : ProcessSample} {name : List Char}
    (h : s.fileName = some name) : '/' ∉ (normalizedName s).toList := by
  obtain ⟨value, -, hvalue⟩ := Option.bind_eq_some_iff.1 h
  unfold normalizedName
  rw [h, Option.some_or, Option.getD_some, String.toList_ofList]
  intro hmem
  exact fileName_notMem hvalue
    (mem_of_mem_trimEndText (mem_of_mem_toAsciiLowercase (by decide) hmem))

theorem normalizedName_of_none {s : ProcessSample} (h : s.fileName = none) :
    normalizedName s = commandText (s.executableName.getD "") := by
  unfold normalizedName commandText
  rw [h, Option.none_or]
  cases s.executableName with
  | none => rfl
  | some name => rfl

/-- The display text of a sample with a path is discreet. -/
theorem discreet_of_some {s : ProcessSample} {path : String} (h : s.normalizedPath = some path) :
    Discreet (identityOf sha256 s).1 := by
  obtain ⟨value, -, hvalue⟩ := Option.bind_eq_some_iff.1 h
  unfold identityOf stableIdentity
  rw [h]
  dsimp only
  split
  · next hsafe => exact discreet_of_safe hvalue hsafe
  · obtain ⟨part, -, hslash, hbasename⟩ := basename_of_some h
    left
    rw [hbasename, String.toList_append]
    intro hmem
    rcases List.mem_append.1 hmem with hmem | hmem
    · revert hmem
      decide
    · rw [String.toList_ofList] at hmem
      exact hslash (mem_of_mem_toAsciiLowercase (by decide) hmem)

/-- Without a path the name is shown, and it is in lower case already. -/
theorem discreet_of_none {s : ProcessSample} (h : s.normalizedPath = none) :
    Discreet (identityOf sha256 s).1 ↔ Discreet (normalizedName s) := by
  have hlower : toAsciiLowercase (normalizedName s).toList = (normalizedName s).toList := by
    simp [normalizedName]
  unfold identityOf stableIdentity
  rw [h]
  dsimp only
  rw [basename_of_none h, hlower, String.ofList_toList]
  split
  · next hempty =>
    have hslash : '/' ∉ (normalizedName s).toList := by simp [hempty]
    exact iff_of_true (.inl (by decide)) (.inl hslash)
  · rfl

theorem discreet_display_iff : Discreet (identityOf sha256 s).1 ↔ NamedDiscreetly s := by
  cases hpath : s.normalizedPath with
  | some path =>
    exact iff_of_true (discreet_of_some sha256 hpath) (.inl (by rw [hpath]; rfl))
  | none =>
    rw [discreet_of_none sha256 hpath]
    cases hfile : s.fileName with
    | some name =>
      exact iff_of_true (.inl (normalizedName_of_fileName hfile)) (.inr (.inl (by rw [hfile]; rfl)))
    | none =>
      rw [normalizedName_of_none hfile, NamedDiscreetly, hpath, hfile]
      cases hname : s.executableName with
      | none => simpa using .inl (by decide)
      | some name => simp

/-- What is hashed. -/
def IdentityKey.representation : IdentityKey → String
  | .path text => identityFormatVersion ++ "\x00" ++ "path" ++ "\x00" ++ text
  | .basename text => identityFormatVersion ++ "\x00" ++ "basename" ++ "\x00" ++ text

theorem representation_injective : Function.Injective IdentityKey.representation := by
  intro k k' h
  have hlist := congrArg String.toList h
  cases k <;> cases k' <;>
    simp only [IdentityKey.representation, String.toList_append, List.append_assoc,
      List.append_cancel_left_eq, String.toList_inj] at hlist
  · rw [hlist]
  -- the kinds begin with different letters
  · exact absurd (congrArg List.head? hlist) (by simp)
  · exact absurd (congrArg List.head? hlist) (by simp)
  · rw [hlist]

theorem signature_eq : (identityOf sha256 s).2 = sha256 (identityKey s).representation := by
  unfold identityOf stableIdentity identityKey
  cases s.normalizedPath with
  | none => rfl
  | some path => rfl

theorem display_congr {s other : ProcessSample} (h : identityKey s = identityKey other) :
    (identityOf sha256 s).1 = (identityOf sha256 other).1 := by
  unfold identityKey at h
  unfold identityOf stableIdentity
  cases hs : s.normalizedPath <;> cases hother : other.normalizedPath <;> rw [hs, hother] at h
  case none.none => exact IdentityKey.basename.inj h
  case none.some => cases h
  case some.none => cases h
  case some.some path path' =>
    obtain rfl := IdentityKey.path.inj h
    -- the name shown comes from the path alone
    obtain ⟨part, hpart, -, hbasename⟩ := basename_of_some hs
    obtain ⟨part', hpart', -, hbasename'⟩ := basename_of_some hother
    obtain rfl := Option.some.inj (hpart.symm.trans hpart')
    dsimp only
    rw [hbasename, hbasename']

end Identity

/-! ## §5 Privacy and identity -/

/-- The display text is discreet, and nobody shares the identity but a sample of the same path or
    name. -/
structure IdentityGuarded (sha256 : String → String) (s : ProcessSample) : Prop where
  discreet : Discreet (identityOf sha256 s).1
  signature : ∀ other,
    (identityOf sha256 s).2 = (identityOf sha256 other).2 ↔ identityKey s = identityKey other
  identity : ∀ other,
    identityOf sha256 s = identityOf sha256 other ↔ identityKey s = identityKey other

/-- **Identity.** With an injective hash the identity of a sample is its normalized path, or its
    name where it has none; and the display text keeps directories outside the system to itself
    exactly when there is a path to take a name from or the command name is discreet. -/
theorem identityGuarded_iff {sha256 : String → String} (hhash : Function.Injective sha256)
    (s : ProcessSample) : IdentityGuarded sha256 s ↔ NamedDiscreetly s := by
  refine ⟨fun h => (discreet_display_iff sha256 s).1 h.discreet, fun h => ?_⟩
  have hsignature : ∀ other, (identityOf sha256 s).2 = (identityOf sha256 other).2 ↔
      identityKey s = identityKey other := by
    intro other
    rw [signature_eq, signature_eq, hhash.eq_iff, representation_injective.eq_iff]
  refine ⟨(discreet_display_iff sha256 s).2 h, hsignature, fun other => ?_⟩
  constructor
  · intro heq
    exact (hsignature other).1 (congrArg Prod.snd heq)
  · intro hkey
    exact Prod.ext (display_congr sha256 hkey) ((hsignature other).2 hkey)

/-! ### Two samples -/

/-- A sample of which nothing is known. -/
def blankSample : ProcessSample where
  timestampNs := 1
  pid := 1
  executable := none
  executableName := none
  parentPid := none
  processGroupId := none
  sessionId := none
  ttyNr := none
  foregroundProcessGroupId := none
  startTimeTicks := none
  cgroupPath := none
  rssBytes := none
  pssBytes := none
  ussBytes := none
  swapBytes := none
  minorFaults := none
  majorFaults := none
  cpuPercent := none
  ioReadBytes := none
  ioWriteBytes := none

/-- A program in a home directory. -/
def homeSample : ProcessSample :=
  { blankSample with executable := some "/home/alice/./Games//run.sh (deleted)" }

/-- A process that has named itself like a path and whose executable cannot be read. -/
def renamedSample : ProcessSample := { blankSample with executableName := some "/home/alice/x" }

/-- What the hash gives for the two samples. -/
def knownDigests : List (String × String) :=
  [(identityFormatVersion ++ "\x00path\x00/home/alice/Games/run.sh",
      "d62a8d1e5b5bce29f0cf0cee6653d6ffaefb9bb5daaf6e52b14245919a9cbfa3"),
    (identityFormatVersion ++ "\x00basename\x00/home/alice/x",
      "85da080700cbd5713ec94f130828c0402ddf7db98eac46f6f44b19375c1b4f2f")]

/-- A hash with these digests; any other text stays what it is, with a mark. -/
def knownDigest (text : String) : String := (knownDigests.lookup text).getD ("other:" ++ text)

theorem knownDigest_injective : Function.Injective knownDigest := by
  have hother : Function.Injective fun text : String => "other:" ++ text := by
    intro a b h
    simpa [← String.toList_inj] using h
  have hsame : ∀ e ∈ knownDigests, ∀ e' ∈ knownDigests, e.2 = e'.2 → e.1 = e'.1 := by decide
  have hmark : ∀ e ∈ knownDigests, e.2.toList.head? ≠ some 'o' := by decide
  refine HashMap.lookup_getD_injective hother hsame fun e he text h => hmark e he ?_
  rw [← h]
  simp

theorem homeSample_guarded :
    IdentityGuarded knownDigest homeSample ∧
      identityOf knownDigest homeSample =
        ("private:run.sh", "d62a8d1e5b5bce29f0cf0cee6653d6ffaefb9bb5daaf6e52b14245919a9cbfa3") :=
  ⟨(identityGuarded_iff knownDigest_injective homeSample).2 (.inl (by decide)), by decide⟩

/-- A command name with directories in it is shown as it is. -/
theorem renamedSample_exposed :
    (identityOf knownDigest renamedSample).1 = "/home/alice/x" ∧
      ¬ IdentityGuarded knownDigest renamedSample := by
  have hdisplay : (identityOf knownDigest renamedSample).1 = "/home/alice/x" := by decide
  refine ⟨hdisplay, fun h => ?_⟩
  have hdiscreet := h.discreet
  rw [hdisplay] at hdiscreet
  rcases hdiscreet with hslash | ⟨hsafe, -⟩
  · exact hslash (by decide)
  · revert hsafe
    decide

end Nemor.Classifier
