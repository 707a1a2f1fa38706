import Nemor.Tiering.Swapfile.Transaction
import Mathlib.Data.Finset.Image

/-!
# Swapfiles: the Linux backend

The backend issues calls to the system: it reads `/proc/swaps`, asks for the existence of a
file, runs helpers and removes files. What it owns it keeps in memory. The system is a kernel
with files and active swaps; helpers and removals may fail before or after their effect.
-/

namespace Nemor.Tiering.Swapfile

open Effectful UnixPath

/-! ## §1 Calls -/

/-- The calls of the backend. The helpers are given by their executable; a file is removed at
    two places of the source, when a creation is cleaned up and when an owned swapfile is
    removed. -/
inductive SysOp where
  | readProcSwaps
  | exists (path : PathBuf)
  | btrfs (path : PathBuf) (size : UInt64)
  | fallocate (path : PathBuf) (size : UInt64)
  | chmod (path : PathBuf)
  | mkswap (path : PathBuf)
  | swapon (path : PathBuf) (priority : Int32)
  | swapoff (path : PathBuf)
  | cleanUp (path : PathBuf)
  | removeFile (path : PathBuf)

/-- What a call is answered with. -/
abbrev SysOp.Reply : SysOp → Type
  | .readProcSwaps => Except String String
  | .exists _ => Bool
  | .cleanUp _ | .removeFile _ => Except String Unit
  | _ => Except BackendError Unit

/-- The calls with their replies. -/
abbrev sys : Iface where
  Op := SysOp
  Reply := SysOp.Reply

/-! ## §2 The backend -/

/-- The backend: the files that it has made. -/
structure LinuxSwapfileBackend where
  owned : Finset PathKey

/-- The lines of a text; the last one may lack its end. -/
def textLines (text : List Char) : List (List Char) :=
  let lines := text.splitOn '\n'
  -- `str::lines` does not count what follows the last line end
  if lines.getLast? = some [] then lines.dropLast else lines

/-- The first word of a line. -/
def firstWord (line : List Char) : Option String :=
  match (line.dropWhile isWhiteSpace).takeWhile (fun c => !isWhiteSpace c) with
  | [] => none
  | word => some (String.ofList word)

/-- The paths that the text of `/proc/swaps` lists after its header. -/
def listedSwaps (text : String) : Finset PathKey :=
  (((textLines text.toList).drop 1).filterMap firstWord |>.map fun word =>
    (PathBuf.mk word).components).toFinset

/-- `strip_prefix` and `strip_suffix`. -/
def between (first last : String) (text : List Char) : Option (List Char) :=
  if first.toList.isPrefixOf text then
    let tail := text.drop first.length
    if last.toList.isSuffixOf tail then some (tail.take (tail.length - last.length)) else none
  else none

/-- Lower-case letters, digits and hyphens. -/
def isIdByte (byte : UInt8) : Bool :=
  (0x61 ≤ byte && byte ≤ 0x7a) || (0x30 ≤ byte && byte ≤ 0x39) || byte == 0x2d

namespace LinuxSwapfileBackend

/-- The closed namespace of swapfiles. -/
def requirePath (path : PathBuf) : Except BackendError Unit :=
  let value := path.text.toList
  -- three closed families of paths
  let validation :=
    "/var/tmp/nemor-validation-tiering-".toList.isPrefixOf value
      && ".swap".toList.isSuffixOf value
      && !(value.drop "/var/tmp/".length).contains '/'
  let phase6 :=
    (between "/var/lib/nemor/validation/phase6/" "/backing.swap" value).any fun id =>
      let bytes := utf8 (String.ofList id)
      decide (8 ≤ bytes.length) && decide (bytes.length ≤ 64) && bytes.all isIdByte
  let production := path.text == "/var/lib/nemor/swap/nemor-tiering.swap"
  if (validation || phase6 || production) && path.isAbsolute
      && !path.components.any (· == .parentDir) then
    .ok ()
  else
    .error (.blocked "path is outside the closed Nemor swapfile namespace")

/-- A method of the backend. -/
abbrev Linux (α : Type) := Act sys LinuxSwapfileBackend BackendError α

/-- A helper whose failure ends the operation. -/
def helper (op : SysOp) (h : op.Reply = Except BackendError Unit) : Linux Unit :=
  Act.perform (I := sys) op fun r => h ▸ r

/-- The first column of `/proc/swaps`. -/
def activeSwaps : Linux (Finset PathKey) :=
  Act.perform (I := sys) .readProcSwaps fun r =>
    match r with
    | .ok text => .ok (listedSwaps text)
    | .error message => .error (.operation "read_proc_swaps" message)

/-- The swapfile is formatted, or the error that the caller cleans up after. The first two
    helpers on ext4 end the operation without a cleanup. -/
def format (path : PathBuf) (size : UInt64) : FilesystemKind → Linux (Except BackendError Unit)
  | .btrfs => Act.attempt (helper (.btrfs path size) rfl)
  | .ext4 => do
    helper (.fallocate path size) rfl
    helper (.chmod path) rfl
    Act.attempt (helper (.mkswap path) rfl)
  | .unsupported => Act.fail (.blocked "unsupported filesystem")

/-- Make a swap file. A failure on the way removes it again. -/
def createOwned (path : PathBuf) (filesystem : FilesystemKind) (size : UInt64) : Linux Unit := do
  Act.ofExcept (requirePath path)
  if (← Act.request (I := sys) (.exists path)) = true then
    Act.fail (.blocked "refusing to adopt an existing swapfile")
  else
    match ← format path size filesystem with
    -- the cleanup is tried once and its result dropped
    | .error error =>
      if (← Act.request (I := sys) (.exists path)) = true then
        let _ ← Act.request (I := sys) (.cleanUp path)
        Act.fail error
      else
        Act.fail error
    | .ok _ => Act.assign fun b => { b with owned := insert path.components b.owned }

/-- The backend has made the file. -/
def isOwned (b : LinuxSwapfileBackend) (path : PathBuf) : Bool := decide (path.components ∈ b.owned)

/-- Refuse a file that is not ours. -/
def requireOwned (path : PathBuf) : Linux Unit := do
  let b ← Act.current
  if isOwned b path then pure () else Act.fail (.blocked "swapfile is not owned")

/-- `swapon`, for a file of ours. -/
def activateOwned (path : PathBuf) (priority : Int32) : Linux Unit := do
  Act.ofExcept (requirePath path)
  requireOwned path
  helper (.swapon path priority) rfl

/-- `swapoff`, for a file of ours. -/
def deactivateOwned (path : PathBuf) : Linux Unit := do
  Act.ofExcept (requirePath path)
  requireOwned path
  helper (.swapoff path) rfl

/-- The path is given up before the file is removed. -/
def removeOwned (path : PathBuf) : Linux Unit := do
  Act.ofExcept (requirePath path)
  requireOwned path
  Act.assign fun b => { b with owned := b.owned.erase path.components }
  Act.perform (I := sys) (.removeFile path) fun r =>
    match r with
    | .ok _ => .ok ()
    | .error message => .error (.operation "remove_owned_swapfile" message)

end LinuxSwapfileBackend

/-- These methods as a backend. -/
def linux : SwapfileBackend sys LinuxSwapfileBackend where
  activeSwaps := LinuxSwapfileBackend.activeSwaps
  createOwned := LinuxSwapfileBackend.createOwned
  activateOwned := LinuxSwapfileBackend.activateOwned
  deactivateOwned := LinuxSwapfileBackend.deactivateOwned
  removeOwned := LinuxSwapfileBackend.removeOwned
  isOwned := LinuxSwapfileBackend.isOwned

end Nemor.Tiering.Swapfile
