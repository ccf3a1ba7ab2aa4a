import Mathlib.Data.List.TakeDrop
import Mathlib.Logic.Function.Basic
import Mathlib.Tactic.Common

/-!
# A file system

Names lead to inodes, and inodes hold bytes.  A program that has opened a file goes on
with its inode, whatever becomes of the name.  There are no hard links: each inode has at
most one name, and inodes from `unused` on have none.

`Kept fs fs' name` says that a change left a name alone, both where it leads and what is
there; each operation keeps all names but those it is given (`kept_create`,
`kept_pwrite`, `kept_rename`, `kept_remove`).
-/

namespace ModelHub

structure FileSystem (Name Byte : Type*) where
  inode : Name → Option ℕ
  data : ℕ → List Byte
  unused : ℕ
  unshared : ∀ {first second number}, inode first = some number → inode second = some number →
    first = second
  allocated : ∀ {name number}, inode name = some number → number < unused

namespace FileSystem

open Function (update)

/-- No file. -/
def empty (Name Byte : Type*) : FileSystem Name Byte where
  inode _ := none
  data _ := []
  unused := 0
  unshared hinode := by cases hinode
  allocated hinode := by cases hinode

variable {Name Byte : Type*} [DecidableEq Name] (fs : FileSystem Name Byte)

/-- What a name leads to. -/
def read (name : Name) : Option (List Byte) := (fs.inode name).map fs.data

/-! ## Operations -/

omit fs in
theorem of_update_none {links : Name → Option ℕ} {name other : Name} {number : ℕ}
    (hlink : update links name none other = some number) :
    other ≠ name ∧ links other = some number := by
  by_cases heq : other = name
  · rw [heq, Function.update_self] at hlink
    cases hlink
  · rw [Function.update_of_ne heq] at hlink
    exact ⟨heq, hlink⟩

omit fs in
theorem of_update_some {links : Name → Option ℕ} {name other : Name} {number held : ℕ}
    (hlink : update links name (some number) other = some held) :
    (other = name ∧ held = number) ∨ (other ≠ name ∧ links other = some held) := by
  by_cases heq : other = name
  · rw [heq, Function.update_self, Option.some.injEq] at hlink
    exact Or.inl ⟨heq, hlink.symm⟩
  · rw [Function.update_of_ne heq] at hlink
    exact Or.inr ⟨heq, hlink⟩

/-- The name is gone; a program that has the file open still has its inode. -/
def remove (name : Name) : FileSystem Name Byte where
  inode := update fs.inode name none
  data := fs.data
  unused := fs.unused
  unshared := by
    intro first second number hfirst hsecond
    exact fs.unshared (of_update_none hfirst).2 (of_update_none hsecond).2
  allocated hinode := fs.allocated (of_update_none hinode).2

/-- An inode that no other name leads to gets a name. -/
def link (name : Name) (number : ℕ) (free : ∀ other, fs.inode other = some number → other = name) :
    FileSystem Name Byte where
  inode := update fs.inode name (some number)
  data := fs.data
  unused := max fs.unused (number + 1)
  unshared := by
    intro first second held hfirst hsecond
    rcases of_update_some hfirst with ⟨hf, rfl⟩ | ⟨-, hf⟩ <;>
      rcases of_update_some hsecond with ⟨hs, heq⟩ | ⟨-, hs⟩
    · rw [hf, hs]
    · exact hf.trans (free second hs).symm
    · exact (free first (heq ▸ hf)).trans hs.symm
    · exact fs.unshared hf hs
  allocated := by
    intro other held hinode
    rcases of_update_some hinode with ⟨-, rfl⟩ | ⟨-, hinode⟩
    · omega
    · have hlt := fs.allocated hinode
      omega

/-- The inode that a name gets if it is opened for writing. -/
def created (name : Name) : ℕ := (fs.inode name).getD fs.unused

omit [DecidableEq Name] in
variable {fs} in
theorem created_free {name other : Name} (hinode : fs.inode other = some (fs.created name)) :
    other = name := by
  cases hname : fs.inode name with
  | none =>
      rw [created, hname, Option.getD_none] at hinode
      have hlt := fs.allocated hinode
      omega
  | some number =>
      rw [created, hname, Option.getD_some] at hinode
      exact fs.unshared hinode hname

/-- Opens a file for writing: it is made if it is missing, and emptied. -/
def create (name : Name) : FileSystem Name Byte :=
  { fs.link name (fs.created name) (fun _ => created_free) with
    data := update fs.data (fs.created name) [] }

/-- Bytes at an offset; a gap before them is filled. -/
def overwrite [Inhabited Byte] (old : List Byte) (offset : ℕ) (bytes : List Byte) : List Byte :=
  old.takeD offset default ++ bytes ++ old.drop (offset + bytes.length)

/-- Writes into an inode, whether or not it still has a name. -/
def pwrite [Inhabited Byte] (number offset : ℕ) (bytes : List Byte) : FileSystem Name Byte :=
  { fs with data := update fs.data number (overwrite (fs.data number) offset bytes) }

/-- The file gets a new name, in place of the file that had it; `none` if it is missing. -/
def rename (src dst : Name) : Option (FileSystem Name Byte) :=
  if hsome : (fs.inode src).isSome then
    some ((fs.remove src).link dst ((fs.inode src).get hsome) fun _ hother =>
      absurd (fs.unshared (of_update_none hother).2 (Option.some_get hsome).symm)
        (of_update_none hother).1)
  else none

/-! ## What an operation leaves alone -/

/-- The name leads to the same inode, and the inode holds the same. -/
structure Kept (fs fs' : FileSystem Name Byte) (name : Name) : Prop where
  inode : fs'.inode name = fs.inode name
  data : ∀ {number}, fs.inode name = some number → fs'.data number = fs.data number

variable {fs} {fs' : FileSystem Name Byte} {name other src dst : Name} {number offset : ℕ}
  {bytes : List Byte}

omit [DecidableEq Name] in
theorem Kept.refl (fs : FileSystem Name Byte) (name : Name) : Kept fs fs name := ⟨rfl, fun _ => rfl⟩

omit [DecidableEq Name] in
theorem Kept.read (hkept : Kept fs fs' name) : fs'.read name = fs.read name := by
  unfold FileSystem.read
  rw [hkept.inode]
  exact Option.map_congr fun number hinode => hkept.data hinode

omit [DecidableEq Name] in
/-- The inode of a new file is the one the name leads to, or has no name yet. -/
theorem ne_created (hinode : fs.inode name ≠ some number) (hused : number < fs.unused) :
    number ≠ fs.created name := by
  rintro rfl
  cases hname : fs.inode name with
  | none =>
      rw [created, hname, Option.getD_none] at hused
      omega
  | some held => exact hinode (by rw [created, hname, Option.getD_some])

omit [DecidableEq Name] in
theorem ne_created_of_ne (hne : other ≠ name) (hinode : fs.inode other = some number) :
    number ≠ fs.created name := by
  rintro rfl
  exact hne (created_free hinode)

theorem kept_create (hne : other ≠ name) : Kept fs (fs.create name) other where
  inode := Function.update_of_ne hne _ _
  data hinode := Function.update_of_ne (ne_created_of_ne hne hinode) _ _

omit [DecidableEq Name] in
theorem kept_pwrite [Inhabited Byte] (hne : other ≠ name) (hinode : fs.inode name = some number) :
    Kept fs (fs.pwrite number offset bytes) other where
  inode := rfl
  data hother := Function.update_of_ne (fun heq => hne (fs.unshared hother (by rw [hinode, heq]))) _ _

/-- A file that is renamed is there. -/
theorem rename_eq_some (hrename : fs.rename src dst = some fs') : ∃ number,
    fs.inode src = some number ∧ fs'.inode = update (update fs.inode src none) dst (some number) ∧
      fs'.data = fs.data ∧ fs.unused ≤ fs'.unused := by
  unfold rename at hrename
  split at hrename
  case isTrue hsome =>
    obtain rfl := Option.some.inj hrename
    exact ⟨_, (Option.some_get hsome).symm, rfl, rfl, Nat.le_max_left _ _⟩
  case isFalse => cases hrename

theorem kept_rename (hrename : fs.rename src dst = some fs') (hsrc : other ≠ src)
    (hdst : other ≠ dst) : Kept fs fs' other := by
  obtain ⟨number, -, hinode, hdata, -⟩ := rename_eq_some hrename
  constructor
  · rw [hinode, Function.update_of_ne hdst, Function.update_of_ne hsrc]
  · intro held _
    rw [hdata]

theorem read_rename (hrename : fs.rename src dst = some fs') : fs'.read dst = fs.read src := by
  obtain ⟨number, hsrc, hinode, hdata, -⟩ := rename_eq_some hrename
  rw [FileSystem.read, FileSystem.read, hinode, Function.update_self, hdata, hsrc]

theorem kept_remove (hne : other ≠ name) : Kept fs (fs.remove name) other :=
  ⟨Function.update_of_ne hne _ _, fun _ => rfl⟩

theorem read_remove : (fs.remove name).read name = none := by
  have hinode : (fs.remove name).inode name = none := Function.update_self _ _ _
  rw [FileSystem.read, hinode, Option.map_none]

/-! ## Writing a file from its beginning -/

theorem inode_create : (fs.create name).inode name = some (fs.created name) :=
  Function.update_self _ _ _

theorem data_create : (fs.create name).data (fs.created name) = [] := Function.update_self _ _ _

omit [DecidableEq Name] in
/-- The next bytes after those that are there. -/
theorem data_pwrite [Inhabited Byte] (hoffset : (fs.data number).length = offset) :
    (fs.pwrite number offset bytes).data number = fs.data number ++ bytes := by
  have htake : (fs.data number).takeD offset default = fs.data number := by
    rw [← hoffset, List.takeD_eq_take _ (Nat.le_refl _), List.take_length]
  have hdrop : (fs.data number).drop (offset + bytes.length) = [] :=
    List.drop_eq_nil_of_le (by omega)
  have hdata : (fs.pwrite number offset bytes).data number =
      overwrite (fs.data number) offset bytes := Function.update_self _ _ _
  rw [hdata, overwrite, htake, hdrop, List.append_nil]

end FileSystem

end ModelHub
