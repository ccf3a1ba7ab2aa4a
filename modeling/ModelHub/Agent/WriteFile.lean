import ModelHub.Foundations.FileSystem
import ModelHub.Foundations.Interleaving
import ModelHub.Foundations.Simulation

/-!
# Writing a file of the config directory

`writeFile` of `agent/internal/config/config.go` goes through a second file and renames
it, "so a crash never leaves a truncated config or half-written private key behind".
`Load` and `loadFile` read with `os.ReadFile`, and `Delete` takes a file away.

Here these calls run system call by system call on one file system.  Any of them may fail
or be killed at every point, and other calls may run at the same time, except that no two
calls of `writeFile` run for the same path (`Separate`): the commands of one config
directory run one after another, and `run` only reads.

`writeFile_atomic` is the abstraction that the rest of the agent relies on: the files hold
what whole replacements and removals make of them, a call that returns without an error
has made its replacement and any other call none, and a reader gets what there was at the
moment it opened the file.
-/

namespace ModelHub.Agent

open Interleaving Transition FileSystem

/-! ## The calls, system call by system call -/

/-- The name that `writeFile` writes to first. -/
def tmp (path : String) : String := path ++ ".tmp"

def IsTmp (name : String) : Prop := ".tmp".toList <:+ name.toList

instance (name : String) : Decidable (IsTmp name) :=
  inferInstanceAs (Decidable (".tmp".toList <:+ name.toList))

/-- The bytes of files. -/
abbrev Files := FileSystem String UInt8

/-- Where a call of `writeFile` stands; `write`, with the open inode and the number of
bytes that it has, and `close` belong to `os.WriteFile`. -/
inductive WriteFilePc where
  | mkdirAll
  | openTmp
  | write (number offset : ℕ)
  | close (err : Option String)
  | rename
  | returned (err : Option String)
  | killed
  deriving DecidableEq, Repr

inductive ReadError where
  /-- `fs.ErrNotExist` -/
  | notExist
  | other (text : String)
  deriving DecidableEq, Repr

/-- Where a call of `os.ReadFile` stands. -/
inductive ReadFilePc where
  | openFile
  | reading (number : ℕ) (got : List UInt8)
  | returned (result : Except ReadError (List UInt8))
  | killed
  deriving DecidableEq

inductive FileCall where
  | writeFile (path : String) (data : List UInt8) (pc : WriteFilePc)
  | readFile (path : String) (pc : ReadFilePc)
  deriving DecidableEq

/-- What becomes of a system call. -/
inductive Syscall where
  | done
  /-- It moves some of the bytes, one at least. -/
  | part (more : ℕ)
  | fails (failure : String)
  /-- The process is killed before it. -/
  | killed
  deriving DecidableEq, Repr

def WriteFilePc.Running : WriteFilePc → Prop
  | .returned _ => False
  | .killed => False
  | _ => True

def writeFileStep (syscall : Syscall) (fs : Files) (path : String) (data : List UInt8) :
    WriteFilePc → Option (Files × WriteFilePc)
  | .mkdirAll =>
      match syscall with
      | .done => some (fs, .openTmp)
      | .part _ => none
      | .fails failure => some (fs, .returned (some failure))
      | .killed => some (fs, .killed)
  | .openTmp =>
      match syscall with
      | .done => some (fs.create (tmp path), .write (fs.created (tmp path)) 0)
      | .part _ => none
      | .fails failure => some (fs, .returned (some failure))
      | .killed => some (fs, .killed)
  | .write number offset =>
      match syscall with
      | .done => none
      | .part more =>
          let bytes := (data.drop offset).take (more + 1)
          -- the loop of `File.Write` ends with the last byte
          some (fs.pwrite number offset bytes,
            if offset + bytes.length = data.length then .close none
            else .write number (offset + bytes.length))
      | .fails failure => some (fs, .close (some failure))
      | .killed => some (fs, .killed)
  | .close err =>
      match syscall with
      | .done => some (fs, match err with | none => .rename | some failure => .returned (some failure))
      | .part _ => none
      | .fails failure => some (fs, .returned (some (err.getD failure)))
      | .killed => some (fs, .killed)
  | .rename =>
      match syscall with
      | .done =>
          match fs.rename (tmp path) path with
          | some fs' => some (fs', .returned none)
          | none => some (fs, .returned (some ("rename " ++ tmp path ++ " " ++ path ++
              ": no such file or directory")))
      | .part _ => none
      | .fails failure => some (fs, .returned (some failure))
      | .killed => some (fs, .killed)
  | .returned _ => none
  | .killed => none

def readFileStep (syscall : Syscall) (fs : Files) (path : String) : ReadFilePc → Option ReadFilePc
  | .openFile =>
      match syscall with
      | .done =>
          match fs.inode path with
          | some number => some (.reading number [])
          | none => some (.returned (.error .notExist))
      | .part _ => none
      | .fails failure => some (.returned (.error (.other failure)))
      | .killed => some .killed
  | .reading number got =>
      match syscall with
      | .done => none
      | .part more =>
          match ((fs.data number).drop got.length).take (more + 1) with
          -- the end of the file
          | [] => some (.returned (.ok got))
          | bytes => some (.reading number (got ++ bytes))
      | .fails failure => some (.returned (.error (.other failure)))
      | .killed => some .killed
  | .returned _ => none
  | .killed => none

def FileCall.advance (syscall : Syscall) (fs : Files) : FileCall → Option (Files × FileCall)
  | .writeFile path data pc =>
      (writeFileStep syscall fs path data pc).map fun next => (next.1, .writeFile path data next.2)
  | .readFile path pc => (readFileStep syscall fs path pc).map fun next => (fs, .readFile path next)

/-- The callers name `config.json` and `identity.key`. -/
def FileCall.entry : FileCall → Bool
  | .writeFile path _ pc => pc = .mkdirAll ∧ ¬ IsTmp path
  | .readFile path pc => pc = .openFile ∧ ¬ IsTmp path

/-- `os.Remove` -/
def removeFile (path : String) (fs : Files) : Option Files :=
  if IsTmp path then none else some (fs.remove path)

def fileCalls : Service Files FileCall Syscall String := ⟨FileCall.entry, FileCall.advance, removeFile⟩

/-! ## Replacements and removals -/

/-- What happens to the files, seen from outside. -/
inductive FileChange where
  | replace (call : ℕ) (path : String) (data : List UInt8)
  | remove (path : String)
  deriving DecidableEq

/-- The call that makes the change. -/
def FileChange.call : FileChange → Option ℕ
  | .replace call _ _ => some call
  | .remove _ => none

/-- Files that are replaced as a whole. -/
def wholeFiles : System (String → Option (List UInt8)) FileChange where
  step files
    | .replace _ path data => some (Function.update files path (some data))
    | .remove path => some (Function.update files path none)

/-- What the files hold, those apart that are being written. -/
def contents (fs : Files) (name : String) : Option (List UInt8) :=
  if IsTmp name then none else fs.read name

/-- The last system call of a `writeFile`. -/
def Renames (syscall : Syscall) (fs : Files) (path : String) (pc : WriteFilePc) : Prop :=
  pc = .rename ∧ syscall = .done ∧ (fs.inode (tmp path)).isSome

instance (syscall : Syscall) (fs : Files) (path : String) (pc : WriteFilePc) :
    Decidable (Renames syscall fs path pc) :=
  inferInstanceAs (Decidable (_ ∧ _ ∧ _))

/-- The change that a step makes: a `writeFile` replaces a file by its rename. -/
def fileChanges (state : State Files FileCall) : Label FileCall Syscall String → List FileChange
  | .start _ _ => []
  | .advance call syscall =>
      match state.frames call with
      | some (.writeFile path data pc) =>
          if Renames syscall state.store path pc then [.replace call path data] else []
      | _ => []
  | .ambient path => [.remove path]

/-- No `writeFile` begins while another one runs for the same path. -/
def Separate (state : State Files FileCall) : Label FileCall Syscall String → Prop
  | .start _ (.writeFile path _ _) =>
      ∀ other data pc, state.frames other = some (.writeFile path data pc) → ¬ pc.Running
  | _ => True

/-! ## One system call of writeFile -/

theorem isTmp_tmp (path : String) : IsTmp (tmp path) := by
  unfold IsTmp tmp
  rw [String.toList_append]
  exact List.suffix_append _ _

theorem tmp_ne {path name : String} (hname : ¬ IsTmp name) : name ≠ tmp path := by
  rintro rfl
  exact hname (isTmp_tmp path)

theorem tmp_injective {path other : String} (heq : tmp path = tmp other) : path = other := by
  have htexts := congrArg String.toList heq
  simp only [tmp, String.toList_append] at htexts
  exact String.toList_injective (List.append_cancel_right htexts)

/-- What a call of `writeFile` has in its own file so far. -/
def Written (fs : Files) (path : String) (data : List UInt8) : WriteFilePc → Prop
  | .write number offset =>
      fs.inode (tmp path) = some number ∧ fs.data number = data.take offset ∧ offset ≤ data.length
  | .close none => fs.read (tmp path) = some data
  | .rename => fs.read (tmp path) = some data
  | _ => True

section Step

variable {syscall : Syscall} {fs fs' : Files} {path name : String} {data : List UInt8}
  {pc pc' : WriteFilePc} {number : ℕ}

/-- Everything that a system call can do. -/
theorem writeFileStep_cases (hstep : writeFileStep syscall fs path data pc = some (fs', pc')) :
    pc.Running ∧
    ((fs' = fs ∧ ¬ Renames syscall fs path pc ∧ pc' ≠ .returned none ∧
        (Written fs path data pc → Written fs path data pc')) ∨
      (pc = .openTmp ∧ fs' = fs.create (tmp path) ∧ pc' = .write (fs.created (tmp path)) 0) ∨
      (∃ number offset bytes rest, pc = .write number offset ∧ data.drop offset = bytes ++ rest ∧
        fs' = fs.pwrite number offset bytes ∧
        ((offset + bytes.length = data.length ∧ pc' = .close none) ∨
          pc' = .write number (offset + bytes.length))) ∨
      (Renames syscall fs path pc ∧ fs.rename (tmp path) path = some fs' ∧ pc' = .returned none)) := by
  cases pc with
  | mkdirAll =>
      refine ⟨trivial, Or.inl ?_⟩
      cases syscall <;> cases hstep <;> simp [Renames, Written]
  | openTmp =>
      refine ⟨trivial, ?_⟩
      cases syscall <;> cases hstep <;> simp [Renames, Written]
  | write number offset =>
      refine ⟨trivial, ?_⟩
      cases syscall with
      | done => cases hstep
      | part more =>
          cases hstep
          refine Or.inr (Or.inr (Or.inl ⟨number, offset, _, _, rfl,
            (List.take_append_drop (more + 1) (data.drop offset)).symm, rfl, ?_⟩))
          split
          case isTrue hlast => exact Or.inl ⟨hlast, rfl⟩
          case isFalse => exact Or.inr rfl
      | fails failure =>
          cases hstep
          simp [Renames, Written]
      | killed =>
          cases hstep
          simp [Renames, Written]
  | close err =>
      refine ⟨trivial, Or.inl ?_⟩
      cases syscall <;> cases err <;> cases hstep <;> simp [Renames, Written]
  | rename =>
      refine ⟨trivial, ?_⟩
      cases syscall with
      | done =>
          simp only [writeFileStep] at hstep
          split at hstep
          case h_1 renamed hrename =>
            obtain ⟨number, hinode, -⟩ := rename_eq_some hrename
            cases hstep
            exact Or.inr (Or.inr (Or.inr ⟨⟨rfl, rfl, by rw [hinode]; rfl⟩, hrename, rfl⟩))
          case h_2 hrename =>
            have hmissing : ¬ Renames .done fs path .rename := by
              rintro ⟨-, -, hsome⟩
              simp [FileSystem.rename, hsome] at hrename
            cases hstep
            exact Or.inl ⟨rfl, hmissing, by simp, fun _ => trivial⟩
      | part more => cases hstep
      | fails failure =>
          cases hstep
          simp [Renames, Written]
      | killed =>
          cases hstep
          simp [Renames, Written]
  | returned err => cases hstep
  | killed => cases hstep

theorem Written.of_kept (hwritten : Written fs path data pc) (hkept : Kept fs fs' (tmp path)) :
    Written fs' path data pc := by
  unfold Written at hwritten ⊢
  split
  case h_1 number offset =>
    obtain ⟨hinode, hdata, hle⟩ := hwritten
    exact ⟨hkept.inode.trans hinode, (hkept.data hinode).trans hdata, hle⟩
  case h_2 => exact hkept.read.trans hwritten
  case h_3 => exact hkept.read.trans hwritten
  case h_4 => trivial

/-- The call goes on with what it has written. -/
theorem Written.step (hwritten : Written fs path data pc)
    (hstep : writeFileStep syscall fs path data pc = some (fs', pc')) : Written fs' path data pc' := by
  obtain ⟨-, ⟨rfl, -, -, hquiet⟩ | ⟨rfl, rfl, rfl⟩ |
    ⟨number, offset, bytes, rest, rfl, hbytes, rfl, hnext⟩ | ⟨-, -, rfl⟩⟩ := writeFileStep_cases hstep
  · exact hquiet hwritten
  · exact ⟨inode_create, by rw [data_create, List.take_zero], Nat.zero_le _⟩
  · obtain ⟨hinode, hdata, hle⟩ := hwritten
    have hlength : bytes.length + rest.length = data.length - offset := by
      rw [← List.length_append, ← hbytes, List.length_drop]
    have hwrote : (fs.pwrite number offset bytes).data number = data.take (offset + bytes.length) := by
      have hoffset : (fs.data number).length = offset := by
        rw [hdata, List.length_take]
        omega
      rw [data_pwrite hoffset, hdata, List.take_add, hbytes, List.take_left]
    rcases hnext with ⟨hlast, rfl⟩ | rfl
    · rw [hlast, List.take_length] at hwrote
      change Option.map _ (fs.inode (tmp path)) = some data
      rw [hinode, Option.map_some, hwrote]
    · exact ⟨hinode, hwrote, by omega⟩
  · trivial

/-- A call of `writeFile` touches its own file, and by its rename the path. -/
theorem Written.kept (hwritten : Written fs path data pc)
    (hstep : writeFileStep syscall fs path data pc = some (fs', pc')) (htmp : name ≠ tmp path)
    (hpath : Renames syscall fs path pc → name ≠ path) : Kept fs fs' name := by
  obtain ⟨-, ⟨rfl, -, -, -⟩ | ⟨rfl, rfl, rfl⟩ | ⟨number, offset, bytes, rest, rfl, -, rfl, -⟩ |
    ⟨hrenames, hrename, rfl⟩⟩ := writeFileStep_cases hstep
  · exact Kept.refl _ _
  · exact kept_create htmp
  · exact kept_pwrite htmp hwritten.1
  · exact kept_rename hrename htmp (hpath hrenames)

theorem Written.renamed (hwritten : Written fs path data pc)
    (hstep : writeFileStep syscall fs path data pc = some (fs', pc'))
    (hrenames : Renames syscall fs path pc) : fs'.read path = some data ∧ pc' = .returned none := by
  obtain ⟨-, ⟨-, hnot, -⟩ | ⟨rfl, -⟩ | ⟨number, offset, bytes, rest, rfl, -⟩ | ⟨-, hrename, rfl⟩⟩ :=
    writeFileStep_cases hstep
  · exact absurd hrenames hnot
  · cases hrenames.1
  · cases hrenames.1
  · obtain rfl := hrenames.1
    exact ⟨(read_rename hrename).trans hwritten, rfl⟩

/-- An inode that is not being written: it was a file's before it was opened. -/
def Settled (fs : Files) (number : ℕ) : Prop :=
  number < fs.unused ∧ ∀ name, IsTmp name → fs.inode name ≠ some number

theorem Settled.step (hsettled : Settled fs number) (hpath : ¬ IsTmp path)
    (hwritten : Written fs path data pc)
    (hstep : writeFileStep syscall fs path data pc = some (fs', pc')) :
    Settled fs' number ∧ fs'.data number = fs.data number := by
  obtain ⟨hused, hunlinked⟩ := hsettled
  obtain ⟨-, ⟨rfl, -, -, -⟩ | ⟨rfl, rfl, rfl⟩ | ⟨held, offset, bytes, rest, rfl, -, rfl, -⟩ |
    ⟨-, hrename, rfl⟩⟩ := writeFileStep_cases hstep
  · exact ⟨⟨hused, hunlinked⟩, rfl⟩
  · have hne := ne_created (hunlinked _ (isTmp_tmp path)) hused
    refine ⟨⟨Nat.lt_of_lt_of_le hused (Nat.le_max_left _ _), fun name hname hinode => ?_⟩,
      Function.update_of_ne hne _ _⟩
    rcases of_update_some hinode with ⟨-, heq⟩ | ⟨-, hinode⟩
    · exact hne heq
    · exact hunlinked name hname hinode
  · have hne : number ≠ held := fun heq => hunlinked _ (isTmp_tmp path) (heq ▸ hwritten.1)
    exact ⟨⟨hused, hunlinked⟩, Function.update_of_ne hne _ _⟩
  · obtain ⟨held, -, hlinks, hdata, hunused⟩ := rename_eq_some hrename
    refine ⟨⟨Nat.lt_of_lt_of_le hused hunused, fun name hname hinode => ?_⟩, by rw [hdata]⟩
    rw [hlinks] at hinode
    rcases of_update_some hinode with ⟨rfl, -⟩ | ⟨-, hinode⟩
    · exact hpath hname
    · exact hunlinked name hname (of_update_none hinode).2

end Step

/-! ## All calls -/

/-- What a call relies on. -/
def FileCall.Relies (fs : Files) : FileCall → Prop
  | .writeFile path data pc => ¬ IsTmp path ∧ Written fs path data pc
  | .readFile path pc => ¬ IsTmp path ∧
      ∀ number got, pc = .reading number got → Settled fs number ∧ got <+: fs.data number

/-- Every call has what it relies on, and the calls of `writeFile` for a path run one
after another. -/
structure Sound (state : State Files FileCall) : Prop where
  relies : ∀ call frame, state.frames call = some frame → frame.Relies state.store
  alone : ∀ call other path data data' pc pc',
    state.frames call = some (.writeFile path data pc) →
    state.frames other = some (.writeFile path data' pc') → pc.Running → pc'.Running → call = other

theorem sound_idle (fs : Files) : Sound (State.idle fs) :=
  ⟨fun _ _ hframe => by simp at hframe, fun _ _ _ _ _ _ _ hframe => by simp at hframe⟩

section Calls

variable {syscall : Syscall} {fs fs' : Files} {frame frame' other : FileCall} {path : String}

/-- The two kinds of calls. -/
theorem FileCall.advance_cases (hadvance : frame.advance syscall fs = some (fs', frame')) :
    (∃ path data pc pc', frame = .writeFile path data pc ∧ frame' = .writeFile path data pc' ∧
      writeFileStep syscall fs path data pc = some (fs', pc')) ∨
    (∃ path pc pc', frame = .readFile path pc ∧ frame' = .readFile path pc' ∧ fs' = fs ∧
      readFileStep syscall fs path pc = some pc') := by
  cases frame with
  | writeFile path data pc =>
      simp only [FileCall.advance, Option.map_eq_some_iff, Prod.mk.injEq] at hadvance
      obtain ⟨⟨store, pc'⟩, hstep, rfl, rfl⟩ := hadvance
      exact Or.inl ⟨path, data, pc, pc', rfl, rfl, hstep⟩
  | readFile path pc =>
      simp only [FileCall.advance, Option.map_eq_some_iff, Prod.mk.injEq] at hadvance
      obtain ⟨pc', hstep, rfl, rfl⟩ := hadvance
      exact Or.inr ⟨path, pc, pc', rfl, rfl, rfl, hstep⟩

/-- Everything that a reader can do. -/
theorem readFileStep_cases {pc pc' : ReadFilePc} (hstep : readFileStep syscall fs path pc = some pc') :
    (∃ number, pc = .openFile ∧ syscall = .done ∧ fs.inode path = some number ∧
      pc' = .reading number []) ∨
    (∃ number got bytes rest, pc = .reading number got ∧
      (fs.data number).drop got.length = bytes ++ rest ∧ pc' = .reading number (got ++ bytes)) ∨
    (∃ number got, pc = .reading number got ∧ (fs.data number).drop got.length = [] ∧
      pc' = .returned (.ok got)) ∨
    (pc = .openFile ∧ syscall = .done ∧ fs.inode path = none ∧
      pc' = .returned (.error .notExist)) ∨
    (∃ failure, pc' = .returned (.error (.other failure))) ∨ pc' = .killed := by
  cases pc with
  | openFile =>
      cases syscall with
      | done =>
          simp only [readFileStep] at hstep
          split at hstep <;> cases hstep
          case h_1 number hinode => exact Or.inl ⟨number, rfl, rfl, hinode, rfl⟩
          case h_2 hinode => exact Or.inr (Or.inr (Or.inr (Or.inl ⟨rfl, rfl, hinode, rfl⟩)))
      | part more => cases hstep
      | fails failure => cases hstep; simp
      | killed => cases hstep; simp
  | reading number got =>
      cases syscall with
      | done => cases hstep
      | part more =>
          have hsplit := (List.take_append_drop (more + 1) ((fs.data number).drop got.length)).symm
          simp only [readFileStep] at hstep
          split at hstep <;> cases hstep
          case h_1 hend =>
            rw [List.take_eq_nil_iff] at hend
            have hnil : (fs.data number).drop got.length = [] := by simpa using hend
            exact Or.inr (Or.inr (Or.inl ⟨number, got, rfl, hnil, rfl⟩))
          case h_2 => exact Or.inr (Or.inl ⟨number, got, _, _, rfl, hsplit, rfl⟩)
      | fails failure => cases hstep; simp
      | killed => cases hstep; simp
  | returned result => cases hstep
  | killed => cases hstep

theorem settled_of_inode {number : ℕ} (hpath : ¬ IsTmp path) (hinode : fs.inode path = some number) :
    Settled fs number := by
  refine ⟨fs.allocated hinode, fun name hname hlinked => ?_⟩
  obtain rfl := fs.unshared hinode hlinked
  exact hpath hname

theorem FileCall.Relies.step (hrelies : frame.Relies fs)
    (hadvance : frame.advance syscall fs = some (fs', frame')) : frame'.Relies fs' := by
  rcases FileCall.advance_cases hadvance with ⟨path, data, pc, pc', rfl, rfl, hstep⟩ |
    ⟨path, pc, pc', rfl, rfl, rfl, hstep⟩
  · exact ⟨hrelies.1, hrelies.2.step hstep⟩
  · obtain ⟨hpath, hreading⟩ := hrelies
    refine ⟨hpath, fun number got hpc => ?_⟩
    rcases readFileStep_cases hstep with ⟨held, -, -, hinode, rfl⟩ |
      ⟨held, had, bytes, rest, rfl, hbytes, rfl⟩ | ⟨held, had, -, -, rfl⟩ | ⟨-, -, -, rfl⟩ |
      ⟨failure, rfl⟩ | rfl
    · cases hpc
      exact ⟨settled_of_inode hpath hinode, List.nil_prefix⟩
    · cases hpc
      obtain ⟨hsettled, rest', hgotten⟩ := hreading number had rfl
      refine ⟨hsettled, rest, ?_⟩
      rw [← hgotten, List.drop_left] at hbytes
      rw [← hgotten, hbytes, List.append_assoc]
    · cases hpc
    · cases hpc
    · cases hpc
    · cases hpc

/-- A call that is over has nothing to lose. -/
theorem written_of_not_running {data : List UInt8} {pc : WriteFilePc} (hover : ¬ pc.Running) :
    Written fs path data pc := by
  cases pc <;> first | trivial | exact absurd trivial hover

theorem FileCall.Relies.stable (hrelies : frame.Relies fs) (hother : other.Relies fs)
    (hadvance : frame.advance syscall fs = some (fs', frame'))
    (hapart : ∀ path data data' pc pc', frame = .writeFile path data pc →
      other = .writeFile path data' pc' → pc.Running → ¬ pc'.Running) : other.Relies fs' := by
  rcases FileCall.advance_cases hadvance with ⟨path, data, pc, pc', rfl, rfl, hstep⟩ |
    ⟨path, pc, pc', rfl, rfl, rfl, hstep⟩
  · obtain ⟨hpath, hwritten⟩ := hrelies
    cases other with
    | writeFile path' data' pc'' =>
        refine ⟨hother.1, ?_⟩
        by_cases hsame : path' = path
        · subst hsame
          have hrunning := (writeFileStep_cases hstep).1
          exact written_of_not_running (hapart _ _ _ _ _ rfl rfl hrunning)
        · refine hother.2.of_kept (hwritten.kept hstep (fun htmp => hsame (tmp_injective htmp)) ?_)
          rintro - rfl
          exact hpath (isTmp_tmp _)
    | readFile path' pc'' =>
        refine ⟨hother.1, fun number got hpc => ?_⟩
        obtain ⟨hsettled, hgotten⟩ := hother.2 number got hpc
        obtain ⟨hsettled', hdata⟩ := hsettled.step hpath hwritten hstep
        exact ⟨hsettled', hdata ▸ hgotten⟩
  · exact hother

theorem FileCall.Relies.remove (hrelies : frame.Relies fs) (hpath : ¬ IsTmp path) :
    frame.Relies (fs.remove path) := by
  cases frame with
  | writeFile path' data pc =>
      refine ⟨hrelies.1, hrelies.2.of_kept (kept_remove ?_)⟩
      rintro rfl
      exact hpath (isTmp_tmp _)
  | readFile path' pc =>
      refine ⟨hrelies.1, fun number got hpc => ?_⟩
      obtain ⟨⟨hused, hunlinked⟩, hgotten⟩ := hrelies.2 number got hpc
      exact ⟨⟨hused, fun name hname hinode => hunlinked name hname (of_update_none hinode).2⟩, hgotten⟩

end Calls

section Runs

variable {fs : Files} {state next final : State Files FileCall}
  {label : Label FileCall Syscall String} {labels : List (Label FileCall Syscall String)}

theorem removeFile_eq_some {path : String} {fs' : Files} (hremove : removeFile path fs = some fs') :
    ¬ IsTmp path ∧ fs' = fs.remove path := by
  unfold removeFile at hremove
  split at hremove
  · cases hremove
  case isFalse hpath => exact ⟨hpath, (Option.some.inj hremove).symm⟩

theorem entry_relies {frame : FileCall} (hentry : fileCalls.entry frame) : frame.Relies fs := by
  cases frame with
  | writeFile path data pc =>
      obtain ⟨rfl, hpath⟩ : pc = .mkdirAll ∧ ¬ IsTmp path := by
        simpa [fileCalls, FileCall.entry] using hentry
      exact ⟨hpath, trivial⟩
  | readFile path pc =>
      obtain ⟨rfl, hpath⟩ : pc = .openFile ∧ ¬ IsTmp path := by
        simpa [fileCalls, FileCall.entry] using hentry
      exact ⟨hpath, fun _ _ hpc => by cases hpc⟩

theorem sound_step (hsound : Sound state) (hseparate : Separate state label)
    (hstep : fileCalls.system.step state label = some next) : Sound next := by
  obtain ⟨hrelies, halone⟩ := hsound
  rcases Service.step_cases hstep with ⟨call, frame, rfl, hentry, -, rfl⟩ |
    ⟨call, syscall, frame, store, frame', rfl, hframe, hadvance, rfl⟩ |
    ⟨path, store, rfl, hremove, rfl⟩
  · refine ⟨fun other found hfound => ?_, fun first second path data data' pc pc' hfirst hsecond
      hrunning hrunning' => ?_⟩
    · rcases Service.frames_setFrame hfound with ⟨-, rfl⟩ | ⟨-, hfound⟩
      · exact entry_relies hentry
      · exact hrelies other found hfound
    · rcases Service.frames_setFrame hfirst with ⟨rfl, rfl⟩ | ⟨-, hf⟩ <;>
        rcases Service.frames_setFrame hsecond with ⟨rfl, hnew⟩ | ⟨-, hs⟩
      · rfl
      · exact absurd hrunning' (hseparate _ _ _ hs)
      · subst hnew
        exact absurd hrunning (hseparate _ _ _ hf)
      · exact halone _ _ _ _ _ _ _ hf hs hrunning hrunning'
  · have hown := hrelies call frame hframe
    refine ⟨fun other found hfound => ?_, fun first second path data data' pc pc' hfirst hsecond
      hrunning hrunning' => ?_⟩
    · rcases Service.frames_setFrame hfound with ⟨-, rfl⟩ | ⟨hne, hfound⟩
      · exact hown.step hadvance
      · refine hown.stable (hrelies other found hfound) hadvance ?_
        rintro path data data' pc pc' rfl rfl hrunning hrunning'
        exact hne (halone _ _ _ _ _ _ _ hfound hframe hrunning' hrunning)
    · -- a call that runs after its step ran before it, for the same path
      have hbefore : ∀ path data pc, frame' = .writeFile path data pc →
          ∃ old, frame = .writeFile path data old ∧ old.Running := by
        rintro path data pc rfl
        rcases FileCall.advance_cases hadvance with ⟨path', data', old, new, rfl, hnew, hstep⟩ |
          ⟨path', old, new, -, hnew, -⟩
        · cases hnew
          exact ⟨old, rfl, (writeFileStep_cases hstep).1⟩
        · cases hnew
      rcases Service.frames_setFrame hfirst with ⟨rfl, hnew⟩ | ⟨-, hf⟩ <;>
        rcases Service.frames_setFrame hsecond with ⟨rfl, hnew'⟩ | ⟨-, hs⟩
      · rfl
      · obtain ⟨old, rfl, hold⟩ := hbefore _ _ _ hnew.symm
        exact halone _ _ _ _ _ _ _ hframe hs hold hrunning'
      · obtain ⟨old, rfl, hold⟩ := hbefore _ _ _ hnew'.symm
        exact halone _ _ _ _ _ _ _ hf hframe hrunning hold
      · exact halone _ _ _ _ _ _ _ hf hs hrunning hrunning'
  · obtain ⟨hpath, rfl⟩ := removeFile_eq_some hremove
    exact ⟨fun call frame hframe => (hrelies call frame hframe).remove hpath, halone⟩

/-! ## Seen from outside -/

theorem fileChanges_writeFile {call : ℕ} {path : String} {data : List UInt8} {pc : WriteFilePc}
    (hframe : state.frames call = some (.writeFile path data pc)) (syscall : Syscall) :
    fileChanges state (.advance call syscall) =
      if Renames syscall state.store path pc then [.replace call path data] else [] := by
  rw [fileChanges, hframe]

theorem fileChanges_readFile {call : ℕ} {path : String} {pc : ReadFilePc}
    (hframe : state.frames call = some (.readFile path pc)) (syscall : Syscall) :
    fileChanges state (.advance call syscall) = [] := by
  rw [fileChanges, hframe]

theorem contents_of_kept {fs' : Files} {name : String} (hkept : Kept fs fs' name) :
    contents fs' name = contents fs name := by
  rw [contents, contents, hkept.read]

theorem contents_of_isTmp {name : String} (hname : IsTmp name) : contents fs name = none := if_pos hname

/-- Every step is the replacement or removal that it is said to be, or is not seen. -/
theorem step_contents (hsound : Sound state)
    (hstep : fileCalls.system.step state label = some next) :
    wholeFiles.run (contents state.store) (fileChanges state label) = some (contents next.store) := by
  rcases Service.step_cases hstep with ⟨call, frame, rfl, -, -, rfl⟩ |
    ⟨call, syscall, frame, store, frame', rfl, hframe, hadvance, rfl⟩ |
    ⟨path, store, rfl, hremove, rfl⟩
  · rfl
  · have hown := hsound.relies call frame hframe
    rcases FileCall.advance_cases hadvance with ⟨path, data, pc, pc', rfl, rfl, hadvanced⟩ |
      ⟨path, pc, pc', rfl, rfl, rfl, -⟩
    · obtain ⟨hpath, hwritten⟩ := hown
      rw [fileChanges_writeFile hframe]
      by_cases hrenames : Renames syscall state.store path pc
      · rw [if_pos hrenames]
        have hread := (hwritten.renamed hadvanced hrenames).1
        refine congrArg some (funext fun name => ?_)
        by_cases hname : name = path
        · subst hname
          rw [Function.update_self, contents, if_neg hpath, State.setFrame_store, hread]
        · rw [Function.update_of_ne hname]
          by_cases htmp : IsTmp name
          · rw [contents_of_isTmp htmp, contents_of_isTmp htmp]
          · exact (contents_of_kept (hwritten.kept hadvanced (tmp_ne htmp) fun _ => hname)).symm
      · rw [if_neg hrenames]
        refine congrArg some (funext fun name => ?_)
        by_cases htmp : IsTmp name
        · rw [contents_of_isTmp htmp, contents_of_isTmp htmp]
        · exact (contents_of_kept (hwritten.kept hadvanced (tmp_ne htmp)
            fun hdone => absurd hdone hrenames)).symm
    · rw [fileChanges_readFile hframe]
      rfl
  · obtain ⟨hpath, rfl⟩ := removeFile_eq_some hremove
    refine congrArg some (funext fun name => ?_)
    by_cases hname : name = path
    · subst hname
      rw [Function.update_self, contents, if_neg hpath, read_remove]
    · rw [Function.update_of_ne hname]
      exact (contents_of_kept (kept_remove hname)).symm

/-- A `writeFile` returns without an error by making its replacement. -/
theorem returned_iff (hsound : Sound state) (hstep : fileCalls.system.step state label = some next)
    {call : ℕ} {path : String} {data : List UInt8} :
    next.frames call = some (.writeFile path data (.returned none)) ↔
      state.frames call = some (.writeFile path data (.returned none)) ∨
        .replace call path data ∈ fileChanges state label := by
  constructor
  · intro hreturned
    rcases Service.step_cases hstep with ⟨other, frame, rfl, hentry, -, rfl⟩ |
      ⟨other, syscall, frame, store, frame', rfl, hframe, hadvance, rfl⟩ | ⟨-, store, rfl, -, rfl⟩
    · rcases Service.frames_setFrame hreturned with ⟨rfl, rfl⟩ | ⟨-, hfound⟩
      · simp [fileCalls, FileCall.entry] at hentry
      · exact Or.inl hfound
    · rcases Service.frames_setFrame hreturned with ⟨rfl, rfl⟩ | ⟨-, hfound⟩
      · refine Or.inr ?_
        rcases FileCall.advance_cases hadvance with ⟨path', data', pc, pc', rfl, hnew, hadvanced⟩ |
          ⟨path', pc, pc', -, hnew, -⟩
        · cases hnew
          rw [fileChanges_writeFile hframe]
          obtain ⟨-, ⟨-, -, hne, -⟩ | ⟨-, -, hpc⟩ | ⟨number, offset, bytes, rest, -, -, -, hpc⟩ |
            ⟨hrenames, -, -⟩⟩ := writeFileStep_cases hadvanced
          · exact absurd rfl hne
          · cases hpc
          · rcases hpc with ⟨-, hpc⟩ | hpc <;> cases hpc
          · rw [if_pos hrenames]
            exact List.mem_singleton_self _
        · cases hnew
      · exact Or.inl hfound
    · exact Or.inl hreturned
  · rintro (hreturned | hchange)
    · exact Service.done_step (fun _ _ => rfl) hreturned hstep
    · rcases Service.step_cases hstep with ⟨other, frame, rfl, -, -, rfl⟩ |
        ⟨other, syscall, frame, store, frame', rfl, hframe, hadvance, rfl⟩ | ⟨name, store, rfl, -, rfl⟩
      · cases hchange
      · have hown := hsound.relies other frame hframe
        rcases FileCall.advance_cases hadvance with ⟨path', data', pc, pc', rfl, rfl, hadvanced⟩ |
          ⟨path', pc, pc', rfl, -, -⟩
        · rw [fileChanges_writeFile hframe] at hchange
          by_cases hrenames : Renames syscall state.store path' pc
          · rw [if_pos hrenames, List.mem_singleton] at hchange
            cases hchange
            rw [State.setFrame_frames_self, (hown.2.renamed hadvanced hrenames).2]
          · simp [hrenames] at hchange
        · rw [fileChanges_readFile hframe] at hchange
          cases hchange
      · simp [fileChanges] at hchange

/-- What a reader returns that finds this. -/
def readResult : Option (List UInt8) → Except ReadError (List UInt8)
  | none => .error .notExist
  | some data => .ok data

/-- What the file held, or that there was none, when the call opened it: the step that opens
it is where `before` ends. -/
def OpenedOn (fs : Files) (labels : List (Label FileCall Syscall String)) (call : ℕ) (path : String)
    (found : Option (List UInt8)) : Prop :=
  ∃ before after state, labels = before ++ .advance call .done :: after ∧
    fileCalls.system.run (State.idle fs) before = some state ∧
    state.frames call = some (.readFile path .openFile) ∧ contents state.store path = found

theorem OpenedOn.append {call : ℕ} {path : String} {found : Option (List UInt8)}
    (hopened : OpenedOn fs labels call path found) (more : List (Label FileCall Syscall String)) :
    OpenedOn fs (labels ++ more) call path found := by
  obtain ⟨before, after, state, rfl, hrest⟩ := hopened
  exact ⟨before, after ++ more, state, by simp, hrest⟩

/-- A call opens its file once. -/
theorem opened_once {call : ℕ} {path : String}
    (hrun : fileCalls.system.run state (.advance call .done :: labels) = some final) :
    final.frames call ≠ some (.readFile path .openFile) := by
  obtain ⟨next, hstep, hrest⟩ := System.run_cons.1 hrun
  have hopened : ∀ (syscall : Syscall) (fs : Files) (frame : FileCall) (fs' : Files)
      (frame' : FileCall), fileCalls.advance syscall fs frame = some (fs', frame') →
      frame' ≠ .readFile path .openFile := by
    rintro syscall fs frame fs' frame' hadvance rfl
    rcases FileCall.advance_cases hadvance with ⟨path', data, pc, pc', -, hnew, -⟩ |
      ⟨path', pc, pc', -, hnew, -, hread⟩
    · cases hnew
    · cases hnew
      rcases readFileStep_cases hread with ⟨_, -, -, -, hpc⟩ | ⟨_, _, _, _, -, -, hpc⟩ |
        ⟨_, _, -, -, hpc⟩ | ⟨-, -, -, hpc⟩ | ⟨_, hpc⟩ | hpc <;> cases hpc
  have hnext : ∃ frame, next.frames call = some frame ∧ frame ≠ .readFile path .openFile := by
    rcases Service.step_cases hstep with ⟨_, _, hlabel, -⟩ |
      ⟨other, syscall, frame, store, frame', hlabel, -, hadvance, rfl⟩ | ⟨_, _, hlabel, -⟩
    · cases hlabel
    · cases hlabel
      exact ⟨frame', State.setFrame_frames_self _ _ _ _, hopened _ _ _ _ _ hadvance⟩
    · cases hlabel
  obtain ⟨frame, hfound, hne⟩ := Service.frame_run
    (fun syscall fs frame fs' frame' _ hadvance => hopened syscall fs frame fs' frame' hadvance)
    hnext hrest
  rw [hfound]
  exact fun heq => hne (Option.some.inj heq)

/-- Of two beginnings of a run that end where the call opens its file, the longer is no
longer. -/
theorem opened_same {before middle after rest : List (Label FileCall Syscall String)}
    {later : State Files FileCall} {call : ℕ} {path : String}
    (hstate : fileCalls.system.run (State.idle fs) before = some state)
    (hlater : fileCalls.system.run (State.idle fs) (before ++ middle) = some later)
    (hframe : later.frames call = some (.readFile path .openFile))
    (hsplit : .advance call .done :: after = middle ++ rest) : later = state := by
  rcases middle with _ | ⟨label, middle⟩
  · rw [List.append_nil, hstate] at hlater
    exact (Option.some.inj hlater).symm
  · obtain ⟨rfl, -⟩ := List.cons.inj hsplit
    obtain ⟨start, hstart, hrest⟩ := System.run_append.1 hlater
    exact absurd hframe (opened_once hrest)

/-- So there is one thing that it was opened on. -/
theorem OpenedOn.unique {call : ℕ} {path : String} {found found' : Option (List UInt8)}
    (hopened : OpenedOn fs labels call path found) (hopened' : OpenedOn fs labels call path found') :
    found = found' := by
  obtain ⟨before, after, state, hlabels, hstate, hframe, rfl⟩ := hopened
  obtain ⟨before', after', state', hlabels', hstate', hframe', rfl⟩ := hopened'
  rcases List.append_eq_append_iff.1 (hlabels.symm.trans hlabels') with
    ⟨middle, rfl, hsplit⟩ | ⟨middle, rfl, hsplit⟩
  · rw [opened_same hstate hstate' hframe' hsplit]
  · rw [opened_same hstate' hstate hframe hsplit]

/-- What a reader has in front of it, or has returned. -/
def ReadFilePc.Finds (fs : Files) (found : Option (List UInt8)) : ReadFilePc → Prop
  | .reading number _ => found = some (fs.data number)
  | .returned result => result = readResult found
  | _ => False

/-- An open file stays as it is, whatever becomes of its name. -/
theorem settled_data {number : ℕ} (hsound : Sound state)
    (hstep : fileCalls.system.step state label = some next) (hsettled : Settled state.store number) :
    next.store.data number = state.store.data number := by
  rcases Service.step_cases hstep with ⟨call, frame, -, -, -, rfl⟩ |
    ⟨call, syscall, frame, store, frame', -, hframe, hadvance, rfl⟩ | ⟨path, store, -, hremove, rfl⟩
  · rfl
  · rcases FileCall.advance_cases hadvance with ⟨path, data, pc, pc', rfl, rfl, hadvanced⟩ |
      ⟨path, pc, pc', -, -, rfl, -⟩
    · obtain ⟨hpath, hwritten⟩ := hsound.relies call _ hframe
      exact (hsettled.step hpath hwritten hadvanced).2
    · rfl
  · obtain ⟨-, rfl⟩ := removeFile_eq_some hremove
    rfl

/-- A step of a reader: it finds what it found before, or it opens the file. -/
theorem readFileStep_finds {path : String} {old new : ReadFilePc} {found : Option (List UInt8)}
    (hrelies : (FileCall.readFile path old).Relies fs)
    (hstep : readFileStep syscall fs path old = some new) (hfinds : new.Finds fs found) :
    old.Finds fs found ∨ old = .openFile ∧ syscall = .done ∧ contents fs path = found := by
  obtain ⟨hpath, hreading⟩ := hrelies
  rcases readFileStep_cases hstep with ⟨number, rfl, rfl, hinode, rfl⟩ |
    ⟨number, got, bytes, rest, rfl, -, rfl⟩ | ⟨number, got, rfl, hend, rfl⟩ |
    ⟨rfl, rfl, hinode, rfl⟩ | ⟨failure, rfl⟩ | rfl
  · refine Or.inr ⟨rfl, rfl, ?_⟩
    rw [contents, if_neg hpath, FileSystem.read, hinode, Option.map_some]
    exact hfinds.symm
  · exact Or.inl hfinds
  · -- what was read is all there is
    obtain ⟨-, rest, hgotten⟩ := hreading number got rfl
    rw [← hgotten, List.drop_left] at hend
    rw [hend, List.append_nil] at hgotten
    cases found with
    | none => cases hfinds
    | some data =>
        obtain rfl : got = data := Except.ok.inj hfinds
        exact Or.inl (congrArg some hgotten)
  · refine Or.inr ⟨rfl, rfl, ?_⟩
    rw [contents, if_neg hpath, FileSystem.read, hinode, Option.map_none]
    cases found with
    | none => rfl
    | some data => cases hfinds
  · cases found <;> cases hfinds
  · cases hfinds

/-- What another's step leaves of what a reader finds. -/
theorem finds_of_step {call : ℕ} {path : String} {pc : ReadFilePc} {found : Option (List UInt8)}
    (hsound : Sound state) (hstep : fileCalls.system.step state label = some next)
    (hframe : state.frames call = some (.readFile path pc)) (hfinds : pc.Finds next.store found) :
    pc.Finds state.store found := by
  cases pc with
  | reading number got =>
      have hsettled := ((hsound.relies call _ hframe).2 number got rfl).1
      calc found = some (next.store.data number) := hfinds
        _ = some (state.store.data number) := by rw [settled_data hsound hstep hsettled]
  | returned result => exact hfinds
  | openFile => exact hfinds
  | killed => exact hfinds

theorem sound_run (hseparate : fileCalls.system.Along Separate (State.idle fs) labels)
    (hrun : fileCalls.system.run (State.idle fs) labels = some final) : Sound final :=
  System.along_invariant Sound
    (fun _ _ _ hsound hlabel hstep => sound_step hsound hlabel hstep) (sound_idle fs) hseparate hrun

/-- A reader finds what there was at its own opening of the file. -/
theorem finds_opened (hseparate : fileCalls.system.Along Separate (State.idle fs) labels)
    (hrun : fileCalls.system.run (State.idle fs) labels = some final) {call : ℕ} {path : String}
    {pc : ReadFilePc} {found : Option (List UInt8)}
    (hframe : final.frames call = some (.readFile path pc)) (hfinds : pc.Finds final.store found) :
    OpenedOn fs labels call path found := by
  induction labels using List.reverseRecOn generalizing final pc with
  | nil =>
      obtain rfl := Option.some.inj hrun
      simp at hframe
  | append_singleton labels label ih =>
      obtain ⟨last, hlast, hstep⟩ := System.run_concat.1 hrun
      obtain ⟨hbefore, -⟩ := (System.along_append hlast).1 hseparate
      have hsound := sound_run hbefore hlast
      -- a reader that was there before, and stays where it was
      have hold : last.frames call = some (.readFile path pc) →
          OpenedOn fs (labels ++ [label]) call path found := fun hwas =>
        (ih hbefore hlast hwas (finds_of_step hsound hstep hwas hfinds)).append _
      rcases Service.step_cases hstep with ⟨other, frame, -, hentry, -, rfl⟩ |
        ⟨other, syscall, frame, store, frame', rfl, hwas, hadvance, rfl⟩ | ⟨name, store, -, -, rfl⟩
      · rcases Service.frames_setFrame hframe with ⟨rfl, rfl⟩ | ⟨-, hfound⟩
        · obtain ⟨rfl, -⟩ : pc = .openFile ∧ ¬ IsTmp path := by
            simpa [fileCalls, FileCall.entry] using hentry
          cases hfinds
        · exact hold hfound
      · rcases Service.frames_setFrame hframe with ⟨rfl, rfl⟩ | ⟨-, hfound⟩
        · rcases FileCall.advance_cases hadvance with ⟨path', data', old, new, -, hnew, -⟩ |
            ⟨path', old, new, rfl, hnew, rfl, hread⟩
          · cases hnew
          · cases hnew
            rcases readFileStep_finds (hsound.relies call _ hwas) hread hfinds with
              hfound | ⟨rfl, rfl, hcontents⟩
            · exact (ih hbefore hlast hwas hfound).append _
            · exact ⟨labels, [], last, rfl, hlast, hwas, hcontents⟩
        · exact hold hfound
      · exact hold hframe

/-- The files hold what the changes make of them. -/
theorem contents_trace (hseparate : fileCalls.system.Along Separate (State.idle fs) labels)
    (hrun : fileCalls.system.run (State.idle fs) labels = some final) :
    wholeFiles.run (contents fs) (fileCalls.system.trace fileChanges (State.idle fs) labels) =
      some (contents final.store) := by
  induction labels using List.reverseRecOn generalizing final with
  | nil =>
      obtain rfl := Option.some.inj hrun
      rfl
  | append_singleton labels label ih =>
      obtain ⟨last, hlast, hstep⟩ := System.run_concat.1 hrun
      obtain ⟨hbefore, -⟩ := (System.along_append hlast).1 hseparate
      rw [System.trace_concat hlast hstep, System.run_append]
      exact ⟨_, ih hbefore hlast, step_contents (sound_run hbefore hlast) hstep⟩

theorem replace_mem_trace (hseparate : fileCalls.system.Along Separate (State.idle fs) labels)
    (hrun : fileCalls.system.run (State.idle fs) labels = some final) {call : ℕ} {path : String}
    {data : List UInt8} :
    .replace call path data ∈ fileCalls.system.trace fileChanges (State.idle fs) labels ↔
      final.frames call = some (.writeFile path data (.returned none)) := by
  induction labels using List.reverseRecOn generalizing final with
  | nil =>
      obtain rfl := Option.some.inj hrun
      simp [System.trace]
  | append_singleton labels label ih =>
      obtain ⟨last, hlast, hstep⟩ := System.run_concat.1 hrun
      obtain ⟨hbefore, -⟩ := (System.along_append hlast).1 hseparate
      rw [System.trace_concat hlast hstep, List.mem_append, ih hbefore hlast]
      exact (returned_iff (sound_run hbefore hlast) hstep).symm

theorem nodup_fileChanges (state : State Files FileCall) (label : Label FileCall Syscall String) :
    ((fileChanges state label).filterMap FileChange.call).Nodup := by
  unfold fileChanges
  split
  · exact List.nodup_nil
  · split
    · split <;> simp [FileChange.call]
    · exact List.nodup_nil
  · exact List.nodup_nil

/-- A call that makes a change has not returned. -/
theorem running_of_mem_fileChanges {change : FileChange} {call : ℕ}
    (hchange : change ∈ fileChanges state label) (hcall : change.call = some call) :
    ∃ path data, state.frames call = some (.writeFile path data .rename) := by
  unfold fileChanges at hchange
  split at hchange
  · cases hchange
  case h_2 other syscall =>
    split at hchange
    case h_1 path data pc hframe =>
      split at hchange
      case isTrue hrenames =>
        obtain rfl := List.mem_singleton.1 hchange
        obtain rfl := Option.some.inj hcall
        obtain ⟨rfl, -⟩ := hrenames
        exact ⟨path, data, hframe⟩
      case isFalse => cases hchange
    case h_2 => cases hchange
  · obtain rfl := List.mem_singleton.1 hchange
    cases hcall

/-- A call makes its replacement once. -/
theorem calls_trace_nodup (hseparate : fileCalls.system.Along Separate (State.idle fs) labels)
    (hrun : fileCalls.system.run (State.idle fs) labels = some final) :
    ((fileCalls.system.trace fileChanges (State.idle fs) labels).filterMap FileChange.call).Nodup := by
  induction labels using List.reverseRecOn generalizing final with
  | nil => exact List.nodup_nil
  | append_singleton labels label ih =>
      obtain ⟨last, hlast, hstep⟩ := System.run_concat.1 hrun
      obtain ⟨hbefore, -⟩ := (System.along_append hlast).1 hseparate
      rw [System.trace_concat hlast hstep, List.filterMap_append, List.nodup_append]
      refine ⟨ih hbefore hlast, nodup_fileChanges last label, ?_⟩
      rintro call hdone _ hnow rfl
      obtain ⟨change, hchange, hcall⟩ := List.mem_filterMap.1 hdone
      obtain ⟨change', hchange', hcall'⟩ := List.mem_filterMap.1 hnow
      cases change with
      | remove path => cases hcall
      | replace found path data =>
          obtain rfl := Option.some.inj hcall
          -- the call has returned, and so has no further step
          have hreturned := (replace_mem_trace hbefore hlast).1 hchange
          obtain ⟨path', data', hrunning⟩ := running_of_mem_fileChanges hchange' hcall'
          rw [hreturned] at hrunning
          cases hrunning

theorem remove_mem_trace (hrun : fileCalls.system.run (State.idle fs) labels = some final)
    {path : String} :
    .remove path ∈ fileCalls.system.trace fileChanges (State.idle fs) labels ↔
      .ambient path ∈ labels := by
  have hlabel : ∀ (state : State Files FileCall) (label : Label FileCall Syscall String),
      .remove path ∈ fileChanges state label ↔ .ambient path = label := by
    intro state label
    unfold fileChanges
    split
    · simp
    · split
      · split <;> simp
      · simp
    · simp
  induction labels using List.reverseRecOn generalizing final with
  | nil => simp [System.trace]
  | append_singleton labels label ih =>
      obtain ⟨last, hlast, hstep⟩ := System.run_concat.1 hrun
      rw [System.trace_concat hlast hstep, List.mem_append, hlabel, List.mem_append,
        List.mem_singleton]
      exact or_congr_left (ih hlast)

/-- Files are replaced as a whole or not at all, exactly by the calls of `writeFile` that
return without an error; and a reader finds what there was when it opened the file, which
is one thing. -/
theorem writeFile_atomic (hseparate : fileCalls.system.Along Separate (State.idle fs) labels)
    (hrun : fileCalls.system.run (State.idle fs) labels = some final) :
    wholeFiles.run (contents fs) (fileCalls.system.trace fileChanges (State.idle fs) labels) =
        some (contents final.store) ∧
      (∀ call path data,
        .replace call path data ∈ fileCalls.system.trace fileChanges (State.idle fs) labels ↔
          final.frames call = some (.writeFile path data (.returned none))) ∧
      ((fileCalls.system.trace fileChanges (State.idle fs) labels).filterMap
        FileChange.call).Nodup ∧
      ∀ call path found,
        final.frames call = some (.readFile path (.returned (readResult found))) →
        ∀ other, OpenedOn fs labels call path other ↔ other = found := by
  refine ⟨contents_trace hseparate hrun, fun _ _ _ => replace_mem_trace hseparate hrun,
    calls_trace_nodup hseparate hrun, fun call path found hframe other => ?_⟩
  have hopened : OpenedOn fs labels call path found :=
    finds_opened hseparate hrun hframe rfl
  constructor
  · intro hother
    exact hother.unique hopened
  · rintro rfl
    exact hopened

/-! ## A call that is killed, and a reader from before it -/

/-- Only the beginning of a `writeFile` has to keep apart from others. -/
theorem along_separate (hlabels : ∀ label ∈ labels, ∀ call path data pc,
    label ≠ .start call (.writeFile path data pc)) (start : State Files FileCall) :
    fileCalls.system.Along Separate start labels := by
  refine System.along_mono (fun state label hlabel => ?_) (System.along_of_forall hlabels start)
  unfold Separate
  split
  case h_1 call path data pc => exact absurd rfl (hlabel call path data pc)
  case h_2 => trivial

def FileCall.Writes : FileCall → Prop
  | .writeFile _ _ pc => pc.Running
  | .readFile _ _ => False

instance : DecidablePred FileCall.Writes
  | .writeFile _ _ pc => by cases pc <;> unfold FileCall.Writes WriteFilePc.Running <;> infer_instance
  | .readFile _ _ => inferInstanceAs (Decidable False)

/-- A call begins while those that have begun are not writing: it is enough to look at these. -/
theorem along_separate_start {call : ℕ} {frame : FileCall} {after : List (Label FileCall Syscall String)}
    (begun : List ℕ) (hbegun : ∀ other ∉ begun, ∀ frame, .start other frame ∉ labels)
    (hidle : (fileCalls.system.run (State.idle fs) labels).map (fun state =>
      begun.filter fun other => (state.frames other).any (·.Writes)) = some [])
    (hbefore : fileCalls.system.Along Separate (State.idle fs) labels)
    (hafter : ∀ label ∈ after, ∀ call path data pc,
      label ≠ .start call (.writeFile path data pc)) :
    fileCalls.system.Along Separate (State.idle fs) (labels ++ .start call frame :: after) := by
  obtain ⟨state, hstate, hquiet⟩ := Option.map_eq_some_iff.1 hidle
  refine (System.along_append hstate).2 ⟨hbefore, ?_, fun next _ => along_separate hafter next⟩
  have hover : ∀ other path data pc, state.frames other = some (.writeFile path data pc) →
      ¬ pc.Running := by
    intro other path data pc hframe
    by_cases hother : other ∈ begun
    · have hnot := List.filter_eq_nil_iff.1 hquiet other hother
      rw [hframe, Option.any_some, decide_eq_true_eq] at hnot
      exact hnot
    · have hnone := Service.frames_none_run rfl (hbegun other hother) hstate
      rw [hnone] at hframe
      cases hframe
  unfold Separate
  split
  case h_1 => exact fun other data pc hframe => hover other _ data pc hframe
  case h_2 => trivial

end Runs

/-- A config directory with a file. -/
def oldFile : Files := ((FileSystem.empty String UInt8).create "config.json").pwrite 0 0 [7]

/-- Call 1 is killed when it has written one byte of three. -/
def killedCalls : List (Label FileCall Syscall String) :=
  [.start 0 (.readFile "config.json" .openFile), .advance 0 .done] ++
    .start 1 (.writeFile "config.json" [1, 2, 3] .mkdirAll) ::
      [.advance 1 .done, .advance 1 .done, .advance 1 (.part 0), .advance 1 .killed]

/-- Call 2 writes the file, and call 0 reads on in what it has opened. -/
def laterCalls : List (Label FileCall Syscall String) :=
  .start 2 (.writeFile "config.json" [4, 5] .mkdirAll) ::
    [.advance 2 .done, .advance 2 .done, .advance 2 (.part 1), .advance 2 .done, .advance 2 .done,
      .advance 0 (.part 4), .advance 0 (.part 0)]

theorem writeFile_atomic_killed : ∃ final,
    fileCalls.system.run (State.idle oldFile) (killedCalls ++ laterCalls) = some final ∧
      final.store.read "config.json" = some [4, 5] ∧
      final.frames 0 = some (.readFile "config.json" (.returned (.ok [7]))) ∧
      OpenedOn oldFile (killedCalls ++ laterCalls) 0 "config.json" (some [7]) ∧
      ¬ OpenedOn oldFile (killedCalls ++ laterCalls) 0 "config.json" (some [4, 5]) ∧
      .replace 2 "config.json" [4, 5] ∈
        fileCalls.system.trace fileChanges (State.idle oldFile) (killedCalls ++ laterCalls) := by
  have hresult : (fileCalls.system.run (State.idle oldFile) (killedCalls ++ laterCalls)).map
      (fun final => (final.store.read "config.json", final.frames 0, final.frames 2)) =
      some (some [4, 5], some (.readFile "config.json" (.returned (.ok [7]))),
        some (.writeFile "config.json" [4, 5] (.returned none))) := by
    decide +kernel
  have hseparate : fileCalls.system.Along Separate (State.idle oldFile)
      (killedCalls ++ laterCalls) :=
    along_separate_start [0, 1] (by simp +contextual [killedCalls]) (by decide +kernel)
      (along_separate_start [0] (by simp) (by decide +kernel) (along_separate (by simp) _)
        (by simp))
      (by simp)
  obtain ⟨final, hrun, hcolumns⟩ := Option.map_eq_some_iff.1 hresult
  simp only [Prod.mk.injEq] at hcolumns
  obtain ⟨hcontents, hreader, hwriter⟩ := hcolumns
  obtain ⟨-, hreplaced, -, hopened⟩ := writeFile_atomic hseparate hrun
  have hfound := hopened 0 "config.json" (some [7]) hreader
  exact ⟨final, hrun, hcontents, hreader, (hfound _).2 rfl, fun hother => by simpa using (hfound _).1 hother,
    (hreplaced _ _ _).2 hwriter⟩

-- two calls at once share the file that they write to: here the second has just emptied it
example : (fileCalls.system.run (State.idle oldFile)
    [.start 1 (.writeFile "config.json" [1, 2, 3] .mkdirAll),
      .start 2 (.writeFile "config.json" [4, 5] .mkdirAll), .advance 1 .done, .advance 1 .done,
      .advance 1 (.part 2), .advance 1 .done, .advance 2 .done, .advance 2 .done,
      .advance 1 .done]).map (fun final => (final.store.read "config.json", final.frames 1)) =
    some (some [], some (.writeFile "config.json" [1, 2, 3] (.returned none))) := by
  decide +kernel

end ModelHub.Agent
