import ModelHub.Agent.Commands
import ModelHub.Agent.WriteFile
import ModelHub.Foundations.Json

/-!
# What the files of the config directory say

`Config.Save` writes `config.json` with `json.MarshalIndent`, and `Load` reads it with
`json.Unmarshal`; `loadOrCreateFallback` writes `identity.key` in base64.  A config comes
back as it was saved, whatever its four texts are (`config_round_trip`).

The commands are modelled with one step for each of these writes.  `machine_of_files`
says that this is what the machine amounts to: in every run of calls on the directory's
files, killed and failing ones among them, `Load` and `loadFile` find what the steps
`save`, `storeInFile` and `deleteFile` make of what was there before, one step for each
call that returned without an error.
-/

namespace ModelHub.Agent

open Interleaving Transition

/-! ## config.json as a text -/

def Config.members (cfg : Config) : List (List Char × List Char) :=
  [("server_url".toList, cfg.ServerURL.toList), ("node_id".toList, cfg.NodeID.toList),
    ("org_id".toList, cfg.OrgID.toList), ("node_name".toList, cfg.NodeName.toList)]

/-- `json.MarshalIndent(c, "", "  ")` -/
def marshalIndent (cfg : Config) : String := String.ofList (Json.indented cfg.members)

/-- Letters count as equal if they differ in case; the long s and the Kelvin sign are the
letters beyond ASCII that fold to letters within. -/
def foldRune (c : Char) : Char :=
  if c.toNat = 0x17F then 'S' else if c.toNat = 0x212A then 'K' else c.toUpper

/-- The field that a member sets. -/
def Config.field (key : List Char) : Option (Config → String → Config) :=
  let name := key.map foldRune
  if name = "SERVER_URL".toList then some fun cfg text => { cfg with ServerURL := text }
  else if name = "NODE_ID".toList then some fun cfg text => { cfg with NodeID := text }
  else if name = "ORG_ID".toList then some fun cfg text => { cfg with OrgID := text }
  else if name = "NODE_NAME".toList then some fun cfg text => { cfg with NodeName := text }
  else none

def unmarshalMember (cfg : Config) (member : List Char × Json.Value) : Option Config :=
  match Config.field member.1 with
  -- members of other names are left out
  | none => some cfg
  | some set =>
      match member.2 with
      | .text chars => some (set cfg (String.ofList chars))
      | .null => some cfg
      | _ => none

/-- `json.Unmarshal`; `none` if it reports an error. -/
def unmarshal (text : String) : Option Config :=
  (Json.parse text.toList).bind fun value =>
    match value with
    | .object members => members.foldlM unmarshalMember .blank
    | .null => some .blank
    | _ => none

/-- A field takes a text, and `null` leaves it as it is. -/
def Readable (member : List Char × Json.Value) : Prop :=
  (Config.field member.1).isSome → member.2 = .null ∨ ∃ chars, member.2 = .text chars

/-- What a member makes of the field of this name; `name` is in capitals. -/
def said (name found : String) (member : List Char × Json.Value) : String :=
  if member.1.map foldRune = name.toList then
    match member.2 with
    | .text chars => String.ofList chars
    | _ => found
  else found

/-- The last text of a name. -/
def lastText (name : String) (members : List (List Char × Json.Value)) : String :=
  members.foldl (said name) ""

theorem unmarshalMember_text (start : Config) (key chars : List Char) :
    unmarshalMember start (key, .text chars) =
      some ⟨said "SERVER_URL" start.ServerURL (key, .text chars),
        said "NODE_ID" start.NodeID (key, .text chars),
        said "ORG_ID" start.OrgID (key, .text chars),
        said "NODE_NAME" start.NodeName (key, .text chars)⟩ := by
  simp only [unmarshalMember, Config.field, said]
  generalize key.map foldRune = name
  by_cases hurl : name = "SERVER_URL".toList
  · subst hurl
    rfl
  by_cases hnode : name = "NODE_ID".toList
  · subst hnode
    rfl
  by_cases horg : name = "ORG_ID".toList
  · subst horg
    rfl
  by_cases hname : name = "NODE_NAME".toList
  · subst hname
    rfl
  simp only [if_neg hurl, if_neg hnode, if_neg horg, if_neg hname]

theorem said_of_not_text {name found : String} {member : List Char × Json.Value}
    (hnot : ∀ chars, member.2 ≠ .text chars) : said name found member = found := by
  unfold said
  split
  · split
    case h_1 chars htext => exact absurd htext (hnot chars)
    case h_2 => rfl
  · rfl

theorem unmarshalMember_eq_some {start cfg : Config} {member : List Char × Json.Value} :
    unmarshalMember start member = some cfg ↔ Readable member ∧
      cfg = ⟨said "SERVER_URL" start.ServerURL member, said "NODE_ID" start.NodeID member,
        said "ORG_ID" start.OrgID member, said "NODE_NAME" start.NodeName member⟩ := by
  obtain ⟨key, value⟩ := member
  by_cases htext : ∃ chars, value = .text chars
  · obtain ⟨chars, rfl⟩ := htext
    rw [unmarshalMember_text, Option.some.injEq, eq_comm]
    exact (and_iff_right fun _ => Or.inr ⟨chars, rfl⟩).symm
  · have hsaid : ∀ name found, said name found (key, value) = found := fun name found =>
      said_of_not_text fun chars heq => htext ⟨chars, heq⟩
    simp only [hsaid, unmarshalMember, Readable, htext, or_false]
    cases Config.field key with
    | none => simpa using eq_comm
    | some set =>
        cases value with
        | null => simpa using eq_comm
        | text chars => exact absurd ⟨chars, rfl⟩ htext
        | bool value => simp
        | number text => simp
        | array elements => simp
        | object members => simp

theorem foldlM_unmarshalMember {members : List (List Char × Json.Value)} {start cfg : Config} :
    members.foldlM unmarshalMember start = some cfg ↔ (∀ member ∈ members, Readable member) ∧
      cfg = ⟨members.foldl (said "SERVER_URL") start.ServerURL,
        members.foldl (said "NODE_ID") start.NodeID, members.foldl (said "ORG_ID") start.OrgID,
        members.foldl (said "NODE_NAME") start.NodeName⟩ := by
  induction members generalizing start with
  | nil => simp [eq_comm]
  | cons member rest ih =>
      rw [List.foldlM_cons, Option.bind_eq_bind, Option.bind_eq_some_iff, List.forall_mem_cons]
      constructor
      · rintro ⟨next, hnext, hrest⟩
        obtain ⟨hreadable, rfl⟩ := unmarshalMember_eq_some.1 hnext
        obtain ⟨hothers, hcfg⟩ := ih.1 hrest
        exact ⟨⟨hreadable, hothers⟩, hcfg⟩
      · rintro ⟨⟨hreadable, hothers⟩, hcfg⟩
        exact ⟨_, unmarshalMember_eq_some.2 ⟨hreadable, rfl⟩, ih.2 ⟨hothers, hcfg⟩⟩

theorem unmarshal_eq_some {text : String} {cfg : Config} :
    unmarshal text = some cfg ↔ (Json.parse text.toList = some .null ∧ cfg = .blank) ∨
      ∃ members, Json.parse text.toList = some (.object members) ∧
        (∀ member ∈ members, Readable member) ∧
        cfg = ⟨lastText "SERVER_URL" members, lastText "NODE_ID" members,
          lastText "ORG_ID" members, lastText "NODE_NAME" members⟩ := by
  rw [unmarshal, Option.bind_eq_some_iff]
  constructor
  · rintro ⟨value, hparse, hvalue⟩
    cases value with
    | object members => exact Or.inr ⟨members, hparse, foldlM_unmarshalMember.1 hvalue⟩
    | null => exact Or.inl ⟨hparse, (Option.some.inj hvalue).symm⟩
    | bool value => cases hvalue
    | number text => cases hvalue
    | text chars => cases hvalue
    | array elements => cases hvalue
  · rintro (⟨hparse, rfl⟩ | ⟨members, hparse, hmembers⟩)
    · exact ⟨.null, hparse, rfl⟩
    · exact ⟨.object members, hparse, foldlM_unmarshalMember.2 hmembers⟩

theorem readable_textMembers {all : List (List Char × List Char)} {member : List Char × Json.Value}
    (hmember : member ∈ Json.textMembers all) : Readable member := by
  obtain ⟨⟨key, chars⟩, -, rfl⟩ := List.mem_map.1 hmember
  exact fun _ => Or.inr ⟨chars, rfl⟩

/-- A saved config is read as it was. -/
theorem unmarshal_marshal (cfg : Config) : unmarshal (marshalIndent cfg) = some cfg := by
  refine unmarshal_eq_some.2 (Or.inr ⟨Json.textMembers cfg.members, ?_,
    fun member hmember => readable_textMembers hmember, ?_⟩)
  · rw [marshalIndent, String.toList_ofList, Json.parse_indented]
  · have hlast : lastText "SERVER_URL" (Json.textMembers cfg.members) =
          String.ofList cfg.ServerURL.toList ∧
        lastText "NODE_ID" (Json.textMembers cfg.members) = String.ofList cfg.NodeID.toList ∧
        lastText "ORG_ID" (Json.textMembers cfg.members) = String.ofList cfg.OrgID.toList ∧
        lastText "NODE_NAME" (Json.textMembers cfg.members) = String.ofList cfg.NodeName.toList :=
      ⟨rfl, rfl, rfl, rfl⟩
    obtain ⟨hurl, hnode, horg, hname⟩ := hlast
    rw [hurl, hnode, horg, hname]
    simp only [String.ofList_toList]

/-- What `json.Unmarshal` takes for a config, and what it makes of it: a field is the last
text of its name.  So a config is read as it was saved, and two configs are never saved
alike. -/
theorem config_round_trip :
    (∀ text cfg, unmarshal text = some cfg ↔
      (Json.parse text.toList = some .null ∧ cfg = .blank) ∨
      ∃ members, Json.parse text.toList = some (.object members) ∧
        (∀ member ∈ members, Readable member) ∧
        cfg = ⟨lastText "SERVER_URL" members, lastText "NODE_ID" members,
          lastText "ORG_ID" members, lastText "NODE_NAME" members⟩) ∧
    (∀ cfg, unmarshal (marshalIndent cfg) = some cfg) ∧ Function.Injective marshalIndent := by
  refine ⟨fun text cfg => unmarshal_eq_some, unmarshal_marshal, fun cfg other heq => ?_⟩
  have hread := congrArg unmarshal heq
  rw [unmarshal_marshal, unmarshal_marshal] at hread
  exact Option.some.inj hread

/-! ## The files of a machine -/

def configFileName : String := "config.json"

def identityFileName : String := "identity.key"

/-- `filepath.Join` -/
def joinPath (dir name : String) : String := dir ++ "/" ++ name

/-- `[]byte(text)` -/
def bytesOf (text : String) : List UInt8 := text.toUTF8.data.toList

theorem bytesOf_eq (text : String) : bytesOf text = Utf8.encode text.toList := by
  have hbytes : text.toByteArray = (Utf8.encode text.toList).toByteArray :=
    String.utf8Encode_toList.symm
  rw [bytesOf, String.toUTF8_eq_toByteArray, hbytes, List.toList_data_toByteArray]

/-- The text of a file.  Go replaces what is not UTF-8 in the texts of a JSON value, and
rejects it elsewhere, where the replacement is rejected too. -/
def textOf (bytes : List UInt8) : String := String.ofList (Utf8.decode bytes)

@[simp] theorem textOf_bytesOf (text : String) : textOf (bytesOf text) = text := by
  rw [textOf, bytesOf_eq, Utf8.decode_encode, String.ofList_toList]

/-- The file as `Load` reads it. -/
def configFile (found : Option (List UInt8)) : ConfigFile :=
  match found with
  | none => .missing
  | some bytes =>
      match unmarshal (textOf bytes) with
      | none => .corrupt
      | some cfg => .saved cfg

/-- The file as `loadFile` reads it; bytes that are not UTF-8 are not base64 either. -/
def keyFile (found : Option (List UInt8)) : Option String := found.map textOf

/-- What the commands find in a config directory, beside the keychain. -/
def machineOf (dir : String) (entry : Option String) (files : String → Option (List UInt8)) : Machine where
  config := configFile (files (joinPath dir configFileName))
  stores := ⟨entry, keyFile (files (joinPath dir identityFileName))⟩

/-- The steps that the commands take for a call on the files. -/
inductive FileStep where
  | save (cfg : Config)
  | storeInFile (priv : PrivateKey)
  | deleteFile
  deriving DecidableEq

/-- No system call fails. -/
def undisturbed : CommandEnv where
  identity := ⟨none, none, none, none, none, none, .error ""⟩
  service := none
  hostFacts := .error ""
  connection := none
  stat := none
  save := none
  call := 0
  isPrint := fun _ => true

def FileStep.apply (machine : Machine) : FileStep → Machine
  | .save cfg => { machine with config := (Agent.save undisturbed cfg machine.config).1 }
  | .storeInFile priv =>
      { machine with stores := (Agent.storeInFile undisturbed.identity priv machine.stores).1 }
  | .deleteFile => { machine with stores := (Agent.deleteFile undisturbed.identity machine.stores).1 }

/-- What the commands write in a config directory. -/
def DirWrite (dir path : String) (data : List UInt8) : Prop :=
  (∃ cfg, path = joinPath dir configFileName ∧ data = bytesOf (marshalIndent cfg)) ∨
    ∃ priv, path = joinPath dir identityFileName ∧ data = bytesOf (encodeKey priv)

/-- The calls and removals of the commands. -/
def OfCommands (dir : String) : Label FileCall Syscall String → Prop
  | .start _ (.writeFile path data _) => DirWrite dir path data
  | .ambient path => path = joinPath dir identityFileName
  | _ => True

/-- The step of the commands that a change is, with the call that takes it; `Delete` is no
call of its own here. -/
def FileChange.step (dir : String) : FileChange → Option (Option ℕ × FileStep)
  | .replace call path data =>
      if path = joinPath dir configFileName then
        (unmarshal (textOf data)).map fun cfg => (some call, .save cfg)
      else if path = joinPath dir identityFileName then
        (decodeKey (textOf data)).toOption.map fun priv => (some call, .storeInFile priv)
      else none
  | .remove path => if path = joinPath dir identityFileName then some (none, .deleteFile) else none

/-- The steps of the commands that a run of the calls amounts to, in the order of the run. -/
def commandSteps (dir : String) (fs : Files) (labels : List (Label FileCall Syscall String)) :
    List (Option ℕ × FileStep) :=
  (fileCalls.system.trace fileChanges (State.idle fs) labels).filterMap (FileChange.step dir)

/-- The machine after these steps. -/
def applySteps (machine : Machine) (steps : List (Option ℕ × FileStep)) : Machine :=
  steps.foldl (fun machine step => step.2.apply machine) machine

def isRemoval : Label FileCall Syscall String → Bool
  | .ambient _ => true
  | _ => false

section Runs

variable {dir : String} {entry : Option String}

theorem joinPath_injective {name other : String} (heq : joinPath dir name = joinPath dir other) :
    name = other := by
  have htexts := congrArg String.toList heq
  simp only [joinPath, String.toList_append] at htexts
  exact String.toList_injective (List.append_cancel_left htexts)

theorem identity_ne_config : joinPath dir identityFileName ≠ joinPath dir configFileName := by
  intro heq
  have hnames := joinPath_injective heq
  revert hnames
  decide

theorem step_save (call : ℕ) (cfg : Config) :
    FileChange.step dir (.replace call (joinPath dir configFileName)
      (bytesOf (marshalIndent cfg))) = some (some call, .save cfg) := by
  rw [FileChange.step, if_pos rfl, textOf_bytesOf, unmarshal_marshal, Option.map_some]

theorem step_storeInFile (call : ℕ) (priv : PrivateKey) :
    FileChange.step dir (.replace call (joinPath dir identityFileName)
      (bytesOf (encodeKey priv))) = some (some call, .storeInFile priv) := by
  rw [FileChange.step, if_neg identity_ne_config, if_pos rfl, textOf_bytesOf, decodeKey_encodeKey]
  rfl

theorem step_deleteFile :
    FileChange.step dir (.remove (joinPath dir identityFileName)) = some (none, .deleteFile) :=
  if_pos rfl

/-- A change that the commands make. -/
def OfCommand (dir : String) : FileChange → Prop
  | .replace _ path data => DirWrite dir path data
  | .remove path => path = joinPath dir identityFileName

/-- The three kinds of changes. -/
theorem OfCommand.cases {change : FileChange} (hchange : OfCommand dir change) :
    (∃ call cfg, change = .replace call (joinPath dir configFileName) (bytesOf (marshalIndent cfg)) ∧
      change.step dir = some (some call, .save cfg)) ∨
    (∃ call priv, change = .replace call (joinPath dir identityFileName) (bytesOf (encodeKey priv)) ∧
      change.step dir = some (some call, .storeInFile priv)) ∨
    (change = .remove (joinPath dir identityFileName) ∧
      change.step dir = some (none, .deleteFile)) := by
  cases change with
  | replace call path data =>
      rcases hchange with ⟨cfg, rfl, rfl⟩ | ⟨priv, rfl, rfl⟩
      · exact Or.inl ⟨call, cfg, rfl, step_save call cfg⟩
      · exact Or.inr (Or.inl ⟨call, priv, rfl, step_storeInFile call priv⟩)
  | remove path =>
      obtain rfl := hchange
      exact Or.inr (Or.inr ⟨rfl, step_deleteFile⟩)

theorem machineOf_step {files next : String → Option (List UInt8)} {change : FileChange}
    (hchange : OfCommand dir change) (hstep : wholeFiles.step files change = some next) :
    ∃ step, change.step dir = some step ∧ step.1 = change.call ∧
      machineOf dir entry next = step.2.apply (machineOf dir entry files) := by
  rcases hchange.cases with ⟨call, cfg, rfl, hchanged⟩ | ⟨call, priv, rfl, hchanged⟩ | ⟨rfl, hchanged⟩
  · obtain rfl := Option.some.inj hstep
    refine ⟨(some call, .save cfg), hchanged, rfl, ?_⟩
    have hconfig : configFile (some (bytesOf (marshalIndent cfg))) = .saved cfg := by
      rw [configFile, textOf_bytesOf, unmarshal_marshal]
    rw [machineOf, Function.update_self, Function.update_of_ne identity_ne_config, hconfig]
    rfl
  · obtain rfl := Option.some.inj hstep
    refine ⟨(some call, .storeInFile priv), hchanged, rfl, ?_⟩
    have hkey : keyFile (some (bytesOf (encodeKey priv))) = some (encodeKey priv) := by
      rw [keyFile, Option.map_some, textOf_bytesOf]
    rw [machineOf, Function.update_self, Function.update_of_ne identity_ne_config.symm, hkey]
    rfl
  · obtain rfl := Option.some.inj hstep
    refine ⟨(none, .deleteFile), hchanged, rfl, ?_⟩
    rw [machineOf, Function.update_self, Function.update_of_ne identity_ne_config.symm]
    rfl

/-- Whole files that are replaced and removed are the machine's steps. -/
theorem machineOf_run {files files' : String → Option (List UInt8)} {changes : List FileChange}
    (hchanges : ∀ change ∈ changes, OfCommand dir change)
    (hrun : wholeFiles.run files changes = some files') :
    machineOf dir entry files' =
      applySteps (machineOf dir entry files) (changes.filterMap (FileChange.step dir)) := by
  induction changes generalizing files with
  | nil =>
      obtain rfl := Option.some.inj hrun
      rfl
  | cons change rest ih =>
      obtain ⟨next, hstep, hrest⟩ := System.run_cons.1 hrun
      obtain ⟨hchange, hothers⟩ := List.forall_mem_cons.1 hchanges
      obtain ⟨step, hchanged, -, hmachine⟩ := @machineOf_step dir entry _ _ _ hchange hstep
      rw [ih hothers hrest, hmachine, List.filterMap_cons_some hchanged]
      rfl

variable {fs : Files} {final : State Files FileCall}
  {labels : List (Label FileCall Syscall String)}

/-- A call writes what it was begun with. -/
theorem dirWrite_of_frame (hcommands : ∀ label ∈ labels, OfCommands dir label)
    (hrun : fileCalls.system.run (State.idle fs) labels = some final) {call : ℕ} {path : String}
    {data : List UInt8} {pc : WriteFilePc} (hframe : final.frames call = some (.writeFile path data pc)) :
    DirWrite dir path data := by
  have hinv := System.along_invariant
    (fun state : State Files FileCall => ∀ call path data pc,
      state.frames call = some (.writeFile path data pc) → DirWrite dir path data)
    ?_ (fun _ _ _ _ hframe => by simp at hframe)
    (System.along_of_forall hcommands (State.idle fs)) hrun
  · exact hinv call path data pc hframe
  intro state label next hwrites hlabel hstep call path data pc hframe
  rcases Service.step_cases hstep with ⟨other, frame, rfl, -, -, rfl⟩ |
    ⟨other, syscall, frame, store, frame', -, hwas, hadvance, rfl⟩ | ⟨name, store, -, -, rfl⟩
  · rcases Service.frames_setFrame hframe with ⟨-, rfl⟩ | ⟨-, hfound⟩
    · exact hlabel
    · exact hwrites _ _ _ _ hfound
  · rcases Service.frames_setFrame hframe with ⟨-, rfl⟩ | ⟨-, hfound⟩
    · rcases FileCall.advance_cases hadvance with ⟨path', data', old, new, rfl, hnew, -⟩ |
        ⟨path', old, new, -, hnew, -⟩
      · cases hnew
        exact hwrites _ _ _ _ hwas
      · cases hnew
    · exact hwrites _ _ _ _ hfound
  · exact hwrites _ _ _ _ hframe

theorem ofCommand_of_mem_trace (hcommands : ∀ label ∈ labels, OfCommands dir label)
    (hseparate : fileCalls.system.Along Separate (State.idle fs) labels)
    (hrun : fileCalls.system.run (State.idle fs) labels = some final) {change : FileChange}
    (hchange : change ∈ fileCalls.system.trace fileChanges (State.idle fs) labels) :
    OfCommand dir change := by
  cases change with
  | replace call path data =>
      exact dirWrite_of_frame hcommands hrun ((replace_mem_trace hseparate hrun).1 hchange)
  | remove path => exact hcommands _ ((remove_mem_trace hrun).1 hchange)

theorem machineOf_commandSteps (hcommands : ∀ label ∈ labels, OfCommands dir label)
    (hseparate : fileCalls.system.Along Separate (State.idle fs) labels)
    (hrun : fileCalls.system.run (State.idle fs) labels = some final) :
    machineOf dir entry (contents final.store) =
      applySteps (machineOf dir entry (contents fs)) (commandSteps dir fs labels) :=
  machineOf_run (fun _ hchange => ofCommand_of_mem_trace hcommands hseparate hrun hchange)
    (contents_trace hseparate hrun)

/-- The steps' calls are those of the changes. -/
theorem calls_commandSteps (hcommands : ∀ label ∈ labels, OfCommands dir label)
    (hseparate : fileCalls.system.Along Separate (State.idle fs) labels)
    (hrun : fileCalls.system.run (State.idle fs) labels = some final) :
    (commandSteps dir fs labels).map Prod.fst =
      (fileCalls.system.trace fileChanges (State.idle fs) labels).map FileChange.call := by
  rw [commandSteps, List.map_filterMap, ← List.filterMap_eq_map]
  refine List.filterMap_congr fun change hchange => ?_
  rcases (ofCommand_of_mem_trace hcommands hseparate hrun hchange).cases with
    ⟨call, cfg, rfl, hstep⟩ | ⟨call, priv, rfl, hstep⟩ | ⟨rfl, hstep⟩ <;>
  · rw [hstep]
    rfl

/-- There is one removal for each call of `os.Remove`. -/
theorem removals_trace (hrun : fileCalls.system.run (State.idle fs) labels = some final) :
    ((fileCalls.system.trace fileChanges (State.idle fs) labels).map FileChange.call).count none =
      labels.countP isRemoval := by
  induction labels using List.reverseRecOn generalizing final with
  | nil => rfl
  | append_singleton labels label ih =>
      obtain ⟨last, hlast, hstep⟩ := System.run_concat.1 hrun
      have hlabel : ((fileChanges last label).map FileChange.call).count none =
          [label].countP isRemoval := by
        unfold fileChanges
        split
        · rfl
        · split
          · split <;> rfl
          · rfl
        · rfl
      rw [System.trace_concat hlast hstep, List.map_append, List.count_append, List.countP_append,
        ih hlast, hlabel]

theorem save_mem_commandSteps (hcommands : ∀ label ∈ labels, OfCommands dir label)
    (hseparate : fileCalls.system.Along Separate (State.idle fs) labels)
    (hrun : fileCalls.system.run (State.idle fs) labels = some final) (call : ℕ) (cfg : Config) :
    (some call, .save cfg) ∈ commandSteps dir fs labels ↔ final.frames call = some (.writeFile
      (joinPath dir configFileName) (bytesOf (marshalIndent cfg)) (.returned none)) := by
  rw [← replace_mem_trace hseparate hrun, commandSteps, List.mem_filterMap]
  constructor
  · rintro ⟨change, hchange, hstep⟩
    rcases (ofCommand_of_mem_trace hcommands hseparate hrun hchange).cases with
      ⟨call', cfg', rfl, hchanged⟩ | ⟨call', priv, rfl, hchanged⟩ | ⟨rfl, hchanged⟩ <;>
      cases hchanged.symm.trans hstep
    exact hchange
  · intro hchange
    exact ⟨_, hchange, step_save call cfg⟩

theorem storeInFile_mem_commandSteps (hcommands : ∀ label ∈ labels, OfCommands dir label)
    (hseparate : fileCalls.system.Along Separate (State.idle fs) labels)
    (hrun : fileCalls.system.run (State.idle fs) labels = some final) (call : ℕ)
    (priv : PrivateKey) :
    (some call, .storeInFile priv) ∈ commandSteps dir fs labels ↔
      final.frames call = some (.writeFile (joinPath dir identityFileName)
        (bytesOf (encodeKey priv)) (.returned none)) := by
  rw [← replace_mem_trace hseparate hrun, commandSteps, List.mem_filterMap]
  constructor
  · rintro ⟨change, hchange, hstep⟩
    rcases (ofCommand_of_mem_trace hcommands hseparate hrun hchange).cases with
      ⟨call', cfg, rfl, hchanged⟩ | ⟨call', priv', rfl, hchanged⟩ | ⟨rfl, hchanged⟩ <;>
      cases hchanged.symm.trans hstep
    exact hchange
  · intro hchange
    exact ⟨_, hchange, step_storeInFile call priv⟩

/-- What a reader of one of the files has found when it opened the file: what the steps up to
then have made of it. -/
def FoundAt (dir : String) (entry : Option String) (fs : Files)
    (labels : List (Label FileCall Syscall String)) (call : ℕ) (path : String)
    (finds : Machine → Prop) : Prop :=
  ∃ before after state, labels = before ++ .advance call .done :: after ∧
    fileCalls.system.run (State.idle fs) before = some state ∧
    state.frames call = some (.readFile path .openFile) ∧
    finds (applySteps (machineOf dir entry (contents fs)) (commandSteps dir fs before))

theorem foundAt_of_opened {call : ℕ} {path : String} {found : Option (List UInt8)}
    {finds : Machine → Prop} (hcommands : ∀ label ∈ labels, OfCommands dir label)
    (hseparate : fileCalls.system.Along Separate (State.idle fs) labels)
    (hopened : OpenedOn fs labels call path found)
    (hfinds : ∀ files, files path = found → finds (machineOf dir entry files)) :
    FoundAt dir entry fs labels call path finds := by
  obtain ⟨before, after, state, rfl, hstate, hframe, hcontents⟩ := hopened
  refine ⟨before, after, state, rfl, hstate, hframe, ?_⟩
  rw [← machineOf_commandSteps (fun label hlabel => hcommands label (List.mem_append_left _ hlabel))
    ((System.along_append hstate).1 hseparate).1 hstate]
  exact hfinds _ hcontents

/-- What the commands find in the files is what their steps make of it: one for each call that
has returned without an error, and one for each removal, in the order of the run.  A `Load`
or `loadFile` finds what the steps up to its opening of the file have made. -/
theorem machine_of_files (entry : Option String)
    (hcommands : ∀ label ∈ labels, OfCommands dir label)
    (hseparate : fileCalls.system.Along Separate (State.idle fs) labels)
    (hrun : fileCalls.system.run (State.idle fs) labels = some final) :
    machineOf dir entry (contents final.store) =
        applySteps (machineOf dir entry (contents fs)) (commandSteps dir fs labels) ∧
      (∀ call cfg, (some call, .save cfg) ∈ commandSteps dir fs labels ↔
        final.frames call = some (.writeFile (joinPath dir configFileName)
          (bytesOf (marshalIndent cfg)) (.returned none))) ∧
      (∀ call priv, (some call, .storeInFile priv) ∈ commandSteps dir fs labels ↔
        final.frames call = some (.writeFile (joinPath dir identityFileName)
          (bytesOf (encodeKey priv)) (.returned none))) ∧
      ((commandSteps dir fs labels).filterMap Prod.fst).Nodup ∧
      ((commandSteps dir fs labels).map Prod.fst).count none = labels.countP isRemoval ∧
      (∀ call found, final.frames call = some (.readFile (joinPath dir configFileName)
          (.returned (readResult found))) →
        FoundAt dir entry fs labels call (joinPath dir configFileName) fun machine =>
          configFile found = machine.config) ∧
      ∀ call found, final.frames call = some (.readFile (joinPath dir identityFileName)
          (.returned (readResult found))) →
        FoundAt dir entry fs labels call (joinPath dir identityFileName) fun machine =>
          keyFile found = machine.stores.file := by
  have hcalls := calls_commandSteps hcommands hseparate hrun
  refine ⟨machineOf_commandSteps hcommands hseparate hrun,
    save_mem_commandSteps hcommands hseparate hrun,
    storeInFile_mem_commandSteps hcommands hseparate hrun, ?_, ?_, fun call found hframe => ?_,
    fun call found hframe => ?_⟩
  · have hsame := congrArg (List.filterMap id) hcalls
    rw [List.filterMap_map, List.filterMap_map] at hsame
    exact hsame ▸ calls_trace_nodup hseparate hrun
  · rw [hcalls, removals_trace hrun]
  · refine foundAt_of_opened hcommands hseparate (finds_opened hseparate hrun hframe rfl) ?_
    rintro files rfl
    rfl
  · refine foundAt_of_opened hcommands hseparate (finds_opened hseparate hrun hframe rfl) ?_
    rintro files rfl
    rfl

end Runs

def enrolledConfig : Config := ⟨"http://hub", "n1", "acme", "box"⟩

def configPath : String := joinPath "/etc/modelhub" configFileName

/-- Call 2 finds no file.  The config is saved, and call 3 opens it; then the key is removed,
and the next save is killed before its rename. -/
def savingCalls : List (Label FileCall Syscall String) :=
  ([.start 2 (.readFile configPath .openFile), .advance 2 .done] ++
    .start 0 (.writeFile configPath (bytesOf (marshalIndent enrolledConfig)) .mkdirAll) ::
      [.advance 0 .done, .advance 0 .done, .advance 0 (.part 1000), .advance 0 .done,
        .advance 0 .done, .start 3 (.readFile configPath .openFile), .advance 3 .done,
        .ambient (joinPath "/etc/modelhub" identityFileName)]) ++
  .start 1 (.writeFile configPath (bytesOf (marshalIndent .blank)) .mkdirAll) ::
    [.advance 1 .done, .advance 1 .done, .advance 1 (.part 10), .advance 1 .killed,
      .advance 3 (.part 1000), .advance 3 (.part 0)]

theorem machine_of_files_killed : ∃ final,
    fileCalls.system.run (State.idle (FileSystem.empty String UInt8)) savingCalls = some final ∧
      machineOf "/etc/modelhub" none (contents final.store) =
        applySteps (machineOf "/etc/modelhub" none (contents (FileSystem.empty String UInt8)))
          (commandSteps "/etc/modelhub" (FileSystem.empty String UInt8) savingCalls) ∧
      (some 0, .save enrolledConfig) ∈
        commandSteps "/etc/modelhub" (FileSystem.empty String UInt8) savingCalls ∧
      FoundAt "/etc/modelhub" none (FileSystem.empty String UInt8) savingCalls 2 configPath
        (fun machine => ConfigFile.missing = machine.config) ∧
      FoundAt "/etc/modelhub" none (FileSystem.empty String UInt8) savingCalls 3 configPath
        fun machine => ConfigFile.saved enrolledConfig = machine.config := by
  have hresult : (fileCalls.system.run (State.idle (FileSystem.empty String UInt8)) savingCalls).map
      (fun final => (final.frames 0, final.frames 2, final.frames 3)) =
      some (some (.writeFile configPath (bytesOf (marshalIndent enrolledConfig)) (.returned none)),
        some (.readFile configPath (.returned (readResult none))),
        some (.readFile configPath
          (.returned (readResult (some (bytesOf (marshalIndent enrolledConfig))))))) := by
    decide +kernel
  have hcommands : ∀ label ∈ savingCalls, OfCommands "/etc/modelhub" label := by
    simp only [savingCalls, List.nil_append, List.cons_append, List.forall_mem_cons, OfCommands,
      List.not_mem_nil, false_imp_iff, implies_true, and_true, true_and]
    exact ⟨Or.inl ⟨enrolledConfig, rfl, rfl⟩, Or.inl ⟨.blank, rfl, rfl⟩⟩
  have hseparate : fileCalls.system.Along Separate
      (State.idle (FileSystem.empty String UInt8)) savingCalls :=
    along_separate_start [0, 2, 3] (by simp +contextual) (by decide +kernel)
      (along_separate_start [2] (by simp +contextual) (by decide +kernel)
        (along_separate (by simp) _) (by simp)) (by simp)
  obtain ⟨final, hrun, hcolumns⟩ := Option.map_eq_some_iff.1 hresult
  simp only [Prod.mk.injEq] at hcolumns
  obtain ⟨hsaved, hmissing, hfound⟩ := hcolumns
  obtain ⟨hmachine, hsaves, -, -, -, hloads, -⟩ := machine_of_files none hcommands hseparate hrun
  have hconfig : configFile (some (bytesOf (marshalIndent enrolledConfig))) =
      .saved enrolledConfig := by
    rw [configFile, textOf_bytesOf, unmarshal_marshal]
  have hthird := hloads 3 _ hfound
  rw [hconfig] at hthird
  exact ⟨final, hrun, hmachine, (hsaves 0 enrolledConfig).2 hsaved, hloads 2 none hmissing, hthird⟩

end ModelHub.Agent
