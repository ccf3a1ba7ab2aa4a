import ModelHub.ControlPlane.Nodes

/-!
# Replaying a node's stream

What the device rows of a node are after `NodeService.Connect` has handled its
messages one after another.  The rows are followed one place (node and local id) at
a time.  `Follows` is what one message does to the row in a place:

* a Hello does nothing;
* an inventory gives the row the facts of its last entry of a known kind with this
  local id, creating the row if there was none, and deletes it without such an entry;
* a batch of samples sets the dynamic columns to those of its last sample for the
  place, if there is a row.

`handleMessage_follows` reads this off the three handlers, and the facts about whole
streams are inductions on the messages.  An entry of an unknown kind is skipped
before the upserts, so of two entries with one local id the *known* one counts,
also if it is the first.
-/

namespace ModelHub.ControlPlane

open ModelHub.Core Db Replay

variable {orgId : String} {nodeId : Uuid} {localId : String} {db next final : Database}

/-- A message as it is handled. -/
abbrev Delivery := AgentMessage × MessageEnv

/-- The device row in a place. -/
def rowOf (db : Database) (nodeId : Uuid) (localId : String) : Option Device :=
  db.devices.withKey (nodeId, localId)

/-- The facts of the last entry with this local id. -/
def lastFacts (localId : String) (devices : List (String × DeviceFacts)) : Option DeviceFacts :=
  ((devices.filter fun device => device.1 = localId).getLast?).map Prod.snd

/-- What the samples of a message say about a place. -/
def sampleReports (localId : String) : AgentMessage → List LastSample
  | .samples samples => samples.filterMap fun sample =>
      if sample.localId = localId then (sampledAt sample).map (sampleColumns sample) else none
  | _ => []

/-- What the samples of a stream say about a place, in the order received. -/
def reportsOf (localId : String) (messages : List Delivery) : List LastSample :=
  messages.flatMap fun message => sampleReports localId message.1

/-- What a message does to the row in a place. -/
def Follows (localId : String) (message : AgentMessage) (row row' : Option Device) : Prop :=
  match message with
  | .hello _ _ => row' = row
  | .inventory reported => ∃ new : Device, new.last = .default ∧
      row' = (lastFacts localId (knownDevices reported)).map fun facts =>
        setFacts facts (row.getD new)
  | .samples samples => row' = row.map fun device =>
      setLast ((sampleReports localId (.samples samples)).getLast?.getD device.last) device

/-- The node's device rows are in its organization. -/
def OwnDevices (orgId : String) (nodeId : Uuid) (db : Database) : Prop :=
  ∀ device ∈ db.devices.rows, device.nodeId = nodeId → device.orgId = orgId

theorem rowOf_eq_some {device : Device} :
    rowOf db nodeId localId = some device ↔
      device ∈ db.devices.rows ∧ device.nodeId = nodeId ∧ device.localId = localId := by
  rw [rowOf, Table.withKey_eq_some, Device.place, Prod.mk.injEq]

theorem OwnDevices.rowOf (hown : OwnDevices orgId nodeId db) {device : Device}
    (hrow : rowOf db nodeId localId = some device) : device.orgId = orgId := by
  obtain ⟨hmem, hnode, -⟩ := rowOf_eq_some.1 hrow
  exact hown device hmem hnode

/-! ## The last entry -/

theorem lastFacts_cons (device : String × DeviceFacts) (rest : List (String × DeviceFacts)) :
    lastFacts localId (device :: rest) = (lastFacts localId rest).or
      (if device.1 = localId then some device.2 else none) := by
  unfold lastFacts
  by_cases hlocal : device.1 = localId
  · rw [List.filter_cons_of_pos (by simpa using hlocal), if_pos hlocal, List.getLast?_cons]
    cases (rest.filter fun device => device.1 = localId).getLast? <;> simp
  · rw [List.filter_cons_of_neg (by simpa using hlocal), if_neg hlocal, Option.or_none]

theorem lastFacts_isSome {devices : List (String × DeviceFacts)} :
    (lastFacts localId devices).isSome ↔ localId ∈ devices.map Prod.fst := by
  induction devices with
  | nil => simp [lastFacts]
  | cons device rest ih =>
      rw [lastFacts_cons, Option.isSome_or, Bool.or_eq_true, ih, List.map_cons, List.mem_cons]
      by_cases hlocal : device.1 = localId
      · simp [hlocal]
      · have hother : localId ≠ device.1 := Ne.symm hlocal
        simp [hlocal, hother]

/-! ## Inventories -/

theorem upsertKnown_ok {env : MessageEnv} {round : (String × DeviceFacts) × ℕ}
    (hround : upsertKnown orgId nodeId env round db = .ok next) :
    db.upsertDevice orgId
      (proposedDevice orgId nodeId round.1 (env.newId round.2) env.createdAt) = .ok next := by
  unfold upsertKnown at hround
  split at hround
  case h_1 found hfound =>
    rw [hfound, Except.ok.inj hround]
  case h_2 => cases hround

/-- What one upsert does to the row in a place. -/
def followUpsert (orgId : String) (nodeId : Uuid) (localId : String) (env : MessageEnv)
    (round : (String × DeviceFacts) × ℕ) (row : Option Device) : Option Device :=
  if round.1.1 = localId then
    some ((row.map (setFacts round.1.2)).getD
      (proposedDevice orgId nodeId round.1 (env.newId round.2) env.createdAt))
  else row

theorem upsertKnown_row {env : MessageEnv} {round : (String × DeviceFacts) × ℕ}
    (hround : upsertKnown orgId nodeId env round db = .ok next) :
    rowOf next nodeId localId =
      followUpsert orgId nodeId localId env round (rowOf db nodeId localId) := by
  have hrow := upsertDevice_withKey (upsertKnown_ok hround) (nodeId, localId)
  rw [rowOf, hrow, followUpsert]
  by_cases hlocal : round.1.1 = localId
  · have hplace : (proposedDevice orgId nodeId round.1 (env.newId round.2) env.createdAt).place =
        (nodeId, localId) := by
      rw [← hlocal]
      rfl
    rw [if_pos hplace, if_pos hlocal]
    rfl
  · have hplace : (proposedDevice orgId nodeId round.1 (env.newId round.2) env.createdAt).place ≠
        (nodeId, localId) := by
      intro hsame
      exact hlocal (congrArg Prod.snd hsame)
    rw [if_neg hplace, if_neg hlocal]
    rfl

/-- Of several upserts in a place, the first may create the row and the last one's
facts stay. -/
theorem foldl_followUpsert (env : MessageEnv) (rounds : List ((String × DeviceFacts) × ℕ))
    (row : Option Device) :
    ∃ new : Device, new.last = .default ∧
      rounds.foldl (fun row round => followUpsert orgId nodeId localId env round row) row =
        match lastFacts localId (rounds.map Prod.fst) with
        | none => row
        | some facts => some (setFacts facts (row.getD new)) := by
  induction rounds generalizing row with
  | nil =>
      exact ⟨proposedDevice orgId nodeId ("", ⟨.cpu, 0, "", 0, 0, "", ""⟩) 0 0, rfl, rfl⟩
  | cons round rest ih =>
      obtain ⟨new, hnew, hrest⟩ := ih (followUpsert orgId nodeId localId env round row)
      rw [List.foldl_cons, hrest, List.map_cons, lastFacts_cons]
      by_cases hlocal : round.1.1 = localId
      · rw [if_pos hlocal, followUpsert, if_pos hlocal]
        refine ⟨proposedDevice orgId nodeId round.1 (env.newId round.2) env.createdAt, rfl, ?_⟩
        cases lastFacts localId (rest.map Prod.fst) <;> cases row <;> rfl
      · rw [if_neg hlocal, followUpsert, if_neg hlocal, Option.or_none]
        exact ⟨new, hnew, rfl⟩

theorem own_upsertKnown {env : MessageEnv} {round : (String × DeviceFacts) × ℕ}
    (hown : OwnDevices orgId nodeId db)
    (hround : upsertKnown orgId nodeId env round db = .ok next) : OwnDevices orgId nodeId next := by
  intro device hdevice hnode
  obtain ⟨-, -, -, -, ⟨-, hrows⟩ | ⟨-, hrows⟩⟩ := upsertDevice_cases (upsertKnown_ok hround)
  · rw [hrows, List.mem_map] at hdevice
    obtain ⟨old, hold, rfl⟩ := hdevice
    rw [Table.rewrite_same Device.nodeId fun row => Device.nodeId_eq (setFacts_identity _ row)] at hnode
    rw [Table.rewrite_same Device.orgId fun row => Device.orgId_eq (setFacts_identity _ row)]
    exact hown old hold hnode
  · rw [hrows, List.mem_append, List.mem_singleton] at hdevice
    rcases hdevice with hold | rfl
    · exact hown device hold hnode
    · rfl

/-- What an inventory does to the row in a place. -/
theorem recordInventory_follows {reported : List DeviceReport} {env : MessageEnv}
    (hown : OwnDevices orgId nodeId db)
    (hrecord : recordInventory orgId nodeId reported env db = .ok next) :
    Follows localId (.inventory reported) (rowOf db nodeId localId) (rowOf next nodeId localId) := by
  obtain ⟨middle, hupserts, rfl⟩ := recordInventory_eq_ok.1 hrecord
  have hmiddle : OwnDevices orgId nodeId middle :=
    replay_keeps _ (fun _ _ _ hown hround => own_upsertKnown hown hround) hown hupserts
  have hfold := replay_follows (fun db => rowOf db nodeId localId)
    (followUpsert orgId nodeId localId env) (fun _ _ _ hround => upsertKnown_row hround) hupserts
  obtain ⟨new, hnew, hrow⟩ := @foldl_followUpsert orgId nodeId localId env
    (knownDevices reported).zipIdx (rowOf db nodeId localId)
  rw [hrow, List.zipIdx_map_fst] at hfold
  refine ⟨new, hnew, ?_⟩
  unfold Database.deleteDevices
  rw [rowOf, Table.withKey_delete]
  have hkept : (middle.devices.withKey (nodeId, localId)) = rowOf middle nodeId localId := rfl
  rw [hkept]
  cases hlast : lastFacts localId (knownDevices reported) with
  | some facts =>
      have hmem : localId ∈ (knownDevices reported).map Prod.fst := by
        rw [← lastFacts_isSome, hlast]
        rfl
      rw [hlast] at hfold
      have hfound : rowOf middle nodeId localId = some _ := hfold
      have hlocal := (rowOf_eq_some.1 hfound).2.2
      rw [hfound, Option.map_some, Option.filter_some_pos]
      simp [hlocal, hmem]
  | none =>
      have hnot : localId ∉ (knownDevices reported).map Prod.fst := by
        rw [← lastFacts_isSome, hlast]
        simp
      rw [Option.map_none]
      cases hfound : rowOf middle nodeId localId with
      | none => rfl
      | some device =>
          obtain ⟨-, hnode, hlocal⟩ := rowOf_eq_some.1 hfound
          have horg := hmiddle.rowOf hfound
          rw [Option.filter_some_neg]
          simp [horg, hnode, hlocal, hnot]

/-! ## Samples -/

theorem mem_updateDevices {sel : Device → Bool} {set : Device → Device}
    {hset : ∀ device, (set device).identity = device.identity} {device : Device} :
    device ∈ (db.updateDevices sel set hset).devices.rows ↔
      ∃ old ∈ db.devices.rows, Table.rewrite sel set old = device := by
  unfold Database.updateDevices
  rw [Table.mem_update]

theorem own_applySample {sample : DeviceSample} (hown : OwnDevices orgId nodeId db)
    (happly : applySample orgId nodeId sample db = .ok next) : OwnDevices orgId nodeId next := by
  obtain ⟨date, -, -, rfl⟩ := applySample_eq_ok.1 happly
  intro device hdevice hnode
  obtain ⟨old, hold, rfl⟩ := mem_updateDevices.1 hdevice
  rw [Table.rewrite_same Device.nodeId fun row => Device.nodeId_eq (setLast_identity _ row)] at hnode
  rw [Table.rewrite_same Device.orgId fun row => Device.orgId_eq (setLast_identity _ row)]
  exact hown old hold hnode

theorem applySample_row {sample : DeviceSample} (hown : OwnDevices orgId nodeId db)
    (happly : applySample orgId nodeId sample db = .ok next) :
    rowOf next nodeId localId = (rowOf db nodeId localId).map fun device =>
      setLast ((sampleReports localId (.samples [sample])).getLast?.getD device.last) device := by
  obtain ⟨date, hdate, -, rfl⟩ := applySample_eq_ok.1 happly
  unfold Database.updateDevices
  rw [rowOf, Table.withKey_update]
  cases hfound : db.devices.withKey (nodeId, localId) with
  | none => simp [rowOf, hfound]
  | some device =>
      have hrow : rowOf db nodeId localId = some device := hfound
      obtain ⟨-, hnode, hlocal⟩ := rowOf_eq_some.1 hrow
      have horg := hown.rowOf hrow
      rw [hrow, Option.map_some, Option.map_some]
      by_cases hsame : sample.localId = localId
      · rw [Table.rewrite_of_sel (by simp [horg, hnode, hlocal, hsame])]
        simp [sampleReports, hsame, hdate]
      · rw [Table.rewrite_of_not_sel (by simp [hlocal, Ne.symm hsame])]
        simp [sampleReports, hsame, setLast]

theorem sampleReports_cons (sample : DeviceSample) (rest : List DeviceSample) :
    sampleReports localId (.samples (sample :: rest)) =
      sampleReports localId (.samples [sample]) ++ sampleReports localId (.samples rest) := by
  simp only [sampleReports]
  rw [← List.filterMap_append]
  rfl

theorem applySamples_row {samples : List DeviceSample} (hown : OwnDevices orgId nodeId db)
    (hreplay : replay (applySample orgId nodeId) samples db = .ok next) :
    rowOf next nodeId localId = (rowOf db nodeId localId).map fun device =>
      setLast ((sampleReports localId (.samples samples)).getLast?.getD device.last) device := by
  induction samples generalizing db with
  | nil =>
      cases hreplay
      cases hfound : rowOf next nodeId localId with
      | none => rfl
      | some device => rfl
  | cons sample rest ih =>
      obtain ⟨middle, hfirst, hrest⟩ := replay_cons.1 hreplay
      rw [ih (own_applySample hown hfirst) hrest, applySample_row hown hfirst, Option.map_map,
        sampleReports_cons sample rest, List.getLast?_append]
      congr 1
      funext device
      cases (sampleReports localId (.samples rest)).getLast? <;> rfl

/-! ## One message -/

theorem markNodeOnline_devices {host : HostColumns} {now : Time}
    (hmark : markNodeOnline orgId nodeId host now db = .ok next) : next.devices = db.devices := by
  obtain ⟨-, rfl⟩ := markNodeOnline_eq_ok.1 hmark
  rfl

theorem handleMessage_follows {message : AgentMessage} {env : MessageEnv}
    (hown : OwnDevices orgId nodeId db)
    (hhandle : handleMessage orgId nodeId message env db = .ok next) :
    Follows localId message (rowOf db nodeId localId) (rowOf next nodeId localId) := by
  cases message with
  | hello agentVersion host =>
      have hdevices := markNodeOnline_devices hhandle
      show rowOf next nodeId localId = rowOf db nodeId localId
      rw [rowOf, hdevices, rowOf]
  | inventory devices => exact recordInventory_follows hown hhandle
  | samples samples =>
      obtain ⟨middle, hsamples, rfl⟩ := recordSamples_eq_ok.1 hhandle
      have hrow := @applySamples_row _ _ localId _ _ _ hown hsamples
      exact hrow

theorem own_handleMessage {message : AgentMessage} {env : MessageEnv}
    (hown : OwnDevices orgId nodeId db)
    (hhandle : handleMessage orgId nodeId message env db = .ok next) :
    OwnDevices orgId nodeId next := by
  apply handleMessage_keeps (OwnDevices orgId nodeId) _ _ _ _ hown hhandle
  · intro env round state next _ hown hround
    exact own_upsertKnown hown hround
  · intro keep state hown device hdevice
    exact hown device (Table.mem_delete.1 hdevice).1
  · intro sample _ state next hown happly
    exact own_applySample hown happly
  · intro set hset state _ hown
    exact hown

theorem own_connect {messages : List Delivery} (hown : OwnDevices orgId nodeId db)
    (hconnect : connect orgId nodeId messages db = .ok final) : OwnDevices orgId nodeId final :=
  replay_keeps _ (fun _ _ _ hown hhandle => own_handleMessage hown hhandle) hown hconnect

/-! ## Whole streams -/

theorem connect_cons {message : Delivery} {rest : List Delivery} :
    connect orgId nodeId (message :: rest) db = .ok final ↔
      ∃ next, handleMessage orgId nodeId message.1 message.2 db = .ok next ∧
        connect orgId nodeId rest next = .ok final :=
  replay_cons

theorem connect_append {before after : List Delivery} :
    connect orgId nodeId (before ++ after) db = .ok final ↔
      ∃ middle, connect orgId nodeId before db = .ok middle ∧
        connect orgId nodeId after middle = .ok final :=
  replay_append

/-- The message is not an inventory. -/
def AgentMessage.isInventory : AgentMessage → Bool
  | .inventory _ => true
  | _ => false

/-- Nothing but an inventory changes facts. -/
theorem connect_facts {messages : List Delivery} (hown : OwnDevices orgId nodeId db)
    (hnone : ∀ message ∈ messages, message.1.isInventory = false)
    (hconnect : connect orgId nodeId messages db = .ok final) :
    (rowOf final nodeId localId).map Device.facts = (rowOf db nodeId localId).map Device.facts := by
  induction messages generalizing db with
  | nil =>
      cases hconnect
      rfl
  | cons message rest ih =>
      obtain ⟨next, hhandle, hrest⟩ := connect_cons.1 hconnect
      have hquiet := hnone message List.mem_cons_self
      rw [ih (own_handleMessage hown hhandle)
        (fun other hother => hnone other (List.mem_cons_of_mem _ hother)) hrest]
      have hfollows := @handleMessage_follows _ _ localId _ _ _ _ hown hhandle
      obtain ⟨payload, env⟩ := message
      cases payload with
      | hello agentVersion host => rw [show rowOf next nodeId localId = _ from hfollows]
      | inventory reported => cases hquiet
      | samples samples =>
          rw [show rowOf next nodeId localId = _ from hfollows, Option.map_map]
          rfl

/-- After the last inventory of a stream, every place has the facts of the last
known entry for it, and the other places are empty. -/
theorem connect_inventory {before since : List Delivery} {reported : List DeviceReport}
    {env : MessageEnv} (hown : OwnDevices orgId nodeId db)
    (hlast : ∀ message ∈ since, message.1.isInventory = false)
    (hconnect : connect orgId nodeId (before ++ (.inventory reported, env) :: since) db = .ok final)
    (localId : String) :
    (rowOf final nodeId localId).map Device.facts = lastFacts localId (knownDevices reported) := by
  obtain ⟨middle, hbefore, hrest⟩ := connect_append.1 hconnect
  obtain ⟨next, hhandle, hsince⟩ := connect_cons.1 hrest
  have hmiddle := own_connect hown hbefore
  rw [connect_facts (own_handleMessage hmiddle hhandle) hlast hsince]
  obtain ⟨new, -, hrow⟩ := @handleMessage_follows _ _ localId _ _ _ _ hmiddle hhandle
  rw [hrow, Option.map_map]
  cases lastFacts localId (knownDevices reported) <;> rfl

/-- There is a row in the place before and after each of the messages. -/
def PresentThroughout (orgId : String) (nodeId : Uuid) (localId : String) (db : Database)
    (messages : List Delivery) : Prop :=
  ∀ before after state, messages = before ++ after →
    connect orgId nodeId before db = .ok state → (rowOf state nodeId localId).isSome

theorem PresentThroughout.cons {message : Delivery} {rest : List Delivery}
    (hpresent : (rowOf db nodeId localId).isSome)
    (hhandle : handleMessage orgId nodeId message.1 message.2 db = .ok next)
    (hrest : PresentThroughout orgId nodeId localId next rest) :
    PresentThroughout orgId nodeId localId db (message :: rest) := by
  intro before after state hsplit hbefore
  cases before with
  | nil =>
      cases hbefore
      exact hpresent
  | cons first before =>
      obtain ⟨rfl, hrestSplit⟩ := List.cons.inj hsplit
      obtain ⟨next', hhandle', hbefore⟩ := connect_cons.1 hbefore
      rw [hhandle] at hhandle'
      rw [← Except.ok.inj hhandle'] at hbefore
      exact hrest before after state hrestSplit hbefore

theorem reportsOf_cons (message : Delivery) (rest : List Delivery) :
    reportsOf localId (message :: rest) = sampleReports localId message.1 ++ reportsOf localId rest := by
  simp [reportsOf]

/-- The dynamic columns of a row after one message that kept it. -/
theorem Follows.last {message : AgentMessage} {old device : Device}
    (hfollows : Follows localId message (some old) (some device)) :
    device.last = (sampleReports localId message).getLast?.getD old.last := by
  cases message with
  | hello agentVersion host =>
      rw [Option.some.inj (show some device = some old from hfollows)]
      rfl
  | inventory reported =>
      obtain ⟨new, -, hrow⟩ := hfollows
      obtain ⟨facts, -, hdevice⟩ := Option.map_eq_some_iff.1 hrow.symm
      rw [← hdevice]
      rfl
  | samples samples =>
      have hrow : some device = (some old).map _ := hfollows
      rw [Option.some.inj hrow]
      rfl

/-- A row that a message creates starts with the column defaults. -/
theorem Follows.created {message : AgentMessage} {device : Device}
    (hfollows : Follows localId message none (some device)) : device.last = .default := by
  cases message with
  | hello agentVersion host => cases (show some device = none from hfollows)
  | inventory reported =>
      obtain ⟨new, hnew, hrow⟩ := hfollows
      obtain ⟨facts, -, hdevice⟩ := Option.map_eq_some_iff.1 hrow.symm
      rw [← hdevice]
      exact hnew
  | samples samples => cases (show some device = none from hfollows)

/-- The dynamic columns of a final row: those of the last sample for its place since
the message that created it, else the defaults; or, if it was there all the time,
those of the last sample at all, else what they were. -/
theorem connect_last {messages : List Delivery} {row : Device} (hown : OwnDevices orgId nodeId db)
    (hconnect : connect orgId nodeId messages db = .ok final)
    (hrow : rowOf final nodeId localId = some row) :
    (∃ before message since absent created, messages = before ++ message :: since ∧
      connect orgId nodeId before db = .ok absent ∧ rowOf absent nodeId localId = none ∧
      handleMessage orgId nodeId message.1 message.2 absent = .ok created ∧
      PresentThroughout orgId nodeId localId created since ∧
      row.last = (reportsOf localId since).getLast?.getD .default) ∨
    ∃ first, rowOf db nodeId localId = some first ∧
      PresentThroughout orgId nodeId localId db messages ∧
      row.last = (reportsOf localId messages).getLast?.getD first.last := by
  induction messages generalizing db with
  | nil =>
      cases hconnect
      refine Or.inr ⟨row, hrow, fun before after state hsplit hbefore => ?_, rfl⟩
      obtain ⟨rfl, -⟩ := List.append_eq_nil_iff.1 hsplit.symm
      cases hbefore
      rw [hrow]
      rfl
  | cons message rest ih =>
      obtain ⟨next, hhandle, hrest⟩ := connect_cons.1 hconnect
      have hfollows := @handleMessage_follows _ _ localId _ _ _ _ hown hhandle
      rcases ih (own_handleMessage hown hhandle) hrest with
        ⟨before, creating, since, absent, created, rfl, hbefore, hlater⟩ |
        ⟨first, hfirst, hpresent, hlast⟩
      · exact Or.inl ⟨message :: before, creating, since, absent, created, rfl,
          connect_cons.2 ⟨next, hhandle, hbefore⟩, hlater⟩
      · rw [hfirst] at hfollows
        cases hstart : rowOf db nodeId localId with
        | none =>
            rw [hstart] at hfollows
            refine Or.inl ⟨[], message, rest, db, next, rfl, rfl, hstart, hhandle, hpresent, ?_⟩
            rw [hlast, hfollows.created]
        | some old =>
            rw [hstart] at hfollows
            refine Or.inr ⟨old, rfl, PresentThroughout.cons (by rw [hstart]; rfl) hhandle hpresent, ?_⟩
            rw [hlast, hfollows.last, reportsOf_cons, List.getLast?_append]
            cases (reportsOf localId rest).getLast? <;> rfl

/-- A row whose place every inventory reports stays the same row. -/
theorem connect_identity {messages : List Delivery} {row : Device}
    (hown : OwnDevices orgId nodeId db)
    (hknown : ∀ reported env, (AgentMessage.inventory reported, env) ∈ messages →
      localId ∈ (knownDevices reported).map Prod.fst)
    (hrow : rowOf db nodeId localId = some row)
    (hconnect : connect orgId nodeId messages db = .ok final) :
    ∃ row', rowOf final nodeId localId = some row' ∧ row'.id = row.id ∧
      row'.interactive = row.interactive ∧ row'.createdAt = row.createdAt := by
  induction messages generalizing db row with
  | nil =>
      cases hconnect
      exact ⟨row, hrow, rfl, rfl, rfl⟩
  | cons message rest ih =>
      obtain ⟨next, hhandle, hrest⟩ := connect_cons.1 hconnect
      have hfollows := @handleMessage_follows _ _ localId _ _ _ _ hown hhandle
      have hlater : ∀ reported env, (AgentMessage.inventory reported, env) ∈ rest →
          localId ∈ (knownDevices reported).map Prod.fst := by
        intro reported env hmem
        exact hknown reported env (List.mem_cons_of_mem _ hmem)
      obtain ⟨middle, hmiddle, hid, hinteractive, hcreated⟩ : ∃ middle,
          rowOf next nodeId localId = some middle ∧ middle.id = row.id ∧
            middle.interactive = row.interactive ∧ middle.createdAt = row.createdAt := by
        rw [hrow] at hfollows
        obtain ⟨payload, env⟩ := message
        cases payload with
        | hello agentVersion host => exact ⟨row, hfollows, rfl, rfl, rfl⟩
        | inventory reported =>
            obtain ⟨new, -, hnext⟩ := hfollows
            have hmem := hknown reported env List.mem_cons_self
            rw [← lastFacts_isSome] at hmem
            obtain ⟨facts, hfacts⟩ := Option.isSome_iff_exists.1 hmem
            rw [hfacts] at hnext
            exact ⟨setFacts facts row, hnext, rfl, rfl, rfl⟩
        | samples samples => exact ⟨_, hfollows, rfl, rfl, rfl⟩
      obtain ⟨row', hrow', hid', hinteractive', hcreated'⟩ :=
        ih (own_handleMessage hown hhandle) hlater hmiddle hrest
      exact ⟨row', hrow', hid'.trans hid, hinteractive'.trans hinteractive,
        hcreated'.trans hcreated⟩

/-! ## The rows of the other nodes -/

def otherDevices (nodeId : Uuid) (db : Database) : List Device :=
  db.devices.rows.filter fun device => device.nodeId ≠ nodeId

def otherNodes (nodeId : Uuid) (db : Database) : List Node :=
  db.nodes.rows.filter fun node => node.id ≠ nodeId

/-- The rows of the other nodes are the same. -/
def SameElsewhere (nodeId : Uuid) (db next : Database) : Prop :=
  otherDevices nodeId next = otherDevices nodeId db ∧ otherNodes nodeId next = otherNodes nodeId db

theorem SameElsewhere.refl (nodeId : Uuid) (db : Database) : SameElsewhere nodeId db db := ⟨rfl, rfl⟩

theorem SameElsewhere.trans {middle : Database} (hfirst : SameElsewhere nodeId db middle)
    (hsecond : SameElsewhere nodeId middle next) : SameElsewhere nodeId db next :=
  ⟨hsecond.1.trans hfirst.1, hsecond.2.trans hfirst.2⟩

theorem upsertKnown_elsewhere {env : MessageEnv} {round : (String × DeviceFacts) × ℕ}
    (hround : upsertKnown orgId nodeId env round db = .ok next) : SameElsewhere nodeId db next := by
  obtain ⟨-, hnodes, -, -, hcase⟩ := upsertDevice_cases (upsertKnown_ok hround)
  refine ⟨?_, by rw [otherNodes, hnodes, otherNodes]⟩
  unfold otherDevices
  rcases hcase with ⟨-, hrows⟩ | ⟨-, hrows⟩
  · rw [hrows, Table.filter_map_rewrite]
    · intro device
      rfl
    · intro device _ hsel
      have hplace : device.place =
          (proposedDevice orgId nodeId round.1 (env.newId round.2) env.createdAt).place := by
        simpa using hsel
      have hnode : device.nodeId = nodeId := congrArg Prod.fst hplace
      simp [hnode]
  · rw [hrows, List.filter_append, List.filter_cons_of_neg (by simp [proposedDevice]),
      List.filter_nil, List.append_nil]

theorem applySample_elsewhere {sample : DeviceSample}
    (happly : applySample orgId nodeId sample db = .ok next) : SameElsewhere nodeId db next := by
  obtain ⟨date, -, -, rfl⟩ := applySample_eq_ok.1 happly
  refine ⟨?_, rfl⟩
  unfold otherDevices Database.updateDevices Table.update
  rw [Table.filter_map_rewrite]
  · intro device
    rfl
  · intro device _ hsel
    have hnode : device.orgId = orgId ∧ device.nodeId = nodeId ∧ device.localId = sample.localId := by
      simpa using hsel
    simp [hnode.2.1]

theorem updateNodes_elsewhere {set : Node → Node}
    {hset : ∀ node, (set node).identity = node.identity} :
    SameElsewhere nodeId db
      (db.updateNodes (fun node => node.id = nodeId ∧ node.orgId = orgId) set hset) := by
  refine ⟨rfl, ?_⟩
  unfold otherNodes Database.updateNodes Table.update
  rw [Table.filter_map_rewrite]
  · intro node
    rw [Node.id_eq (hset node)]
  · intro node _ hsel
    have hnode : node.id = nodeId ∧ node.orgId = orgId := by simpa using hsel
    simp [hnode.1]

theorem deleteDevices_elsewhere {keep : List String} :
    SameElsewhere nodeId db (db.deleteDevices fun device =>
      device.orgId = orgId ∧ device.nodeId = nodeId ∧ device.localId ∉ keep) := by
  refine ⟨?_, rfl⟩
  unfold otherDevices Database.deleteDevices Table.delete
  rw [List.filter_filter]
  apply List.filter_congr
  intro device _
  by_cases hnode : device.nodeId = nodeId <;> simp [hnode]

theorem handleMessage_elsewhere {message : AgentMessage} {env : MessageEnv}
    (hhandle : handleMessage orgId nodeId message env db = .ok next) :
    SameElsewhere nodeId db next := by
  apply handleMessage_keeps (SameElsewhere nodeId db) _ _ _ _ (SameElsewhere.refl nodeId db) hhandle
  · intro env round state next _ hsame hround
    exact hsame.trans (upsertKnown_elsewhere hround)
  · intro keep state hsame
    exact hsame.trans deleteDevices_elsewhere
  · intro sample _ state next hsame happly
    exact hsame.trans (applySample_elsewhere happly)
  · intro set hset state _ hsame
    exact hsame.trans updateNodes_elsewhere

theorem connect_elsewhere {messages : List Delivery}
    (hconnect : connect orgId nodeId messages db = .ok final) : SameElsewhere nodeId db final :=
  replay_keeps (SameElsewhere nodeId db)
    (fun _ _ _ hsame hhandle => hsame.trans (handleMessage_elsewhere hhandle))
    (SameElsewhere.refl nodeId db) hconnect

/-! ## A stream whose values fit is handled to its end -/

/-- The values of the message fit their columns. -/
def AgentMessage.Fits : AgentMessage → Prop
  | .hello agentVersion host =>
      ∀ check ∈ ({ hostColumns host with agentVersion := agentVersion } : HostColumns).checks,
        check = none
  | .inventory reported => ∀ device ∈ knownDevices reported,
      (∀ check ∈ device.2.checks, check = none) ∧ textError device.1 = none
  | .samples batch => ∀ sample ∈ batch, ∃ date, sampledAt sample = some date ∧
      (∀ check ∈ LastSample.checks (sampleColumns sample date), check = none) ∧
        textError sample.localId = none

/-- The ids that `gen_random_uuid()` draws for a message. -/
def drawnIds (message : Delivery) : List Uuid :=
  match message.1 with
  | .inventory reported => (List.range (knownDevices reported).length).map message.2.newId
  | _ => []

/-- None of the ids is in use, and none is drawn twice. -/
def FreshIds (db : Database) (ids : List Uuid) : Prop :=
  ids.Nodup ∧ ∀ id ∈ ids, id ∉ db.devices.rows.map Device.id

/-- The node that the stream was authenticated for. -/
def HasNode (orgId : String) (nodeId : Uuid) (db : Database) : Prop :=
  ∃ node ∈ db.nodes.rows, node.id = nodeId ∧ node.orgId = orgId

theorem HasNode.of_nodes (hnode : HasNode orgId nodeId db) (hsame : next.nodes = db.nodes) :
    HasNode orgId nodeId next := by
  obtain ⟨node, hmem, hid, horg⟩ := hnode
  exact ⟨node, by rw [hsame]; exact hmem, hid, horg⟩

theorem HasNode.updateNodes (hnode : HasNode orgId nodeId db) {sel : Node → Bool}
    {set : Node → Node} {hset : ∀ node, (set node).identity = node.identity} :
    HasNode orgId nodeId (db.updateNodes sel set hset) := by
  obtain ⟨node, hmem, hid, horg⟩ := hnode
  refine ⟨Table.rewrite sel set node, mem_updateNodes.2 ⟨node, hmem, rfl⟩, ?_, ?_⟩
  · rw [Table.rewrite_same Node.id fun node => Node.id_eq (hset node), hid]
  · rw [Table.rewrite_same Node.orgId fun node => Node.orgId_eq (hset node), horg]

theorem HasNode.handleMessage {message : AgentMessage} {env : MessageEnv}
    (hnode : HasNode orgId nodeId db)
    (hhandle : handleMessage orgId nodeId message env db = .ok next) :
    HasNode orgId nodeId next := by
  apply handleMessage_keeps (HasNode orgId nodeId) _ _ _ _ hnode hhandle
  · intro env round state next _ hnode hround
    exact hnode.of_nodes (upsertDevice_cases (upsertKnown_ok hround)).2.1
  · intro keep state hnode
    exact hnode.of_nodes rfl
  · intro sample _ state next hnode happly
    exact hnode.of_nodes (applySample_nodes happly)
  · intro set hset state _ hnode
    exact hnode.updateNodes

theorem HasNode.org_mem (hnode : HasNode orgId nodeId db) :
    orgId ∈ db.organizations.rows.map Organization.id ∧ textError orgId = none := by
  obtain ⟨node, hmem, -, rfl⟩ := hnode
  have horg := db.nodes_org node hmem
  obtain ⟨organization, horganization, hid⟩ := List.mem_map.1 horg
  exact ⟨horg, hid ▸ db.organizations_text organization horganization⟩

theorem upsertKnown_ids {env : MessageEnv} {round : (String × DeviceFacts) × ℕ}
    (hround : upsertKnown orgId nodeId env round db = .ok next) :
    ∀ id ∈ next.devices.rows.map Device.id,
      id ∈ db.devices.rows.map Device.id ∨ id = env.newId round.2 := by
  intro id hid
  obtain ⟨-, -, -, -, ⟨-, hrows⟩ | ⟨-, hrows⟩⟩ := upsertDevice_cases (upsertKnown_ok hround)
  · rw [hrows, List.map_map, List.mem_map] at hid
    obtain ⟨old, hold, rfl⟩ := hid
    refine Or.inl (List.mem_map.2 ⟨old, hold, ?_⟩)
    exact (Table.rewrite_same Device.id
      (fun row => Device.id_eq (setFacts_identity _ row)) old).symm
  · rw [hrows, List.map_append, List.mem_append] at hid
    rcases hid with hold | hnew
    · exact Or.inl hold
    · exact Or.inr (List.mem_singleton.1 hnew)

theorem upserts_ids {env : MessageEnv} {rounds : List ((String × DeviceFacts) × ℕ)}
    (hreplay : replay (upsertKnown orgId nodeId env) rounds db = .ok next) :
    ∀ id ∈ next.devices.rows.map Device.id,
      id ∈ db.devices.rows.map Device.id ∨ id ∈ rounds.map fun round => env.newId round.2 := by
  induction rounds generalizing db with
  | nil =>
      cases hreplay
      exact fun id hid => Or.inl hid
  | cons round rest ih =>
      obtain ⟨middle, hround, hrest⟩ := replay_cons.1 hreplay
      intro id hid
      rcases ih hrest id hid with hold | hdrawn
      · rcases upsertKnown_ids hround id hold with hbefore | rfl
        · exact Or.inl hbefore
        · exact Or.inr List.mem_cons_self
      · exact Or.inr (List.mem_cons_of_mem _ hdrawn)

/-- The rounds of the loop draw the ids in turn. -/
theorem drawnIds_inventory (reported : List DeviceReport) (env : MessageEnv) :
    ((knownDevices reported).zipIdx.map fun round => env.newId round.2) =
      drawnIds (.inventory reported, env) := by
  have hrange := List.zipIdx_map_snd 0 (knownDevices reported)
  rw [← List.range_eq_range'] at hrange
  simp only [drawnIds]
  rw [← hrange, List.map_map]
  rfl

/-- What the upserts still to come need. -/
structure UpsertsReady (orgId : String) (nodeId : Uuid) (env : MessageEnv) (db : Database)
    (rounds : List ((String × DeviceFacts) × ℕ)) : Prop where
  node : HasNode orgId nodeId db
  own : OwnDevices orgId nodeId db
  fits : ∀ round ∈ rounds, (∀ check ∈ round.1.2.checks, check = none) ∧ textError round.1.1 = none
  fresh : FreshIds db (rounds.map fun round => env.newId round.2)

theorem upsertKnown_succeeds {env : MessageEnv} {round : (String × DeviceFacts) × ℕ}
    {rest : List ((String × DeviceFacts) × ℕ)}
    (hready : UpsertsReady orgId nodeId env db (round :: rest)) :
    ∃ next, upsertKnown orgId nodeId env round db = .ok next ∧
      UpsertsReady orgId nodeId env next rest := by
  obtain ⟨hfacts, hlocal⟩ := hready.fits round List.mem_cons_self
  obtain ⟨horg, htext⟩ := hready.node.org_mem
  have hnodup := hready.fresh.1
  rw [List.map_cons, List.nodup_cons] at hnodup
  obtain ⟨node, hnode, hid, -⟩ := hready.node
  obtain ⟨next, hupsert⟩ := @upsertDevice_succeeds db orgId
    (proposedDevice orgId nodeId round.1 (env.newId round.2) env.createdAt)
    (by
      intro check hcheck
      rcases List.mem_append.1 hcheck with hcheck | hcheck
      · rcases List.mem_pair.1 hcheck with rfl | rfl
        · exact htext
        · exact hlocal
      · exact hfacts check hcheck)
    rfl
    (by
      intro old hold hplace
      exact hready.own old hold (congrArg Prod.fst hplace))
    (hready.fresh.2 _ List.mem_cons_self) horg (List.mem_map.2 ⟨node, hnode, hid⟩)
  have hround : upsertKnown orgId nodeId env round db = .ok next := by
    unfold upsertKnown
    rw [hupsert]
  refine ⟨next, hround, hready.node.of_nodes (upsertDevice_cases hupsert).2.1,
    own_upsertKnown hready.own hround,
    fun other hother => hready.fits other (List.mem_cons_of_mem _ hother), hnodup.2, ?_⟩
  intro id hid hused
  rcases upsertKnown_ids hround id hused with hold | rfl
  · exact hready.fresh.2 id (List.mem_cons_of_mem _ hid) hold
  · exact hnodup.1 hid

theorem applySample_succeeds {sample : DeviceSample}
    (hfits : ∃ date, sampledAt sample = some date ∧
      (∀ check ∈ LastSample.checks (sampleColumns sample date), check = none) ∧
        textError sample.localId = none) :
    ∃ next, applySample orgId nodeId sample db = .ok next := by
  obtain ⟨date, hdate, hchecks, htext⟩ := hfits
  refine ⟨_, applySample_eq_ok.2 ⟨date, hdate, firstError_eq_none.2 fun check hcheck => ?_, rfl⟩⟩
  rcases List.mem_append.1 hcheck with hcheck | hcheck
  · exact hchecks check hcheck
  · rw [List.mem_singleton.1 hcheck]
    exact htext

/-- What the messages still to come need. -/
structure StreamReady (orgId : String) (nodeId : Uuid) (db : Database)
    (messages : List Delivery) : Prop where
  node : HasNode orgId nodeId db
  own : OwnDevices orgId nodeId db
  fits : ∀ message ∈ messages, message.1.Fits
  fresh : FreshIds db (messages.flatMap drawnIds)

/-- The ids in the table after a message were there before or were drawn for it. -/
theorem handleMessage_ids {message : AgentMessage} {env : MessageEnv}
    (hhandle : handleMessage orgId nodeId message env db = .ok next) :
    ∀ id ∈ next.devices.rows.map Device.id,
      id ∈ db.devices.rows.map Device.id ∨ id ∈ drawnIds (message, env) := by
  cases message with
  | hello agentVersion host =>
      intro id hid
      rw [markNodeOnline_devices hhandle] at hid
      exact Or.inl hid
  | inventory reported =>
      obtain ⟨middle, hupserts, rfl⟩ := recordInventory_eq_ok.1 hhandle
      have hmiddle := upserts_ids hupserts
      rw [drawnIds_inventory] at hmiddle
      intro id hid
      obtain ⟨device, hdevice, rfl⟩ := List.mem_map.1 hid
      exact hmiddle device.id (List.mem_map_of_mem (Table.mem_delete.1 hdevice).1)
  | samples samples =>
      obtain ⟨middle, hsamples, rfl⟩ := recordSamples_eq_ok.1 hhandle
      have hsame : middle.devices.rows.map Device.id = db.devices.rows.map Device.id := by
        refine replay_keeps
          (fun state => state.devices.rows.map Device.id = db.devices.rows.map Device.id)
          (fun sample state following hsame happly => ?_) rfl hsamples
        obtain ⟨date, -, -, rfl⟩ := applySample_eq_ok.1 happly
        rw [← hsame]
        unfold Database.updateDevices Table.update
        rw [List.map_map]
        apply List.map_congr_left
        intro device _
        exact Table.rewrite_same Device.id
          (fun row => Device.id_eq (setLast_identity _ row)) device
      intro id hid
      exact Or.inl (hsame ▸ hid)

theorem handleMessage_succeeds {message : Delivery} {rest : List Delivery}
    (hready : StreamReady orgId nodeId db (message :: rest)) :
    ∃ next, handleMessage orgId nodeId message.1 message.2 db = .ok next := by
  obtain ⟨payload, env⟩ := message
  have hfits : payload.Fits := hready.fits _ List.mem_cons_self
  cases payload with
  | hello agentVersion host =>
      simp only [handleMessage, markNodeOnline]
      rw [firstError_eq_none.2 hfits]
      exact ⟨_, rfl⟩
  | inventory reported =>
      have hknown : ∀ device ∈ knownDevices reported,
          (∀ check ∈ device.2.checks, check = none) ∧ textError device.1 = none := hfits
      have hstart : UpsertsReady orgId nodeId env db (knownDevices reported).zipIdx := by
        refine ⟨hready.node, hready.own, fun round hround => ?_, ?_⟩
        · exact hknown round.1 (List.fst_mem_of_mem_zipIdx hround)
        · rw [drawnIds_inventory]
          obtain ⟨hnodup, hunused⟩ := hready.fresh
          rw [List.flatMap_cons, List.nodup_append'] at hnodup
          refine ⟨hnodup.1, fun id hid => hunused id ?_⟩
          rw [List.flatMap_cons]
          exact List.mem_append_left _ hid
      obtain ⟨middle, hupserts, -⟩ := replay_succeeds
        (UpsertsReady orgId nodeId env) (fun _ _ _ hready => upsertKnown_succeeds hready) hstart
      simp only [handleMessage, recordInventory]
      rw [hupserts]
      exact ⟨_, rfl⟩
  | samples batch =>
      have hbatch : ∀ sample ∈ batch, ∃ date, sampledAt sample = some date ∧
          (∀ check ∈ LastSample.checks (sampleColumns sample date), check = none) ∧
            textError sample.localId = none := hfits
      obtain ⟨middle, hsamples, -⟩ := @replay_succeeds _ _ _ (applySample orgId nodeId)
        (fun _ rest => ∀ sample ∈ rest, ∃ date, sampledAt sample = some date ∧
          (∀ check ∈ LastSample.checks (sampleColumns sample date), check = none) ∧
            textError sample.localId = none)
        (fun sample rest state hstate => by
          obtain ⟨next, happly⟩ := applySample_succeeds (hstate sample List.mem_cons_self)
          exact ⟨next, happly, fun other hother => hstate other (List.mem_cons_of_mem _ hother)⟩)
        batch db hbatch
      simp only [handleMessage, recordSamples]
      rw [hsamples]
      exact ⟨_, rfl⟩

/-- Once a message is handled, the rest of the stream finds what it needs. -/
theorem StreamReady.handleMessage {message : Delivery} {rest : List Delivery}
    (hready : StreamReady orgId nodeId db (message :: rest))
    (hhandle : handleMessage orgId nodeId message.1 message.2 db = .ok next) :
    StreamReady orgId nodeId next rest := by
  obtain ⟨hnodup, hunused⟩ := hready.fresh
  rw [List.flatMap_cons, List.nodup_append'] at hnodup
  refine ⟨hready.node.handleMessage hhandle, own_handleMessage hready.own hhandle,
    fun other hother => hready.fits other (List.mem_cons_of_mem _ hother), hnodup.2.1, ?_⟩
  intro id hid hused
  rcases handleMessage_ids hhandle id hused with hold | hdrawn
  · refine hunused id ?_ hold
    rw [List.flatMap_cons]
    exact List.mem_append_right _ hid
  · exact hnodup.2.2 hdrawn hid

theorem connect_succeeds {messages : List Delivery}
    (hready : StreamReady orgId nodeId db messages) :
    ∃ final, connect orgId nodeId messages db = .ok final := by
  obtain ⟨final, hfinal, -⟩ := replay_succeeds
    (fun db messages => StreamReady orgId nodeId db messages)
    (fun _ _ _ hready => by
      obtain ⟨next, hhandle⟩ := handleMessage_succeeds hready
      exact ⟨next, hhandle, hready.handleMessage hhandle⟩) hready
  exact ⟨final, hfinal⟩

/-! ## The state after a stream -/

/-- `final` is what replaying the messages on `db` comes to. -/
structure Replayed (orgId : String) (nodeId : Uuid) (db : Database) (messages : List Delivery)
    (final : Database) : Prop where
  /-- The local ids are those of the known devices of the last inventory. -/
  places : ∀ before reported env since, messages = before ++ (.inventory reported, env) :: since →
    (∀ message ∈ since, message.1.isInventory = false) → ∀ localId,
      (∃ row ∈ final.devices.rows, row.nodeId = nodeId ∧ row.localId = localId) ↔
        localId ∈ (knownDevices reported).map Prod.fst
  /-- The static facts are those of the last known entry of that inventory. -/
  facts : ∀ before reported env since, messages = before ++ (.inventory reported, env) :: since →
    (∀ message ∈ since, message.1.isInventory = false) →
      ∀ row ∈ final.devices.rows, row.nodeId = nodeId →
        lastFacts row.localId (knownDevices reported) = some row.facts
  /-- The dynamic columns are those of the last sample since the row was created. -/
  last : ∀ row ∈ final.devices.rows, row.nodeId = nodeId →
    (∃ before message since absent created, messages = before ++ message :: since ∧
      connect orgId nodeId before db = .ok absent ∧ rowOf absent nodeId row.localId = none ∧
      handleMessage orgId nodeId message.1 message.2 absent = .ok created ∧
      PresentThroughout orgId nodeId row.localId created since ∧
      row.last = (reportsOf row.localId since).getLast?.getD .default) ∨
    ∃ first, rowOf db nodeId row.localId = some first ∧
      PresentThroughout orgId nodeId row.localId db messages ∧
      row.last = (reportsOf row.localId messages).getLast?.getD first.last
  /-- A row that every inventory reports stays the same row. -/
  same : ∀ first ∈ db.devices.rows, first.nodeId = nodeId →
    (∀ reported env, (AgentMessage.inventory reported, env) ∈ messages →
      first.localId ∈ (knownDevices reported).map Prod.fst) →
    ∃ row ∈ final.devices.rows, row.nodeId = nodeId ∧ row.localId = first.localId ∧
      row.id = first.id ∧ row.interactive = first.interactive ∧ row.createdAt = first.createdAt
  elsewhere : SameElsewhere nodeId db final

/-- What a stream leaves can be read off its last inventory and its samples, and a
stream whose values fit is handled to its end.  The upserts write the organization of
the node into every row of it, so its rows are its own to begin with. -/
theorem connect_replays {orgId : String} {nodeId : Uuid} {db : Database} {messages : List Delivery}
    (hown : OwnDevices orgId nodeId db) :
    (∀ final, connect orgId nodeId messages db = .ok final →
      Replayed orgId nodeId db messages final) ∧
    (StreamReady orgId nodeId db messages →
      ∃ final, connect orgId nodeId messages db = .ok final) := by
  refine ⟨fun final hfinal => ?_, connect_succeeds⟩
  have hfacts : ∀ before reported env since,
      messages = before ++ (.inventory reported, env) :: since →
      (∀ message ∈ since, message.1.isInventory = false) → ∀ localId,
      (rowOf final nodeId localId).map Device.facts = lastFacts localId (knownDevices reported) := by
    intro before reported env since hsplit hlast localId
    rw [hsplit] at hfinal
    exact connect_inventory hown hlast hfinal localId
  refine ⟨?_, ?_, ?_, ?_, connect_elsewhere hfinal⟩
  · intro before reported env since hsplit hlast localId
    rw [← lastFacts_isSome, ← hfacts before reported env since hsplit hlast localId,
      Option.isSome_map, Option.isSome_iff_exists]
    apply exists_congr
    intro row
    exact rowOf_eq_some.symm
  · intro before reported env since hsplit hlast row hmem hnode
    rw [← hfacts before reported env since hsplit hlast row.localId,
      rowOf_eq_some.2 ⟨hmem, hnode, rfl⟩]
    rfl
  · intro row hmem hnode
    exact connect_last hown hfinal (rowOf_eq_some.2 ⟨hmem, hnode, rfl⟩)
  · intro first hmem hnode hknown
    obtain ⟨row, hrow, hsame⟩ :=
      connect_identity hown hknown (rowOf_eq_some.2 ⟨hmem, hnode, rfl⟩) hfinal
    obtain ⟨hmem', hnode', hlocal⟩ := rowOf_eq_some.1 hrow
    exact ⟨row, hmem', hnode', hlocal, hsame⟩

/-! ## An entry of an unknown kind after a known one -/

/-- An organization with one node. -/
def sampleRack : Database :=
  match Database.empty.insertOrganization ⟨"org_1", "Fleet", "fleet"⟩ with
  | .error _ => .empty
  | .ok db =>
      match db.insertNode "org_1"
        { id := 5, orgId := "org_1", name := "node", status := .online, host := hostColumns none
          publicKey := List.replicate 32 7, lastSeenAt := some 0, createdAt := 0 } with
      | .error _ => .empty
      | .ok db => db

/-- The card is reported twice, the second time with a kind this build doesn't know. -/
def sampleReport : List DeviceReport :=
  [⟨"GPU-1", 2, 0, "A", 1024, "550", "8.9", 0⟩, ⟨"GPU-1", 0, 0, "B", 2048, "550", "8.9", 0⟩]

/-- The report, and a sample of the card. -/
def sampleStream : List Delivery :=
  [(.inventory sampleReport, ⟨1000, 1000, fun place => BitVec.ofNat 128 (place + 9)⟩),
    (.samples [⟨"GPU-1", 512, 0, 0, 0, 1500⟩], ⟨1600, 1600, fun _ => 0⟩)]

theorem sampleStream_ready : StreamReady "org_1" 5 sampleRack sampleStream := by
  have hempty : sampleRack.devices.rows = [] := by decide +kernel
  refine ⟨by unfold HasNode; decide +kernel, ?_, ?_, by decide +kernel, ?_⟩
  · intro device hmem
    rw [hempty] at hmem
    cases hmem
  · intro message hmem
    rcases List.mem_pair.1 hmem with rfl | rfl
    · show ∀ device ∈ knownDevices sampleReport, _
      decide +kernel
    · intro sample hsample
      rw [List.mem_singleton.1 hsample]
      exact ⟨1500, by decide +kernel, by decide +kernel, by decide +kernel⟩
  · intro id _ hused
    rw [hempty] at hused
    cases hused

theorem connect_replays_sample :
    ∃ final, connect "org_1" 5 sampleStream sampleRack = .ok final ∧
      Replayed "org_1" 5 sampleRack sampleStream final ∧
      final.devices.rows.map (fun row => (row.localId, row.facts.name, row.last.lastSampleAt)) =
        [("GPU-1", "A", some 1500)] := by
  obtain ⟨hreplays, hsucceeds⟩ := @connect_replays _ _ _ sampleStream sampleStream_ready.own
  obtain ⟨final, hfinal⟩ := hsucceeds sampleStream_ready
  have hrows : ((connect "org_1" 5 sampleStream sampleRack).toOption.map fun final =>
      final.devices.rows.map fun row => (row.localId, row.facts.name, row.last.lastSampleAt)) =
        some [("GPU-1", "A", some 1500)] := by
    decide +kernel
  rw [hfinal] at hrows
  exact ⟨final, hfinal, hreplays final hfinal, Option.some.inj hrows⟩

/-- The row does not have the facts of the last entry with its local id, whatever
the kind: the skipped entry comes later than the stored one. -/
theorem lastEntry_not_stored :
    ¬ ∀ orgId nodeId db before reported env since final,
      StreamReady orgId nodeId db (before ++ (.inventory reported, env) :: since) →
      (∀ message ∈ since, message.1.isInventory = false) →
      connect orgId nodeId (before ++ (.inventory reported, env) :: since) db = .ok final →
      ∀ row ∈ final.devices.rows, row.nodeId = nodeId →
      ∀ entry, (reported.filter fun device => device.localId = row.localId).getLast? = some entry →
        row.facts.name = entry.name := by
  intro hclaim
  obtain ⟨final, hfinal⟩ := connect_succeeds sampleStream_ready
  have hrows : ((connect "org_1" 5 sampleStream sampleRack).toOption.bind fun final =>
      final.devices.rows.head?).map (fun row => (row.nodeId, row.localId, row.facts.name)) =
        some (5, "GPU-1", "A") := by
    decide +kernel
  rw [hfinal] at hrows
  obtain ⟨row, hrow, hcolumns⟩ := Option.map_eq_some_iff.1 hrows
  obtain ⟨hnode, hlocal, hname⟩ : row.nodeId = 5 ∧ row.localId = "GPU-1" ∧ row.facts.name = "A" := by
    simpa only [Prod.mk.injEq] using hcolumns
  have hfinal' := hclaim "org_1" 5 sampleRack [] sampleReport _ _ final sampleStream_ready
    (by decide) hfinal row (List.mem_of_head? hrow) hnode ⟨"GPU-1", 0, 0, "B", 2048, "550", "8.9", 0⟩
    (by rw [hlocal]; decide)
  rw [hname] at hfinal'
  exact absurd hfinal' (by decide)

end ModelHub.ControlPlane
