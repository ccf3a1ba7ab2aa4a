import ModelHub.ControlPlane.AgentLinks
import Mathlib.Data.List.Induction

/-!
# Where the rows of a node come from

A device row was brought by an inventory, and its reading by a batch of samples
(`FleetSpec.Explained`).  Where only links name the node, these messages are ones that a
link has sent (`told_link`), and what a link has sent is `connectOnce` for what it has
met: an inventory names what the probes discovered, and a batch has what they returned
when they were asked.  `rows_from_probes` puts the two together.
-/

namespace ModelHub.ControlPlane

open Db Interleaving Transition
open ModelHub.Agent (Inventory collect connectOnce connectOnce_collected deviceProto devicesProto
  sampleProto sampleTick samplesProto)

variable {KeyObject Probe : Type} {version : String} {config : ServerEnv KeyObject}
  {start : AuthStore} {labels : List (LinkLabel Probe)} {state next final : LinkState Probe}
  {nodeId : Uuid}

/-- The header of the link names the node. -/
def Link.Names (nodeId : Uuid) (link : Link Probe) : Prop :=
  ∃ read, readHeader (some link.header) = .ok read ∧ read.id = nodeId

/-! ## Messages of links -/

/-- The server's part of a run is a run of the server. -/
theorem server_run (hrun : (linkSystem version config).run state labels = some final) :
    (serverService config).system.run state.server (labels.filterMap LinkLabel.serverLabel) =
      some final.server := by
  induction labels generalizing state with
  | nil =>
      obtain rfl := Option.some.inj hrun
      rfl
  | cons label rest ih =>
      obtain ⟨next, hstep, hrest⟩ := System.run_cons.1 hrun
      rcases label with ⟨call, header⟩ | ⟨call, event⟩ | label
      · obtain ⟨server, hserver, rfl⟩ := Option.map_eq_some_iff.1 hstep
        exact System.run_cons.2 ⟨server, hserver, ih hrest⟩
      · simp only [linkSystem, linkStep] at hstep
        split at hstep
        case isTrue =>
          obtain ⟨link, -, hevent⟩ := Option.bind_eq_some_iff.1 hstep
          obtain ⟨link', -, rfl⟩ := Option.map_eq_some_iff.1 hevent
          have hsame := ih hrest
          exact hsame
        case isFalse => exact absurd hstep (by simp)
      · obtain ⟨links, -, hserverStep⟩ := Option.bind_eq_some_iff.1 hstep
        obtain ⟨server, hserver, rfl⟩ := Option.map_eq_some_iff.1 hserverStep
        exact System.run_cons.2 ⟨server, hserver, ih hrest⟩

/-- A link later: it has the same header, and what was sent and read stays sent and read. -/
structure Link.Grows (link link' : Link Probe) : Prop where
  header : link'.header = link.header
  sent : link.sent <+: link'.sent
  read : link.read ≤ link'.read

theorem Link.Grows.refl (link : Link Probe) : link.Grows link := ⟨rfl, List.prefix_rfl, le_rfl⟩

theorem Link.Grows.trans {link middle link' : Link Probe} (hfirst : link.Grows middle)
    (hsecond : middle.Grows link') : link.Grows link' :=
  ⟨hsecond.header.trans hfirst.header, hfirst.sent.trans hsecond.sent, hfirst.read.trans hsecond.read⟩

theorem Link.Grows.names {link link' : Link Probe} (hgrows : link.Grows link')
    (hnames : link.Names nodeId) : link'.Names nodeId := by
  rwa [Link.Names, hgrows.header]

theorem links_grow {other : Option String → Prop} {label : LinkLabel Probe} {call : ℕ} {link : Link Probe}
    (hlinked : Linked version config other state)
    (hstep : (linkSystem version config).step state label = some next)
    (hlink : state.links call = some link) : ∃ link', next.links call = some link' ∧ link.Grows link' := by
  rcases label with ⟨dialed, header⟩ | ⟨moved, event⟩ | label
  · obtain ⟨server, hserver, rfl⟩ := Option.map_eq_some_iff.1 hstep
    obtain ⟨frame, hframe, -⟩ := hlinked.served call link hlink
    have hne : call ≠ dialed := by
      rintro rfl
      rcases Service.step_cases hserver with ⟨_, _, heq, -, hnone, -⟩ | ⟨_, _, _, _, _, heq, -⟩ |
        ⟨_, _, heq, -⟩
      · rw [← (Label.start.inj heq).1, hframe] at hnone
        exact absurd hnone (by simp)
      · exact absurd heq (by simp)
      · exact absurd heq (by simp)
    exact ⟨link, (Function.update_of_ne hne _ _).trans hlink, .refl link⟩
  · simp only [linkSystem, linkStep] at hstep
    split at hstep
    case isTrue =>
      obtain ⟨old, hold, hevent⟩ := Option.bind_eq_some_iff.1 hstep
      obtain ⟨new, hnew, rfl⟩ := Option.map_eq_some_iff.1 hevent
      obtain ⟨hheader, hsent, hread⟩ := Link.step_keeps hnew
      by_cases heq : call = moved
      · subst heq
        obtain rfl := Option.some.inj (hold.symm.trans hlink)
        exact ⟨new, Function.update_self _ _ _, hheader, hsent, hread.ge⟩
      · exact ⟨link, (Function.update_of_ne heq _ _).trans hlink, .refl link⟩
    case isFalse => exact absurd hstep (by simp)
  · obtain ⟨links, hread, hserverStep⟩ := Option.bind_eq_some_iff.1 hstep
    obtain ⟨server, -, rfl⟩ := Option.map_eq_some_iff.1 hserverStep
    have hsome : links call ≠ none := by
      rw [ne_eq, readLinks_none hread, hlink]
      simp
    obtain ⟨link', hlink'⟩ := Option.ne_none_iff_exists'.1 hsome
    rcases readLinks_cases hread hlink' with hbefore | ⟨old, env, message, hbefore, -, -, rfl⟩
    · obtain rfl := Option.some.inj (hbefore.symm.trans hlink)
      exact ⟨_, hlink', .refl _⟩
    · obtain rfl := Option.some.inj (hbefore.symm.trans hlink)
      exact ⟨_, hlink', rfl, List.prefix_rfl, Nat.le_succ _⟩

/-- Only the handling of a message is a report. -/
theorem told_labelChanges {server : ServerState} {label : ServerLabel} {report : FleetReport}
    (htold : .told nodeId report ∈ labelChanges config server label) :
    ∃ call message env header read orgId, label = .advance call (.message message env) ∧
      server.frames call = some (.stream ⟨header, .returned read orgId⟩) ∧ read.id = nodeId ∧
      report = reportOf message env.now := by
  rcases label with ⟨call, frame⟩ | ⟨call, step⟩ | event
  · exact absurd htold List.not_mem_nil
  · simp only [labelChanges] at htold
    split at htold
    case h_2 => exact absurd htold List.not_mem_nil
    case h_1 frame hframe =>
      rcases frame with frame | ⟨header, pc⟩ | how
      · simp only [stepChanges] at htold
        split at htold
        case h_1 env =>
          split at htold
          case h_1 next _ =>
            unfold joined at htold
            split at htold
            case h_1 => exact absurd (List.mem_singleton.1 htold) (by simp)
            case h_2 => exact absurd htold List.not_mem_nil
          case h_2 => exact absurd htold List.not_mem_nil
        case h_2 => exact absurd htold List.not_mem_nil
      · simp only [stepChanges] at htold
        split at htold
        case h_1 read orgId message env =>
          split at htold
          case h_1 =>
            obtain ⟨rfl, rfl⟩ := FleetSpec.Change.told.inj (List.mem_singleton.1 htold)
            exact ⟨call, message, env, header, read, orgId, rfl, hframe, rfl, rfl⟩
          case h_2 => exact absurd htold List.not_mem_nil
        case h_2 => exact absurd htold List.not_mem_nil
      · exact absurd htold List.not_mem_nil
  · rcases event with _ | _ | _ | _ | _ <;> simp [labelChanges, eventChanges] at htold

/-- The stream that a header opens is not the node's. -/
def NotOf (nodeId : Uuid) (header : Option String) : Prop :=
  ∀ read, readHeader header = .ok read → read.id ≠ nodeId

/-- Where only links name the node, the message that a stream of the node handles is the next
one of its link. -/
theorem reads_step {call : ℕ} {message : AgentMessage} {env : MessageEnv} {header : Option String}
    {read : AuthHeader} {orgId : String} (hlinked : Linked version config (NotOf read.id) state)
    (hframe : state.server.frames call = some (.stream ⟨header, .returned read orgId⟩))
    (hstep : (linkSystem version config).step state (.server (.advance call (.message message env))) =
      some next) :
    ∃ link, state.links call = some link ∧ link.Names read.id ∧
      link.sent[link.read]? = some message ∧
      next.links call = some { link with read := link.read + 1 } := by
  have hread : readHeader header = .ok read := ((hlinked.holds.2 call _ hframe).2).1
  cases hlink : state.links call with
  | none => exact absurd rfl (hlinked.others call header _ hframe hlink read hread)
  | some link =>
      obtain ⟨links, hreads, hserver⟩ := Option.bind_eq_some_iff.1 hstep
      obtain ⟨server, -, rfl⟩ := Option.map_eq_some_iff.1 hserver
      simp only [readLinks, hlink] at hreads
      split at hreads
      case isFalse => exact absurd hreads (by simp)
      case isTrue hsent =>
        obtain rfl := Option.some.inj hreads
        refine ⟨link, rfl, ⟨read, ?_, rfl⟩, hsent, Function.update_self _ _ _⟩
        obtain ⟨frame, hserved, hserves⟩ := hlinked.served call link hlink
        obtain rfl : frame = _ := Option.some.inj (hserved.symm.trans hframe)
        rcases hserves.header with ⟨pc, heq⟩ | ⟨how, heq⟩
        · rw [← (AuthCall.mk.inj (ServerFrame.stream.inj heq)).1]
          exact hread
        · exact absurd heq (by simp)

/-- A link that names the node has sent the message behind the report. -/
def SentBy (state : LinkState Probe) (nodeId : Uuid) (report : FleetReport) : Prop :=
  ∃ call link message now, state.links call = some link ∧ link.Names nodeId ∧
    message ∈ link.sent ∧ report = reportOf message now

theorem told_step {label : LinkLabel Probe} {report : FleetReport}
    (hlinked : Linked version config (NotOf nodeId) state)
    (hstep : (linkSystem version config).step state label = some next)
    (htold : .told nodeId report ∈ (serverService config).system.trace (labelChanges config)
      state.server ([label].filterMap LinkLabel.serverLabel)) :
    SentBy state nodeId report := by
  have hserverLabel : ∃ server, label.serverLabel = some server ∧
      .told nodeId report ∈ labelChanges config state.server server := by
    cases hlabel : label.serverLabel with
    | none =>
        rw [List.filterMap_cons_none hlabel] at htold
        exact absurd htold List.not_mem_nil
    | some server =>
        rw [List.filterMap_cons_some hlabel, List.filterMap_nil, System.trace] at htold
        refine ⟨server, rfl, ?_⟩
        split at htold
        case h_1 => exact absurd htold List.not_mem_nil
        case h_2 => simpa [System.trace] using htold
  obtain ⟨server, hserver, htold⟩ := hserverLabel
  obtain ⟨call, message, env, header, read, orgId, rfl, hframe, hid, hreport⟩ :=
    told_labelChanges htold
  obtain rfl : label = .server (.advance call (.message message env)) := by
    rcases label with ⟨dialed, header'⟩ | ⟨moved, event⟩ | label
    · exact absurd (Option.some.inj hserver) (by simp)
    · exact absurd hserver (by simp [LinkLabel.serverLabel])
    · rw [Option.some.inj hserver]
  subst hid
  obtain ⟨link, hlink, hnames, hsent, -⟩ := reads_step hlinked hframe hstep
  exact ⟨call, link, message, env.now, hlink, hnames, List.mem_of_getElem? hsent, hreport⟩

/-- What the server was told of the node, a link that names it has sent. -/
theorem told_link (hempty : start.db.nodes.rows = [])
    (hothers : ∀ label ∈ labels, OthersMeet (NotOf nodeId) label)
    (hrun : (linkSystem version config).run (LinkState.start start) labels = some final)
    {report : FleetReport}
    (htold : .told nodeId report ∈
      fleetChanges config (State.idle start) (labels.filterMap LinkLabel.serverLabel)) :
    SentBy final nodeId report := by
  induction labels using List.reverseRecOn generalizing final with
  | nil => exact absurd htold List.not_mem_nil
  | append_singleton labels label ih =>
      obtain ⟨last, hlast, hstep⟩ := System.run_concat.1 hrun
      have hbefore : ∀ label ∈ labels, OthersMeet (NotOf nodeId) label :=
        fun label hlabel => hothers label (List.mem_append_left _ hlabel)
      have hlinked := linked_run hempty hbefore hlast
      have hserver : (serverService config).system.run (State.idle start)
          (labels.filterMap LinkLabel.serverLabel) = some last.server := server_run hlast
      rw [List.filterMap_append] at htold
      unfold fleetChanges at htold
      rw [System.trace_append hserver, List.mem_append] at htold
      have hsent : SentBy last nodeId report := by
        rcases htold with hold | hnew
        · exact ih hbefore hlast hold
        · exact told_step hlinked hstep hnew
      obtain ⟨call, link, message, now, hlink, hnames, hmessage, hreport⟩ := hsent
      obtain ⟨link', hlink', hgrows⟩ := links_grow hlinked hstep hlink
      exact ⟨call, link', message, now, hlink', hgrows.names hnames,
        hgrows.sent.subset hmessage, hreport⟩

/-! ## What the messages say -/

section Messages

variable {met : Agent.Connection Probe} {localId : String}

theorem mem_connectOnce {message : AgentMessage} (hsent : message ∈ connectOnce version met) :
    (∃ host, message = .hello version (some host)) ∨
    ∃ inv, collect met.discoveries = .ok inv ∧ (message = .inventory (devicesProto inv.devices) ∨
      ∃ sample ∈ met.ticks, message = .samples (samplesProto (inv.sampleAll sample))) := by
  unfold connectOnce at hsent
  split at hsent
  case h_1 => exact absurd hsent List.not_mem_nil
  case h_2 host _ =>
    rcases List.mem_cons.1 hsent with rfl | hrest
    · exact Or.inl ⟨_, rfl⟩
    · right
      split at hrest
      case isFalse => exact absurd hrest List.not_mem_nil
      case isTrue =>
        split at hrest
        case h_1 => exact absurd hrest List.not_mem_nil
        case h_2 inv hcollect =>
          refine ⟨inv, hcollect, ?_⟩
          rcases List.mem_cons.1 hrest with rfl | htick
          · exact Or.inl rfl
          · obtain ⟨sample, hsample, hmem⟩ := List.mem_flatMap.1 htick
            simp only [sampleTick] at hmem
            split at hmem
            · exact absurd hmem List.not_mem_nil
            · exact Or.inr ⟨sample, hsample, List.mem_singleton.1 hmem⟩

/-- The facts that an inventory names are those of a device in it. -/
theorem lastFacts_devicesProto {devices : List Agent.Device} {facts : DeviceFacts}
    (hnamed : lastFacts localId (knownDevices (devicesProto devices)) = some facts) :
    ∃ device ∈ devices, knownDevices [deviceProto device] = [(localId, facts)] := by
  obtain ⟨⟨localId', facts'⟩, hlast, rfl⟩ := Option.map_eq_some_iff.1 hnamed
  obtain ⟨hmem, hlocal⟩ := List.mem_filter.1 (List.mem_of_getLast? hlast)
  obtain rfl : localId' = localId := by simpa using hlocal
  obtain ⟨report, hreport, hknown⟩ := List.mem_filterMap.1 hmem
  obtain ⟨device, hdevice, rfl⟩ := List.mem_map.1 hreport
  refine ⟨device, hdevice, ?_⟩
  rw [knownDevices, List.filterMap_cons_some hknown, List.filterMap_nil]

/-- The reading that a batch leaves is one that a probe returned when it was asked. -/
theorem sampleReports_samplesProto {inv : Inventory Probe} {sample : Inventory.Sampler Probe}
    {reading : LastSample}
    (hreading : reading ∈ sampleReports localId (.samples (samplesProto (inv.sampleAll sample)))) :
    ∃ asked ∈ inv.calls, ∃ s, sample asked.1 asked.2 = .ok s ∧
      reading ∈ sampleReports localId (.samples [sampleProto s]) := by
  obtain ⟨report, hreport, hcolumns⟩ := List.mem_filterMap.1 hreading
  obtain ⟨s, hs, rfl⟩ := List.mem_map.1 hreport
  rw [Inventory.sampleAll_eq] at hs
  obtain ⟨asked, hasked, hsampled⟩ := List.mem_filterMap.1 hs
  refine ⟨asked, hasked, s, toOption_eq_some hsampled, ?_⟩
  exact List.mem_filterMap.2 ⟨_, List.mem_singleton_self _, hcolumns⟩

end Messages

/-! ## From the probes to the rows -/

/-- A probe has discovered a device with these facts, on a connection that names the
node. -/
def Discovered (state : LinkState Probe) (nodeId : Uuid) (localId : String) (facts : DeviceFacts) :
    Prop :=
  ∃ call link inv device, state.links call = some link ∧ link.Names nodeId ∧
    collect link.met.discoveries = .ok inv ∧ device ∈ inv.devices ∧
    knownDevices [deviceProto device] = [(localId, facts)]

/-- The owner of a device has returned the reading for it, at a tick of such a connection. -/
def Measured (state : LinkState Probe) (nodeId : Uuid) (localId : String) (reading : LastSample) :
    Prop :=
  ∃ call link inv, state.links call = some link ∧ link.Names nodeId ∧
    collect link.met.discoveries = .ok inv ∧ ∃ sample ∈ link.met.ticks, ∃ asked ∈ inv.calls, ∃ s,
      sample asked.1 asked.2 = .ok s ∧ reading ∈ sampleReports localId (.samples [sampleProto s])

theorem SentBy.discovered (hlinked : Linked version config (NotOf nodeId) state)
    {named : String → Option DeviceFacts} (hsent : SentBy state nodeId (.inventory named))
    {localId : String} {facts : DeviceFacts} (hnamed : named localId = some facts) :
    Discovered state nodeId localId facts := by
  obtain ⟨call, link, message, now, hlink, hnames, hmessage, hreport⟩ := hsent
  rw [(hlinked.sound call link hlink).sent] at hmessage
  rcases mem_connectOnce hmessage with ⟨host, rfl⟩ | ⟨inv, hcollect, rfl | ⟨sample, -, rfl⟩⟩
  · exact absurd hreport (by simp [reportOf])
  · rw [FleetSpec.Report.inventory.inj hreport] at hnamed
    obtain ⟨device, hdevice, hknown⟩ := lastFacts_devicesProto hnamed
    exact ⟨call, link, inv, device, hlink, hnames, hcollect, hdevice, hknown⟩
  · exact absurd hreport (by simp [reportOf])

theorem SentBy.measured (hlinked : Linked version config (NotOf nodeId) state)
    {readings : String → Option LastSample} {now : Time}
    (hsent : SentBy state nodeId (.samples readings now)) {localId : String} {reading : LastSample}
    (hreading : readings localId = some reading) : Measured state nodeId localId reading := by
  obtain ⟨call, link, message, now', hlink, hnames, hmessage, hreport⟩ := hsent
  rw [(hlinked.sound call link hlink).sent] at hmessage
  rcases mem_connectOnce hmessage with ⟨host, rfl⟩ | ⟨inv, hcollect, rfl | ⟨sample, hsample, rfl⟩⟩
  · exact absurd hreport (by simp [reportOf])
  · exact absurd hreport (by simp [reportOf])
  · rw [(FleetSpec.Report.samples.inj hreport).1] at hreading
    obtain ⟨asked, hasked, s, hs, hcolumns⟩ :=
      sampleReports_samplesProto (List.mem_of_getLast? hreading)
    exact ⟨call, link, inv, hlink, hnames, hcollect, sample, hsample, asked, hasked, s, hs, hcolumns⟩

theorem mem_reportsOf {changes : List FleetChange} {report : FleetReport}
    (hreport : report ∈ FleetSpec.reportsOf nodeId changes) : .told nodeId report ∈ changes := by
  obtain ⟨change, hchange, hsome⟩ := List.mem_filterMap.1 hreport
  split at hsome
  case h_1 id told =>
    split at hsome
    case isTrue heq =>
      obtain rfl := Option.some.inj hsome
      rwa [heq]
    case isFalse => exact absurd hsome (by simp)
  case h_2 => exact absurd hsome (by simp)

/-- In every run of agents and control plane, where only the links of agents have headers
that name the node: each of its device rows has the facts of a device that a probe of one
of these agents discovered, and a reading that a probe returned, or none yet. -/
theorem rows_from_probes (hempty : start.db.nodes.rows = [])
    (hothers : ∀ label ∈ labels, OthersMeet (NotOf nodeId) label)
    (hrun : (linkSystem version config).run (LinkState.start start) labels = some final) :
    ∀ row ∈ final.server.store.db.devices.rows, row.nodeId = nodeId →
      Discovered final nodeId row.localId row.facts ∧
      (row.last = .default ∨ Measured final nodeId row.localId row.last) := by
  rintro row hrow rfl
  have hlinked := linked_run hempty hothers hrun
  have hserver : (serverService config).system.run (State.idle start)
      (labels.filterMap LinkLabel.serverLabel) = some final.server := server_run hrun
  have hsent : ∀ {report}, report ∈ FleetSpec.reportsOf row.nodeId (fleetChanges config
      (State.idle start) (labels.filterMap LinkLabel.serverLabel)) → SentBy final row.nodeId report :=
    fun hreport => told_link hempty hothers hrun (mem_reportsOf hreport)
  have hdevice := deviceAfter_reports hempty hserver row.nodeId row.localId
  rw [rowOf_eq_some.2 ⟨hrow, rfl, rfl⟩] at hdevice
  obtain ⟨hfacts, before, named, since, hsplit, -, -, -, hreading⟩ := FleetSpec.explained hdevice
  constructor
  · obtain ⟨last, hlast, hnamed⟩ := Option.bind_eq_some_iff.1 hfacts
    obtain ⟨report, hreport, hinventory⟩ := List.mem_filterMap.1 (List.mem_of_getLast? hlast)
    rcases report with ⟨host, now⟩ | told | ⟨readings, now⟩
    · exact absurd hinventory (by simp [FleetSpec.Report.named])
    · obtain rfl := Option.some.inj hinventory
      exact (hsent hreport).discovered hlinked hnamed
    · exact absurd hinventory (by simp [FleetSpec.Report.named])
  · cases hlast : (since.filterMap (FleetSpec.Report.reading row.localId)).getLast? with
    | none => exact Or.inl (by rw [hreading, hlast, Option.getD_none])
    | some reading =>
        obtain ⟨report, hreport, hsampled⟩ := List.mem_filterMap.1 (List.mem_of_getLast? hlast)
        have hmem : report ∈ FleetSpec.reportsOf row.nodeId (fleetChanges config (State.idle start)
            (labels.filterMap LinkLabel.serverLabel)) := by
          rw [hsplit]
          exact List.mem_append_right _ (List.mem_cons_of_mem _ hreport)
        right
        rw [hreading, hlast, Option.getD_some]
        rcases report with ⟨host, now⟩ | told | ⟨readings, now⟩
        · exact absurd hsampled (by simp [FleetSpec.Report.reading])
        · exact absurd hsampled (by simp [FleetSpec.Report.reading])
        · exact (hsent hmem).measured hlinked hsampled

theorem cutRun_rows :
    ((linkSystem "0.1.0" sampleServer).run (LinkState.start emptyServer) cutRun).map
      (fun final => final.server.store.db.devices.rows.map fun row =>
        (row.nodeId, row.localId, row.facts.name, row.last.lastUsedBytes)) =
      some [(5, "cpu:0", "amd64 CPU", 1073741824)] := by
  decide +kernel

theorem rows_from_probes_cut :
    ∃ final row, (linkSystem "0.1.0" sampleServer).run (LinkState.start emptyServer) cutRun =
        some final ∧ row ∈ final.server.store.db.devices.rows ∧ row.facts.name = "amd64 CPU" ∧
      Discovered final 5 row.localId row.facts ∧
      (row.last = .default ∨ Measured final 5 row.localId row.last) := by
  obtain ⟨final, hrun, hrows⟩ := Option.map_eq_some_iff.1 cutRun_rows
  obtain ⟨row, hrow, hcolumns⟩ : ∃ row ∈ final.server.store.db.devices.rows,
      (row.nodeId, row.localId, row.facts.name, row.last.lastUsedBytes) =
        (5, "cpu:0", "amd64 CPU", 1073741824) := by
    rw [← List.mem_map, hrows]
    exact List.mem_singleton_self _
  simp only [Prod.mk.injEq] at hcolumns
  obtain ⟨hnode, -, hname, -⟩ := hcolumns
  have hothers : ∀ label ∈ cutRun, OthersMeet (NotOf 5) label := by
    intro label hlabel call header heq
    rw [heq] at hlabel
    exact absurd hlabel (by simp [cutRun, enrollmentRun])
  exact ⟨final, row, hrun, hrow, hname, rows_from_probes rfl hothers hrun row hrow hnode⟩

end ModelHub.ControlPlane
