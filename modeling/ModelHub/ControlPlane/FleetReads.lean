import ModelHub.ControlPlane.FleetSafety

/-!
# The two ways of reading a fleet

`listNodes` puts the devices to their nodes itself, out of all the devices of the
organization; `getNode` has the database select them.  They are made to agree by two
facts about every reachable state: the devices of a node are in its organization, and
their local ids are different, so that sorting by them leaves no choice.

`fleet_reads` then says that a session sees its own organization and nothing else, the
same through both, with every device once and at its node.
-/

namespace ModelHub.ControlPlane

open ModelHub.Core Db Interleaving

variable {KeyObject : Type} {config : ServerEnv KeyObject} {store : AuthStore} {orgId : String}
  {db : Database} {env env' : ReadEnv} {node : Node} {device : Device}

/-- What the reads need of a database. -/
structure Readable (db : Database) : Prop where
  tenanted : Tenanted db
  kinds : ∀ device ∈ db.devices.rows, device.facts.kind.Known

theorem Reached.readable (hreached : Reached config store) : Readable store.db := by
  refine ⟨hreached.tenanted, fun device hdevice => ?_⟩
  obtain ⟨start, labels, frames, hempty, hrun⟩ := hreached
  exact (namedRule.run hempty (fun _ _ => trivial) hrun device hdevice).kind

/-! ## The devices of a node -/

def ownRows (orgId : String) (db : Database) (node : Node) : List Device :=
  (visibleDevices orgId db).filter fun device => device.nodeId = node.id

/-- The devices of a node by their local ids. -/
def devicesOf (collation : KeyOrder String) (orgId : String) (db : Database) (node : Node) :
    List Device :=
  collation.orderBy Device.localId (ownRows orgId db node)

/-- The view of a node of the organization. -/
def viewIn (collation : KeyOrder String) (orgId : String) (db : Database) (node : Node) : NodeView :=
  nodeViewOf node (devicesOf collation orgId db node)

theorem mem_visibleNodes : node ∈ visibleNodes orgId db ↔ node ∈ db.nodes.rows ∧ node.orgId = orgId := by
  simp [visibleNodes]

theorem mem_visibleDevices :
    device ∈ visibleDevices orgId db ↔ device ∈ db.devices.rows ∧ device.orgId = orgId := by
  simp [visibleDevices]

theorem mem_devicesOf {collation : KeyOrder String} :
    device ∈ devicesOf collation orgId db node ↔
      device ∈ visibleDevices orgId db ∧ device.nodeId = node.id := by
  rw [devicesOf, (KeyOrder.orderBy_perm _).mem_iff, ownRows, List.mem_filter, decide_eq_true_eq]

theorem localId_nodup (orgId : String) (db : Database) (node : Node) :
    ((ownRows orgId db node).map Device.localId).Nodup := by
  have hplaces : ((ownRows orgId db node).map Device.place).Nodup :=
    db.devices.key_nodup.sublist ((List.filter_sublist.trans List.filter_sublist).map _)
  have hsame : (ownRows orgId db node).map Device.place =
      ((ownRows orgId db node).map Device.localId).map fun localId => (node.id, localId) := by
    rw [List.map_map]
    refine List.map_congr_left fun device hdevice => ?_
    have hnode : device.nodeId = node.id := by simpa using (List.mem_filter.1 hdevice).2
    rw [Device.place, hnode]
    rfl
  rw [hsame] at hplaces
  exact hplaces.of_map

theorem visibleNodes_id_nodup (orgId : String) (db : Database) :
    ((visibleNodes orgId db).map Node.id).Nodup :=
  db.nodes.id_nodup.sublist (List.filter_sublist.map _)

theorem visibleDevices_nodup (orgId : String) (db : Database) : (visibleDevices orgId db).Nodup :=
  (List.Nodup.of_map _ db.devices.id_nodup).sublist List.filter_sublist

/-! ## What the reads return -/

theorem listNodes_views (hreadable : Readable db) :
    listNodes env orgId db = .ok ((env.collation.select Node.name env.nodes
      (visibleNodes orgId db)).map (viewIn env.collation orgId db)) := by
  rw [listNodes_eq hreadable.kinds]
  congr 1
  refine List.map_congr_left fun node _ => ?_
  rw [KeyOrder.filter_select (localId_nodup orgId db node)]
  rfl

theorem getNode_notFound {text : String}
    (hnone : ∀ id, parseUuid text = some id → ∀ node ∈ visibleNodes orgId db, node.id ≠ id) :
    getNode env orgId text db = .error .notFound := by
  unfold getNode
  cases hid : parseUuid text with
  | none => rfl
  | some id =>
      have hempty : (visibleNodes orgId db).filter (fun node => node.id = id) = [] := by
        rw [List.filter_eq_nil_iff]
        intro node hnode
        simpa using hnone id hid node hnode
      have hscan : env.nodes.rows [] = [] := List.Perm.eq_nil (env.nodes.perm [])
      simp only [hempty, hscan, List.head?_nil]

theorem getNode_found {text : String} {id : Uuid} (hreadable : Readable db)
    (hid : parseUuid text = some id) (hnode : node ∈ visibleNodes orgId db) (hsame : node.id = id) :
    getNode env orgId text db = .ok (viewIn env.collation orgId db node) := by
  have hone : (visibleNodes orgId db).filter (fun found => found.id = id) = [node] := by
    rw [← hsame]
    exact filter_unique (visibleNodes_id_nodup orgId db) hnode
  have hscan : (env.nodes.rows ((visibleNodes orgId db).filter fun found => found.id = id)).head? =
      some node := by
    rw [hone, List.Perm.eq_singleton (env.nodes.perm [node])]
    rfl
  rw [getNode_eq_some hid hscan hreadable.kinds]
  have hrows := @KeyOrder.select_eq_orderBy _ _ env.collation Device.localId _ env.devices
    (localId_nodup orgId db node)
  exact congrArg (fun rows => Except.ok (nodeViewOf node rows)) hrows

/-! ## Every device once -/

theorem HasNode.visible (hnode : HasNode orgId device.nodeId db) :
    ∃ node ∈ visibleNodes orgId db, node.id = device.nodeId := by
  obtain ⟨node, hmem, hid, horg⟩ := hnode
  exact ⟨node, mem_visibleNodes.2 ⟨hmem, horg⟩, hid⟩

/-- The devices of the nodes, taken together, are the devices of the organization. -/
theorem flatMap_devicesOf_perm (htenanted : Tenanted db) (collation : KeyOrder String)
    {nodes : List Node} (hperm : nodes.Perm (visibleNodes orgId db)) :
    (nodes.flatMap (devicesOf collation orgId db)).Perm (visibleDevices orgId db) := by
  have hids : (nodes.map Node.id).Nodup :=
    (hperm.map Node.id).nodup_iff.2 (visibleNodes_id_nodup orgId db)
  have hnodup : (nodes.flatMap (devicesOf collation orgId db)).Nodup := by
    rw [List.nodup_flatMap]
    refine ⟨fun node _ => ?_, ?_⟩
    · exact (KeyOrder.orderBy_perm _).nodup_iff.2 ((visibleDevices_nodup orgId db).filter _)
    · have hdifferent : nodes.Pairwise fun first second => first.id ≠ second.id :=
        List.pairwise_map.1 hids
      refine hdifferent.imp fun {first second} hne device hfirst hsecond => hne ?_
      exact (mem_devicesOf.1 hfirst).2.symm.trans (mem_devicesOf.1 hsecond).2
  refine (List.perm_ext_iff_of_nodup hnodup (visibleDevices_nodup orgId db)).2 fun device => ?_
  rw [List.mem_flatMap]
  constructor
  · rintro ⟨node, -, hdevice⟩
    exact (mem_devicesOf.1 hdevice).1
  · intro hdevice
    obtain ⟨hmem, rfl⟩ := mem_visibleDevices.1 hdevice
    obtain ⟨node, hnode, hid⟩ := (htenanted device hmem).visible
    exact ⟨node, hperm.mem_iff.2 hnode, mem_devicesOf.2 ⟨hdevice, hid.symm⟩⟩

/-- The same views, and the same names in the same order. -/
def SameUpToTies (views views' : List NodeView) : Prop :=
  views.Perm views' ∧ views.map NodeView.name = views'.map NodeView.name

/-- Of two databases, an organization sees the same rows. -/
structure SameOrganization (orgId : String) (db db' : Database) : Prop where
  nodes : (visibleNodes orgId db).Perm (visibleNodes orgId db')
  devices : (visibleDevices orgId db).Perm (visibleDevices orgId db')

theorem SameOrganization.viewIn_eq {db' : Database} (hsame : SameOrganization orgId db db')
    (collation : KeyOrder String) (node : Node) :
    viewIn collation orgId db node = viewIn collation orgId db' node := by
  have hrows : devicesOf collation orgId db node = devicesOf collation orgId db' node :=
    KeyOrder.orderBy_eq_of_perm (hsame.devices.filter _) (localId_nodup orgId db node)
  rw [viewIn, viewIn, hrows]

/-- A list of views that shows every node and every device of the organization once. -/
structure Complete (orgId : String) (db : Database) (views : List NodeView) : Prop where
  nodes : (views.map NodeView.id).Perm ((visibleNodes orgId db).map Node.id)
  devices : ((views.flatMap NodeView.devices).map DeviceView.id).Perm
    ((visibleDevices orgId db).map Device.id)
  own : ∀ device ∈ visibleDevices orgId db, ∃ view ∈ views, view.id = device.nodeId ∧
    (∃ shown ∈ view.devices, deviceView device = .ok shown) ∧
    ∀ other ∈ views, device.id ∈ other.devices.map DeviceView.id → other = view

theorem listNodes_complete (hreadable : Readable db) :
    Complete orgId db ((env.collation.select Node.name env.nodes (visibleNodes orgId db)).map
      (viewIn env.collation orgId db)) := by
  have hperm := @KeyOrder.select_perm _ _ env.collation Node.name env.nodes (visibleNodes orgId db)
  refine ⟨?_, ?_, fun device hdevice => ?_⟩
  · rw [List.map_map]
    exact hperm.map Node.id
  · have hflat := flatMap_devicesOf_perm hreadable.tenanted env.collation hperm
    rw [List.flatMap_map, List.map_flatMap]
    have hids := hflat.map Device.id
    rw [List.map_flatMap] at hids
    refine List.Perm.trans (List.Perm.of_eq ?_) hids
    refine List.flatMap_congr fun node _ => ?_
    simp only [viewIn, nodeViewOf, List.map_map]
    rfl
  · obtain ⟨hmem, horg⟩ := mem_visibleDevices.1 hdevice
    have hnode := hreadable.tenanted device hmem
    rw [horg] at hnode
    obtain ⟨node, hnode, hid⟩ := hnode.visible
    refine ⟨viewIn env.collation orgId db node,
      List.mem_map.2 ⟨node, hperm.mem_iff.2 hnode, rfl⟩, hid, ⟨viewOf device, ?_,
        deviceView_eq (hreadable.kinds device hmem)⟩, ?_⟩
    · exact List.mem_map.2 ⟨device, mem_devicesOf.2 ⟨hdevice, hid.symm⟩, rfl⟩
    · intro other hother hshown
      obtain ⟨node', hnode', rfl⟩ := List.mem_map.1 hother
      obtain ⟨shown, hshown, hsame⟩ := List.mem_map.1 hshown
      obtain ⟨device', hdevice', rfl⟩ := List.mem_map.1 hshown
      obtain ⟨hvisible', hid'⟩ := mem_devicesOf.1 hdevice'
      have heq : device' = device :=
        Table.eq_of_id (mem_visibleDevices.1 hvisible').1 hmem hsame
      rw [heq] at hid'
      have hnodes : node' = node := List.inj_on_of_nodup_map (visibleNodes_id_nodup orgId db)
        (hperm.mem_iff.1 hnode') hnode (hid'.symm.trans hid.symm)
      rw [hnodes]

/-- What `getNode` returns is decided by the organization's node with this id. -/
theorem getNode_cases_of (hreadable : Readable db) (env : ReadEnv) (text : String) :
    (∃ id, parseUuid text = some id ∧ ∃ node ∈ visibleNodes orgId db, node.id = id ∧
      getNode env orgId text db = .ok (viewIn env.collation orgId db node)) ∨
    (∀ id, parseUuid text = some id → ∀ node ∈ visibleNodes orgId db, node.id ≠ id) ∧
      getNode env orgId text db = .error .notFound := by
  by_cases hfound : ∃ id, parseUuid text = some id ∧ ∃ node ∈ visibleNodes orgId db, node.id = id
  · obtain ⟨id, hid, node, hnode, hsame⟩ := hfound
    exact Or.inl ⟨id, hid, node, hnode, hsame, getNode_found hreadable hid hnode hsame⟩
  · have hnone : ∀ id, parseUuid text = some id → ∀ node ∈ visibleNodes orgId db, node.id ≠ id :=
      fun id hid node hnode hsame => hfound ⟨id, hid, node, hnode, hsame⟩
    exact Or.inr ⟨hnone, getNode_notFound hnone⟩

theorem SameOrganization.listNodes {db' : Database} (hsame : SameOrganization orgId db db')
    (hcollation : env'.collation = env.collation) :
    SameUpToTies
      ((env.collation.select Node.name env.nodes (visibleNodes orgId db)).map
        (viewIn env.collation orgId db))
      ((env'.collation.select Node.name env'.nodes (visibleNodes orgId db')).map
        (viewIn env'.collation orgId db')) := by
  have hviews : viewIn env.collation orgId db = viewIn env'.collation orgId db' := by
    funext node
    rw [hcollation]
    exact hsame.viewIn_eq env.collation node
  rw [hviews]
  constructor
  · have hnodes : (env.collation.select Node.name env.nodes (visibleNodes orgId db)).Perm
        (env'.collation.select Node.name env'.nodes (visibleNodes orgId db')) :=
      ((KeyOrder.select_perm _).trans hsame.nodes).trans (KeyOrder.select_perm _).symm
    exact hnodes.map _
  · rw [List.map_map, List.map_map, hcollation]
    exact KeyOrder.map_select hsame.nodes

theorem SameOrganization.getNode {db' : Database} (hsame : SameOrganization orgId db db')
    (hreadable : Readable db) (hreadable' : Readable db')
    (hcollation : env'.collation = env.collation) (text : String) :
    getNode env orgId text db = getNode env' orgId text db' := by
  rcases getNode_cases_of hreadable env text with ⟨id, hid, node, hnode, hnodeId, hview⟩ |
    ⟨hnone, hview⟩
  · rw [hview, getNode_found hreadable' hid (hsame.nodes.mem_iff.1 hnode) hnodeId, hcollation,
      hsame.viewIn_eq]
  · have hnone' : ∀ id, parseUuid text = some id → ∀ node ∈ visibleNodes orgId db', node.id ≠ id :=
      fun id hid node hnode => hnone id hid node (hsame.nodes.mem_iff.2 hnode)
    rw [hview, getNode_notFound hnone']

/-- A session sees its own organization only, the same through both reads, and every
device of it once. -/
theorem fleet_reads {config config' : ServerEnv KeyObject} {store store' : AuthStore}
    (hreached : Reached config store) (hreached' : Reached config' store') (orgId : String)
    {env env' : ReadEnv} (hcollation : env'.collation = env.collation) :
    (SameOrganization orgId store.db store'.db →
      (∃ views views', listNodes env orgId store.db = .ok views ∧
        listNodes env' orgId store'.db = .ok views' ∧ SameUpToTies views views') ∧
      ∀ text, getNode env orgId text store.db = getNode env' orgId text store'.db) ∧
    (∀ text, (∀ id, parseUuid text = some id → ∀ node ∈ visibleNodes orgId store.db, node.id ≠ id) →
      getNode env orgId text store.db = .error .notFound) ∧
    ∃ views, listNodes env orgId store.db = .ok views ∧
      (∀ text view, getNode env' orgId text store.db = .ok view ↔
        ∃ id, parseUuid text = some id ∧ view ∈ views ∧ view.id = id) ∧
      Complete orgId store.db views := by
  have hreadable := hreached.readable
  have hreadable' := hreached'.readable
  refine ⟨fun hsame => ⟨⟨_, _, listNodes_views hreadable, listNodes_views hreadable',
      hsame.listNodes hcollation⟩, hsame.getNode hreadable hreadable' hcollation⟩,
    fun text hnone => getNode_notFound hnone,
    ⟨_, listNodes_views hreadable, fun text view => ⟨fun hview => ?_, ?_⟩,
      listNodes_complete hreadable⟩⟩
  · rcases getNode_cases_of hreadable env' text with ⟨id, hid, node, hnode, hsame, hfound⟩ |
      ⟨-, hnone⟩
    · rw [hview, hcollation] at hfound
      cases hfound
      refine ⟨id, hid, List.mem_map.2 ⟨node, (KeyOrder.select_perm _).mem_iff.2 hnode, rfl⟩, hsame⟩
    · rw [hview] at hnone
      cases hnone
  · rintro ⟨id, hid, hmem, hsame⟩
    obtain ⟨node, hnode, rfl⟩ := List.mem_map.1 hmem
    rw [getNode_found hreadable hid ((KeyOrder.select_perm _).mem_iff.1 hnode) hsame, hcollation]

/-! ### Two states -/

/-- The order of the collation "C". -/
def codePointOrder : KeyOrder String where
  le := fun first second => first ≤ second
  total := fun first second => by simpa using String.le_total first second
  trans := fun first second third hfirst hsecond => by
    simp only [decide_eq_true_eq] at *
    exact String.le_trans hfirst hsecond
  antisymm := fun first second hle hge => by
    simp only [decide_eq_true_eq] at *
    exact String.le_antisymm hle hge

/-- A scan that finds the rows as they are stored. -/
def storedScan {Row : Type} : Scan Row := ⟨id, fun found => List.Perm.refl found⟩

/-- A scan that finds the last row first. -/
def backwardScan {Row : Type} : Scan Row := ⟨List.reverse, fun found => found.reverse_perm⟩

def sampleRead : ReadEnv := ⟨codePointOrder, storedScan, storedScan⟩

def backwardRead : ReadEnv := ⟨codePointOrder, backwardScan, backwardScan⟩

/-- The sample server, and the hashes of three codes. -/
def threeCodes : ServerEnv (List UInt8) :=
  { sampleServer with
    pairing := { sampleEnv with
      hmacSha256Hex := fun key text =>
        if key ≠ "pepper-pepper-pepper-pepper-32ch" then ""
        else if text = "ABCD2345" then
          "6ca48719a819eca21ae86f115d3c5979d81bde057d1ecc3d1f1cc52ed7fcac56"
        else if text = "5432DCBA" then
          "c8f85a9d87802d774ea74795d69cc5c1583e84844175540a7aedd9454c4703ff"
        else if text = "ABCDDCBA" then
          "22643c8f6a9f1e78501b907eabc10a70d8b4b9cce6e4c3ea683a33a356c66bd5"
        else "" } }

/-- A code is minted for an organization, with the sample letters in some order, and
redeemed by a machine called "node". -/
def joinRun (call : ℕ) (orgId code : String) (order : Fin 8 → Fin 8) (id : Uuid) :
    List (Label ServerFrame ServerStep ServerEvent) :=
  .ambient (.mint { sampleMint with
    orgId := orgId
    draws := fun place => sampleMint.draws (order place)
    newId := id }) ::
    .start call (.pairing (.enroll
      ⟨code, id.toNat.toUInt8 :: List.replicate 31 7, "node", hostColumns none⟩ .start .untouched)) ::
    List.replicate 6 (.advance call (.pairing ⟨2000, none, id, 2000⟩))

/-- A node opens a stream and reports a processor and a card. -/
def reportRun (call : ℕ) (header : String) (firstId : ℕ) :
    List (Label ServerFrame ServerStep ServerEvent) :=
  .start call (.stream ⟨some header, .start⟩) ::
    List.replicate 5 (.advance call (.reply .arrives)) ++
    [.advance call (.message (.inventory [⟨"cpu:0", 1, 0, "amd64 CPU", 68719476736, "", "", 0⟩,
        ⟨"GPU-1", 2, 0, "A", 1024, "550", "8.9", 0⟩])
      ⟨1760000000000, 1760000000000, fun place => BitVec.ofNat 128 (place + firstId)⟩)]

/-- Two nodes of one organization. -/
def teamRun : List (Label ServerFrame ServerStep ServerEvent) :=
  .ambient (.organization ⟨"org_1", "Fleet", "fleet"⟩) ::
    joinRun 0 "org_1" "ABCD-2345" id 5 ++
    joinRun 1 "org_1" "5432-DCBA" Fin.rev 6 ++
    .ambient (.tick 1760000000000) ::
    reportRun 2 "ModelHubNode 00000000-0000-0000-0000-000000000005.1760000060000.n1.AQ" 20 ++
    reportRun 3 "ModelHubNode 00000000-0000-0000-0000-000000000006.1760000060000.n1.AQ" 30

/-- And then a node of another organization. -/
def busyRun : List (Label ServerFrame ServerStep ServerEvent) :=
  teamRun ++ .ambient (.organization ⟨"org_2", "Other", "other"⟩) ::
    joinRun 4 "org_2" "ABCD-DCBA" (fun place => if place.val < 4 then place else place.rev) 7 ++
    reportRun 5 "ModelHubNode 00000000-0000-0000-0000-000000000007.1760000060000.n1.AQ" 40

/-- The other organization's node. -/
def otherNode : String := "00000000-0000-0000-0000-000000000007"

theorem fleet_reads_two_runs :
    ∃ store store', Reached threeCodes store ∧ Reached threeCodes store' ∧
      SameOrganization "org_1" store.db store'.db ∧
      (visibleNodes "org_1" store.db).map Node.name = ["node", "node"] ∧
      (visibleNodes "org_2" store'.db).map Node.id = [7] ∧
      (∃ views views', listNodes sampleRead "org_1" store.db = .ok views ∧
        listNodes backwardRead "org_1" store'.db = .ok views' ∧ SameUpToTies views views') ∧
      (∀ text, getNode sampleRead "org_1" text store.db =
        getNode backwardRead "org_1" text store'.db) ∧
      getNode sampleRead "org_1" otherNode store.db = .error .notFound ∧
      ∃ views, listNodes sampleRead "org_1" store.db = .ok views ∧
        Complete "org_1" store.db views := by
  have hrows : ((serverService threeCodes).system.run (State.idle emptyServer) teamRun).bind
      (fun state => ((serverService threeCodes).system.run (State.idle emptyServer) busyRun).map
        fun state' =>
          ((decide (visibleNodes "org_1" state.store.db = visibleNodes "org_1" state'.store.db),
            decide (visibleDevices "org_1" state.store.db = visibleDevices "org_1" state'.store.db)),
            (visibleNodes "org_1" state.store.db).map Node.name,
            (visibleNodes "org_1" state.store.db).map Node.id,
            (visibleNodes "org_2" state'.store.db).map Node.id)) =
      some ((true, true), ["node", "node"], [5, 6], [7]) := by
    decide +kernel
  obtain ⟨⟨store, frames⟩, hrun, hrest⟩ := Option.bind_eq_some_iff.1 hrows
  obtain ⟨⟨store', frames'⟩, hrun', hfacts⟩ := Option.map_eq_some_iff.1 hrest
  obtain ⟨hequal, hfacts⟩ := Prod.mk.inj hfacts
  obtain ⟨hnodes, hdevices⟩ := Prod.mk.inj hequal
  obtain ⟨hnames, hfacts⟩ := Prod.mk.inj hfacts
  obtain ⟨hids, hothers⟩ := Prod.mk.inj hfacts
  have hreached : Reached threeCodes store := ⟨emptyServer, _, frames, rfl, hrun⟩
  have hreached' : Reached threeCodes store' := ⟨emptyServer, _, frames', rfl, hrun'⟩
  have hsame : SameOrganization "org_1" store.db store'.db :=
    ⟨.of_eq (of_decide_eq_true hnodes), .of_eq (of_decide_eq_true hdevices)⟩
  obtain ⟨hagree, habsent, views, hviews, -, hcomplete⟩ :=
    @fleet_reads _ threeCodes threeCodes store store' hreached hreached' "org_1" sampleRead
      backwardRead rfl
  have hunseen : ∀ id, parseUuid otherNode = some id →
      ∀ node ∈ visibleNodes "org_1" store.db, node.id ≠ id := by
    have hseven : parseUuid otherNode = some 7 := by decide +kernel
    rintro id hid node hnode rfl
    have hmem := List.mem_map_of_mem (f := Node.id) hnode
    rw [hids, Option.some.inj (hid.symm.trans hseven)] at hmem
    exact absurd hmem (by decide)
  exact ⟨store, store', hreached, hreached', hsame, hnames, hothers, (hagree hsame).1,
    (hagree hsame).2, habsent otherNode hunseen, views, hviews, hcomplete⟩

end ModelHub.ControlPlane
