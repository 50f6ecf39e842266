import Mathlib.Algebra.BigOperators.Group.List
import Karpenter.Provisioning.V1alpha4

/-! Node-count metrics of a provisioner: the nodes it owns, and its ready nodes per zone and per
architecture, instance type and operating system. Publishing a count sets a gauge; the registry
is kept as the log of those sets. -/

namespace Karpenter.Metrics.Node

open V1 V1alpha4

def nodeConditionTypeReady : String := nodeReady

/-- `strings.ToLower`, letter by letter. Go lowers every Unicode letter and `Char.toLower` only
the ASCII ones, but no letter outside ASCII lowers to one of `"true"`, so the two agree on the
one comparison the code makes. -/
def toLower (s : String) : String := ⟨s.data.map Char.toLower⟩

/-- A Ready condition whose status lower-cases to `"true"`. -/
def isReady (condition : NodeCondition) : Bool :=
  condition.type == nodeConditionTypeReady && toLower condition.status == "true"

/-- `filterReadyNodes(consume)`: the consumer applied to the ready nodes. The inner loop appends
the node once for every ready condition it lists. -/
def filterReadyNodes {α : Type} (consume : List Node → α) (nodes : List Node) : α :=
  let readyNodes := nodes.foldl (fun readyNodes node =>
    node.conditions.foldl (fun readyNodes condition =>
      if isReady condition then readyNodes ++ [node] else readyNodes) readyNodes) []
  consume readyNodes

/-- The nodes `filterReadyNodes` passes on: each node as many times as it lists a ready
condition, in input order. -/
def readyNodes (nodes : List Node) : List Node :=
  nodes.flatMap fun node => List.replicate (node.conditions.countP isReady) node

theorem foldl_ready_conditions (node : Node) (conditions : List NodeCondition)
    (acc : List Node) :
    conditions.foldl (fun readyNodes condition =>
        if isReady condition then readyNodes ++ [node] else readyNodes) acc =
      acc ++ List.replicate (conditions.countP isReady) node := by
  induction conditions generalizing acc with
  | nil => simp
  | cons condition conditions ih =>
    by_cases hReady : isReady condition
    · rw [List.foldl_cons, if_pos hReady, ih]
      simp [List.countP_cons, hReady, List.replicate_succ]
    · rw [List.foldl_cons, if_neg hReady, ih]
      simp [List.countP_cons, hReady]

theorem filterReadyNodes_eq {α : Type} (consume : List Node → α) (nodes : List Node) :
    filterReadyNodes consume nodes = consume (readyNodes nodes) := by
  suffices ∀ acc, nodes.foldl (fun readyNodes node =>
      node.conditions.foldl (fun readyNodes condition =>
        if isReady condition then readyNodes ++ [node] else readyNodes) readyNodes) acc =
      acc ++ readyNodes nodes by simp [filterReadyNodes, this]
  induction nodes with
  | nil => simp [readyNodes]
  | cons node nodes ih =>
    intro acc
    rw [List.foldl_cons, ih, foldl_ready_conditions, readyNodes, readyNodes, List.flatMap_cons,
      List.append_assoc]

/-- The consumer gets as many nodes as the listed nodes list ready conditions. -/
theorem readyNodes_length (nodes : List Node) :
    (readyNodes nodes).length =
      (nodes.flatMap fun node => node.conditions.filter isReady).length := by
  simp [readyNodes, List.length_flatMap, List.countP_eq_length_filter, Function.comp_def]

/-- When no node lists more than one ready condition, as the kubelet reports one condition per
type, the consumer gets the ready nodes, each once and in input order, so no more nodes than
were listed. -/
theorem filterReadyNodes_of_ready_le_one {α : Type} (consume : List Node → α)
    (nodes : List Node) (h : ∀ node ∈ nodes, node.conditions.countP isReady ≤ 1) :
    filterReadyNodes consume nodes =
      consume (nodes.filter fun node => node.conditions.any isReady) := by
  rw [filterReadyNodes_eq, readyNodes]
  congr 1
  induction nodes with
  | nil => rfl
  | cons node nodes ih =>
    have hNode := h node (List.mem_cons_self _ _)
    rw [List.flatMap_cons, ih fun n hn => h n (List.mem_cons_of_mem _ hn), List.filter_cons]
    rcases Nat.le_one_iff_eq_zero_or_eq_one.mp hNode with h0 | h1
    · have : node.conditions.any isReady = false := by
        simpa [List.countP_eq_zero] using h0
      simp [h0, this]
    · have : node.conditions.any isReady = true := by
        simpa [List.countP_pos_iff] using (by omega : 0 < node.conditions.countP isReady)
      simp [h1, this]

/-! ## Publishing the counts -/

/-- `client.MatchingLabels`: the labels a node listing selects by. -/
abbrev MatchingLabels := StringMap

def metricLabelArch : String := "arch"
def metricLabelInstanceType : String := "instancetype"
def metricLabelOS : String := "os"
/-- `metrics.ProvisionerLabel`, a constant of `pkg/metrics`, outside this source; the code only
needs it to differ from the other metric labels. -/
def metricLabelProvisioner : String := "provisioner"
def metricLabelZone : String := "zone"

def nodeLabelArch : String := labelArchStable
def nodeLabelInstanceType : String := labelInstanceTypeStable
def nodeLabelOS : String := labelOSStable
def nodeLabelZone : String := labelTopologyZone
def nodeLabelProvisioner : String := provisionerNameLabelKey

/-- A gauge vector: its name and the labels that pick one of its gauges. -/
structure GaugeVec where
  name : String
  labelNames : List String
  deriving DecidableEq

def nodeCountByProvisioner : GaugeVec := ⟨"node_count", [metricLabelProvisioner]⟩

def readyNodeCountByProvisionerZone : GaugeVec :=
  ⟨"ready_node_count", [metricLabelProvisioner, metricLabelZone]⟩

def readyNodeCountByArchProvisionerZone : GaugeVec :=
  ⟨"ready_node_arch_count", [metricLabelArch, metricLabelProvisioner, metricLabelZone]⟩

def readyNodeCountByInstancetypeProvisionerZone : GaugeVec :=
  ⟨"ready_node_instancetype_count",
    [metricLabelInstanceType, metricLabelProvisioner, metricLabelZone]⟩

def readyNodeCountByOsProvisionerZone : GaugeVec :=
  ⟨"ready_node_os_count", [metricLabelOS, metricLabelProvisioner, metricLabelZone]⟩

/-! The label names and the vectors as values, stated once so that `simp` tells them apart. -/

@[simp] theorem metricLabelArch_eq : metricLabelArch = "arch" := rfl
@[simp] theorem metricLabelInstanceType_eq : metricLabelInstanceType = "instancetype" := rfl
@[simp] theorem metricLabelOS_eq : metricLabelOS = "os" := rfl
@[simp] theorem metricLabelProvisioner_eq : metricLabelProvisioner = "provisioner" := rfl
@[simp] theorem metricLabelZone_eq : metricLabelZone = "zone" := rfl
@[simp] theorem nodeLabelArch_eq : nodeLabelArch = "kubernetes.io/arch" := rfl
@[simp] theorem nodeLabelInstanceType_eq :
    nodeLabelInstanceType = "node.kubernetes.io/instance-type" := rfl
@[simp] theorem nodeLabelOS_eq : nodeLabelOS = "kubernetes.io/os" := rfl
@[simp] theorem nodeLabelZone_eq : nodeLabelZone = "topology.kubernetes.io/zone" := rfl
@[simp] theorem nodeLabelProvisioner_eq :
    nodeLabelProvisioner = "karpenter.sh/provisioner-name" := rfl
@[simp] theorem nodeCountByProvisioner_eq :
    nodeCountByProvisioner = ⟨"node_count", ["provisioner"]⟩ := rfl
@[simp] theorem readyNodeCountByProvisionerZone_eq :
    readyNodeCountByProvisionerZone = ⟨"ready_node_count", ["provisioner", "zone"]⟩ := rfl
@[simp] theorem readyNodeCountByArchProvisionerZone_eq :
    readyNodeCountByArchProvisionerZone =
      ⟨"ready_node_arch_count", ["arch", "provisioner", "zone"]⟩ := rfl
@[simp] theorem readyNodeCountByInstancetypeProvisionerZone_eq :
    readyNodeCountByInstancetypeProvisionerZone =
      ⟨"ready_node_instancetype_count", ["instancetype", "provisioner", "zone"]⟩ := rfl
@[simp] theorem readyNodeCountByOsProvisionerZone_eq :
    readyNodeCountByOsProvisionerZone = ⟨"ready_node_os_count", ["os", "provisioner", "zone"]⟩ :=
  rfl

/-- One `Set` on a gauge: the vector, the labels that picked the gauge, and the count. The code
sets `float64(count)`, exact for any count of nodes. -/
structure GaugeSet where
  vec : GaugeVec
  labels : StringMap
  value : Nat

/-- Publishing, with the registry kept as the log of gauge sets. -/
abbrev Publish := StateM (List GaugeSet)

/-- `GetMetricWith(labels)` accepts labels that name the vector's label names, no more and no
fewer. -/
def GaugeVec.accepts (gaugeVec : GaugeVec) (labels : StringMap) : Bool :=
  labels.keys.length == gaugeVec.labelNames.length && gaugeVec.labelNames.all (· ∈ labels)

/-- `publishCount`: set the gauge the labels pick, or return the client's error. The error's
text is the client's, not part of this source: here it names the vector. -/
def publishCount (gaugeVec : GaugeVec) (labels : StringMap) (count : Nat) :
    Publish (Option String) :=
  if gaugeVec.accepts labels then do
    modify (· ++ [⟨gaugeVec, labels, count⟩])
    pure none
  else pure (some gaugeVec.name)

/-- One step of `metricLabelsFrom`: copy a node label's value under the metric label's name,
unless it is missing or empty. -/
def copyLabel (nodeLabels metricLabels : StringMap) (nodeLabel metricLabel : String) :
    StringMap :=
  let value := (nodeLabels.lookup nodeLabel).getD ""
  if value ≠ "" then metricLabels.insert metricLabel value else metricLabels

/-- `metricLabelsFrom`: the metric labels of the node labels present and not empty. -/
def metricLabelsFrom (nodeLabels : MatchingLabels) : StringMap :=
  let metricLabels := copyLabel nodeLabels ∅ nodeLabelArch metricLabelArch
  let metricLabels := copyLabel nodeLabels metricLabels nodeLabelInstanceType
    metricLabelInstanceType
  let metricLabels := copyLabel nodeLabels metricLabels nodeLabelOS metricLabelOS
  let metricLabels := copyLabel nodeLabels metricLabels nodeLabelProvisioner
    metricLabelProvisioner
  copyLabel nodeLabels metricLabels nodeLabelZone metricLabelZone

/-- `consumeNodesWithFunc`: list the nodes with the labels and hand them to the consumer. -/
abbrev ConsumeNodesWith := MatchingLabels → (List Node → Publish (Option String)) →
  Publish (Option String)

/-- The ready-node count every zone, architecture, instance type and operating system loop
publishes: list by the labels, keep the ready nodes, set the gauge to how many there are. -/
def publishReadyCount (consumeNodesWith : ConsumeNodesWith) (gaugeVec : GaugeVec)
    (nodeLabels : MatchingLabels) : Publish (Option String) :=
  consumeNodesWith nodeLabels (filterReadyNodes fun readyNodes =>
    publishCount gaugeVec (metricLabelsFrom nodeLabels) readyNodes.length)

/-- `publishNodeCountsForProvisioner`: the node count of the provisioner, then per zone its
ready nodes, and per architecture, instance type and operating system its ready nodes in the
zone. The known values are read from a map the caller holds (`WellKnownLabels` in the source);
the errors are combined as `multierr.Combine` does, dropping the `nil` ones. -/
def publishNodeCountsForProvisioner
    (knownValuesForNodeLabels : AList fun _ : String => List String) (provisioner : String)
    (consumeNodesWith : ConsumeNodesWith) : Publish (List String) := do
  let archValues := (knownValuesForNodeLabels.lookup nodeLabelArch).getD []
  let instanceTypeValues := (knownValuesForNodeLabels.lookup nodeLabelInstanceType).getD []
  let osValues := (knownValuesForNodeLabels.lookup nodeLabelOS).getD []
  let zoneValues := (knownValuesForNodeLabels.lookup nodeLabelZone).getD []
  let nodeLabels : MatchingLabels := (∅ : StringMap).insert nodeLabelProvisioner provisioner
  let countError ← consumeNodesWith nodeLabels fun nodes =>
    publishCount nodeCountByProvisioner (metricLabelsFrom nodeLabels) nodes.length
  let zoneErrors ← zoneValues.mapM fun zone => do
    let nodeLabels : MatchingLabels :=
      ((∅ : StringMap).insert nodeLabelProvisioner provisioner).insert nodeLabelZone zone
    let zoneError ← publishReadyCount consumeNodesWith readyNodeCountByProvisionerZone nodeLabels
    let archErrors ← archValues.mapM fun arch =>
      publishReadyCount consumeNodesWith readyNodeCountByArchProvisionerZone
        ((((∅ : StringMap).insert nodeLabelArch arch).insert nodeLabelProvisioner
          provisioner).insert nodeLabelZone zone)
    let instanceTypeErrors ← instanceTypeValues.mapM fun instanceType =>
      publishReadyCount consumeNodesWith readyNodeCountByInstancetypeProvisionerZone
        ((((∅ : StringMap).insert nodeLabelInstanceType instanceType).insert nodeLabelProvisioner
          provisioner).insert nodeLabelZone zone)
    let osErrors ← osValues.mapM fun os =>
      publishReadyCount consumeNodesWith readyNodeCountByOsProvisionerZone
        ((((∅ : StringMap).insert nodeLabelOS os).insert nodeLabelProvisioner
          provisioner).insert nodeLabelZone zone)
    pure (zoneError :: archErrors ++ instanceTypeErrors ++ osErrors)
  pure ((countError :: zoneErrors.flatten).filterMap id)

/-! ## What publishing does

Publishing is deterministic: each part of it returns one value and appends a fixed list of gauge
sets, whatever the log holds. That equation composes through binds and loops, so the nested
loops of `publishNodeCountsForProvisioner` come out as a flat list of planned gauges, each set or
failed on its own. -/

/-- Run from any log, the action returns the value and appends the gauge sets. -/
def Appends {α : Type} (act : Publish α) (a : α) (added : List GaugeSet) : Prop :=
  ∀ log, act.run log = (a, log ++ added)

section Appends

variable {α β γ : Type} {act : Publish α} {a : α} {added : List GaugeSet}

theorem appends_pure (a : α) : Appends (pure a) a [] := fun log => by simp [StateT.run_pure]

theorem appends_bind {f : α → Publish β} {b : β} {added' : List GaugeSet}
    (h : Appends act a added) (hf : Appends (f a) b added') :
    Appends (act >>= f) b (added ++ added') := fun log => by
  show (f (act.run log).1).run (act.run log).2 = _
  rw [h log, hf, List.append_assoc]

theorem Appends.congr {a' : α} {added' : List GaugeSet} (h : Appends act a added)
    (ha : a = a') (hAdded : added = added') : Appends act a' added' := ha ▸ hAdded ▸ h

theorem appends_mapM {f : γ → Publish α} (r : γ → α) (adds : γ → List GaugeSet) (l : List γ)
    (h : ∀ x ∈ l, Appends (f x) (r x) (adds x)) :
    Appends (l.mapM f) (l.map r) (l.flatMap adds) := by
  induction l with
  | nil => exact appends_pure []
  | cons x l ih =>
    rw [List.mapM_cons, List.map_cons, List.flatMap_cons, ← List.append_nil (l.flatMap adds)]
    exact appends_bind (h x (List.mem_cons_self _ _)) (appends_bind
      (ih fun y hy => h y (List.mem_cons_of_mem _ hy)) (appends_pure _))

end Appends

/-- The consumer the controller hands in: list the nodes that carry the labels and pass them on,
or return the listing's error. The controller is not part of this source; the listing is a
parameter. -/
def consumeListedNodes (listNodes : MatchingLabels → Except String (List Node)) :
    ConsumeNodesWith := fun nodeLabels consume =>
  match listNodes nodeLabels with
  | .error err => pure (some err)
  | .ok nodes => consume nodes

/-- A gauge publishing sets: its vector, the labels its nodes are listed by, and whether only
the ready ones count. -/
structure PlannedGauge where
  vec : GaugeVec
  nodeLabels : MatchingLabels
  readyOnly : Bool

/-- The gauges publishing sets for a provisioner, in the order it sets them: the provisioner's
node count, then per known zone its ready nodes and, per known architecture, instance type and
operating system, the ready nodes that carry that value too. -/
def gaugePlan (knownValuesForNodeLabels : AList fun _ : String => List String)
    (provisioner : String) : List PlannedGauge :=
  let values := fun label => (knownValuesForNodeLabels.lookup label).getD []
  let provisionerLabels := (∅ : StringMap).insert nodeLabelProvisioner provisioner
  let inZone := fun zone (vec : GaugeVec) label (value : String) =>
    PlannedGauge.mk vec ((((∅ : StringMap).insert label value).insert nodeLabelProvisioner
      provisioner).insert nodeLabelZone zone) true
  ⟨nodeCountByProvisioner, provisionerLabels, false⟩ ::
    (values nodeLabelZone).flatMap fun zone =>
      ⟨readyNodeCountByProvisionerZone, provisionerLabels.insert nodeLabelZone zone, true⟩ ::
        ((values nodeLabelArch).map (inZone zone readyNodeCountByArchProvisionerZone
            nodeLabelArch) ++
          (values nodeLabelInstanceType).map (inZone zone
            readyNodeCountByInstancetypeProvisionerZone nodeLabelInstanceType) ++
          (values nodeLabelOS).map (inZone zone readyNodeCountByOsProvisionerZone nodeLabelOS))

/-- The gauge set a planned gauge gets from the listing, or the error that stops it. -/
def PlannedGauge.outcome (listNodes : MatchingLabels → Except String (List Node))
    (gauge : PlannedGauge) : Except String GaugeSet :=
  match listNodes gauge.nodeLabels with
  | .error err => .error err
  | .ok nodes =>
    let labels := metricLabelsFrom gauge.nodeLabels
    if gauge.vec.accepts labels then
      .ok ⟨gauge.vec, labels, if gauge.readyOnly then (readyNodes nodes).length else nodes.length⟩
    else .error gauge.vec.name

/-- The error of an outcome, if it has one. -/
def errorOf {α : Type} : Except String α → Option String
  | .error err => some err
  | .ok _ => none

theorem toOption_eq_some {α : Type} {x : Except String α} {a : α} :
    x.toOption = some a ↔ x = .ok a := by
  cases x <;> simp [Except.toOption]

section Listing

variable (listNodes : MatchingLabels → Except String (List Node))

/-- A planned gauge is set exactly when its listing succeeds and its vector accepts the labels;
the value counts the listed nodes, or the ready ones among them. -/
theorem PlannedGauge.outcome_eq_ok {gauge : PlannedGauge} {set : GaugeSet} :
    gauge.outcome listNodes = .ok set ↔ ∃ nodes, listNodes gauge.nodeLabels = .ok nodes ∧
      gauge.vec.accepts (metricLabelsFrom gauge.nodeLabels) ∧
      set = ⟨gauge.vec, metricLabelsFrom gauge.nodeLabels,
        if gauge.readyOnly then (readyNodes nodes).length else nodes.length⟩ := by
  unfold PlannedGauge.outcome
  cases listNodes gauge.nodeLabels with
  | error err => simp
  | ok nodes =>
    by_cases hAccepts : gauge.vec.accepts (metricLabelsFrom gauge.nodeLabels)
    · simp only [hAccepts, if_true, Except.ok.injEq, exists_eq_left', true_and]
      exact eq_comm
    · simp [hAccepts]

theorem publishCount_appends (gaugeVec : GaugeVec) (labels : StringMap) (count : Nat) :
    Appends (publishCount gaugeVec labels count)
      (if gaugeVec.accepts labels then none else some gaugeVec.name)
      (if gaugeVec.accepts labels then [⟨gaugeVec, labels, count⟩] else []) := by
  unfold publishCount
  split
  · exact fun _ => rfl
  · exact appends_pure _

/-- One planned gauge, published through the listing consumer. -/
theorem consumeListedNodes_appends (gauge : PlannedGauge)
    (consume : List Node → Publish (Option String))
    (hConsume : ∀ nodes, consume nodes = publishCount gauge.vec (metricLabelsFrom gauge.nodeLabels)
      (if gauge.readyOnly then (readyNodes nodes).length else nodes.length)) :
    Appends (consumeListedNodes listNodes gauge.nodeLabels consume)
      (errorOf (gauge.outcome listNodes)) (gauge.outcome listNodes).toOption.toList := by
  unfold consumeListedNodes PlannedGauge.outcome
  cases listNodes gauge.nodeLabels with
  | error err => exact appends_pure _
  | ok nodes =>
    have h := publishCount_appends gauge.vec (metricLabelsFrom gauge.nodeLabels)
      (if gauge.readyOnly then (readyNodes nodes).length else nodes.length)
    dsimp only
    rw [hConsume]
    by_cases hAccepts : gauge.vec.accepts (metricLabelsFrom gauge.nodeLabels) <;>
      simpa [hAccepts, errorOf, Except.toOption] using h

theorem publishReadyCount_appends (gaugeVec : GaugeVec) (nodeLabels : MatchingLabels) :
    Appends (publishReadyCount (consumeListedNodes listNodes) gaugeVec nodeLabels)
      (errorOf (PlannedGauge.outcome listNodes ⟨gaugeVec, nodeLabels, true⟩))
      (PlannedGauge.outcome listNodes ⟨gaugeVec, nodeLabels, true⟩).toOption.toList :=
  consumeListedNodes_appends listNodes ⟨gaugeVec, nodeLabels, true⟩ _ fun nodes => by
    simp [filterReadyNodes_eq]

/-- Publishing for a provisioner sets its planned gauges in order: each one whose listing
succeeds and whose labels the vector accepts is appended to the log, and the others' errors are
returned, in the same order. -/
theorem publishNodeCountsForProvisioner_appends
    (knownValuesForNodeLabels : AList fun _ : String => List String) (provisioner : String) :
    Appends (publishNodeCountsForProvisioner knownValuesForNodeLabels provisioner
        (consumeListedNodes listNodes))
      ((gaugePlan knownValuesForNodeLabels provisioner).filterMap
        fun gauge => errorOf (gauge.outcome listNodes))
      ((gaugePlan knownValuesForNodeLabels provisioner).filterMap
        fun gauge => (gauge.outcome listNodes).toOption) := by
  unfold publishNodeCountsForProvisioner
  dsimp only
  refine Appends.congr (appends_bind (consumeListedNodes_appends listNodes
      ⟨nodeCountByProvisioner, (∅ : StringMap).insert nodeLabelProvisioner provisioner, false⟩
      _ fun _ => rfl)
    (appends_bind (appends_mapM _ _ _ fun zone _ =>
      appends_bind (publishReadyCount_appends listNodes _ _)
        (appends_bind (appends_mapM _ _ _ fun _ _ => publishReadyCount_appends listNodes _ _)
          (appends_bind (appends_mapM _ _ _ fun _ _ => publishReadyCount_appends listNodes _ _)
            (appends_bind (appends_mapM _ _ _ fun _ _ => publishReadyCount_appends listNodes _ _)
              (appends_pure _))))) (appends_pure _))) ?_ ?_
  · rw [← Function.id_comp fun gauge : PlannedGauge => errorOf (gauge.outcome listNodes),
      ← List.filterMap_map]
    congr 1
    simp [gaugePlan, List.flatMap_def, Function.comp_def]
  · rw [List.filterMap_eq_flatMap_toList]
    simp [gaugePlan, List.flatMap_assoc, List.flatMap_map, Function.comp_def]

/-- Publishing goes through every planned gauge whatever the others did, as `multierr.Combine`
collects the errors: it returns, in order, the error of each gauge whose listing fails or whose
labels its vector rejects, and appends to the registry, in order, the set of each other gauge. -/
theorem publishNodeCountsForProvisioner_run
    (knownValuesForNodeLabels : AList fun _ : String => List String) (provisioner : String)
    (log : List GaugeSet) :
    (publishNodeCountsForProvisioner knownValuesForNodeLabels provisioner
        (consumeListedNodes listNodes)).run log =
      ((gaugePlan knownValuesForNodeLabels provisioner).filterMap
          fun gauge => errorOf (gauge.outcome listNodes),
        log ++ (gaugePlan knownValuesForNodeLabels provisioner).filterMap
          fun gauge => (gauge.outcome listNodes).toOption) :=
  publishNodeCountsForProvisioner_appends listNodes knownValuesForNodeLabels provisioner log

end Listing

/-- Every planned gauge's vector accepts the metric labels of the node labels it lists by, as long
as the provisioner's name and every known value are not empty: `metricLabelsFrom` copies each
node label to the metric label the vector names. -/
theorem gaugePlan_accepts (knownValuesForNodeLabels : AList fun _ : String => List String)
    (provisioner : String) (hProvisioner : provisioner ≠ "")
    (hValues : ∀ label, "" ∉ (knownValuesForNodeLabels.lookup label).getD []) :
    ∀ gauge ∈ gaugePlan knownValuesForNodeLabels provisioner,
      gauge.vec.accepts (metricLabelsFrom gauge.nodeLabels) := by
  have nonEmpty : ∀ {label value}, value ∈ (knownValuesForNodeLabels.lookup label).getD [] →
      value ≠ "" := fun h hEmpty => hValues _ (hEmpty ▸ h)
  simp only [gaugePlan, List.mem_cons, List.mem_flatMap, List.mem_append, List.mem_map]
  rintro gauge (rfl | ⟨zone, hZone, rfl | (⟨value, hValue, rfl⟩ | ⟨value, hValue, rfl⟩) |
    ⟨value, hValue, rfl⟩⟩)
  all_goals try replace hZone := nonEmpty hZone
  all_goals try replace hValue := nonEmpty hValue
  all_goals simp [*, GaugeVec.accepts, metricLabelsFrom, copyLabel, AList.lookup_insert_ne,
    AList.keys_insert, -AList.insert_empty]

theorem gaugePlan_length (knownValuesForNodeLabels : AList fun _ : String => List String)
    (provisioner : String) :
    (gaugePlan knownValuesForNodeLabels provisioner).length =
      1 + ((knownValuesForNodeLabels.lookup nodeLabelZone).getD []).length *
        (1 + ((knownValuesForNodeLabels.lookup nodeLabelArch).getD []).length +
          ((knownValuesForNodeLabels.lookup nodeLabelInstanceType).getD []).length +
          ((knownValuesForNodeLabels.lookup nodeLabelOS).getD []).length) := by
  simp [gaugePlan, Function.comp_def, List.map_const', List.sum_const_nat, Nat.add_comm,
    Nat.add_left_comm, Nat.add_assoc]

/-- The sets of outcomes that all succeed are the outcomes, one for each element, in order. -/
theorem forall₂_filterMap_toOption {α β : Type} {P : α → β → Prop} {outcome : α → Except String β}
    {l : List α} (h : ∀ a ∈ l, ∃ b, outcome a = .ok b ∧ P a b) :
    List.Forall₂ P l (l.filterMap fun a => (outcome a).toOption) := by
  induction l with
  | nil => exact .nil
  | cons a l ih =>
    obtain ⟨b, hOk, hP⟩ := h a (List.mem_cons_self a l)
    rw [List.filterMap_cons, hOk]
    exact .cons hP (ih fun a' ha' => h a' (List.mem_cons_of_mem a ha'))

/-- When every listing succeeds, and the provisioner's name and every known value are not empty,
publishing returns no error and sets every planned gauge, in the plan's order: the provisioner's
node count and, per known zone, the zone's ready count and one ready count per known
architecture, instance type and operating system. Each set is on the child the metric labels of
the planned node labels pick, and holds the number of listed nodes, or for a ready count the
number of Ready conditions whose status lower-cases to `"true"` that the listed nodes carry. -/
theorem publishNodeCountsForProvisioner_sets_every_gauge
    (listNodes : MatchingLabels → Except String (List Node))
    (knownValuesForNodeLabels : AList fun _ : String => List String) (provisioner : String)
    (hProvisioner : provisioner ≠ "")
    (hValues : ∀ label, "" ∉ (knownValuesForNodeLabels.lookup label).getD [])
    (hListed : ∀ nodeLabels, ∃ nodes, listNodes nodeLabels = .ok nodes) (log : List GaugeSet) :
    ∃ added, (publishNodeCountsForProvisioner knownValuesForNodeLabels provisioner
        (consumeListedNodes listNodes)).run log = ([], log ++ added) ∧
      List.Forall₂ (fun gauge set => ∃ nodes, listNodes gauge.nodeLabels = .ok nodes ∧
          set = ⟨gauge.vec, metricLabelsFrom gauge.nodeLabels,
            if gauge.readyOnly then
              (nodes.flatMap fun node => node.conditions.filter isReady).length
            else nodes.length⟩)
        (gaugePlan knownValuesForNodeLabels provisioner) added ∧
      added.length = 1 + ((knownValuesForNodeLabels.lookup nodeLabelZone).getD []).length *
        (1 + ((knownValuesForNodeLabels.lookup nodeLabelArch).getD []).length +
          ((knownValuesForNodeLabels.lookup nodeLabelInstanceType).getD []).length +
          ((knownValuesForNodeLabels.lookup nodeLabelOS).getD []).length) := by
  have hSet : ∀ gauge ∈ gaugePlan knownValuesForNodeLabels provisioner,
      ∃ set, gauge.outcome listNodes = .ok set ∧ ∃ nodes, listNodes gauge.nodeLabels = .ok nodes ∧
        set = ⟨gauge.vec, metricLabelsFrom gauge.nodeLabels,
          if gauge.readyOnly then (nodes.flatMap fun node => node.conditions.filter isReady).length
          else nodes.length⟩ := fun gauge hGauge =>
    let ⟨nodes, hNodes⟩ := hListed gauge.nodeLabels
    ⟨_, (PlannedGauge.outcome_eq_ok listNodes).mpr ⟨nodes, hNodes,
      gaugePlan_accepts knownValuesForNodeLabels provisioner hProvisioner hValues gauge hGauge,
      rfl⟩,
      nodes, hNodes, by rw [readyNodes_length]⟩
  have hErrors : (gaugePlan knownValuesForNodeLabels provisioner).filterMap
      (fun gauge => errorOf (gauge.outcome listNodes)) = [] :=
    List.filterMap_eq_nil_iff.mpr fun gauge hGauge => by
      obtain ⟨set, hOk, -⟩ := hSet gauge hGauge
      rw [hOk, errorOf]
  have hAdded := forall₂_filterMap_toOption hSet
  exact ⟨_, hErrors ▸ publishNodeCountsForProvisioner_appends listNodes _ _ log, hAdded,
    by rw [← hAdded.length_eq, gaugePlan_length]⟩

/-- When no listed node lists its Ready condition more than once, as the kubelet reports one
condition of each type, every gauge publishing sets holds the count of distinct nodes its listing
returned: all of them for the node count, the ready ones for the ready-node counts. -/
theorem publishNodeCountsForProvisioner_counts_listed
    (listNodes : MatchingLabels → Except String (List Node))
    (knownValuesForNodeLabels : AList fun _ : String => List String) (provisioner : String)
    (hReady : ∀ nodeLabels nodes, listNodes nodeLabels = .ok nodes →
      ∀ node ∈ nodes, node.conditions.countP isReady ≤ 1) (log : List GaugeSet) :
    ∃ added, ((publishNodeCountsForProvisioner knownValuesForNodeLabels provisioner
        (consumeListedNodes listNodes)).run log).2 = log ++ added ∧
      ∀ set ∈ added, ∃ gauge ∈ gaugePlan knownValuesForNodeLabels provisioner, ∃ nodes,
        listNodes gauge.nodeLabels = .ok nodes ∧ set.vec = gauge.vec ∧
        set.labels = metricLabelsFrom gauge.nodeLabels ∧
        set.value = (if gauge.readyOnly then nodes.filter (·.conditions.any isReady)
          else nodes).length := by
  refine ⟨_, congrArg Prod.snd (publishNodeCountsForProvisioner_appends listNodes _ _ log), ?_⟩
  simp only [List.mem_filterMap]
  rintro set ⟨gauge, hGauge, hSet⟩
  obtain ⟨nodes, hNodes, -, rfl⟩ :=
    (PlannedGauge.outcome_eq_ok listNodes).mp (toOption_eq_some.mp hSet)
  have hCount := filterReadyNodes_of_ready_le_one List.length nodes (hReady _ _ hNodes)
  rw [filterReadyNodes_eq] at hCount
  exact ⟨gauge, hGauge, nodes, hNodes, rfl, rfl, by rw [hCount, apply_ite List.length]⟩

/-- With `WellKnownLabels` as `register.go` declares it, every value list empty, publishing
lists the provisioner's nodes once and sets only their count, whatever the consumer: no
ready-node gauge is set until a cloud provider fills in the known values. -/
theorem publishNodeCountsForProvisioner_wellKnownLabels (provisioner : String)
    (consumeNodesWith : ConsumeNodesWith) :
    publishNodeCountsForProvisioner wellKnownLabels provisioner consumeNodesWith =
      Option.toList <$> consumeNodesWith ((∅ : StringMap).insert nodeLabelProvisioner provisioner)
        fun nodes => publishCount nodeCountByProvisioner
          (metricLabelsFrom ((∅ : StringMap).insert nodeLabelProvisioner provisioner))
          nodes.length :=
  rfl

/-- The API server's answer to a node listing by labels: the cluster's nodes that carry every
label. -/
def listMatchingNodes (cluster : List Node) (nodeLabels : MatchingLabels) :
    Except String (List Node) :=
  .ok (cluster.filter fun node => selectorMatches nodeLabels node.labels)

/-- `WellKnownLabels` as a cloud provider fills it for a cluster in one zone. -/
def oneZoneLabels : AList fun _ : String => List String :=
  wellKnownLabels.insert labelTopologyZone ["zone-a"]

/-- Every value `oneZoneLabels` lists is a name. -/
theorem oneZoneLabels_values (label : String) : "" ∉ (oneZoneLabels.lookup label).getD [] := by
  cases hLookup : oneZoneLabels.lookup label with
  | none => simp
  | some values =>
    have hEntry := AList.mem_lookup_iff.mp hLookup
    have hEntries : oneZoneLabels.entries = [⟨labelTopologyZone, ["zone-a"]⟩,
        ⟨labelArchStable, []⟩, ⟨labelOSStable, []⟩, ⟨labelInstanceTypeStable, []⟩] := rfl
    rw [hEntries] at hEntry
    simp at hEntry
    rcases hEntry with ⟨-, rfl⟩ | ⟨-, rfl⟩ | ⟨-, rfl⟩ | ⟨-, rfl⟩ <;> simp

/-- A node of the default provisioner in that zone that is ready. -/
def readyNode : Node :=
  ⟨"ready", ((∅ : StringMap).insert nodeLabelProvisioner "default").insert nodeLabelZone
    "zone-a", [⟨"Ready", "True"⟩]⟩

theorem publishNodeCountsForProvisioner_sets_every_gauge_readyNode :
    ∃ added, (publishNodeCountsForProvisioner oneZoneLabels "default"
        (consumeListedNodes (listMatchingNodes [readyNode]))).run [] = ([], [] ++ added) ∧
      List.Forall₂ (fun gauge set => ∃ nodes, listMatchingNodes [readyNode] gauge.nodeLabels =
          .ok nodes ∧ set = ⟨gauge.vec, metricLabelsFrom gauge.nodeLabels,
            if gauge.readyOnly then
              (nodes.flatMap fun node => node.conditions.filter isReady).length
            else nodes.length⟩)
        (gaugePlan oneZoneLabels "default") added ∧
      added.length = 1 + ((oneZoneLabels.lookup nodeLabelZone).getD []).length *
        (1 + ((oneZoneLabels.lookup nodeLabelArch).getD []).length +
          ((oneZoneLabels.lookup nodeLabelInstanceType).getD []).length +
          ((oneZoneLabels.lookup nodeLabelOS).getD []).length) :=
  publishNodeCountsForProvisioner_sets_every_gauge _ oneZoneLabels "default" (by decide)
    oneZoneLabels_values (fun _ => ⟨_, rfl⟩) []

theorem publishNodeCountsForProvisioner_counts_listed_readyNode :
    ∃ added, ((publishNodeCountsForProvisioner oneZoneLabels "default"
        (consumeListedNodes (listMatchingNodes [readyNode]))).run []).2 = [] ++ added ∧
      ∀ set ∈ added, ∃ gauge ∈ gaugePlan oneZoneLabels "default", ∃ nodes,
        listMatchingNodes [readyNode] gauge.nodeLabels = .ok nodes ∧ set.vec = gauge.vec ∧
        set.labels = metricLabelsFrom gauge.nodeLabels ∧
        set.value = (if gauge.readyOnly then nodes.filter (·.conditions.any isReady)
          else nodes).length :=
  publishNodeCountsForProvisioner_counts_listed _ oneZoneLabels "default" (by
    rintro nodeLabels nodes ⟨⟩ node hNode
    rw [(List.mem_singleton.mp (List.mem_filter.mp hNode).1)]
    decide) []

/-- A node of the default provisioner in that zone whose status lists its Ready condition
twice. -/
def twiceReadyNode : Node :=
  ⟨"twice-ready", ((∅ : StringMap).insert nodeLabelProvisioner "default").insert nodeLabelZone
    "zone-a", [⟨"Ready", "True"⟩, ⟨"Ready", "True"⟩]⟩

/-- One listed node with two ready conditions reaches the consumer twice, and in a cluster of that
one node the provisioner's zone gauge reads two ready nodes. -/
theorem publishNodeCountsForProvisioner_twiceReadyNode :
    filterReadyNodes id [twiceReadyNode] = [twiceReadyNode, twiceReadyNode] ∧
      ((publishNodeCountsForProvisioner oneZoneLabels "default"
        (consumeListedNodes (listMatchingNodes [twiceReadyNode]))).run []).2.map
          (fun set => (set.vec.name, set.value)) = [("node_count", 1), ("ready_node_count", 2)] :=
  ⟨rfl, rfl⟩

end Karpenter.Metrics.Node
