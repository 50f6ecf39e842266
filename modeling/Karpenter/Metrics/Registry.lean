import Karpenter.Metrics.NodeCounter

/-! The registry a publishing round leaves behind. `GetMetricWith` picks a vector's child by the
values of the vector's label names and `Set` overwrites that child, so for each child the
registry shows the last value set on it. Every gauge a round plans picks a child of its own: the
child's label values give the gauge's node labels back. So no gauge of a round is overwritten by
another gauge's count, whatever the registry held before. -/

namespace Karpenter.Metrics.Node

open V1 V1alpha4

/-- The child of a vector that `GetMetricWith(labels)` picks: the values of the vector's label
names, in their order. -/
def GaugeVec.childKey (gaugeVec : GaugeVec) (labels : StringMap) : List (Option String) :=
  gaugeVec.labelNames.map fun name => labels.lookup name

/-- What the registry shows for a child after a log of sets: the value of the last set that
picked it. -/
def childValue (log : List GaugeSet) (gaugeVec : GaugeVec) (key : List (Option String)) :
    Option Nat :=
  (log.reverse.find? fun set => set.vec = gaugeVec ∧ set.vec.childKey set.labels = key).map
    GaugeSet.value

/-- A set in the last part of a log shows for its child when every set there that picks the
same child sets the same value. -/
theorem childValue_append_of_mem {log added : List GaugeSet} {set : GaugeSet} (hSet : set ∈ added)
    (hSame : ∀ set' ∈ added, set'.vec = set.vec →
      set'.vec.childKey set'.labels = set.vec.childKey set.labels → set' = set) :
    childValue (log ++ added) set.vec (set.vec.childKey set.labels) = some set.value := by
  unfold childValue
  rw [List.reverse_append, List.find?_append]
  obtain ⟨set', hFind⟩ := Option.isSome_iff_exists.mp (List.find?_isSome.mpr
    ⟨set, List.mem_reverse.mpr hSet, by simp⟩ : (added.reverse.find? fun set' =>
      set'.vec = set.vec ∧ set'.vec.childKey set'.labels = set.vec.childKey set.labels).isSome)
  have hMatch : set'.vec = set.vec ∧ set'.vec.childKey set'.labels = set.vec.childKey set.labels :=
    by simpa using List.find?_some hFind
  rw [hFind, hSame set' (List.mem_reverse.mp (List.mem_of_find?_eq_some hFind)) hMatch.1 hMatch.2]
  rfl

/-- A child that no set in the last part of a log picks shows what it showed before. -/
theorem childValue_append_of_not_picked {log added : List GaugeSet} {gaugeVec : GaugeVec}
    {key : List (Option String)}
    (h : ∀ set ∈ added, ¬(set.vec = gaugeVec ∧ set.vec.childKey set.labels = key)) :
    childValue (log ++ added) gaugeVec key = childValue log gaugeVec key := by
  unfold childValue
  rw [List.reverse_append, List.find?_append, List.find?_eq_none.mpr fun set hSet => by
    simpa using h set (List.mem_reverse.mp hSet)]
  rfl

/-! ## The child a planned gauge picks -/

/-- What `metricLabelsFrom` keeps of a node label: its value, unless it is missing or empty. -/
def keptValue (value : Option String) : Option String :=
  if value.getD "" ≠ "" then some (value.getD "") else none

/-- A value that was there is read back from what was kept of it, empty or not. -/
theorem keptValue_getD (value : String) : (keptValue (some value)).getD "" = value := by
  by_cases h : value = "" <;> simp [keptValue, h]

theorem lookup_copyLabel {nodeLabels metricLabels : StringMap}
    {nodeLabel metricLabel key : String} :
    (copyLabel nodeLabels metricLabels nodeLabel metricLabel).lookup key =
      if key = metricLabel then (keptValue (nodeLabels.lookup nodeLabel)).or
        (metricLabels.lookup key)
      else metricLabels.lookup key := by
  rcases eq_or_ne key metricLabel with rfl | hKey <;>
    by_cases hValue : (nodeLabels.lookup nodeLabel).getD "" = "" <;>
    simp [copyLabel, keptValue, hValue, AList.lookup_insert_ne, *]

/-- The vector of a per-value gauge names the node label it counts by. -/
def valueNodeLabel (gaugeVec : GaugeVec) : String :=
  if gaugeVec = readyNodeCountByArchProvisionerZone then nodeLabelArch
  else if gaugeVec = readyNodeCountByInstancetypeProvisionerZone then nodeLabelInstanceType
  else nodeLabelOS

/-- The planned gauge that picks a child of a vector: a child of one label is the provisioner's
node count, of two a zone's ready count, of three a ready count per value in a zone. -/
def plannedOfChild (gaugeVec : GaugeVec) : List (Option String) → PlannedGauge
  | [provisioner] =>
    ⟨gaugeVec, (∅ : StringMap).insert nodeLabelProvisioner (provisioner.getD ""), false⟩
  | [provisioner, zone] =>
    ⟨gaugeVec, ((∅ : StringMap).insert nodeLabelProvisioner (provisioner.getD "")).insert
      nodeLabelZone (zone.getD ""), true⟩
  | [value, provisioner, zone] =>
    ⟨gaugeVec, (((∅ : StringMap).insert (valueNodeLabel gaugeVec) (value.getD "")).insert
      nodeLabelProvisioner (provisioner.getD "")).insert nodeLabelZone (zone.getD ""), true⟩
  | _ => ⟨gaugeVec, ∅, false⟩

section Plan

variable {knownValuesForNodeLabels knownValuesForNodeLabels' : AList fun _ : String => List String}
  {provisioner provisioner' : String} {gauge gauge' : PlannedGauge}

/-- The child a planned gauge picks gives the gauge back. -/
theorem plannedOfChild_childKey (h : gauge ∈ gaugePlan knownValuesForNodeLabels provisioner) :
    plannedOfChild gauge.vec (gauge.vec.childKey (metricLabelsFrom gauge.nodeLabels)) = gauge := by
  simp only [gaugePlan, List.mem_cons, List.mem_flatMap, List.mem_append, List.mem_map] at h
  rcases h with rfl | ⟨zone, -, rfl | (⟨value, -, rfl⟩ | ⟨value, -, rfl⟩) | ⟨value, -, rfl⟩⟩
  all_goals simp [plannedOfChild, GaugeVec.childKey, metricLabelsFrom, lookup_copyLabel,
    keptValue_getD, valueNodeLabel, AList.lookup_insert_ne, -AList.insert_empty]

/-- Every node label set a planned gauge lists by names the provisioner. -/
theorem lookup_provisioner_of_mem_gaugePlan
    (h : gauge ∈ gaugePlan knownValuesForNodeLabels provisioner) :
    gauge.nodeLabels.lookup nodeLabelProvisioner = some provisioner := by
  simp only [gaugePlan, List.mem_cons, List.mem_flatMap, List.mem_append, List.mem_map] at h
  rcases h with rfl | ⟨zone, -, rfl | (⟨value, -, rfl⟩ | ⟨value, -, rfl⟩) | ⟨value, -, rfl⟩⟩
  all_goals simp [AList.lookup_insert_ne, -AList.insert_empty]

/-- Two planned gauges of one vector that pick the same child are the same gauge, whatever plans
they come from. -/
theorem gaugePlan_child_injective (h : gauge ∈ gaugePlan knownValuesForNodeLabels provisioner)
    (h' : gauge' ∈ gaugePlan knownValuesForNodeLabels' provisioner') (hVec : gauge.vec = gauge'.vec)
    (hKey : gauge.vec.childKey (metricLabelsFrom gauge.nodeLabels) =
      gauge'.vec.childKey (metricLabelsFrom gauge'.nodeLabels)) :
    gauge = gauge' :=
  calc gauge
      = plannedOfChild gauge.vec (gauge.vec.childKey (metricLabelsFrom gauge.nodeLabels)) :=
        (plannedOfChild_childKey h).symm
    _ = plannedOfChild gauge'.vec (gauge'.vec.childKey (metricLabelsFrom gauge'.nodeLabels)) := by
        rw [hKey, hVec]
    _ = gauge' := plannedOfChild_childKey h'

variable (listNodes listNodes' : MatchingLabels → Except String (List Node))

/-- Two sets of publishing rounds, whatever their listings, that pick the same child come from
one planned gauge, which both rounds plan. -/
theorem planned_of_picked {set set' : GaugeSet}
    (h : set ∈ (gaugePlan knownValuesForNodeLabels provisioner).filterMap
      fun gauge => (gauge.outcome listNodes).toOption)
    (h' : set' ∈ (gaugePlan knownValuesForNodeLabels' provisioner').filterMap
      fun gauge => (gauge.outcome listNodes').toOption)
    (hVec : set'.vec = set.vec)
    (hKey : set'.vec.childKey set'.labels = set.vec.childKey set.labels) :
    ∃ gauge, gauge ∈ gaugePlan knownValuesForNodeLabels provisioner ∧
      gauge ∈ gaugePlan knownValuesForNodeLabels' provisioner' ∧
      gauge.outcome listNodes = .ok set ∧ gauge.outcome listNodes' = .ok set' := by
  obtain ⟨gauge, hGauge, hOut⟩ := List.mem_filterMap.mp h
  obtain ⟨gauge', hGauge', hOut'⟩ := List.mem_filterMap.mp h'
  obtain ⟨nodes, -, -, hSet⟩ := (PlannedGauge.outcome_eq_ok listNodes).mp (toOption_eq_some.mp hOut)
  obtain ⟨nodes', -, -, hSet'⟩ :=
    (PlannedGauge.outcome_eq_ok listNodes').mp (toOption_eq_some.mp hOut')
  obtain rfl : gauge' = gauge := gaugePlan_child_injective hGauge' hGauge
    (by simpa only [hSet, hSet'] using hVec) (by simpa only [hSet, hSet'] using hKey)
  exact ⟨gauge', hGauge, hGauge', toOption_eq_some.mp hOut, toOption_eq_some.mp hOut'⟩

/-- Two sets of rounds with one listing that pick the same child are the same set. -/
theorem eq_of_picked {set set' : GaugeSet}
    (h : set ∈ (gaugePlan knownValuesForNodeLabels provisioner).filterMap
      fun gauge => (gauge.outcome listNodes).toOption)
    (h' : set' ∈ (gaugePlan knownValuesForNodeLabels' provisioner').filterMap
      fun gauge => (gauge.outcome listNodes).toOption)
    (hVec : set'.vec = set.vec)
    (hKey : set'.vec.childKey set'.labels = set.vec.childKey set.labels) :
    set' = set := by
  obtain ⟨gauge, -, -, hOut, hOut'⟩ := planned_of_picked listNodes listNodes h h' hVec hKey
  exact Except.ok.inj (hOut'.symm.trans hOut)

/-- After a publishing round, every gauge the round set shows the count the round set on it,
whatever the registry held before: the gauges of a round pick children of their own, and a
gauge planned twice is set to the same count both times. -/
theorem publishNodeCountsForProvisioner_registry (log : List GaugeSet) :
    ∃ added, ((publishNodeCountsForProvisioner knownValuesForNodeLabels provisioner
        (consumeListedNodes listNodes)).run log).2 = log ++ added ∧
      ∀ set ∈ added, childValue (log ++ added) set.vec (set.vec.childKey set.labels) =
        some set.value := by
  exact ⟨_, congrArg Prod.snd (publishNodeCountsForProvisioner_appends listNodes _ _ log),
    fun set hSet => childValue_append_of_mem hSet fun _ hSet' => eq_of_picked listNodes hSet hSet'⟩

/-- Publishing rounds for two different provisioners pick disjoint children: a round for one
provisioner never overwrites a count an earlier round set for another, whatever the known values
and the node listings of each round. -/
theorem publishNodeCountsForProvisioner_isolated (hDistinct : provisioner ≠ provisioner')
    (log : List GaugeSet) :
    ∃ added added', ((publishNodeCountsForProvisioner knownValuesForNodeLabels provisioner
        (consumeListedNodes listNodes)).run log).2 = log ++ added ∧
      ((publishNodeCountsForProvisioner knownValuesForNodeLabels' provisioner'
        (consumeListedNodes listNodes')).run (log ++ added)).2 = log ++ added ++ added' ∧
      ∀ set ∈ added, childValue (log ++ added ++ added') set.vec (set.vec.childKey set.labels) =
        some set.value := by
  refine ⟨_, _, congrArg Prod.snd (publishNodeCountsForProvisioner_appends listNodes _ _ log),
    congrArg Prod.snd (publishNodeCountsForProvisioner_appends listNodes' _ _ _),
    fun set hSet => ?_⟩
  rw [childValue_append_of_not_picked fun set' hSet' hPick => by
    obtain ⟨gauge, hGauge, hGauge', -⟩ := planned_of_picked listNodes listNodes' hSet hSet'
      hPick.1 hPick.2
    exact hDistinct (Option.some.inj ((lookup_provisioner_of_mem_gaugePlan hGauge).symm.trans
      (lookup_provisioner_of_mem_gaugePlan hGauge')))]
  exact childValue_append_of_mem hSet fun _ hSet' => eq_of_picked listNodes hSet hSet'

end Plan

theorem publishNodeCountsForProvisioner_isolated_readyNode :
    "default" ≠ "other" ∧
    ∃ added added', ((publishNodeCountsForProvisioner oneZoneLabels "default"
        (consumeListedNodes (listMatchingNodes [readyNode]))).run []).2 = [] ++ added ∧
      ((publishNodeCountsForProvisioner oneZoneLabels "other"
        (consumeListedNodes (listMatchingNodes []))).run ([] ++ added)).2 =
          [] ++ added ++ added' ∧
      ∀ set ∈ added, childValue ([] ++ added ++ added') set.vec (set.vec.childKey set.labels) =
        some set.value :=
  ⟨by decide, publishNodeCountsForProvisioner_isolated (listMatchingNodes [readyNode])
    (listMatchingNodes []) (by decide) []⟩

end Karpenter.Metrics.Node
