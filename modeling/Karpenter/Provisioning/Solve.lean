import Karpenter.Provisioning.Grouping

/-! The scheduler's `solve`: the provisioner's constraints are constrained at run time, the
pods' preferences relaxed and their topology injected, the pods grouped into schedules, and the
hostname label that injection adds removed from every schedule. Every failure names its stage. -/

namespace Karpenter.Scheduling

open V1 V1alpha4

/-- The body of the last loop of `solve`: the schedule without the hostname label. -/
def Schedule.withoutHostname (schedule : Schedule) : Schedule :=
  { schedule with
    constraints := { schedule.constraints with
      labels := schedule.constraints.labels.erase labelHostname } }

section Pass

/-! `Constraints.Constrain`, `Preferences.Relax` and `Topology.Inject` are not part of this
source: `solve` takes them as arguments, the derivation and the hash with them. Relaxing cannot
fail; constraining and injecting can. Go's `DeepCopy` before constraining is implicit here: no
function of the model changes its arguments. -/

variable (newConstraints : Constraints → Pod → Except String Constraints)
  (hash : Constraints → Except String UInt64)
  (constrain : Constraints → Except String Constraints) (relax : List Pod → List Pod)
  (inject : Constraints → List Pod → Except String (List Pod))

/-- `solve`. -/
def Scheduler.solve (s : Scheduler) (constraints : Constraints) (pods : List Pod) :
    Except String (List Schedule) := do
  -- Apply runtime constraints
  let constraints ← (constrain constraints).mapError ("applying constraints, " ++ ·)
  -- Relax preferences if pods have previously failed to schedule.
  let pods := relax pods
  -- Inject temporarily adds specific NodeSelectors to pods
  let pods ← (inject constraints pods).mapError ("injecting topology, " ++ ·)
  -- Separate pods into schedules of isomorphic scheduling constraints.
  let schedules ← (s.getSchedules newConstraints hash constraints pods).mapError
    ("getting schedules, " ++ ·)
  -- Remove labels injected by TopologySpreadConstraints.
  pure (schedules.map Schedule.withoutHostname)

variable {newConstraints hash constrain relax inject} {s : Scheduler} {c : Constraints}

/-- Every failure of `solve` names its stage and carries the collaborator's error: constraining,
topology injection, hashing one pod's constraints, or one daemon-set listing. -/
theorem solve_eq_error {pods : List Pod} {msg : String}
    (h : s.solve newConstraints hash constrain relax inject c pods = .error msg) :
    (∃ e, constrain c = .error e ∧ msg = "applying constraints, " ++ e) ∨
    ∃ constrained, constrain c = .ok constrained ∧
      ((∃ e, inject constrained (relax pods) = .error e ∧ msg = "injecting topology, " ++ e) ∨
        ∃ injected, inject constrained (relax pods) = .ok injected ∧
          ((∃ pod ∈ injected, ∃ constraints e, newConstraints constrained pod = .ok constraints ∧
              hash constraints = .error e ∧ msg = "getting schedules, hashing constraints, " ++ e) ∨
            ∃ call e, s.kubeClient.listDaemonSets call = .error e ∧
              msg = "getting schedules, computing node overhead, listing daemonsets, " ++ e)) := by
  simp only [Scheduler.solve, bind_eq_error, mapError_eq_error, mapError_eq_ok] at h
  rcases h with ⟨e, hConstrain, rfl⟩ | ⟨constrained, hConstrain, h⟩
  · exact .inl ⟨e, hConstrain, rfl⟩
  refine .inr ⟨constrained, hConstrain, ?_⟩
  rcases h with ⟨e, hInject, rfl⟩ | ⟨injected, hInject, h⟩
  · exact .inl ⟨e, hInject, rfl⟩
  refine .inr ⟨injected, hInject, ?_⟩
  rcases h with ⟨e, hGroup, rfl⟩ | ⟨_, -, h⟩
  · rcases getSchedules_eq_error hGroup with
      ⟨pod, hPod, constraints, e', hDerive, hKey, rfl⟩ | ⟨call, e', hList, rfl⟩
    · exact .inl ⟨pod, hPod, constraints, e', hDerive, hKey, by rw [← String.append_assoc]; rfl⟩
    · exact .inr ⟨call, e', hList, by rw [← String.append_assoc]; rfl⟩
  · cases h

theorem solve_eq_error_injectFails :
    exampleScheduler.solve exampleNewConstraints exampleHash .ok id
        (fun _ _ => .error "listing nodes") exampleConstraints examplePods =
      .error "injecting topology, listing nodes" ∧
    ((∃ e, (Except.ok exampleConstraints : Except String Constraints) = .error e ∧
        "injecting topology, listing nodes" = "applying constraints, " ++ e) ∨
      ∃ constrained, (Except.ok exampleConstraints : Except String Constraints) = .ok constrained ∧
        ((∃ e, (Except.error "listing nodes" : Except String (List Pod)) = .error e ∧
            "injecting topology, listing nodes" = "injecting topology, " ++ e) ∨
          ∃ injected, (Except.error "listing nodes" : Except String (List Pod)) = .ok injected ∧
            ((∃ pod ∈ injected, ∃ constraints e,
                exampleNewConstraints constrained pod = .ok constraints ∧
                exampleHash constraints = .error e ∧
                "injecting topology, listing nodes" = "getting schedules, hashing constraints, " ++ e) ∨
              ∃ call e, exampleScheduler.kubeClient.listDaemonSets call = .error e ∧
                "injecting topology, listing nodes" =
                  "getting schedules, computing node overhead, listing daemonsets, " ++ e))) :=
  ⟨rfl, @solve_eq_error exampleNewConstraints exampleHash .ok id (fun _ _ => .error "listing nodes")
    exampleScheduler exampleConstraints examplePods _ rfl⟩

/-- `solve` succeeds whenever its collaborators do: constraining and injection succeed, every
constraints value hashes and every daemon-set listing answers. A pod whose constraints cannot be
derived never makes it fail. -/
theorem solve_succeeds {pods : List Pod} {constrained : Constraints} {injected : List Pod}
    (hConstrain : constrain c = .ok constrained)
    (hInject : inject constrained (relax pods) = .ok injected)
    (hHash : ∀ constraints, ∃ key, hash constraints = .ok key)
    (hList : ∀ call, ∃ daemonSets, s.kubeClient.listDaemonSets call = .ok daemonSets) :
    ∃ schedules, s.solve newConstraints hash constrain relax inject c pods = .ok schedules := by
  cases hGroup : s.getSchedules newConstraints hash constrained injected with
  | error e =>
    rcases getSchedules_eq_error hGroup with
      ⟨-, -, constraints, e', -, hKey, -⟩ | ⟨call, e', hListed, -⟩
    · obtain ⟨key, hKey'⟩ := hHash constraints
      cases hKey.symm.trans hKey'
    · obtain ⟨daemonSets, hListed'⟩ := hList call
      cases hListed.symm.trans hListed'
  | ok grouped =>
    exact ⟨grouped.map Schedule.withoutHostname, by simp [Scheduler.solve, hConstrain, hInject,
      hGroup, Except.mapError, bind, Except.bind, pure, Except.pure]⟩

theorem solve_succeeds_examplePods :
    ∃ schedules, exampleScheduler.solve exampleNewConstraints exampleHash .ok id (fun _ => .ok)
      exampleConstraints examplePods = .ok schedules :=
  @solve_succeeds exampleNewConstraints exampleHash .ok id (fun _ => .ok) exampleScheduler
    exampleConstraints examplePods _ _ rfl rfl (fun _ => ⟨_, rfl⟩) (fun _ => ⟨_, rfl⟩)

/-- What a successful `solve` did: it constrained, injected, ran the grouping loop to the end
and stripped the hostname label. -/
theorem exists_of_solve_eq_ok {pods : List Pod} {schedules : List Schedule}
    (h : s.solve newConstraints hash constrain relax inject c pods = .ok schedules) :
    ∃ constrained injected st, constrain c = .ok constrained ∧
      inject constrained (relax pods) = .ok injected ∧
      s.getSchedulesLoop newConstraints hash constrained injected .init = .ok st ∧
      schedules = st.result.map Schedule.withoutHostname := by
  simp only [Scheduler.solve, bind_eq_ok, mapError_eq_ok] at h
  obtain ⟨constrained, hConstrain, injected, hInject, grouped, hGroup, hResult⟩ := h
  obtain ⟨st, hLoop, rfl⟩ := getSchedules_eq_ok.mp hGroup
  exact ⟨constrained, injected, st, hConstrain, hInject, hLoop, (Except.ok.inj hResult).symm⟩

/-- A successful `solve` returns the grouping of the constrained, relaxed and injected pods,
a partition of them by hash, with the hostname label removed from every schedule. -/
theorem solve_partition {pods : List Pod} {schedules : List Schedule}
    (h : s.solve newConstraints hash constrain relax inject c pods = .ok schedules) :
    ∃ constrained injected grouped, constrain c = .ok constrained ∧
      inject constrained (relax pods) = .ok injected ∧
      IsPartition newConstraints hash constrained injected grouped ∧
      schedules = grouped.map Schedule.withoutHostname ∧
      ∀ schedule ∈ schedules, labelHostname ∉ schedule.constraints.labels := by
  obtain ⟨constrained, injected, st, hConstrain, hInject, hLoop, rfl⟩ := exists_of_solve_eq_ok h
  refine ⟨constrained, injected, st.result, hConstrain, hInject,
    (groups_of_getSchedulesLoop hLoop).isPartition, rfl, ?_⟩
  simp [Schedule.withoutHostname, AList.mem_erase]

theorem solve_partition_examplePods :
    exampleScheduler.solve exampleNewConstraints exampleHash .ok id (fun _ => .ok)
        exampleConstraints examplePods = .ok (exampleSchedules.map Schedule.withoutHostname) ∧
    ∃ constrained injected grouped,
      (Except.ok exampleConstraints : Except String Constraints) = .ok constrained ∧
      (Except.ok (id examplePods) : Except String (List Pod)) = .ok injected ∧
      IsPartition exampleNewConstraints exampleHash constrained injected grouped ∧
      exampleSchedules.map Schedule.withoutHostname = grouped.map Schedule.withoutHostname ∧
      ∀ schedule ∈ exampleSchedules.map Schedule.withoutHostname,
        labelHostname ∉ schedule.constraints.labels :=
  ⟨rfl, @solve_partition exampleNewConstraints exampleHash .ok id (fun _ => .ok) exampleScheduler
    exampleConstraints examplePods _ rfl⟩

/-- Removing the hostname label and dropping the daemons commute. -/
theorem map_withoutHostname_withoutDaemons (schedules : List Schedule) :
    (schedules.map Schedule.withoutHostname).map Schedule.withoutDaemons =
      (schedules.map Schedule.withoutDaemons).map Schedule.withoutHostname := by
  simp only [List.map_map]
  rfl

/-- Two successful runs of `solve` on the same pods, whatever daemon sets their clusters list,
return the same schedules up to order, with the same constraints and the same pods in the same
order: only the daemons can differ. The model reads the schedule map in one fixed order, in which
the two lists are even equal; Go ranges over the map in an order it leaves open. -/
theorem solve_withoutDaemons_eq {s' : Scheduler} {pods : List Pod}
    {schedules schedules' : List Schedule}
    (h : s.solve newConstraints hash constrain relax inject c pods = .ok schedules)
    (h' : s'.solve newConstraints hash constrain relax inject c pods = .ok schedules') :
    (schedules.map Schedule.withoutDaemons).Perm (schedules'.map Schedule.withoutDaemons) := by
  obtain ⟨constrained, injected, st, hConstrain, hInject, hLoop, rfl⟩ := exists_of_solve_eq_ok h
  obtain ⟨constrained', injected', st', hConstrain', hInject', hLoop', rfl⟩ :=
    exists_of_solve_eq_ok h'
  obtain rfl : constrained = constrained' := Except.ok.inj (hConstrain.symm.trans hConstrain')
  obtain rfl : injected = injected' := Except.ok.inj (hInject.symm.trans hInject')
  refine .of_eq ?_
  rw [map_withoutHostname_withoutDaemons, map_withoutHostname_withoutDaemons,
    getSchedules_withoutDaemons (getSchedules_eq_ok.mpr ⟨st, hLoop, rfl⟩)
      (getSchedules_eq_ok.mpr ⟨st', hLoop', rfl⟩)]

/-- A cluster without daemon sets. -/
def noDaemonsScheduler : Scheduler := ⟨⟨fun _ => .ok []⟩⟩

theorem solve_withoutDaemons_eq_noDaemons :
    ((exampleSchedules.map Schedule.withoutHostname).map Schedule.withoutDaemons).Perm
      (((exampleSchedules.map Schedule.withoutDaemons).map Schedule.withoutHostname).map
        Schedule.withoutDaemons) :=
  @solve_withoutDaemons_eq exampleNewConstraints exampleHash .ok id (fun _ => .ok)
    exampleScheduler exampleConstraints noDaemonsScheduler examplePods _ _ rfl rfl

/-! ## The exported `Solve`

`Solve` times `solve` and observes the duration on the scheduling-duration histogram, under the
provisioner's name and the result. The clock is not modelled: the duration is what `time.Since`
returns, a parameter. So are the two label names, constants of `pkg/metrics` outside this source;
the histogram's `GetMetricWith` accepts exactly labels that name both. When it refuses them,
`Solve` only logs a warning, which the model leaves out. -/

/-- What `Solve` reads of a provisioner: its name and its constraints. -/
structure Provisioner where
  name : String
  constraints : Constraints

/-- One observation on the histogram: the labels that picked its child, and the duration. -/
structure Observation where
  labels : StringMap
  durationSeconds : Float

/-- The result label `Solve` records. -/
def resultOf {α : Type} : Except String α → String
  | .ok _ => "success"
  | .error _ => "error"

section Exported

variable (provisionerLabel resultLabel : String)

/-- `GetMetricWith` on the histogram: the labels name exactly its two label names. -/
def histogramAccepts (labels : StringMap) : Bool :=
  labels.keys.length == 2 && decide (provisionerLabel ∈ labels) && decide (resultLabel ∈ labels)

variable (newConstraints hash constrain relax inject) in
/-- `Solve`: the schedules and error of `solve` on the provisioner's constraints, with one
observation of the duration when the histogram accepts the labels. -/
def Scheduler.Solve (s : Scheduler) (provisioner : Provisioner) (pods : List Pod)
    (durationSeconds : Float) : StateM (List Observation) (Except String (List Schedule)) := do
  let schedules := s.solve newConstraints hash constrain relax inject provisioner.constraints pods
  let newLabels := ((∅ : StringMap).insert provisionerLabel provisioner.name).insert resultLabel
    (resultOf schedules)
  if histogramAccepts provisionerLabel resultLabel newLabels then
    modify (· ++ [⟨newLabels, durationSeconds⟩])
  pure schedules

variable {provisionerLabel resultLabel}

/-- With two distinct label names, `Solve` returns what `solve` returns and records one
observation, under the provisioner's name and `"success"` or `"error"` as `solve` succeeded. -/
theorem Solve_run (hLabels : provisionerLabel ≠ resultLabel) (provisioner : Provisioner)
    (pods : List Pod) (durationSeconds : Float) (log : List Observation) :
    (s.Solve newConstraints hash constrain relax inject provisionerLabel resultLabel provisioner
        pods durationSeconds).run log =
      (s.solve newConstraints hash constrain relax inject provisioner.constraints pods,
        log ++ [⟨((∅ : StringMap).insert provisionerLabel provisioner.name).insert resultLabel
          (resultOf (s.solve newConstraints hash constrain relax inject provisioner.constraints
            pods)), durationSeconds⟩]) := by
  have hAccepts : ∀ name result : String, histogramAccepts provisionerLabel resultLabel
      (((∅ : StringMap).insert provisionerLabel name).insert resultLabel result) = true := by
    intro name result
    simp [histogramAccepts, AList.keys_insert, -AList.insert_empty, hLabels, Ne.symm hLabels]
  simp only [Scheduler.Solve, hAccepts, if_true]
  rfl

end Exported

end Pass

end Karpenter.Scheduling
