import Karpenter.Provisioning.V1alpha4

/-! The grouping pass of the scheduler. Each pod's constraints are derived and hashed; the
first pod of a hash creates a schedule, whose daemon overhead is computed once from a
daemon-set listing; every pod of the hash is appended to it. -/

namespace Karpenter.Scheduling

open V1 V1alpha4

/-- A daemon set; only the spec of its pod template is read. -/
structure DaemonSet where
  template : PodSpec

/-- The cluster reader as `getDaemons` uses it: the reply to the `n`-th daemon-set `List`
call of a pass, counted from zero. Every sequence of listings and failures is one client. -/
structure KubeClient where
  listDaemonSets : Nat → Except String (List DaemonSet)

/-- The scheduler; its topology and preference collaborators are arguments of `solve`. -/
structure Scheduler where
  kubeClient : KubeClient

structure Schedule where
  constraints : Constraints
  /-- Pods that may schedule to the node; used for binpacking. -/
  pods : List Pod
  /-- Daemons that will schedule to the node; used for overhead. -/
  daemons : List Pod

/-- Modelled from the spec: `scheduling.Taints.Tolerates` is not in the source. It reports no
error when every taint is tolerated by some toleration of the pod. -/
def tolerates (taints : List Taint) (pod : Pod) : Bool :=
  taints.all fun taint => pod.spec.tolerations.any (·.toleratesTaint taint)

/-- `DaemonWillSchedule`: whether the daemon pod can schedule to a node with the constraints.
Node affinity is not consulted; the source leaves it as a TODO. -/
def daemonWillSchedule (constraints : Constraints) (pod : Pod) : Bool :=
  if !tolerates constraints.taints pod then false
  else if !selectorMatches pod.spec.nodeSelector constraints.labels then false
  else true

/-- A daemon schedules to a node with the constraints exactly when its tolerations cover every
taint of the constraints and the constraints' labels satisfy its node selector; node affinity
plays no part. -/
theorem daemonWillSchedule_iff (constraints : Constraints) (pod : Pod) :
    daemonWillSchedule constraints pod = true ↔
      (∀ taint ∈ constraints.taints, ∃ toleration ∈ pod.spec.tolerations,
        toleration.toleratesTaint taint = true) ∧
      ∀ label ∈ pod.spec.nodeSelector.entries, constraints.labels.lookup label.1 = some label.2 := by
  simp [daemonWillSchedule, tolerates, selectorMatches_iff]

/-- The theoretical pod built from a daemon set's template. -/
def DaemonSet.pod (daemonSet : DaemonSet) : Pod := { name := "", spec := daemonSet.template }

/-- `getDaemons`, as the pass's `call`-th daemon-set `List` call. -/
def Scheduler.getDaemons (s : Scheduler) (constraints : Constraints) (call : Nat) :
    Except String (List Pod) :=
  match s.kubeClient.listDaemonSets call with
  | .error e => .error ("listing daemonsets, " ++ e)
  | .ok items => .ok ((items.map DaemonSet.pod).filter (daemonWillSchedule constraints))

/-- The state of the `getSchedules` loop: the map from constraint hash to schedule, and the
number of daemon-set `List` calls made so far. -/
structure SchedulesState where
  schedules : AList fun _ : UInt64 => Schedule
  listCalls : Nat

/-- The loop starts with an empty map, before any `List` call. -/
def SchedulesState.init : SchedulesState := ⟨∅, 0⟩

/-- The schedules of the map. Go ranges over the map in an unspecified order; the model lists
the entries in the order it keeps them. -/
def SchedulesState.result (st : SchedulesState) : List Schedule := st.schedules.entries.map (·.2)

section Except

variable {ε ε' α β : Type} {x : Except ε α} {f : α → Except ε β}

theorem bind_eq_ok {b : β} : x >>= f = .ok b ↔ ∃ a, x = .ok a ∧ f a = .ok b := by
  cases x <;> simp [bind, Except.bind]

theorem bind_eq_error {e : ε} :
    x >>= f = .error e ↔ x = .error e ∨ ∃ a, x = .ok a ∧ f a = .error e := by
  cases x <;> simp [bind, Except.bind]

theorem mapError_eq_ok {g : ε → ε'} {a : α} : x.mapError g = .ok a ↔ x = .ok a := by
  cases x <;> simp [Except.mapError]

theorem mapError_eq_error {g : ε → ε'} {e : ε'} :
    x.mapError g = .error e ↔ ∃ e', x = .error e' ∧ e = g e' := by
  cases x <;> simp [Except.mapError, eq_comm]

end Except

section Pass

/-! `NewConstraints` and `hashstructure.Hash` with `SlicesAsSets` are not part of this source;
the pass takes them as arguments, so every result holds for each of them. -/

variable (newConstraints : Constraints → Pod → Except String Constraints)
  (hash : Constraints → Except String UInt64)

/-- One iteration of the `getSchedules` loop. A pod whose constraints cannot be derived is
skipped; a hashing or daemon-listing failure ends the pass. -/
def Scheduler.getSchedulesStep (s : Scheduler) (v1alpha4constraints : Constraints)
    (st : SchedulesState) (pod : Pod) : Except String SchedulesState :=
  match newConstraints v1alpha4constraints pod with
  | .error _ => pure st
  | .ok constraints => do
    let key ← (hash constraints).mapError ("hashing constraints, " ++ ·)
    -- Create new schedule if one doesn't exist
    let (schedule, listCalls) ← match st.schedules.lookup key with
      | some schedule => pure (schedule, st.listCalls)
      | none => do
        let daemons ← (s.getDaemons constraints st.listCalls).mapError
          ("computing node overhead, " ++ ·)
        pure (⟨constraints, [], daemons⟩, st.listCalls + 1)
    -- Append pod to schedule, guaranteed to exist
    pure ⟨st.schedules.insert key { schedule with pods := schedule.pods ++ [pod] }, listCalls⟩

/-- The loop of `getSchedules` over the pods, from a given state. -/
def Scheduler.getSchedulesLoop (s : Scheduler) (v1alpha4constraints : Constraints)
    (pods : List Pod) (st : SchedulesState) : Except String SchedulesState :=
  pods.foldlM (s.getSchedulesStep newConstraints hash v1alpha4constraints) st

/-- `getSchedules`: the loop from the empty map, then the schedules of the map. -/
def Scheduler.getSchedules (s : Scheduler) (v1alpha4constraints : Constraints)
    (pods : List Pod) : Except String (List Schedule) :=
  SchedulesState.result <$> s.getSchedulesLoop newConstraints hash v1alpha4constraints pods .init

variable {newConstraints hash} {s : Scheduler} {c : Constraints}

/-- Everything one iteration can do: skip a pod without constraints, append a pod to the
schedule of its hash, or create that schedule with one `List` call and the pod in it. -/
theorem getSchedulesStep_cases {st st' : SchedulesState} {pod : Pod}
    (h : s.getSchedulesStep newConstraints hash c st pod = .ok st') :
    (∃ e, newConstraints c pod = .error e) ∧ st' = st ∨
    ∃ constraints key, newConstraints c pod = .ok constraints ∧ hash constraints = .ok key ∧
      ((∃ schedule, st.schedules.lookup key = some schedule ∧
          st' = ⟨st.schedules.insert key { schedule with pods := schedule.pods ++ [pod] },
            st.listCalls⟩) ∨
        st.schedules.lookup key = none ∧ ∃ daemons,
          s.getDaemons constraints st.listCalls = .ok daemons ∧
          st' = ⟨st.schedules.insert key ⟨constraints, [pod], daemons⟩, st.listCalls + 1⟩) := by
  unfold Scheduler.getSchedulesStep at h
  split at h
  · exact .inl ⟨⟨_, ‹_›⟩, (Except.ok.inj h).symm⟩
  · rename_i constraints hDerive
    simp only [bind_eq_ok, mapError_eq_ok] at h
    obtain ⟨key, hKey, h⟩ := h
    refine .inr ⟨constraints, key, hDerive, hKey, ?_⟩
    split at h
    · exact .inl ⟨_, ‹_›, (Except.ok.inj h).symm⟩
    · simp only [bind_eq_ok, mapError_eq_ok] at h
      obtain ⟨daemons, hDaemons, _, ⟨⟩, h⟩ := h
      exact .inr ⟨‹_›, daemons, hDaemons, (Except.ok.inj h).symm⟩

theorem getSchedules_eq_ok {pods : List Pod} {schedules : List Schedule} :
    s.getSchedules newConstraints hash c pods = .ok schedules ↔
      ∃ st, s.getSchedulesLoop newConstraints hash c pods .init = .ok st ∧
        schedules = st.result := by
  unfold Scheduler.getSchedules
  cases s.getSchedulesLoop newConstraints hash c pods .init with
  | error e => simp [Functor.map, Except.map]
  | ok st => simp [Functor.map, Except.map, eq_comm]

/-- An iteration fails only when the pod's constraints cannot be hashed, or when its schedule is
new and the daemon-set listing fails. -/
theorem getSchedulesStep_eq_error {st : SchedulesState} {pod : Pod} {e : String}
    (h : s.getSchedulesStep newConstraints hash c st pod = .error e) :
    ∃ constraints, newConstraints c pod = .ok constraints ∧
      ((∃ e', hash constraints = .error e' ∧ e = "hashing constraints, " ++ e') ∨
        ∃ e', s.kubeClient.listDaemonSets st.listCalls = .error e' ∧
          e = "computing node overhead, listing daemonsets, " ++ e') := by
  unfold Scheduler.getSchedulesStep at h
  split at h
  · cases h
  · rename_i constraints hDerive
    refine ⟨constraints, hDerive, ?_⟩
    simp only [bind_eq_error, mapError_eq_error, mapError_eq_ok] at h
    rcases h with ⟨e', hKey, rfl⟩ | ⟨key, -, h⟩
    · exact .inl ⟨e', hKey, rfl⟩
    split at h
    · cases h
    simp only [bind_eq_error, mapError_eq_error, mapError_eq_ok, Scheduler.getDaemons] at h
    rcases h with ⟨e', hDaemons, rfl⟩ | ⟨_, -, h⟩
    · split at hDaemons <;> cases hDaemons
      exact .inr ⟨_, ‹_›, by rw [← String.append_assoc]; rfl⟩
    · simp [pure, Except.pure] at h

/-- A failed loop failed at one of its pods. -/
theorem getSchedulesLoop_eq_error {pods : List Pod} {st : SchedulesState} {e : String}
    (h : s.getSchedulesLoop newConstraints hash c pods st = .error e) :
    ∃ pod ∈ pods, ∃ mid, s.getSchedulesStep newConstraints hash c mid pod = .error e := by
  induction pods generalizing st with
  | nil => cases h
  | cons pod pods ih =>
    rw [Scheduler.getSchedulesLoop, List.foldlM_cons] at h
    cases hNext : s.getSchedulesStep newConstraints hash c st pod with
    | error e' =>
      rw [hNext] at h
      cases h
      exact ⟨pod, List.mem_cons_self _ _, st, hNext⟩
    | ok mid =>
      rw [hNext] at h
      obtain ⟨q, hq, hStep⟩ := ih h
      exact ⟨q, List.mem_cons_of_mem _ hq, hStep⟩

/-- `getSchedules` fails with a hashing error of some pod's constraints, or with the error of a
daemon-set listing. -/
theorem getSchedules_eq_error {pods : List Pod} {e : String}
    (h : s.getSchedules newConstraints hash c pods = .error e) :
    (∃ pod ∈ pods, ∃ constraints e', newConstraints c pod = .ok constraints ∧
      hash constraints = .error e' ∧ e = "hashing constraints, " ++ e') ∨
    ∃ call e', s.kubeClient.listDaemonSets call = .error e' ∧
      e = "computing node overhead, listing daemonsets, " ++ e' := by
  have hLoop : s.getSchedulesLoop newConstraints hash c pods .init = .error e := by
    unfold Scheduler.getSchedules at h
    cases hRun : s.getSchedulesLoop newConstraints hash c pods .init <;>
      simp_all [Functor.map, Except.map]
  obtain ⟨pod, hPod, mid, hStep⟩ := getSchedulesLoop_eq_error hLoop
  obtain ⟨constraints, hDerive, ⟨e', hKey, rfl⟩ | ⟨e', hList, rfl⟩⟩ :=
    getSchedulesStep_eq_error hStep
  · exact .inl ⟨pod, hPod, constraints, e', hDerive, hKey, rfl⟩
  · exact .inr ⟨mid.listCalls, e', hList, rfl⟩

/-- Every prefix of a successful loop succeeds, and the rest of the loop continues from it. -/
theorem getSchedulesLoop_append {pods rest : List Pod} {st st' : SchedulesState}
    (h : s.getSchedulesLoop newConstraints hash c (pods ++ rest) st = .ok st') :
    ∃ mid, s.getSchedulesLoop newConstraints hash c pods st = .ok mid ∧
      s.getSchedulesLoop newConstraints hash c rest mid = .ok st' := by
  rw [Scheduler.getSchedulesLoop, List.foldlM_append] at h
  cases hPre : pods.foldlM (s.getSchedulesStep newConstraints hash c) st with
  | error e => simp [hPre, bind, Except.bind] at h
  | ok mid => exact ⟨mid, hPre, by simpa [hPre, bind, Except.bind] using h⟩

/-- A property of the processed prefix and the state that every iteration preserves holds
after the whole loop. -/
theorem getSchedulesLoop_inv (I : List Pod → SchedulesState → Prop)
    (hStep : ∀ pre st pod st', I pre st →
      s.getSchedulesStep newConstraints hash c st pod = .ok st' → I (pre ++ [pod]) st')
    (pre : List Pod) {pods : List Pod} {st st' : SchedulesState} (hI : I pre st)
    (h : s.getSchedulesLoop newConstraints hash c pods st = .ok st') : I (pre ++ pods) st' := by
  induction pods generalizing pre st with
  | nil =>
    simp only [Scheduler.getSchedulesLoop, List.foldlM_nil, pure, Except.pure,
      Except.ok.injEq] at h
    simpa [← h] using hI
  | cons pod pods ih =>
    rw [Scheduler.getSchedulesLoop, List.foldlM_cons] at h
    cases hNext : s.getSchedulesStep newConstraints hash c st pod with
    | error e => simp [hNext, bind, Except.bind] at h
    | ok mid =>
      rw [hNext] at h
      simpa using ih (pre ++ [pod]) (hStep pre st pod mid hI hNext) h

end Pass

end Karpenter.Scheduling
