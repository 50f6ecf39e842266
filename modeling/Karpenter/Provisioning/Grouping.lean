import Karpenter.Provisioning.Scheduler
import Mathlib.Data.List.Dedup

/-! What a successful grouping pass returns. One invariant of the schedule map, preserved by
every iteration, says which pods and constraints each schedule holds; the partition of the
pods by key and the once-per-key daemon computation both follow from it. -/

namespace Karpenter.Scheduling

open V1 V1alpha4

/-- A map entry whose key is present can be moved to the front. -/
theorem entries_perm_of_lookup {m : AList fun _ : UInt64 => Schedule} {k : UInt64}
    {sch : Schedule} (h : m.lookup k = some sch) :
    m.entries.Perm (⟨k, sch⟩ :: List.kerase k m.entries) := by
  have hMem := AList.mem_lookup_iff.mp h
  obtain ⟨b, l₁, l₂, -, hSplit, hErase⟩ := List.exists_of_kerase (List.mem_keys_of_mem hMem)
  have hb : b = sch := m.nodupKeys.eq_of_mk_mem (hSplit ▸ List.mem_append_right _
    (List.mem_cons_self _ _)) hMem
  rw [hErase, hSplit, ← hb]
  exact List.perm_middle

/-- A lookup after an insert finds the inserted schedule under its key, and the old entry
under any other. -/
theorem lookup_insert_eq_some {m : AList fun _ : UInt64 => Schedule} {k key : UInt64}
    {sch sch' : Schedule} (h : (m.insert key sch).lookup k = some sch') :
    k = key ∧ sch' = sch ∨ k ≠ key ∧ m.lookup k = some sch' := by
  by_cases hk : k = key
  · subst hk
    rw [AList.lookup_insert, Option.some.injEq] at h
    exact .inl ⟨rfl, h.symm⟩
  · rw [AList.lookup_insert_ne hk] at h
    exact .inr ⟨hk, h⟩

section Grouping

variable (newConstraints : Constraints → Pod → Except String Constraints)
  (hash : Constraints → Except String UInt64) (c : Constraints)

/-- Whether the pod's constraints can be derived; the pass skips the pods without. -/
def Derivable (pod : Pod) : Bool := (newConstraints c pod).toBool

/-- The hash of the pod's derived constraints, when both succeed. -/
def podKey (pod : Pod) : Option UInt64 :=
  match newConstraints c pod with
  | .ok constraints => (hash constraints).toOption
  | .error _ => none

/-- The pods, in input order, whose key is `k`. -/
def keyedPods (pods : List Pod) (k : UInt64) : List Pod :=
  pods.filter (podKey newConstraints hash c · = some k)

/-- The key of a returned schedule: the hash of its constraints. -/
def scheduleKey (sch : Schedule) : Option UInt64 := (hash sch.constraints).toOption

/-- The pods a list of schedules holds under key `k`. -/
def grouping (schedules : List Schedule) (k : UInt64) : List Pod :=
  (schedules.filter (scheduleKey hash · = some k)).flatMap Schedule.pods

/-- The schedule the map holds under `k` after the loop has processed `pre`: the pods of
`pre` with key `k`, in input order, and the constraints of the first of them, hashing to `k`. -/
def HoldsKey (pre : List Pod) (k : UInt64) (sch : Schedule) : Prop :=
  sch.pods = keyedPods newConstraints hash c pre k ∧ hash sch.constraints = .ok k ∧
    ∃ p, (keyedPods newConstraints hash c pre k).head? = some p ∧
      newConstraints c p = .ok sch.constraints

/-- What the map holds after the loop has processed `pre` from the empty map: a schedule per
key of a pod of `pre`, as `HoldsKey` says; every pod of `pre` with constraints hashed; and
each such pod held once. -/
structure Groups (pre : List Pod) (st : SchedulesState) : Prop where
  lookup_eq : ∀ k sch, st.schedules.lookup k = some sch → HoldsKey newConstraints hash c pre k sch
  mem_iff : ∀ k, k ∈ st.schedules ↔ ∃ p ∈ pre, podKey newConstraints hash c p = some k
  hashed : ∀ p ∈ pre, Derivable newConstraints c p → (podKey newConstraints hash c p).isSome
  flatten_perm : (st.schedules.entries.map (·.2.pods)).flatten.Perm
    (pre.filter (Derivable newConstraints c))

variable {newConstraints hash c}

theorem podKey_of_error {pod : Pod} {e : String} (h : newConstraints c pod = .error e) :
    podKey newConstraints hash c pod = none := by
  simp [podKey, h]

theorem podKey_of_ok {pod : Pod} {constraints : Constraints} {key : UInt64}
    (h : newConstraints c pod = .ok constraints) (hKey : hash constraints = .ok key) :
    podKey newConstraints hash c pod = some key := by
  simp [podKey, h, hKey, Except.toOption]

theorem keyedPods_append_of_ne {pre : List Pod} {pod : Pod} {k : UInt64}
    (h : podKey newConstraints hash c pod ≠ some k) :
    keyedPods newConstraints hash c (pre ++ [pod]) k = keyedPods newConstraints hash c pre k := by
  simp [keyedPods, h]

theorem keyedPods_append_of_eq {pre : List Pod} {pod : Pod} {k : UInt64}
    (h : podKey newConstraints hash c pod = some k) :
    keyedPods newConstraints hash c (pre ++ [pod]) k =
      keyedPods newConstraints hash c pre k ++ [pod] := by
  simp [keyedPods, h]

theorem keyedPods_eq_nil {pre : List Pod} {k : UInt64}
    (h : ¬∃ p ∈ pre, podKey newConstraints hash c p = some k) :
    keyedPods newConstraints hash c pre k = [] := by
  simpa [keyedPods, List.filter_eq_nil_iff] using h

theorem HoldsKey.append_of_ne {pre : List Pod} {pod : Pod} {k : UInt64} {sch : Schedule}
    (h : HoldsKey newConstraints hash c pre k sch)
    (hNe : podKey newConstraints hash c pod ≠ some k) :
    HoldsKey newConstraints hash c (pre ++ [pod]) k sch := by
  rw [HoldsKey, keyedPods_append_of_ne hNe]
  exact h

theorem Groups.init : Groups newConstraints hash c [] .init :=
  ⟨by simp [SchedulesState.init], by simp [SchedulesState.init], by simp,
    by simp [SchedulesState.init]⟩

/-- A pod without constraints leaves the map as it is. -/
theorem Groups.skip {pre : List Pod} {st : SchedulesState} {pod : Pod} {e : String}
    (hG : Groups newConstraints hash c pre st) (h : newConstraints c pod = .error e) :
    Groups newConstraints hash c (pre ++ [pod]) st := by
  have hKey : podKey newConstraints hash c pod = none := podKey_of_error h
  refine ⟨fun k sch hk => ?_, fun k => ?_, fun p hp => ?_, ?_⟩
  · exact (hG.lookup_eq k sch hk).append_of_ne (by simp [hKey])
  · simp [hG.mem_iff, hKey, or_and_right, exists_or]
  · rcases List.mem_append.mp hp with hp | hp
    · exact hG.hashed p hp
    · simp_all [Derivable, Except.toBool]
  · simpa [Derivable, h, Except.toBool] using hG.flatten_perm

theorem perm_append_singleton_comm (a b : List Pod) (x : Pod) :
    (a ++ [x] ++ b).Perm (a ++ b ++ [x]) := by
  rw [List.append_assoc, List.append_assoc]
  exact List.perm_append_comm.append_left a

/-- An iteration that stores a schedule for the pod's own key keeps every other entry's
`HoldsKey`, and the keys, right. -/
theorem Groups.insert {pre : List Pod} {st : SchedulesState} {pod : Pod} {key : UInt64}
    {sch : Schedule} (n : Nat) (hG : Groups newConstraints hash c pre st)
    (hPod : podKey newConstraints hash c pod = some key)
    (hHolds : HoldsKey newConstraints hash c (pre ++ [pod]) key sch)
    (hFlatten : ((st.schedules.insert key sch).entries.map (·.2.pods)).flatten.Perm
      ((pre ++ [pod]).filter (Derivable newConstraints c))) :
    Groups newConstraints hash c (pre ++ [pod]) ⟨st.schedules.insert key sch, n⟩ := by
  refine ⟨fun k sch' hk => ?_, fun k => ?_, fun q hq => ?_, hFlatten⟩
  · rcases lookup_insert_eq_some hk with ⟨rfl, rfl⟩ | ⟨hk', hk⟩
    · exact hHolds
    · exact (hG.lookup_eq k sch' hk).append_of_ne (by simpa [hPod] using Ne.symm hk')
  · simp only [AList.mem_insert, hG.mem_iff, List.mem_append, List.mem_singleton, or_and_right,
      exists_or, exists_eq_left, hPod, Option.some.injEq]
    exact ⟨fun h => h.elim (fun h => .inr h.symm) .inl, fun h => h.elim .inr (fun h => .inl h.symm)⟩
  · rcases List.mem_append.mp hq with hq | hq
    · exact hG.hashed q hq
    · simp_all

/-- A pod whose key already has a schedule is appended to it; the constraints stay those of
the first pod. -/
theorem Groups.append {pre : List Pod} {st : SchedulesState} {pod : Pod}
    {constraints : Constraints} {key : UInt64} {sch : Schedule} (n : Nat)
    (hG : Groups newConstraints hash c pre st) (hDerive : newConstraints c pod = .ok constraints)
    (hKey : hash constraints = .ok key) (hLookup : st.schedules.lookup key = some sch) :
    Groups newConstraints hash c (pre ++ [pod])
      ⟨st.schedules.insert key { sch with pods := sch.pods ++ [pod] }, n⟩ := by
  have hPod := podKey_of_ok hDerive hKey
  obtain ⟨hPods, hHash, p, hHead, hFirst⟩ := hG.lookup_eq key sch hLookup
  refine hG.insert n hPod ⟨by simp [hPods, keyedPods_append_of_eq hPod], hHash, p, ?_, hFirst⟩ ?_
  · rw [keyedPods_append_of_eq hPod, List.head?_append, hHead]
    rfl
  · rw [AList.insert_entries, List.filter_append]
    have hOld := (entries_perm_of_lookup hLookup).map (·.2.pods) |>.flatten
    simp only [List.map_cons, List.flatten_cons] at hOld ⊢
    simp only [Derivable, hDerive, Except.toBool, List.filter_singleton, cond_true]
    exact (perm_append_singleton_comm _ _ _).trans
      ((hOld.symm.trans hG.flatten_perm).append_right [pod])

/-- A pod whose key has no schedule yet creates one holding it, with its constraints. -/
theorem Groups.create {pre : List Pod} {st : SchedulesState} {pod : Pod}
    {constraints : Constraints} {key : UInt64} (daemons : List Pod) (n : Nat)
    (hG : Groups newConstraints hash c pre st) (hDerive : newConstraints c pod = .ok constraints)
    (hKey : hash constraints = .ok key) (hLookup : st.schedules.lookup key = none) :
    Groups newConstraints hash c (pre ++ [pod])
      ⟨st.schedules.insert key ⟨constraints, [pod], daemons⟩, n⟩ := by
  have hPod := podKey_of_ok hDerive hKey
  have hNotMem : key ∉ st.schedules := AList.lookup_eq_none.mp hLookup
  have hFresh : keyedPods newConstraints hash c (pre ++ [pod]) key = [pod] := by
    rw [keyedPods_append_of_eq hPod, keyedPods_eq_nil fun h => hNotMem ((hG.mem_iff key).mpr h)]
    rfl
  refine hG.insert n hPod ⟨hFresh.symm, hKey, pod, by rw [hFresh]; rfl, hDerive⟩ ?_
  rw [AList.insert_entries_of_neg hNotMem, List.filter_append]
  simp only [List.map_cons, List.flatten_cons, Derivable, hDerive, Except.toBool,
    List.filter_singleton, cond_true]
  exact List.perm_append_comm.trans (hG.flatten_perm.append_right [pod])

theorem Groups.step {s : Scheduler} {pre : List Pod} {st st' : SchedulesState} {pod : Pod}
    (hG : Groups newConstraints hash c pre st)
    (h : s.getSchedulesStep newConstraints hash c st pod = .ok st') :
    Groups newConstraints hash c (pre ++ [pod]) st' := by
  rcases getSchedulesStep_cases h with
    ⟨⟨e, hErr⟩, rfl⟩ | ⟨cs, key, hDerive, hKey, ⟨sch, hLookup, rfl⟩ | ⟨hLookup, daemons, -, rfl⟩⟩
  · exact hG.skip hErr
  · exact hG.append _ hDerive hKey hLookup
  · exact hG.create daemons _ hDerive hKey hLookup

/-- After a successful loop over `pods`, the map holds exactly the grouping of `pods`. -/
theorem groups_of_getSchedulesLoop {s : Scheduler} {pods : List Pod} {st : SchedulesState}
    (h : s.getSchedulesLoop newConstraints hash c pods .init = .ok st) :
    Groups newConstraints hash c pods st := by
  simpa using getSchedulesLoop_inv (Groups newConstraints hash c)
    (fun _ _ _ _ hG hStep => hG.step hStep) [] Groups.init h

variable (newConstraints hash c) in
/-- What the spec asks of the schedules returned for `pods`. -/
structure IsPartition (pods : List Pod) (schedules : List Schedule) : Prop where
  /-- The constraints of every pod that has them were hashed. -/
  hashed : ∀ p ∈ pods, Derivable newConstraints c p → (podKey newConstraints hash c p).isSome
  /-- A schedule holds, in input order, exactly the pods of its key. -/
  pods_eq : ∀ sch ∈ schedules, ∃ k, scheduleKey hash sch = some k ∧
    sch.pods = keyedPods newConstraints hash c pods k
  pods_ne_nil : ∀ sch ∈ schedules, sch.pods ≠ []
  keys_nodup : (schedules.map (scheduleKey hash)).Nodup
  /-- A pod with constraints is in exactly one schedule. -/
  derivable_once : ∀ p ∈ pods, ∀ constraints, newConstraints c p = .ok constraints →
    schedules.countP (fun sch => p ∈ sch.pods) = 1
  /-- A pod without constraints is in none. -/
  underivable_absent : ∀ p e, newConstraints c p = .error e → ∀ sch ∈ schedules, p ∉ sch.pods
  /-- Each pod with constraints is held once per occurrence in the input. -/
  flatten_perm : (schedules.map Schedule.pods).flatten.Perm
    (pods.filter (Derivable newConstraints c))
  /-- Two pods with constraints share a schedule exactly when their hashes agree. -/
  together_iff : ∀ p ∈ pods, ∀ q ∈ pods, ∀ cp cq, newConstraints c p = .ok cp →
    newConstraints c q = .ok cq →
      ((∃ sch ∈ schedules, p ∈ sch.pods ∧ q ∈ sch.pods) ↔ hash cp = hash cq)
  /-- Under every key, the schedules hold the pods of that key in input order. -/
  grouping_eq : ∀ k, grouping hash schedules k = keyedPods newConstraints hash c pods k

section Result

variable {pods : List Pod} {st : SchedulesState}

theorem Groups.exists_of_mem_result (hG : Groups newConstraints hash c pods st) {sch : Schedule}
    (h : sch ∈ st.result) :
    ∃ k, st.schedules.lookup k = some sch ∧ HoldsKey newConstraints hash c pods k sch := by
  obtain ⟨⟨k, sch⟩, hMem, rfl⟩ := List.mem_map.mp h
  exact ⟨k, AList.mem_lookup_iff.mpr hMem, hG.lookup_eq k sch (AList.mem_lookup_iff.mpr hMem)⟩

theorem mem_result_of_lookup {k : UInt64} {sch : Schedule}
    (h : st.schedules.lookup k = some sch) : sch ∈ st.result :=
  List.mem_map.mpr ⟨⟨k, sch⟩, AList.mem_lookup_iff.mp h, rfl⟩

theorem HoldsKey.scheduleKey_eq {k : UInt64} {sch : Schedule}
    (h : HoldsKey newConstraints hash c pods k sch) : scheduleKey hash sch = some k := by
  simp [scheduleKey, h.2.1, Except.toOption]

theorem HoldsKey.mem_pods_iff {k : UInt64} {sch : Schedule}
    (h : HoldsKey newConstraints hash c pods k sch) (p : Pod) :
    p ∈ sch.pods ↔ p ∈ pods ∧ podKey newConstraints hash c p = some k := by
  simp [h.1, keyedPods]

theorem Groups.result_keys (hG : Groups newConstraints hash c pods st) :
    st.result.map (scheduleKey hash) = st.schedules.keys.map some := by
  rw [SchedulesState.result, AList.keys, List.keys, List.map_map, List.map_map]
  refine List.map_congr_left fun e he => ?_
  exact (hG.lookup_eq e.1 e.2 (AList.mem_lookup_iff.mpr he)).scheduleKey_eq

theorem Groups.result_keys_nodup (hG : Groups newConstraints hash c pods st) :
    (st.result.map (scheduleKey hash)).Nodup := by
  rw [hG.result_keys]
  exact st.schedules.keys_nodup.map fun _ _ => Option.some.inj

/-- The schedule of a pod's key is in the result. -/
theorem Groups.exists_of_podKey (hG : Groups newConstraints hash c pods st) {p : Pod}
    {k : UInt64} (hp : p ∈ pods) (hk : podKey newConstraints hash c p = some k) :
    ∃ sch ∈ st.result, HoldsKey newConstraints hash c pods k sch := by
  obtain ⟨sch, hLookup⟩ := Option.isSome_iff_exists.mp
    (AList.lookup_isSome.mpr ((hG.mem_iff k).mpr ⟨p, hp, hk⟩))
  exact ⟨sch, mem_result_of_lookup hLookup, hG.lookup_eq k sch hLookup⟩

/-- A pod of the prefix with constraints has a key: the hash of its constraints. -/
theorem Groups.exists_key (hG : Groups newConstraints hash c pods st) {p : Pod}
    {cp : Constraints} (hp : p ∈ pods) (hcp : newConstraints c p = .ok cp) :
    ∃ k, hash cp = .ok k ∧ podKey newConstraints hash c p = some k := by
  obtain ⟨k, hk⟩ := Option.isSome_iff_exists.mp
    (hG.hashed p hp (by simp [Derivable, hcp, Except.toBool]))
  refine ⟨k, ?_, hk⟩
  cases h : hash cp <;> simp_all [podKey, Except.toOption]

theorem length_filter_key_le_one {l : List Schedule} {f : Schedule → Option UInt64}
    (h : (l.map f).Nodup) (b : Option UInt64) : (l.filter (f · = b)).length ≤ 1 := by
  have hAll : (l.filter (f · = b)).map f = List.replicate (l.filter (f · = b)).length b :=
    List.eq_replicate_iff.mpr ⟨List.length_map _ _, fun b' hb' => by
      obtain ⟨x, hx, rfl⟩ := List.mem_map.mp hb'
      exact of_decide_eq_true (List.mem_filter.mp hx).2⟩
  exact List.nodup_replicate.mp (hAll ▸ ((List.filter_sublist l).map f).nodup h)

/-- The schedule stored under `k` is the one result with key `k`. -/
theorem Groups.filter_key_of_lookup (hG : Groups newConstraints hash c pods st) {k : UInt64}
    {sch : Schedule} (h : st.schedules.lookup k = some sch) :
    st.result.filter (scheduleKey hash · = some k) = [sch] := by
  have hMem : sch ∈ st.result.filter (scheduleKey hash · = some k) := by
    simp [mem_result_of_lookup h, (hG.lookup_eq k sch h).scheduleKey_eq]
  match hFilter : st.result.filter (scheduleKey hash · = some k),
    length_filter_key_le_one hG.result_keys_nodup (some k) with
  | [], _ => simp [hFilter] at hMem
  | [x], _ => simp_all
  | _ :: _ :: _, hLen => simp [hFilter] at hLen

/-- No result has a key the map does not hold. -/
theorem Groups.filter_key_of_not_mem (hG : Groups newConstraints hash c pods st) {k : UInt64}
    (h : k ∉ st.schedules) : st.result.filter (scheduleKey hash · = some k) = [] := by
  refine List.filter_eq_nil_iff.mpr fun sch hMem hKey => h ?_
  obtain ⟨k', hLookup, hHolds⟩ := hG.exists_of_mem_result hMem
  have hk : k' = k := Option.some.inj (hHolds.scheduleKey_eq.symm.trans (of_decide_eq_true hKey))
  exact hk ▸ AList.lookup_isSome.mp (by simp [hLookup])

theorem Groups.grouping_eq (hG : Groups newConstraints hash c pods st) (k : UInt64) :
    grouping hash st.result k = keyedPods newConstraints hash c pods k := by
  by_cases hk : k ∈ st.schedules
  · obtain ⟨sch, hLookup⟩ := Option.isSome_iff_exists.mp (AList.lookup_isSome.mpr hk)
    simp [grouping, hG.filter_key_of_lookup hLookup, (hG.lookup_eq k sch hLookup).1]
  · rw [grouping, hG.filter_key_of_not_mem hk, keyedPods_eq_nil fun h => hk ((hG.mem_iff k).mpr h)]
    rfl

/-- A pod with constraints is held by exactly one stored schedule. -/
theorem Groups.countP_mem_result (hG : Groups newConstraints hash c pods st) {p : Pod}
    (hp : p ∈ pods) {cp : Constraints} (hcp : newConstraints c p = .ok cp) :
    st.result.countP (fun sch => p ∈ sch.pods) = 1 := by
  obtain ⟨k, -, hk⟩ := hG.exists_key hp hcp
  obtain ⟨sch, hLookup⟩ := Option.isSome_iff_exists.mp
    (AList.lookup_isSome.mpr ((hG.mem_iff k).mpr ⟨p, hp, hk⟩))
  rw [List.countP_congr (q := (scheduleKey hash · = some k)) fun sch' hMem' => ?_,
    List.countP_eq_length_filter, hG.filter_key_of_lookup hLookup, List.length_singleton]
  obtain ⟨k', -, hHolds'⟩ := hG.exists_of_mem_result hMem'
  simp [hHolds'.mem_pods_iff, hp, hk, hHolds'.scheduleKey_eq, eq_comm]

/-- A pod without constraints is held by no stored schedule. -/
theorem Groups.not_mem_result_of_error (hG : Groups newConstraints hash c pods st) {p : Pod}
    {e : String} (he : newConstraints c p = .error e) {sch : Schedule} (hMem : sch ∈ st.result) :
    p ∉ sch.pods := fun hIn => by
  obtain ⟨k, -, hHolds⟩ := hG.exists_of_mem_result hMem
  simpa [podKey_of_error he] using ((hHolds.mem_pods_iff p).mp hIn).2

/-- Two pods with constraints share a stored schedule exactly when their hashes agree. -/
theorem Groups.together_iff (hG : Groups newConstraints hash c pods st) {p q : Pod}
    (hp : p ∈ pods) (hq : q ∈ pods) {cp cq : Constraints} (hcp : newConstraints c p = .ok cp)
    (hcq : newConstraints c q = .ok cq) :
    (∃ sch ∈ st.result, p ∈ sch.pods ∧ q ∈ sch.pods) ↔ hash cp = hash cq := by
  obtain ⟨kp, hHashP, hkp⟩ := hG.exists_key hp hcp
  obtain ⟨kq, hHashQ, hkq⟩ := hG.exists_key hq hcq
  rw [hHashP, hHashQ, Except.ok.injEq]
  constructor
  · rintro ⟨sch, hMem, hpIn, hqIn⟩
    obtain ⟨k, -, hHolds⟩ := hG.exists_of_mem_result hMem
    calc kp = k := Option.some.inj (hkp.symm.trans ((hHolds.mem_pods_iff p).mp hpIn).2)
      _ = kq := Option.some.inj (((hHolds.mem_pods_iff q).mp hqIn).2.symm.trans hkq)
  · rintro rfl
    obtain ⟨sch, hMem, hHolds⟩ := hG.exists_of_podKey hp hkp
    exact ⟨sch, hMem, (hHolds.mem_pods_iff p).mpr ⟨hp, hkp⟩, (hHolds.mem_pods_iff q).mpr ⟨hq, hkq⟩⟩

theorem Groups.isPartition (hG : Groups newConstraints hash c pods st) :
    IsPartition newConstraints hash c pods st.result := by
  refine ⟨hG.hashed, fun sch hMem => ?_, fun sch hMem => ?_, hG.result_keys_nodup,
    fun _ hp _ hcp => hG.countP_mem_result hp hcp, fun _ _ he _ => hG.not_mem_result_of_error he,
    by simpa [SchedulesState.result, List.map_map] using hG.flatten_perm,
    fun _ hp _ hq _ _ hcp hcq => hG.together_iff hp hq hcp hcq, hG.grouping_eq⟩
  · obtain ⟨k, -, hHolds⟩ := hG.exists_of_mem_result hMem
    exact ⟨k, hHolds.scheduleKey_eq, hHolds.1⟩
  · obtain ⟨k, -, hHolds⟩ := hG.exists_of_mem_result hMem
    obtain ⟨p, hHead, -⟩ := hHolds.2.2
    exact fun hNil => by simp [hHolds.1 ▸ hNil] at hHead

end Result

/-- A successful `getSchedules` partitions the pods with constraints by the hash of their
constraints, keeping input order inside each schedule; so the grouping under each key is the
same, as a multiset, for every order of the input. -/
theorem getSchedules_partition (s : Scheduler) (pods : List Pod) (schedules : List Schedule)
    (h : s.getSchedules newConstraints hash c pods = .ok schedules) :
    IsPartition newConstraints hash c pods schedules ∧
      ∀ pods' schedules', pods'.Perm pods →
        s.getSchedules newConstraints hash c pods' = .ok schedules' →
          ∀ k, (grouping hash schedules' k).Perm (grouping hash schedules k) := by
  obtain ⟨st, hLoop, rfl⟩ := getSchedules_eq_ok.mp h
  have hG := groups_of_getSchedulesLoop hLoop
  refine ⟨hG.isPartition, fun pods' schedules' hPerm h' k => ?_⟩
  obtain ⟨st', hLoop', rfl⟩ := getSchedules_eq_ok.mp h'
  rw [hG.grouping_eq, (groups_of_getSchedulesLoop hLoop').grouping_eq]
  exact hPerm.filter _

/-! A small pass: pods carry a zone selector, a pod named `invalid` has no constraints, the
hash tells zone `a` from the rest, and the cluster lists one daemon set for zone `a`. -/

def zonePod (name zone : String) : Pod :=
  ⟨name, ⟨(∅ : StringMap).insert labelTopologyZone zone, none, []⟩⟩

def exampleConstraints : Constraints := ⟨∅, [], [], [], [], []⟩

def exampleNewConstraints (c : Constraints) (pod : Pod) : Except String Constraints :=
  if pod.name = "invalid" then .error "invalid" else .ok { c with labels := pod.spec.nodeSelector }

def exampleHash (constraints : Constraints) : Except String UInt64 :=
  .ok (if constraints.labels.lookup labelTopologyZone = some "a" then 1 else 2)

def exampleListing : List DaemonSet :=
  [⟨⟨(∅ : StringMap).insert labelTopologyZone "a", none, []⟩⟩]

def exampleScheduler : Scheduler := ⟨⟨fun _ => .ok exampleListing⟩⟩

def examplePods : List Pod :=
  [zonePod "first" "a", zonePod "invalid" "a", zonePod "second" "a", zonePod "third" "b"]

/-- The schedule of zone `a`: its two pods, and the daemon that selects zone `a`. -/
def zoneASchedule : Schedule :=
  ⟨{ exampleConstraints with labels := (∅ : StringMap).insert labelTopologyZone "a" },
    [zonePod "first" "a", zonePod "second" "a"],
    [⟨"", ⟨(∅ : StringMap).insert labelTopologyZone "a", none, []⟩⟩]⟩

def zoneBSchedule : Schedule :=
  ⟨{ exampleConstraints with labels := (∅ : StringMap).insert labelTopologyZone "b" },
    [zonePod "third" "b"], []⟩

def exampleSchedules : List Schedule := [zoneBSchedule, zoneASchedule]

theorem getSchedules_partition_examplePods :
    exampleScheduler.getSchedules exampleNewConstraints exampleHash exampleConstraints
        examplePods = .ok exampleSchedules ∧
      IsPartition exampleNewConstraints exampleHash exampleConstraints examplePods
        exampleSchedules ∧
      ∀ pods' schedules', pods'.Perm examplePods →
        exampleScheduler.getSchedules exampleNewConstraints exampleHash exampleConstraints
          pods' = .ok schedules' →
          ∀ k, (grouping exampleHash schedules' k).Perm (grouping exampleHash exampleSchedules k) :=
  ⟨rfl, getSchedules_partition exampleScheduler examplePods exampleSchedules rfl⟩

/-! ## Daemon overhead, once per key -/

/-- Under a listing every daemon-set `List` call returns, `getDaemons` filters its pods. -/
theorem getDaemons_of_listing {s : Scheduler} {listing : List DaemonSet}
    (hListing : ∀ n, s.kubeClient.listDaemonSets n = .ok listing) (constraints : Constraints)
    (n : Nat) : s.getDaemons constraints n =
      .ok ((listing.map DaemonSet.pod).filter (daemonWillSchedule constraints)) := by
  simp [Scheduler.getDaemons, hListing]

/-- Under a fixed daemon-set listing: each stored schedule's daemons are the listing's template
pods that would schedule against its constraints, and the pass has made one `List` call per
stored schedule. -/
structure DaemonsOnce (listing : List DaemonSet) (st : SchedulesState) : Prop where
  daemons_eq : ∀ k sch, st.schedules.lookup k = some sch →
    sch.daemons = (listing.map DaemonSet.pod).filter (daemonWillSchedule sch.constraints)
  listCalls_eq : st.listCalls = st.schedules.entries.length

theorem DaemonsOnce.step {s : Scheduler} {listing : List DaemonSet}
    (hListing : ∀ n, s.kubeClient.listDaemonSets n = .ok listing) {st st' : SchedulesState}
    {pod : Pod} (hD : DaemonsOnce listing st)
    (h : s.getSchedulesStep newConstraints hash c st pod = .ok st') : DaemonsOnce listing st' := by
  rcases getSchedulesStep_cases h with
    ⟨-, rfl⟩ | ⟨cs, key, -, -, ⟨sch, hLookup, rfl⟩ | ⟨hLookup, daemons, hDaemons, rfl⟩⟩
  · exact hD
  · refine ⟨fun k sch' hk => ?_, ?_⟩
    · rcases lookup_insert_eq_some hk with ⟨rfl, rfl⟩ | ⟨-, hk⟩
      · exact hD.daemons_eq _ sch hLookup
      · exact hD.daemons_eq k sch' hk
    · simp [hD.listCalls_eq, AList.insert_entries, (entries_perm_of_lookup hLookup).length_eq]
  · have hNotMem : key ∉ st.schedules := AList.lookup_eq_none.mp hLookup
    refine ⟨fun k sch' hk => ?_, ?_⟩
    · rcases lookup_insert_eq_some hk with ⟨-, rfl⟩ | ⟨-, hk⟩
      · rw [getDaemons_of_listing hListing] at hDaemons
        exact (Except.ok.inj hDaemons).symm
      · exact hD.daemons_eq k sch' hk
    · rw [hD.listCalls_eq, AList.insert_entries_of_neg hNotMem, List.length_cons]

/-- The `List` calls made so far are as many as the distinct keys of the processed pods. -/
theorem listCalls_eq_distinct_keys {pre : List Pod} {st : SchedulesState}
    {listing : List DaemonSet} (hG : Groups newConstraints hash c pre st)
    (hD : DaemonsOnce listing st) :
    st.listCalls = (pre.filterMap (podKey newConstraints hash c)).dedup.length := by
  have hKeys : st.schedules.keys.Perm (pre.filterMap (podKey newConstraints hash c)).dedup :=
    (List.perm_ext_iff_of_nodup st.schedules.keys_nodup (List.nodup_dedup _)).mpr fun k => by
      simp [List.mem_dedup, ← AList.mem_keys, hG.mem_iff]
  rw [hD.listCalls_eq, ← hKeys.length_eq]
  simp [AList.keys, List.keys]

/-- Over a fixed daemon-set listing, a successful pass gives each schedule the constraints of
the first pod of its key and the listing's daemons that would schedule against them; and after
any number of pods it has made one `List` call per distinct key among them, so the call for a
key is made when its first pod is processed and never again. -/
theorem getSchedules_daemons_once (s : Scheduler) (listing : List DaemonSet)
    (hListing : ∀ n, s.kubeClient.listDaemonSets n = .ok listing) (pods : List Pod)
    (st : SchedulesState) (h : s.getSchedulesLoop newConstraints hash c pods .init = .ok st) :
    (∀ sch ∈ st.result, ∃ k p, scheduleKey hash sch = some k ∧
      (keyedPods newConstraints hash c pods k).head? = some p ∧
      newConstraints c p = .ok sch.constraints ∧
      sch.daemons = (listing.map DaemonSet.pod).filter (daemonWillSchedule sch.constraints)) ∧
    ∀ i ≤ pods.length, ∃ mid,
      s.getSchedulesLoop newConstraints hash c (pods.take i) .init = .ok mid ∧
        mid.listCalls = ((pods.take i).filterMap (podKey newConstraints hash c)).dedup.length := by
  have hDaemons {pre : List Pod} {st' : SchedulesState}
      (h' : s.getSchedulesLoop newConstraints hash c pre .init = .ok st') :
      DaemonsOnce listing st' :=
    getSchedulesLoop_inv (fun _ st => DaemonsOnce listing st)
      (fun _ _ _ _ hD hStep => hD.step hListing hStep) []
      ⟨by simp [SchedulesState.init], rfl⟩ h'
  refine ⟨fun sch hMem => ?_, fun i _ => ?_⟩
  · obtain ⟨k, hLookup, hPods, hHash, p, hHead, hFirst⟩ :=
      (groups_of_getSchedulesLoop h).exists_of_mem_result hMem
    exact ⟨k, p, by simp [scheduleKey, hHash, Except.toOption], hHead, hFirst,
      (hDaemons h).daemons_eq k sch hLookup⟩
  · obtain ⟨mid, hMid, -⟩ := getSchedulesLoop_append (pods.take_append_drop i ▸ h)
    exact ⟨mid, hMid, listCalls_eq_distinct_keys (groups_of_getSchedulesLoop hMid) (hDaemons hMid)⟩

/-- The state the example pass ends in: two schedules, after two `List` calls. -/
def exampleState : SchedulesState :=
  ⟨((∅ : AList fun _ : UInt64 => Schedule).insert 1 zoneASchedule).insert 2 zoneBSchedule, 2⟩

theorem getSchedules_daemons_once_examplePods :
    (∀ n, exampleScheduler.kubeClient.listDaemonSets n = .ok exampleListing) ∧
    exampleScheduler.getSchedulesLoop exampleNewConstraints exampleHash exampleConstraints
        examplePods .init = .ok exampleState ∧
    (∀ sch ∈ exampleState.result, ∃ k p, scheduleKey exampleHash sch = some k ∧
      (keyedPods exampleNewConstraints exampleHash exampleConstraints examplePods k).head? =
        some p ∧
      exampleNewConstraints exampleConstraints p = .ok sch.constraints ∧
      sch.daemons = (exampleListing.map DaemonSet.pod).filter
        (daemonWillSchedule sch.constraints)) ∧
    ∀ i ≤ examplePods.length, ∃ mid,
      exampleScheduler.getSchedulesLoop exampleNewConstraints exampleHash exampleConstraints
          (examplePods.take i) .init = .ok mid ∧
        mid.listCalls = ((examplePods.take i).filterMap
          (podKey exampleNewConstraints exampleHash exampleConstraints)).dedup.length :=
  ⟨fun _ => rfl, rfl,
    getSchedules_daemons_once exampleScheduler exampleListing (fun _ => rfl) examplePods
      exampleState rfl⟩

/-- A `getDaemons` call that succeeds had its `List` call succeed. -/
theorem listDaemonSets_of_getDaemons {s : Scheduler} {constraints : Constraints} {n : Nat}
    {daemons : List Pod} (h : s.getDaemons constraints n = .ok daemons) :
    ∃ items, s.kubeClient.listDaemonSets n = .ok items := by
  unfold Scheduler.getDaemons at h
  split at h
  · cases h
  · exact ⟨_, ‹_›⟩

/-- When every daemon-set `List` call fails, a pass succeeds only when no pod has constraints:
the first pod with some either fails to hash or needs the listing to create its schedule. The
pass then returns no schedule. -/
theorem getSchedules_listing_fails (s : Scheduler)
    (hFail : ∀ call, ∃ e, s.kubeClient.listDaemonSets call = .error e) {pods : List Pod}
    {schedules : List Schedule} (h : s.getSchedules newConstraints hash c pods = .ok schedules) :
    schedules = [] ∧ ∀ p ∈ pods, ∃ e, newConstraints c p = .error e := by
  obtain ⟨st, hLoop, rfl⟩ := getSchedules_eq_ok.mp h
  have hEmpty : st.schedules.entries = [] := by
    refine getSchedulesLoop_inv (fun _ mid => mid.schedules.entries = [])
      (fun _ mid _ mid' hI hStep => ?_) [] rfl hLoop
    rcases getSchedulesStep_cases hStep with
      ⟨-, rfl⟩ | ⟨cs, key, -, -, ⟨sch, hLookup, -⟩ | ⟨-, daemons, hDaemons, -⟩⟩
    · exact hI
    · simp [AList.lookup, hI] at hLookup
    · obtain ⟨e, hError⟩ := hFail mid.listCalls
      obtain ⟨items, hItems⟩ := listDaemonSets_of_getDaemons hDaemons
      cases hError.symm.trans hItems
  refine ⟨by simp [SchedulesState.result, hEmpty], fun p hp => ?_⟩
  cases hDerive : newConstraints c p with
  | error e => exact ⟨e, rfl⟩
  | ok cs =>
    have hG := groups_of_getSchedulesLoop hLoop
    obtain ⟨k, -, hKey⟩ := hG.exists_key hp hDerive
    exact absurd (AList.mem_keys.mpr ((hG.mem_iff k).mpr ⟨p, hp, hKey⟩))
      (show k ∉ st.schedules.entries.keys by rw [hEmpty]; exact List.not_mem_nil k)

/-- A cluster whose daemon-set listing is forbidden. -/
def forbiddenScheduler : Scheduler := ⟨⟨fun _ => .error "forbidden"⟩⟩

theorem getSchedules_listing_fails_invalidPod :
    (∀ call, ∃ e, forbiddenScheduler.kubeClient.listDaemonSets call = .error e) ∧
    forbiddenScheduler.getSchedules exampleNewConstraints exampleHash exampleConstraints
        [zonePod "invalid" "a"] = .ok [] ∧
    ([] : List Schedule) = [] ∧
      ∀ p ∈ [zonePod "invalid" "a"], ∃ e, exampleNewConstraints exampleConstraints p = .error e :=
  ⟨fun _ => ⟨_, rfl⟩, rfl, @getSchedules_listing_fails exampleNewConstraints exampleHash
    exampleConstraints forbiddenScheduler (fun _ => ⟨_, rfl⟩) _ _ rfl⟩

/-! ## The listing fills in only the daemons

Which schedules a pass builds, in which order, with which constraints and pods, does not depend
on what the daemon-set listing returns: two passes over the same pods that both succeed keep
schedule maps equal up to the daemons at every iteration. -/

/-- The schedule with its daemons dropped. -/
def Schedule.withoutDaemons (sch : Schedule) : Schedule := { sch with daemons := [] }

/-- A map entry whose schedule has its daemons dropped. -/
def withoutDaemonsEntry (e : Σ _ : UInt64, Schedule) : Σ _ : UInt64, Schedule :=
  ⟨e.1, e.2.withoutDaemons⟩

/-- Two loop states whose maps hold the same keys in the same order, with schedules equal up to
their daemons. -/
def SameButDaemons (st st' : SchedulesState) : Prop :=
  st.schedules.entries.map withoutDaemonsEntry = st'.schedules.entries.map withoutDaemonsEntry

theorem kerase_map_withoutDaemonsEntry (k : UInt64) (l : List (Σ _ : UInt64, Schedule)) :
    (l.kerase k).map withoutDaemonsEntry = (l.map withoutDaemonsEntry).kerase k :=
  (List.eraseP_map (p := fun e : Σ _ : UInt64, Schedule => k = e.1) withoutDaemonsEntry l).symm

theorem lookup_map_withoutDaemons (m : AList fun _ : UInt64 => Schedule) (k : UInt64) :
    (m.lookup k).map Schedule.withoutDaemons = (m.entries.map withoutDaemonsEntry).dlookup k :=
  (List.dlookup_map₂ (l := m.entries) (f := fun _ => Schedule.withoutDaemons) k).symm

/-- Appending a pod keeps two schedules equal up to their daemons. -/
theorem Schedule.withoutDaemons_append {sch sch' : Schedule}
    (h : sch.withoutDaemons = sch'.withoutDaemons) (pod : Pod) :
    { sch with pods := sch.pods ++ [pod] }.withoutDaemons =
      { sch' with pods := sch'.pods ++ [pod] }.withoutDaemons := by
  cases sch; cases sch'
  simp_all [Schedule.withoutDaemons]

section SameButDaemons

variable {st st' : SchedulesState}

theorem SameButDaemons.lookup (h : SameButDaemons st st') (k : UInt64) :
    (st.schedules.lookup k).map Schedule.withoutDaemons =
      (st'.schedules.lookup k).map Schedule.withoutDaemons := by
  rw [lookup_map_withoutDaemons, lookup_map_withoutDaemons, h]

theorem SameButDaemons.insert (h : SameButDaemons st st') (k : UInt64) {sch sch' : Schedule}
    (hSch : sch.withoutDaemons = sch'.withoutDaemons) (n n' : Nat) :
    SameButDaemons ⟨st.schedules.insert k sch, n⟩ ⟨st'.schedules.insert k sch', n'⟩ := by
  simp only [SameButDaemons, AList.insert_entries, List.map_cons, kerase_map_withoutDaemonsEntry]
    at h ⊢
  rw [h]
  simp only [withoutDaemonsEntry, hSch]

/-- One iteration of each pass, on the same pod, keeps the two maps equal up to daemons. -/
theorem SameButDaemons.step {s s' : Scheduler} {st₁ st₁' : SchedulesState} {pod : Pod}
    (hSame : SameButDaemons st st')
    (h : s.getSchedulesStep newConstraints hash c st pod = .ok st₁)
    (h' : s'.getSchedulesStep newConstraints hash c st' pod = .ok st₁') :
    SameButDaemons st₁ st₁' := by
  rcases getSchedulesStep_cases h with ⟨⟨e, hErr⟩, rfl⟩ | ⟨cs, key, hDerive, hKey, hCase⟩
  · rcases getSchedulesStep_cases h' with ⟨-, rfl⟩ | ⟨_, -, hDerive', -⟩
    · exact hSame
    · cases hErr.symm.trans hDerive'
  rcases getSchedulesStep_cases h' with ⟨⟨e, hErr⟩, -⟩ | ⟨cs', key', hDerive', hKey', hCase'⟩
  · cases hDerive.symm.trans hErr
  obtain rfl : cs = cs' := Except.ok.inj (hDerive.symm.trans hDerive')
  obtain rfl : key = key' := Except.ok.inj (hKey.symm.trans hKey')
  have hLookup := hSame.lookup key
  rcases hCase with ⟨sch, hL, rfl⟩ | ⟨hL, -, -, rfl⟩ <;>
    rcases hCase' with ⟨sch', hL', rfl⟩ | ⟨hL', -, -, rfl⟩ <;>
    rw [hL, hL'] at hLookup
  · exact hSame.insert key (Schedule.withoutDaemons_append (Option.some.inj hLookup) pod) _ _
  · cases hLookup
  · cases hLookup
  · exact hSame.insert key (by rfl) _ _

/-- Two passes over the same pods from states equal up to daemons end so, whatever their
schedulers' daemon-set listings. -/
theorem SameButDaemons.loop {s s' : Scheduler} {pods : List Pod} {st₁ st₁' : SchedulesState}
    (hSame : SameButDaemons st st')
    (h : s.getSchedulesLoop newConstraints hash c pods st = .ok st₁)
    (h' : s'.getSchedulesLoop newConstraints hash c pods st' = .ok st₁') :
    SameButDaemons st₁ st₁' := by
  induction pods generalizing st st' with
  | nil =>
    simp only [Scheduler.getSchedulesLoop, List.foldlM_nil, pure, Except.pure,
      Except.ok.injEq] at h h'
    exact h ▸ h' ▸ hSame
  | cons pod pods ih =>
    rw [Scheduler.getSchedulesLoop, List.foldlM_cons] at h h'
    obtain ⟨mid, hStep, h⟩ := bind_eq_ok.mp h
    obtain ⟨mid', hStep', h'⟩ := bind_eq_ok.mp h'
    exact ih (hSame.step hStep hStep') h h'

end SameButDaemons

/-- Two successful passes over the same pods, whatever their daemon-set listings, return the
same schedules in the same order, up to their daemons. -/
theorem getSchedules_withoutDaemons {s s' : Scheduler} {pods : List Pod}
    {schedules schedules' : List Schedule}
    (h : s.getSchedules newConstraints hash c pods = .ok schedules)
    (h' : s'.getSchedules newConstraints hash c pods = .ok schedules') :
    schedules.map Schedule.withoutDaemons = schedules'.map Schedule.withoutDaemons := by
  obtain ⟨st, hLoop, rfl⟩ := getSchedules_eq_ok.mp h
  obtain ⟨st', hLoop', rfl⟩ := getSchedules_eq_ok.mp h'
  have hSame := congrArg (List.map Sigma.snd) (SameButDaemons.loop rfl hLoop hLoop')
  simpa only [SchedulesState.result, List.map_map] using hSame

end Grouping

end Karpenter.Scheduling
