import Karpenter.Provisioning.Grouping

/-! What a pass returns depends on its pods only through the pods of each key, in order. Under a
fixed daemon-set listing each schedule is determined by its key: its pods are the key's pods in
input order, its constraints those of the first of them, and its daemons the listing's that would
schedule against those constraints. So two inputs that key the same pods in the same order give the
same schedules, and grouping the pods of a pass's schedules again gives them back. -/

namespace Karpenter.Scheduling

open V1 V1alpha4

section Regroup

variable {newConstraints : Constraints → Pod → Except String Constraints}
  {hash : Constraints → Except String UInt64} {c : Constraints}

theorem mem_keyedPods {pods : List Pod} {k : UInt64} {p : Pod} :
    p ∈ keyedPods newConstraints hash c pods k ↔
      p ∈ pods ∧ podKey newConstraints hash c p = some k := by
  simp [keyedPods]

/-- Under a fixed listing, a pass from the empty map gives each schedule the listing's daemons. -/
theorem daemonsOnce_of_getSchedulesLoop {s : Scheduler} {listing : List DaemonSet}
    (hListing : ∀ n, s.kubeClient.listDaemonSets n = .ok listing) {pods : List Pod}
    {st : SchedulesState} (h : s.getSchedulesLoop newConstraints hash c pods .init = .ok st) :
    DaemonsOnce listing st :=
  getSchedulesLoop_inv (fun _ st => DaemonsOnce listing st)
    (fun _ _ _ _ hD hStep => hD.step hListing hStep) [] ⟨by simp [SchedulesState.init], rfl⟩ h

/-- Two schedules of one key, from passes that keyed the same pods in the same order, are the
same once each holds the listing's daemons for its constraints. -/
theorem HoldsKey.eq_of_keyedPods {pods pods' : List Pod} {k : UInt64} {sch sch' : Schedule}
    {listing : List DaemonSet} (h : HoldsKey newConstraints hash c pods k sch)
    (h' : HoldsKey newConstraints hash c pods' k sch')
    (hKeyed : keyedPods newConstraints hash c pods k = keyedPods newConstraints hash c pods' k)
    (hDaemons : sch.daemons =
      (listing.map DaemonSet.pod).filter (daemonWillSchedule sch.constraints))
    (hDaemons' : sch'.daemons =
      (listing.map DaemonSet.pod).filter (daemonWillSchedule sch'.constraints)) :
    sch = sch' := by
  obtain ⟨hPods, -, p, hHead, hFirst⟩ := h
  obtain ⟨hPods', -, p', hHead', hFirst'⟩ := h'
  rw [hKeyed, hHead'] at hHead
  obtain rfl : p' = p := Option.some.inj hHead
  have hConstraints : sch.constraints = sch'.constraints := Except.ok.inj (hFirst.symm.trans hFirst')
  cases sch
  cases sch'
  simp only [Schedule.mk.injEq] at *
  exact ⟨hConstraints, hPods.trans (hKeyed.trans hPods'.symm),
    by rw [hDaemons, hDaemons', hConstraints]⟩

section Passes

variable {pods pods' : List Pod} {st st' : SchedulesState} {listing : List DaemonSet}

/-- Every schedule of one pass is a schedule of another that keys the same pods in the same
order, both under the same fixed listing. -/
theorem mem_result_of_keyedPods (hG : Groups newConstraints hash c pods st)
    (hG' : Groups newConstraints hash c pods' st') (hD : DaemonsOnce listing st)
    (hD' : DaemonsOnce listing st')
    (hKeyed : ∀ k, keyedPods newConstraints hash c pods k = keyedPods newConstraints hash c pods' k)
    {sch : Schedule} (hMem : sch ∈ st.result) : sch ∈ st'.result := by
  obtain ⟨k, hLookup, hHolds⟩ := hG.exists_of_mem_result hMem
  obtain ⟨p, hp, hk⟩ := (hG.mem_iff k).mp (AList.lookup_isSome.mp (by simp [hLookup]))
  have hp' := mem_keyedPods.mp (hKeyed k ▸ mem_keyedPods.mpr ⟨hp, hk⟩)
  obtain ⟨sch', hLookup'⟩ := Option.isSome_iff_exists.mp
    (AList.lookup_isSome.mpr ((hG'.mem_iff k).mpr ⟨p, hp'⟩))
  rw [hHolds.eq_of_keyedPods (hG'.lookup_eq k sch' hLookup') (hKeyed k)
    (hD.daemons_eq k sch hLookup) (hD'.daemons_eq k sch' hLookup')]
  exact mem_result_of_lookup hLookup'

theorem result_perm_of_keyedPods (hG : Groups newConstraints hash c pods st)
    (hG' : Groups newConstraints hash c pods' st') (hD : DaemonsOnce listing st)
    (hD' : DaemonsOnce listing st')
    (hKeyed : ∀ k, keyedPods newConstraints hash c pods k = keyedPods newConstraints hash c pods' k) :
    st.result.Perm st'.result :=
  (List.perm_ext_iff_of_nodup hG.result_keys_nodup.of_map hG'.result_keys_nodup.of_map).mpr
    fun _ => ⟨mem_result_of_keyedPods hG hG' hD hD' hKeyed,
      mem_result_of_keyedPods hG' hG hD' hD fun k => (hKeyed k).symm⟩

end Passes

/-- The pods of a list of schedules whose pods all have their schedule's key, keyed again, are
the grouping of the schedules. -/
theorem keyedPods_flatMap {schedules : List Schedule}
    (h : ∀ sch ∈ schedules, ∀ p ∈ sch.pods, podKey newConstraints hash c p = scheduleKey hash sch)
    (k : UInt64) :
    keyedPods newConstraints hash c (schedules.flatMap Schedule.pods) k =
      grouping hash schedules k := by
  induction schedules with
  | nil => rfl
  | cons sch rest ih =>
    have hSch := h sch (List.mem_cons_self _ _)
    have hRest := ih fun s hs => h s (List.mem_cons_of_mem _ hs)
    simp only [keyedPods, grouping] at hRest ⊢
    rw [List.flatMap_cons, List.filter_append, hRest, List.filter_cons]
    by_cases hk : scheduleKey hash sch = some k
    · have hAll : sch.pods.filter (podKey newConstraints hash c · = some k) = sch.pods :=
        List.filter_eq_self.mpr fun p hp => by simp [hSch p hp, hk]
      simp [hk, hAll]
    · have hNone : sch.pods.filter (podKey newConstraints hash c · = some k) = [] :=
        List.filter_eq_nil_iff.mpr fun p hp => by simp [hSch p hp, hk]
      simp [hk, hNone]

/-- The pods of a pass's schedules key, under every key, the pods the pass keyed. -/
theorem Groups.keyedPods_flatMap_result {pods : List Pod} {st : SchedulesState}
    (hG : Groups newConstraints hash c pods st) (k : UInt64) :
    keyedPods newConstraints hash c (st.result.flatMap Schedule.pods) k =
      keyedPods newConstraints hash c pods k := by
  rw [keyedPods_flatMap fun sch hMem p hp => ?_, hG.grouping_eq]
  obtain ⟨k', -, hHolds⟩ := hG.exists_of_mem_result hMem
  rw [hHolds.scheduleKey_eq, ((hHolds.mem_pods_iff p).mp hp).2]

/-- Under a fixed daemon-set listing, two successful passes over inputs that key the same pods
in the same order under every key return the same schedules, in some order: the same
constraints, the same pods in the same order, the same daemons. How pods of different keys are
interleaved in the input does not matter. -/
theorem getSchedules_perm_of_keyedPods (s : Scheduler) (listing : List DaemonSet)
    (hListing : ∀ n, s.kubeClient.listDaemonSets n = .ok listing) {pods pods' : List Pod}
    {schedules schedules' : List Schedule}
    (h : s.getSchedules newConstraints hash c pods = .ok schedules)
    (h' : s.getSchedules newConstraints hash c pods' = .ok schedules')
    (hKeyed : ∀ k, keyedPods newConstraints hash c pods k = keyedPods newConstraints hash c pods' k) :
    schedules.Perm schedules' := by
  obtain ⟨st, hLoop, rfl⟩ := getSchedules_eq_ok.mp h
  obtain ⟨st', hLoop', rfl⟩ := getSchedules_eq_ok.mp h'
  exact result_perm_of_keyedPods (groups_of_getSchedulesLoop hLoop)
    (groups_of_getSchedulesLoop hLoop') (daemonsOnce_of_getSchedulesLoop hListing hLoop)
    (daemonsOnce_of_getSchedulesLoop hListing hLoop') hKeyed

/-- The example pods with zone `b`'s pod first and the pod without constraints between zone
`a`'s two. -/
def interleavedPods : List Pod :=
  [zonePod "third" "b", zonePod "first" "a", zonePod "invalid" "a", zonePod "second" "a"]

theorem getSchedules_perm_of_keyedPods_interleaved :
    (∀ n, exampleScheduler.kubeClient.listDaemonSets n = .ok exampleListing) ∧
    exampleScheduler.getSchedules exampleNewConstraints exampleHash exampleConstraints
        examplePods = .ok exampleSchedules ∧
    exampleScheduler.getSchedules exampleNewConstraints exampleHash exampleConstraints
        interleavedPods = .ok [zoneASchedule, zoneBSchedule] ∧
    (∀ k, keyedPods exampleNewConstraints exampleHash exampleConstraints examplePods k =
      keyedPods exampleNewConstraints exampleHash exampleConstraints interleavedPods k) ∧
    exampleSchedules.Perm [zoneASchedule, zoneBSchedule] := by
  have hKeyed (k : UInt64) :
      keyedPods exampleNewConstraints exampleHash exampleConstraints examplePods k =
        keyedPods exampleNewConstraints exampleHash exampleConstraints interleavedPods k := by
    have hFirst : podKey exampleNewConstraints exampleHash exampleConstraints
        (zonePod "first" "a") = some 1 := rfl
    have hSecond : podKey exampleNewConstraints exampleHash exampleConstraints
        (zonePod "second" "a") = some 1 := rfl
    have hThird : podKey exampleNewConstraints exampleHash exampleConstraints
        (zonePod "third" "b") = some 2 := rfl
    have hInvalid : podKey exampleNewConstraints exampleHash exampleConstraints
        (zonePod "invalid" "a") = none := rfl
    rcases eq_or_ne k 1 with rfl | h1
    · simp [keyedPods, examplePods, interleavedPods, hFirst, hSecond, hThird, hInvalid]
    rcases eq_or_ne k 2 with rfl | h2
    · simp [keyedPods, examplePods, interleavedPods, hFirst, hSecond, hThird, hInvalid]
    · simp [keyedPods, examplePods, interleavedPods, hFirst, hSecond, hThird, hInvalid, h1.symm,
        h2.symm]
  exact ⟨fun _ => rfl, rfl, rfl, hKeyed,
    @getSchedules_perm_of_keyedPods exampleNewConstraints exampleHash exampleConstraints
      exampleScheduler exampleListing (fun _ => rfl) examplePods interleavedPods _ _ rfl rfl hKeyed⟩

/-- Under a fixed daemon-set listing, grouping the pods of a pass's schedules again succeeds and
returns the same schedules, in some order: the pass is a normal form. -/
theorem getSchedules_regroup (s : Scheduler) (listing : List DaemonSet)
    (hListing : ∀ n, s.kubeClient.listDaemonSets n = .ok listing) {pods : List Pod}
    {schedules : List Schedule} (h : s.getSchedules newConstraints hash c pods = .ok schedules) :
    ∃ schedules', s.getSchedules newConstraints hash c (schedules.flatMap Schedule.pods) =
      .ok schedules' ∧ schedules'.Perm schedules := by
  obtain ⟨st, hLoop, rfl⟩ := getSchedules_eq_ok.mp h
  have hG := groups_of_getSchedulesLoop hLoop
  cases hAgain : s.getSchedules newConstraints hash c (st.result.flatMap Schedule.pods) with
  | error e =>
    rcases getSchedules_eq_error hAgain with
      ⟨pod, hPod, cs, e', hDerive, hHash, -⟩ | ⟨call, e', hList, -⟩
    · obtain ⟨sch, hMem, hIn⟩ := List.mem_flatMap.mp hPod
      obtain ⟨k, -, hHolds⟩ := hG.exists_of_mem_result hMem
      have hKey := ((hHolds.mem_pods_iff pod).mp hIn).2
      simp [podKey, hDerive, hHash, Except.toOption] at hKey
    · cases (hListing call).symm.trans hList
  | ok schedules' =>
    obtain ⟨st', hLoop', rfl⟩ := getSchedules_eq_ok.mp hAgain
    exact ⟨_, rfl, result_perm_of_keyedPods (groups_of_getSchedulesLoop hLoop') hG
      (daemonsOnce_of_getSchedulesLoop hListing hLoop')
      (daemonsOnce_of_getSchedulesLoop hListing hLoop) hG.keyedPods_flatMap_result⟩

theorem getSchedules_regroup_examplePods :
    (∀ n, exampleScheduler.kubeClient.listDaemonSets n = .ok exampleListing) ∧
    exampleScheduler.getSchedules exampleNewConstraints exampleHash exampleConstraints
        examplePods = .ok exampleSchedules ∧
    ∃ schedules', exampleScheduler.getSchedules exampleNewConstraints exampleHash
        exampleConstraints (exampleSchedules.flatMap Schedule.pods) = .ok schedules' ∧
      schedules'.Perm exampleSchedules :=
  ⟨fun _ => rfl, rfl, @getSchedules_regroup exampleNewConstraints exampleHash exampleConstraints
    exampleScheduler exampleListing (fun _ => rfl) examplePods _ rfl⟩

end Regroup

end Karpenter.Scheduling
