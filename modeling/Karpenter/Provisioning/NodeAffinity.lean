import Karpenter.Core.V1
import Mathlib.Data.List.Sort

/-! Requirement lists built from pods' node selectors and node affinities, and the candidate
label domains computed from them. The library helpers the code calls are taken by their
contracts, so every result holds for each implementation that meets them. -/

namespace Karpenter.Scheduling

open V1

/-- The requirement list the scheduler derives from pods. -/
abbrev NodeAffinity := List NodeSelectorRequirement

/-! ## Library contracts -/

/-- `sort.Slice` on a pod's preferred terms with `less i j := w i > w j`, by the contract of
the Go library rather than by its algorithm: a permutation in which no term is heavier than
one before it. The order of equally heavy terms is left open. -/
structure SortSlice where
  sort : List PreferredSchedulingTerm → List PreferredSchedulingTerm
  perm : ∀ terms, (sort terms).Perm terms
  sorted : ∀ terms, (sort terms).Pairwise fun a b => b.weight ≤ a.weight

/-- One sort that meets the contract: insertion sort, heaviest first. -/
def insertionSortSlice : SortSlice where
  sort := List.insertionSort fun a b => b.weight ≤ a.weight
  perm := List.perm_insertionSort _
  sorted := @List.sorted_insertionSort _ _ _ ⟨fun a b => le_total b.weight a.weight⟩
    ⟨fun _ _ _ hab hbc => le_trans hbc hab⟩

/-- The head of a sorted list of terms is one of the terms, and the heaviest. -/
theorem SortSlice.head_heaviest (S : SortSlice) {terms rest : List PreferredSchedulingTerm}
    {t : PreferredSchedulingTerm} (h : S.sort terms = t :: rest) :
    t ∈ terms ∧ ∀ t' ∈ terms, t'.weight ≤ t.weight := by
  have hPerm := S.perm terms
  have hSorted := S.sorted terms
  rw [h] at hPerm hSorted
  refine ⟨hPerm.subset (List.mem_cons_self t rest), fun t' ht' => ?_⟩
  rcases List.mem_cons.mp (hPerm.symm.subset ht') with rfl | hRest
  · exact le_rfl
  · exact List.rel_of_pairwise_cons hSorted hRest

/-- `functional.IntersectStringSlice` and `functional.StringSliceWithout`, by what they
compute on sets: the values common to one or more slices, and a slice without some values.
Their package is not part of this source. -/
structure StringSliceOps where
  intersectStringSlice : List (List String) → List String
  stringSliceWithout : List String → List String → List String
  mem_intersectStringSlice : ∀ {slices : List (List String)} {v : String}, slices ≠ [] →
    (v ∈ intersectStringSlice slices ↔ ∀ s ∈ slices, v ∈ s)
  mem_stringSliceWithout : ∀ {vals remove : List String} {v : String},
    v ∈ stringSliceWithout vals remove ↔ v ∈ vals ∧ v ∉ remove

/-- Modelled from the spec: the `functional` package is not in the source, and the spec
describes these helpers as intersection and exclusion over label value domains. -/
def functional : StringSliceOps where
  intersectStringSlice
    | [] => []
    | s :: rest => s.filter fun v => rest.all (v ∈ ·)
  stringSliceWithout vals remove := vals.filter (· ∉ remove)
  mem_intersectStringSlice := by
    rintro (_ | ⟨s, rest⟩) v h
    · exact absurd rfl h
    · simp
  mem_stringSliceWithout := by simp

/-! ## NodeAffinityFor -/

/-- Each node-selector entry as an `In` requirement with the single value. -/
def selectorRequirements (selector : StringMap) : NodeAffinity :=
  selector.entries.map fun e => { key := e.1, operator := .opIn, values := [e.2] }

/-- The heaviest preference's match expressions, with the preferred terms as `sort.Slice`
leaves them. An empty list is not sorted. -/
def heaviestPreference (S : SortSlice) (preferred : List PreferredSchedulingTerm) :
    NodeAffinity × List PreferredSchedulingTerm :=
  if preferred = [] then ([], preferred)
  else
    let sorted := S.sort preferred
    (match sorted with
      | t :: _ => t.preference.matchExpressions
      | [] => [], sorted)

/-- One iteration of `NodeAffinityFor`: the requirements appended for the pod, and the pod as
the call leaves it, since `sort.Slice` sorts the pod's own preferred terms in place. -/
def nodeAffinityForPod (S : SortSlice) (pod : Pod) : NodeAffinity × Pod :=
  let selectors := selectorRequirements pod.spec.nodeSelector
  match pod.spec.affinity with
  | some ⟨some na⟩ =>
    let (preferred, sorted) :=
      heaviestPreference S na.preferredDuringSchedulingIgnoredDuringExecution
    (selectors ++ preferred ++ na.firstRequiredRequirements, pod.withPreferredTerms sorted)
  | _ => (selectors, pod)

/-- `NodeAffinityFor(pods...)`: the requirements of all pods in order, and the pods after
the call. -/
def nodeAffinityFor (S : SortSlice) : List Pod → NodeAffinity × List Pod
  | [] => ([], [])
  | pod :: pods =>
    let (requirements, pod) := nodeAffinityForPod S pod
    let (rest, pods) := nodeAffinityFor S pods
    (requirements ++ rest, pod :: pods)

@[simp] theorem nodeAffinityFor_nil (S : SortSlice) : nodeAffinityFor S [] = ([], []) := rfl

@[simp] theorem nodeAffinityFor_cons (S : SortSlice) (pod : Pod) (pods : List Pod) :
    nodeAffinityFor S (pod :: pods) =
      ((nodeAffinityForPod S pod).1 ++ (nodeAffinityFor S pods).1,
        (nodeAffinityForPod S pod).2 :: (nodeAffinityFor S pods).2) := rfl

/-- What one pod contributes, in the spec's words: an `In` requirement per node-selector entry,
then the match expressions of one heaviest preferred term if there are preferred terms, then
those of the first required node-selector term if there is one. -/
def PodRequirements (pod : Pod) (requirements : NodeAffinity) : Prop :=
  ∃ preferred : NodeAffinity,
    requirements = pod.spec.nodeSelector.entries.map
        (fun e => { key := e.1, operator := .opIn, values := [e.2] }) ++
      preferred ++
      (match pod.spec.affinity with
        | some ⟨some ⟨some ⟨term :: _⟩, _⟩⟩ => term.matchExpressions
        | _ => []) ∧
    (pod.preferredTerms = [] ∧ preferred = [] ∨
      ∃ t ∈ pod.preferredTerms, (∀ t' ∈ pod.preferredTerms, t'.weight ≤ t.weight) ∧
        preferred = t.preference.matchExpressions)

theorem heaviestPreference_fst (S : SortSlice) (preferred : List PreferredSchedulingTerm) :
    preferred = [] ∧ (heaviestPreference S preferred).1 = [] ∨
      ∃ t ∈ preferred, (∀ t' ∈ preferred, t'.weight ≤ t.weight) ∧
        (heaviestPreference S preferred).1 = t.preference.matchExpressions := by
  by_cases hEmpty : preferred = []
  · exact .inl ⟨hEmpty, by simp [heaviestPreference, hEmpty]⟩
  · right
    cases hSort : S.sort preferred with
    | nil =>
      have hPerm := S.perm preferred
      rw [hSort] at hPerm
      exact absurd hPerm.symm.eq_nil hEmpty
    | cons t rest =>
      obtain ⟨hMem, hMax⟩ := S.head_heaviest hSort
      exact ⟨t, hMem, hMax, by simp [heaviestPreference, hEmpty, hSort]⟩

theorem nodeAffinityForPod_requirements (S : SortSlice) (pod : Pod) :
    PodRequirements pod (nodeAffinityForPod S pod).1 := by
  rcases pod with ⟨name, selector, _ | ⟨_ | ⟨required, preferred⟩⟩, tolerations⟩
  · exact ⟨[], by simp [nodeAffinityForPod, selectorRequirements], .inl ⟨rfl, rfl⟩⟩
  · exact ⟨[], by simp [nodeAffinityForPod, selectorRequirements], .inl ⟨rfl, rfl⟩⟩
  · refine ⟨_, ?_, heaviestPreference_fst S preferred⟩
    rcases required with _ | ⟨_ | ⟨term, rest⟩⟩ <;>
      simp [nodeAffinityForPod, selectorRequirements, NodeAffinity.firstRequiredRequirements]

/-- `NodeAffinityFor` is the concatenation, pod by pod in input order, of what each pod
contributes: its node selector, one heaviest preference, and the first required term. -/
theorem nodeAffinityFor_requirements (S : SortSlice) (pods : List Pod) :
    ∃ parts : List NodeAffinity, List.Forall₂ PodRequirements pods parts ∧
      (nodeAffinityFor S pods).1 = parts.flatten := by
  induction pods with
  | nil => exact ⟨[], .nil, rfl⟩
  | cons pod pods ih =>
    obtain ⟨parts, hParts, hJoin⟩ := ih
    exact ⟨_ :: parts, .cons (nodeAffinityForPod_requirements S pod) hParts, by simp [hJoin]⟩

/-- Labels that meet what one pod contributes meet the pod's node selector, every match expression
of its first required node-selector term, and one heaviest preferred term if it has preferred
terms. -/
theorem PodRequirements.sound {pod : Pod} {requirements : NodeAffinity} {labels : StringMap}
    (hPod : PodRequirements pod requirements) (h : ∀ r ∈ requirements, r.matches labels) :
    selectorMatches pod.spec.nodeSelector labels ∧
      (∀ na term rest, pod.spec.affinity = some ⟨some na⟩ →
        na.requiredDuringSchedulingIgnoredDuringExecution = some ⟨term :: rest⟩ →
        ∀ r ∈ term.matchExpressions, r.matches labels) ∧
      (pod.preferredTerms = [] ∨ ∃ t ∈ pod.preferredTerms,
        (∀ t' ∈ pod.preferredTerms, t'.weight ≤ t.weight) ∧
        ∀ r ∈ t.preference.matchExpressions, r.matches labels) := by
  obtain ⟨preferred, rfl, hPreferred⟩ := hPod
  simp only [List.mem_append] at h
  refine ⟨(selectorMatches_iff _ _).mpr fun e he => ?_,
    fun ⟨_, _⟩ term rest hAffinity hRequired r hr => h r (.inr ?_), ?_⟩
  · exact (NodeSelectorRequirement.matches_in_singleton _ _ _).mp
      (h _ (.inl (.inl (List.mem_map_of_mem _ he))))
  · simp only at hRequired
    simpa only [hAffinity, hRequired] using hr
  · rcases hPreferred with ⟨hNil, -⟩ | ⟨t, ht, hMax, rfl⟩
    · exact .inl hNil
    · exact .inr ⟨t, ht, hMax, fun r hr => h r (.inl (.inr hr))⟩

/-- The requirements `NodeAffinityFor` derives are enough for every pod: labels that meet all of
them meet each pod's node selector, every match expression of its first required node-selector
term, and a heaviest preferred term when it has preferred terms. A first term without match
expressions adds no requirement, although the API matches no node with an empty term: the
requirements then say nothing of the pod's required node affinity. -/
theorem nodeAffinityFor_sound (S : SortSlice) (pods : List Pod) (labels : StringMap)
    (h : ∀ r ∈ (nodeAffinityFor S pods).1, r.matches labels) :
    ∀ pod ∈ pods, selectorMatches pod.spec.nodeSelector labels ∧
      (∀ na term rest, pod.spec.affinity = some ⟨some na⟩ →
        na.requiredDuringSchedulingIgnoredDuringExecution = some ⟨term :: rest⟩ →
        ∀ r ∈ term.matchExpressions, r.matches labels) ∧
      (pod.preferredTerms = [] ∨ ∃ t ∈ pod.preferredTerms,
        (∀ t' ∈ pod.preferredTerms, t'.weight ≤ t.weight) ∧
        ∀ r ∈ t.preference.matchExpressions, r.matches labels) := by
  induction pods with
  | nil => simp
  | cons pod pods ih =>
    simp only [nodeAffinityFor_cons, List.mem_append] at h
    rintro p (_ | ⟨_, hp⟩)
    · exact (nodeAffinityForPod_requirements S pod).sound fun r hr => h r (.inl hr)
    · exact ih (fun r hr => h r (.inr hr)) p hp

/-- A pod that selects zone `a` and requires zone `a` or `b`. -/
def zoneAffinityPod : Pod where
  name := "zone-affinity"
  spec := { nodeSelector := (∅ : StringMap).insert labelTopologyZone "a", tolerations := [],
            affinity := some ⟨some ⟨some ⟨[⟨[⟨labelTopologyZone, .opIn, ["a", "b"]⟩]⟩]⟩, []⟩⟩ }

theorem nodeAffinityFor_sound_zoneAffinityPod :
    selectorMatches zoneAffinityPod.spec.nodeSelector
        ((∅ : StringMap).insert labelTopologyZone "a") ∧
      (∀ na term rest, zoneAffinityPod.spec.affinity = some ⟨some na⟩ →
        na.requiredDuringSchedulingIgnoredDuringExecution = some ⟨term :: rest⟩ →
        ∀ r ∈ term.matchExpressions, r.matches ((∅ : StringMap).insert labelTopologyZone "a")) ∧
      (zoneAffinityPod.preferredTerms = [] ∨ ∃ t ∈ zoneAffinityPod.preferredTerms,
        (∀ t' ∈ zoneAffinityPod.preferredTerms, t'.weight ≤ t.weight) ∧
        ∀ r ∈ t.preference.matchExpressions,
          r.matches ((∅ : StringMap).insert labelTopologyZone "a")) :=
  nodeAffinityFor_sound insertionSortSlice [zoneAffinityPod]
    ((∅ : StringMap).insert labelTopologyZone "a") (by decide) zoneAffinityPod
    (List.mem_singleton_self _)

theorem heaviestPreference_snd (S : SortSlice) (preferred : List PreferredSchedulingTerm) :
    (heaviestPreference S preferred).2.Perm preferred ∧
      (heaviestPreference S preferred).2.Pairwise fun a b => b.weight ≤ a.weight := by
  by_cases hEmpty : preferred = []
  · simp [heaviestPreference, hEmpty]
  · simpa [heaviestPreference, hEmpty] using ⟨S.perm preferred, S.sorted preferred⟩

/-- `NodeAffinityFor` changes each pod only in the order of its preferred terms: `sort.Slice`
sorts them in place, so every pod comes back with a heaviest-first permutation of them. -/
theorem nodeAffinityFor_pods (S : SortSlice) (pods : List Pod) :
    List.Forall₂ (fun pod pod' => ∃ terms : List PreferredSchedulingTerm,
      terms.Perm pod.preferredTerms ∧ terms.Pairwise (fun a b => b.weight ≤ a.weight) ∧
        pod' = pod.withPreferredTerms terms) pods (nodeAffinityFor S pods).2 := by
  induction pods with
  | nil => exact .nil
  | cons pod pods ih =>
    refine .cons ?_ ih
    rcases pod with ⟨name, selector, _ | ⟨_ | na⟩, tolerations⟩
    · exact ⟨[], .nil, .nil, rfl⟩
    · exact ⟨[], .nil, .nil, rfl⟩
    · obtain ⟨hPerm, hSorted⟩ := heaviestPreference_snd S
        na.preferredDuringSchedulingIgnoredDuringExecution
      exact ⟨_, hPerm, hSorted, rfl⟩

/-- A pod whose two preferred terms are listed lightest first. -/
def lightFirstPod : Pod where
  name := "light-first"
  spec := { nodeSelector := ∅, tolerations := [],
            affinity := some ⟨some ⟨none, [⟨1, ⟨[]⟩⟩, ⟨2, ⟨[]⟩⟩]⟩⟩ }

/-- Whatever order `sort.Slice` leaves equal weights in, `NodeAffinityFor` reorders the
preferred terms of `lightFirstPod`, so the caller's pod is not left as it was. -/
theorem lightFirstPod_reordered (S : SortSlice) :
    (nodeAffinityFor S [lightFirstPod]).2 ≠ [lightFirstPod] := by
  intro h
  have hSorted := S.sorted [⟨1, ⟨[]⟩⟩, ⟨2, ⟨[]⟩⟩]
  have hSame : S.sort [⟨1, ⟨[]⟩⟩, ⟨2, ⟨[]⟩⟩] = [⟨1, ⟨[]⟩⟩, ⟨2, ⟨[]⟩⟩] := by
    simpa [nodeAffinityForPod, heaviestPreference, lightFirstPod, Pod.withPreferredTerms]
      using h
  rw [hSame] at hSorted
  simp at hSorted

theorem nodeAffinityFor_reorders_lightFirstPod :
    (nodeAffinityFor insertionSortSlice [lightFirstPod]).2 ≠ [lightFirstPod] :=
  lightFirstPod_reordered insertionSortSlice

/-! ## Label domains -/

/-- `GetLabels`: the requirement keys, each once, in the order of the map recording them. -/
def NodeAffinity.getLabels (n : NodeAffinity) : List String :=
  (n.foldl (fun (keys : AList fun _ : String => Bool) r => keys.insert r.key true) ∅).keys

theorem mem_foldl_insert_key (n : NodeAffinity) (keys : AList fun _ : String => Bool)
    (k : String) :
    k ∈ n.foldl (fun (keys : AList fun _ : String => Bool) r => keys.insert r.key true) keys ↔
      k ∈ keys ∨ ∃ r ∈ n, r.key = k := by
  induction n generalizing keys with
  | nil => simp
  | cons r n ih =>
    simp only [List.foldl_cons, ih, AList.mem_insert, List.mem_cons, exists_eq_or_imp]
    tauto

/-- `GetLabels` returns exactly the keys the requirements name, each once. -/
theorem getLabels_spec (n : NodeAffinity) :
    (∀ k, k ∈ n.getLabels ↔ ∃ r ∈ n, r.key = k) ∧ n.getLabels.Nodup := by
  refine ⟨fun k => ?_, AList.keys_nodup _⟩
  rw [NodeAffinity.getLabels, ← AList.mem_keys, mem_foldl_insert_key]
  simp

/-- The `In` loop of `GetLabelValues`. -/
def intersectIn (F : StringSliceOps) (label : String) (result : List String)
    (n : NodeAffinity) : List String :=
  n.foldl (fun result r =>
    if r.key = label ∧ r.operator = .opIn then F.intersectStringSlice [result, r.values]
    else result) result

/-- The `NotIn` loop of `GetLabelValues`. -/
def withoutNotIn (F : StringSliceOps) (label : String) (result : List String)
    (n : NodeAffinity) : List String :=
  n.foldl (fun result r =>
    if r.key = label ∧ r.operator = .opNotIn then F.stringSliceWithout result r.values
    else result) result

/-- `GetLabelValues(label, constraints...)`: intersect the external domains, then every `In`
requirement on the label, then remove every `NotIn` requirement's values. -/
def NodeAffinity.getLabelValues (F : StringSliceOps) (n : NodeAffinity) (label : String)
    (constraints : List (List String)) : List String :=
  withoutNotIn F label (intersectIn F label (F.intersectStringSlice constraints) n) n

theorem mem_intersectIn (F : StringSliceOps) (label : String) (n : NodeAffinity)
    (result : List String) (v : String) :
    v ∈ intersectIn F label result n ↔
      v ∈ result ∧ ∀ r ∈ n, r.key = label → r.operator = .opIn → v ∈ r.values := by
  induction n generalizing result with
  | nil => simp [intersectIn]
  | cons r n ih =>
    rw [intersectIn, List.foldl_cons, ← intersectIn, ih]
    split_ifs with hReq
    · rw [F.mem_intersectStringSlice (List.cons_ne_nil _ _)]
      simp only [List.mem_cons, List.mem_singleton, forall_eq_or_imp, hReq]
      tauto
    · simp only [List.mem_cons, forall_eq_or_imp]
      tauto

theorem mem_withoutNotIn (F : StringSliceOps) (label : String) (n : NodeAffinity)
    (result : List String) (v : String) :
    v ∈ withoutNotIn F label result n ↔
      v ∈ result ∧ ∀ r ∈ n, r.key = label → r.operator = .opNotIn → v ∉ r.values := by
  induction n generalizing result with
  | nil => simp [withoutNotIn]
  | cons r n ih =>
    rw [withoutNotIn, List.foldl_cons, ← withoutNotIn, ih]
    split_ifs with hReq
    · rw [F.mem_stringSliceWithout]
      simp only [List.mem_cons, forall_eq_or_imp, hReq]
      tauto
    · simp only [List.mem_cons, forall_eq_or_imp]
      tauto

/-- The spec's reading of a label domain: a value in every external domain, in the values of
every `In` requirement on the label, and in those of no `NotIn` requirement on it. -/
def InLabelDomain (n : NodeAffinity) (label : String) (constraints : List (List String))
    (v : String) : Prop :=
  (∀ d ∈ constraints, v ∈ d) ∧
    (∀ r ∈ n, r.key = label → r.operator = .opIn → v ∈ r.values) ∧
    (∀ r ∈ n, r.key = label → r.operator = .opNotIn → v ∉ r.values)

theorem mem_getLabelValues (F : StringSliceOps) (n : NodeAffinity) (label : String)
    {constraints : List (List String)} (hDomains : constraints ≠ []) (v : String) :
    v ∈ n.getLabelValues F label constraints ↔ InLabelDomain n label constraints v := by
  rw [NodeAffinity.getLabelValues, mem_withoutNotIn, mem_intersectIn,
    F.mem_intersectStringSlice hDomains, InLabelDomain, and_assoc]

theorem inLabelDomain_filter (n : NodeAffinity) (label : String)
    (constraints : List (List String)) (v : String) :
    InLabelDomain (n.filter fun r => r.key = label ∧ (r.operator = .opIn ∨ r.operator = .opNotIn))
      label constraints v ↔ InLabelDomain n label constraints v := by
  simp only [InLabelDomain, List.mem_filter, decide_eq_true_eq, and_imp]
  constructor
  · rintro ⟨hD, hIn, hNotIn⟩
    exact ⟨hD, fun r hr hk ho => hIn r hr hk (.inl ho) hk ho,
      fun r hr hk ho => hNotIn r hr hk (.inr ho) hk ho⟩
  · rintro ⟨hD, hIn, hNotIn⟩
    exact ⟨hD, fun r hr _ _ hk ho => hIn r hr hk ho, fun r hr _ _ hk ho => hNotIn r hr hk ho⟩

/-- For a non-empty list of external domains, a value is in `GetLabelValues` exactly when it
is in every domain, in every `In` requirement on the label and in no `NotIn` one. Requirements
on other keys or with other operators do not count, their order does not matter, and more
requirements can only shrink the result. -/
theorem getLabelValues_spec (F : StringSliceOps) (n : NodeAffinity) (label : String)
    (constraints : List (List String)) (hDomains : constraints ≠ []) :
    (∀ v, v ∈ n.getLabelValues F label constraints ↔ InLabelDomain n label constraints v) ∧
    (∀ v, v ∈ n.getLabelValues F label constraints ↔
      v ∈ NodeAffinity.getLabelValues F (n.filter fun r =>
        r.key = label ∧ (r.operator = .opIn ∨ r.operator = .opNotIn)) label constraints) ∧
    (∀ n' : NodeAffinity, n'.Perm n → ∀ v,
      v ∈ n'.getLabelValues F label constraints ↔ v ∈ n.getLabelValues F label constraints) ∧
    (∀ more : NodeAffinity, ∀ v,
      v ∈ NodeAffinity.getLabelValues F (n ++ more) label constraints →
        v ∈ n.getLabelValues F label constraints) := by
  simp only [mem_getLabelValues F _ label hDomains, inLabelDomain_filter, iff_self,
    implies_true, true_and]
  refine ⟨fun n' hPerm v => ?_, fun more v => ?_⟩
  · simp only [InLabelDomain, hPerm.mem_iff]
  · simp only [InLabelDomain, List.mem_append]
    exact fun ⟨hD, hIn, hNotIn⟩ =>
      ⟨hD, fun r hr => hIn r (.inl hr), fun r hr => hNotIn r (.inl hr)⟩

/-- The spec's example requirements: `In zone [b, c]` and `NotIn zone [c]`. -/
def zoneRequirements : NodeAffinity :=
  [⟨"zone", .opIn, ["b", "c"]⟩, ⟨"zone", .opNotIn, ["c"]⟩]

theorem getLabelValues_spec_zoneRequirements :
    [["a", "b", "c"]] ≠ [] ∧
    (∀ v, v ∈ zoneRequirements.getLabelValues functional "zone" [["a", "b", "c"]] ↔
      InLabelDomain zoneRequirements "zone" [["a", "b", "c"]] v) ∧
    (∀ v, v ∈ zoneRequirements.getLabelValues functional "zone" [["a", "b", "c"]] ↔
      v ∈ NodeAffinity.getLabelValues functional (zoneRequirements.filter fun r =>
        r.key = "zone" ∧ (r.operator = .opIn ∨ r.operator = .opNotIn)) "zone"
          [["a", "b", "c"]]) ∧
    (∀ n' : NodeAffinity, n'.Perm zoneRequirements → ∀ v,
      v ∈ n'.getLabelValues functional "zone" [["a", "b", "c"]] ↔
        v ∈ zoneRequirements.getLabelValues functional "zone" [["a", "b", "c"]]) ∧
    (∀ more : NodeAffinity, ∀ v,
      v ∈ NodeAffinity.getLabelValues functional (zoneRequirements ++ more) "zone"
          [["a", "b", "c"]] →
        v ∈ zoneRequirements.getLabelValues functional "zone" [["a", "b", "c"]]) :=
  ⟨by decide, getLabelValues_spec functional zoneRequirements "zone" _ (by decide)⟩

example : zoneRequirements.getLabelValues functional "zone" [["a", "b", "c"]] = ["b"] := by
  decide

end Karpenter.Scheduling
