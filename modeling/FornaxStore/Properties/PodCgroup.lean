import FornaxStore.PodCgroup

/-!
# pod の cgroup の性質

`IsPodCgroup` は内部の名前の深さだけを QoS の cgroup と比べ、成分そのものは比べない。そのため
QoS の cgroup の下に無い名前でも、深さが合い最後の成分が `pod` で始まれば pod の cgroup とする。
`GetAllPodsFromCgroups` は最後の成分が `pod` を含むかを見るので、`pod` で始まらない名前からも UID を
読む。また map は UID ごとに一つの名前しか持たない。

## 主な結果

* `splitAux_eq_singleton` — `strings.Split` が一つにしか切らないのは、区切りが現れないとき
* `isPodCgroup_eq_true_iff` — `IsPodCgroup` が `(true, u)` を返すのは、内部の名前が QoS の cgroup の
  どれかより一つ深く、最後の成分が `pod` の後に `pod` を含まない `u` を付けたものであるとき
* `isPodCgroup_outside_qos` — `/system.slice/podman.service` を pod の cgroup とする
* `isPodCgroup_getPodContainerName` — `GetPodContainerName` の名前は pod の UID と答えられる
* `getAllPodsFromCgroups_eq_foldl` — 三重のループは、載っている `(q, d)` を順に書く畳み込み
* `getAllPodsFromCgroups_agrees` — 走査の map と `IsPodCgroup` は、`pod` で始まる名前と、UID が
  一つの名前にしか無いところで合う
* `getAllPodsFromCgroups_disagrees` — 二つの QoS の下の同じ UID と、`xpod9` では合わない
-/

namespace FornaxStore

namespace Cm

/-! ## `strings.Split` と `strings.Contains` -/

section

variable {sep : List Char}

theorem splitAux_ne_nil : ∀ (l : List Char) (k : Nat), splitAux sep l k ≠ []
  | [], _ => by simp [splitAux]
  | _ :: rest, k + 1 => by rw [splitAux]; exact splitAux_ne_nil rest k
  | c :: rest, 0 => by
    rw [splitAux]
    split
    · simp
    · split <;> simp

/-- 区切りの残りを読み飛ばす。 -/
theorem splitAux_skip (u : List Char) :
    ∀ ys : List Char, splitAux sep (ys ++ u) ys.length = splitAux sep u 0
  | [] => rfl
  | _ :: ys => by rw [List.cons_append, List.length_cons, splitAux]; exact splitAux_skip u ys

/-- 区切りで始まる列は、空の部分と残りの切り方に分かれる。 -/
theorem splitAux_sep_append (hsep : sep ≠ []) (u : List Char) :
    splitAux sep (sep ++ u) 0 = [] :: splitAux sep u 0 := by
  obtain ⟨c, cs, rfl⟩ := List.exists_cons_of_ne_nil hsep
  rw [List.cons_append, splitAux,
    if_pos (show (c :: cs).isPrefixOf (c :: (cs ++ u)) = true from
      List.isPrefixOf_iff_prefix.mpr (List.prefix_append (c :: cs) u)), List.length_cons,
    Nat.add_sub_cancel, splitAux_skip]

/-- 区切りが現れなければ、切らずに一つで返す。 -/
theorem splitAux_of_containsAux : ∀ l, containsAux sep l = false → splitAux sep l 0 = [l]
  | [], _ => rfl
  | c :: rest, h => by
    simp only [containsAux, Bool.or_eq_false_iff] at h
    rw [splitAux, if_neg (by simp [h.1]), splitAux_of_containsAux rest h.2]

/-- 一つにしか切らないのは、区切りが現れず、そのまま返すときだけである。 -/
theorem splitAux_eq_singleton (hsep : sep ≠ []) :
    ∀ l v, splitAux sep l 0 = [v] → v = l ∧ containsAux sep l = false
  | [], v, h => by
    simp only [splitAux, List.cons.injEq, and_true] at h
    exact ⟨h.symm, by simpa [containsAux] using hsep⟩
  | c :: rest, v, h => by
    rw [splitAux] at h
    split at h
    · exact absurd (List.cons.inj h).2 (splitAux_ne_nil _ _)
    · next hpre =>
      split at h
      · next p ps hps =>
        obtain ⟨rfl, rfl⟩ := List.cons.inj h
        obtain ⟨rfl, hc⟩ := splitAux_eq_singleton hsep rest p hps
        exact ⟨rfl, by simp [containsAux, hpre, hc]⟩
      · next hnil => exact absurd hnil (splitAux_ne_nil _ _)

end

theorem hasPrefix_iff (s pre : String) : hasPrefix s pre = true ↔ ∃ w, s = pre ++ w := by
  simp only [hasPrefix, List.isPrefixOf_iff_prefix, List.IsPrefix]
  constructor
  · rintro ⟨w, hw⟩
    exact ⟨⟨w⟩, String.ext (by simpa using hw.symm)⟩
  · rintro ⟨w, rfl⟩
    exact ⟨w.data, by simp⟩

/-! ## `pod` で切る -/

theorem podCgroupNamePrefix_data_ne_nil : podCgroupNamePrefix.data ≠ [] := by decide

theorem stringsSplit_pod (s : String) :
    stringsSplit s podCgroupNamePrefix =
      (splitAux podCgroupNamePrefix.data s.data 0).map String.mk :=
  if_neg (by decide)

theorem stringsSplit_pod_append (w : String) :
    stringsSplit (podCgroupNamePrefix ++ w) podCgroupNamePrefix =
      "" :: stringsSplit w podCgroupNamePrefix := by
  rw [stringsSplit_pod, stringsSplit_pod, String.data_append,
    splitAux_sep_append podCgroupNamePrefix_data_ne_nil]
  rfl

/-- `pod` で一つにしか切れないのは、`pod` を含まず、そのまま返すときだけである。 -/
theorem stringsSplit_pod_eq_singleton_iff (w u : String) :
    stringsSplit w podCgroupNamePrefix = [u] ↔
      u = w ∧ stringsContains w podCgroupNamePrefix = false := by
  rw [stringsSplit_pod]
  constructor
  · intro h
    rcases hs : splitAux podCgroupNamePrefix.data w.data 0 with _ | ⟨a, _ | ⟨b, t⟩⟩ <;>
      simp only [hs, List.map_nil, List.map_cons, List.cons.injEq, reduceCtorEq, and_false,
        and_true] at h
    obtain ⟨rfl, hc⟩ := splitAux_eq_singleton podCgroupNamePrefix_data_ne_nil _ _ hs
    exact ⟨h.symm, hc⟩
  · rintro ⟨rfl, hc⟩
    rw [splitAux_of_containsAux _ hc]
    rfl

theorem pod_append_ne_empty (w : String) : podCgroupNamePrefix ++ w ≠ "" := fun h =>
  podCgroupNamePrefix_data_ne_nil (List.append_eq_nil.mp (by rw [← String.data_append, h])).1

theorem stringsContains_pod_append (w : String) :
    stringsContains (podCgroupNamePrefix ++ w) podCgroupNamePrefix = true := by
  simp only [stringsContains, String.data_append]
  exact Bool.or_eq_true_iff.mpr (.inl (List.isPrefixOf_iff_prefix.mpr (List.prefix_append _ _)))

/-- `pod` で始まる名前が `pod` で二つに切れるのは、`pod` の後に `pod` を含まない `u` が続くとき
だけで、前は空である。 -/
theorem stringsSplit_pod_append_eq_pair_iff (w x u : String) :
    stringsSplit (podCgroupNamePrefix ++ w) podCgroupNamePrefix = [x, u] ↔
      x = "" ∧ u = w ∧ stringsContains w podCgroupNamePrefix = false := by
  rw [stringsSplit_pod_append, List.cons.injEq, stringsSplit_pod_eq_singleton_iff, eq_comm]

theorem String.append_left_cancel_iff (s t u : String) : s ++ t = s ++ u ↔ t = u :=
  ⟨fun h => String.ext (by simpa using congrArg String.data h),
    congrArg _⟩

/-- 走査が `pod` で始まる名前から読む UID は、`pod` の後の部分で、それが `pod` を含まないとき。 -/
theorem uidOfBasePath_pod_append (w u : String) :
    uidOfBasePath (podCgroupNamePrefix ++ w) = some u ↔
      u = w ∧ stringsContains w podCgroupNamePrefix = false := by
  rw [uidOfBasePath, stringsContains_pod_append, Bool.not_true, if_neg Bool.false_ne_true]
  split
  · next x uid heq =>
    obtain ⟨-, rfl, hc⟩ := (stringsSplit_pod_append_eq_pair_iff _ _ _).mp heq
    simp [hc, eq_comm]
  · next hne =>
    simp only [reduceCtorEq, false_iff, not_and]
    rintro rfl hc
    exact hne "" u ((stringsSplit_pod_append_eq_pair_iff _ _ _).mpr ⟨rfl, rfl, hc⟩)

/-! ## IsPodCgroup -/

namespace PodContainerManagerImpl

variable (m : PodContainerManagerImpl)

/-- `basePath` のループは、内部の名前がどれかの QoS の cgroup より一つ深ければ最後の成分を、
そうでなければ空を返す。 -/
theorem basePathOf_eq (cn : List String) :
    m.basePathOf cn =
      if ∃ q ∈ m.qosContainersList, cn.length = q.length + 1 then cn.getLast?.getD "" else "" := by
  unfold basePathOf
  generalize m.qosContainersList = qs
  suffices ∀ init, qs.foldl (fun basePath qosContainerName =>
      if cn.length = qosContainerName.length + 1 then cn.getD qosContainerName.length ""
      else basePath) init =
      if ∃ q ∈ qs, cn.length = q.length + 1 then cn.getLast?.getD "" else init from this ""
  induction qs with
  | nil => simp
  | cons q qs ih =>
    intro init
    rw [List.foldl_cons, ih]
    by_cases hqs : ∃ q ∈ qs, cn.length = q.length + 1
    · simp [hqs]
    · by_cases hq : cn.length = q.length + 1
      · simp [hq, List.getD_eq_getElem?_getD, List.getLast?_eq_getElem?]
      · simp [hq, hqs]

/-- `IsPodCgroup` が `(true, u)` を返すのは、内部の名前がどれかの QoS の cgroup より一つ深く、
最後の成分が `pod` の後に `pod` を含まない `u` を付けたものであるときだけである。QoS の cgroup の
成分そのものは比べない。 -/
theorem isPodCgroup_eq_true_iff (c u : String) :
    m.isPodCgroup c = (true, u) ↔
      (∃ q ∈ m.qosContainersList, (m.cgroupManager.cgroupName c).length = q.length + 1) ∧
        (m.cgroupManager.cgroupName c).getLast? = some (podCgroupNamePrefix ++ u) ∧
        stringsContains u podCgroupNamePrefix = false := by
  unfold isPodCgroup
  dsimp only
  rw [basePathOf_eq]
  by_cases hq : ∃ q ∈ m.qosContainersList, (m.cgroupManager.cgroupName c).length = q.length + 1
  · obtain ⟨b, hb⟩ : ∃ b, (m.cgroupManager.cgroupName c).getLast? = some b := by
      obtain ⟨q, -, hlen⟩ := hq
      exact Option.isSome_iff_exists.mp (List.getLast?_isSome.mpr (by rintro h; simp [h] at hlen))
    simp only [hq, ↓reduceIte, hb, Option.getD_some, true_and, Option.some.injEq]
    by_cases hp : hasPrefix b podCgroupNamePrefix = true
    · obtain ⟨w, rfl⟩ := (hasPrefix_iff _ _).mp hp
      rw [if_neg (pod_append_ne_empty w), hp, Bool.not_true,
        if_neg Bool.false_ne_true, String.append_left_cancel_iff]
      split
      · next x uid heq =>
        obtain ⟨-, rfl, hc⟩ := (stringsSplit_pod_append_eq_pair_iff _ _ _).mp heq
        simp only [Prod.mk.injEq, true_and]
        exact ⟨fun h => ⟨h, h ▸ hc⟩, And.left⟩
      · next hne =>
        simp only [Prod.mk.injEq, Bool.false_eq_true, false_and, false_iff, not_and]
        rintro rfl hc
        exact hne "" w ((stringsSplit_pod_append_eq_pair_iff _ _ _).mpr ⟨rfl, rfl, hc⟩)
    · have hne : ∀ u, b ≠ podCgroupNamePrefix ++ u := fun u h => hp ((hasPrefix_iff _ _).mpr ⟨u, h⟩)
      split <;> simp [hp, hne]
  · simp [hq]

end PodContainerManagerImpl

/-! ## cgroupfs driver の例 -/

/-- cgroupfs driver の名前の付け方：内部の名前の成分を `/` でつなぎ、cgroupfs の名前は先頭の
`/` を外して `/` で切る（`/` だけなら root）。 -/
def cgroupfsDriver : CgroupManager where
  name cgroupName := "/" ++ "/".intercalate cgroupName
  cgroupName name :=
    match name.data with
    | '/' :: rest => if rest = [] then [] else splitKey (String.mk rest)
    | data => splitKey (String.mk data)

/-- kubelet の QoS の cgroup：Guaranteed は `kubepods` そのもの、ほかはその下。 -/
def kubepodsQOS : QOSContainersInfo :=
  ⟨["kubepods"], ["kubepods", "burstable"], ["kubepods", "besteffort"]⟩

/-- cgroup v1 の cpu の階層だけを `/sys/fs/cgroup/cpu` に mount した kubelet。 -/
def samplePodManager : PodContainerManagerImpl :=
  ⟨kubepodsQOS, ["/sys/fs/cgroup/cpu"], cgroupfsDriver⟩

/-- 例の host：`kubepods` の下に QoS の二つのディレクトリと file が一つ、BestEffort の下に
`pod123`、Burstable の下に `pod123` と `xpod9` があり、ほかのディレクトリは無い。`path.Join` は
二つ目が `/` で始まればそのままつなぐ。 -/
def sampleHost : Host where
  readDir path :=
    if path = "/sys/fs/cgroup/cpu/kubepods" then
      .ok [⟨"besteffort", true⟩, ⟨"burstable", true⟩, ⟨"cpu.shares", false⟩]
    else if path = "/sys/fs/cgroup/cpu/kubepods/besteffort" then .ok [⟨"pod123", true⟩]
    else if path = "/sys/fs/cgroup/cpu/kubepods/burstable" then
      .ok [⟨"pod123", true⟩, ⟨"xpod9", true⟩]
    else .error ⟨true, "no such file or directory"⟩
  pathJoin dir name := if hasPrefix name "/" then dir ++ name else dir ++ "/" ++ name

/-- cgroupfs driver で、`/system.slice/podman.service` の内部の名前は二つの成分で、Guaranteed の
cgroup `[kubepods]` より一つ深い。`IsPodCgroup` は成分を比べないので、どの QoS の cgroup の下にも
無いこの名前を pod の cgroup とし、UID を `man.service` と答える。 -/
theorem isPodCgroup_outside_qos :
    samplePodManager.isPodCgroup "/system.slice/podman.service" = (true, "man.service") ∧
      cgroupfsDriver.cgroupName "/system.slice/podman.service" = ["system.slice", "podman.service"] ∧
      ∀ q ∈ samplePodManager.qosContainersList,
        ∀ u, ["system.slice", "podman.service"] ≠ q ++ [podCgroupNamePrefix ++ u] := by
  refine ⟨by decide, by decide, ?_⟩
  simp [samplePodManager, PodContainerManagerImpl.qosContainersList, kubepodsQOS]

namespace PodContainerManagerImpl

variable (m : PodContainerManagerImpl)

/-- `GetPodCgroupNameSuffix` が UID の前に `pod` を付け、driver が `GetPodContainerName` の cgroupfs
の名前を内部の名前に戻せるなら、その名前を `IsPodCgroup` は pod の cgroup とし、UID を pod の UID
と答える（UID が `pod` を含まないとき）。 -/
theorem isPodCgroup_getPodContainerName {getPodCgroupNameSuffix : String → String}
    (hsuffix : ∀ uid, getPodCgroupNameSuffix uid = podCgroupNamePrefix ++ uid) (pod : Pod)
    (hinv : m.cgroupManager.cgroupName (m.getPodContainerName getPodCgroupNameSuffix pod).2 =
      (m.getPodContainerName getPodCgroupNameSuffix pod).1)
    (huid : stringsContains pod.uid podCgroupNamePrefix = false) :
    m.isPodCgroup (m.getPodContainerName getPodCgroupNameSuffix pod).2 = (true, pod.uid) := by
  rw [isPodCgroup_eq_true_iff, hinv]
  simp only [getPodContainerName, newCgroupName, hsuffix, List.getLast?_append,
    List.getLast?_singleton, Option.or_some, huid, List.length_append, List.length_singleton,
    and_true]
  cases pod.qos <;> simp [qosContainersList]

/-- cgroupfs driver の kubelet で、Burstable の pod `123` の cgroup は `/kubepods/burstable/pod123`
で、`IsPodCgroup` はそれを UID `123` の pod の cgroup と答える。 -/
theorem isPodCgroup_getPodContainerName_burstable :
    samplePodManager.getPodContainerName (podCgroupNamePrefix ++ ·) ⟨"123", .burstable⟩ =
        (["kubepods", "burstable", "pod123"], "/kubepods/burstable/pod123") ∧
      samplePodManager.isPodCgroup "/kubepods/burstable/pod123" = (true, "123") :=
  ⟨by decide, isPodCgroup_getPodContainerName samplePodManager (fun _ => rfl) ⟨"123", .burstable⟩
    (by decide) (by decide)⟩

/-! ## GetAllPodsFromCgroups

入れ子の三つのループは、載っている `(q, d)` を訪れる順に `recordPod` を畳み込んだものである
（`getAllPodsFromCgroups_eq_foldl`）。
-/

/-- mount `val` で QoS の cgroup `q` のディレクトリを読み、載っていたディレクトリ `d` の `(q, d)`。
読めなければ何も無い。 -/
def dirListing (host : Host) (val : String) (q : List String) : List (List String × String) :=
  match host.readDir (host.pathJoin val (m.cgroupManager.name q)) with
  | .ok dirInfo => (dirInfo.filter (·.isDir)).map fun e => (q, e.name)
  | .error _ => []

/-- 走査が訪れる `(q, d)` の列：mount ごとに、QoS の cgroup ごとに、ディレクトリの順。 -/
def listing (host : Host) : List (List String × String) :=
  m.mountPoints.flatMap fun val => m.qosContainersList.flatMap (m.dirListing host val)

/-- 走査が `(q, d)` で行うこと：`d` から UID が読めれば、それに `q ++ [d]` を書く。 -/
def recordPod (foundPods : List (String × List String)) (x : List String × String) :
    List (String × List String) :=
  match uidOfBasePath x.2 with
  | some podUID => insertPod foundPods podUID (x.1 ++ [x.2])
  | none => foundPods

theorem lookup_filter_ne {u uid : String} (h : u ≠ uid) :
    ∀ f : List (String × List String), (f.filter (·.1 ≠ uid)).lookup u = f.lookup u
  | [] => rfl
  | (k, v) :: f => by
    by_cases hk : k = uid
    · subst hk
      rw [List.filter_cons_of_neg (by simp), lookup_filter_ne h f, List.lookup_cons,
        beq_false_of_ne h]
    · rw [List.filter_cons_of_pos (by simpa using hk), List.lookup_cons, List.lookup_cons,
        lookup_filter_ne h f]

theorem lookup_insertPod (f : List (String × List String)) (uid u : String) (path : List String) :
    (insertPod f uid path).lookup u = if u = uid then some path else f.lookup u := by
  rw [insertPod, List.lookup_cons]
  by_cases h : u = uid
  · rw [if_pos h, h, beq_self_eq_true]
  · rw [if_neg h, beq_false_of_ne h, lookup_filter_ne h]

theorem lookup_recordPod (f : List (String × List String)) (x : List String × String) (u : String) :
    (recordPod f x).lookup u =
      if uidOfBasePath x.2 = some u then some (x.1 ++ [x.2]) else f.lookup u := by
  unfold recordPod
  split
  · next uid h => simp only [lookup_insertPod, h, Option.some.injEq, @eq_comm _ uid u]
  · next h => simp [h]

/-- 書かれた名前は、列のどれかの `(q, d)` の `q ++ [d]` で、`d` からその UID が読める。 -/
theorem lookup_foldl_recordPod_sound (u : String) :
    ∀ (xs : List (List String × String)) init p, (xs.foldl recordPod init).lookup u = some p →
      init.lookup u = some p ∨ ∃ x ∈ xs, uidOfBasePath x.2 = some u ∧ p = x.1 ++ [x.2]
  | [], _, _, h => .inl h
  | x :: xs, init, p, h => by
    rcases lookup_foldl_recordPod_sound u xs _ p h with h | ⟨y, hy, hyu, rfl⟩
    · rw [lookup_recordPod] at h
      split at h
      · next hx => exact .inr ⟨x, .head _, hx, (Option.some.inj h).symm⟩
      · exact .inl h
    · exact .inr ⟨y, .tail _ hy, hyu, rfl⟩

/-- UID `u` を読める `(q, d)` がどれも同じ名前 `p` を持ち、初めから `u` に `p` があるか列に一つ
あれば、終わりの map は `u` に `p` を持つ。 -/
theorem lookup_foldl_recordPod_of_unique {u : String} {p : List String} :
    ∀ (xs : List (List String × String)) init,
      (∀ x ∈ xs, uidOfBasePath x.2 = some u → x.1 ++ [x.2] = p) →
      (init.lookup u = some p ∨ ∃ x ∈ xs, uidOfBasePath x.2 = some u) →
      (xs.foldl recordPod init).lookup u = some p
  | [], _, _, h => h.resolve_right (by simp)
  | x :: xs, init, hall, h => by
    refine lookup_foldl_recordPod_of_unique xs _ (fun y hy => hall y (.tail _ hy)) ?_
    rw [lookup_recordPod]
    by_cases hx : uidOfBasePath x.2 = some u
    · exact .inl (by rw [if_pos hx, hall x (.head _) hx])
    · rw [if_neg hx]
      rcases h with h | ⟨y, hy, hyu⟩
      · exact .inl h
      · rcases List.mem_cons.mp hy with rfl | hy
        · exact absurd hyu hx
        · exact .inr ⟨y, hy, hyu⟩

section

variable (host : Host)

/-- 内部の名前が `q ++ [d]` に戻るなら、ディレクトリの項目一つは `recordPod` である。 -/
theorem visitDirEntry_eq {q : List String} {e : DirEntry}
    (hname : e.isDir = true →
      m.cgroupManager.cgroupName (host.pathJoin (m.cgroupManager.name q) e.name) = q ++ [e.name])
    (f : List (String × List String)) :
    m.visitDirEntry host (m.cgroupManager.name q) f e =
      .ok (if e.isDir then recordPod f (q, e.name) else f) := by
  unfold visitDirEntry
  cases hd : e.isDir
  · rfl
  · simp only [Bool.not_true, Bool.false_eq_true, ↓reduceIte, hname hd, List.getLast?_append,
      List.getLast?_singleton, Option.or_some]
    rcases hu : uidOfBasePath e.name with _ | uid <;> simp [recordPod, hu]

theorem scanDir_eq (q : List String) : ∀ (dirInfo : List DirEntry) f,
    (∀ e ∈ dirInfo, e.isDir = true →
      m.cgroupManager.cgroupName (host.pathJoin (m.cgroupManager.name q) e.name) = q ++ [e.name]) →
    m.scanDir host (m.cgroupManager.name q) f dirInfo =
      .ok (((dirInfo.filter (·.isDir)).map fun e => (q, e.name)).foldl recordPod f)
  | [], _, _ => rfl
  | e :: rest, f, h => by
    have ih := scanDir_eq q rest
    rw [scanDir, visitDirEntry_eq m host (h e (.head _)) f]
    cases hd : e.isDir <;>
      simp [hd, List.filter_cons, ih _ (fun e' he' => h e' (.tail _ he'))]

theorem scanQos_ok (val : String) : ∀ (qs : List (List String)) f f',
    (∀ x ∈ qs.flatMap (m.dirListing host val),
      m.cgroupManager.cgroupName (host.pathJoin (m.cgroupManager.name x.1) x.2) = x.1 ++ [x.2]) →
    m.scanQos host val f qs = .ok f' → f' = (qs.flatMap (m.dirListing host val)).foldl recordPod f
  | [], _, _, _, h => (Except.ok.inj h).symm
  | q :: rest, f, f', hname, h => by
    rw [List.flatMap_cons] at hname ⊢
    rw [List.foldl_append]
    have hrest := fun x hx => hname x (List.mem_append_right _ hx)
    rw [scanQos] at h
    split at h
    · next err hread =>
      split at h
      · rw [dirListing, hread]
        exact scanQos_ok val rest f f' hrest h
      · cases h
    · next dirInfo hread =>
      have hq : ∀ e ∈ dirInfo, e.isDir = true → m.cgroupManager.cgroupName
          (host.pathJoin (m.cgroupManager.name q) e.name) = q ++ [e.name] := fun e he hd =>
        hname (q, e.name) (List.mem_append_left _ (by
          simp only [dirListing, hread]
          exact List.mem_map_of_mem _ (List.mem_filter.mpr ⟨he, hd⟩)))
      rw [scanDir_eq m host q dirInfo f hq] at h
      rw [dirListing, hread]
      exact scanQos_ok val rest _ f' hrest h

theorem scanMounts_ok : ∀ (vals : List String) f f',
    (∀ x ∈ vals.flatMap (fun val => m.qosContainersList.flatMap (m.dirListing host val)),
      m.cgroupManager.cgroupName (host.pathJoin (m.cgroupManager.name x.1) x.2) = x.1 ++ [x.2]) →
    m.scanMounts host f vals = .ok f' →
      f' = (vals.flatMap fun val => m.qosContainersList.flatMap (m.dirListing host val)).foldl
        recordPod f
  | [], _, _, _, h => (Except.ok.inj h).symm
  | val :: rest, f, f', hname, h => by
    rw [List.flatMap_cons] at hname ⊢
    rw [List.foldl_append]
    rw [scanMounts] at h
    split at h
    · cases h
    · next f₁ hq =>
      rw [← scanQos_ok m host val _ f f₁ (fun x hx => hname x (List.mem_append_left _ hx)) hq]
      exact scanMounts_ok rest f₁ f' (fun x hx => hname x (List.mem_append_right _ hx)) h

/-- 内部の名前が `q ++ [d]` に戻るなら、`GetAllPodsFromCgroups` が返す map は、載っている `(q, d)`
を訪れる順に `recordPod` で書いたものである。 -/
theorem getAllPodsFromCgroups_eq_foldl
    (hname : ∀ x ∈ m.listing host,
      m.cgroupManager.cgroupName (host.pathJoin (m.cgroupManager.name x.1) x.2) = x.1 ++ [x.2])
    {foundPods : List (String × List String)} (h : m.getAllPodsFromCgroups host = .ok foundPods) :
    foundPods = (m.listing host).foldl recordPod [] :=
  scanMounts_ok m host m.mountPoints [] foundPods hname h

theorem qos_mem_of_mem_listing {x : List String × String} (hx : x ∈ m.listing host) :
    x.1 ∈ m.qosContainersList := by
  obtain ⟨val, -, q, hq, hx⟩ := by simpa only [listing, List.mem_flatMap] using hx
  unfold dirListing at hx
  split at hx
  · obtain ⟨e, -, rfl⟩ := List.mem_map.mp hx
    exact hq
  · cases hx

end

/-- 走査が返した map と `IsPodCgroup` の合い方。 -/
structure PodsAgree (m : PodContainerManagerImpl) (host : Host)
    (foundPods : List (String × List String)) : Prop where
  /-- 書かれた名前は載っている `(q, d)` の `q ++ [d]` で、`d` から UID が読め、`d` が `pod` で
  始まれば `IsPodCgroup` も同じ UID を答える。 -/
  sound : ∀ u p, foundPods.lookup u = some p → ∃ q d, (q, d) ∈ m.listing host ∧ p = q ++ [d] ∧
    uidOfBasePath d = some u ∧ (hasPrefix d podCgroupNamePrefix = true →
      m.isPodCgroup (host.pathJoin (m.cgroupManager.name q) d) = (true, u))
  /-- `IsPodCgroup` が `(true, u)` と答える載っている `(q, d)` は、UID `u` が読める載っている名前が
  どれも `q ++ [d]` なら、`u` に `q ++ [d]` として書かれている。 -/
  complete : ∀ q d u, (q, d) ∈ m.listing host →
    m.isPodCgroup (host.pathJoin (m.cgroupManager.name q) d) = (true, u) →
    (∀ q' d', (q', d') ∈ m.listing host → uidOfBasePath d' = some u → q' ++ [d'] = q ++ [d]) →
    foundPods.lookup u = some (q ++ [d])

/-- 載っている `(q, d)` の内部の名前が `q ++ [d]` に戻るなら、`GetAllPodsFromCgroups` の map は
`IsPodCgroup` と合う：書かれた名前は載っている pod の名前で、`pod` で始まる名前なら
`IsPodCgroup` も同じ UID を答え、`IsPodCgroup` が pod とする名前は、その UID を持つ名前がほかに
無ければ書かれている。 -/
theorem getAllPodsFromCgroups_agrees (host : Host)
    (hname : ∀ x ∈ m.listing host,
      m.cgroupManager.cgroupName (host.pathJoin (m.cgroupManager.name x.1) x.2) = x.1 ++ [x.2])
    {foundPods : List (String × List String)} (hres : m.getAllPodsFromCgroups host = .ok foundPods) :
    PodsAgree m host foundPods := by
  obtain rfl := m.getAllPodsFromCgroups_eq_foldl host hname hres
  constructor
  · intro u p h
    obtain h | ⟨⟨q, d⟩, hx, hu, rfl⟩ := lookup_foldl_recordPod_sound u _ [] p h
    · cases h
    refine ⟨q, d, hx, rfl, hu, fun hp => ?_⟩
    obtain ⟨w, rfl⟩ := (hasPrefix_iff _ _).mp hp
    obtain ⟨rfl, hc⟩ := (uidOfBasePath_pod_append _ _).mp hu
    have hcn := hname _ hx
    refine (m.isPodCgroup_eq_true_iff _ _).mpr ⟨⟨q, m.qos_mem_of_mem_listing host hx, ?_⟩, ?_, hc⟩ <;>
      simp [hcn]
  · intro q d u hx hpod huniq
    obtain ⟨-, hlast, hc⟩ := (m.isPodCgroup_eq_true_iff _ _).mp hpod
    simp only [hname _ hx, List.getLast?_append, List.getLast?_singleton, Option.or_some,
      Option.some.injEq] at hlast
    subst hlast
    exact lookup_foldl_recordPod_of_unique _ [] (fun y hy hyu => huniq y.1 y.2 hy hyu)
      (.inr ⟨(q, _), hx, (uidOfBasePath_pod_append _ _).mpr ⟨rfl, hc⟩⟩)

theorem getAllPodsFromCgroups_agrees_sample :
    (∀ x ∈ samplePodManager.listing sampleHost,
      samplePodManager.cgroupManager.cgroupName
        (sampleHost.pathJoin (samplePodManager.cgroupManager.name x.1) x.2) = x.1 ++ [x.2]) ∧
      ∃ foundPods, samplePodManager.getAllPodsFromCgroups sampleHost = .ok foundPods ∧
        PodsAgree samplePodManager sampleHost foundPods :=
  have hname : ∀ x ∈ samplePodManager.listing sampleHost,
      samplePodManager.cgroupManager.cgroupName
        (sampleHost.pathJoin (samplePodManager.cgroupManager.name x.1) x.2) = x.1 ++ [x.2] := by
    decide
  ⟨hname, _, rfl, getAllPodsFromCgroups_agrees samplePodManager sampleHost hname rfl⟩

/-- 例の host では `pod123` が BestEffort と Burstable の両方の下にあり、map は UID `123` に後から
訪れた Burstable の名前だけを持つ。`IsPodCgroup` が `(true, 123)` と答える BestEffort の `pod123`
は map に無い。また Burstable の下の `xpod9` は `pod` で始まらないので `IsPodCgroup` は pod と
しないが、走査は `pod` を含むかだけを見て UID `9` に書く。 -/
theorem getAllPodsFromCgroups_disagrees :
    ∃ foundPods, samplePodManager.getAllPodsFromCgroups sampleHost = .ok foundPods ∧
      (∀ x ∈ samplePodManager.listing sampleHost,
        cgroupfsDriver.cgroupName (sampleHost.pathJoin (cgroupfsDriver.name x.1) x.2) =
          x.1 ++ [x.2]) ∧
      (["kubepods", "besteffort"], "pod123") ∈ samplePodManager.listing sampleHost ∧
      samplePodManager.isPodCgroup
          (sampleHost.pathJoin (cgroupfsDriver.name ["kubepods", "besteffort"]) "pod123") =
        (true, "123") ∧
      foundPods.lookup "123" ≠ some (["kubepods", "besteffort"] ++ ["pod123"]) ∧
      (["kubepods", "burstable"], "xpod9") ∈ samplePodManager.listing sampleHost ∧
      foundPods.lookup "9" = some (["kubepods", "burstable"] ++ ["xpod9"]) ∧
      samplePodManager.isPodCgroup
          (sampleHost.pathJoin (cgroupfsDriver.name ["kubepods", "burstable"]) "xpod9") =
        (false, "") :=
  ⟨_, rfl, by decide⟩

end PodContainerManagerImpl

end Cm

end FornaxStore
