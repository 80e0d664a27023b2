import FornaxStore.Basic

/-!
# pod の cgroup（`PodContainerManagerImpl`）

`IsPodCgroup` は cgroupfs の名前を内部の名前（成分の列）に直し、三つの QoS の cgroup の
どれかより一つ深ければ、最後の成分が `pod` で始まり `pod` で二つに切れるかを見る。
`GetAllPodsFromCgroups` は各 mount の各 QoS の cgroup のディレクトリを読み、下のディレクトリの
名前が `pod` を含み `pod` で二つに切れれば、後ろを UID として内部の名前を map に書く。
`Destroy` は cgroup の process を五回まで繰り返して kill し、全部 kill できたときだけ cgroup を消す。

`CgroupManager` は interface で実装は src/ にないので、`Name` と `CgroupName` を引数に取る。
`ioutil.ReadDir` と `path.Join` も `Host` として引数に取る。`Destroy` が使う `CgroupManager.Pids`・
`CgroupManager.Destroy` と `Kill` の答えは `ProcHost` として引数に取る。`Subsystems.MountPoints` は Go の
map なので、その値を巡回の順に並べた列として持つ。
-/

namespace FornaxStore

namespace Cm

/-! ## Go の `strings` -/

/-- `strings.Split(s, sep)` の `sep` が空でないときのループ：左から重ならずに `sep` を探し、
見つけるごとに切る。`skip` は読み飛ばしている `sep` の残りの長さ。 -/
def splitAux (sep : List Char) : List Char → Nat → List (List Char)
  | [], _ => [[]]
  | _ :: rest, skip + 1 => splitAux sep rest skip
  | c :: rest, 0 =>
    if sep.isPrefixOf (c :: rest) then [] :: splitAux sep rest (sep.length - 1)
    else
      match splitAux sep rest 0 with
      | p :: ps => (c :: p) :: ps
      | [] => [[c]]

/-- `strings.Split(s, sep)`。`sep` が空なら一文字ずつに切る。 -/
def stringsSplit (s sep : String) : List String :=
  if sep = "" then s.data.map fun c => String.mk [c]
  else (splitAux sep.data s.data 0).map String.mk

/-- `strings.Contains(s, substr)` のループ。 -/
def containsAux (sub : List Char) : List Char → Bool
  | [] => sub.isEmpty
  | c :: rest => sub.isPrefixOf (c :: rest) || containsAux sub rest

/-- `strings.Contains(s, substr)`。 -/
def stringsContains (s substr : String) : Bool := containsAux substr.data s.data

/-! ## cgroup の名前と pod -/

/-- `podCgroupNamePrefix` -/
def podCgroupNamePrefix : String := "pod"

/-- `CgroupManager` のうち使う二つ。`name` は内部の名前（`CgroupName`、成分の列）を cgroupfs の
文字列に、`cgroupName` は cgroupfs の文字列を内部の名前に直す。 -/
structure CgroupManager where
  name : List String → String
  cgroupName : String → List String

/-- `QOSContainersInfo`：三つの QoS の cgroup の内部の名前。 -/
structure QOSContainersInfo where
  guaranteed : List String
  burstable : List String
  bestEffort : List String

/-- ディレクトリの項目のうち読むもの（`Name()` と `IsDir()`）。 -/
structure DirEntry where
  name : String
  isDir : Bool
  deriving DecidableEq, Repr

/-- `ioutil.ReadDir` の誤りのうち読むもの：`os.IsNotExist(err)` と、`%v` で書かれる文。 -/
structure ReadDirError where
  isNotExist : Bool
  msg : String
  deriving DecidableEq, Repr

/-- `ioutil.ReadDir` と `path.Join`。 -/
structure Host where
  readDir : String → Except ReadDirError (List DirEntry)
  pathJoin : String → String → String

/-- `PodContainerManagerImpl` のうち、`IsPodCgroup`・`GetPodContainerName`・`GetAllPodsFromCgroups`
が読むもの。`mountPoints` は `Subsystems.MountPoints` の値を map の巡回の順に並べたもの。 -/
structure PodContainerManagerImpl where
  qosContainersInfo : QOSContainersInfo
  mountPoints : List String
  cgroupManager : CgroupManager

/-- pod の QoS class（`v1qos.GetPodQOS(pod)` の値）。 -/
inductive PodQOS where
  | guaranteed
  | burstable
  | bestEffort
  deriving DecidableEq, Repr

/-- `v1.Pod` のうち読むもの：UID と、`GetPodQOS` が返す QoS class。 -/
structure Pod where
  uid : String
  qos : PodQOS

/-- `NewCgroupName(base, components...)`：`base` の後に成分を足す。 -/
def newCgroupName (base components : List String) : List String := base ++ components

/-- `GetAllPodsFromCgroups` が最後の成分 `basePath` から読む UID：`pod` を含み、`pod` で二つに
切れれば後ろ。`IsPodCgroup` と違い、`pod` で始まることは見ない。 -/
def uidOfBasePath (basePath : String) : Option String :=
  if !stringsContains basePath podCgroupNamePrefix then none
  else
    match stringsSplit basePath podCgroupNamePrefix with
    | [_, podUID] => some podUID
    | _ => none

namespace PodContainerManagerImpl

variable (m : PodContainerManagerImpl)

/-- `qosContainersList`：BestEffort、Burstable、Guaranteed の順。 -/
def qosContainersList : List (List String) :=
  [m.qosContainersInfo.bestEffort, m.qosContainersInfo.burstable, m.qosContainersInfo.guaranteed]

/-- `GetPodContainerName`：QoS class の cgroup の下に `GetPodCgroupNameSuffix(pod.UID)` を足した
内部の名前と、その cgroupfs の名前。`GetPodCgroupNameSuffix` は src/ にないので引数に取る。 -/
def getPodContainerName (getPodCgroupNameSuffix : String → String) (pod : Pod) :
    List String × String :=
  let parentContainer := match pod.qos with
    | .guaranteed => m.qosContainersInfo.guaranteed
    | .burstable => m.qosContainersInfo.burstable
    | .bestEffort => m.qosContainersInfo.bestEffort
  let podContainer := getPodCgroupNameSuffix pod.uid
  let cgroupName := newCgroupName parentContainer [podContainer]
  (cgroupName, m.cgroupManager.name cgroupName)

/-- `IsPodCgroup` の `basePath` のループ：内部の名前が QoS の cgroup より一つ深ければ、その深さの
成分を取る。QoS の cgroup の中身は比べない。 -/
def basePathOf (cgroupName : List String) : String :=
  m.qosContainersList.foldl (fun basePath qosContainerName =>
    if cgroupName.length = qosContainerName.length + 1 then cgroupName.getD qosContainerName.length ""
    else basePath) ""

/-- `IsPodCgroup(cgroupfs)`。 -/
def isPodCgroup (cgroupfs : String) : Bool × String :=
  let cgroupName := m.cgroupManager.cgroupName cgroupfs
  let basePath := m.basePathOf cgroupName
  if basePath = "" then (false, "")
  else if !hasPrefix basePath podCgroupNamePrefix then (false, "")
  else
    match stringsSplit basePath podCgroupNamePrefix with
    | [_, uid] => (true, uid)
    | _ => (false, "")

/-! ## GetAllPodsFromCgroups -/

/-- Go の `map[types.UID]CgroupName` に書く：同じ UID の古い値は消える。 -/
def insertPod (foundPods : List (String × List String)) (uid : String) (path : List String) :
    List (String × List String) :=
  (uid, path) :: foundPods.filter (·.1 ≠ uid)

/-- `GetAllPodsFromCgroups` が途中で終わる形：誤りを返すか、`internalPath` が空で
`internalPath[len(internalPath)-1]` が panic する。 -/
inductive ScanFailure where
  | error (msg : String)
  | indexOutOfRange
  deriving DecidableEq, Repr

/-- ディレクトリの一つの項目：ディレクトリなら内部の名前に直し、最後の成分から UID が読めれば
（`uidOfBasePath`）、それに内部の名前を書く。 -/
def visitDirEntry (host : Host) (qcConversion : String) (foundPods : List (String × List String))
    (e : DirEntry) : Except ScanFailure (List (String × List String)) :=
  if !e.isDir then .ok foundPods
  else
    let cgroupfsPath := host.pathJoin qcConversion e.name
    let internalPath := m.cgroupManager.cgroupName cgroupfsPath
    match internalPath.getLast? with
    | none => .error .indexOutOfRange
    | some basePath =>
      match uidOfBasePath basePath with
      | some podUID => .ok (insertPod foundPods podUID internalPath)
      | none => .ok foundPods

/-- `for i := range dirInfo` のループ。 -/
def scanDir (host : Host) (qcConversion : String) :
    List (String × List String) → List DirEntry → Except ScanFailure (List (String × List String))
  | foundPods, [] => .ok foundPods
  | foundPods, e :: rest =>
    match m.visitDirEntry host qcConversion foundPods e with
    | .error err => .error err
    | .ok foundPods => scanDir host qcConversion foundPods rest

/-- `for _, qosContainerName := range qosContainersList` のループ：QoS の cgroup のディレクトリを
読み、無ければ飛ばし、ほかの誤りなら返す。 -/
def scanQos (host : Host) (val : String) :
    List (String × List String) → List (List String) →
      Except ScanFailure (List (String × List String))
  | foundPods, [] => .ok foundPods
  | foundPods, qosContainerName :: rest =>
    let qcConversion := m.cgroupManager.name qosContainerName
    let qc := host.pathJoin val qcConversion
    match host.readDir qc with
    | .error err =>
      if err.isNotExist then scanQos host val foundPods rest
      else .error (.error ("failed to read the cgroup directory " ++ qc ++ " : " ++ err.msg))
    | .ok dirInfo =>
      match m.scanDir host qcConversion foundPods dirInfo with
      | .error err => .error err
      | .ok foundPods => scanQos host val foundPods rest

/-- `for _, val := range m.Subsystems.MountPoints` のループ。 -/
def scanMounts (host : Host) :
    List (String × List String) → List String → Except ScanFailure (List (String × List String))
  | foundPods, [] => .ok foundPods
  | foundPods, val :: rest =>
    match m.scanQos host val foundPods m.qosContainersList with
    | .error err => .error err
    | .ok foundPods => scanMounts host foundPods rest

/-- `GetAllPodsFromCgroups`。 -/
def getAllPodsFromCgroups (host : Host) : Except ScanFailure (List (String × List String)) :=
  m.scanMounts host [] m.mountPoints

end PodContainerManagerImpl

/-! ## Destroy -/

/-- `p.Kill()` の誤りのうち読むもの：`errors.Is(err, os.ErrProcessDone)` と、`%v` で書かれる文。 -/
structure KillError where
  isProcessDone : Bool
  msg : String
  deriving DecidableEq, Repr

/-- `Destroy` が使う、src/ にないもの：`CgroupManager.Pids`、`CgroupManager.Destroy`（`CgroupConfig` の
`Name` だけを渡す）と、`n` 回目の `os.FindProcess(pid).Kill()` の答え。kill の答えを呼び出しの回数で
決めることで、process の状態の変化（途中で終わる、一度目は失敗する）を表す。 -/
structure ProcHost where
  pids : List String → List Int
  destroy : List String → Except String Unit
  kill : Nat → Int → Except KillError Unit

/-- `killOnePid`：`n` 回目の kill。すでに終わっていた process は誤りにしない。 -/
def killOnePid (host : ProcHost) (n : Nat) (pid : Int) : Except String Unit :=
  match host.kill n pid with
  | .ok () => .ok ()
  | .error err => if err.isProcessDone then .ok () else .error err.msg

/-- kill の記録（ghost）：`killOnePid` に渡した pid とその答えを、呼んだ順に。 -/
abbrev KillLog := List (Int × Except String Unit)

/-- 一回の試みの `for _, pid := range pidsToKill` のループ：`removed` にない pid を kill し、通れば
`removed` に足し、通らなければ誤りを `errlist` に足す。 -/
def killPass (host : ProcHost) :
    List Int → List Int → List String → KillLog → List Int × List String × KillLog
  | [], removed, errlist, log => (removed, errlist, log)
  | pid :: rest, removed, errlist, log =>
    if pid ∈ removed then killPass host rest removed errlist log
    else
      match killOnePid host log.length pid with
      | .error err => killPass host rest removed (errlist ++ [err]) (log ++ [(pid, .error err)])
      | .ok () => killPass host rest (removed ++ [pid]) errlist (log ++ [(pid, .ok ())])

/-- `for i := 0; i < 5; i++` のループ。`attempts` は残りの回数。試みごとに `errlist` を空にし、誤りが
無ければ終わる。回数を使い切れば最後の試みの `errlist` を返す。 -/
def killAttempts (host : ProcHost) (pidsToKill : List Int) :
    Nat → List Int → List String → KillLog → Except (List String) Unit × KillLog
  | 0, _, errlist, log => (.error errlist, log)
  | attempts + 1, removed, _, log =>
    match killPass host pidsToKill removed [] log with
    | (removed, errlist, log) =>
      if errlist = [] then (.ok (), log) else killAttempts host pidsToKill attempts removed errlist log

/-- `tryKillingCgroupProcesses`：cgroup に pid が無ければ何もしない。誤りは
`utilerrors.NewAggregate(errlist)` の中身。 -/
def tryKillingCgroupProcesses (host : ProcHost) (podCgroup : List String) (log : KillLog) :
    Except (List String) Unit × KillLog :=
  let pidsToKill := host.pids podCgroup
  if pidsToKill = [] then (.ok (), log) else killAttempts host pidsToKill 5 [] [] log

/-- `CgroupName`（`[]string`）の `%v`。 -/
def fmtCgroupName (name : List String) : String := "[" ++ " ".intercalate name ++ "]"

/-- Modelled from the library: `utilerrors.NewAggregate(errlist)` の `Error()`。同じ文は最初の一度だけ
残し、一つなら文そのもの、二つ以上なら `, ` で繋いで `[`・`]` で囲む。 -/
def aggregateError (errlist : List String) : String :=
  match errlist.eraseDups with
  | [] => ""
  | [msg] => msg
  | msgs => "[" ++ ", ".intercalate msgs ++ "]"

/-- `Destroy`：cgroup の process を全部 kill できたときだけ、cgroup を消す。 -/
def destroy (host : ProcHost) (podCgroup : List String) : Except String Unit × KillLog :=
  match tryKillingCgroupProcesses host podCgroup [] with
  | (.error errlist, log) =>
    (.error ("failed to kill all the processes attached to the " ++ fmtCgroupName podCgroup ++
      " cgroups : " ++ aggregateError errlist), log)
  | (.ok (), log) =>
    match host.destroy podCgroup with
    | .error err =>
      (.error ("failed to delete cgroup paths for " ++ fmtCgroupName podCgroup ++ " : " ++ err), log)
    | .ok () => (.ok (), log)

end Cm

end FornaxStore
