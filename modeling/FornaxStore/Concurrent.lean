import FornaxStore.Store

/-!
# goroutine の交互実行

書き込み系の呼び出しは `freezeWorld` の読み側の lock しか取らないので、互いを締め出さない。
締め出すのは `revmu`（`reserveRevAndSlot` と、`Delete` の revision 取り）と、`kvs` の中の
lock（`get`・`put`・`del` の一つずつ）だけである。`kvList[i] = v` と `ms.watchers` の読み書きは
lock の外にある。

そこで各呼び出しを、共有状態に触れる原子的な一歩の列として書き直す（`Prog`、継続渡し）。
一歩と一歩の間には、別の goroutine の一歩が入りうる。局所的な計算（precondition、`tryUpdate`、
`mergeFunc`、object の複製）は一歩の中で済ませる。

* `kvList[i] = v` は、slice の header（backing array）を読む一歩と、その array の要素に書く一歩に
  分かれる。その間に `reserveRevAndSlot` の `append` が array を取り直すと、書き込みは古い array に
  落ちて失われる。
* `sendEvent` は `ms.watchers` を読む一歩、watcher ごとに `stopped` を読む一歩と channel に送る
  一歩、`ms.watchers` に書き戻す一歩に分かれる。channel は容量が有限で、満ちていれば送る一歩は
  進めない。channel から取り出すのは、`watch` が返った後の配送 loop（`go watcher.run`）だけである。
* `watch` の `ms.watchers = append(ms.watchers, watcher)` も、読む一歩と書き戻す一歩に分かれる。

`Sys` は共有状態と goroutine の列で、`runSchedule` は goroutine の番号の列（schedule）どおりに
一歩ずつ進める。
-/

namespace FornaxStore

namespace Interleaved

/-- 実行時の環境のうち、src/ に無い二つ。`reallocAt n`：長さ `n` の `kvList` に `append` すると
backing array が取り直されるか（Go の `growslice`）。`chanCap`：watcher の `incomingChan` の容量
（`NewMemoryStoreWatcher` が決める）。 -/
structure Runtime where
  reallocAt : Nat → Bool
  chanCap : Nat

/-- 容量を倍にしていく `append`（小さい slice での `growslice`）：長さ 0 と 2 の冪で取り直す。
channel の容量は `chanCap`。 -/
def Runtime.doubling (chanCap : Nat) : Runtime :=
  ⟨fun n => n &&& (n - 1) == 0, chanCap⟩

/-- goroutine が共有する状態。watcher は pointer の代わりに番号で指す。`kvArray` は `kvList` の
今の backing array の世代で、`append` が取り直すたびに一つ進む。`stopped`・`incomingChan`・
`queued` は watcher 自身のものなので、`ms.watchers` から外れても番号から引ける。`incomingChan j` は
watcher `j` の channel に入った event の列（入った順）、`queued j` はそのうち配送 loop がまだ
取り出していない数である。`sent` は `sendEvent` に渡された event の列、`replaced` は通った更新の
`kvs.put` が置き換えた object の revision の列、`watcherCount` は次の watcher の番号（どれも
ghost）。 -/
structure Shared where
  rt : Runtime
  kvs : MemoryStoreMap
  kvList : List (Option ObjWithIndex)
  kvArray : Nat
  memoryRev : Nat
  watchers : List Nat
  stopped : Nat → Bool
  incomingChan : Nat → List ObjEvent
  queued : Nat → Nat
  sent : List ObjEvent
  replaced : List Nat
  watcherCount : Nat

namespace Shared

/-- `NewMemoryStore` 直後の共有状態。`rev` はその時点の `_MemoryRev`。 -/
def init (rt : Runtime) (rev : Nat) : Shared :=
  ⟨rt, MemoryStoreMap.empty, [], 0, rev, [], fun _ => false, fun _ => [], fun _ => 0, [], [], 0⟩

/-- `reserveRevAndSlot`：revision を一つ進め、`kvList` に空の slot を `append` する。 -/
def reserve (sh : Shared) : Shared :=
  { sh with
    memoryRev := sh.memoryRev + 1
    kvList := sh.kvList ++ [none]
    kvArray := if sh.rt.reallocAt sh.kvList.length then sh.kvArray + 1 else sh.kvArray }

/-- backing array `array` の要素 `index` に `v` を書く。今の array でなければ、どこにも届かない。 -/
def storeSlot (sh : Shared) (array index : Nat) (v : Option ObjWithIndex) : Shared :=
  if array = sh.kvArray then { sh with kvList := sh.kvList.set index v } else sh

/-- `v.incomingChan <- event`：channel に event を入れる。 -/
def chanSend (sh : Shared) (id : Nat) (event : ObjEvent) : Shared :=
  { sh with
    incomingChan := fun j => if j = id then sh.incomingChan j ++ [event] else sh.incomingChan j
    queued := fun j => if j = id then sh.queued j + 1 else sh.queued j }

/-- 配送 loop が watcher `id` の channel から event を一つ取り出す。 -/
def drain (sh : Shared) (id : Nat) : Shared :=
  { sh with queued := fun j => if j = id then sh.queued j - 1 else sh.queued j }

/-- 更新の `kvs.put`（`expectedRV ≠ 0`）が通ったら、置き換えた revision を記す。 -/
def recordPut (sh : Shared) (kvs : MemoryStoreMap) (expectedRV : Nat) : Shared :=
  { sh with kvs, replaced := if expectedRV = 0 then sh.replaced else sh.replaced ++ [expectedRV] }

@[simp] theorem reserve_kvs (sh : Shared) : sh.reserve.kvs = sh.kvs := rfl
@[simp] theorem reserve_kvList (sh : Shared) : sh.reserve.kvList = sh.kvList ++ [none] := rfl
@[simp] theorem reserve_memoryRev (sh : Shared) : sh.reserve.memoryRev = sh.memoryRev + 1 := rfl
@[simp] theorem reserve_watchers (sh : Shared) : sh.reserve.watchers = sh.watchers := rfl
@[simp] theorem reserve_stopped (sh : Shared) : sh.reserve.stopped = sh.stopped := rfl
@[simp] theorem reserve_incomingChan (sh : Shared) :
    sh.reserve.incomingChan = sh.incomingChan := rfl
@[simp] theorem reserve_sent (sh : Shared) : sh.reserve.sent = sh.sent := rfl
@[simp] theorem reserve_replaced (sh : Shared) : sh.reserve.replaced = sh.replaced := rfl

@[simp] theorem storeSlot_kvs (sh : Shared) (a i : Nat) (v : Option ObjWithIndex) :
    (sh.storeSlot a i v).kvs = sh.kvs := by unfold storeSlot; split <;> rfl
@[simp] theorem storeSlot_memoryRev (sh : Shared) (a i : Nat) (v : Option ObjWithIndex) :
    (sh.storeSlot a i v).memoryRev = sh.memoryRev := by unfold storeSlot; split <;> rfl
@[simp] theorem storeSlot_watchers (sh : Shared) (a i : Nat) (v : Option ObjWithIndex) :
    (sh.storeSlot a i v).watchers = sh.watchers := by unfold storeSlot; split <;> rfl
@[simp] theorem storeSlot_stopped (sh : Shared) (a i : Nat) (v : Option ObjWithIndex) :
    (sh.storeSlot a i v).stopped = sh.stopped := by unfold storeSlot; split <;> rfl
@[simp] theorem storeSlot_incomingChan (sh : Shared) (a i : Nat) (v : Option ObjWithIndex) :
    (sh.storeSlot a i v).incomingChan = sh.incomingChan := by unfold storeSlot; split <;> rfl
@[simp] theorem storeSlot_sent (sh : Shared) (a i : Nat) (v : Option ObjWithIndex) :
    (sh.storeSlot a i v).sent = sh.sent := by unfold storeSlot; split <;> rfl
@[simp] theorem storeSlot_replaced (sh : Shared) (a i : Nat) (v : Option ObjWithIndex) :
    (sh.storeSlot a i v).replaced = sh.replaced := by unfold storeSlot; split <;> rfl

/-- 今の array への書き込みは届き、古い array への書き込みは何も変えない。 -/
theorem storeSlot_eq (sh : Shared) (a i : Nat) (v : Option ObjWithIndex) :
    sh.storeSlot a i v = sh ∨ sh.storeSlot a i v = { sh with kvList := sh.kvList.set i v } := by
  unfold storeSlot; split
  · exact .inr rfl
  · exact .inl rfl

@[simp] theorem chanSend_kvs (sh : Shared) (id : Nat) (e : ObjEvent) :
    (sh.chanSend id e).kvs = sh.kvs := rfl
@[simp] theorem chanSend_kvList (sh : Shared) (id : Nat) (e : ObjEvent) :
    (sh.chanSend id e).kvList = sh.kvList := rfl
@[simp] theorem chanSend_memoryRev (sh : Shared) (id : Nat) (e : ObjEvent) :
    (sh.chanSend id e).memoryRev = sh.memoryRev := rfl
@[simp] theorem chanSend_watchers (sh : Shared) (id : Nat) (e : ObjEvent) :
    (sh.chanSend id e).watchers = sh.watchers := rfl
@[simp] theorem chanSend_stopped (sh : Shared) (id : Nat) (e : ObjEvent) :
    (sh.chanSend id e).stopped = sh.stopped := rfl
@[simp] theorem chanSend_sent (sh : Shared) (id : Nat) (e : ObjEvent) :
    (sh.chanSend id e).sent = sh.sent := rfl
@[simp] theorem chanSend_replaced (sh : Shared) (id : Nat) (e : ObjEvent) :
    (sh.chanSend id e).replaced = sh.replaced := rfl
theorem chanSend_incomingChan (sh : Shared) (id : Nat) (e : ObjEvent) (j : Nat) :
    (sh.chanSend id e).incomingChan j =
      if j = id then sh.incomingChan j ++ [e] else sh.incomingChan j := rfl

@[simp] theorem drain_kvs (sh : Shared) (id : Nat) : (sh.drain id).kvs = sh.kvs := rfl
@[simp] theorem drain_kvList (sh : Shared) (id : Nat) : (sh.drain id).kvList = sh.kvList := rfl
@[simp] theorem drain_memoryRev (sh : Shared) (id : Nat) :
    (sh.drain id).memoryRev = sh.memoryRev := rfl
@[simp] theorem drain_watchers (sh : Shared) (id : Nat) : (sh.drain id).watchers = sh.watchers :=
  rfl
@[simp] theorem drain_stopped (sh : Shared) (id : Nat) : (sh.drain id).stopped = sh.stopped := rfl
@[simp] theorem drain_incomingChan (sh : Shared) (id : Nat) :
    (sh.drain id).incomingChan = sh.incomingChan := rfl
@[simp] theorem drain_sent (sh : Shared) (id : Nat) : (sh.drain id).sent = sh.sent := rfl
@[simp] theorem drain_replaced (sh : Shared) (id : Nat) : (sh.drain id).replaced = sh.replaced :=
  rfl

@[simp] theorem recordPut_kvs (sh : Shared) (kvs : MemoryStoreMap) (e : Nat) :
    (sh.recordPut kvs e).kvs = kvs := rfl
@[simp] theorem recordPut_kvList (sh : Shared) (kvs : MemoryStoreMap) (e : Nat) :
    (sh.recordPut kvs e).kvList = sh.kvList := rfl
@[simp] theorem recordPut_memoryRev (sh : Shared) (kvs : MemoryStoreMap) (e : Nat) :
    (sh.recordPut kvs e).memoryRev = sh.memoryRev := rfl
@[simp] theorem recordPut_watchers (sh : Shared) (kvs : MemoryStoreMap) (e : Nat) :
    (sh.recordPut kvs e).watchers = sh.watchers := rfl
@[simp] theorem recordPut_stopped (sh : Shared) (kvs : MemoryStoreMap) (e : Nat) :
    (sh.recordPut kvs e).stopped = sh.stopped := rfl
@[simp] theorem recordPut_incomingChan (sh : Shared) (kvs : MemoryStoreMap) (e : Nat) :
    (sh.recordPut kvs e).incomingChan = sh.incomingChan := rfl
@[simp] theorem recordPut_sent (sh : Shared) (kvs : MemoryStoreMap) (e : Nat) :
    (sh.recordPut kvs e).sent = sh.sent := rfl

end Shared

/-- 一つの goroutine の残りの仕事。`done` と `serve` 以外の構成子は、共有状態への原子的な操作一つと、
その結果を受け取る継続である。 -/
inductive Prog where
  /-- 呼び出しが返った。結果は `out` に書かれる object（`Delete` は書かない）。 -/
  | done (res : Except StoreError (Option Obj))
  /-- `ms.kvs.get(keys)`。 -/
  | get (keys : List String) (k : Option ObjWithIndex → Prog)
  /-- `reserveRevAndSlot`（`revmu` の中）。revision と index を返す。 -/
  | reserveRevAndSlot (k : Nat → Nat → Prog)
  /-- `Delete` が `revmu` の中で行う `atomic.AddUint64(&_MemoryRev, 1)`。 -/
  | addMemoryRev (k : Nat → Prog)
  /-- `ms.kvs.put(keys, objWi, expectedRV)`。 -/
  | put (keys : List String) (objWi : ObjWithIndex) (expectedRV : Nat)
      (k : Except StoreError Unit → Prog)
  /-- `ms.kvs.del(keys)`。 -/
  | del (keys : List String) (k : Except StoreError Unit → Prog)
  /-- `ms.kvList[index] = v` の前半：slice の header を読み、backing array の世代を返す。 -/
  | loadKvList (k : Nat → Prog)
  /-- `ms.kvList[index] = v` の後半：読んだ array の要素 `index` に書く。 -/
  | storeSlot (array index : Nat) (v : Option ObjWithIndex) (k : Prog)
  /-- `sendEvent` の `range ms.watchers`：その時の watcher の列を読む。 -/
  | loadWatchers (event : ObjEvent) (k : List Nat → Prog)
  /-- `!v.stopped` を読む。 -/
  | loadStopped (id : Nat) (k : Bool → Prog)
  /-- `v.incomingChan <- event`。channel が満ちていれば進めない。 -/
  | chanSend (id : Nat) (event : ObjEvent) (k : Prog)
  /-- `ms.watchers = watchers`。 -/
  | storeWatchers (watchers : List Nat) (k : Prog)
  /-- `watch` の `NewMemoryStoreWatcher` と、`append(ms.watchers, watcher)` のための
  `ms.watchers` の読み。新しい watcher の番号と、読んだ列を返す。 -/
  | newWatcher (k : Nat → List Nat → Prog)
  /-- Modelled from the spec: watcher が止まる（context の取り消し、呼び出し側の停止）。 -/
  | stopWatcher (id : Nat) (k : Prog)
  /-- `watch` は `res` を返し、この goroutine は `go watcher.run(...)` の配送 loop として、
  watcher `id` が止まるまで channel から event を一つずつ取り出す。 -/
  | serve (id : Nat) (res : Except StoreError (Option Obj))

namespace Prog

/-- 返った goroutine の結果。 -/
def result : Prog → Option (Except StoreError (Option Obj))
  | done res => some res
  | serve _ res => some res
  | _ => none

/-- `ms.watchers` を読んでから書き戻すまでの途中（`sendEvent` の range ループか、`watch` の
`append`）にいるか。 -/
def sending : Prog → Bool
  | loadStopped .. => true
  | chanSend .. => true
  | storeWatchers .. => true
  | _ => false

/-- 一歩：原子的な操作を一つ行い、新しい共有状態と残りの仕事を返す。返った goroutine、満ちた
channel に送る goroutine、取り出すものの無い配送 loop は進まない。 -/
def step (sh : Shared) : Prog → Option (Shared × Prog)
  | done _ => none
  | get keys k => some (sh, k (sh.kvs.get keys))
  | reserveRevAndSlot k => some (sh.reserve, k (sh.memoryRev + 1) sh.kvList.length)
  | addMemoryRev k => some ({ sh with memoryRev := sh.memoryRev + 1 }, k (sh.memoryRev + 1))
  | put keys objWi expectedRV k =>
    match sh.kvs.put keys objWi expectedRV with
    | .error err => some (sh, k (.error err))
    | .ok kvs => some (sh.recordPut kvs expectedRV, k (.ok ()))
  | del keys k =>
    match sh.kvs.del keys with
    | .error err => some (sh, k (.error err))
    | .ok kvs => some ({ sh with kvs }, k (.ok ()))
  | loadKvList k => some (sh, k sh.kvArray)
  | storeSlot array index v k => some (sh.storeSlot array index v, k)
  | loadWatchers event k => some ({ sh with sent := sh.sent ++ [event] }, k sh.watchers)
  | loadStopped id k => some (sh, k (sh.stopped id))
  | chanSend id event k =>
    if sh.queued id < sh.rt.chanCap then some (sh.chanSend id event, k) else none
  | storeWatchers watchers k => some ({ sh with watchers }, k)
  | newWatcher k =>
    some ({ sh with watcherCount := sh.watcherCount + 1 }, k sh.watcherCount sh.watchers)
  | stopWatcher id k => some ({ sh with stopped := fun j => j == id || sh.stopped j }, k)
  | serve id res =>
    if sh.stopped id = false ∧ 0 < sh.queued id then some (sh.drain id, serve id res) else none

section

variable {sh sh' : Shared} {p' : Prog}

/-- `put` の一歩：map の `put` が失敗すれば共有状態はそのまま、成功すれば新しい map を置く。 -/
theorem step_put_inv {keys : List String} {objWi : ObjWithIndex} {expectedRV : Nat}
    {k : Except StoreError Unit → Prog} (h : (put keys objWi expectedRV k).step sh = some (sh', p')) :
    (∃ err, sh.kvs.put keys objWi expectedRV = .error err ∧ sh' = sh ∧ p' = k (.error err)) ∨
      ∃ kvs, sh.kvs.put keys objWi expectedRV = .ok kvs ∧ sh' = sh.recordPut kvs expectedRV ∧
        p' = k (.ok ()) := by
  simp only [step] at h
  split at h <;> cases h
  · next err he => exact .inl ⟨err, he, rfl, rfl⟩
  · next kvs he => exact .inr ⟨kvs, he, rfl, rfl⟩

/-- `del` の一歩：map の `del` が失敗すれば共有状態はそのまま、成功すれば新しい map を置く。 -/
theorem step_del_inv {keys : List String} {k : Except StoreError Unit → Prog}
    (h : (del keys k).step sh = some (sh', p')) :
    (∃ err, sh.kvs.del keys = .error err ∧ sh' = sh ∧ p' = k (.error err)) ∨
      ∃ kvs, sh.kvs.del keys = .ok kvs ∧ sh' = { sh with kvs } ∧ p' = k (.ok ()) := by
  simp only [step] at h
  split at h <;> cases h
  · next err he => exact .inl ⟨err, he, rfl, rfl⟩
  · next kvs he => exact .inr ⟨kvs, he, rfl, rfl⟩

/-- channel への送りが進むのは、channel に空きがあるときだけである。 -/
theorem step_chanSend_inv {id : Nat} {event : ObjEvent} {k : Prog}
    (h : (chanSend id event k).step sh = some (sh', p')) :
    sh.queued id < sh.rt.chanCap ∧ sh' = sh.chanSend id event ∧ p' = k := by
  simp only [step] at h
  split at h <;> cases h
  exact ⟨‹_›, rfl, rfl⟩

/-- 配送 loop が進むのは、watcher が止まっておらず channel に event があるときだけで、一つ取り出す。 -/
theorem step_serve_inv {id : Nat} {res : Except StoreError (Option Obj)}
    (h : (serve id res).step sh = some (sh', p')) :
    sh.stopped id = false ∧ 0 < sh.queued id ∧ sh' = sh.drain id ∧ p' = serve id res := by
  simp only [step] at h
  split at h <;> cases h
  next hc => exact ⟨hc.1, hc.2, rfl, rfl⟩

end

/-- `p` が返った後に、その結果で `f` を続ける。配送 loop は呼び出しの中には現れないので、
そのままにする。 -/
def andThen : Prog → (Except StoreError (Option Obj) → Prog) → Prog
  | done res, f => f res
  | get keys k, f => get keys fun v => andThen (k v) f
  | reserveRevAndSlot k, f => reserveRevAndSlot fun rev index => andThen (k rev index) f
  | addMemoryRev k, f => addMemoryRev fun rev => andThen (k rev) f
  | put keys objWi expectedRV k, f => put keys objWi expectedRV fun r => andThen (k r) f
  | del keys k, f => del keys fun r => andThen (k r) f
  | loadKvList k, f => loadKvList fun a => andThen (k a) f
  | storeSlot array index v k, f => storeSlot array index v (andThen k f)
  | loadWatchers event k, f => loadWatchers event fun ws => andThen (k ws) f
  | loadStopped id k, f => loadStopped id fun b => andThen (k b) f
  | chanSend id event k, f => chanSend id event (andThen k f)
  | storeWatchers watchers k, f => storeWatchers watchers (andThen k f)
  | newWatcher k, f => newWatcher fun id ws => andThen (k id ws) f
  | stopWatcher id k, f => stopWatcher id (andThen k f)
  | serve id res, _ => serve id res

end Prog

open Prog

/-! ## sendEvent と書き込みの手順 -/

/-- `ms.kvList[index] = v`：slice の header を読み、その backing array の要素に書く。 -/
def setSlot (index : Nat) (v : Option ObjWithIndex) (k : Prog) : Prog :=
  loadKvList fun array => storeSlot array index v k

/-- `sendEvent` の range ループ：snapshot の残りの各 watcher について `stopped` を読み、止まって
いなければ送って `watchers` に集め、最後に `ms.watchers` へ書き戻してから `k` へ進む。 -/
def fanout (event : ObjEvent) (k : Prog) (watchers : List Nat) : List Nat → Prog
  | [] => storeWatchers watchers k
  | v :: rest =>
    loadStopped v fun stopped =>
      if stopped then fanout event k watchers rest
      else chanSend v event (fanout event k (watchers ++ [v]) rest)

/-- `sendEvent`：`ms.watchers` を一度読み、その snapshot に送る。 -/
def sendEvent (event : ObjEvent) (k : Prog) : Prog :=
  loadWatchers event (fanout event k [])

/-- 作成の書き込み：空の key として `put` し、`kvList[index]` を埋め、`Created` を送る。 -/
def writeCreated (key : String) (keys : List String) (objWi : ObjWithIndex) (rev : Nat) : Prog :=
  put keys objWi 0 fun
    | .error err => done (.error err)
    | .ok () =>
      setSlot objWi.index (some objWi) <|
        sendEvent ⟨key, some objWi.obj, none, rev, false, true⟩ (done (.ok (some objWi.obj)))

/-- 更新の書き込み：今の revision を期待して `put` し、古い slot を空け、新しい slot を埋め、
`oldObj` を古い object とする `Updated` を送る。 -/
def writeUpdated (key : String) (keys : List String) (cur : ObjWithIndex) (oldObj : Obj)
    (objWi : ObjWithIndex) (rev : Nat) : Prog :=
  put keys objWi cur.obj.resourceVersion fun
    | .error err => done (.error err)
    | .ok () =>
      setSlot cur.index none <| setSlot objWi.index (some objWi) <|
        sendEvent ⟨key, some objWi.obj, some oldObj, rev, false, false⟩
          (done (.ok (some objWi.obj)))

/-- 作成の経路：revision と slot を取り、object に revision を書いてから `writeCreated`。 -/
def createObj (key : String) (keys : List String) (obj : Obj) : Prog :=
  reserveRevAndSlot fun rev index =>
    writeCreated key keys ⟨key, obj.setResourceVersion rev, index⟩ rev

/-- 更新の経路：callback の後で revision と slot を取り、返された object に revision を書いてから
`writeUpdated`。`oldObj` は callback の後の `currObj`。 -/
def updateObj (key : String) (keys : List String) (cur : ObjWithIndex) (u : UpdateOutcome) :
    Prog :=
  reserveRevAndSlot fun rev index =>
    writeUpdated key keys cur (u.oldObj rev) ⟨key, u.written rev, index⟩ rev

/-! ## 書き込み系の呼び出し -/

/-- `Create`：key が無ければ作る。あれば `KeyExists`。 -/
def create (key : String) (obj : Obj) : Prog :=
  let keys := splitKey key
  get keys fun
    | some _ => done (.error (.keyExists key))
    | none => createObj key keys obj

/-- `Delete`：`kvs.get` で読んだ object を検査し、`revmu` の中で revision を一つ取り、
key を消し、読んだ object の slot を空け、`Deleted` を送る。 -/
def delete (key : String) (preconditions : Option Preconditions)
    (validateDeletion : Option (Obj → Except StoreError Unit)) : Prog :=
  let keys := splitKey key
  get keys fun
    | none => done (.error (.keyNotFound key))
    | some existingObj =>
      match MemoryStore.deleteChecks key preconditions validateDeletion existingObj.obj with
      | .error err => done (.error err)
      | .ok () =>
        addMemoryRev fun rev =>
          del keys fun
            | .error err => done (.error err)
            | .ok () =>
              setSlot existingObj.index none <|
                sendEvent ⟨key, none, some existingObj.obj, rev, true, false⟩ (done (.ok none))

/-- `GuaranteedUpdate`：precondition を見て `tryUpdate` を一度だけ呼び、結果を更新として書く。 -/
def guaranteedUpdate (key : String) (ignoreNotFound : Bool) (preconditions : Option Preconditions)
    (tryUpdate : Obj → Except StoreError UpdateOutcome) : Prog :=
  let keys := splitKey key
  get keys fun
    | none => done (if ignoreNotFound then .ok (some Obj.zero) else .error (.keyNotFound key))
    | some curObjWi =>
      match checkPreconditions preconditions key curObjWi.obj >>= fun _ =>
          tryUpdate curObjWi.obj with
      | .error err => done (.error err)
      | .ok ret => updateObj key keys curObjWi ret

/-- `CreateOrUpdate`：無ければ作る。あれば `mergeFunc(currObj, newObj)` の書き換えた `newObj` を
更新として書く。 -/
def createOrUpdate (key : String) (obj : Obj)
    (mergeFunc : Option (Obj → Obj → Except StoreError (Obj × Obj))) : Prog :=
  let keys := splitKey key
  get keys fun
    | none => createObj key keys obj
    | some curObjWi =>
      match mergeFunc with
      | none =>
        done (.error
          (.other "Do not have merge function to update existing object using provided obj"))
      | some merge =>
        match merge curObjWi.obj obj with
        | .error err => done (.error err)
        | .ok (currObj, newObj) => updateObj key keys curObjWi ⟨currObj, some newObj⟩

/-- `GetOrCreate`：無ければ作る。あれば今の object を返す。 -/
def getOrCreate (key : String) (objToCreate : Obj) : Prog :=
  let keys := splitKey key
  get keys fun
    | none => createObj key keys objToCreate
    | some curObjWi => done (.ok (some curObjWi.obj))

/-- `CreateOrReplace`：先に revision と slot を取り、それから key を読み、無ければ作成、
あれば丸ごと置き換える。 -/
def createOrReplace (key : String) (objToCreate : Obj) : Prog :=
  reserveRevAndSlot fun rev index =>
    let newObjWi : ObjWithIndex := ⟨key, objToCreate.setResourceVersion rev, index⟩
    let keys := splitKey key
    get keys fun
      | none => writeCreated key keys newObjWi rev
      | some curObjWi => writeUpdated key keys curObjWi curObjWi.obj newObjWi rev

/-- `EnsureUpdateAndDelete`：更新し、書いた object が削除すべきものなら同じ precondition で
`Delete` する。`Delete` の誤りは捨てる。 -/
def ensureUpdateAndDelete (key : String) (ignoreNotFound : Bool)
    (preconditions : Option Preconditions) (updatedObj : Obj) : Prog :=
  (guaranteedUpdate key ignoreNotFound preconditions
      (MemoryStore.getTryUpdateFunc updatedObj)).andThen fun
      | .ok (some output) =>
        if shouldDeleteSpec output then
          (delete key preconditions (some fun _ => .ok ())).andThen fun _ =>
            done (.ok (some output))
        else done (.ok (some output))
      | res => done res

/-- 書き込み系の呼び出しを goroutine の仕事にする。 -/
def call : Call → Prog
  | .create key obj => create key obj
  | .delete key p v => delete key p v
  | .guaranteedUpdate key i p f => guaranteedUpdate key i p f
  | .createOrUpdate key obj m => createOrUpdate key obj m
  | .getOrCreate key obj => getOrCreate key obj
  | .createOrReplace key obj => createOrReplace key obj
  | .ensureUpdateAndDelete key i p obj => ensureUpdateAndDelete key i p obj

/-- `watch`（resource version を読めた後）：watcher を作り、`ms.watchers` を読んで、その後ろに
足した列を書き戻す。replay（`getObjEventsAfterRev`）は共有状態を書かないので、その成否 `replay`
だけを引数に取る。通れば `go watcher.run(...)` の配送 loop が始まり、誤りなら watcher は登録
されたまま、channel を取り出す者は居ない。 -/
def watch (replay : Except StoreError Unit) : Prog :=
  newWatcher fun id watchers =>
    storeWatchers (watchers ++ [id]) <|
      match replay with
      | .ok () => serve id (.ok none)
      | .error err => done (.error err)

/-! ## goroutine の集まり -/

/-- 共有状態と、goroutine ごとの残りの仕事。 -/
structure Sys where
  shared : Shared
  threads : List Prog

namespace Sys

/-- `NewMemoryStore` 直後の store に、goroutine `threads` を並べる。 -/
def init (rt : Runtime) (rev : Nat) (threads : List Prog) : Sys := ⟨Shared.init rt rev, threads⟩

/-- goroutine `i` を一歩進める。進めない goroutine や居ない番号では何も起こらない。 -/
def step (s : Sys) (i : Nat) : Sys :=
  match s.threads[i]? with
  | none => s
  | some p =>
    match p.step s.shared with
    | none => s
    | some (sh, p') => ⟨sh, s.threads.set i p'⟩

/-- schedule どおりに一歩ずつ進める。 -/
def runSchedule (s : Sys) (schedule : List Nat) : Sys := schedule.foldl step s

/-- goroutine `i`、`i + 1`、… を、`ns` の歩数ずつ順に走らせる schedule（逐次の実行）。 -/
def serialSchedule : List Nat → Nat → List Nat
  | [], _ => []
  | n :: ns, i => List.replicate n i ++ serialSchedule ns (i + 1)

/-- goroutine ごとの結果（返っていなければ `none`）。 -/
def results (s : Sys) : List (Option (Except StoreError (Option Obj))) := s.threads.map Prog.result

end Sys

end Interleaved

end FornaxStore
