import FornaxStore.List

/-!
# watch と、store が取りうる状態

`watch` は watcher を `ms.watchers` に足してから、resource version が 1 より大きければ
`getObjEventsAfterRev` で replay を計算する。1 以下なら replay は無く、開始 revision は
その時点の `_MemoryRev` になる。watcher の配送ループ（`watcher.run`）は src/ にないので、
watcher は `sendEvent` が `incomingChan` に送ったものの列として見る。

store が一歩で取りうる遷移（`Step`）は、書き込み系の呼び出し、watch の登録、watcher の停止、
それに同じ process の別の store が `_MemoryRev` を一つ進めることである。`GetList` と `Get` は
状態を変えない。`Reachable` は `NewMemoryStore` から遷移を重ねて届く状態。
-/

namespace FornaxStore

/-- `getObjEventsAfterRev` の match 規則。 -/
def watchMatches (rvMatch : String) (rv withRV : Nat) : Except StoreError Bool :=
  resourceVersionMatches "Unknown ResourceVersionMatch value: " rvMatch rv withRV

/-- replay の event：slot の object を、その revision の `Created` として。 -/
def replayEvent (v : ObjWithIndex) : ObjEvent :=
  ⟨v.key, some v.obj, none, v.obj.resourceVersion, false, true⟩

/-- `getObjEventsAfterRev` の prefix：recursive なら末尾に `/` が無ければ補い、そうでなければ
key そのもの。 -/
def watchKeyPrefix (key : String) (recursive : Bool) : String :=
  if recursive ∧ !hasSuffix key "/" then key ++ "/" else key

/-- `getObjEventsAfterRev` のループ：空でなく prefix に合う slot を、match 規則に合えば
`Created` の event にする。 -/
def replayEvents (keyPrefix rvMatch : String) (rev : Nat) :
    List (Option ObjWithIndex) → Except StoreError (List ObjEvent)
  | [] => .ok []
  | none :: rest => replayEvents keyPrefix rvMatch rev rest
  | some v :: rest =>
    if !hasPrefix v.key keyPrefix then replayEvents keyPrefix rvMatch rev rest
    else
      match watchMatches rvMatch v.obj.resourceVersion rev with
      | .error err => .error err
      | .ok ok =>
        match replayEvents keyPrefix rvMatch rev rest with
        | .error err => .error err
        | .ok evs =>
          .ok (if ok then replayEvent v :: evs else evs)

/-- `NewMemoryStoreWatcher(ctx, key, opts)`：番号 `id` の、止まっていない watcher。 -/
def newMemoryStoreWatcher (id : Nat) (key : String) (opts : ListOptions) : MemoryStoreWatcher :=
  ⟨id, key, opts, false, []⟩

namespace MemoryStore

/-- `getObjEventsAfterRev`：recursive なら key の末尾に `/` を補って prefix とし、
`binarySearchInObjList` の位置から replay を集める。revision は option から読み直す。 -/
def getObjEventsAfterRev (ms : MemoryStore) (key : String) (opts : ListOptions) :
    Except StoreError (List ObjEvent) :=
  let keyPrefix := watchKeyPrefix key opts.recursive
  match parseResourceVersion opts.resourceVersion with
  | .error err => .error err
  | .ok rev =>
    replayEvents keyPrefix opts.resourceVersionMatch rev
      (ms.kvList.drop (ms.binarySearchInObjList rev))

/-- `watch`：watcher を登録し、resource version が 1 より大きければ replay を計算する。
返すのは watcher の番号と、`watcher.run` に渡る開始 revision と replay。
replay が誤りになっても、登録した watcher は残る。 -/
def watch (ms : MemoryStore) (key : String) (opts : ListOptions) :
    Except StoreError (Nat × Nat × List ObjEvent) × MemoryStore :=
  match parseResourceVersion opts.resourceVersion with
  | .error err => (.error err, ms)
  | .ok rev =>
    let id := ms.watcherCount
    let ms := { ms with watchers := ms.watchers ++ [newMemoryStoreWatcher id key opts],
                        watcherCount := id + 1 }
    if 1 < rev then
      match ms.getObjEventsAfterRev key opts with
      | .error err => (.error err, ms)
      | .ok objEvents => (.ok (id, rev, objEvents), ms)
    else (.ok (id, ms.memoryRev, []), ms)

/-- Modelled from the spec: watcher が止まる（context の取り消し、呼び出し側の停止）。
`stopped` が立ち、次の `sendEvent` で外される。 -/
def stopWatcher (ms : MemoryStore) (id : Nat) : MemoryStore :=
  { ms with
    watchers := ms.watchers.map fun v => if v.id = id then { v with stopped := true } else v }

/-- 同じ process の別の store が `_MemoryRev` を一つ進める。 -/
def otherStoreRev (ms : MemoryStore) : MemoryStore := { ms with memoryRev := ms.memoryRev + 1 }

end MemoryStore

open MemoryStore in
/-- store の一歩。 -/
inductive Step : MemoryStore → MemoryStore → Prop
  | call (ms : MemoryStore) (c : Call) : Step ms (ms.exec c).2
  | watch (ms : MemoryStore) (key : String) (opts : ListOptions) : Step ms (ms.watch key opts).2
  | stopWatcher (ms : MemoryStore) (id : Nat) : Step ms (ms.stopWatcher id)
  | otherStore (ms : MemoryStore) : Step ms ms.otherStoreRev

/-- `NewMemoryStore` から届く状態。 -/
inductive Reachable : MemoryStore → Prop
  | init (rev : Nat) : Reachable (MemoryStore.newMemoryStore rev)
  | step {ms ms' : MemoryStore} : Reachable ms → Step ms ms' → Reachable ms'

end FornaxStore
