import FornaxStore.Basic

/-!
# MemoryStore と書き込み

`MemoryStore` の状態と、書き込み系の呼び出し `Create`・`Delete`・`GuaranteedUpdate`・
`CreateOrUpdate`・`GetOrCreate`・`CreateOrReplace`・`EnsureUpdateAndDelete`、それに `Get`。

Go の呼び出しは誤りを返しても、それまでに書いたもの（`reserveRevAndSlot` が足した空の slot、
進めた revision）を残す。そこで各呼び出しは「結果と、呼び出し後の store」の組を返す。

作成の経路（`Create`・`CreateOrUpdate`・`GetOrCreate`・`CreateOrReplace`）と更新の経路
（`GuaranteedUpdate`・`CreateOrUpdate`・`CreateOrReplace`）は、Go では同じ手順を関数ごとに
書き写している。ここでは手順を `writeCreated`・`writeUpdated` に一度だけ書き、
各関数はそれを自分の引数で呼ぶ。

`tryUpdate` と `mergeFunc` は呼び出し側の関数で、Go では渡された deep copy（`currObj`）を
書き換えてよく、`tryUpdate` はその pointer をそのまま返してもよい。`Updated` の `oldObj` は
その `currObj` なので、呼び出しの結果は `UpdateOutcome` として「呼び出し後の `currObj`」と
「返した object（`currObj` そのものなら `none`）」の組で持つ。

状態には code にない field が三つある（ghost）。

* `reserved` — `reserveRevAndSlot` が各 index と一緒に返した revision
* `sent` — `sendEvent` に渡された event の列
* `watcherCount` — 登録された watcher の数。watcher の pointer の代わりの番号を配る
-/

namespace FornaxStore

/-- Modelled from the spec: `memoryStoreWatcher`（src/ にない）。store が読み書きするのは
`stopped` と `incomingChan` だけ。`incomingChan` はそこへ送られた event の列。 -/
structure MemoryStoreWatcher where
  id : Nat
  key : String
  opts : ListOptions
  stopped : Bool
  incomingChan : List ObjEvent

/-- `v.incomingChan <- event`。 -/
def MemoryStoreWatcher.send (v : MemoryStoreWatcher) (event : ObjEvent) : MemoryStoreWatcher :=
  { v with incomingChan := v.incomingChan ++ [event] }

@[simp] theorem MemoryStoreWatcher.send_id (v : MemoryStoreWatcher) (event : ObjEvent) :
    (v.send event).id = v.id := rfl

@[simp] theorem MemoryStoreWatcher.send_stopped (v : MemoryStoreWatcher) (event : ObjEvent) :
    (v.send event).stopped = v.stopped := rfl

@[simp] theorem MemoryStoreWatcher.send_incomingChan (v : MemoryStoreWatcher) (event : ObjEvent) :
    (v.send event).incomingChan = v.incomingChan ++ [event] := rfl

/-- `tryUpdate`・`mergeFunc` が呼ばれた後に store が読むもの。`currObj` は渡された copy の
呼び出し後の値、`newObj` は返された object で、`none` は渡された copy そのもの（同じ pointer）を
返したこと。 -/
structure UpdateOutcome where
  currObj : Obj
  newObj : Option Obj

/-- `store.UpdateObjectResourceVersion(ret, rev)` の後に書かれる object。 -/
def UpdateOutcome.written (u : UpdateOutcome) (rev : Nat) : Obj :=
  (u.newObj.getD u.currObj).setResourceVersion rev

/-- event の `oldObj` になる `currObj`：返されたのが `currObj` そのものなら、revision を
書き換えられた後のそれ。 -/
def UpdateOutcome.oldObj (u : UpdateOutcome) (rev : Nat) : Obj :=
  match u.newObj with
  | none => u.written rev
  | some _ => u.currObj

@[simp] theorem UpdateOutcome.written_eq (u : UpdateOutcome) (rev : Nat) :
    u.written rev = (u.newObj.getD u.currObj).setResourceVersion rev := rfl

@[simp] theorem UpdateOutcome.oldObj_some (currObj newObj : Obj) (rev : Nat) :
    (UpdateOutcome.mk currObj (some newObj)).oldObj rev = currObj := rfl

@[simp] theorem UpdateOutcome.oldObj_none (currObj : Obj) (rev : Nat) :
    (UpdateOutcome.mk currObj none).oldObj rev = currObj.setResourceVersion rev := rfl

/-- 別の object を返したなら、`oldObj` は呼び出し後の `currObj` そのもの。 -/
theorem UpdateOutcome.oldObj_of_isSome {u : UpdateOutcome} (h : u.newObj.isSome) (rev : Nat) :
    u.oldObj rev = u.currObj := by
  obtain ⟨o, ho⟩ := Option.isSome_iff_exists.mp h
  simp [UpdateOutcome.oldObj, ho]

/-- `MemoryStore`。`memoryRev` は process 全体で一つの `_MemoryRev`。 -/
structure MemoryStore where
  kvs : MemoryStoreMap
  kvList : List (Option ObjWithIndex)
  memoryRev : Nat
  watchers : List MemoryStoreWatcher
  reserved : List Nat
  sent : List ObjEvent
  watcherCount : Nat

/-- `Get` の option（`apistorage.GetOptions`）。 -/
structure GetOptions where
  ignoreNotFound : Bool
  resourceVersion : String

namespace MemoryStore

/-- `NewMemoryStore`。`rev` は作られた時点の `_MemoryRev`。 -/
def newMemoryStore (rev : Nat) : MemoryStore :=
  ⟨MemoryStoreMap.empty, [], rev, [], [], [], 0⟩

/-! ## 小道具 -/

/-- `reserveRevAndSlot`：revision を一つ進め、`kvList` の末尾に空の slot を足す。 -/
def reserveRevAndSlot (ms : MemoryStore) : Nat × Nat × MemoryStore :=
  let rev := ms.memoryRev + 1
  (rev, ms.kvList.length,
    { ms with memoryRev := rev, kvList := ms.kvList ++ [none], reserved := ms.reserved ++ [rev] })

/-- `ms.kvList[index] = v`。 -/
def setSlot (ms : MemoryStore) (index : Nat) (v : Option ObjWithIndex) : MemoryStore :=
  { ms with kvList := ms.kvList.set index v }

/-- `sendEvent`：止まっていない watcher の `incomingChan` に送り、止まった watcher を外す。 -/
def sendEvent (ms : MemoryStore) (event : ObjEvent) : MemoryStore :=
  { ms with
    watchers := ms.watchers.filterMap fun v => if v.stopped then none else some (v.send event)
    sent := ms.sent ++ [event] }

/-- 作成の書き込み：空の key として `put` し、`kvList[index]` を埋め、`Created` を送る。 -/
def writeCreated (ms : MemoryStore) (key : String) (keys : List String) (objWi : ObjWithIndex)
    (rev : Nat) : Except StoreError Obj × MemoryStore :=
  match ms.kvs.put keys objWi 0 with
  | .error err => (.error err, ms)
  | .ok kvs =>
    (.ok objWi.obj, ({ ms with kvs }.setSlot objWi.index (some objWi)).sendEvent
      ⟨key, some objWi.obj, none, rev, false, true⟩)

/-- 更新の書き込み：今の revision を期待して `put` し、古い slot を空け、新しい slot を埋め、
`oldObj` を古い object とする `Updated` を送る。 -/
def writeUpdated (ms : MemoryStore) (key : String) (keys : List String) (cur : ObjWithIndex)
    (oldObj : Obj) (objWi : ObjWithIndex) (rev : Nat) : Except StoreError Obj × MemoryStore :=
  match ms.kvs.put keys objWi cur.obj.resourceVersion with
  | .error err => (.error err, ms)
  | .ok kvs =>
    (.ok objWi.obj,
      (({ ms with kvs }.setSlot cur.index none).setSlot objWi.index (some objWi)).sendEvent
      ⟨key, some objWi.obj, some oldObj, rev, false, false⟩)

/-- 作成の経路：revision と slot を取り、object に revision を書いてから `writeCreated`。 -/
def createObj (ms : MemoryStore) (key : String) (keys : List String) (obj : Obj) :
    Except StoreError Obj × MemoryStore :=
  let (rev, index, ms) := ms.reserveRevAndSlot
  ms.writeCreated key keys ⟨key, obj.setResourceVersion rev, index⟩ rev

/-- 更新の経路：callback の後で revision と slot を取り、返された object に revision を書いてから
`writeUpdated`。`oldObj` は callback の後の `currObj`。 -/
def updateObj (ms : MemoryStore) (key : String) (keys : List String) (cur : ObjWithIndex)
    (u : UpdateOutcome) : Except StoreError Obj × MemoryStore :=
  let (rev, index, ms) := ms.reserveRevAndSlot
  ms.writeUpdated key keys cur (u.oldObj rev) ⟨key, u.written rev, index⟩ rev

/-! ## 書き込み系の呼び出し -/

/-- `Create`：key が無ければ作る。あれば `KeyExists`。 -/
def create (ms : MemoryStore) (key : String) (obj : Obj) : Except StoreError Obj × MemoryStore :=
  let keys := splitKey key
  match ms.kvs.get keys with
  | some _ => (.error (.keyExists key), ms)
  | none => ms.createObj key keys obj

/-- `Delete` が `revmu` の中で行う検査：precondition、次に `validateDeletion`。 -/
def deleteChecks (key : String) (preconditions : Option Preconditions)
    (validateDeletion : Option (Obj → Except StoreError Unit)) (currObj : Obj) :
    Except StoreError Unit := do
  checkPreconditions preconditions key currObj
  match validateDeletion with
  | none => pure ()
  | some validate => validate currObj

/-- `Delete`：検査が通れば削除のための revision を一つ取り、key を消し、slot を空け、
`Deleted` を送る。`out` は局所変数に代入されるだけなので、呼び出し側には何も書かない。 -/
def delete (ms : MemoryStore) (key : String) (preconditions : Option Preconditions)
    (validateDeletion : Option (Obj → Except StoreError Unit)) :
    Except StoreError Unit × MemoryStore :=
  let keys := splitKey key
  match ms.kvs.get keys with
  | none => (.error (.keyNotFound key), ms)
  | some existingObj =>
    match deleteChecks key preconditions validateDeletion existingObj.obj with
    | .error err => (.error err, ms)
    | .ok () =>
      let rev := ms.memoryRev + 1
      let ms := { ms with memoryRev := rev }
      match ms.kvs.del keys with
      | .error err => (.error err, ms)
      | .ok kvs =>
        (.ok (), ({ ms with kvs }.setSlot existingObj.index none).sendEvent
          ⟨key, none, some existingObj.obj, rev, true, false⟩)

/-- `GuaranteedUpdate`：precondition を見て今の object の copy で `tryUpdate` を一度だけ呼び、
結果を更新として書く。key が無ければ `KeyNotFound`、ただし `ignoreNotFound` なら零の object を
返す。 -/
def guaranteedUpdate (ms : MemoryStore) (key : String) (ignoreNotFound : Bool)
    (preconditions : Option Preconditions) (tryUpdate : Obj → Except StoreError UpdateOutcome) :
    Except StoreError Obj × MemoryStore :=
  let keys := splitKey key
  match ms.kvs.get keys with
  | none => if ignoreNotFound then (.ok Obj.zero, ms) else (.error (.keyNotFound key), ms)
  | some curObjWi =>
    match checkPreconditions preconditions key curObjWi.obj >>= fun _ => tryUpdate curObjWi.obj with
    | .error err => (.error err, ms)
    | .ok ret => ms.updateObj key keys curObjWi ret

/-- `CreateOrUpdate`：無ければ作る。あれば今の object の copy と `obj` の copy で
`mergeFunc(currObj, newObj)` を呼び、書き換えられた二つ（`from`・`to` の順）のうち `newObj` を
更新として書く。 -/
def createOrUpdate (ms : MemoryStore) (key : String) (obj : Obj)
    (mergeFunc : Option (Obj → Obj → Except StoreError (Obj × Obj))) :
    Except StoreError Obj × MemoryStore :=
  let keys := splitKey key
  match ms.kvs.get keys with
  | none => ms.createObj key keys obj
  | some curObjWi =>
    match mergeFunc with
    | none =>
      (.error
        (.other "Do not have merge function to update existing object using provided obj"), ms)
    | some merge =>
      match merge curObjWi.obj obj with
      | .error err => (.error err, ms)
      | .ok (currObj, newObj) => ms.updateObj key keys curObjWi ⟨currObj, some newObj⟩

/-- `GetOrCreate`：無ければ作る。あれば今の object を返し、何も変えない。 -/
def getOrCreate (ms : MemoryStore) (key : String) (objToCreate : Obj) :
    Except StoreError Obj × MemoryStore :=
  let keys := splitKey key
  match ms.kvs.get keys with
  | none => ms.createObj key keys objToCreate
  | some curObjWi => (.ok curObjWi.obj, ms)

/-- `CreateOrReplace`：先に revision と slot を取り、無ければ作成、あれば丸ごと置き換える。 -/
def createOrReplace (ms : MemoryStore) (key : String) (objToCreate : Obj) :
    Except StoreError Obj × MemoryStore :=
  let (rev, index, ms) := ms.reserveRevAndSlot
  let newObjWi : ObjWithIndex := ⟨key, objToCreate.setResourceVersion rev, index⟩
  let keys := splitKey key
  match ms.kvs.get keys with
  | none => ms.writeCreated key keys newObjWi rev
  | some curObjWi => ms.writeUpdated key keys curObjWi curObjWi.obj newObjWi rev

/-- Modelled from the spec: `store.GetTryUpdateFunc(obj)`。渡された copy には触れず、
今の object によらず `obj` を返す。 -/
def getTryUpdateFunc (updatedObj : Obj) : Obj → Except StoreError UpdateOutcome :=
  fun currObj => .ok ⟨currObj, some updatedObj⟩

/-- `EnsureUpdateAndDelete`：更新し、書いた object が削除すべきものなら同じ precondition で
`Delete` する。`Delete` の誤りは捨てる。 -/
def ensureUpdateAndDelete (ms : MemoryStore) (key : String) (ignoreNotFound : Bool)
    (preconditions : Option Preconditions) (updatedObj : Obj) :
    Except StoreError Obj × MemoryStore :=
  match ms.guaranteedUpdate key ignoreNotFound preconditions (getTryUpdateFunc updatedObj) with
  | (.error err, ms) => (.error err, ms)
  | (.ok output, ms) =>
    if shouldDeleteSpec output then
      (.ok output, (ms.delete key preconditions (some fun _ => .ok ())).2)
    else (.ok output, ms)

/-! ## Get -/

/-- `"0"` を読んだ数。 -/
def parseDecimal (s : List Char) : Nat := s.foldl (fun n c => n * 10 + (c.toNat - '0'.toNat)) 0

/-- Modelled from the spec: `store.ParseResourceVersion`。`""` と `"0"` は 0、それ以外は
十進の 64 bit 符号なし整数。 -/
def parseResourceVersion (rv : String) : Except StoreError Nat :=
  if rv = "" ∨ rv = "0" then .ok 0
  else if rv.data.all Char.isDigit ∧ rv.data ≠ [] ∧ parseDecimal rv.data < 2 ^ 64 then
    .ok (parseDecimal rv.data)
  else .error (.invalidResourceVersion rv)

/-- `validateMinimumResourceVersion`：要求された最小の revision が今の revision より大きければ
`TooLargeResourceVersion`。 -/
def validateMinimumResourceVersion (minimumResourceVersion : String) (actualRevision : Nat) :
    Except StoreError Unit :=
  if minimumResourceVersion = "" then .ok ()
  else
    match parseResourceVersion minimumResourceVersion with
    | .error _ => .error (.badRequest ("invalid resource version: " ++ minimumResourceVersion))
    | .ok minimumRV =>
      if minimumRV > actualRevision then .error (.tooLargeResourceVersion minimumRV actualRevision)
      else .ok ()

/-- `Get`：今の object を返す。 -/
def get (ms : MemoryStore) (key : String) (opts : GetOptions) : Except StoreError Obj :=
  match ms.kvs.get (splitKey key) with
  | none => if opts.ignoreNotFound then .ok Obj.zero else .error (.keyNotFound key)
  | some existingObj =>
    match validateMinimumResourceVersion opts.resourceVersion existingObj.obj.resourceVersion with
    | .error err => .error err
    | .ok () => .ok existingObj.obj

end MemoryStore

/-! ## 呼び出しの列 -/

/-- 書き込み系の呼び出し一つ。呼び出し側が渡す関数（`validateDeletion`・`tryUpdate`・
`mergeFunc`）はそのまま持つ。 -/
inductive Call where
  | create (key : String) (obj : Obj)
  | delete (key : String) (preconditions : Option Preconditions)
      (validateDeletion : Option (Obj → Except StoreError Unit))
  | guaranteedUpdate (key : String) (ignoreNotFound : Bool) (preconditions : Option Preconditions)
      (tryUpdate : Obj → Except StoreError UpdateOutcome)
  | createOrUpdate (key : String) (obj : Obj)
      (mergeFunc : Option (Obj → Obj → Except StoreError (Obj × Obj)))
  | getOrCreate (key : String) (objToCreate : Obj)
  | createOrReplace (key : String) (objToCreate : Obj)
  | ensureUpdateAndDelete (key : String) (ignoreNotFound : Bool)
      (preconditions : Option Preconditions) (updatedObj : Obj)

namespace MemoryStore

/-- 呼び出しを一つ行う。結果は呼び出し側の `out` に書かれる object（`Delete` は書かない）。 -/
def exec (ms : MemoryStore) : Call → Except StoreError (Option Obj) × MemoryStore
  | .create key obj => let r := ms.create key obj; (r.1.map some, r.2)
  | .delete key p v => let r := ms.delete key p v; (r.1.map fun _ => none, r.2)
  | .guaranteedUpdate key i p f => let r := ms.guaranteedUpdate key i p f; (r.1.map some, r.2)
  | .createOrUpdate key obj m => let r := ms.createOrUpdate key obj m; (r.1.map some, r.2)
  | .getOrCreate key obj => let r := ms.getOrCreate key obj; (r.1.map some, r.2)
  | .createOrReplace key obj => let r := ms.createOrReplace key obj; (r.1.map some, r.2)
  | .ensureUpdateAndDelete key i p obj =>
    let r := ms.ensureUpdateAndDelete key i p obj; (r.1.map some, r.2)

/-- 呼び出しの列を順に行った後の store。 -/
def run (ms : MemoryStore) (calls : List Call) : MemoryStore :=
  calls.foldl (fun ms c => (ms.exec c).2) ms

@[simp] theorem run_nil (ms : MemoryStore) : ms.run [] = ms := rfl

@[simp] theorem run_cons (ms : MemoryStore) (c : Call) (cs : List Call) :
    ms.run (c :: cs) = (ms.exec c).2.run cs := rfl

end MemoryStore

end FornaxStore
