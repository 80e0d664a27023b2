import FornaxStore.Watch

/-!
# 書き込みが通ったときの store

書き込み系の呼び出しが store に対して行うことは三通りしかない。

* `created` — revision と末尾の slot を取り、key を書き、slot を埋め、`Created` を送る
* `updated` — revision と末尾の slot を取り、key を書き換え、古い slot を空け、
  新しい slot を埋め、呼び出しが渡す `oldObj` を持つ `Updated` を送る
* `deleted` — revision を取り、key を消し、slot を空け、`Deleted` を送る

`memoryStoreMap.put` は revision を比べてから書くが、逐次の実行では直前に `get` した slot の
revision を渡すので必ず通る。そのことを `createObj_eq`・`updateObj_eq`・`createOrReplace_eq`・
`delete_eq` で一度だけ確かめ、あとの証明はこの三つの変更（`Change`）だけを見る。
-/

namespace FornaxStore

/-- 呼び出し側の関数（`tryUpdate`・`mergeFunc`）が、渡された copy（`currObj`）を書き換えず、
`tryUpdate` はそれとは別の object を返す。 -/
def Call.LeavesInput : Call → Prop
  | .guaranteedUpdate _ _ _ f => ∀ o u, f o = .ok u → u.currObj = o ∧ u.newObj.isSome
  | .createOrUpdate _ _ m => ∀ merge, m = some merge → ∀ o o' a b, merge o o' = .ok (a, b) → a = o
  | _ => True

namespace MemoryStore

/-- key に今見えている object。 -/
def live (ms : MemoryStore) (key : String) : Option Obj := (ms.kvs.get (splitKey key)).map (·.obj)

/-! ## 三つの変更 -/

/-- 作成が通った後の store。 -/
def created (ms : MemoryStore) (key : String) (obj : Obj) : MemoryStore :=
  let rev := ms.memoryRev + 1
  let objWi : ObjWithIndex := ⟨key, obj.setResourceVersion rev, ms.kvList.length⟩
  sendEvent { ms with
      kvs := ms.kvs.set (splitKey key) (some objWi), kvList := ms.kvList ++ [some objWi],
      memoryRev := rev, reserved := ms.reserved ++ [rev] }
    ⟨key, some objWi.obj, none, rev, false, true⟩

/-- 今の slot `cur` を `obj` で置き換え、`oldObj` を古い object として知らせる更新が通った後の
store。 -/
def updated (ms : MemoryStore) (key : String) (cur : ObjWithIndex) (oldObj obj : Obj) :
    MemoryStore :=
  let rev := ms.memoryRev + 1
  let objWi : ObjWithIndex := ⟨key, obj.setResourceVersion rev, ms.kvList.length⟩
  sendEvent { ms with
      kvs := ms.kvs.set (splitKey key) (some objWi),
      kvList := ms.kvList.set cur.index none ++ [some objWi],
      memoryRev := rev, reserved := ms.reserved ++ [rev] }
    ⟨key, some objWi.obj, some oldObj, rev, false, false⟩

/-- 今の slot `cur` の削除が通った後の store。 -/
def deleted (ms : MemoryStore) (key : String) (cur : ObjWithIndex) : MemoryStore :=
  let rev := ms.memoryRev + 1
  sendEvent { ms with
      kvs := ms.kvs.set (splitKey key) none, kvList := ms.kvList.set cur.index none,
      memoryRev := rev }
    ⟨key, none, some cur.obj, rev, true, false⟩

@[simp] theorem sendEvent_kvs (ms : MemoryStore) (e : ObjEvent) : (ms.sendEvent e).kvs = ms.kvs :=
  rfl
@[simp] theorem sendEvent_kvList (ms : MemoryStore) (e : ObjEvent) :
    (ms.sendEvent e).kvList = ms.kvList := rfl
@[simp] theorem sendEvent_memoryRev (ms : MemoryStore) (e : ObjEvent) :
    (ms.sendEvent e).memoryRev = ms.memoryRev := rfl
@[simp] theorem sendEvent_reserved (ms : MemoryStore) (e : ObjEvent) :
    (ms.sendEvent e).reserved = ms.reserved := rfl
@[simp] theorem sendEvent_sent (ms : MemoryStore) (e : ObjEvent) :
    (ms.sendEvent e).sent = ms.sent ++ [e] := rfl

/-! ## 呼び出しごとの結果 -/

section

variable {ms : MemoryStore} {key : String} {cur : ObjWithIndex} {obj : Obj}

theorem createObj_eq (h : ms.kvs.get (splitKey key) = none) :
    ms.createObj key (splitKey key) obj =
      (.ok (obj.setResourceVersion (ms.memoryRev + 1)), ms.created key obj) := by
  simp [createObj, reserveRevAndSlot, writeCreated, MemoryStoreMap.put_of_get_none h, setSlot,
    created]

theorem updateObj_eq (h : ms.kvs.get (splitKey key) = some cur)
    (hrv : cur.obj.resourceVersion ≠ 0) (hi : cur.index < ms.kvList.length) (u : UpdateOutcome) :
    ms.updateObj key (splitKey key) cur u =
      (.ok (u.written (ms.memoryRev + 1)),
        ms.updated key cur (u.oldObj (ms.memoryRev + 1)) (u.newObj.getD u.currObj)) := by
  simp [updateObj, reserveRevAndSlot, writeUpdated, MemoryStoreMap.put_of_get_some h hrv, setSlot,
    updated, hi, UpdateOutcome.written]

theorem createOrReplace_eq (hs : ∀ cur, ms.kvs.get (splitKey key) = some cur →
      cur.obj.resourceVersion ≠ 0 ∧ cur.index < ms.kvList.length) :
    ms.createOrReplace key obj =
      (.ok (obj.setResourceVersion (ms.memoryRev + 1)),
        match ms.kvs.get (splitKey key) with
        | none => ms.created key obj
        | some cur => ms.updated key cur cur.obj obj) := by
  cases h : ms.kvs.get (splitKey key) with
  | none =>
    simp [createOrReplace, reserveRevAndSlot, writeCreated, MemoryStoreMap.put_of_get_none h,
      setSlot, created, h]
  | some cur =>
    obtain ⟨hrv, hi⟩ := hs cur h
    simp [createOrReplace, reserveRevAndSlot, writeUpdated, MemoryStoreMap.put_of_get_some h hrv,
      setSlot, updated, h, hi]

theorem delete_eq (p : Option Preconditions) (v : Option (Obj → Except StoreError Unit)) :
    ms.delete key p v =
      match ms.kvs.get (splitKey key) with
      | none => (.error (.keyNotFound key), ms)
      | some cur =>
        match deleteChecks key p v cur.obj with
        | .error err => (.error err, ms)
        | .ok () => (.ok (), ms.deleted key cur) := by
  simp only [delete]
  cases h : ms.kvs.get (splitKey key) with
  | none => rfl
  | some cur =>
    dsimp only
    cases deleteChecks key p v cur.obj with
    | error err => rfl
    | ok u => simp [MemoryStoreMap.del, h, setSlot, deleted]

/-- `watch` が store に残すもの：読めた resource version なら watcher を一つ足す。 -/
theorem watch_snd (key : String) (opts : ListOptions) :
    (ms.watch key opts).2 =
      match parseResourceVersion opts.resourceVersion with
      | .error _ => ms
      | .ok _ => { ms with watchers := ms.watchers ++ [newMemoryStoreWatcher ms.watcherCount key opts],
                           watcherCount := ms.watcherCount + 1 } := by
  unfold watch
  cases parseResourceVersion opts.resourceVersion with
  | error => rfl
  | ok rev =>
    dsimp only
    split
    · split <;> rfl
    · rfl

end

/-! ## 変更の列 -/

/-- 書き込みが live map に対して行う一つの変更。 -/
inductive Change where
  | create (key : String) (obj : Obj)
  | update (key : String) (cur : ObjWithIndex) (oldObj obj : Obj)
  | delete (key : String) (cur : ObjWithIndex)

/-- 変更が知らせる古い object が、今の object そのものである。作成と削除はいつもそうで、
更新は呼び出しが渡す `oldObj` による。 -/
def Change.Faithful : Change → Prop
  | .update _ cur oldObj _ => oldObj = cur.obj
  | _ => True

/-- 変更を行った後の store。 -/
def Change.apply (ms : MemoryStore) : Change → MemoryStore
  | .create key obj => ms.created key obj
  | .update key cur oldObj obj => ms.updated key cur oldObj obj
  | .delete key cur => ms.deleted key cur

/-- 変更が今の store で起こりうるか：作成は key が無いこと、更新と削除は `cur` が今の slot で
あること。 -/
def Change.Enabled (ms : MemoryStore) : Change → Prop
  | .create key _ => ms.kvs.get (splitKey key) = none
  | .update key cur _ _ => ms.kvs.get (splitKey key) = some cur
  | .delete key cur => ms.kvs.get (splitKey key) = some cur

/-- 起こりうる変更を順に行って `ms` から `ms'` に至る。 -/
inductive Changes : MemoryStore → List Change → MemoryStore → Prop
  | nil (ms : MemoryStore) : Changes ms [] ms
  | cons {ms ms' : MemoryStore} {c : Change} {cs : List Change} :
      c.Enabled ms → Changes (c.apply ms) cs ms' → Changes ms (c :: cs) ms'

theorem Changes.single {ms : MemoryStore} {c : Change} (h : c.Enabled ms) :
    Changes ms [c] (c.apply ms) :=
  .cons h (.nil _)

theorem Changes.eq_of_nil {ms ms' : MemoryStore} (h : Changes ms [] ms') : ms' = ms := by
  cases h; rfl

theorem Changes.append {ms₁ ms₂ ms₃ : MemoryStore} {cs₁ cs₂ : List Change}
    (h₁ : Changes ms₁ cs₁ ms₂) (h₂ : Changes ms₂ cs₂ ms₃) : Changes ms₁ (cs₁ ++ cs₂) ms₃ := by
  induction h₁ with
  | nil => exact h₂
  | cons hc _ ih => exact .cons hc (ih h₂)

/-- 変更の列ごとに保たれる性質は、一つの変更ごとに保たれればよい。 -/
theorem Changes.rec_inv {P : MemoryStore → Prop}
    (step : ∀ ms (c : Change), P ms → c.Enabled ms → P (c.apply ms)) {ms ms' : MemoryStore}
    {cs : List Change} (h : Changes ms cs ms') (hp : P ms) : P ms' := by
  induction h with
  | nil => exact hp
  | cons hc _ ih => exact ih (step _ _ hp hc)

end MemoryStore

end FornaxStore
