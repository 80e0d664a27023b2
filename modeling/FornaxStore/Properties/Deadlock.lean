import FornaxStore.Quiesce

/-!
# `freezeWorld` の deadlock

正の resource version を持つ recursive な `GetList` は、`RLock` を持ったまま
`binarySearchInObjList` の `RLock` を取る。その間に `Stop` が `Lock` を呼ぶと、`Stop` は
`GetList` の read lock が抜けるのを待ち、`GetList` の二度目の `RLock` は名乗り出た writer の
後ろで待つ。どちらも進めない（`getList_stop_deadlock`）。replay する `watch` も同じである。

`RLock`…`RUnlock` と `Lock`…`Unlock` を入れ子にせず並べた列を `Flat` と呼ぶ。`GetList`
（`binarySearchInObjList` を呼ぶとき）と replay する `watch` を除けば、どの操作の列も `Flat` である
（`Operation.locks_flat_or_nested`）。ここでの lock の model は `freezeWorld` だけを見る。read lock を
持ったまま `sendEvent` の channel への送信で止まる書き込み（`Interleaved.Prog.chanSend`）は、
交互実行の model の側にある。

## 主な結果

* `Operation.locks_flat_or_nested` — 操作の列は `Flat` か、`RLock` を入れ子にした一つの形
* `getList_stop_deadlock` — `GetList` または `watch` と `Stop` が deadlock に至る schedule
-/

namespace FornaxStore

namespace Quiesce

/-! ## 入れ子にしない列 -/

/-- `RLock`…`RUnlock` と `Lock`…`Unlock` を入れ子にせず並べた列。 -/
inductive Flat : List LockOp → Prop
  | nil : Flat []
  | read {rest : List LockOp} : Flat rest → Flat (.rLock :: .rUnlock :: rest)
  | write {rest : List LockOp} : Flat rest → Flat (.lock :: .unlock :: rest)

theorem flat_readLocked_nil : Flat (readLocked []) := .read .nil

theorem flat_writeLocked : Flat writeLocked := .write .nil

theorem getListLocks_eq (codec : ContinueCodec) (ms : MemoryStore) (key : String)
    (opts : ListOptions) :
    getListLocks codec ms key opts =
      if getListSearches codec ms key opts then readLocked binarySearchInObjListLocks
      else readLocked [] := by
  unfold getListLocks; split <;> rfl

theorem watchLocks_flat_or_nested (opts : ListOptions) :
    Flat (watchLocks opts) ∨ watchLocks opts = readLocked binarySearchInObjListLocks := by
  unfold watchLocks getObjEventsAfterRevLocks
  cases h : MemoryStore.parseResourceVersion opts.resourceVersion with
  | error => exact .inl .nil
  | ok rev =>
    dsimp only
    split
    · exact .inr rfl
    · exact .inl .nil

/-- どの操作の列も `Flat` か、`RLock` を入れ子にした `GetList`・`watch` の形である。 -/
theorem Operation.locks_flat_or_nested (codec : ContinueCodec) (ms : MemoryStore) :
    ∀ op : Operation, Flat (op.locks codec ms) ∨
      op.locks codec ms = readLocked binarySearchInObjListLocks
  | .call (.ensureUpdateAndDelete key i p u) => .inl (by
    show Flat (ensureUpdateAndDeleteLocks ms key i p u)
    unfold ensureUpdateAndDeleteLocks
    split
    · split
      · exact .read (.read .nil)
      · exact flat_readLocked_nil
    · exact flat_readLocked_nil)
  | .call (.create _ _) | .call (.delete _ _ _) | .call (.guaranteedUpdate _ _ _ _)
  | .call (.createOrUpdate _ _ _) | .call (.getOrCreate _ _) | .call (.createOrReplace _ _)
  | .get => .inl flat_readLocked_nil
  | .getList key opts => by
    rw [Operation.locks, getListLocks_eq]
    split
    · exact .inr rfl
    · exact .inl flat_readLocked_nil
  | .watch opts => watchLocks_flat_or_nested opts
  | .count => .inl .nil
  | .stop | .shrink => .inl flat_writeLocked

/-- resource version `"5"` の recursive な `GetList` と `Stop` を並べ、`GetList` が一つ目の `RLock` を
取った直後に `Stop` が `Lock` を呼ぶ。`GetList` は `RLock` を持ったまま `binarySearchInObjList` の
`RLock` を取る列なので、この後は `Stop` が read lock の抜けるのを待ち、`GetList` は名乗り出た
writer の後ろで待つ。replay する `watch` も同じ列で、同じ schedule で deadlock に至る。store、
codec、key によらない。 -/
theorem getList_stop_deadlock (codec : ContinueCodec) (ms : MemoryStore) (key : String) :
    (Operation.getList key ⟨"5", "", everything, true⟩).locks codec ms =
        [.rLock, .rLock, .rUnlock, .rUnlock] ∧
      ((LockSys.init [(Operation.getList key ⟨"5", "", everything, true⟩).locks codec ms,
        Operation.stop.locks codec ms]).runSchedule [0, 1]).Deadlocked ∧
      (Operation.watch ⟨"5", "", everything, false⟩).locks codec ms =
        [.rLock, .rLock, .rUnlock, .rUnlock] ∧
      ((LockSys.init [(Operation.watch ⟨"5", "", everything, false⟩).locks codec ms,
        Operation.stop.locks codec ms]).runSchedule [0, 1]).Deadlocked := by
  have hd : ((LockSys.init [[.rLock, .rLock, .rUnlock, .rUnlock], [.lock, .unlock]]).runSchedule
      [0, 1]).Deadlocked := by decide
  exact ⟨rfl, hd, rfl, hd⟩

end Quiesce

end FornaxStore
