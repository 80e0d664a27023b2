import FornaxStore.Watch

/-!
# `freezeWorld` の lock

`MemoryStore.freezeWorld` は Go の `sync.RWMutex` である。公開された操作は始めに `RLock` を取り、
`defer` で `RUnlock` する。`Stop` と `shrink` は `Lock` を取る。ところが `binarySearchInObjList`
と `getObjEventsAfterRev` も自分で `RLock` を取るので、それを呼ぶ `GetList` と `watch` は
`RLock` を持ったまま `RLock` をもう一度取る。

ここでは各操作を `freezeWorld` に対する操作の列として書き、goroutine の交互実行を lock の状態と
goroutine ごとの残りの操作で表す。どちらの分かれ道を通るかがデータで決まるところ（`GetList` が
`binarySearchInObjList` を呼ぶか、`EnsureUpdateAndDelete` が `Delete` を呼ぶか）は、その時点の
store から逐次の model と同じ分かれ方で決める。

Go の `sync.RWMutex` の規則：

* `RLock` は、`Lock` を呼んだ writer が居なければ reader を一つ増やして進む。writer が待って
  いる間も持っている間も、`RLock` は待つ。
* `Lock` は、writer が居なければ writer として名乗り出て、それから reader が全て抜けるのを待つ。
* `RUnlock` と `Unlock` は待たない。
-/

namespace FornaxStore

namespace Quiesce

/-- `freezeWorld` に対する一つの操作。 -/
inductive LockOp where
  | rLock
  | rUnlock
  | lock
  /-- `Lock` の後半：名乗り出た writer が、先に居た reader が全て抜けるのを待つ。呼び出しの列には
  現れず、`lock` を行った goroutine が次に行う。 -/
  | awaitReaders
  | unlock
  deriving DecidableEq, Repr

/-- writer の様子：居ない、名乗り出て reader を待っている、lock を持っている。 -/
inductive Writer where
  | absent
  | waiting
  | holding
  deriving DecidableEq, Repr

/-- `sync.RWMutex` の状態：read lock を持つ数と writer の様子。 -/
structure RWMutex where
  readers : Nat
  writer : Writer
  deriving DecidableEq, Repr

/-- 零値の `sync.RWMutex{}`。 -/
def RWMutex.unlocked : RWMutex := ⟨0, .absent⟩

/-- goroutine の残りの操作の先頭を `mu` で行う。待つなら `none`。 -/
def stepOp (mu : RWMutex) : List LockOp → Option (RWMutex × List LockOp)
  | [] => none
  | .rLock :: rest =>
    if mu.writer = .absent then some ({ mu with readers := mu.readers + 1 }, rest) else none
  | .rUnlock :: rest => some ({ mu with readers := mu.readers - 1 }, rest)
  | .lock :: rest =>
    if mu.writer = .absent then some ({ mu with writer := .waiting }, .awaitReaders :: rest)
    else none
  | .awaitReaders :: rest =>
    if mu.readers = 0 then some ({ mu with writer := .holding }, rest) else none
  | .unlock :: rest => some ({ mu with writer := .absent }, rest)

/-! ## 操作ごとの lock の列 -/

/-- `RLock` を取り、`defer` で `RUnlock` する本体の間に `inner` を行う。 -/
def readLocked (inner : List LockOp) : List LockOp := .rLock :: inner ++ [.rUnlock]

/-- `Lock` を取り、`defer` で `Unlock` する。 -/
def writeLocked : List LockOp := [.lock, .unlock]

/-- `binarySearchInObjList`：自分で `RLock` を取る。 -/
def binarySearchInObjListLocks : List LockOp := readLocked []

/-- `getObjEventsAfterRev`：`RLock` の中で resource version を読み直し、読めれば
`binarySearchInObjList` を呼ぶ。 -/
def getObjEventsAfterRevLocks (opts : ListOptions) : List LockOp :=
  readLocked
    (match MemoryStore.parseResourceVersion opts.resourceVersion with
    | .error _ => []
    | .ok _ => binarySearchInObjListLocks)

/-- `watch`：`freezeWorld` を取らず、resource version が 1 より大きければ
`getObjEventsAfterRev` を呼ぶ。 -/
def watchLocks (opts : ListOptions) : List LockOp :=
  match MemoryStore.parseResourceVersion opts.resourceVersion with
  | .error _ => []
  | .ok rev => if 1 < rev then getObjEventsAfterRevLocks opts else []

/-- `GetList` が `binarySearchInObjList` を呼ぶか。`getList` と `listStart` と同じ分かれ方で、
continue token の key が別の revision で居るとき、または token が無く正の resource version が
あるときに呼ぶ。 -/
def getListSearches (codec : ContinueCodec) (ms : MemoryStore) (key : String)
    (opts : ListOptions) : Bool :=
  if !opts.recursive then false
  else
    match MemoryStore.parseFromRV opts.resourceVersion with
    | .error _ => false
    | .ok fromRV =>
      if opts.predicate.continueToken ≠ "" then
        if opts.resourceVersion ≠ "" ∧ opts.resourceVersion ≠ "0" then false
        else
          match codec.decodeContinue opts.predicate.continueToken (listKeyPrefix key) with
          | .error _ => false
          | .ok (continueKey, continueRV) =>
            if continueRV = 0 then false
            else
              match ms.kvs.get (splitKey continueKey) with
              | none => false
              | some obj => obj.obj.resourceVersion ≠ continueRV.toNat
      else
        match fromRV with
        | some rv => 0 < rv
        | none => false

/-- `GetList`：本体を `RLock` の中で行い、その中で `binarySearchInObjList` を呼ぶことがある。 -/
def getListLocks (codec : ContinueCodec) (ms : MemoryStore) (key : String) (opts : ListOptions) :
    List LockOp :=
  readLocked (if getListSearches codec ms key opts then binarySearchInObjListLocks else [])

/-- `EnsureUpdateAndDelete`：`GuaranteedUpdate` の後、書いた object が削除すべきものなら
`Delete` を呼ぶ。どちらも自分で `RLock` を取る。 -/
def ensureUpdateAndDeleteLocks (ms : MemoryStore) (key : String) (ignoreNotFound : Bool)
    (preconditions : Option Preconditions) (updatedObj : Obj) : List LockOp :=
  match ms.guaranteedUpdate key ignoreNotFound preconditions
      (MemoryStore.getTryUpdateFunc updatedObj) with
  | (.ok output, _) =>
    if shouldDeleteSpec output then readLocked [] ++ readLocked [] else readLocked []
  | (.error _, _) => readLocked []

/-- 公開された操作と、呼ばれずに残っている `shrink`。 -/
inductive Operation where
  /-- `Create`・`Delete`・`GuaranteedUpdate`・`CreateOrUpdate`・`GetOrCreate`・`CreateOrReplace`・
  `EnsureUpdateAndDelete` -/
  | call (c : Call)
  | get
  | getList (key : String) (opts : ListOptions)
  | watch (opts : ListOptions)
  | count
  | stop
  | shrink

/-- 操作が `freezeWorld` に対して行う列。データで分かれるところは `ms` で決める。 -/
def Operation.locks (codec : ContinueCodec) (ms : MemoryStore) : Operation → List LockOp
  | .call (.ensureUpdateAndDelete key i p u) => ensureUpdateAndDeleteLocks ms key i p u
  | .call _ => readLocked []
  | .get => readLocked []
  | .getList key opts => getListLocks codec ms key opts
  | .watch opts => watchLocks opts
  | .count => []
  | .stop => writeLocked
  | .shrink => writeLocked

/-! ## goroutine の交互実行 -/

/-- lock の状態と、goroutine ごとの残りの操作。 -/
structure LockSys where
  mu : RWMutex
  threads : List (List LockOp)
  deriving DecidableEq, Repr

/-- lock を誰も持たない状態から、各 goroutine が自分の列を始める。 -/
def LockSys.init (threads : List (List LockOp)) : LockSys := ⟨RWMutex.unlocked, threads⟩

/-- goroutine `i` が一歩進む。待っているか終わっていれば何も変わらない。 -/
def LockSys.step (s : LockSys) (i : Nat) : LockSys :=
  match s.threads[i]? with
  | none => s
  | some t =>
    match stepOp s.mu t with
    | none => s
    | some (mu, t') => ⟨mu, s.threads.set i t'⟩

/-- schedule（goroutine の番号の列）の順に一歩ずつ進める。 -/
def LockSys.runSchedule (s : LockSys) (σ : List Nat) : LockSys := σ.foldl LockSys.step s

/-- deadlock：終わっていない goroutine があり、どの goroutine の次の操作も行えない。 -/
def LockSys.Deadlocked (s : LockSys) : Prop :=
  (∃ t ∈ s.threads, t ≠ []) ∧ ∀ t ∈ s.threads, stepOp s.mu t = none

instance (s : LockSys) : Decidable s.Deadlocked := inferInstanceAs (Decidable (_ ∧ _))

end Quiesce

end FornaxStore
