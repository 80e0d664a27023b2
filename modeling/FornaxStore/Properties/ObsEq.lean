import FornaxStore.Properties.Shrink
import FornaxStore.Properties.Refinement

/-!
# slot の位置は書き込みからは見えない

二つの store の観測が等しい（`ObsEq`）とは、key ごとの今の object（`live`）、`_MemoryRev`、
watcher の列、送った event の列、watcher の番号が同じことである。`kvList` の中の位置と空の slot は
比べない。

書き込み系の呼び出しは map から今の object を読み、その object と `_MemoryRev` だけを見て答え、
slot の位置は自分の書き込みの宛先にしか使わない。そのため呼び出しの結果と呼び出し後の観測は、
呼び出し前の観測だけで決まる。`shrink` は観測を変えないので、詰めても詰めなくても、その後のどの
呼び出しの列にも同じ結果を返し、`Get` の答えも watcher に送るものも同じになる。

`kvList` を走る読み出し（`GetList` と watch の replay）は違う：位置から始める二分探索と
`remainingItemCount` が空の slot を見るので、詰めると答えが変わりうる（`Properties/Shrink.lean`）。

* `ObsEq.exec` — 観測の等しい二つの store は、同じ呼び出しに同じ結果を返し、観測の等しいまま
* `obsEq_shrink` — 詰めても観測は変わらない
* `shrink_unobservable` — `shrink` の後のどの呼び出しの列も、詰めなかったときと同じ結果を返し、
  後の `Get` の答え、送った event、watcher も同じ
-/

namespace FornaxStore

namespace MemoryStore

/-- 観測が等しい二つの store：key ごとの今の object、`_MemoryRev`、watcher、送った event、
watcher の番号が同じ。 -/
structure ObsEq (ms₁ ms₂ : MemoryStore) : Prop where
  live : ms₁.live = ms₂.live
  memoryRev : ms₁.memoryRev = ms₂.memoryRev
  watchers : ms₁.watchers = ms₂.watchers
  sent : ms₁.sent = ms₂.sent
  watcherCount : ms₁.watcherCount = ms₂.watcherCount

/-- 二つの store の、同じ呼び出しの結果と後の store：結果が同じで、後の観測が等しい。 -/
def SameOutcome {α : Type} (r₁ r₂ : Except StoreError α × MemoryStore) : Prop :=
  r₁.1 = r₂.1 ∧ ObsEq r₁.2 r₂.2

section

variable {ms₁ ms₂ : MemoryStore} {key : String}

theorem ObsEq.sameOutcome {α : Type} (h : ObsEq ms₁ ms₂) (a : Except StoreError α) :
    SameOutcome (a, ms₁) (a, ms₂) :=
  ⟨rfl, h⟩

theorem SameOutcome.map {α β : Type} {r₁ r₂ : Except StoreError α × MemoryStore}
    (h : SameOutcome r₁ r₂) (f : α → β) : SameOutcome (r₁.1.map f, r₁.2) (r₂.1.map f, r₂.2) :=
  ⟨congrArg (Except.map f) h.1, h.2⟩

/-- 同じ key について、二つの map はどちらも空か、同じ object を持つ slot を指す。 -/
theorem ObsEq.get_cases (h : ObsEq ms₁ ms₂) (key : String) :
    (ms₁.kvs.get (splitKey key) = none ∧ ms₂.kvs.get (splitKey key) = none) ∨
      ∃ cur₁ cur₂, ms₁.kvs.get (splitKey key) = some cur₁ ∧
        ms₂.kvs.get (splitKey key) = some cur₂ ∧ cur₁.obj = cur₂.obj := by
  have hl := congrFun h.live key
  simp only [MemoryStore.live] at hl
  cases h₁ : ms₁.kvs.get (splitKey key) <;> cases h₂ : ms₂.kvs.get (splitKey key) <;>
    simp_all

/-- 観測の等しい store は、`Get` にどの key でも同じ答えを返す。 -/
theorem ObsEq.get (h : ObsEq ms₁ ms₂) (key : String) (opts : GetOptions) :
    ms₁.get key opts = ms₂.get key opts := by
  rcases h.get_cases key with ⟨h₁, h₂⟩ | ⟨cur₁, cur₂, h₁, h₂, hobj⟩
  · simp only [MemoryStore.get, h₁, h₂]
  · simp only [MemoryStore.get, h₁, h₂, hobj]

/-! ## 三つの変更 -/

theorem ObsEq.created (h : ObsEq ms₁ ms₂) (key : String) (obj : Obj) :
    ObsEq (ms₁.created key obj) (ms₂.created key obj) where
  live := by rw [live_created, live_created, h.live, h.memoryRev]
  memoryRev := by simp [MemoryStore.created, h.memoryRev]
  watchers := by simp [MemoryStore.created, MemoryStore.sendEvent, h.watchers, h.memoryRev]
  sent := by simp [MemoryStore.created, h.sent, h.memoryRev]
  watcherCount := by simp [MemoryStore.created, MemoryStore.sendEvent, h.watcherCount]

theorem ObsEq.updated (h : ObsEq ms₁ ms₂) (key : String) {cur₁ cur₂ : ObjWithIndex}
    (oldObj obj : Obj) :
    ObsEq (ms₁.updated key cur₁ oldObj obj) (ms₂.updated key cur₂ oldObj obj) where
  live := by rw [live_updated, live_updated, h.live, h.memoryRev]
  memoryRev := by simp [MemoryStore.updated, h.memoryRev]
  watchers := by simp [MemoryStore.updated, MemoryStore.sendEvent, h.watchers, h.memoryRev]
  sent := by simp [MemoryStore.updated, h.sent, h.memoryRev]
  watcherCount := by simp [MemoryStore.updated, MemoryStore.sendEvent, h.watcherCount]

theorem ObsEq.deleted (h : ObsEq ms₁ ms₂) (key : String) {cur₁ cur₂ : ObjWithIndex}
    (hobj : cur₁.obj = cur₂.obj) : ObsEq (ms₁.deleted key cur₁) (ms₂.deleted key cur₂) where
  live := by rw [live_deleted, live_deleted, h.live]
  memoryRev := by simp [MemoryStore.deleted, h.memoryRev]
  watchers := by simp [MemoryStore.deleted, MemoryStore.sendEvent, h.watchers, h.memoryRev, hobj]
  sent := by simp [MemoryStore.deleted, h.sent, h.memoryRev, hobj]
  watcherCount := by simp [MemoryStore.deleted, MemoryStore.sendEvent, h.watcherCount]

/-! ## 呼び出しごと -/

variable (hi₁ : Inv ms₁) (hi₂ : Inv ms₂)

theorem ObsEq.create (h : ObsEq ms₁ ms₂) (key : String) (obj : Obj) :
    SameOutcome (ms₁.create key obj) (ms₂.create key obj) := by
  rcases h.get_cases key with ⟨h₁, h₂⟩ | ⟨cur₁, cur₂, h₁, h₂, -⟩
  · simp only [MemoryStore.create, h₁, h₂, createObj_eq h₁, createObj_eq h₂, h.memoryRev]
    exact ⟨rfl, h.created key obj⟩
  · simp only [MemoryStore.create, h₁, h₂]
    exact h.sameOutcome _

theorem ObsEq.delete (h : ObsEq ms₁ ms₂) (key : String) (p : Option Preconditions)
    (v : Option (Obj → Except StoreError Unit)) :
    SameOutcome (ms₁.delete key p v) (ms₂.delete key p v) := by
  rw [delete_eq, delete_eq]
  rcases h.get_cases key with ⟨h₁, h₂⟩ | ⟨cur₁, cur₂, h₁, h₂, hobj⟩
  · simp only [h₁, h₂]
    exact h.sameOutcome _
  · simp only [h₁, h₂, hobj]
    cases deleteChecks key p v cur₂.obj with
    | error err => exact h.sameOutcome _
    | ok u => exact ⟨rfl, h.deleted key hobj⟩

include hi₁ hi₂ in
theorem ObsEq.guaranteedUpdate (h : ObsEq ms₁ ms₂) (key : String) (i : Bool)
    (p : Option Preconditions) (f : Obj → Except StoreError UpdateOutcome) :
    SameOutcome (ms₁.guaranteedUpdate key i p f) (ms₂.guaranteedUpdate key i p f) := by
  rcases h.get_cases key with ⟨h₁, h₂⟩ | ⟨cur₁, cur₂, h₁, h₂, hobj⟩
  · simp only [MemoryStore.guaranteedUpdate, h₁, h₂]
    split <;> exact h.sameOutcome _
  · simp only [MemoryStore.guaranteedUpdate, h₁, h₂, hobj]
    cases hc : checkPreconditions p key cur₂.obj >>= fun _ => f cur₂.obj with
    | error err => exact h.sameOutcome _
    | ok u =>
      dsimp only
      rw [updateObj_eq h₁ (hi₁.rv_pos h₁) (hi₁.index_lt h₁),
        updateObj_eq h₂ (hi₂.rv_pos h₂) (hi₂.index_lt h₂), h.memoryRev]
      exact ⟨rfl, h.updated key _ _⟩

include hi₁ hi₂ in
theorem ObsEq.createOrUpdate (h : ObsEq ms₁ ms₂) (key : String) (obj : Obj)
    (m : Option (Obj → Obj → Except StoreError (Obj × Obj))) :
    SameOutcome (ms₁.createOrUpdate key obj m) (ms₂.createOrUpdate key obj m) := by
  rcases h.get_cases key with ⟨h₁, h₂⟩ | ⟨cur₁, cur₂, h₁, h₂, hobj⟩
  · simp only [MemoryStore.createOrUpdate, h₁, h₂, createObj_eq h₁, createObj_eq h₂, h.memoryRev]
    exact ⟨rfl, h.created key obj⟩
  · cases m with
    | none =>
      simp only [MemoryStore.createOrUpdate, h₁, h₂]
      exact h.sameOutcome _
    | some merge =>
      simp only [MemoryStore.createOrUpdate, h₁, h₂, hobj]
      cases merge cur₂.obj obj with
      | error err => exact h.sameOutcome _
      | ok r =>
        dsimp only
        rw [updateObj_eq h₁ (hi₁.rv_pos h₁) (hi₁.index_lt h₁),
          updateObj_eq h₂ (hi₂.rv_pos h₂) (hi₂.index_lt h₂), h.memoryRev]
        exact ⟨rfl, h.updated key _ _⟩

theorem ObsEq.getOrCreate (h : ObsEq ms₁ ms₂) (key : String) (obj : Obj) :
    SameOutcome (ms₁.getOrCreate key obj) (ms₂.getOrCreate key obj) := by
  rcases h.get_cases key with ⟨h₁, h₂⟩ | ⟨cur₁, cur₂, h₁, h₂, hobj⟩
  · simp only [MemoryStore.getOrCreate, h₁, h₂, createObj_eq h₁, createObj_eq h₂, h.memoryRev]
    exact ⟨rfl, h.created key obj⟩
  · simp only [MemoryStore.getOrCreate, h₁, h₂, hobj]
    exact h.sameOutcome _

include hi₁ hi₂ in
theorem ObsEq.createOrReplace (h : ObsEq ms₁ ms₂) (key : String) (obj : Obj) :
    SameOutcome (ms₁.createOrReplace key obj) (ms₂.createOrReplace key obj) := by
  rw [createOrReplace_eq fun _ hk => ⟨hi₁.rv_pos hk, hi₁.index_lt hk⟩,
    createOrReplace_eq fun _ hk => ⟨hi₂.rv_pos hk, hi₂.index_lt hk⟩]
  rcases h.get_cases key with ⟨h₁, h₂⟩ | ⟨cur₁, cur₂, h₁, h₂, hobj⟩
  · simp only [h₁, h₂, h.memoryRev]
    exact ⟨rfl, h.created key obj⟩
  · simp only [h₁, h₂, h.memoryRev, hobj]
    exact ⟨rfl, h.updated key _ obj⟩

include hi₁ hi₂ in
theorem ObsEq.ensureUpdateAndDelete (h : ObsEq ms₁ ms₂) (key : String) (i : Bool)
    (p : Option Preconditions) (u : Obj) :
    SameOutcome (ms₁.ensureUpdateAndDelete key i p u) (ms₂.ensureUpdateAndDelete key i p u) := by
  have hg := h.guaranteedUpdate hi₁ hi₂ key i p (getTryUpdateFunc u)
  unfold MemoryStore.ensureUpdateAndDelete
  rcases hg₁ : ms₁.guaranteedUpdate key i p (getTryUpdateFunc u) with ⟨r, m₁⟩
  rcases hg₂ : ms₂.guaranteedUpdate key i p (getTryUpdateFunc u) with ⟨r₂, m₂⟩
  rw [hg₁, hg₂] at hg
  obtain ⟨rfl, ho⟩ := hg
  cases r with
  | error err => exact ho.sameOutcome _
  | ok output =>
    dsimp only
    split
    · exact ⟨rfl, (ho.delete key p _).2⟩
    · exact ho.sameOutcome _

include hi₁ hi₂ in
/-- 観測の等しい二つの store は、同じ呼び出しに同じ結果を返し、呼び出しの後も観測が等しい。 -/
theorem ObsEq.exec (h : ObsEq ms₁ ms₂) (c : Call) : SameOutcome (ms₁.exec c) (ms₂.exec c) := by
  cases c with
  | create key obj => exact (h.create key obj).map _
  | delete key p v => exact (h.delete key p v).map _
  | guaranteedUpdate key i p f => exact (h.guaranteedUpdate hi₁ hi₂ key i p f).map _
  | createOrUpdate key obj m => exact (h.createOrUpdate hi₁ hi₂ key obj m).map _
  | getOrCreate key obj => exact (h.getOrCreate key obj).map _
  | createOrReplace key obj => exact (h.createOrReplace hi₁ hi₂ key obj).map _
  | ensureUpdateAndDelete key i p u => exact (h.ensureUpdateAndDelete hi₁ hi₂ key i p u).map _

include hi₁ hi₂ in
/-- 観測の等しい二つの store は、どの呼び出しの列にも同じ結果の列を返す。 -/
theorem ObsEq.execAll (h : ObsEq ms₁ ms₂) (cs : List Call) :
    (ms₁.execAll cs).1 = (ms₂.execAll cs).1 ∧ ObsEq (ms₁.run cs) (ms₂.run cs) := by
  induction cs generalizing ms₁ ms₂ with
  | nil => exact ⟨rfl, h⟩
  | cons c cs ih =>
    obtain ⟨hr, ho⟩ := h.exec hi₁ hi₂ c
    obtain ⟨hrs, hos⟩ := ih (hi₁.exec c) (hi₂.exec c) ho
    exact ⟨by simp only [MemoryStore.execAll, hr, hrs], hos⟩

end

/-- 詰めても観測は変わらない：map の値は位置だけが書き直される。 -/
theorem obsEq_shrink (ms : MemoryStore) (c threshold : Nat) : ObsEq (ms.shrink c threshold) ms := by
  unfold MemoryStore.shrink
  split
  · exact ⟨by funext k; simp [live, Option.map_map, Function.comp_def], rfl, rfl, rfl, rfl⟩
  · exact ⟨rfl, rfl, rfl, rfl, rfl⟩

/-- `shrink` は書き込みと `Get` からは見えない：`shrink` を挟んで届くどの状態で詰めても、その後の
どの呼び出しの列も詰めなかったときと同じ結果を返し、その後の `Get` はどの key にも同じ答えを返し、
送った event の列と watcher の列も同じである。 -/
theorem shrink_unobservable {ms : MemoryStore} (h : ShrinkReachable ms) (c threshold : Nat)
    (cs : List Call) :
    ((ms.shrink c threshold).execAll cs).1 = (ms.execAll cs).1 ∧
      (∀ key opts, ((ms.shrink c threshold).run cs).get key opts = (ms.run cs).get key opts) ∧
      ((ms.shrink c threshold).run cs).sent = (ms.run cs).sent ∧
      ((ms.shrink c threshold).run cs).watchers = (ms.run cs).watchers := by
  obtain ⟨hr, ho⟩ := (obsEq_shrink ms c threshold).execAll (h.inv.shrink c threshold) h.inv cs
  exact ⟨hr, ho.get, ho.sent, ho.watchers⟩

/-- `[a, 空]` の store を詰めてから `Create /g/ns/b` と `GuaranteedUpdate /g/ns/a` を行う。 -/
theorem shrink_unobservable_create_update :
    ∃ ms cs, ms = (newMemoryStore 0).run
        [.create "/g/ns/a" Obj.zero, .create "/g/ns/b" Obj.zero, .delete "/g/ns/b" none none] ∧
      cs = [.create "/g/ns/b" Obj.zero, .guaranteedUpdate "/g/ns/a" false none (fun o => .ok ⟨o, none⟩)] ∧
      ShrinkReachable ms ∧
      ((ms.shrink 0 0).execAll cs).1 = (ms.execAll cs).1 ∧
      (∀ key opts, ((ms.shrink 0 0).run cs).get key opts = (ms.run cs).get key opts) ∧
      ((ms.shrink 0 0).run cs).sent = (ms.run cs).sent ∧
      ((ms.shrink 0 0).run cs).watchers = (ms.run cs).watchers :=
  have h := (ShrinkReachable.init 0).run
    [.create "/g/ns/a" Obj.zero, .create "/g/ns/b" Obj.zero, .delete "/g/ns/b" none none]
  ⟨_, _, rfl, rfl, h, shrink_unobservable h 0 0 _⟩

end MemoryStore

end FornaxStore
