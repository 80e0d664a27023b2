import FornaxStore.Properties.Events
import FornaxStore.Spec.Reference

/-!
# store は参照の versioned map を実装する

`Sim ms s`：store の live map が参照の写像と一致し、参照の counter は `_MemoryRev` を超えない。
store の新しい revision は `_MemoryRev` の次の値なので、参照の「新しい revision」になる。

* `sim_exec` — `Sim` のもとで、store の呼び出し一つの結果と後の状態は参照の一手になる
* `Sim.get` — `Sim` のもとで `Get` は同じ答えを返す
* `store_refines` — `NewMemoryStore` からのどの逐次の実行も、同じ結果の列を返す参照の実行があり、
  最後の状態で `Get` の答えが一致する
-/

namespace FornaxStore

open Function

namespace MemoryStore

/-- store が参照の状態 `s` を実装している。 -/
structure Sim (ms : MemoryStore) (s : RefStore) : Prop where
  objs : ms.live = s.objs
  rev : s.rev ≤ ms.memoryRev

/-- 呼び出しの列を順に行い、結果を並べる。 -/
def execAll (ms : MemoryStore) : List Call → List (Except StoreError (Option Obj)) × MemoryStore
  | [] => ([], ms)
  | c :: cs =>
    let r := ms.exec c
    let rs := r.2.execAll cs
    (r.1 :: rs.1, rs.2)

theorem execAll_snd (ms : MemoryStore) (cs : List Call) : (ms.execAll cs).2 = ms.run cs := by
  induction cs generalizing ms with
  | nil => rfl
  | cons c cs ih => exact ih _

section

variable {ms : MemoryStore} {s : RefStore} {key : String} {cur : ObjWithIndex} {obj : Obj}

theorem sim_newMemoryStore (rev : Nat) : Sim (newMemoryStore rev) RefStore.empty :=
  ⟨by funext k; rfl, Nat.zero_le _⟩

theorem Sim.objs_none (hs : Sim ms s) (hk : ms.kvs.get (splitKey key) = none) :
    s.objs key = none := by
  rw [← hs.objs]; simp [live, hk]

theorem Sim.objs_some (hs : Sim ms s) (hk : ms.kvs.get (splitKey key) = some cur) :
    s.objs key = some cur.obj := by
  rw [← hs.objs]; simp [live, hk]

theorem Sim.created (hs : Sim ms s) : Sim (ms.created key obj) (s.put key obj (ms.memoryRev + 1)) :=
  ⟨by rw [live_created, hs.objs]; rfl, le_rfl⟩

theorem Sim.updated (hs : Sim ms s) (oldObj : Obj) :
    Sim (ms.updated key cur oldObj obj) (s.put key obj (ms.memoryRev + 1)) :=
  ⟨by rw [live_updated, hs.objs]; rfl, le_rfl⟩

theorem Sim.deleted (hs : Sim ms s) : Sim (ms.deleted key cur) ⟨update s.objs key none, s.rev⟩ :=
  ⟨by rw [live_deleted, hs.objs], Nat.le_succ_of_le hs.rev⟩

theorem Sim.get (hs : Sim ms s) (key : String) (opts : GetOptions) :
    ms.get key opts = s.get key opts := by
  unfold MemoryStore.get RefStore.get
  rw [← hs.objs, live]
  cases ms.kvs.get (splitKey key) <;> rfl

/-! ## 呼び出しごとの一手 -/

theorem sim_create (hs : Sim ms s) (key : String) (obj : Obj) :
    ∃ s', RefStep s (.create key obj) ((ms.create key obj).1.map some) s' ∧
      Sim (ms.create key obj).2 s' := by
  cases hk : ms.kvs.get (splitKey key) with
  | some cur => simp only [create, hk]; exact ⟨s, .createExists (hs.objs_some hk), hs⟩
  | none =>
    simp only [create, hk, createObj_eq hk]
    exact ⟨_, .create (hs.objs_none hk) (Nat.lt_succ_of_le hs.rev), hs.created⟩

theorem sim_delete (hs : Sim ms s) (key : String) (p : Option Preconditions)
    (v : Option (Obj → Except StoreError Unit)) :
    ∃ s', RefStep s (.delete key p v) ((ms.delete key p v).1.map fun _ => none) s' ∧
      Sim (ms.delete key p v).2 s' := by
  rw [delete_eq]
  cases hk : ms.kvs.get (splitKey key) with
  | none => exact ⟨s, .deleteNotFound (hs.objs_none hk), hs⟩
  | some cur =>
    dsimp only
    cases hc : deleteChecks key p v cur.obj with
    | error err => exact ⟨s, .deleteRejected (hs.objs_some hk) hc, hs⟩
    | ok u => exact ⟨_, .delete (hs.objs_some hk) hc, hs.deleted⟩

theorem sim_guaranteedUpdate (h : Inv ms) (hs : Sim ms s) (key : String) (i : Bool)
    (p : Option Preconditions) (f : Obj → Except StoreError UpdateOutcome) :
    ∃ s', RefStep s (.guaranteedUpdate key i p f) ((ms.guaranteedUpdate key i p f).1.map some) s' ∧
      Sim (ms.guaranteedUpdate key i p f).2 s' := by
  cases hk : ms.kvs.get (splitKey key) with
  | none =>
    cases i
    · simp only [guaranteedUpdate, hk]; exact ⟨s, .updateNotFound (hs.objs_none hk), hs⟩
    · simp only [guaranteedUpdate, hk]; exact ⟨s, .updateIgnored (hs.objs_none hk), hs⟩
  | some cur =>
    simp only [guaranteedUpdate, hk]
    cases hp : checkPreconditions p key cur.obj with
    | error err => exact ⟨s, .updatePreconditionFailed (hs.objs_some hk) hp, hs⟩
    | ok u =>
      cases hf : f cur.obj with
      | error err =>
        exact ⟨s, .updateFailed (hs.objs_some hk) hp hf, by simpa [bind, Except.bind, hf]⟩
      | ok ret =>
        simp only [bind, Except.bind, hf, updateObj_eq hk (h.rv_pos hk) (h.index_lt hk)]
        exact ⟨_, .update (hs.objs_some hk) hp hf (Nat.lt_succ_of_le hs.rev), hs.updated _⟩

theorem sim_createOrUpdate (h : Inv ms) (hs : Sim ms s) (key : String) (obj : Obj)
    (m : Option (Obj → Obj → Except StoreError (Obj × Obj))) :
    ∃ s', RefStep s (.createOrUpdate key obj m) ((ms.createOrUpdate key obj m).1.map some) s' ∧
      Sim (ms.createOrUpdate key obj m).2 s' := by
  cases hk : ms.kvs.get (splitKey key) with
  | none =>
    simp only [createOrUpdate, hk, createObj_eq hk]
    exact ⟨_, .createOrUpdateCreate (hs.objs_none hk) (Nat.lt_succ_of_le hs.rev), hs.created⟩
  | some cur =>
    cases m with
    | none =>
      simp only [createOrUpdate, hk]; exact ⟨s, .createOrUpdateNoMerge (hs.objs_some hk), hs⟩
    | some merge =>
      simp only [createOrUpdate, hk]
      cases hm : merge cur.obj obj with
      | error err => exact ⟨s, .createOrUpdateMergeFailed (hs.objs_some hk) hm, hs⟩
      | ok r =>
        simp only [updateObj_eq hk (h.rv_pos hk) (h.index_lt hk)]
        exact ⟨_, .createOrUpdateMerge (hs.objs_some hk) hm (Nat.lt_succ_of_le hs.rev),
          hs.updated _⟩

theorem sim_getOrCreate (hs : Sim ms s) (key : String) (obj : Obj) :
    ∃ s', RefStep s (.getOrCreate key obj) ((ms.getOrCreate key obj).1.map some) s' ∧
      Sim (ms.getOrCreate key obj).2 s' := by
  cases hk : ms.kvs.get (splitKey key) with
  | none =>
    simp only [getOrCreate, hk, createObj_eq hk]
    exact ⟨_, .getOrCreateCreate (hs.objs_none hk) (Nat.lt_succ_of_le hs.rev), hs.created⟩
  | some cur => simp only [getOrCreate, hk]; exact ⟨s, .getOrCreateGet (hs.objs_some hk), hs⟩

theorem sim_createOrReplace (h : Inv ms) (hs : Sim ms s) (key : String) (obj : Obj) :
    ∃ s', RefStep s (.createOrReplace key obj) ((ms.createOrReplace key obj).1.map some) s' ∧
      Sim (ms.createOrReplace key obj).2 s' := by
  rw [createOrReplace_eq fun _ hk => ⟨h.rv_pos hk, h.index_lt hk⟩]
  refine ⟨_, .createOrReplace (Nat.lt_succ_of_le hs.rev), ?_⟩
  cases ms.kvs.get (splitKey key)
  · exact hs.created
  · exact hs.updated _

theorem sim_ensureUpdateAndDelete (h : Inv ms) (hs : Sim ms s) (key : String) (i : Bool)
    (p : Option Preconditions) (u : Obj) :
    ∃ s', RefStep s (.ensureUpdateAndDelete key i p u)
        ((ms.ensureUpdateAndDelete key i p u).1.map some) s' ∧
      Sim (ms.ensureUpdateAndDelete key i p u).2 s' := by
  obtain ⟨s₁, hstep, hsim⟩ := sim_guaranteedUpdate h hs key i p (getTryUpdateFunc u)
  unfold ensureUpdateAndDelete
  rcases hr : ms.guaranteedUpdate key i p (getTryUpdateFunc u) with ⟨_ | output, ms₁⟩
  · rw [hr] at hstep hsim
    exact ⟨s₁, .ensureFailed hstep, hsim⟩
  · rw [hr] at hstep hsim
    dsimp only
    split
    · next hd =>
      obtain ⟨s₂, hstep₂, hsim₂⟩ := sim_delete hsim key p (some fun _ => .ok ())
      exact ⟨s₂, .ensureDeleted hstep hd hstep₂, hsim₂⟩
    · next hd => exact ⟨s₁, .ensureKept hstep (by simpa using hd), hsim⟩

/-- 呼び出し一つは参照の一手になる。 -/
theorem sim_exec (h : Inv ms) (hs : Sim ms s) (c : Call) :
    ∃ s', RefStep s c (ms.exec c).1 s' ∧ Sim (ms.exec c).2 s' := by
  cases c with
  | create key obj => exact sim_create hs key obj
  | delete key p v => exact sim_delete hs key p v
  | guaranteedUpdate key i p f => exact sim_guaranteedUpdate h hs key i p f
  | createOrUpdate key obj m => exact sim_createOrUpdate h hs key obj m
  | getOrCreate key obj => exact sim_getOrCreate hs key obj
  | createOrReplace key obj => exact sim_createOrReplace h hs key obj
  | ensureUpdateAndDelete key i p u => exact sim_ensureUpdateAndDelete h hs key i p u

theorem sim_run (h : Reachable ms) (hs : Sim ms s) (cs : List Call) :
    ∃ s', RefRun s cs (ms.execAll cs).1 s' ∧ Sim (ms.run cs) s' := by
  induction cs generalizing ms s with
  | nil => exact ⟨s, .nil s, hs⟩
  | cons c cs ih =>
    obtain ⟨s₁, hstep, hsim⟩ := sim_exec (reachable_inv h) hs c
    obtain ⟨s', hrun, hsim'⟩ := ih (h.step (.call ms c)) hsim
    exact ⟨s', .cons hstep hrun, hsim'⟩

end

/-- `NewMemoryStore` からのどの逐次の実行にも、同じ結果の列を返す参照の実行があり、
最後の状態で `Get` はどの key にも同じ答えを返す。 -/
theorem store_refines (rev : Nat) (calls : List Call) :
    ∃ s, RefRun RefStore.empty calls ((newMemoryStore rev).execAll calls).1 s ∧
      ∀ key opts, ((newMemoryStore rev).run calls).get key opts = s.get key opts := by
  obtain ⟨s, hrun, hsim⟩ := sim_run (.init rev) (sim_newMemoryStore rev) calls
  exact ⟨s, hrun, hsim.get⟩

end MemoryStore

end FornaxStore
