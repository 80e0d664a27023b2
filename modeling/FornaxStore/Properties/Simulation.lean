import FornaxStore.Properties.Interleaving
import FornaxStore.Properties.Refinement

/-!
# 一つずつ走らせた goroutine は逐次の呼び出しである

`Agrees ms sh`：goroutine の共有状態 `sh` が、watcher の居ない逐次の store `ms` を表す。watcher が
居なければ `sendEvent` は誰にも送らないので、channel で止まることもない。

* `runs_call` — `Agrees` のもとで、書き込み系の呼び出しの goroutine を一人で走らせると、逐次の
  `exec` と同じ結果を返し、後の状態も `Agrees` で結ばれる
* `serial_schedule` — `NewMemoryStore` から、呼び出しの goroutine を並べた順に一つずつ最後まで
  走らせる schedule があり、結果は逐次の実行の結果の列、最後の共有状態は逐次の最後の状態を表す
* `delete_and_replace_race_update` — 一歩ずつ交互に進めると、`Delete` と `CreateOrReplace` は
  並行する `GuaranteedUpdate` の書いたものを見落とし、`kvList` への書き込みは失われうる
-/

namespace FornaxStore

namespace Interleaved

open Prog

/-- 共有状態 `sh` が、watcher の居ない逐次の store `ms` を表す。 -/
structure Agrees (ms : MemoryStore) (sh : Shared) : Prop where
  kvs : sh.kvs = ms.kvs
  kvList : sh.kvList = ms.kvList
  memoryRev : sh.memoryRev = ms.memoryRev
  sent : sh.sent = ms.sent
  watcherCount : sh.watcherCount = ms.watcherCount
  noWatchers : ms.watchers = []
  watchers : sh.watchers = []

theorem agrees_init (rt : Runtime) (rev : Nat) :
    Agrees (MemoryStore.newMemoryStore rev) (Shared.init rt rev) :=
  ⟨rfl, rfl, rfl, rfl, rfl, rfl, rfl⟩

/-- goroutine `p` を共有状態 `sh` から一人で走らせると、共有状態 `sh'` で `res` を返す。 -/
inductive Runs : Shared → Prog → Shared → Except StoreError (Option Obj) → Prop
  | done (sh : Shared) (res : Except StoreError (Option Obj)) : Runs sh (.done res) sh res
  | step {sh sh' sh'' : Shared} {p p' : Prog} {res : Except StoreError (Option Obj)} :
      p.step sh = some (sh', p') → Runs sh' p' sh'' res → Runs sh p sh'' res

theorem set_eq_self {l : List Prog} {i : Nat} {p : Prog} (hi : l[i]? = some p) : l.set i p = l :=
  List.ext_getElem? fun j => by
    by_cases hij : i = j
    · subst hij; rw [List.getElem?_set_self (List.getElem?_eq_some.mp hi).1, hi]
    · rw [List.getElem?_set_ne hij]

/-- 一人で走り切る goroutine は、schedule に自分の番号を並べれば走り切る。 -/
theorem Runs.runSchedule {sh sh' : Shared} {p : Prog} {res : Except StoreError (Option Obj)}
    (h : Runs sh p sh' res) {threads : List Prog} {i : Nat} (hi : threads[i]? = some p) :
    ∃ n, (⟨sh, threads⟩ : Sys).runSchedule (List.replicate n i) =
      ⟨sh', threads.set i (.done res)⟩ := by
  induction h generalizing threads with
  | done sh res => exact ⟨0, by rw [set_eq_self hi]; rfl⟩
  | step hs _ ih =>
    have hlt := (List.getElem?_eq_some.mp hi).1
    obtain ⟨n, hn⟩ := ih (List.getElem?_set_self hlt)
    refine ⟨n + 1, ?_⟩
    rw [List.replicate_succ, ← List.set_set _ _ threads i]
    exact (congrArg (Sys.runSchedule · _) (Sys.step_of hi hs)).trans hn

theorem step_andThen {p : Prog} {sh sh' : Shared} {p' : Prog} (h : p.step sh = some (sh', p'))
    (f : Except StoreError (Option Obj) → Prog) :
    (p.andThen f).step sh = some (sh', p'.andThen f) := by
  cases p <;> simp only [Prog.step, Prog.andThen] at h ⊢
  case done => cases h
  case put | del => split at h <;> (cases h; simp [*])
  case chanSend | serve =>
    split at h <;> cases h
    simp [*, Prog.andThen]
  all_goals (cases h; rfl)

theorem Runs.andThen {sh sh' : Shared} {p : Prog} {r : Except StoreError (Option Obj)}
    (h : Runs sh p sh' r) {f : Except StoreError (Option Obj) → Prog} {sh'' : Shared}
    {res : Except StoreError (Option Obj)} (hf : Runs sh' (f r) sh'' res) :
    Runs sh (p.andThen f) sh'' res := by
  induction h with
  | done => exact hf
  | step hs _ ih => exact .step (step_andThen hs f) (ih hf)

/-! 原子的な操作ごとに、一歩進んだ後の仕事に帰着させる。 -/

section

variable {sh sh' : Shared} {res : Except StoreError (Option Obj)}

theorem Runs.get {keys : List String} {k : Option ObjWithIndex → Prog} {v : Option ObjWithIndex}
    (hg : sh.kvs.get keys = v) (h : Runs sh (k v) sh' res) : Runs sh (.get keys k) sh' res := by
  subst hg; exact .step rfl h

theorem Runs.reserveRevAndSlot {k : Nat → Nat → Prog}
    (h : Runs sh.reserve (k (sh.memoryRev + 1) sh.kvList.length) sh' res) :
    Runs sh (.reserveRevAndSlot k) sh' res :=
  .step rfl h

theorem Runs.addMemoryRev {k : Nat → Prog}
    (h : Runs { sh with memoryRev := sh.memoryRev + 1 } (k (sh.memoryRev + 1)) sh' res) :
    Runs sh (.addMemoryRev k) sh' res := .step rfl h

theorem Runs.put_error {keys : List String} {objWi : ObjWithIndex} {expectedRV : Nat}
    {k : Except StoreError Unit → Prog} {err : StoreError}
    (hput : sh.kvs.put keys objWi expectedRV = .error err) (h : Runs sh (k (.error err)) sh' res) :
    Runs sh (.put keys objWi expectedRV k) sh' res :=
  .step (by simp only [Prog.step, hput]) h

theorem Runs.put_ok {keys : List String} {objWi : ObjWithIndex} {expectedRV : Nat}
    {k : Except StoreError Unit → Prog} {kvs : MemoryStoreMap}
    (hput : sh.kvs.put keys objWi expectedRV = .ok kvs)
    (h : Runs (sh.recordPut kvs expectedRV) (k (.ok ())) sh' res) :
    Runs sh (.put keys objWi expectedRV k) sh' res :=
  .step (by simp only [Prog.step, hput]) h

theorem Runs.del_error {keys : List String} {k : Except StoreError Unit → Prog} {err : StoreError}
    (hdel : sh.kvs.del keys = .error err) (h : Runs sh (k (.error err)) sh' res) :
    Runs sh (.del keys k) sh' res :=
  .step (by simp only [Prog.step, hdel]) h

theorem Runs.del_ok {keys : List String} {k : Except StoreError Unit → Prog} {kvs : MemoryStoreMap}
    (hdel : sh.kvs.del keys = .ok kvs) (h : Runs { sh with kvs } (k (.ok ())) sh' res) :
    Runs sh (.del keys k) sh' res :=
  .step (by simp only [Prog.step, hdel]) h

/-- 一人で走る goroutine の `kvList[index] = v` は、読んだ array が今の array なので届く。 -/
theorem Runs.setSlot {index : Nat} {v : Option ObjWithIndex} {k : Prog}
    (h : Runs { sh with kvList := sh.kvList.set index v } k sh' res) :
    Runs sh (Interleaved.setSlot index v k) sh' res :=
  .step rfl (.step (by simp [Prog.step, Shared.storeSlot]) h)

end

/-! ## 共有状態の更新 -/

section

variable {ms : MemoryStore} {sh : Shared}

theorem Agrees.withKvs (h : Agrees ms sh) (kvs : MemoryStoreMap) (e : Nat) :
    Agrees { ms with kvs } (sh.recordPut kvs e) :=
  { h with kvs := rfl }

theorem Agrees.del (h : Agrees ms sh) (kvs : MemoryStoreMap) : Agrees { ms with kvs } { sh with kvs } :=
  { h with kvs := rfl }

theorem Agrees.setSlot (h : Agrees ms sh) (index : Nat) (v : Option ObjWithIndex) :
    Agrees (ms.setSlot index v) { sh with kvList := sh.kvList.set index v } :=
  { h with kvList := by rw [h.kvList]; rfl }

theorem Agrees.reserveRevAndSlot (h : Agrees ms sh) : Agrees ms.reserveRevAndSlot.2.2 sh.reserve :=
  { h with
    memoryRev := by rw [Shared.reserve_memoryRev, h.memoryRev]; rfl
    kvList := by rw [Shared.reserve_kvList, h.kvList]; rfl }

theorem Agrees.withMemoryRev (h : Agrees ms sh) (rev : Nat) :
    Agrees { ms with memoryRev := rev } { sh with memoryRev := rev } :=
  { h with memoryRev := rfl }

/-- watcher が居なければ、`sendEvent` は `ms.watchers` を読んで空の列を書き戻すだけである。 -/
theorem Agrees.runs_sendEvent (h : Agrees ms sh) (e : ObjEvent) {k : Prog} {sh'' : Shared}
    {res : Except StoreError (Option Obj)}
    (hk : Runs { sh with sent := sh.sent ++ [e], watchers := [] } k sh'' res) :
    Agrees (ms.sendEvent e) { sh with sent := sh.sent ++ [e], watchers := [] } ∧
      Runs sh (Interleaved.sendEvent e k) sh'' res :=
  ⟨{ h with
      sent := by simp [MemoryStore.sendEvent, h.sent]
      noWatchers := by simp [MemoryStore.sendEvent, h.noWatchers]
      watchers := rfl },
    have hload : (Interleaved.sendEvent e k).step sh =
        some ({ sh with sent := sh.sent ++ [e] }, fanout e k [] []) := by
      simp only [Interleaved.sendEvent, Prog.step, h.watchers]
    .step hload (.step rfl hk)⟩

theorem Agrees.runs_writeCreated (h : Agrees ms sh) (key : String) (keys : List String)
    (objWi : ObjWithIndex) (rev : Nat) :
    ∃ sh', Runs sh (writeCreated key keys objWi rev) sh'
        ((ms.writeCreated key keys objWi rev).1.map some) ∧
      Agrees (ms.writeCreated key keys objWi rev).2 sh' := by
  simp only [MemoryStore.writeCreated]
  cases hput : ms.kvs.put keys objWi 0 with
  | error err =>
    exact ⟨sh, .put_error (h.kvs.symm ▸ hput) (.done _ _), h⟩
  | ok kvs =>
    obtain ⟨h₁, hr⟩ := ((h.withKvs kvs 0).setSlot objWi.index (some objWi)).runs_sendEvent
      ⟨key, some objWi.obj, none, rev, false, true⟩ (.done _ (.ok (some objWi.obj)))
    exact ⟨_, .put_ok (h.kvs.symm ▸ hput) (.setSlot hr), h₁⟩

theorem Agrees.runs_writeUpdated (h : Agrees ms sh) (key : String) (keys : List String)
    (cur : ObjWithIndex) (oldObj : Obj) (objWi : ObjWithIndex) (rev : Nat) :
    ∃ sh', Runs sh (writeUpdated key keys cur oldObj objWi rev) sh'
        ((ms.writeUpdated key keys cur oldObj objWi rev).1.map some) ∧
      Agrees (ms.writeUpdated key keys cur oldObj objWi rev).2 sh' := by
  simp only [MemoryStore.writeUpdated]
  cases hput : ms.kvs.put keys objWi cur.obj.resourceVersion with
  | error err =>
    exact ⟨sh, .put_error (h.kvs.symm ▸ hput) (.done _ _), h⟩
  | ok kvs =>
    obtain ⟨h₁, hr⟩ := (((h.withKvs kvs _).setSlot cur.index none).setSlot objWi.index
      (some objWi)).runs_sendEvent ⟨key, some objWi.obj, some oldObj, rev, false, false⟩
      (.done _ (.ok (some objWi.obj)))
    exact ⟨_, .put_ok (h.kvs.symm ▸ hput) (.setSlot (.setSlot hr)), h₁⟩

theorem Agrees.runs_createObj (h : Agrees ms sh) (key : String) (keys : List String) (obj : Obj) :
    ∃ sh', Runs sh (createObj key keys obj) sh' ((ms.createObj key keys obj).1.map some) ∧
      Agrees (ms.createObj key keys obj).2 sh' := by
  have e : ms.createObj key keys obj = ms.reserveRevAndSlot.2.2.writeCreated key keys
      ⟨key, obj.setResourceVersion (sh.memoryRev + 1), sh.kvList.length⟩ (sh.memoryRev + 1) := by
    rw [h.memoryRev, h.kvList]; rfl
  rw [e]
  obtain ⟨sh', hr, h'⟩ := h.reserveRevAndSlot.runs_writeCreated key keys _ _
  exact ⟨sh', .reserveRevAndSlot hr, h'⟩

theorem Agrees.runs_updateObj (h : Agrees ms sh) (key : String) (keys : List String)
    (cur : ObjWithIndex) (u : UpdateOutcome) :
    ∃ sh', Runs sh (updateObj key keys cur u) sh' ((ms.updateObj key keys cur u).1.map some) ∧
      Agrees (ms.updateObj key keys cur u).2 sh' := by
  have e : ms.updateObj key keys cur u = ms.reserveRevAndSlot.2.2.writeUpdated key keys cur
      (u.oldObj (sh.memoryRev + 1))
      ⟨key, u.written (sh.memoryRev + 1), sh.kvList.length⟩ (sh.memoryRev + 1) := by
    rw [h.memoryRev, h.kvList]; rfl
  rw [e]
  obtain ⟨sh', hr, h'⟩ := h.reserveRevAndSlot.runs_writeUpdated key keys cur _ _ _
  exact ⟨sh', .reserveRevAndSlot hr, h'⟩

theorem Agrees.runs_create (h : Agrees ms sh) (key : String) (obj : Obj) :
    ∃ sh', Runs sh (create key obj) sh' ((ms.create key obj).1.map some) ∧
      Agrees (ms.create key obj).2 sh' := by
  simp only [MemoryStore.create]
  cases hg : ms.kvs.get (splitKey key) with
  | some _ => exact ⟨sh, .get (h.kvs ▸ hg) (.done _ _), h⟩
  | none =>
    obtain ⟨sh', hr, h'⟩ := h.runs_createObj key (splitKey key) obj
    exact ⟨sh', .get (h.kvs ▸ hg) hr, h'⟩

theorem Agrees.runs_delete (h : Agrees ms sh) (key : String) (p : Option Preconditions)
    (v : Option (Obj → Except StoreError Unit)) :
    ∃ sh', Runs sh (delete key p v) sh' ((ms.delete key p v).1.map fun _ => none) ∧
      Agrees (ms.delete key p v).2 sh' := by
  simp only [MemoryStore.delete]
  rw [← h.memoryRev]
  cases hg : ms.kvs.get (splitKey key) with
  | none => exact ⟨sh, .get (h.kvs ▸ hg) (.done _ _), h⟩
  | some cur =>
    dsimp only
    cases hc : MemoryStore.deleteChecks key p v cur.obj with
    | error err => exact ⟨sh, .get (h.kvs ▸ hg) (by simp only [hc]; exact .done _ _), h⟩
    | ok u =>
      have h₁ := h.withMemoryRev (sh.memoryRev + 1)
      dsimp only
      cases hd : ms.kvs.del (splitKey key) with
      | error err =>
        exact ⟨_, .get (h.kvs ▸ hg) (by simp only [hc]; exact .addMemoryRev (.del_error (h.kvs ▸ hd)
          (.done _ _))), h₁⟩
      | ok kvs =>
        obtain ⟨h₂, hr⟩ := ((h₁.del kvs).setSlot cur.index none).runs_sendEvent
          ⟨key, none, some cur.obj, sh.memoryRev + 1, true, false⟩ (.done _ (.ok none))
        exact ⟨_, .get (h.kvs ▸ hg) (by simp only [hc]; exact .addMemoryRev (.del_ok (h.kvs ▸ hd)
          (.setSlot hr))), h₂⟩

theorem Agrees.runs_guaranteedUpdate (h : Agrees ms sh) (key : String) (i : Bool)
    (p : Option Preconditions) (f : Obj → Except StoreError UpdateOutcome) :
    ∃ sh', Runs sh (guaranteedUpdate key i p f) sh' ((ms.guaranteedUpdate key i p f).1.map some) ∧
      Agrees (ms.guaranteedUpdate key i p f).2 sh' := by
  simp only [MemoryStore.guaranteedUpdate]
  cases hg : ms.kvs.get (splitKey key) with
  | none => cases i <;> exact ⟨sh, .get (h.kvs ▸ hg) (.done _ _), h⟩
  | some cur =>
    dsimp only
    cases hc : checkPreconditions p key cur.obj >>= fun _ => f cur.obj with
    | error err => exact ⟨sh, .get (h.kvs ▸ hg) (by simp only [hc]; exact .done _ _), h⟩
    | ok ret =>
      obtain ⟨sh', hr, h'⟩ := h.runs_updateObj key (splitKey key) cur ret
      exact ⟨sh', .get (h.kvs ▸ hg) (by simp only [hc]; exact hr), h'⟩

theorem Agrees.runs_createOrUpdate (h : Agrees ms sh) (key : String) (obj : Obj)
    (m : Option (Obj → Obj → Except StoreError (Obj × Obj))) :
    ∃ sh', Runs sh (createOrUpdate key obj m) sh' ((ms.createOrUpdate key obj m).1.map some) ∧
      Agrees (ms.createOrUpdate key obj m).2 sh' := by
  simp only [MemoryStore.createOrUpdate]
  cases hg : ms.kvs.get (splitKey key) with
  | none =>
    obtain ⟨sh', hr, h'⟩ := h.runs_createObj key (splitKey key) obj
    exact ⟨sh', .get (h.kvs ▸ hg) hr, h'⟩
  | some cur =>
    cases m with
    | none => exact ⟨sh, .get (h.kvs ▸ hg) (.done _ _), h⟩
    | some merge =>
      dsimp only
      cases hc : merge cur.obj obj with
      | error err => exact ⟨sh, .get (h.kvs ▸ hg) (by simp only [hc]; exact .done _ _), h⟩
      | ok pair =>
        obtain ⟨sh', hr, h'⟩ := h.runs_updateObj key (splitKey key) cur ⟨pair.1, some pair.2⟩
        exact ⟨sh', .get (h.kvs ▸ hg) (by simp only [hc]; exact hr), h'⟩

theorem Agrees.runs_getOrCreate (h : Agrees ms sh) (key : String) (obj : Obj) :
    ∃ sh', Runs sh (getOrCreate key obj) sh' ((ms.getOrCreate key obj).1.map some) ∧
      Agrees (ms.getOrCreate key obj).2 sh' := by
  simp only [MemoryStore.getOrCreate]
  cases hg : ms.kvs.get (splitKey key) with
  | none =>
    obtain ⟨sh', hr, h'⟩ := h.runs_createObj key (splitKey key) obj
    exact ⟨sh', .get (h.kvs ▸ hg) hr, h'⟩
  | some cur => exact ⟨sh, .get (h.kvs ▸ hg) (.done _ _), h⟩

theorem Agrees.runs_createOrReplace (h : Agrees ms sh) (key : String) (obj : Obj) :
    ∃ sh', Runs sh (createOrReplace key obj) sh' ((ms.createOrReplace key obj).1.map some) ∧
      Agrees (ms.createOrReplace key obj).2 sh' := by
  have e : ms.createOrReplace key obj =
      match ms.kvs.get (splitKey key) with
      | none => ms.reserveRevAndSlot.2.2.writeCreated key (splitKey key)
          ⟨key, obj.setResourceVersion (sh.memoryRev + 1), sh.kvList.length⟩ (sh.memoryRev + 1)
      | some cur => ms.reserveRevAndSlot.2.2.writeUpdated key (splitKey key) cur cur.obj
          ⟨key, obj.setResourceVersion (sh.memoryRev + 1), sh.kvList.length⟩ (sh.memoryRev + 1) := by
    rw [h.memoryRev, h.kvList]; rfl
  rw [e]
  have hR := h.reserveRevAndSlot
  cases hg : ms.kvs.get (splitKey key) with
  | none =>
    obtain ⟨sh', hr, h'⟩ := hR.runs_writeCreated key (splitKey key) _ _
    exact ⟨sh', .reserveRevAndSlot (.get (h.kvs ▸ hg) hr), h'⟩
  | some cur =>
    obtain ⟨sh', hr, h'⟩ := hR.runs_writeUpdated key (splitKey key) cur _ _ _
    exact ⟨sh', .reserveRevAndSlot (.get (h.kvs ▸ hg) hr), h'⟩

theorem Agrees.runs_ensureUpdateAndDelete (h : Agrees ms sh) (key : String) (i : Bool)
    (p : Option Preconditions) (u : Obj) :
    ∃ sh', Runs sh (ensureUpdateAndDelete key i p u) sh'
        ((ms.ensureUpdateAndDelete key i p u).1.map some) ∧
      Agrees (ms.ensureUpdateAndDelete key i p u).2 sh' := by
  obtain ⟨sh₁, hr₁, h₁⟩ := h.runs_guaranteedUpdate key i p (MemoryStore.getTryUpdateFunc u)
  simp only [MemoryStore.ensureUpdateAndDelete]
  revert hr₁ h₁
  cases ms.guaranteedUpdate key i p (MemoryStore.getTryUpdateFunc u) with
  | mk r ms₁ =>
    intro hr₁ h₁
    cases r with
    | error err => exact ⟨sh₁, hr₁.andThen (.done _ _), h₁⟩
    | ok output =>
      by_cases hd : shouldDeleteSpec output
      · obtain ⟨sh₂, hr₂, h₂⟩ := h₁.runs_delete key p (some fun _ => .ok ())
        exact ⟨sh₂,
          hr₁.andThen (by simp only [Except.map, hd, if_true]; exact hr₂.andThen (.done _ _)),
          by simpa [hd] using h₂⟩
      · exact ⟨sh₁, hr₁.andThen (by simp only [Except.map, hd]; exact .done _ _),
          by simpa [hd] using h₁⟩

/-- `Agrees` のもとで、書き込み系の呼び出しの goroutine を一人で走らせると、逐次の `exec` と同じ
結果を返し、後の共有状態は逐次の後の store を表す。 -/
theorem Agrees.runs_call (h : Agrees ms sh) :
    ∀ c : Call, ∃ sh', Runs sh (call c) sh' (ms.exec c).1 ∧ Agrees (ms.exec c).2 sh'
  | .create key obj => h.runs_create key obj
  | .delete key p v => h.runs_delete key p v
  | .guaranteedUpdate key i p f => h.runs_guaranteedUpdate key i p f
  | .createOrUpdate key obj m => h.runs_createOrUpdate key obj m
  | .getOrCreate key obj => h.runs_getOrCreate key obj
  | .createOrReplace key obj => h.runs_createOrReplace key obj
  | .ensureUpdateAndDelete key i p u => h.runs_ensureUpdateAndDelete key i p u

end

/-! ## 逐次の schedule -/

theorem Sys.runSchedule_append (s : Sys) (σ₁ σ₂ : List Nat) :
    s.runSchedule (σ₁ ++ σ₂) = (s.runSchedule σ₁).runSchedule σ₂ :=
  List.foldl_append _ _ _ _

theorem runSchedule_serial_from (cs : List Call) :
    ∀ (pre : List Prog) (ms : MemoryStore) (sh : Shared), Agrees ms sh →
      ∃ ns sh', (⟨sh, pre ++ cs.map call⟩ : Sys).runSchedule (Sys.serialSchedule ns pre.length) =
          ⟨sh', pre ++ (ms.execAll cs).1.map .done⟩ ∧ Agrees (ms.run cs) sh' := by
  induction cs with
  | nil =>
    exact fun pre ms sh h =>
      ⟨[], sh, by simp [Sys.serialSchedule, Sys.runSchedule, MemoryStore.execAll], h⟩
  | cons c cs ih =>
    intro pre ms sh h
    obtain ⟨sh₁, hr, h₁⟩ := h.runs_call c
    have hi : (pre ++ call c :: cs.map call)[pre.length]? = some (call c) := by
      rw [List.getElem?_append_right (le_refl _), Nat.sub_self, List.getElem?_cons_zero]
    obtain ⟨n, hn⟩ := hr.runSchedule hi
    obtain ⟨ns, sh', hs, h'⟩ := ih (pre ++ [.done (ms.exec c).1]) (ms.exec c).2 sh₁ h₁
    refine ⟨n :: ns, sh', ?_, h'⟩
    have hset : (pre ++ call c :: cs.map call).set pre.length (.done (ms.exec c).1) =
        (pre ++ [.done (ms.exec c).1]) ++ cs.map call := by simp
    rw [Sys.serialSchedule, Sys.runSchedule_append, List.map_cons, hn, hset]
    simpa [MemoryStore.execAll] using hs

/-- **一つずつ走らせれば逐次の実行である。** `NewMemoryStore` から書き込み系の呼び出しを
goroutine として並べると、どの実行時の環境でも、並べた順に一つずつ最後まで走らせる schedule が
ある。そこで goroutine が返す結果は逐次の実行の結果の列で、最後の共有状態は逐次の最後の store を
表す。 -/
theorem serial_schedule (rt : Runtime) (rev : Nat) (calls : List Call) :
    ∃ ns sh, (Sys.init rt rev (calls.map call)).runSchedule (Sys.serialSchedule ns 0) =
        ⟨sh, ((MemoryStore.newMemoryStore rev).execAll calls).1.map .done⟩ ∧
      Agrees ((MemoryStore.newMemoryStore rev).run calls) sh := by
  simpa using runSchedule_serial_from calls [] _ _ (agrees_init rt rev)

set_option maxRecDepth 4096 in
/-- `Create` の後、`Delete` が `/g/ns/k` を読み、その間に今の object の複製を返す
`GuaranteedUpdate` が書き終える。`Delete` は `kvs.get` で読んだ object を `kvs.del` の時に今の
revision と比べないので、更新された object を消し、`Deleted` の `oldObj` は更新前の object で、
更新後の object の slot は空けられずに残る。`CreateOrReplace` は revision を `kvs.get` より先に
取るので、その間に `GuaranteedUpdate` が大きい revision で書き終えると、小さい revision の object で
上書きする。`GuaranteedUpdate` が新しい slot を埋める `kvList[index] = objWi` の header を読んだ後
に、古い object を読んでいた `CreateOrUpdate` の `reserveRevAndSlot` が backing array を取り直すと、
その書き込みは古い array に落ちる。`CreateOrUpdate` の `put` は `Conflict` で終わり、map の object は
どの slot にも無い。 -/
theorem delete_and_replace_race_update :
    (∃ s, s = (Sys.init (Runtime.doubling 1) (2 ^ 62 + 1700000000000000)
        [call (.create "/g/ns/k" Obj.zero), call (.delete "/g/ns/k" none none),
          call (.guaranteedUpdate "/g/ns/k" false none fun o => .ok ⟨o, some o⟩)]).runSchedule
        [0, 0, 0, 0, 0, 0, 0, 1, 2, 2, 2, 2, 2, 2, 2, 2, 2, 1, 1, 1, 1, 1, 1] ∧
      s.results = [some (.ok (some (Obj.zero.setResourceVersion (2 ^ 62 + 1700000000000001)))),
        some (.ok none),
        some (.ok (some (Obj.zero.setResourceVersion (2 ^ 62 + 1700000000000002))))] ∧
      s.shared.kvs.get (splitKey "/g/ns/k") = none ∧
      s.shared.kvList =
        [none, some ⟨"/g/ns/k", Obj.zero.setResourceVersion (2 ^ 62 + 1700000000000002), 1⟩] ∧
      s.shared.sent.map (fun e => (e.rev, e.oldObj)) =
        [(2 ^ 62 + 1700000000000001, none),
         (2 ^ 62 + 1700000000000002,
           some (Obj.zero.setResourceVersion (2 ^ 62 + 1700000000000001))),
         (2 ^ 62 + 1700000000000003,
           some (Obj.zero.setResourceVersion (2 ^ 62 + 1700000000000001)))]) ∧
    (∃ s, s = (Sys.init (Runtime.doubling 1) (2 ^ 62 + 1700000000000000)
        [call (.create "/g/ns/k" Obj.zero), call (.createOrReplace "/g/ns/k" Obj.zero),
          call (.guaranteedUpdate "/g/ns/k" false none fun o => .ok ⟨o, some o⟩)]).runSchedule
        [0, 0, 0, 0, 0, 0, 0, 1, 2, 2, 2, 2, 2, 2, 2, 2, 2, 1, 1, 1, 1, 1, 1, 1, 1] ∧
      s.results = [some (.ok (some (Obj.zero.setResourceVersion (2 ^ 62 + 1700000000000001)))),
        some (.ok (some (Obj.zero.setResourceVersion (2 ^ 62 + 1700000000000002)))),
        some (.ok (some (Obj.zero.setResourceVersion (2 ^ 62 + 1700000000000003))))] ∧
      s.shared.kvs.get (splitKey "/g/ns/k") =
        some ⟨"/g/ns/k", Obj.zero.setResourceVersion (2 ^ 62 + 1700000000000002), 1⟩ ∧
      s.shared.sent.map (fun e => (e.rev, e.oldObj.map (·.resourceVersion))) =
        [(2 ^ 62 + 1700000000000001, none),
         (2 ^ 62 + 1700000000000003, some (2 ^ 62 + 1700000000000001)),
         (2 ^ 62 + 1700000000000002, some (2 ^ 62 + 1700000000000003))]) ∧
    ∃ s, s = (Sys.init (Runtime.doubling 1) (2 ^ 62 + 1700000000000000)
        [call (.create "/g/ns/k" Obj.zero),
          call (.guaranteedUpdate "/g/ns/k" false none fun o => .ok ⟨o, some o⟩),
          call (.createOrUpdate "/g/ns/k" Obj.zero (some fun c n => .ok (c, n)))]).runSchedule
        [0, 0, 0, 0, 0, 0, 0, 2, 1, 1, 1, 1, 1, 1, 2, 1, 1, 1, 2] ∧
      s.results = [some (.ok (some (Obj.zero.setResourceVersion (2 ^ 62 + 1700000000000001)))),
        some (.ok (some (Obj.zero.setResourceVersion (2 ^ 62 + 1700000000000002)))),
        some (.error (.conflict (splitKey "/g/ns/k") (2 ^ 62 + 1700000000000001)))] ∧
      s.shared.kvs.get (splitKey "/g/ns/k") =
        some ⟨"/g/ns/k", Obj.zero.setResourceVersion (2 ^ 62 + 1700000000000002), 1⟩ ∧
      s.shared.kvList = [none, none, none] :=
  ⟨⟨_, rfl, by decide⟩, ⟨_, rfl, by decide⟩, _, rfl, by decide⟩

end Interleaved

end FornaxStore
