import FornaxStore.Properties.Revisions

/-!
# 交互実行の下で map の object はどれも知らされる

書き込み系の呼び出しは、`kvs.put` が通ると、返る前にその object を運ぶ `Created` か `Updated` を
`sendEvent` に渡す。書き込み系の呼び出しと `watch` をどう交互に進めても、goroutine がどれも
返った後の map の object は、どれもそれを運ぶ event として `sendEvent` に渡っている
（`runSchedule_kvs_announced`）。どの呼び出しも watcher を止めないので、最初に登録した watcher は
それらの event を全部受けている（`runSchedule_watch_receives_kvs`）。channel が満ちて送れない
goroutine は返らないので、「どれも返った」はそういう実行を含まない。event は revision の順に
届くとは限らない（`fanout_reorders_and_drops`）ので、watcher が key ごとに最後に受けた event が
map の object とは限らないが、map の object を運ぶ event は落ちない。

証明は goroutine ごとに、`put` が通ったがまだ知らせていない object `pend` を ghost として置く
（`OwnAnnounce`）。map の object は、知らされたか、どれかの goroutine の `pend` にある
（`AnnounceInv`）。返った goroutine の `pend` は空である。

* `OwnAnnounce.step` — 一歩は `AnnounceInv` を保つ
* `ownAnnounce_call` — 書き込み系の呼び出しは、`put` した object を返る前に知らせる
* `runSchedule_kvs_announced` — goroutine がどれも返った後、map の object はどれも知らされている
* `runSchedule_watch_receives_kvs` — 最初に登録した watcher は、map の object を運ぶ event を全部受ける
-/

namespace FornaxStore

namespace Interleaved

open Prog

/-- event `e` が map の object `v` を知らせる：`v` の key の、削除でない event で、`v` の object と
その revision を運ぶ。 -/
def announces (e : ObjEvent) (v : ObjWithIndex) : Bool :=
  e.key == v.key && e.obj == some v.obj && e.rev == v.obj.resourceVersion && !e.isDeleted

/-! ## goroutine の ghost -/

/-- goroutine の仕事は、`put` が通った object を、返る前にそれを知らせる event にする。`pend` は
`put` が通ったがまだ知らせていない object。watcher を止めることはない。 -/
inductive OwnAnnounce : List ObjWithIndex → Prog → Prop
  | done (res : Except StoreError (Option Obj)) : OwnAnnounce [] (done res)
  | get (pend : List ObjWithIndex) (keys : List String) (k : Option ObjWithIndex → Prog) :
      (∀ v, OwnAnnounce pend (k v)) → OwnAnnounce pend (get keys k)
  | reserveRevAndSlot (pend : List ObjWithIndex) (k : Nat → Nat → Prog) :
      (∀ rev index, OwnAnnounce pend (k rev index)) → OwnAnnounce pend (reserveRevAndSlot k)
  | addMemoryRev (pend : List ObjWithIndex) (k : Nat → Prog) :
      (∀ rev, OwnAnnounce pend (k rev)) → OwnAnnounce pend (addMemoryRev k)
  | put (pend : List ObjWithIndex) (keys : List String) (objWi : ObjWithIndex) (expectedRV : Nat)
      (k : Except StoreError Unit → Prog) :
      (∀ err, OwnAnnounce pend (k (.error err))) → OwnAnnounce (objWi :: pend) (k (.ok ())) →
        OwnAnnounce pend (put keys objWi expectedRV k)
  | del (pend : List ObjWithIndex) (keys : List String) (k : Except StoreError Unit → Prog) :
      (∀ r, OwnAnnounce pend (k r)) → OwnAnnounce pend (del keys k)
  | loadKvList (pend : List ObjWithIndex) (k : Nat → Prog) :
      (∀ a, OwnAnnounce pend (k a)) → OwnAnnounce pend (loadKvList k)
  | storeSlot (pend : List ObjWithIndex) (array index : Nat) (v : Option ObjWithIndex) (k : Prog) :
      OwnAnnounce pend k → OwnAnnounce pend (storeSlot array index v k)
  | loadWatchers (pend : List ObjWithIndex) (event : ObjEvent) (k : List Nat → Prog) :
      (∀ ws, OwnAnnounce (pend.filter fun v => !announces event v) (k ws)) →
        OwnAnnounce pend (loadWatchers event k)
  | loadStopped (pend : List ObjWithIndex) (id : Nat) (k : Bool → Prog) :
      (∀ b, OwnAnnounce pend (k b)) → OwnAnnounce pend (loadStopped id k)
  | chanSend (pend : List ObjWithIndex) (id : Nat) (event : ObjEvent) (k : Prog) :
      OwnAnnounce pend k → OwnAnnounce pend (chanSend id event k)
  | storeWatchers (pend : List ObjWithIndex) (watchers : List Nat) (k : Prog) :
      OwnAnnounce pend k → OwnAnnounce pend (storeWatchers watchers k)
  | newWatcher (pend : List ObjWithIndex) (k : Nat → List Nat → Prog) :
      (∀ id ws, OwnAnnounce pend (k id ws)) → OwnAnnounce pend (newWatcher k)
  | serve (id : Nat) (res : Except StoreError (Option Obj)) : OwnAnnounce [] (serve id res)

namespace OwnAnnounce

variable {pend : List ObjWithIndex}

theorem andThen {p : Prog} (hp : OwnAnnounce pend p) {f : Except StoreError (Option Obj) → Prog}
    (hf : ∀ r, OwnAnnounce [] (f r)) : OwnAnnounce pend (p.andThen f) := by
  induction hp with
  | done res => exact hf res
  | get _ _ _ _ ih => exact .get _ _ _ ih
  | reserveRevAndSlot _ _ _ ih => exact .reserveRevAndSlot _ _ ih
  | addMemoryRev _ _ _ ih => exact .addMemoryRev _ _ ih
  | put _ _ _ _ _ _ _ ihe iho => exact .put _ _ _ _ _ ihe iho
  | del _ _ _ _ ih => exact .del _ _ _ ih
  | loadKvList _ _ _ ih => exact .loadKvList _ _ ih
  | storeSlot _ _ _ _ _ _ ih => exact .storeSlot _ _ _ _ _ ih
  | loadWatchers _ _ _ _ ih => exact .loadWatchers _ _ _ ih
  | loadStopped _ _ _ _ ih => exact .loadStopped _ _ _ ih
  | chanSend _ _ _ _ _ ih => exact .chanSend _ _ _ _ ih
  | storeWatchers _ _ _ _ ih => exact .storeWatchers _ _ _ ih
  | newWatcher _ _ _ ih => exact .newWatcher _ _ fun id ws => ih id ws
  | serve => exact .serve _ _

theorem setSlot {k : Prog} (hk : OwnAnnounce pend k) (index : Nat) (v : Option ObjWithIndex) :
    OwnAnnounce pend (Interleaved.setSlot index v k) :=
  .loadKvList _ _ fun _ => .storeSlot _ _ _ _ _ hk

theorem fanout {k : Prog} (hk : OwnAnnounce pend k) (event : ObjEvent) :
    ∀ watchers rest, OwnAnnounce pend (Interleaved.fanout event k watchers rest)
  | _, [] => .storeWatchers _ _ _ hk
  | _, _ :: rest => .loadStopped _ _ _ fun
    | true => fanout hk event _ rest
    | false => .chanSend _ _ _ _ (fanout hk event _ rest)

/-- `sendEvent` は、event が知らせる object を `pend` から除く。 -/
theorem sendEvent {event : ObjEvent} {k : Prog}
    (hk : OwnAnnounce (pend.filter fun v => !announces event v) k) :
    OwnAnnounce pend (Interleaved.sendEvent event k) :=
  .loadWatchers _ _ _ fun _ => hk.fanout event [] _

/-- 返った goroutine には、知らせていない object が残っていない。 -/
theorem pend_eq_nil {p : Prog} (hp : OwnAnnounce pend p) (hr : p.result.isSome) : pend = [] := by
  cases hp with
  | done | serve => rfl
  | _ => simp [Prog.result] at hr

end OwnAnnounce

/-! ## 書き込み系の呼び出し -/

section

variable (key : String) (keys : List String)

/-- 作成と更新の書き込みは、`put` が通った object を運ぶ event を送ってから返る。 -/
theorem ownAnnounce_writeCreated (objWi : ObjWithIndex) (rev : Nat) (hkey : objWi.key = key)
    (hrev : objWi.obj.resourceVersion = rev) : OwnAnnounce [] (writeCreated key keys objWi rev) :=
  .put _ _ _ _ _ (fun _ => .done _) ((OwnAnnounce.sendEvent (by
    simpa [announces, hkey, hrev] using OwnAnnounce.done (.ok (some objWi.obj)))).setSlot _ _)

theorem ownAnnounce_writeUpdated (cur : ObjWithIndex) (oldObj : Obj) (objWi : ObjWithIndex)
    (rev : Nat) (hkey : objWi.key = key) (hrev : objWi.obj.resourceVersion = rev) :
    OwnAnnounce [] (writeUpdated key keys cur oldObj objWi rev) :=
  .put _ _ _ _ _ (fun _ => .done _) (((OwnAnnounce.sendEvent (by
    simpa [announces, hkey, hrev] using OwnAnnounce.done (.ok (some objWi.obj)))).setSlot _ _).setSlot
      _ _)

theorem ownAnnounce_createObj (obj : Obj) : OwnAnnounce [] (createObj key keys obj) :=
  .reserveRevAndSlot _ _ fun _ _ => ownAnnounce_writeCreated key keys _ _ rfl rfl

theorem ownAnnounce_updateObj (cur : ObjWithIndex) (u : UpdateOutcome) :
    OwnAnnounce [] (updateObj key keys cur u) :=
  .reserveRevAndSlot _ _ fun _ _ => ownAnnounce_writeUpdated key keys _ _ _ _ rfl rfl

theorem ownAnnounce_delete (p : Option Preconditions) (v : Option (Obj → Except StoreError Unit)) :
    OwnAnnounce [] (delete key p v) := by
  refine .get _ _ _ fun
    | none => .done _
    | some cur => ?_
  dsimp only
  split
  · exact .done _
  · exact .addMemoryRev _ _ fun _ => .del _ _ _ fun
      | .error _ => .done _
      | .ok () => (@OwnAnnounce.sendEvent [] _ _ (.done _)).setSlot _ _

theorem ownAnnounce_guaranteedUpdate (i : Bool) (p : Option Preconditions)
    (f : Obj → Except StoreError UpdateOutcome) : OwnAnnounce [] (guaranteedUpdate key i p f) := by
  refine .get _ _ _ fun
    | none => .done _
    | some cur => ?_
  dsimp only
  split
  · exact .done _
  · exact ownAnnounce_updateObj _ _ _ _

end

/-- 書き込み系の呼び出しは、`put` が通った object を、返る前に知らせる。 -/
theorem ownAnnounce_call : ∀ c : Call, OwnAnnounce [] (call c)
  | .create key obj => .get _ _ _ fun
      | some _ => .done _
      | none => ownAnnounce_createObj ..
  | .delete key p v => ownAnnounce_delete key p v
  | .guaranteedUpdate key i p f => ownAnnounce_guaranteedUpdate key i p f
  | .createOrUpdate key obj m => by
    refine .get _ _ _ fun
      | none => ownAnnounce_createObj ..
      | some cur => ?_
    dsimp only
    split
    · exact .done _
    · split
      · exact .done _
      · exact ownAnnounce_updateObj ..
  | .getOrCreate key obj => .get _ _ _ fun
      | none => ownAnnounce_createObj ..
      | some _ => .done _
  | .createOrReplace key obj => .reserveRevAndSlot _ _ fun _ _ => .get _ _ _ fun
      | none => ownAnnounce_writeCreated _ _ _ _ rfl rfl
      | some cur => ownAnnounce_writeUpdated _ _ _ _ _ _ rfl rfl
  | .ensureUpdateAndDelete key i p obj =>
    (ownAnnounce_guaranteedUpdate ..).andThen fun
      | .ok (some output) => by
        dsimp only
        split
        · exact (ownAnnounce_delete ..).andThen fun _ => .done _
        · exact .done _
      | .ok none => .done _
      | .error _ => .done _

theorem ownAnnounce_watch : ∀ r : Except StoreError Unit, OwnAnnounce [] (watch r)
  | .ok () => .newWatcher _ _ fun _ _ => .storeWatchers _ _ _ (.serve _ _)
  | .error _ => .newWatcher _ _ fun _ _ => .storeWatchers _ _ _ (.done _)

/-! ## 共有状態と ghost -/

/-- map の object は、知らされたか、どれかの goroutine の `pend` にある。watcher はどれも止まって
いない。 -/
structure AnnounceInv (sh : Shared) (P : List ObjWithIndex) : Prop where
  kvs : ∀ keys v, sh.kvs.get keys = some v → (∃ e ∈ sh.sent, announces e v = true) ∨ v ∈ P
  unstopped : ∀ w, sh.stopped w = false

namespace AnnounceInv

variable {sh : Shared} {P : List ObjWithIndex}

theorem perm (h : AnnounceInv sh P) {P' : List ObjWithIndex} (hP : P.Perm P') :
    AnnounceInv sh P' :=
  ⟨fun keys v hv => (h.kvs keys v hv).imp_right fun hv => hP.subset hv, h.unstopped⟩

/-- map と送った event と止まった watcher を変えない一歩。 -/
theorem congr (h : AnnounceInv sh P) {sh' : Shared} (hk : sh'.kvs = sh.kvs)
    (hs : sh'.sent = sh.sent) (hst : sh'.stopped = sh.stopped) : AnnounceInv sh' P :=
  ⟨hk ▸ hs ▸ h.kvs, hst ▸ h.unstopped⟩

end AnnounceInv

theorem OwnAnnounce.step {pend : List ObjWithIndex} {p : Prog} (hp : OwnAnnounce pend p)
    {O : List ObjWithIndex} {sh sh' : Shared} {p' : Prog} (hs : AnnounceInv sh (pend ++ O))
    (h : p.step sh = some (sh', p')) :
    ∃ pend', OwnAnnounce pend' p' ∧ AnnounceInv sh' (pend' ++ O) := by
  have keep : AnnounceInv sh' (pend ++ O) → OwnAnnounce pend p' →
      ∃ pend', OwnAnnounce pend' p' ∧ AnnounceInv sh' (pend' ++ O) :=
    fun hs' hp' => ⟨pend, hp', hs'⟩
  cases hp with
  | done => cases h
  | get _ _ _ hk => cases h; exact keep hs (hk _)
  | reserveRevAndSlot _ _ hk => cases h; exact keep (hs.congr rfl rfl rfl) (hk _ _)
  | addMemoryRev _ _ hk => cases h; exact keep (hs.congr rfl rfl rfl) (hk _)
  | put _ keys objWi _ _ hke hko =>
    rcases step_put_inv h with ⟨_, -, rfl, rfl⟩ | ⟨kvs, hput, rfl, rfl⟩
    · exact keep hs (hke _)
    obtain ⟨-, rfl⟩ := MemoryStoreMap.put_eq_ok.mp hput
    -- `put` した object は自分の `pend` に入る
    refine ⟨_, hko, fun keys' v hv => ?_, hs.unstopped⟩
    simp only [Shared.recordPut_kvs, MemoryStoreMap.get_set] at hv
    split at hv
    · cases hv; exact .inr (List.mem_cons_self _ _)
    · exact (hs.kvs keys' v hv).imp_right (List.mem_cons_of_mem _)
  | del _ keys _ hk =>
    rcases step_del_inv h with ⟨_, -, rfl, rfl⟩ | ⟨kvs, hdel, rfl, rfl⟩
    · exact keep hs (hk _)
    obtain ⟨-, rfl⟩ := MemoryStoreMap.del_eq_ok.mp hdel
    refine keep ⟨fun keys' v hv => ?_, hs.unstopped⟩ (hk _)
    simp only [MemoryStoreMap.get_set] at hv
    split at hv
    · cases hv
    · exact hs.kvs keys' v hv
  | storeSlot _ _ _ _ _ hk => cases h; exact keep (hs.congr (by simp) (by simp) (by simp)) hk
  | loadWatchers _ event _ hk =>
    cases h
    refine ⟨_, hk _, fun keys v hv => ?_, hs.unstopped⟩
    -- event が知らせた object は `sent` に移り、知らせなかったものは `pend` に残る
    rcases hs.kvs keys v hv with ⟨e, he, hann⟩ | hv'
    · exact .inl ⟨e, List.mem_append_left _ he, hann⟩
    · rcases List.mem_append.mp hv' with hv' | hv'
      · cases hann : announces event v
        · exact .inr (List.mem_append_left _ (List.mem_filter.mpr ⟨hv', by simp [hann]⟩))
        · exact .inl ⟨event, List.mem_append_right _ (List.mem_singleton_self _), hann⟩
      · exact .inr (List.mem_append_right _ hv')
  | chanSend _ _ _ _ hk =>
    obtain ⟨-, rfl, rfl⟩ := step_chanSend_inv h; exact keep (hs.congr rfl rfl rfl) hk
  | serve =>
    obtain ⟨-, -, rfl, rfl⟩ := step_serve_inv h; exact keep (hs.congr rfl rfl rfl) (.serve _ _)
  | loadKvList _ _ hk | loadStopped _ _ _ hk | newWatcher _ _ hk =>
    cases h; exact keep (hs.congr rfl rfl rfl) (hk ..)
  | storeWatchers _ _ _ hk => cases h; exact keep (hs.congr rfl rfl rfl) hk

/-! ## 交互実行の不変条件 -/

/-- goroutine ごとに ghost があり、どの goroutine の仕事も自分の ghost に従い、その和と共有状態が
`AnnounceInv` を満たす。 -/
def AnnounceSysInv (s : Sys) : Prop :=
  ∃ ts : List (List ObjWithIndex × Prog), ts.map Prod.snd = s.threads ∧
    (∀ x ∈ ts, OwnAnnounce x.1 x.2) ∧ AnnounceInv s.shared (ts.map Prod.fst).flatten

theorem announceSysInv_init (rt : Runtime) (rev : Nat) {threads : List Prog}
    (h : ∀ p ∈ threads, OwnAnnounce [] p) : AnnounceSysInv (Sys.init rt rev threads) := by
  refine ⟨threads.map fun p => ([], p), by simp [Sys.init], by simpa using h, ?_, fun _ => rfl⟩
  intro keys v hv
  simp [Sys.init, Shared.init, MemoryStoreMap.get, MemoryStoreMap.empty] at hv

theorem AnnounceSysInv.step {s : Sys} (h : AnnounceSysInv s) (i : Nat) :
    AnnounceSysInv (s.step i) := by
  obtain ⟨ts, hts, hown, hinv⟩ := h
  rcases s.step_eq i with he | ⟨p, sh', p', hp, hstep, he⟩ <;> rw [he]
  · exact ⟨ts, hts, hown, hinv⟩
  obtain ⟨⟨pend, q⟩, hx, rfl⟩ : ∃ x, ts[i]? = some x ∧ x.2 = p := by
    rw [← hts, List.getElem?_map] at hp
    simpa using hp
  have hi : (ts.map Prod.fst)[i]? = some pend := by simp [List.getElem?_map, hx]
  obtain ⟨pend', hq', hinv'⟩ := (hown _ (List.getElem?_mem hx)).step
    (hinv.perm (flatten_set_perm _ i _ hi []).2) hstep
  refine ⟨ts.set i (pend', p'), by rw [List.map_set, hts], forall_mem_set hown hq', ?_⟩
  simp only [List.map_set]
  exact hinv'.perm (flatten_set_perm _ i _ hi pend').1.symm

theorem AnnounceSysInv.runSchedule {s : Sys} (h : AnnounceSysInv s) (σ : List Nat) :
    AnnounceSysInv (s.runSchedule σ) := by
  induction σ generalizing s with
  | nil => exact h
  | cons i σ ih => exact ih (h.step i)

theorem announceSysInv_calls (rt : Runtime) (rev : Nat) {threads : List Prog}
    (hthreads : ∀ p ∈ threads, (∃ c, p = call c) ∨ ∃ r, p = watch r) :
    AnnounceSysInv (Sys.init rt rev threads) :=
  announceSysInv_init rt rev fun p hp => by
    rcases hthreads p hp with ⟨c, rfl⟩ | ⟨r, rfl⟩
    · exact ownAnnounce_call c
    · exact ownAnnounce_watch r

/-- goroutine がどれも返った系では、map の object はどれも知らされている。 -/
theorem AnnounceSysInv.announced_of_returned {s : Sys} (h : AnnounceSysInv s)
    (hdone : ∀ p ∈ s.threads, p.result.isSome) :
    ∀ keys v, s.shared.kvs.get keys = some v → ∃ e ∈ s.shared.sent, announces e v = true := by
  obtain ⟨ts, hts, hown, hinv⟩ := h
  -- 返った goroutine には知らせていない object が残っていない
  have hpend : (ts.map Prod.fst).flatten = [] := by
    refine List.flatten_eq_nil_iff.mpr fun l hl => ?_
    obtain ⟨x, hx, rfl⟩ := List.mem_map.mp hl
    exact (hown x hx).pend_eq_nil (hdone _ (hts ▸ List.mem_map_of_mem _ hx))
  intro keys v hv
  simpa [hpend] using hinv.kvs keys v hv

/-! ## 主な結果 -/

/-- 書き込み系の呼び出しと `watch` をどの実行時の環境でどう交互に進めても、goroutine がどれも
返った後の map の object は、どれもそれを運ぶ削除でない event として `sendEvent` に渡っている。 -/
theorem runSchedule_kvs_announced (rt : Runtime) (rev : Nat) {threads : List Prog}
    (hthreads : ∀ p ∈ threads, (∃ c, p = call c) ∨ ∃ r, p = watch r) (σ : List Nat)
    (hdone : ∀ p ∈ ((Sys.init rt rev threads).runSchedule σ).threads, p.result.isSome) :
    ∀ keys v, ((Sys.init rt rev threads).runSchedule σ).shared.kvs.get keys = some v →
      ∃ e ∈ ((Sys.init rt rev threads).runSchedule σ).shared.sent, announces e v = true :=
  ((announceSysInv_calls rt rev hthreads).runSchedule σ).announced_of_returned hdone

set_option maxRecDepth 4096 in
/-- `Create` と `CreateOrReplace` と `GuaranteedUpdate` を交互に進め、どれも返る。 -/
theorem runSchedule_kvs_announced_replace :
    (∀ p ∈ [call (.create "/g/ns/k" Obj.zero), call (.createOrReplace "/g/ns/k" Obj.zero),
        call (.guaranteedUpdate "/g/ns/k" false none fun o => .ok ⟨o, some o⟩)],
        (∃ c, p = call c) ∨ ∃ r, p = watch r) ∧
      (∀ p ∈ ((Sys.init (Runtime.doubling 1) 0 [call (.create "/g/ns/k" Obj.zero),
          call (.createOrReplace "/g/ns/k" Obj.zero),
          call (.guaranteedUpdate "/g/ns/k" false none fun o => .ok ⟨o, some o⟩)]).runSchedule
            [0, 0, 0, 0, 0, 0, 0, 1, 2, 2, 2, 2, 2, 2, 2, 2, 2, 1, 1, 1, 1, 1, 1, 1, 1]).threads,
        p.result.isSome) ∧
      ∀ keys v, ((Sys.init (Runtime.doubling 1) 0 [call (.create "/g/ns/k" Obj.zero),
          call (.createOrReplace "/g/ns/k" Obj.zero),
          call (.guaranteedUpdate "/g/ns/k" false none fun o => .ok ⟨o, some o⟩)]).runSchedule
            [0, 0, 0, 0, 0, 0, 0, 1, 2, 2, 2, 2, 2, 2, 2, 2, 2, 1, 1, 1, 1, 1, 1, 1, 1]).shared.kvs.get
              keys = some v →
        ∃ e ∈ ((Sys.init (Runtime.doubling 1) 0 [call (.create "/g/ns/k" Obj.zero),
          call (.createOrReplace "/g/ns/k" Obj.zero),
          call (.guaranteedUpdate "/g/ns/k" false none fun o => .ok ⟨o, some o⟩)]).runSchedule
            [0, 0, 0, 0, 0, 0, 0, 1, 2, 2, 2, 2, 2, 2, 2, 2, 2, 1, 1, 1, 1, 1, 1, 1, 1]).shared.sent,
          announces e v = true :=
  have h : ∀ p ∈ [call (.create "/g/ns/k" Obj.zero), call (.createOrReplace "/g/ns/k" Obj.zero),
      call (.guaranteedUpdate "/g/ns/k" false none fun o => .ok ⟨o, some o⟩)],
      (∃ c, p = call c) ∨ ∃ r, p = watch r := by
    simp only [List.mem_cons, List.mem_singleton, List.not_mem_nil, or_false]
    rintro p (rfl | rfl | rfl) <;> exact .inl ⟨_, rfl⟩
  have hdone : ∀ p ∈ ((Sys.init (Runtime.doubling 1) 0 [call (.create "/g/ns/k" Obj.zero),
      call (.createOrReplace "/g/ns/k" Obj.zero),
      call (.guaranteedUpdate "/g/ns/k" false none fun o => .ok ⟨o, some o⟩)]).runSchedule
        [0, 0, 0, 0, 0, 0, 0, 1, 2, 2, 2, 2, 2, 2, 2, 2, 2, 1, 1, 1, 1, 1, 1, 1, 1]).threads,
      p.result.isSome := by decide
  ⟨h, hdone, runSchedule_kvs_announced _ 0 h _ hdone⟩

/-- 書き込み系の呼び出しは、`ms.watchers` の読みと書き戻しの途中から始まらない。 -/
theorem sending_call : ∀ c : Call, (call c).sending = false
  | .create .. | .delete .. | .guaranteedUpdate .. | .createOrUpdate .. | .getOrCreate ..
  | .createOrReplace .. | .ensureUpdateAndDelete .. => rfl

/-- 書き込み系の呼び出しと `watch` を goroutine として並べ、`watch` の goroutine `j` が最初に続けて
二歩で watcher（番号 0）を登録してから、どの実行時の環境でどう交互に進めても、goroutine がどれも
返った後の map の object は、どれもそれを運ぶ削除でない event としてその watcher の
`incomingChan` に届いている。 -/
theorem runSchedule_watch_receives_kvs (rt : Runtime) (rev : Nat) {threads : List Prog}
    (hthreads : ∀ p ∈ threads, (∃ c, p = call c) ∨ ∃ r, p = watch r) {j : Nat}
    {r : Except StoreError Unit} (hj : threads[j]? = some (watch r)) (σ : List Nat)
    (hdone : ∀ p ∈ ((Sys.init rt rev threads).runSchedule (j :: j :: σ)).threads,
      p.result.isSome) :
    ∀ keys v, ((Sys.init rt rev threads).runSchedule (j :: j :: σ)).shared.kvs.get keys = some v →
      ∃ e ∈ ((Sys.init rt rev threads).runSchedule (j :: j :: σ)).shared.incomingChan 0,
        announces e v = true := by
  have hinv := (announceSysInv_calls rt rev hthreads).runSchedule (j :: j :: σ)
  have hquiet : ∀ p ∈ (Sys.init rt rev threads).threads, p.sending = false := fun p hp => by
    rcases hthreads p hp with ⟨c, rfl⟩ | ⟨r, rfl⟩
    · exact sending_call c
    · rfl
  have hw : ((Sys.init rt rev threads).runSchedule (j :: j :: σ)).shared.stopped 0 = false := by
    obtain ⟨_, -, -, hann⟩ := hinv
    exact hann.unstopped 0
  -- 登録の時点で `sent` は空なので、送られた event は全部登録の後に始まっている
  have hdelivered := @delivered_after_register rt rev threads hthreads [] j r _ rfl hj hquiet σ hw
    hdone
  intro keys v hv
  obtain ⟨e, he, hann⟩ := hinv.announced_of_returned hdone keys v hv
  exact ⟨e, hdelivered e he, hann⟩

/-- watcher を登録してから `/g/ns/a` を作る goroutine を最後まで進める。 -/
theorem runSchedule_watch_receives_kvs_create :
    (∀ p ∈ [watch (.ok ()), call (.create "/g/ns/a" Obj.zero)],
        (∃ c, p = call c) ∨ ∃ r, p = watch r) ∧
      [watch (.ok ()), call (.create "/g/ns/a" Obj.zero)][0]? = some (watch (.ok ())) ∧
      (∀ p ∈ ((Sys.init (Runtime.doubling 1) 0 [watch (.ok ()),
          call (.create "/g/ns/a" Obj.zero)]).runSchedule [0, 0, 1, 1, 1, 1, 1, 1, 1, 1, 1]).threads,
        p.result.isSome) ∧
      ∀ keys v, ((Sys.init (Runtime.doubling 1) 0 [watch (.ok ()),
          call (.create "/g/ns/a" Obj.zero)]).runSchedule
            [0, 0, 1, 1, 1, 1, 1, 1, 1, 1, 1]).shared.kvs.get keys = some v →
        ∃ e ∈ ((Sys.init (Runtime.doubling 1) 0 [watch (.ok ()),
          call (.create "/g/ns/a" Obj.zero)]).runSchedule
            [0, 0, 1, 1, 1, 1, 1, 1, 1, 1, 1]).shared.incomingChan 0, announces e v = true :=
  have h : ∀ p ∈ [watch (.ok ()), call (.create "/g/ns/a" Obj.zero)],
      (∃ c, p = call c) ∨ ∃ r, p = watch r := by
    simp only [List.mem_cons, List.mem_singleton, List.not_mem_nil, or_false]
    rintro p (rfl | rfl)
    · exact .inr ⟨_, rfl⟩
    · exact .inl ⟨_, rfl⟩
  have hdone : ∀ p ∈ ((Sys.init (Runtime.doubling 1) 0 [watch (.ok ()),
      call (.create "/g/ns/a" Obj.zero)]).runSchedule [0, 0, 1, 1, 1, 1, 1, 1, 1, 1, 1]).threads,
      p.result.isSome := by decide
  ⟨h, rfl, hdone, @runSchedule_watch_receives_kvs (Runtime.doubling 1) 0 _ h 0 (.ok ()) rfl
    [1, 1, 1, 1, 1, 1, 1, 1, 1] hdone⟩

end Interleaved

end FornaxStore
