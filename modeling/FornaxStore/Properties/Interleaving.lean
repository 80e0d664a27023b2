import FornaxStore.Concurrent
import FornaxStore.Properties.ListWatch

/-!
# 交互実行の下の watcher

`sendEvent` は `ms.watchers` を読んでから書き戻すまで lock を持たず、`watch` の
`ms.watchers = append(ms.watchers, watcher)` も読んでから書き戻す。ここでは、goroutine の
一歩ずつの交互実行（`Interleaved.Sys`）と逐次の実行で、watcher に何が届くかを調べる。
`incomingChan` は容量 `Runtime.chanCap` の channel で、満ちていれば送りは進まない。channel を
空けるのは、replay に成功した `watch` が始める配送 loop（`serve`）だけである。

* `Settled` — goroutine の仕事が `ms.watchers` の読みと書き戻しの途中になく、この先の
  `ms.watchers` の読み書きはどれも `sendEvent` か `watch` の登録である。書き込み系の呼び出しと
  `watch` はどれもそうである
* `Covers` — 登録した watcher が `ms.watchers` に居続け、登録の後に始まった `sendEvent` の
  event を受けたか、まだ受ける途中である。`Covers.runSchedule`：watcher が止まらない限り、
  どの schedule でも保たれる
* `delivered_after_register` — どの goroutine も `ms.watchers` の読みと書き戻しの途中にない時に
  続けて二歩で登録した watcher は、goroutine がどれも返れば、登録の後に始まった `sendEvent` の
  event をどれも受けている
* `watch_receives_sent` — 逐次の実行では、watcher は登録の後に送られた event をちょうどその順に、
  revision が真に増える順に受ける
* `watch_fanout` — 上の二つをまとめたもの
* `fanout_reorders_and_drops` — 交互実行では、revision の順に届かず、登録した watcher が落ちる
-/

namespace FornaxStore

namespace Interleaved

open Prog

/-! ## sendEvent の形 -/

theorem fanout_andThen (event : ObjEvent) (k : Prog) (f : Except StoreError (Option Obj) → Prog) :
    ∀ watchers rest,
      (fanout event k watchers rest).andThen f = fanout event (k.andThen f) watchers rest
  | _, [] => rfl
  | _, v :: rest => by
    simp only [fanout, andThen]
    congr 1
    funext b
    cases b <;> simp only [Bool.false_eq_true, if_false, if_true, andThen, fanout_andThen]

/-- goroutine は event `e` の `sendEvent` の range ループの途中にいて、書き戻す列に `kept` を
集め、まだ `rest` を見ていない：次の watcher の `stopped` を読む前か、送る直前である。 -/
def Fanning (e : ObjEvent) (k : Prog) (kept rest : List Nat) (p : Prog) : Prop :=
  p = fanout e k kept rest ∨ ∃ v, p = chanSend v e (fanout e k kept rest)

theorem step_fanout_nil (e : ObjEvent) (k : Prog) (kept : List Nat) (sh : Shared) :
    (fanout e k kept []).step sh = some ({ sh with watchers := kept }, k) := rfl

theorem step_fanout_cons (e : ObjEvent) (k : Prog) (kept : List Nat) (v : Nat) (rest : List Nat)
    (sh : Shared) :
    (fanout e k kept (v :: rest)).step sh = some (sh,
      if sh.stopped v then fanout e k kept rest else chanSend v e (fanout e k (kept ++ [v]) rest)) :=
  rfl

/-- range ループの一歩は三つのどれかである：最後に `ms.watchers` へ書き戻す、次の watcher の
`stopped` を読む、channel に送る。 -/
theorem Fanning.step {e : ObjEvent} {k : Prog} {kept rest : List Nat} {p : Prog}
    (hf : Fanning e k kept rest p) {sh sh' : Shared} {p' : Prog}
    (h : p.step sh = some (sh', p')) :
    (rest = [] ∧ sh' = { sh with watchers := kept } ∧ p' = k) ∨
    (∃ v rest', rest = v :: rest' ∧ sh' = sh ∧
      (sh.stopped v = true ∧ p' = fanout e k kept rest' ∨
        sh.stopped v = false ∧ p' = chanSend v e (fanout e k (kept ++ [v]) rest'))) ∨
    (∃ v, sh' = sh.chanSend v e ∧ p' = fanout e k kept rest) := by
  rcases hf with rfl | ⟨v, rfl⟩
  · cases rest with
    | nil => rw [step_fanout_nil] at h; cases h; exact .inl ⟨rfl, rfl, rfl⟩
    | cons v rest' =>
      rw [step_fanout_cons] at h
      cases h
      refine .inr (.inl ⟨v, rest', rfl, rfl, ?_⟩)
      cases hv : sh.stopped v
      · exact .inr ⟨rfl, by simp⟩
      · exact .inl ⟨rfl, by simp⟩
  · obtain ⟨-, rfl, rfl⟩ := step_chanSend_inv h
    exact .inr (.inr ⟨v, rfl, rfl⟩)

/-- goroutine の仕事が `ms.watchers` の読みと書き戻しの途中になく、この先の `ms.watchers` の
読み書きはどれも `sendEvent`（一度読み、その snapshot に送り、書き戻す）か、`watch` の登録
（読み、その後ろに足して書き戻す）である。 -/
inductive Settled : Prog → Prop
  | done (res : Except StoreError (Option Obj)) : Settled (done res)
  | get (keys : List String) (k : Option ObjWithIndex → Prog) :
      (∀ v, Settled (k v)) → Settled (get keys k)
  | reserveRevAndSlot (k : Nat → Nat → Prog) :
      (∀ rev index, Settled (k rev index)) → Settled (reserveRevAndSlot k)
  | addMemoryRev (k : Nat → Prog) : (∀ rev, Settled (k rev)) → Settled (addMemoryRev k)
  | put (keys : List String) (objWi : ObjWithIndex) (expectedRV : Nat)
      (k : Except StoreError Unit → Prog) :
      (∀ r, Settled (k r)) → Settled (put keys objWi expectedRV k)
  | del (keys : List String) (k : Except StoreError Unit → Prog) :
      (∀ r, Settled (k r)) → Settled (del keys k)
  | loadKvList (k : Nat → Prog) : (∀ a, Settled (k a)) → Settled (loadKvList k)
  | storeSlot (array index : Nat) (v : Option ObjWithIndex) (k : Prog) :
      Settled k → Settled (storeSlot array index v k)
  | sendEvent (event : ObjEvent) (k : Prog) : Settled k → Settled (sendEvent event k)
  | register (k : Nat → Prog) :
      (∀ id, Settled (k id)) → Settled (newWatcher fun id ws => storeWatchers (ws ++ [id]) (k id))
  | stopWatcher (id : Nat) (k : Prog) : Settled k → Settled (stopWatcher id k)
  | serve (id : Nat) (res : Except StoreError (Option Obj)) : Settled (serve id res)

namespace Settled

theorem setSlot {k : Prog} (hk : Settled k) (index : Nat) (v : Option ObjWithIndex) :
    Settled (Interleaved.setSlot index v k) :=
  .loadKvList _ fun _ => .storeSlot _ _ _ _ hk

theorem andThen {p : Prog} (hp : Settled p) {f : Except StoreError (Option Obj) → Prog}
    (hf : ∀ r, Settled (f r)) : Settled (p.andThen f) := by
  induction hp with
  | done res => exact hf res
  | get _ _ _ ih => exact .get _ _ ih
  | reserveRevAndSlot _ _ ih => exact .reserveRevAndSlot _ fun r i => ih r i
  | addMemoryRev _ _ ih => exact .addMemoryRev _ ih
  | put _ _ _ _ _ ih => exact .put _ _ _ _ ih
  | del _ _ _ ih => exact .del _ _ ih
  | loadKvList _ _ ih => exact .loadKvList _ ih
  | storeSlot _ _ _ _ _ ih => exact .storeSlot _ _ _ _ ih
  | sendEvent event k _ ih =>
    show Settled (loadWatchers event fun ws => (fanout event k [] ws).andThen f)
    simp only [fanout_andThen]
    exact .sendEvent _ _ ih
  | register _ _ ih => exact .register _ ih
  | stopWatcher _ _ _ ih => exact .stopWatcher _ _ ih
  | serve => exact .serve _ _

end Settled

section

variable (key : String) (keys : List String)

theorem settled_writeCreated (objWi : ObjWithIndex) (rev : Nat) :
    Settled (writeCreated key keys objWi rev) :=
  .put _ _ _ _ fun
    | .error _ => .done _
    | .ok () => (Settled.sendEvent _ _ (.done _)).setSlot _ _

theorem settled_writeUpdated (cur : ObjWithIndex) (oldObj : Obj) (objWi : ObjWithIndex)
    (rev : Nat) : Settled (writeUpdated key keys cur oldObj objWi rev) :=
  .put _ _ _ _ fun
    | .error _ => .done _
    | .ok () => ((Settled.sendEvent _ _ (.done _)).setSlot _ _).setSlot _ _

theorem settled_createObj (obj : Obj) : Settled (createObj key keys obj) :=
  .reserveRevAndSlot _ fun _ _ => settled_writeCreated ..

theorem settled_updateObj (cur : ObjWithIndex) (u : UpdateOutcome) :
    Settled (updateObj key keys cur u) :=
  .reserveRevAndSlot _ fun _ _ => settled_writeUpdated ..

theorem settled_delete (p : Option Preconditions) (v : Option (Obj → Except StoreError Unit)) :
    Settled (delete key p v) := by
  refine .get _ _ fun
    | none => .done _
    | some cur => ?_
  dsimp only
  split
  · exact .done _
  · exact .addMemoryRev _ fun _ => .del _ _ fun
      | .error _ => .done _
      | .ok () => (Settled.sendEvent _ _ (.done _)).setSlot _ _

theorem settled_guaranteedUpdate (i : Bool) (p : Option Preconditions)
    (f : Obj → Except StoreError UpdateOutcome) : Settled (guaranteedUpdate key i p f) := by
  refine .get _ _ fun
    | none => .done _
    | some cur => ?_
  dsimp only
  split
  · exact .done _
  · exact settled_updateObj ..

end

/-- 書き込み系の呼び出しの仕事は、どれも `Settled` である。 -/
theorem settled_call : ∀ c : Call, Settled (call c)
  | .create key obj => .get _ _ fun
      | some _ => .done _
      | none => settled_createObj ..
  | .delete key p v => settled_delete key p v
  | .guaranteedUpdate key i p f => settled_guaranteedUpdate key i p f
  | .createOrUpdate key obj m => by
    refine .get _ _ fun
      | none => settled_createObj ..
      | some cur => ?_
    dsimp only
    split
    · exact .done _
    · split
      · exact .done _
      · exact settled_updateObj ..
  | .getOrCreate key obj => .get _ _ fun
      | none => settled_createObj ..
      | some _ => .done _
  | .createOrReplace key obj => .reserveRevAndSlot _ fun _ _ => .get _ _ fun
      | none => settled_writeCreated ..
      | some _ => settled_writeUpdated ..
  | .ensureUpdateAndDelete key i p obj => by
    refine (settled_guaranteedUpdate ..).andThen fun
      | .ok (some output) => ?_
      | .ok none => .done _
      | .error _ => .done _
    dsimp only
    split
    · exact (settled_delete ..).andThen fun _ => .done _
    · exact .done _

theorem settled_watch : ∀ replay : Except StoreError Unit, Settled (watch replay)
  | .ok () => .register _ fun _ => .serve _ _
  | .error _ => .register _ fun _ => .done _

/-! ## 一歩 -/

/-- `Settled` な仕事の一歩は、`ms.watchers` を減らさず、`incomingChan` に触れず、`Settled` の
ままか、`sendEvent` を始めて（event を `sent` に足し）その時の `ms.watchers` に送る途中になるか、
登録を始めて、その時の `ms.watchers` の後ろに新しい番号を足した列を書き戻す途中になる。 -/
theorem Settled.step {p : Prog} (hp : Settled p) {sh sh' : Shared} {p' : Prog}
    (h : p.step sh = some (sh', p')) :
    sh.watchers ⊆ sh'.watchers ∧ sh'.incomingChan = sh.incomingChan ∧
      (Settled p' ∧ sh'.sent = sh.sent ∨
        (∃ e k, Settled k ∧ p' = fanout e k [] sh.watchers ∧ sh'.sent = sh.sent ++ [e]) ∨
        ∃ k, Settled k ∧ p' = storeWatchers (sh.watchers ++ [sh.watcherCount]) k ∧
          sh'.sent = sh.sent) := by
  cases hp with
  | done => cases h
  | put _ _ _ _ hk =>
    rcases step_put_inv h with ⟨_, -, rfl, rfl⟩ | ⟨_, -, rfl, rfl⟩ <;>
      exact ⟨List.Subset.refl _, rfl, .inl ⟨hk _, rfl⟩⟩
  | del _ _ hk =>
    rcases step_del_inv h with ⟨_, -, rfl, rfl⟩ | ⟨_, -, rfl, rfl⟩ <;>
      exact ⟨List.Subset.refl _, rfl, .inl ⟨hk _, rfl⟩⟩
  | sendEvent e k hk => cases h; exact ⟨List.Subset.refl _, rfl, .inr (.inl ⟨e, k, hk, rfl, rfl⟩)⟩
  | register k hk =>
    cases h; exact ⟨List.Subset.refl _, rfl, .inr (.inr ⟨_, hk _, rfl, rfl⟩)⟩
  | storeSlot _ _ _ _ hk => cases h; exact ⟨by simp, by simp, .inl ⟨hk, by simp⟩⟩
  | serve id res =>
    obtain ⟨-, -, rfl, rfl⟩ := step_serve_inv h
    exact ⟨List.Subset.refl _, rfl, .inl ⟨.serve _ _, rfl⟩⟩
  | reserveRevAndSlot _ hk => cases h; exact ⟨List.Subset.refl _, rfl, .inl ⟨hk .., rfl⟩⟩
  | get _ _ hk | addMemoryRev _ hk | loadKvList _ hk =>
    cases h; exact ⟨List.Subset.refl _, rfl, .inl ⟨hk .., rfl⟩⟩
  | stopWatcher _ _ hk => cases h; exact ⟨List.Subset.refl _, rfl, .inl ⟨hk, rfl⟩⟩

/-- 一歩は、止まった watcher を止まったままにし、`incomingChan` を後ろに伸ばすだけである。 -/
theorem step_mono {p : Prog} {sh sh' : Shared} {p' : Prog} (h : p.step sh = some (sh', p')) :
    (∀ w, sh.stopped w = true → sh'.stopped w = true) ∧
      ∀ j, sh.incomingChan j <+: sh'.incomingChan j := by
  have same : sh'.stopped = sh.stopped → sh'.incomingChan = sh.incomingChan →
      (∀ w, sh.stopped w = true → sh'.stopped w = true) ∧
        ∀ j, sh.incomingChan j <+: sh'.incomingChan j :=
    fun hs hc => ⟨fun w hw => hs ▸ hw, fun j => hc ▸ List.prefix_refl _⟩
  cases p
  case done => cases h
  case put =>
    rcases step_put_inv h with ⟨_, -, rfl, rfl⟩ | ⟨_, -, rfl, rfl⟩ <;> exact same rfl rfl
  case del =>
    rcases step_del_inv h with ⟨_, -, rfl, rfl⟩ | ⟨_, -, rfl, rfl⟩ <;> exact same rfl rfl
  case storeSlot => cases h; exact same (by simp) (by simp)
  case chanSend =>
    obtain ⟨-, rfl, rfl⟩ := step_chanSend_inv h
    refine ⟨fun _ => id, fun j => ?_⟩
    rw [Shared.chanSend_incomingChan]
    split
    · exact List.prefix_append _ _
    · exact List.prefix_refl _
  case serve => obtain ⟨-, -, rfl, rfl⟩ := step_serve_inv h; exact same rfl rfl
  case stopWatcher => cases h; exact ⟨fun w hw => by simp [hw], fun _ => List.prefix_refl _⟩
  case reserveRevAndSlot => cases h; exact same rfl rfl
  all_goals (cases h; exact same rfl rfl)

namespace Sys

theorem step_eq (s : Sys) (i : Nat) :
    s.step i = s ∨ ∃ p sh' p', s.threads[i]? = some p ∧ p.step s.shared = some (sh', p') ∧
      s.step i = ⟨sh', s.threads.set i p'⟩ := by
  unfold Sys.step
  split
  · exact .inl rfl
  · split
    · exact .inl rfl
    · exact .inr ⟨_, _, _, ‹_›, ‹_›, rfl⟩

theorem step_of {s : Sys} {i : Nat} {p : Prog} (hi : s.threads[i]? = some p) {sh' : Shared}
    {p' : Prog} (h : p.step s.shared = some (sh', p')) : s.step i = ⟨sh', s.threads.set i p'⟩ := by
  simp [Sys.step, hi, h]

theorem step_stopped (s : Sys) (i : Nat) {w : Nat} (hw : s.shared.stopped w = true) :
    (s.step i).shared.stopped w = true := by
  rcases s.step_eq i with h | ⟨p, sh', p', -, hstep, h⟩ <;> rw [h]
  · exact hw
  · exact (step_mono hstep).1 w hw

theorem runSchedule_stopped (s : Sys) (σ : List Nat) {w : Nat} (hw : s.shared.stopped w = true) :
    (s.runSchedule σ).shared.stopped w = true := by
  induction σ generalizing s with
  | nil => exact hw
  | cons i σ ih => exact ih (s.step i) (s.step_stopped i hw)

end Sys

/-! ## 登録した watcher に届くもの -/

/-- goroutine `p` は `sendEvent` の途中で、event `e` をまだ watcher `w` に送っていない：
snapshot の残りに `w` が居るか、`w` に送る直前である。 -/
def Pending (w : Nat) (e : ObjEvent) (p : Prog) : Prop :=
  ∃ k kept rest, (p = fanout e k kept rest ∧ w ∈ rest) ∨
    ∃ v, p = chanSend v e (fanout e k kept rest) ∧ (v = w ∨ w ∈ rest)

theorem Pending.step {w : Nat} {e : ObjEvent} {p : Prog} (hp : Pending w e p) {sh sh' : Shared}
    {p' : Prog} (h : p.step sh = some (sh', p')) (hw : sh.stopped w = false) :
    e ∈ sh'.incomingChan w ∨ Pending w e p' := by
  obtain ⟨k, kept, rest, ⟨rfl, hr⟩ | ⟨v, rfl, hv⟩⟩ := hp
  · cases rest with
    | nil => cases hr
    | cons v rest =>
      rw [step_fanout_cons] at h
      cases h
      by_cases hvw : v = w
      · subst hvw
        rw [hw, if_neg Bool.false_ne_true]
        exact .inr ⟨k, _, rest, .inr ⟨v, rfl, .inl rfl⟩⟩
      · have hr' : w ∈ rest := List.mem_of_ne_of_mem (Ne.symm hvw) hr
        split
        · exact .inr ⟨k, kept, rest, .inl ⟨rfl, hr'⟩⟩
        · exact .inr ⟨k, _, rest, .inr ⟨v, rfl, .inr hr'⟩⟩
  · obtain ⟨-, rfl, rfl⟩ := step_chanSend_inv h
    rcases hv with rfl | hr
    · exact .inl (by simp [Shared.chanSend_incomingChan])
    · exact .inr ⟨k, kept, rest, .inl ⟨rfl, hr⟩⟩

theorem Pending.result_eq_none {w : Nat} {e : ObjEvent} {p : Prog} (hp : Pending w e p) :
    p.result = none := by
  obtain ⟨k, kept, rest, ⟨rfl, hr⟩ | ⟨v, rfl, -⟩⟩ := hp
  · cases rest with
    | nil => cases hr
    | cons => rfl
  · rfl

/-- 番号 `w` の watcher を登録した時点（`sent` の長さが `n`）から後に成り立つこと。 -/
structure Covers (w n : Nat) (s : Sys) : Prop where
  /-- 登録の時点の `sent` は、今の `sent` の始まりである。 -/
  sent_le : n ≤ s.shared.sent.length
  /-- `w` は `ms.watchers` に居る。 -/
  registered : w ∈ s.shared.watchers
  /-- どの goroutine も `Settled` か、`w` を書き戻す列か残りに持つ `sendEvent` の途中か、`w` を
  読んだ列に持つ登録の途中である。 -/
  threads : ∀ p ∈ s.threads, Settled p ∨
    (∃ e k kept rest, Fanning e k kept rest p ∧ Settled k ∧ (w ∈ kept ∨ w ∈ rest)) ∨
    ∃ ws id k, p = storeWatchers (ws ++ [id]) k ∧ Settled k ∧ w ∈ ws
  /-- 登録の後に始まった `sendEvent` の event は、`w` に届いたか、まだ `w` に送る途中である。 -/
  delivered : ∀ e ∈ s.shared.sent.drop n,
    e ∈ s.shared.incomingChan w ∨ ∃ p ∈ s.threads, Pending w e p

/-- `Covers` の一歩：`w` が止まっていなければ、どの goroutine の一歩も `Covers` を保つ。 -/
theorem Covers.step {w n : Nat} {s : Sys} (h : Covers w n s) (hw : s.shared.stopped w = false)
    (i : Nat) : Covers w n (s.step i) := by
  rcases s.step_eq i with hs | ⟨p, sh', p', hp, hstep, hs⟩
  · rw [hs]; exact h
  rw [hs]
  obtain ⟨hle, hreg, hthreads, hdeliv⟩ := h
  have hold : ∀ e ∈ s.shared.sent.drop n,
      e ∈ sh'.incomingChan w ∨ ∃ q ∈ s.threads.set i p', Pending w e q := by
    intro e he
    rcases hdeliv e he with hc | ⟨q, hq, hpq⟩
    · exact .inl (((step_mono hstep).2 w).subset hc)
    · by_cases hqp : q = p
      · subst hqp
        exact (hpq.step hstep hw).imp_right fun h' => ⟨p', mem_set_self hp _, h'⟩
      · exact .inr ⟨q, mem_set_of_ne hp hq hqp _, hpq⟩
  rcases hthreads p (List.getElem?_mem hp) with hset | ⟨e, k, kept, rest, hf, hk, hwin⟩ |
      ⟨ws, id, k, rfl, hk, hws⟩
  · -- `Settled` な goroutine の一歩
    obtain ⟨hsub, -, hnext⟩ := hset.step hstep
    rcases hnext with ⟨hp', hsent⟩ | ⟨e, k, hk, rfl, hsent⟩ | ⟨k, hk, rfl, hsent⟩
    · exact ⟨hsent ▸ hle, hsub hreg, forall_mem_set hthreads (.inl hp'), hsent ▸ hold⟩
    · refine ⟨by simp [hsent]; omega, hsub hreg,
        forall_mem_set hthreads (.inr (.inl ⟨e, k, [], _, .inl rfl, hk, .inr hreg⟩)),
        fun e' he' => ?_⟩
      rw [hsent, List.drop_append_of_le_length hle, List.mem_append, List.mem_singleton] at he'
      rcases he' with he' | rfl
      · exact hold e' he'
      · exact .inr ⟨_, mem_set_self hp _, k, [], _, .inl ⟨rfl, hreg⟩⟩
    · -- 登録を始めた：読んだ列に `w` が居る
      exact ⟨hsent ▸ hle, hsub hreg,
        forall_mem_set hthreads (.inr (.inr ⟨_, _, k, rfl, hk, hreg⟩)), hsent ▸ hold⟩
  · rcases hf.step hstep with ⟨rfl, rfl, rfl⟩ | ⟨v, rest', rfl, rfl, hnext⟩ | ⟨v, rfl, rfl⟩
    · -- `ms.watchers = kept`：`w` は書き戻す列に居る
      exact ⟨hle, hwin.resolve_right (List.not_mem_nil w), forall_mem_set hthreads (.inl hk),
        hold⟩
    · -- `v` の `stopped` を読んだ：`w` は書き戻す列か残りに居続ける
      refine ⟨hle, hreg, forall_mem_set hthreads (.inr (.inl ?_)), hold⟩
      rcases hnext with ⟨hv, rfl⟩ | ⟨-, rfl⟩
      · refine ⟨e, k, kept, rest', .inl rfl, hk, hwin.imp_right fun hr => ?_⟩
        rcases List.mem_cons.mp hr with rfl | hr
        · rw [hw] at hv; cases hv
        · exact hr
      · refine ⟨e, k, kept ++ [v], rest', .inr ⟨v, rfl⟩, hk, ?_⟩
        rcases hwin with hkept | hr
        · exact .inl (List.mem_append_left _ hkept)
        · rcases List.mem_cons.mp hr with rfl | hr
          · exact .inl (List.mem_append_right _ (List.mem_singleton_self _))
          · exact .inr hr
    · -- channel に送った
      exact ⟨hle, hreg, forall_mem_set hthreads (.inr (.inl ⟨e, k, kept, rest, .inl rfl, hk, hwin⟩)),
        hold⟩
  · -- 登録の書き戻し：読んだ列に居た `w` は残る
    cases hstep
    exact ⟨hle, List.mem_append_left _ hws, forall_mem_set hthreads (.inl hk), hold⟩

/-- watcher が最後に止まっていなければ、どの schedule でも `Covers` は保たれる。 -/
theorem Covers.runSchedule {w n : Nat} {s : Sys} (h : Covers w n s) (σ : List Nat)
    (hw : (s.runSchedule σ).shared.stopped w = false) : Covers w n (s.runSchedule σ) := by
  induction σ generalizing s with
  | nil => exact h
  | cons i σ ih =>
    have hw₀ : s.shared.stopped w = false := by
      cases h' : s.shared.stopped w
      · rfl
      · rw [show s.runSchedule (i :: σ) = (s.step i).runSchedule σ from rfl,
          Sys.runSchedule_stopped _ σ (s.step_stopped i h')] at hw
        cases hw
    exact ih (h.step hw₀ i) hw

/-- goroutine がどれも返っていれば、登録の後に始まった `sendEvent` の event はどれも届いている。 -/
theorem Covers.delivered_of_returned {w n : Nat} {s : Sys} (h : Covers w n s)
    (hdone : ∀ p ∈ s.threads, p.result.isSome) :
    ∀ e ∈ s.shared.sent.drop n, e ∈ s.shared.incomingChan w := by
  intro e he
  rcases h.delivered e he with hc | ⟨q, hq, hpq⟩
  · exact hc
  · have := hdone q hq
    rw [hpq.result_eq_none] at this
    cases this

/-- どの goroutine も `Settled` な時に goroutine `j` が続けて二歩で watcher を登録すると、その
時点から `Covers` が始まる。 -/
theorem covers_register {s : Sys} (hs : ∀ p ∈ s.threads, Settled p) {j : Nat}
    {k : Nat → Prog} (hk : ∀ id, Settled (k id))
    (hj : s.threads[j]? = some (newWatcher fun id ws => storeWatchers (ws ++ [id]) (k id))) :
    Covers s.shared.watcherCount s.shared.sent.length ((s.step j).step j) := by
  have hlt := (List.getElem?_eq_some.mp hj).1
  simp only [Sys.step, hj, Prog.step, List.getElem?_set_self hlt, List.set_set]
  exact ⟨le_rfl, by simp, forall_mem_set (fun q hq => .inl (hs q hq)) (.inl (hk _)),
    fun e he => by simp at he⟩

/-! ## 届く goroutine の形 -/

/-- goroutine は `Settled` か、`sendEvent` の range ループの途中か、登録の書き戻しの前である。 -/
def WellFormed (p : Prog) : Prop :=
  Settled p ∨ (∃ e k kept rest, Fanning e k kept rest p ∧ Settled k) ∨
    ∃ ws id k, p = storeWatchers (ws ++ [id]) k ∧ Settled k

theorem WellFormed.step {p : Prog} (hp : WellFormed p) {sh sh' : Shared} {p' : Prog}
    (h : p.step sh = some (sh', p')) : WellFormed p' := by
  rcases hp with hset | ⟨e, k, kept, rest, hf, hk⟩ | ⟨ws, id, k, rfl, hk⟩
  · rcases (hset.step h).2.2 with ⟨hp', -⟩ | ⟨e, k, hk, rfl, -⟩ | ⟨k, hk, rfl, -⟩
    · exact .inl hp'
    · exact .inr (.inl ⟨e, k, [], _, .inl rfl, hk⟩)
    · exact .inr (.inr ⟨_, _, k, rfl, hk⟩)
  · rcases hf.step h with ⟨-, -, rfl⟩ | ⟨v, rest', -, -, ⟨-, rfl⟩ | ⟨-, rfl⟩⟩ | ⟨v, -, rfl⟩
    · exact .inl hk
    · exact .inr (.inl ⟨e, k, kept, rest', .inl rfl, hk⟩)
    · exact .inr (.inl ⟨e, k, _, rest', .inr ⟨v, rfl⟩, hk⟩)
    · exact .inr (.inl ⟨e, k, kept, rest, .inl rfl, hk⟩)
  · cases h; exact .inl hk

theorem WellFormed.settled {p : Prog} (hp : WellFormed p) (hs : p.sending = false) : Settled p := by
  rcases hp with hset | ⟨e, k, kept, rest, rfl | ⟨v, rfl⟩, -⟩ | ⟨ws, id, k, rfl, -⟩
  · exact hset
  · cases rest <;> simp [fanout, sending] at hs
  · simp [sending] at hs
  · simp [sending] at hs

theorem Sys.runSchedule_wellFormed {s : Sys} (hs : ∀ p ∈ s.threads, WellFormed p) (σ : List Nat) :
    ∀ p ∈ (s.runSchedule σ).threads, WellFormed p := by
  induction σ generalizing s with
  | nil => exact hs
  | cons i σ ih =>
    apply ih
    rcases s.step_eq i with h | ⟨p, sh', p', hp, hstep, h⟩ <;> rw [h]
    · exact hs
    · exact forall_mem_set hs ((hs p (List.getElem?_mem hp)).step hstep)

/-- 書き込み系の呼び出しと `watch` を goroutine として並べ、どう交互に進めても、どの goroutine も
`ms.watchers` の読みと書き戻しの途中にいない時に、まだ始まっていない `watch` の goroutine `j` が
続けて二歩で watcher を登録したなら、その後のどの schedule でも、watcher が止まらずに goroutine
がどれも返った時には、登録の後に始まった `sendEvent` の event はどれもその watcher の
`incomingChan` に届いている。 -/
theorem delivered_after_register (rt : Runtime) (rev : Nat) {threads : List Prog}
    (hthreads : ∀ p ∈ threads, (∃ c, p = call c) ∨ ∃ r, p = watch r) {σ₁ : List Nat} {j : Nat}
    {r : Except StoreError Unit} {s : Sys} (hs : s = (Sys.init rt rev threads).runSchedule σ₁)
    (hj : s.threads[j]? = some (watch r)) (hquiet : ∀ p ∈ s.threads, p.sending = false)
    (σ₂ : List Nat)
    (hw : (s.runSchedule (j :: j :: σ₂)).shared.stopped s.shared.watcherCount = false)
    (hdone : ∀ p ∈ (s.runSchedule (j :: j :: σ₂)).threads, p.result.isSome) :
    ∀ e ∈ (s.runSchedule (j :: j :: σ₂)).shared.sent.drop s.shared.sent.length,
      e ∈ (s.runSchedule (j :: j :: σ₂)).shared.incomingChan s.shared.watcherCount := by
  have hwf : ∀ p ∈ s.threads, WellFormed p := by
    subst hs
    refine Sys.runSchedule_wellFormed (fun p hp => .inl ?_) σ₁
    rcases hthreads p hp with ⟨c, rfl⟩ | ⟨r, rfl⟩
    · exact settled_call c
    · exact settled_watch r
  have hset : ∀ p ∈ s.threads, Settled p := fun p hp => (hwf p hp).settled (hquiet p hp)
  have h : Covers s.shared.watcherCount s.shared.sent.length ((s.step j).step j) := by
    cases r with
    | ok u => cases u; exact covers_register hset (fun _ => .serve _ _) hj
    | error err => exact covers_register hset (fun _ => .done _) hj
  exact (h.runSchedule σ₂ hw).delivered_of_returned hdone

end Interleaved

namespace MemoryStore

/-! ## 逐次の実行で watcher に届くもの -/

/-- 番号 `id` の watcher を止めない遷移の列。 -/
inductive StepsKeeping (id : Nat) : MemoryStore → MemoryStore → Prop
  | refl (ms : MemoryStore) : StepsKeeping id ms ms
  | call {ms ms' : MemoryStore} (c : Call) :
      StepsKeeping id (ms.exec c).2 ms' → StepsKeeping id ms ms'
  | watch {ms ms' : MemoryStore} (key : String) (opts : ListOptions) :
      StepsKeeping id (ms.watch key opts).2 ms' → StepsKeeping id ms ms'
  | stopWatcher {ms ms' : MemoryStore} (id' : Nat) :
      id' ≠ id → StepsKeeping id (ms.stopWatcher id') ms' → StepsKeeping id ms ms'
  | otherStore {ms ms' : MemoryStore} :
      StepsKeeping id ms.otherStoreRev ms' → StepsKeeping id ms ms'

section

variable {id : Nat} {base : List ObjEvent} {ms : MemoryStore}

theorem Delivered.watch (h : Delivered id base ms) (key : String) (opts : ListOptions) :
    Delivered id base (ms.watch key opts).2 := by
  obtain ⟨w, hw, hid, hst, hsent⟩ := h
  rw [watch_snd]
  split
  · exact ⟨w, hw, hid, hst, hsent⟩
  · exact ⟨w, List.mem_append_left _ hw, hid, hst, hsent⟩

theorem Delivered.stopWatcher (h : Delivered id base ms) {id' : Nat} (hne : id' ≠ id) :
    Delivered id base (ms.stopWatcher id') := by
  obtain ⟨w, hw, hid, hst, hsent⟩ := h
  exact ⟨w, List.mem_map.mpr ⟨w, hw, by simp [hid, Ne.symm hne]⟩, hid, hst, hsent⟩

theorem StepsKeeping.delivered {ms' : MemoryStore} (hk : StepsKeeping id ms ms') (hr : Reachable ms)
    (h : Delivered id base ms) : Reachable ms' ∧ Delivered id base ms' := by
  induction hk with
  | refl => exact ⟨hr, h⟩
  | call c _ ih => exact ih (hr.step (.call _ c)) (h.exec (reachable_inv hr) c)
  | watch key opts _ ih => exact ih (hr.step (.watch _ key opts)) (h.watch key opts)
  | stopWatcher id' hne _ ih => exact ih (hr.step (.stopWatcher _ id')) (h.stopWatcher hne)
  | otherStore _ ih => exact ih (hr.step (.otherStore _)) h

end

/-- 逐次の実行で、resource version を読める `watch` が登録した watcher は、止められない限り
`ms.watchers` に居て、登録の後に `sendEvent` へ渡った event をちょうどその順に受け、その
revision は真に増える。 -/
theorem watch_receives_sent {ms : MemoryStore} (hr : Reachable ms) (key : String)
    (opts : ListOptions) {R : Nat} (hR : parseResourceVersion opts.resourceVersion = .ok R)
    {ms' : MemoryStore} (hk : StepsKeeping ms.watcherCount (ms.watch key opts).2 ms') :
    ∃ w ∈ ms'.watchers, w.id = ms.watcherCount ∧ w.incomingChan = ms'.sent.drop ms.sent.length ∧
      w.incomingChan.Pairwise (fun e e' => e.rev < e'.rev) := by
  have h₁ : Delivered ms.watcherCount ms.sent (ms.watch key opts).2 := by
    simp only [watch_snd, hR]
    exact ⟨_, List.mem_append_right _ (List.mem_singleton_self _), rfl, rfl,
      (List.append_nil _).symm⟩
  obtain ⟨hr', w, hw, hid, -, hsent⟩ := hk.delivered (hr.step (.watch ms key opts)) h₁
  have hsorted := (reachable_sent hr').1
  rw [hsent] at hsorted ⊢
  exact ⟨w, hw, hid, by rw [List.drop_left], (List.pairwise_append.mp hsorted).2.1⟩

end MemoryStore

open Interleaved MemoryStore

/-- **watcher への配送。** 逐次の実行（呼び出しと登録が一つずつ終わってから次が始まる）では、
resource version を読める `watch` が登録した watcher は、止められない限り、登録の後に
`sendEvent` に渡った event をちょうどその順に受け、revision は真に増える。goroutine の交互実行
では、どの goroutine も `ms.watchers` を読んでから書き戻すまでの途中にない時に、`watch` の
goroutine が続けて二歩で登録した watcher は、止まらなければ、goroutine がどれも返った時に、
登録の後に始まった `sendEvent` の event をどれも受けている。 -/
theorem watch_fanout :
    (∀ ms : MemoryStore, Reachable ms → ∀ (key : String) (opts : ListOptions) (R : Nat),
      parseResourceVersion opts.resourceVersion = .ok R →
      ∀ ms', StepsKeeping ms.watcherCount (ms.watch key opts).2 ms' →
      ∃ w ∈ ms'.watchers, w.id = ms.watcherCount ∧ w.incomingChan = ms'.sent.drop ms.sent.length ∧
        w.incomingChan.Pairwise (fun e e' => e.rev < e'.rev)) ∧
    (∀ (rt : Runtime) (rev : Nat) (threads : List Prog),
      (∀ p ∈ threads, (∃ c, p = call c) ∨ ∃ r, p = Interleaved.watch r) →
      ∀ (σ₁ : List Nat) (j : Nat) (r : Except StoreError Unit) (s : Sys),
      s = (Sys.init rt rev threads).runSchedule σ₁ →
      s.threads[j]? = some (Interleaved.watch r) → (∀ p ∈ s.threads, p.sending = false) →
      ∀ σ₂ : List Nat,
      (s.runSchedule (j :: j :: σ₂)).shared.stopped s.shared.watcherCount = false →
      (∀ p ∈ (s.runSchedule (j :: j :: σ₂)).threads, p.result.isSome) →
      ∀ e ∈ (s.runSchedule (j :: j :: σ₂)).shared.sent.drop s.shared.sent.length,
        e ∈ (s.runSchedule (j :: j :: σ₂)).shared.incomingChan s.shared.watcherCount) :=
  ⟨fun _ hr key opts _ hR _ hk => watch_receives_sent hr key opts hR hk,
    fun rt rev _ ht _ _ _ _ hs hj hq σ₂ hw hd =>
      delivered_after_register rt rev ht hs hj hq σ₂ hw hd⟩

/-- 逐次の実行では空の store を watch して `/g/ns/a` を作り、交互実行では watcher を登録してから
`/g/ns/a` を作る goroutine を最後まで進める。 -/
theorem watch_fanout_create :
    (∃ w ∈ (((newMemoryStore 0).watch "/g/ns" ⟨"", "", everything, true⟩).2.exec
        (.create "/g/ns/a" Obj.zero)).2.watchers,
      w.id = (newMemoryStore 0).watcherCount ∧
      w.incomingChan = (((newMemoryStore 0).watch "/g/ns" ⟨"", "", everything, true⟩).2.exec
        (.create "/g/ns/a" Obj.zero)).2.sent.drop (newMemoryStore 0).sent.length ∧
      w.incomingChan.Pairwise (fun e e' => e.rev < e'.rev)) ∧
    ∀ e ∈ ((Sys.init (Runtime.doubling 1) 0 [Interleaved.watch (.ok ()),
        call (.create "/g/ns/a" Obj.zero)]).runSchedule
          [0, 0, 1, 1, 1, 1, 1, 1, 1, 1, 1]).shared.sent.drop
          (Sys.init (Runtime.doubling 1) 0 [Interleaved.watch (.ok ()),
            call (.create "/g/ns/a" Obj.zero)]).shared.sent.length,
      e ∈ ((Sys.init (Runtime.doubling 1) 0 [Interleaved.watch (.ok ()),
        call (.create "/g/ns/a" Obj.zero)]).runSchedule
          [0, 0, 1, 1, 1, 1, 1, 1, 1, 1, 1]).shared.incomingChan
          (Sys.init (Runtime.doubling 1) 0 [Interleaved.watch (.ok ()),
            call (.create "/g/ns/a" Obj.zero)]).shared.watcherCount :=
  ⟨watch_fanout.1 _ (.init 0) "/g/ns" ⟨"", "", everything, true⟩ 0 rfl _ (.call _ (.refl _)),
    watch_fanout.2 (Runtime.doubling 1) 0 [Interleaved.watch (.ok ()),
        call (.create "/g/ns/a" Obj.zero)] (fun p hp => by
        simp only [List.mem_cons, List.mem_singleton, List.not_mem_nil, or_false] at hp
        rcases hp with rfl | rfl
        · exact .inr ⟨_, rfl⟩
        · exact .inl ⟨_, rfl⟩)
      [] 0 (.ok ()) _ rfl rfl (by decide) [1, 1, 1, 1, 1, 1, 1, 1, 1] (by decide) (by decide)⟩

/-- 交互実行では、revision の順と `incomingChan` の順が食い違い、登録した watcher が落ちる。
watcher を登録した後、`/g/ns/a` の `Create` が revision を取り、`/g/ns/b` の `Create` が次の
revision を取って先に送り終えると、watcher は大きい revision を先に受ける。`/g/ns/a` の
`sendEvent` が `ms.watchers` を読んだ後に watcher を登録すると、その書き戻しが登録を消し、後から
始まる `/g/ns/b` の `Created` は止まっていない watcher に届かない。二つの `watch` が `ms.watchers`
を読んでから書き戻すと、先の登録が消え、その watcher には何も届かない。 -/
theorem fanout_reorders_and_drops :
    (∃ s₁ s, s₁ = (Sys.init (Runtime.doubling 2) (2 ^ 62 + 1700000000000000)
          [Interleaved.watch (.ok ()), call (.create "/g/ns/a" Obj.zero),
            call (.create "/g/ns/b" Obj.zero)]).runSchedule [0, 0] ∧
        s₁.shared.watchers = [0] ∧
        s = s₁.runSchedule [1, 1, 2, 2, 2, 2, 2, 2, 2, 2, 2, 1, 1, 1, 1, 1, 1, 1] ∧
        s.results = [some (.ok none),
          some (.ok (some (Obj.zero.setResourceVersion (2 ^ 62 + 1700000000000001)))),
          some (.ok (some (Obj.zero.setResourceVersion (2 ^ 62 + 1700000000000002))))] ∧
        s.shared.stopped 0 = false ∧
        (s.shared.incomingChan 0).map (·.rev) =
          [2 ^ 62 + 1700000000000002, 2 ^ 62 + 1700000000000001]) ∧
    (∃ s₁ s, s₁ = (Sys.init (Runtime.doubling 2) (2 ^ 62 + 1700000000000000)
          [call (.create "/g/ns/a" Obj.zero), Interleaved.watch (.ok ()),
            call (.create "/g/ns/b" Obj.zero)]).runSchedule [0, 0, 0, 0, 0, 0, 1, 1] ∧
        s₁.shared.watchers = [0] ∧ s₁.shared.sent.map (·.rev) = [2 ^ 62 + 1700000000000001] ∧
        s = s₁.runSchedule [0, 2, 2, 2, 2, 2, 2, 2] ∧
        s.results = [some (.ok (some (Obj.zero.setResourceVersion (2 ^ 62 + 1700000000000001)))),
          some (.ok none),
          some (.ok (some (Obj.zero.setResourceVersion (2 ^ 62 + 1700000000000002))))] ∧
        s.shared.stopped 0 = false ∧ s.shared.watchers = [] ∧
        s.shared.sent.map (·.rev) = [2 ^ 62 + 1700000000000001, 2 ^ 62 + 1700000000000002] ∧
        s.shared.incomingChan 0 = []) ∧
    ∃ s₁ s, s₁ = (Sys.init (Runtime.doubling 2) (2 ^ 62 + 1700000000000000)
          [Interleaved.watch (.ok ()), Interleaved.watch (.ok ()),
            call (.create "/g/ns/a" Obj.zero)]).runSchedule [0, 1, 0, 1] ∧
        s₁.shared.watchers = [1] ∧
        s = s₁.runSchedule [2, 2, 2, 2, 2, 2, 2, 2, 2] ∧
        s.results = [some (.ok none), some (.ok none),
          some (.ok (some (Obj.zero.setResourceVersion (2 ^ 62 + 1700000000000001))))] ∧
        s.shared.stopped 0 = false ∧ s.shared.sent.map (·.rev) = [2 ^ 62 + 1700000000000001] ∧
        s.shared.incomingChan 0 = [] ∧
        (s.shared.incomingChan 1).map (·.rev) = [2 ^ 62 + 1700000000000001] :=
  ⟨⟨_, _, rfl, by decide, rfl, by decide⟩, ⟨_, _, rfl, by decide, by decide, rfl, by decide⟩,
    _, _, rfl, by decide, rfl, by decide⟩

end FornaxStore
