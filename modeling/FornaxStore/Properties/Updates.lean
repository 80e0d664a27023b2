import FornaxStore.Properties.Revisions

/-!
# 交互実行の下で更新は失われない

更新の書き込み（`GuaranteedUpdate`・`CreateOrUpdate`・`CreateOrReplace`）は、`kvs.get` で読んだ object の
revision を `kvs.put` に `expectedRV` として渡し、map の object の revision がそれと違えば `put` は
通らない。そこで、同じ object を読んだ二つの更新が両方とも書かれることはない：書き込み系の呼び出しと
`watch` をどう交互に進めても、通った更新の `put` が置き換えた revision（`Shared.replaced`）はどれも
違う（`runSchedule_replaced_nodup`）。`Delete` の `kvs.del` は revision を比べないので、この限りでない
（`delete_and_replace_race_update`）。event の `oldObj` は callback が返したものによるので、ここでは
見ない（`guaranteedUpdate_aliased_oldObj`）。

証明は goroutine ごとに、取ったがまだ `put` していない revision `tok` を ghost として置く
（`OwnUpdates`）。置き換えた revision は map から外れ、二度と map に戻らない。map の object の
revision と取った revision は、まだ置き換えられていない（`UpdInv`）。

* `OwnUpdates.step` — 一歩は `UpdInv` を保つ
* `ownUpdates_call` — 書き込み系の呼び出しは、自分が取った revision の object だけを `put` する
* `runSchedule_replaced_nodup` — どの schedule の後も、置き換えた revision は重複しない
* `runSchedule_live_revs_unique` — どの schedule の後も、map の二つの key が同じ revision の object を
  持つことはない
-/

namespace FornaxStore

namespace Interleaved

open Prog

/-! ## goroutine の ghost -/

/-- goroutine の仕事は、取った revision `tok` の object だけを `put` し、`put` した revision は
`tok` から除かれる。 -/
inductive OwnUpdates : List Nat → Prog → Prop
  | done (tok : List Nat) (res : Except StoreError (Option Obj)) : OwnUpdates tok (done res)
  | get (tok : List Nat) (keys : List String) (k : Option ObjWithIndex → Prog) :
      (∀ v, OwnUpdates tok (k v)) → OwnUpdates tok (get keys k)
  | reserveRevAndSlot (tok : List Nat) (k : Nat → Nat → Prog) :
      (∀ rev index, OwnUpdates (rev :: tok) (k rev index)) → OwnUpdates tok (reserveRevAndSlot k)
  | addMemoryRev (tok : List Nat) (k : Nat → Prog) :
      (∀ rev, OwnUpdates tok (k rev)) → OwnUpdates tok (addMemoryRev k)
  | put (tok : List Nat) (keys : List String) (objWi : ObjWithIndex) (expectedRV : Nat)
      (k : Except StoreError Unit → Prog) : objWi.obj.resourceVersion ∈ tok →
      (∀ r, OwnUpdates (tok.erase objWi.obj.resourceVersion) (k r)) →
        OwnUpdates tok (put keys objWi expectedRV k)
  | del (tok : List Nat) (keys : List String) (k : Except StoreError Unit → Prog) :
      (∀ r, OwnUpdates tok (k r)) → OwnUpdates tok (del keys k)
  | loadKvList (tok : List Nat) (k : Nat → Prog) :
      (∀ a, OwnUpdates tok (k a)) → OwnUpdates tok (loadKvList k)
  | storeSlot (tok : List Nat) (array index : Nat) (v : Option ObjWithIndex) (k : Prog) :
      OwnUpdates tok k → OwnUpdates tok (storeSlot array index v k)
  | loadWatchers (tok : List Nat) (event : ObjEvent) (k : List Nat → Prog) :
      (∀ ws, OwnUpdates tok (k ws)) → OwnUpdates tok (loadWatchers event k)
  | loadStopped (tok : List Nat) (id : Nat) (k : Bool → Prog) :
      (∀ b, OwnUpdates tok (k b)) → OwnUpdates tok (loadStopped id k)
  | chanSend (tok : List Nat) (id : Nat) (event : ObjEvent) (k : Prog) :
      OwnUpdates tok k → OwnUpdates tok (chanSend id event k)
  | storeWatchers (tok : List Nat) (watchers : List Nat) (k : Prog) :
      OwnUpdates tok k → OwnUpdates tok (storeWatchers watchers k)
  | newWatcher (tok : List Nat) (k : Nat → List Nat → Prog) :
      (∀ id ws, OwnUpdates tok (k id ws)) → OwnUpdates tok (newWatcher k)
  | stopWatcher (tok : List Nat) (id : Nat) (k : Prog) :
      OwnUpdates tok k → OwnUpdates tok (stopWatcher id k)
  | serve (tok : List Nat) (id : Nat) (res : Except StoreError (Option Obj)) :
      OwnUpdates tok (serve id res)

namespace OwnUpdates

variable {tok : List Nat}

theorem andThen {p : Prog} (hp : OwnUpdates tok p) {f : Except StoreError (Option Obj) → Prog}
    (hf : ∀ r tok', OwnUpdates tok' (f r)) : OwnUpdates tok (p.andThen f) := by
  induction hp with
  | done tok res => exact hf res tok
  | get _ _ _ _ ih => exact .get _ _ _ ih
  | reserveRevAndSlot _ _ _ ih => exact .reserveRevAndSlot _ _ fun r i => ih r i
  | addMemoryRev _ _ _ ih => exact .addMemoryRev _ _ ih
  | put _ _ _ _ _ ht _ ih => exact .put _ _ _ _ _ ht ih
  | del _ _ _ _ ih => exact .del _ _ _ ih
  | loadKvList _ _ _ ih => exact .loadKvList _ _ ih
  | storeSlot _ _ _ _ _ _ ih => exact .storeSlot _ _ _ _ _ ih
  | loadWatchers _ _ _ _ ih => exact .loadWatchers _ _ _ ih
  | loadStopped _ _ _ _ ih => exact .loadStopped _ _ _ ih
  | chanSend _ _ _ _ _ ih => exact .chanSend _ _ _ _ ih
  | storeWatchers _ _ _ _ ih => exact .storeWatchers _ _ _ ih
  | newWatcher _ _ _ ih => exact .newWatcher _ _ fun id ws => ih id ws
  | stopWatcher _ _ _ _ ih => exact .stopWatcher _ _ _ ih
  | serve => exact .serve _ _ _

theorem setSlot {k : Prog} (hk : OwnUpdates tok k) (index : Nat) (v : Option ObjWithIndex) :
    OwnUpdates tok (Interleaved.setSlot index v k) :=
  .loadKvList _ _ fun _ => .storeSlot _ _ _ _ _ hk

theorem fanout {k : Prog} (hk : OwnUpdates tok k) (event : ObjEvent) :
    ∀ watchers rest, OwnUpdates tok (Interleaved.fanout event k watchers rest)
  | _, [] => .storeWatchers _ _ _ hk
  | _, _ :: rest => .loadStopped _ _ _ fun
    | true => fanout hk event _ rest
    | false => .chanSend _ _ _ _ (fanout hk event _ rest)

theorem sendEvent {k : Prog} (hk : OwnUpdates tok k) (event : ObjEvent) :
    OwnUpdates tok (Interleaved.sendEvent event k) :=
  .loadWatchers _ _ _ fun _ => hk.fanout event [] _

end OwnUpdates

section

variable (key : String) (keys : List String) {tok : List Nat}

theorem ownUpdates_writeCreated (objWi : ObjWithIndex) (rev : Nat)
    (ht : objWi.obj.resourceVersion ∈ tok) : OwnUpdates tok (writeCreated key keys objWi rev) :=
  .put _ _ _ _ _ ht fun
    | .error _ => .done _ _
    | .ok () => ((OwnUpdates.done _ _).sendEvent _).setSlot _ _

theorem ownUpdates_writeUpdated (cur : ObjWithIndex) (oldObj : Obj) (objWi : ObjWithIndex)
    (rev : Nat) (ht : objWi.obj.resourceVersion ∈ tok) :
    OwnUpdates tok (writeUpdated key keys cur oldObj objWi rev) :=
  .put _ _ _ _ _ ht fun
    | .error _ => .done _ _
    | .ok () => (((OwnUpdates.done _ _).sendEvent _).setSlot _ _).setSlot _ _

theorem ownUpdates_createObj (obj : Obj) : OwnUpdates tok (createObj key keys obj) :=
  .reserveRevAndSlot _ _ fun _ _ => ownUpdates_writeCreated key keys _ _ (List.mem_cons_self _ _)

theorem ownUpdates_updateObj (cur : ObjWithIndex) (u : UpdateOutcome) :
    OwnUpdates tok (updateObj key keys cur u) :=
  .reserveRevAndSlot _ _ fun _ _ =>
    ownUpdates_writeUpdated key keys _ _ _ _ (List.mem_cons_self _ _)

theorem ownUpdates_delete (p : Option Preconditions) (v : Option (Obj → Except StoreError Unit)) :
    OwnUpdates tok (delete key p v) := by
  refine .get _ _ _ fun
    | none => .done _ _
    | some cur => ?_
  dsimp only
  split
  · exact .done _ _
  · exact .addMemoryRev _ _ fun _ => .del _ _ _ fun
      | .error _ => .done _ _
      | .ok () => ((OwnUpdates.done _ _).sendEvent _).setSlot _ _

theorem ownUpdates_guaranteedUpdate (i : Bool) (p : Option Preconditions)
    (f : Obj → Except StoreError UpdateOutcome) : OwnUpdates tok (guaranteedUpdate key i p f) := by
  refine .get _ _ _ fun
    | none => .done _ _
    | some cur => ?_
  dsimp only
  split
  · exact .done _ _
  · exact ownUpdates_updateObj ..

end

/-- 書き込み系の呼び出しは、自分が取った revision の object だけを `put` する。 -/
theorem ownUpdates_call {tok : List Nat} : ∀ c : Call, OwnUpdates tok (call c)
  | .create key obj => .get _ _ _ fun
      | some _ => .done _ _
      | none => ownUpdates_createObj ..
  | .delete key p v => ownUpdates_delete key p v
  | .guaranteedUpdate key i p f => ownUpdates_guaranteedUpdate key i p f
  | .createOrUpdate key obj m => by
    refine .get _ _ _ fun
      | none => ownUpdates_createObj ..
      | some cur => ?_
    dsimp only
    split
    · exact .done _ _
    · split
      · exact .done _ _
      · exact ownUpdates_updateObj ..
  | .getOrCreate key obj => .get _ _ _ fun
      | none => ownUpdates_createObj ..
      | some _ => .done _ _
  | .createOrReplace key obj => .reserveRevAndSlot _ _ fun _ _ => .get _ _ _ fun
      | none => ownUpdates_writeCreated _ _ _ _ (List.mem_cons_self _ _)
      | some _ => ownUpdates_writeUpdated _ _ _ _ _ _ (List.mem_cons_self _ _)
  | .ensureUpdateAndDelete key i p obj =>
    (ownUpdates_guaranteedUpdate ..).andThen fun
      | .ok (some output) => fun _ => by
        dsimp only
        split
        · exact (ownUpdates_delete ..).andThen fun _ _ => .done _ _
        · exact .done _ _
      | .ok none => fun _ => .done _ _
      | .error _ => fun _ => .done _ _

theorem ownUpdates_watch {tok : List Nat} : ∀ r : Except StoreError Unit, OwnUpdates tok (watch r)
  | .ok () => .newWatcher _ _ fun _ _ => .storeWatchers _ _ _ (.serve _ _ _)
  | .error _ => .newWatcher _ _ fun _ _ => .storeWatchers _ _ _ (.done _ _)

/-! ## 共有状態と ghost -/

/-- 共有状態と、全 goroutine の取った revision `tok` の関係。置き換えた revision は重複せず、どれも
`_MemoryRev` 以下である。map の object の revision は `_MemoryRev` 以下で、key ごとに違い、まだ
置き換えられていない。取った revision も同じで、まだ map に無い。 -/
structure UpdInv (sh : Shared) (tok : List Nat) : Prop where
  live : ∀ keys v, sh.kvs.get keys = some v →
    v.obj.resourceVersion ≤ sh.memoryRev ∧ v.obj.resourceVersion ∉ sh.replaced
  liveUnique : ∀ keys keys' v v', sh.kvs.get keys = some v → sh.kvs.get keys' = some v' →
    v.obj.resourceVersion = v'.obj.resourceVersion → keys = keys'
  nodup : sh.replaced.Nodup
  replacedLe : ∀ r ∈ sh.replaced, r ≤ sh.memoryRev
  fresh : ∀ t ∈ tok, t ≤ sh.memoryRev ∧ t ∉ sh.replaced ∧
    ∀ keys v, sh.kvs.get keys = some v → v.obj.resourceVersion ≠ t
  tokNodup : tok.Nodup

namespace UpdInv

variable {sh : Shared} {tok : List Nat}

/-- map と置き換えた revision を変えず、`_MemoryRev` を減らさない一歩。取った revision の列は
並べ替えてよい。 -/
theorem mono (h : UpdInv sh tok) {sh' : Shared} {tok' : List Nat} (hk : sh'.kvs = sh.kvs)
    (hr : sh'.replaced = sh.replaced) (hm : sh.memoryRev ≤ sh'.memoryRev) (ht : tok'.Perm tok) :
    UpdInv sh' tok' where
  live keys v hv := by
    rw [hk] at hv
    obtain ⟨hle, hD⟩ := h.live keys v hv
    exact ⟨hle.trans hm, hr ▸ hD⟩
  liveUnique := hk ▸ h.liveUnique
  nodup := hr ▸ h.nodup
  replacedLe r hr' := (h.replacedLe r (hr ▸ hr')).trans hm
  fresh t htk := by
    obtain ⟨hle, hD, hlive⟩ := h.fresh t (ht.mem_iff.mp htk)
    exact ⟨hle.trans hm, hr ▸ hD, hk ▸ hlive⟩
  tokNodup := ht.nodup_iff.mpr h.tokNodup

theorem perm (h : UpdInv sh tok) {tok' : List Nat} (ht : tok.Perm tok') : UpdInv sh tok' :=
  h.mono rfl rfl le_rfl ht.symm

/-- 取った revision を減らす。 -/
theorem sublist_tok (h : UpdInv sh tok) {tok' : List Nat} (hsub : tok'.Sublist tok) :
    UpdInv sh tok' :=
  { h with
    fresh := fun t ht => h.fresh t (hsub.subset ht)
    tokNodup := hsub.nodup h.tokNodup }

/-- `reserveRevAndSlot`：次の revision を取る。それはまだ置き換えられておらず、map にも無い。 -/
theorem reserve (h : UpdInv sh tok) : UpdInv sh.reserve ((sh.memoryRev + 1) :: tok) := by
  have h' : UpdInv sh.reserve tok := h.mono rfl rfl (Nat.le_succ _) (List.Perm.refl _)
  refine { h' with fresh := fun t ht => ?_, tokNodup := ?_ }
  · rcases List.mem_cons.mp ht with rfl | ht
    · refine ⟨le_rfl, fun hD => ?_, fun keys v hv => ?_⟩
      · exact absurd (h.replacedLe _ hD) (Nat.not_succ_le_self _)
      · exact (Nat.lt_succ_of_le (h.live keys v hv).1).ne
    · exact h'.fresh t ht
  · exact List.nodup_cons.mpr ⟨fun ht => absurd (h.fresh _ ht).1 (Nat.not_succ_le_self _),
      h.tokNodup⟩

/-- key の object を map から外す。 -/
theorem remove (h : UpdInv sh tok) (keys : List String) :
    UpdInv { sh with kvs := sh.kvs.set keys none } tok := by
  have old : ∀ {keys' v}, (sh.kvs.set keys none).get keys' = some v → sh.kvs.get keys' = some v :=
    fun hv => by
      simp only [MemoryStoreMap.get_set] at hv
      split at hv
      · cases hv
      · exact hv
  exact ⟨fun keys' v hv => h.live keys' v (old hv),
    fun _ _ _ _ hv hv' => h.liveUnique _ _ _ _ (old hv) (old hv'), h.nodup, h.replacedLe,
    fun t ht => let ⟨hle, hD, hlive⟩ := h.fresh t ht
      ⟨hle, hD, fun keys' v hv => hlive keys' v (old hv)⟩, h.tokNodup⟩

/-- `keys` の object `cur` を外し、その revision を置き換えた revision に記す。 -/
theorem retire (h : UpdInv sh tok) {keys : List String} {cur : ObjWithIndex}
    (hcur : sh.kvs.get keys = some cur) :
    UpdInv { sh with
      kvs := sh.kvs.set keys none
      replaced := sh.replaced ++ [cur.obj.resourceVersion] } tok := by
  obtain ⟨hle, hnot⟩ := h.live keys cur hcur
  have hr := h.remove keys
  refine ⟨fun keys' v hv => ?_, hr.liveUnique,
    List.nodup_append.mpr ⟨h.nodup, List.nodup_singleton _, List.disjoint_singleton.mpr hnot⟩,
    fun r hr' => ?_, fun t ht => ?_, h.tokNodup⟩
  · obtain ⟨hle', hD'⟩ := hr.live keys' v hv
    refine ⟨hle', fun hmem => ?_⟩
    rcases List.mem_append.mp hmem with hmem | he
    · exact hD' hmem
    · -- 外した object と同じ revision の object は、同じ key にしかない
      simp only [MemoryStoreMap.get_set] at hv
      split at hv
      · cases hv
      · exact ‹¬keys' = keys› (h.liveUnique _ _ _ _ hv hcur (List.mem_singleton.mp he))
  · rcases List.mem_append.mp hr' with hmem | he
    · exact h.replacedLe r hmem
    · exact List.mem_singleton.mp he ▸ hle
  · obtain ⟨hle', hD', hlive⟩ := hr.fresh t ht
    refine ⟨hle', fun hmem => ?_, hlive⟩
    rcases List.mem_append.mp hmem with hmem | he
    · exact hD' hmem
    · exact (h.fresh t ht).2.2 keys cur hcur (List.mem_singleton.mp he).symm

/-- key に、取った revision の object を置く。 -/
theorem insert (h : UpdInv sh tok) (keys : List String) {objWi : ObjWithIndex}
    (ht : objWi.obj.resourceVersion ∈ tok) :
    UpdInv { sh with kvs := sh.kvs.set keys (some objWi) } (tok.erase objWi.obj.resourceVersion) := by
  obtain ⟨tle, tD, tlive⟩ := h.fresh _ ht
  -- 置いた後の map の object は、置いた object か、元の object である
  have cases' : ∀ {keys' v}, (sh.kvs.set keys (some objWi)).get keys' = some v →
      (keys' = keys ∧ v = objWi) ∨ sh.kvs.get keys' = some v := fun hv => by
    simp only [MemoryStoreMap.get_set] at hv
    split at hv
    · exact .inl ⟨‹_›, (Option.some.inj hv).symm⟩
    · exact .inr hv
  refine ⟨fun keys' v hv => ?_, fun k₁ k₂ v₁ v₂ h₁ h₂ he => ?_, h.nodup, h.replacedLe,
    fun t' ht' => ?_, h.tokNodup.erase _⟩
  · rcases cases' hv with ⟨-, rfl⟩ | hv
    · exact ⟨tle, tD⟩
    · exact h.live keys' v hv
  · rcases cases' h₁ with ⟨hk₁, rfl⟩ | h₁' <;> rcases cases' h₂ with ⟨hk₂, rfl⟩ | h₂'
    · exact hk₁.trans hk₂.symm
    · exact absurd he.symm (tlive _ _ h₂')
    · exact absurd he (tlive _ _ h₁')
    · exact h.liveUnique _ _ _ _ h₁' h₂' he
  · obtain ⟨hne, ht'⟩ := (h.tokNodup.mem_erase_iff).mp ht'
    obtain ⟨hle, hD, hlive⟩ := h.fresh t' ht'
    refine ⟨hle, hD, fun keys' v hv => ?_⟩
    rcases cases' hv with ⟨-, rfl⟩ | hv
    · exact Ne.symm hne
    · exact hlive keys' v hv

/-- `put` が通った：作成の `put` は取った revision の object を空の key に置き、更新の `put` は
`expectedRV` の object を置き換え、その revision を記す。 -/
theorem put (h : UpdInv sh tok) {keys : List String} {objWi : ObjWithIndex} {e : Nat}
    {kvs : MemoryStoreMap} (hput : sh.kvs.put keys objWi e = .ok kvs)
    (ht : objWi.obj.resourceVersion ∈ tok) :
    UpdInv (sh.recordPut kvs e) (tok.erase objWi.obj.resourceVersion) := by
  obtain ⟨hallowed, rfl⟩ := MemoryStoreMap.put_eq_ok.mp hput
  unfold MemoryStoreMap.putAllowed at hallowed
  cases hg : sh.kvs.get keys with
  | none =>
    rw [hg, beq_iff_eq] at hallowed
    subst hallowed
    simpa [Shared.recordPut] using h.insert keys ht
  | some cur =>
    rw [hg] at hallowed
    obtain ⟨he0, hrv⟩ : e ≠ 0 ∧ cur.obj.resourceVersion = e := by simpa using hallowed
    have h' := (h.retire hg).insert keys ht
    simp only [MemoryStoreMap.set_set, hrv] at h'
    simpa [Shared.recordPut, he0] using h'

end UpdInv

/-! ## 一歩 -/

/-- 一歩は `UpdInv` を保つ。変わるのは、動いた goroutine の ghost だけである。 -/
theorem OwnUpdates.step {tok : List Nat} {p : Prog} (hp : OwnUpdates tok p) {tokO : List Nat}
    {sh sh' : Shared} {p' : Prog} (hs : UpdInv sh (tok ++ tokO)) (h : p.step sh = some (sh', p')) :
    ∃ tok', OwnUpdates tok' p' ∧ UpdInv sh' (tok' ++ tokO) := by
  have keep : sh'.kvs = sh.kvs → sh'.replaced = sh.replaced → sh.memoryRev ≤ sh'.memoryRev →
      OwnUpdates tok p' → ∃ tok', OwnUpdates tok' p' ∧ UpdInv sh' (tok' ++ tokO) :=
    fun hk hr hm hp' => ⟨tok, hp', hs.mono hk hr hm (List.Perm.refl _)⟩
  cases hp with
  | done => cases h
  | reserveRevAndSlot _ _ hk => cases h; exact ⟨_, hk _ _, hs.reserve⟩
  | addMemoryRev _ _ hk => cases h; exact keep rfl rfl (Nat.le_succ _) (hk _)
  | put _ keys objWi e _ ht hk =>
    rcases step_put_inv h with ⟨_, -, rfl, rfl⟩ | ⟨kvs, hput, rfl, rfl⟩
    · exact ⟨_, hk (.error _), hs.sublist_tok ((List.erase_sublist _ _).append_right _)⟩
    refine ⟨_, hk _, ?_⟩
    have := hs.put hput (List.mem_append_left _ ht)
    rwa [List.erase_append_left _ ht] at this
  | del _ keys _ hk =>
    rcases step_del_inv h with ⟨_, -, rfl, rfl⟩ | ⟨kvs, hdel, rfl, rfl⟩
    · exact keep rfl rfl le_rfl (hk _)
    obtain ⟨-, rfl⟩ := MemoryStoreMap.del_eq_ok.mp hdel
    exact ⟨tok, hk _, hs.remove keys⟩
  | storeSlot _ _ _ _ _ hk => cases h; exact keep (by simp) (by simp) (by simp) hk
  | chanSend _ _ _ _ hk => obtain ⟨-, rfl, rfl⟩ := step_chanSend_inv h; exact keep rfl rfl le_rfl hk
  | serve => obtain ⟨-, -, rfl, rfl⟩ := step_serve_inv h; exact keep rfl rfl le_rfl (.serve _ _ _)
  | get _ _ _ hk | loadKvList _ _ hk | loadWatchers _ _ _ hk | loadStopped _ _ _ hk
  | newWatcher _ _ hk => cases h; exact keep rfl rfl le_rfl (hk ..)
  | storeWatchers _ _ _ hk | stopWatcher _ _ _ hk => cases h; exact keep rfl rfl le_rfl hk

/-! ## 交互実行の不変条件 -/

/-- goroutine ごとに ghost があり、どの goroutine の仕事も自分の ghost に従い、その和と共有状態が
`UpdInv` を満たす。 -/
def UpdSysInv (s : Sys) : Prop :=
  ∃ ts : List (List Nat × Prog), ts.map Prod.snd = s.threads ∧
    (∀ x ∈ ts, OwnUpdates x.1 x.2) ∧ UpdInv s.shared (ts.map Prod.fst).flatten

theorem updSysInv_init (rt : Runtime) (rev : Nat) {threads : List Prog}
    (h : ∀ p ∈ threads, OwnUpdates [] p) : UpdSysInv (Sys.init rt rev threads) := by
  refine ⟨threads.map fun p => ([], p), by simp [Sys.init], by simpa using h, ?_⟩
  rw [show ((threads.map fun p => (([] : List Nat), p)).map Prod.fst).flatten = [] from
    List.flatten_eq_nil_iff.mpr (by simp)]
  refine ⟨?_, ?_, ?_, ?_, ?_, ?_⟩ <;>
    simp [Sys.init, Shared.init, MemoryStoreMap.get, MemoryStoreMap.empty]

theorem UpdSysInv.step {s : Sys} (h : UpdSysInv s) (i : Nat) : UpdSysInv (s.step i) := by
  obtain ⟨ts, hts, hown, hinv⟩ := h
  rcases s.step_eq i with he | ⟨p, sh', p', hp, hstep, he⟩ <;> rw [he]
  · exact ⟨ts, hts, hown, hinv⟩
  obtain ⟨⟨tok, q⟩, hx, rfl⟩ : ∃ x, ts[i]? = some x ∧ x.2 = p := by
    rw [← hts, List.getElem?_map] at hp
    simpa using hp
  have h₁ : (ts.map Prod.fst)[i]? = some tok := by simp [List.getElem?_map, hx]
  obtain ⟨tok', hq', hinv'⟩ :=
    (hown _ (List.getElem?_mem hx)).step (hinv.perm (flatten_set_perm _ i _ h₁ []).2) hstep
  refine ⟨ts.set i (tok', p'), by rw [List.map_set, hts], forall_mem_set hown hq', ?_⟩
  simp only [List.map_set]
  exact hinv'.perm (flatten_set_perm _ i _ h₁ tok').1.symm

theorem UpdSysInv.runSchedule {s : Sys} (h : UpdSysInv s) (σ : List Nat) :
    UpdSysInv (s.runSchedule σ) := by
  induction σ generalizing s with
  | nil => exact h
  | cons i σ ih => exact ih (h.step i)

theorem updSysInv_calls (rt : Runtime) (rev : Nat) {threads : List Prog}
    (hthreads : ∀ p ∈ threads, (∃ c, p = call c) ∨ ∃ r, p = watch r) :
    UpdSysInv (Sys.init rt rev threads) :=
  updSysInv_init rt rev fun p hp => by
    rcases hthreads p hp with ⟨c, rfl⟩ | ⟨r, rfl⟩
    · exact ownUpdates_call c
    · exact ownUpdates_watch r

/-- 書き込み系の呼び出しと `watch` を goroutine として並べ、どの実行時の環境でどう交互に進めても、
通った更新の `kvs.put` が置き換えた object の revision はどれも違う：同じ object を読んだ二つの
更新が、両方とも書かれることはない。 -/
theorem runSchedule_replaced_nodup (rt : Runtime) (rev : Nat) {threads : List Prog}
    (hthreads : ∀ p ∈ threads, (∃ c, p = call c) ∨ ∃ r, p = watch r) (σ : List Nat) :
    ((Sys.init rt rev threads).runSchedule σ).shared.replaced.Nodup := by
  obtain ⟨ts, -, -, hinv⟩ := (updSysInv_calls rt rev hthreads).runSchedule σ
  exact hinv.nodup

/-- `Create` の後、二つの `GuaranteedUpdate` が同じ object を読む。先に `put` した方が書かれ、後の
方の `put` は revision が合わずに `Conflict` を返し、置き換えた revision は一つだけである。 -/
theorem runSchedule_replaced_nodup_conflict :
    (∀ p ∈ [call (.create "/g/ns/k" Obj.zero),
        call (.guaranteedUpdate "/g/ns/k" false none fun o => .ok ⟨o, some o⟩),
        call (.guaranteedUpdate "/g/ns/k" false none fun o => .ok ⟨o, some o⟩)],
        (∃ c, p = call c) ∨ ∃ r, p = watch r) ∧
      ((Sys.init (Runtime.doubling 1) 0 [call (.create "/g/ns/k" Obj.zero),
        call (.guaranteedUpdate "/g/ns/k" false none fun o => .ok ⟨o, some o⟩),
        call (.guaranteedUpdate "/g/ns/k" false none fun o => .ok ⟨o, some o⟩)]).runSchedule
          [0, 0, 0, 0, 0, 0, 0, 1, 2, 1, 1, 1, 1, 1, 1, 1, 1, 2, 2]).results =
        [some (.ok (some (Obj.zero.setResourceVersion 1))),
          some (.ok (some (Obj.zero.setResourceVersion 2))),
          some (.error (.conflict (splitKey "/g/ns/k") 1))] ∧
      ((Sys.init (Runtime.doubling 1) 0 [call (.create "/g/ns/k" Obj.zero),
        call (.guaranteedUpdate "/g/ns/k" false none fun o => .ok ⟨o, some o⟩),
        call (.guaranteedUpdate "/g/ns/k" false none fun o => .ok ⟨o, some o⟩)]).runSchedule
          [0, 0, 0, 0, 0, 0, 0, 1, 2, 1, 1, 1, 1, 1, 1, 1, 1, 2, 2]).shared.replaced = [1] ∧
      ((Sys.init (Runtime.doubling 1) 0 [call (.create "/g/ns/k" Obj.zero),
        call (.guaranteedUpdate "/g/ns/k" false none fun o => .ok ⟨o, some o⟩),
        call (.guaranteedUpdate "/g/ns/k" false none fun o => .ok ⟨o, some o⟩)]).runSchedule
          [0, 0, 0, 0, 0, 0, 0, 1, 2, 1, 1, 1, 1, 1, 1, 1, 1, 2, 2]).shared.replaced.Nodup :=
  have h : ∀ p ∈ [call (.create "/g/ns/k" Obj.zero),
      call (.guaranteedUpdate "/g/ns/k" false none fun o => .ok ⟨o, some o⟩),
      call (.guaranteedUpdate "/g/ns/k" false none fun o => .ok ⟨o, some o⟩)],
      (∃ c, p = call c) ∨ ∃ r, p = watch r := by
    simp only [List.mem_cons, List.mem_singleton, List.not_mem_nil, or_false]
    rintro p (rfl | rfl | rfl) <;> exact .inl ⟨_, rfl⟩
  ⟨h, by decide, by decide, runSchedule_replaced_nodup _ 0 h _⟩

/-- 書き込み系の呼び出しと `watch` をどの実行時の環境でどう交互に進めても、map の二つの key が
同じ resource version の object を持つことはない。revision は `reserveRevAndSlot` で一つずつ取られ、
取った revision の object を `put` するのは取った goroutine だけである。 -/
theorem runSchedule_live_revs_unique (rt : Runtime) (rev : Nat) {threads : List Prog}
    (hthreads : ∀ p ∈ threads, (∃ c, p = call c) ∨ ∃ r, p = watch r) (σ : List Nat) :
    ∀ keys keys' v v', ((Sys.init rt rev threads).runSchedule σ).shared.kvs.get keys = some v →
      ((Sys.init rt rev threads).runSchedule σ).shared.kvs.get keys' = some v' →
      v.obj.resourceVersion = v'.obj.resourceVersion → keys = keys' := by
  obtain ⟨ts, -, -, hinv⟩ := (updSysInv_calls rt rev hthreads).runSchedule σ
  exact hinv.liveUnique

/-- `/g/ns/k` と `/g/ns/l` を交互に作り、`/g/ns/k` を更新する。 -/
theorem runSchedule_live_revs_unique_interleaved :
    (∀ p ∈ [call (.create "/g/ns/k" Obj.zero), call (.create "/g/ns/l" Obj.zero),
        call (.guaranteedUpdate "/g/ns/k" false none fun o => .ok ⟨o, some o⟩)],
        (∃ c, p = call c) ∨ ∃ r, p = watch r) ∧
      ∀ keys keys' v v', ((Sys.init (Runtime.doubling 1) 0 [call (.create "/g/ns/k" Obj.zero),
          call (.create "/g/ns/l" Obj.zero),
          call (.guaranteedUpdate "/g/ns/k" false none fun o => .ok ⟨o, some o⟩)]).runSchedule
            [0, 1, 0, 1, 0, 1, 0, 1, 2, 2, 2, 2, 2, 2, 2, 2, 2]).shared.kvs.get keys = some v →
        ((Sys.init (Runtime.doubling 1) 0 [call (.create "/g/ns/k" Obj.zero),
          call (.create "/g/ns/l" Obj.zero),
          call (.guaranteedUpdate "/g/ns/k" false none fun o => .ok ⟨o, some o⟩)]).runSchedule
            [0, 1, 0, 1, 0, 1, 0, 1, 2, 2, 2, 2, 2, 2, 2, 2, 2]).shared.kvs.get keys' = some v' →
        v.obj.resourceVersion = v'.obj.resourceVersion → keys = keys' :=
  have h : ∀ p ∈ [call (.create "/g/ns/k" Obj.zero), call (.create "/g/ns/l" Obj.zero),
      call (.guaranteedUpdate "/g/ns/k" false none fun o => .ok ⟨o, some o⟩)],
      (∃ c, p = call c) ∨ ∃ r, p = watch r := by
    simp only [List.mem_cons, List.mem_singleton, List.not_mem_nil, or_false]
    rintro p (rfl | rfl | rfl) <;> exact .inl ⟨_, rfl⟩
  ⟨h, runSchedule_live_revs_unique _ 0 h _⟩

end Interleaved

end FornaxStore
