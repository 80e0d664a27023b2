import FornaxStore.Properties.Interleaving

/-!
# 交互実行の下の revision

`reserveRevAndSlot` は `revmu` の中で revision を一つ進め、`kvList` の後ろに空の slot を一つ足す。
revision と slot を同じ lock の中で取るので、後から取った slot ほど revision が大きい。goroutine は
自分が取った slot にだけ object を書き、その revision は slot と一緒に取ったものである。ほかの
goroutine がその slot に書くのは、空にするときだけである。`ms.kvList[index] = v` は slice の
header を読んでから要素に書く二歩であり、その間に `append` が配列を取り替える（`Runtime.reallocAt`）と、
書き込みは古い配列に行って失われる。失われた書き込みは slot を元のまま残すだけなので、以下の
性質はどちらの場合にも成り立つ。

そこで、どう交互に進めても、`kvList` の空でない slot は自分の位置を `index` に持ち、revision は
位置の順に真に増える（`runSchedule_slotsOrdered`）。`binarySearchInObjList` と `GetList` の
revision の境目は、この順序に頼っている。

証明は、これまでに取った revision の列 `reserved`（ghost）を置く。`SharedSlots` は共有状態と
`reserved` の関係、`OwnSlots R p` は goroutine `p` がこの先 slot や map に書くものが、自分の取った
組 `R` の中にあることである。

revision を取るのは `reserveRevAndSlot` と `Delete` の `atomic.AddUint64` だけで、どちらも
`revmu` の中で counter を一つ進める。goroutine は取った revision を event に一度だけ使う。そこで、
どう交互に進めても、`sendEvent` に渡された event の revision はどれも違う
（`runSchedule_sent_revs_nodup`）。証明は、goroutine ごとにまだ event にしていない revision の列を
ghost として置き、渡した event の revision と合わせた列が重複を持たないことを保つ（`RevInv`）。

## 主な結果

* `OwnSlots.step` — 一歩は `SharedSlots` を保ち、`reserved` を後ろに伸ばすだけである
* `ownSlots_call` — 書き込み系の呼び出しは、どれも取った slot にだけ書く
* `runSchedule_slotsOrdered` — どの schedule の後も、空でない slot は位置の順に revision が増える
* `OwnRevs.step` — 一歩は、revision を一つ新しく取るか、持っている revision を event に移すか、
  何もしない
* `runSchedule_sent_revs_nodup` — どの schedule の後も、渡された event の revision は重複しない
-/

namespace FornaxStore

namespace Interleaved

open Prog

/-! ## goroutine が書く slot -/

/-- goroutine の仕事がこの先 `kvList` に書く object と map に置く object は、自分が取った
`(index, revision)` の組 `R` の一つを位置と revision に持つ。slot を空にするのはいつでもよい。 -/
inductive OwnSlots : List (Nat × Nat) → Prog → Prop
  | done (R : List (Nat × Nat)) (res : Except StoreError (Option Obj)) : OwnSlots R (done res)
  | get (R : List (Nat × Nat)) (keys : List String) (k : Option ObjWithIndex → Prog) :
      (∀ v, OwnSlots R (k v)) → OwnSlots R (get keys k)
  | reserveRevAndSlot (R : List (Nat × Nat)) (k : Nat → Nat → Prog) :
      (∀ rev index, OwnSlots ((index, rev) :: R) (k rev index)) →
        OwnSlots R (reserveRevAndSlot k)
  | addMemoryRev (R : List (Nat × Nat)) (k : Nat → Prog) :
      (∀ rev, OwnSlots R (k rev)) → OwnSlots R (addMemoryRev k)
  | put (R : List (Nat × Nat)) (keys : List String) (objWi : ObjWithIndex) (expectedRV : Nat)
      (k : Except StoreError Unit → Prog) : (objWi.index, objWi.obj.resourceVersion) ∈ R →
      (∀ r, OwnSlots R (k r)) → OwnSlots R (put keys objWi expectedRV k)
  | del (R : List (Nat × Nat)) (keys : List String) (k : Except StoreError Unit → Prog) :
      (∀ r, OwnSlots R (k r)) → OwnSlots R (del keys k)
  | loadKvList (R : List (Nat × Nat)) (k : Nat → Prog) :
      (∀ a, OwnSlots R (k a)) → OwnSlots R (loadKvList k)
  | clearSlot (R : List (Nat × Nat)) (array index : Nat) (k : Prog) :
      OwnSlots R k → OwnSlots R (storeSlot array index none k)
  | fillSlot (R : List (Nat × Nat)) (array : Nat) (v : ObjWithIndex) (k : Prog) :
      (v.index, v.obj.resourceVersion) ∈ R → OwnSlots R k →
        OwnSlots R (storeSlot array v.index (some v) k)
  | loadWatchers (R : List (Nat × Nat)) (event : ObjEvent) (k : List Nat → Prog) :
      (∀ ws, OwnSlots R (k ws)) → OwnSlots R (loadWatchers event k)
  | loadStopped (R : List (Nat × Nat)) (id : Nat) (k : Bool → Prog) :
      (∀ b, OwnSlots R (k b)) → OwnSlots R (loadStopped id k)
  | chanSend (R : List (Nat × Nat)) (id : Nat) (event : ObjEvent) (k : Prog) :
      OwnSlots R k → OwnSlots R (chanSend id event k)
  | storeWatchers (R : List (Nat × Nat)) (watchers : List Nat) (k : Prog) :
      OwnSlots R k → OwnSlots R (storeWatchers watchers k)
  | newWatcher (R : List (Nat × Nat)) (k : Nat → List Nat → Prog) :
      (∀ id ws, OwnSlots R (k id ws)) → OwnSlots R (newWatcher k)
  | stopWatcher (R : List (Nat × Nat)) (id : Nat) (k : Prog) :
      OwnSlots R k → OwnSlots R (stopWatcher id k)
  | serve (R : List (Nat × Nat)) (id : Nat) (res : Except StoreError (Option Obj)) :
      OwnSlots R (serve id res)

namespace OwnSlots

/-- 取った組が増えても、書いてよいものは減らない。 -/
theorem mono {R : List (Nat × Nat)} {p : Prog} (hp : OwnSlots R p) :
    ∀ {R'}, R ⊆ R' → OwnSlots R' p := by
  induction hp with
  | done => intro _ _; exact .done _ _
  | get _ _ _ _ ih => intro _ h; exact .get _ _ _ fun v => ih v h
  | reserveRevAndSlot _ _ _ ih =>
    intro _ h; exact .reserveRevAndSlot _ _ fun r i => ih r i (List.cons_subset_cons _ h)
  | addMemoryRev _ _ _ ih => intro _ h; exact .addMemoryRev _ _ fun r => ih r h
  | put _ _ _ _ _ hmem _ ih => intro _ h; exact .put _ _ _ _ _ (h hmem) fun r => ih r h
  | del _ _ _ _ ih => intro _ h; exact .del _ _ _ fun r => ih r h
  | loadKvList _ _ _ ih => intro _ h; exact .loadKvList _ _ fun a => ih a h
  | clearSlot _ _ _ _ _ ih => intro _ h; exact .clearSlot _ _ _ _ (ih h)
  | fillSlot _ _ _ _ hmem _ ih => intro _ h; exact .fillSlot _ _ _ _ (h hmem) (ih h)
  | loadWatchers _ _ _ _ ih => intro _ h; exact .loadWatchers _ _ _ fun ws => ih ws h
  | loadStopped _ _ _ _ ih => intro _ h; exact .loadStopped _ _ _ fun b => ih b h
  | chanSend _ _ _ _ _ ih => intro _ h; exact .chanSend _ _ _ _ (ih h)
  | storeWatchers _ _ _ _ ih => intro _ h; exact .storeWatchers _ _ _ (ih h)
  | newWatcher _ _ _ ih => intro _ h; exact .newWatcher _ _ fun id ws => ih id ws h
  | stopWatcher _ _ _ _ ih => intro _ h; exact .stopWatcher _ _ _ (ih h)
  | serve => intro _ _; exact .serve _ _ _

theorem andThen {R : List (Nat × Nat)} {p : Prog} (hp : OwnSlots R p)
    {f : Except StoreError (Option Obj) → Prog} (hf : ∀ r, OwnSlots R (f r)) :
    OwnSlots R (p.andThen f) := by
  induction hp with
  | done _ res => exact hf res
  | get _ _ _ _ ih => exact .get _ _ _ fun v => ih v hf
  | reserveRevAndSlot _ _ _ ih =>
    exact .reserveRevAndSlot _ _ fun r i =>
      ih r i fun res => (hf res).mono (List.subset_cons_self _ _)
  | addMemoryRev _ _ _ ih => exact .addMemoryRev _ _ fun r => ih r hf
  | put _ _ _ _ _ hmem _ ih => exact .put _ _ _ _ _ hmem fun r => ih r hf
  | del _ _ _ _ ih => exact .del _ _ _ fun r => ih r hf
  | loadKvList _ _ _ ih => exact .loadKvList _ _ fun a => ih a hf
  | clearSlot _ _ _ _ _ ih => exact .clearSlot _ _ _ _ (ih hf)
  | fillSlot _ _ _ _ hmem _ ih => exact .fillSlot _ _ _ _ hmem (ih hf)
  | loadWatchers _ _ _ _ ih => exact .loadWatchers _ _ _ fun ws => ih ws hf
  | loadStopped _ _ _ _ ih => exact .loadStopped _ _ _ fun b => ih b hf
  | chanSend _ _ _ _ _ ih => exact .chanSend _ _ _ _ (ih hf)
  | storeWatchers _ _ _ _ ih => exact .storeWatchers _ _ _ (ih hf)
  | newWatcher _ _ _ ih => exact .newWatcher _ _ fun id ws => ih id ws hf
  | stopWatcher _ _ _ _ ih => exact .stopWatcher _ _ _ (ih hf)
  | serve => exact .serve _ _ _

/-- slot を空にする `kvList[index] = nil`。 -/
theorem setSlot_none {R : List (Nat × Nat)} {k : Prog} (hk : OwnSlots R k) (index : Nat) :
    OwnSlots R (setSlot index none k) :=
  .loadKvList _ _ fun _ => .clearSlot _ _ _ _ hk

/-- 取った組の slot に object を書く `kvList[index] = objWi`。 -/
theorem setSlot_some {R : List (Nat × Nat)} {k : Prog} (hk : OwnSlots R k) {v : ObjWithIndex}
    (hv : (v.index, v.obj.resourceVersion) ∈ R) : OwnSlots R (setSlot v.index (some v) k) :=
  .loadKvList _ _ fun _ => .fillSlot _ _ _ _ hv hk

theorem fanout {R : List (Nat × Nat)} {k : Prog} (hk : OwnSlots R k) (event : ObjEvent) :
    ∀ watchers rest, OwnSlots R (Interleaved.fanout event k watchers rest)
  | _, [] => .storeWatchers _ _ _ hk
  | _, _ :: rest => .loadStopped _ _ _ fun
    | true => fanout hk event _ rest
    | false => .chanSend _ _ _ _ (fanout hk event _ rest)

theorem sendEvent {R : List (Nat × Nat)} {k : Prog} (hk : OwnSlots R k) (event : ObjEvent) :
    OwnSlots R (Interleaved.sendEvent event k) :=
  .loadWatchers _ _ _ fun _ => hk.fanout event [] _

end OwnSlots

/-! ## 書き込み系の呼び出し -/

section

variable (key : String) (keys : List String)

theorem ownSlots_writeCreated {R : List (Nat × Nat)} (objWi : ObjWithIndex) (rev : Nat)
    (h : (objWi.index, objWi.obj.resourceVersion) ∈ R) : OwnSlots R (writeCreated key keys objWi rev) :=
  .put _ _ _ _ _ h fun
    | .error _ => .done _ _
    | .ok () => ((OwnSlots.done _ _).sendEvent _).setSlot_some h

theorem ownSlots_writeUpdated {R : List (Nat × Nat)} (cur : ObjWithIndex) (oldObj : Obj)
    (objWi : ObjWithIndex) (rev : Nat) (h : (objWi.index, objWi.obj.resourceVersion) ∈ R) :
    OwnSlots R (writeUpdated key keys cur oldObj objWi rev) :=
  .put _ _ _ _ _ h fun
    | .error _ => .done _ _
    | .ok () => (((OwnSlots.done _ _).sendEvent _).setSlot_some h).setSlot_none _

theorem ownSlots_createObj (R : List (Nat × Nat)) (obj : Obj) :
    OwnSlots R (createObj key keys obj) :=
  .reserveRevAndSlot _ _ fun _ _ => ownSlots_writeCreated key keys _ _ (.head _)

theorem ownSlots_updateObj (R : List (Nat × Nat)) (cur : ObjWithIndex) (u : UpdateOutcome) :
    OwnSlots R (updateObj key keys cur u) :=
  .reserveRevAndSlot _ _ fun _ _ => ownSlots_writeUpdated key keys _ _ _ _ (.head _)

theorem ownSlots_delete (R : List (Nat × Nat)) (p : Option Preconditions)
    (v : Option (Obj → Except StoreError Unit)) : OwnSlots R (delete key p v) := by
  refine .get _ _ _ fun
    | none => .done _ _
    | some cur => ?_
  dsimp only
  split
  · exact .done _ _
  · exact .addMemoryRev _ _ fun _ => .del _ _ _ fun
      | .error _ => .done _ _
      | .ok () => ((OwnSlots.done _ _).sendEvent _).setSlot_none _

theorem ownSlots_guaranteedUpdate (R : List (Nat × Nat)) (i : Bool) (p : Option Preconditions)
    (f : Obj → Except StoreError UpdateOutcome) : OwnSlots R (guaranteedUpdate key i p f) := by
  refine .get _ _ _ fun
    | none => .done _ _
    | some cur => ?_
  dsimp only
  split
  · exact .done _ _
  · exact ownSlots_updateObj ..

end

/-- 書き込み系の呼び出しは、どれも自分が取った slot にだけ書く。 -/
theorem ownSlots_call : ∀ c : Call, OwnSlots [] (call c)
  | .create key obj => .get _ _ _ fun
      | some _ => .done _ _
      | none => ownSlots_createObj ..
  | .delete key p v => ownSlots_delete key [] p v
  | .guaranteedUpdate key i p f => ownSlots_guaranteedUpdate key [] i p f
  | .createOrUpdate key obj m => by
    refine .get _ _ _ fun
      | none => ownSlots_createObj ..
      | some cur => ?_
    dsimp only
    split
    · exact .done _ _
    · split
      · exact .done _ _
      · exact ownSlots_updateObj ..
  | .getOrCreate key obj => .get _ _ _ fun
      | none => ownSlots_createObj ..
      | some _ => .done _ _
  | .createOrReplace key obj => .reserveRevAndSlot _ _ fun _ _ => .get _ _ _ fun
      | none => ownSlots_writeCreated _ _ _ _ (.head _)
      | some _ => ownSlots_writeUpdated _ _ _ _ _ _ (.head _)
  | .ensureUpdateAndDelete key i p obj => by
    refine (ownSlots_guaranteedUpdate ..).andThen fun
      | .ok (some output) => ?_
      | .ok none => .done _ _
      | .error _ => .done _ _
    dsimp only
    split
    · exact (ownSlots_delete ..).andThen fun _ => .done _ _
    · exact .done _ _

theorem ownSlots_watch : ∀ r : Except StoreError Unit, OwnSlots [] (watch r)
  | .ok () => .newWatcher _ _ fun _ _ => .storeWatchers _ _ _ (.serve _ _ _)
  | .error _ => .newWatcher _ _ fun _ _ => .storeWatchers _ _ _ (.done _ _)

/-! ## 共有状態と取った revision の列 -/

section

variable {α : Type} {l : List α} {i : Nat} {a : α}

theorem getElem?_append_of_eq_some (h : l[i]? = some a) (t : List α) : (l ++ t)[i]? = some a := by
  rw [List.getElem?_append_left (List.getElem?_eq_some_iff.mp h).1, h]

end

/-- 共有状態と、これまでに取った revision の列 `reserved` の関係。`reserved[i]` は slot `i` と一緒に
取った revision である。 -/
structure SharedSlots (sh : Shared) (reserved : List Nat) : Prop where
  length : reserved.length = sh.kvList.length
  sorted : reserved.Sorted (· < ·)
  le : ∀ r ∈ reserved, r ≤ sh.memoryRev
  slot : ∀ (i : Nat) v, sh.kvList[i]? = some (some v) →
    v.index = i ∧ reserved[i]? = some v.obj.resourceVersion
  kvs : ∀ keys v, sh.kvs.get keys = some v → reserved[v.index]? = some v.obj.resourceVersion

/-- goroutine が取った組 `R` は、どれも `reserved` に記されている。 -/
def Recorded (reserved : List Nat) (R : List (Nat × Nat)) : Prop :=
  ∀ x ∈ R, reserved[x.1]? = some x.2

theorem Recorded.append {reserved : List Nat} {R : List (Nat × Nat)} (h : Recorded reserved R)
    (t : List Nat) : Recorded (reserved ++ t) R := fun x hx => getElem?_append_of_eq_some (h x hx) t

section

variable {sh : Shared} {reserved : List Nat}

/-- `reserveRevAndSlot`：次の revision を記し、空の slot を足す。 -/
theorem SharedSlots.reserve (h : SharedSlots sh reserved) :
    SharedSlots sh.reserve (reserved ++ [sh.memoryRev + 1]) where
  length := by simp [h.length]
  sorted := List.pairwise_append.mpr ⟨h.sorted, List.pairwise_singleton _ _,
    fun r hr _ h' => by rw [List.mem_singleton.mp h']; exact Nat.lt_succ_of_le (h.le r hr)⟩
  le r hr := by
    rcases List.mem_append.mp hr with hr | hr
    · exact Nat.le_succ_of_le (h.le r hr)
    · rw [List.mem_singleton.mp hr]; rfl
  slot i v hv := by
    rw [Shared.reserve_kvList] at hv
    rcases getElem?_concat_eq_some.mp hv with hv | ⟨-, ⟨⟩⟩
    obtain ⟨hi, hr⟩ := h.slot i v hv
    exact ⟨hi, getElem?_append_of_eq_some hr _⟩
  kvs keys v hv := getElem?_append_of_eq_some (h.kvs keys v hv) _

/-- map の一つの key に、記された組の object を置くか、key を消す。 -/
theorem SharedSlots.setKvs (h : SharedSlots sh reserved) (keys : List String)
    {o : Option ObjWithIndex} (ho : ∀ v ∈ o, reserved[v.index]? = some v.obj.resourceVersion) :
    SharedSlots { sh with kvs := sh.kvs.set keys o } reserved where
  length := h.length
  sorted := h.sorted
  le := h.le
  slot := h.slot
  kvs keys' v hv := by
    simp only [MemoryStoreMap.get_set] at hv
    split at hv
    · exact ho v hv
    · exact h.kvs keys' v hv

/-- slot `index` に、記された組の object を書くか、slot を空にする。 -/
theorem SharedSlots.setSlot (h : SharedSlots sh reserved) (index : Nat) {o : Option ObjWithIndex}
    (ho : ∀ v ∈ o, v.index = index ∧ reserved[index]? = some v.obj.resourceVersion) :
    SharedSlots { sh with kvList := sh.kvList.set index o } reserved where
  length := by simp [h.length]
  sorted := h.sorted
  le := h.le
  slot i v hv := by
    rw [List.getElem?_set] at hv
    split at hv
    · next he =>
      subst he
      split at hv
      · exact ho v (Option.some.inj hv)
      · cases hv
    · exact h.slot i v hv
  kvs := h.kvs

/-- backing array `array` の slot `index` に書く。今の array なら `kvList` の slot が変わり、古い
array なら何も変わらない。 -/
theorem SharedSlots.storeSlot (h : SharedSlots sh reserved) (array index : Nat)
    {o : Option ObjWithIndex}
    (ho : ∀ v ∈ o, v.index = index ∧ reserved[index]? = some v.obj.resourceVersion) :
    SharedSlots (sh.storeSlot array index o) reserved := by
  rcases sh.storeSlot_eq array index o with he | he <;> rw [he]
  · exact h
  · exact h.setSlot index ho

/-- `kvs` と `kvList` を変えず、`memoryRev` を減らさない一歩は `SharedSlots` を保つ。 -/
theorem SharedSlots.congr (h : SharedSlots sh reserved) {sh' : Shared} (hk : sh'.kvs = sh.kvs)
    (hl : sh'.kvList = sh.kvList) (hm : sh.memoryRev ≤ sh'.memoryRev) : SharedSlots sh' reserved where
  length := hl ▸ h.length
  sorted := h.sorted
  le r hr := (h.le r hr).trans hm
  slot := hl ▸ h.slot
  kvs := hk ▸ h.kvs

end

/-- 一歩は `SharedSlots` を保ち、`reserved` を後ろに伸ばすだけである。goroutine は、記された組の
中で書き続ける。 -/
theorem OwnSlots.step {R : List (Nat × Nat)} {p : Prog} (hp : OwnSlots R p) {sh sh' : Shared}
    {p' : Prog} {reserved : List Nat} (hs : SharedSlots sh reserved) (hR : Recorded reserved R)
    (h : p.step sh = some (sh', p')) :
    ∃ t R', SharedSlots sh' (reserved ++ t) ∧ OwnSlots R' p' ∧ Recorded (reserved ++ t) R' := by
  have keep : SharedSlots sh' reserved → OwnSlots R p' →
      ∃ t R', SharedSlots sh' (reserved ++ t) ∧ OwnSlots R' p' ∧ Recorded (reserved ++ t) R' :=
    fun hs' hp' => ⟨[], R, by rwa [List.append_nil], hp', by rwa [List.append_nil]⟩
  cases hp with
  | done => cases h
  | get _ _ _ hk => cases h; exact keep hs (hk _)
  | reserveRevAndSlot _ _ hk =>
    cases h
    refine ⟨[sh.memoryRev + 1], _, hs.reserve, hk _ _, fun x hx => ?_⟩
    rcases List.mem_cons.mp hx with rfl | hx
    · simp [← hs.length]
    · exact getElem?_append_of_eq_some (hR x hx) _
  | addMemoryRev _ _ hk => cases h; exact keep (hs.congr rfl rfl (Nat.le_succ _)) (hk _)
  | put _ keys objWi _ _ hmem hk =>
    rcases step_put_inv h with ⟨_, -, rfl, rfl⟩ | ⟨kvs, hput, rfl, rfl⟩
    · exact keep hs (hk _)
    obtain ⟨-, rfl⟩ := MemoryStoreMap.put_eq_ok.mp hput
    exact keep ((hs.setKvs keys fun v hv => Option.some.inj hv ▸ hR _ hmem).congr rfl rfl le_rfl)
      (hk _)
  | del _ keys _ hk =>
    rcases step_del_inv h with ⟨_, -, rfl, rfl⟩ | ⟨kvs, hdel, rfl, rfl⟩
    · exact keep hs (hk _)
    obtain ⟨-, rfl⟩ := MemoryStoreMap.del_eq_ok.mp hdel
    exact keep (hs.setKvs keys fun _ hv => by cases hv) (hk _)
  | clearSlot _ array index _ hk =>
    cases h; exact keep (hs.storeSlot array index fun _ hv => by cases hv) hk
  | fillSlot _ array v _ hmem hk =>
    cases h
    exact keep (hs.storeSlot array v.index fun w hw => Option.some.inj hw ▸ ⟨rfl, hR _ hmem⟩) hk
  | chanSend _ _ _ _ hk =>
    obtain ⟨-, rfl, rfl⟩ := step_chanSend_inv h; exact keep (hs.congr rfl rfl le_rfl) hk
  | serve =>
    obtain ⟨-, -, rfl, rfl⟩ := step_serve_inv h; exact keep (hs.congr rfl rfl le_rfl) (.serve _ _ _)
  | loadKvList _ _ hk | loadWatchers _ _ _ hk | loadStopped _ _ _ hk | newWatcher _ _ hk =>
    cases h; exact keep (hs.congr rfl rfl le_rfl) (hk ..)
  | storeWatchers _ _ _ hk | stopWatcher _ _ _ hk =>
    cases h; exact keep (hs.congr rfl rfl le_rfl) hk

/-! ## 交互実行の不変条件 -/

/-- ある `reserved` について共有状態が `SharedSlots` を満たし、どの goroutine も `reserved` に
記された組の slot にだけ書く。 -/
def SlotInv (s : Sys) : Prop :=
  ∃ reserved, SharedSlots s.shared reserved ∧
    ∀ p ∈ s.threads, ∃ R, OwnSlots R p ∧ Recorded reserved R

theorem slotInv_init (rt : Runtime) (rev : Nat) {threads : List Prog}
    (h : ∀ p ∈ threads, OwnSlots [] p) : SlotInv (Sys.init rt rev threads) := by
  refine ⟨[], ⟨rfl, List.Pairwise.nil, ?_, ?_, ?_⟩, fun p hp => ⟨[], h p hp, ?_⟩⟩ <;>
    simp [Sys.init, Shared.init, Recorded]

theorem SlotInv.step {s : Sys} (h : SlotInv s) (i : Nat) : SlotInv (s.step i) := by
  obtain ⟨reserved, hs, hth⟩ := h
  rcases s.step_eq i with he | ⟨p, sh', p', hp, hstep, he⟩ <;> rw [he]
  · exact ⟨reserved, hs, hth⟩
  · obtain ⟨R, hpR, hRec⟩ := hth p (List.getElem?_mem hp)
    obtain ⟨t, R', hs', hp', hRec'⟩ := hpR.step hs hRec hstep
    refine ⟨reserved ++ t, hs', forall_mem_set (fun q hq => ?_) ⟨R', hp', hRec'⟩⟩
    obtain ⟨Q, hq, hQ⟩ := hth q hq
    exact ⟨Q, hq, hQ.append t⟩

theorem SlotInv.runSchedule {s : Sys} (h : SlotInv s) (σ : List Nat) : SlotInv (s.runSchedule σ) := by
  induction σ generalizing s with
  | nil => exact h
  | cons i σ ih => exact ih (h.step i)

/-- `kvList` の空でない slot は自分の位置を `index` に持ち、revision は位置の順に真に増える。 -/
structure SlotsOrdered (sh : Shared) : Prop where
  index : ∀ (i : Nat) v, sh.kvList[i]? = some (some v) → v.index = i
  increasing : ∀ (i j : Nat) vi vj, i < j → sh.kvList[i]? = some (some vi) →
    sh.kvList[j]? = some (some vj) → vi.obj.resourceVersion < vj.obj.resourceVersion

theorem SharedSlots.slotsOrdered {sh : Shared} {reserved : List Nat} (h : SharedSlots sh reserved) :
    SlotsOrdered sh where
  index i v hv := (h.slot i v hv).1
  increasing i j vi vj hij hi hj := by
    obtain ⟨hi', hri⟩ := List.getElem?_eq_some_iff.mp (h.slot i vi hi).2
    obtain ⟨hj', hrj⟩ := List.getElem?_eq_some_iff.mp (h.slot j vj hj).2
    rw [← hri, ← hrj]
    exact List.pairwise_iff_getElem.mp h.sorted i j hi' hj' hij

/-- 書き込み系の呼び出しと `watch` を goroutine として並べ、どの実行時の環境でどう交互に進めても、
`kvList` の空でない slot は自分の位置を `index` に持ち、revision は位置の順に真に増える。古い
backing array に落ちた書き込みは、slot を元のままにするだけである。 -/
theorem runSchedule_slotsOrdered (rt : Runtime) (rev : Nat) {threads : List Prog}
    (hthreads : ∀ p ∈ threads, (∃ c, p = call c) ∨ ∃ r, p = watch r) (σ : List Nat) :
    SlotsOrdered ((Sys.init rt rev threads).runSchedule σ).shared := by
  have hinit : SlotInv (Sys.init rt rev threads) := slotInv_init rt rev fun p hp => by
    rcases hthreads p hp with ⟨c, rfl⟩ | ⟨r, rfl⟩
    · exact ownSlots_call c
    · exact ownSlots_watch r
  obtain ⟨reserved, hs, -⟩ := hinit.runSchedule σ
  exact hs.slotsOrdered

/-- `Create` と `CreateOrReplace` と `watch` を交互に進め、`Create` の `kvList[0]` への書き込みが
`CreateOrReplace` の `append` の後の古い array に落ちる例。 -/
theorem runSchedule_slotsOrdered_create_replace :
    (∀ p ∈ [call (.create "/g/ns/a" Obj.zero), call (.createOrReplace "/g/ns/b" Obj.zero),
        watch (.ok ())], (∃ c, p = call c) ∨ ∃ r, p = watch r) ∧
      SlotsOrdered ((Sys.init (Runtime.doubling 1) 0 [call (.create "/g/ns/a" Obj.zero),
        call (.createOrReplace "/g/ns/b" Obj.zero), watch (.ok ())]).runSchedule
          [0, 0, 0, 0, 1, 2, 2, 0, 1, 1, 1, 1]).shared :=
  have h : ∀ p ∈ [call (.create "/g/ns/a" Obj.zero), call (.createOrReplace "/g/ns/b" Obj.zero),
      watch (.ok ())], (∃ c, p = call c) ∨ ∃ r, p = watch r := by
    simp only [List.mem_cons, List.mem_singleton, List.not_mem_nil, or_false]
    rintro p (rfl | rfl | rfl)
    exacts [.inl ⟨_, rfl⟩, .inl ⟨_, rfl⟩, .inr ⟨_, rfl⟩]
  ⟨h, runSchedule_slotsOrdered _ 0 h _⟩

/-! ## event の revision -/

/-- goroutine の仕事が持つ revision の列 `O`（取ったが、まだ event にしていないもの）。event を
`sendEvent` に渡すとき、その revision は `O` にあり、渡した後は `O` から一つ除かれる。 -/
inductive OwnRevs : List Nat → Prog → Prop
  | done (O : List Nat) (res : Except StoreError (Option Obj)) : OwnRevs O (done res)
  | get (O : List Nat) (keys : List String) (k : Option ObjWithIndex → Prog) :
      (∀ v, OwnRevs O (k v)) → OwnRevs O (get keys k)
  | reserveRevAndSlot (O : List Nat) (k : Nat → Nat → Prog) :
      (∀ rev index, OwnRevs (rev :: O) (k rev index)) → OwnRevs O (reserveRevAndSlot k)
  | addMemoryRev (O : List Nat) (k : Nat → Prog) :
      (∀ rev, OwnRevs (rev :: O) (k rev)) → OwnRevs O (addMemoryRev k)
  | put (O : List Nat) (keys : List String) (objWi : ObjWithIndex) (expectedRV : Nat)
      (k : Except StoreError Unit → Prog) :
      (∀ r, OwnRevs O (k r)) → OwnRevs O (put keys objWi expectedRV k)
  | del (O : List Nat) (keys : List String) (k : Except StoreError Unit → Prog) :
      (∀ r, OwnRevs O (k r)) → OwnRevs O (del keys k)
  | loadKvList (O : List Nat) (k : Nat → Prog) : (∀ a, OwnRevs O (k a)) → OwnRevs O (loadKvList k)
  | storeSlot (O : List Nat) (array index : Nat) (v : Option ObjWithIndex) (k : Prog) :
      OwnRevs O k → OwnRevs O (storeSlot array index v k)
  | loadWatchers (O : List Nat) (event : ObjEvent) (k : List Nat → Prog) : event.rev ∈ O →
      (∀ ws, OwnRevs (O.erase event.rev) (k ws)) → OwnRevs O (loadWatchers event k)
  | loadStopped (O : List Nat) (id : Nat) (k : Bool → Prog) :
      (∀ b, OwnRevs O (k b)) → OwnRevs O (loadStopped id k)
  | chanSend (O : List Nat) (id : Nat) (event : ObjEvent) (k : Prog) :
      OwnRevs O k → OwnRevs O (chanSend id event k)
  | storeWatchers (O : List Nat) (watchers : List Nat) (k : Prog) :
      OwnRevs O k → OwnRevs O (storeWatchers watchers k)
  | newWatcher (O : List Nat) (k : Nat → List Nat → Prog) :
      (∀ id ws, OwnRevs O (k id ws)) → OwnRevs O (newWatcher k)
  | stopWatcher (O : List Nat) (id : Nat) (k : Prog) :
      OwnRevs O k → OwnRevs O (stopWatcher id k)
  | serve (O : List Nat) (id : Nat) (res : Except StoreError (Option Obj)) :
      OwnRevs O (serve id res)

namespace OwnRevs

/-- 使わない revision を後ろに持っていても、仕事は変わらない。 -/
theorem append {O : List Nat} {p : Prog} (hp : OwnRevs O p) : ∀ X, OwnRevs (O ++ X) p := by
  induction hp with
  | done => exact fun _ => .done _ _
  | get _ _ _ _ ih => exact fun X => .get _ _ _ fun v => ih v X
  | reserveRevAndSlot _ _ _ ih => exact fun X => .reserveRevAndSlot _ _ fun r i => ih r i X
  | addMemoryRev _ _ _ ih => exact fun X => .addMemoryRev _ _ fun r => ih r X
  | put _ _ _ _ _ _ ih => exact fun X => .put _ _ _ _ _ fun r => ih r X
  | del _ _ _ _ ih => exact fun X => .del _ _ _ fun r => ih r X
  | loadKvList _ _ _ ih => exact fun X => .loadKvList _ _ fun a => ih a X
  | storeSlot _ _ _ _ _ _ ih => exact fun X => .storeSlot _ _ _ _ _ (ih X)
  | loadWatchers O e _ hmem _ ih =>
    exact fun X => .loadWatchers _ _ _ (List.mem_append_left X hmem) fun ws => by
      rw [List.erase_append_left X hmem]; exact ih ws X
  | loadStopped _ _ _ _ ih => exact fun X => .loadStopped _ _ _ fun b => ih b X
  | chanSend _ _ _ _ _ ih => exact fun X => .chanSend _ _ _ _ (ih X)
  | storeWatchers _ _ _ _ ih => exact fun X => .storeWatchers _ _ _ (ih X)
  | newWatcher _ _ _ ih => exact fun X => .newWatcher _ _ fun id ws => ih id ws X
  | stopWatcher _ _ _ _ ih => exact fun X => .stopWatcher _ _ _ (ih X)
  | serve => exact fun _ => .serve _ _ _

theorem andThen {O : List Nat} {p : Prog} (hp : OwnRevs O p)
    {f : Except StoreError (Option Obj) → Prog} (hf : ∀ r, OwnRevs [] (f r)) :
    OwnRevs O (p.andThen f) := by
  induction hp with
  | done O res => exact (hf res).append O
  | get _ _ _ _ ih => exact .get _ _ _ fun v => ih v
  | reserveRevAndSlot _ _ _ ih => exact .reserveRevAndSlot _ _ fun r i => ih r i
  | addMemoryRev _ _ _ ih => exact .addMemoryRev _ _ fun r => ih r
  | put _ _ _ _ _ _ ih => exact .put _ _ _ _ _ fun r => ih r
  | del _ _ _ _ ih => exact .del _ _ _ fun r => ih r
  | loadKvList _ _ _ ih => exact .loadKvList _ _ fun a => ih a
  | storeSlot _ _ _ _ _ _ ih => exact .storeSlot _ _ _ _ _ ih
  | loadWatchers _ _ _ hmem _ ih => exact .loadWatchers _ _ _ hmem fun ws => ih ws
  | loadStopped _ _ _ _ ih => exact .loadStopped _ _ _ fun b => ih b
  | chanSend _ _ _ _ _ ih => exact .chanSend _ _ _ _ ih
  | storeWatchers _ _ _ _ ih => exact .storeWatchers _ _ _ ih
  | newWatcher _ _ _ ih => exact .newWatcher _ _ fun id ws => ih id ws
  | stopWatcher _ _ _ _ ih => exact .stopWatcher _ _ _ ih
  | serve => exact .serve _ _ _

theorem setSlot {O : List Nat} {k : Prog} (hk : OwnRevs O k) (index : Nat)
    (v : Option ObjWithIndex) : OwnRevs O (Interleaved.setSlot index v k) :=
  .loadKvList _ _ fun _ => .storeSlot _ _ _ _ _ hk

theorem fanout {O : List Nat} {k : Prog} (hk : OwnRevs O k) (event : ObjEvent) :
    ∀ watchers rest, OwnRevs O (Interleaved.fanout event k watchers rest)
  | _, [] => .storeWatchers _ _ _ hk
  | _, _ :: rest => .loadStopped _ _ _ fun
    | true => fanout hk event _ rest
    | false => .chanSend _ _ _ _ (fanout hk event _ rest)

/-- 持っている revision の event を渡し、残りで続ける。 -/
theorem sendEvent {O : List Nat} {event : ObjEvent} (hmem : event.rev ∈ O) {k : Prog}
    (hk : OwnRevs (O.erase event.rev) k) : OwnRevs O (Interleaved.sendEvent event k) :=
  .loadWatchers _ _ _ hmem fun _ => hk.fanout event [] _

end OwnRevs

section

variable (key : String) (keys : List String)

theorem ownRevs_writeCreated {O : List Nat} (objWi : ObjWithIndex) {rev : Nat} (h : rev ∈ O) :
    OwnRevs O (writeCreated key keys objWi rev) :=
  .put _ _ _ _ _ fun
    | .error _ => .done _ _
    | .ok () => (OwnRevs.sendEvent h (.done _ _)).setSlot _ _

theorem ownRevs_writeUpdated {O : List Nat} (cur : ObjWithIndex) (oldObj : Obj)
    (objWi : ObjWithIndex) {rev : Nat} (h : rev ∈ O) :
    OwnRevs O (writeUpdated key keys cur oldObj objWi rev) :=
  .put _ _ _ _ _ fun
    | .error _ => .done _ _
    | .ok () => ((OwnRevs.sendEvent h (.done _ _)).setSlot _ _).setSlot _ _

theorem ownRevs_createObj (O : List Nat) (obj : Obj) : OwnRevs O (createObj key keys obj) :=
  .reserveRevAndSlot _ _ fun _ _ => ownRevs_writeCreated key keys _ (.head _)

theorem ownRevs_updateObj (O : List Nat) (cur : ObjWithIndex) (u : UpdateOutcome) :
    OwnRevs O (updateObj key keys cur u) :=
  .reserveRevAndSlot _ _ fun _ _ => ownRevs_writeUpdated key keys _ _ _ (.head _)

theorem ownRevs_delete (p : Option Preconditions) (v : Option (Obj → Except StoreError Unit)) :
    OwnRevs [] (delete key p v) := by
  refine .get _ _ _ fun
    | none => .done _ _
    | some cur => ?_
  dsimp only
  split
  · exact .done _ _
  · exact .addMemoryRev _ _ fun _ => .del _ _ _ fun
      | .error _ => .done _ _
      | .ok () => (OwnRevs.sendEvent (by simp) (.done _ _)).setSlot _ _

theorem ownRevs_guaranteedUpdate (i : Bool) (p : Option Preconditions)
    (f : Obj → Except StoreError UpdateOutcome) : OwnRevs [] (guaranteedUpdate key i p f) := by
  refine .get _ _ _ fun
    | none => .done _ _
    | some cur => ?_
  dsimp only
  split
  · exact .done _ _
  · exact ownRevs_updateObj ..

end

/-- 書き込み系の呼び出しは、取った revision をそれぞれ高々一つの event に使う。 -/
theorem ownRevs_call : ∀ c : Call, OwnRevs [] (call c)
  | .create key obj => .get _ _ _ fun
      | some _ => .done _ _
      | none => ownRevs_createObj ..
  | .delete key p v => ownRevs_delete key p v
  | .guaranteedUpdate key i p f => ownRevs_guaranteedUpdate key i p f
  | .createOrUpdate key obj m => by
    refine .get _ _ _ fun
      | none => ownRevs_createObj ..
      | some cur => ?_
    dsimp only
    split
    · exact .done _ _
    · split
      · exact .done _ _
      · exact ownRevs_updateObj ..
  | .getOrCreate key obj => .get _ _ _ fun
      | none => ownRevs_createObj ..
      | some _ => .done _ _
  | .createOrReplace key obj => .reserveRevAndSlot _ _ fun _ _ => .get _ _ _ fun
      | none => ownRevs_writeCreated _ _ _ (.head _)
      | some _ => ownRevs_writeUpdated _ _ _ _ _ (.head _)
  | .ensureUpdateAndDelete key i p obj => by
    refine (ownRevs_guaranteedUpdate ..).andThen fun
      | .ok (some output) => ?_
      | .ok none => .done _ _
      | .error _ => .done _ _
    dsimp only
    split
    · exact (ownRevs_delete ..).andThen fun _ => .done _ _
    · exact .done _ _

theorem ownRevs_watch : ∀ r : Except StoreError Unit, OwnRevs [] (watch r)
  | .ok () => .newWatcher _ _ fun _ _ => .storeWatchers _ _ _ (.serve _ _ _)
  | .error _ => .newWatcher _ _ fun _ _ => .storeWatchers _ _ _ (.done _ _)

/-- 一歩は、counter を一つ進めてその revision を持つか、持っている revision の event を渡すか、
revision の勘定を変えない。 -/
theorem OwnRevs.step {O : List Nat} {p : Prog} (hp : OwnRevs O p) {sh sh' : Shared} {p' : Prog}
    (h : p.step sh = some (sh', p')) :
    ∃ O', OwnRevs O' p' ∧
      ((sh'.memoryRev = sh.memoryRev ∧
          (sh'.sent.map (·.rev) ++ O').Perm (sh.sent.map (·.rev) ++ O)) ∨
        (sh'.memoryRev = sh.memoryRev + 1 ∧
          (sh'.sent.map (·.rev) ++ O').Perm ((sh.memoryRev + 1) :: (sh.sent.map (·.rev) ++ O)))) := by
  have keep : sh'.memoryRev = sh.memoryRev → sh'.sent = sh.sent → OwnRevs O p' →
      ∃ O', OwnRevs O' p' ∧
        ((sh'.memoryRev = sh.memoryRev ∧
            (sh'.sent.map (·.rev) ++ O').Perm (sh.sent.map (·.rev) ++ O)) ∨
          (sh'.memoryRev = sh.memoryRev + 1 ∧
            (sh'.sent.map (·.rev) ++ O').Perm ((sh.memoryRev + 1) :: (sh.sent.map (·.rev) ++ O)))) :=
    fun hm hs hp' => ⟨O, hp', .inl ⟨hm, by rw [hs]⟩⟩
  cases hp with
  | done => cases h
  | get _ _ _ hk => cases h; exact keep rfl rfl (hk _)
  | reserveRevAndSlot _ _ hk => cases h; exact ⟨_, hk _ _, .inr ⟨rfl, List.perm_middle⟩⟩
  | addMemoryRev _ _ hk => cases h; exact ⟨_, hk _, .inr ⟨rfl, List.perm_middle⟩⟩
  | put _ _ _ _ _ hk =>
    rcases step_put_inv h with ⟨_, -, rfl, rfl⟩ | ⟨_, -, rfl, rfl⟩ <;> exact keep rfl rfl (hk _)
  | del _ _ _ hk =>
    rcases step_del_inv h with ⟨_, -, rfl, rfl⟩ | ⟨_, -, rfl, rfl⟩ <;> exact keep rfl rfl (hk _)
  | storeSlot _ _ _ _ _ hk => cases h; exact keep (by simp) (by simp) hk
  | loadWatchers _ event _ hmem hk =>
    cases h
    refine ⟨_, hk _, .inl ⟨rfl, ?_⟩⟩
    rw [List.map_append, List.map_singleton, List.append_assoc, List.singleton_append]
    exact ((List.perm_cons_erase hmem).append_left _).symm
  | chanSend _ _ _ _ hk => obtain ⟨-, rfl, rfl⟩ := step_chanSend_inv h; exact keep rfl rfl hk
  | serve => obtain ⟨-, -, rfl, rfl⟩ := step_serve_inv h; exact keep rfl rfl (.serve _ _ _)
  | loadKvList _ _ hk | loadStopped _ _ _ hk | newWatcher _ _ hk => cases h; exact keep rfl rfl (hk ..)
  | storeWatchers _ _ _ hk | stopWatcher _ _ _ hk => cases h; exact keep rfl rfl hk

/-- 一つの列を置き換えた列を並べたものは、置き換えた先と、そこを空にした残りを並べたものの
並べ替えである。 -/
theorem flatten_set_perm {α : Type} :
    ∀ (ls : List (List α)) (i : Nat) (y : List α), ls[i]? = some y → ∀ x : List α,
      (ls.set i x).flatten.Perm (x ++ (ls.set i []).flatten) ∧
        ls.flatten.Perm (y ++ (ls.set i []).flatten)
  | [], _, _, h, _ => by cases h
  | z :: ls, 0, y, h, x => by
    obtain rfl : z = y := by simpa using h
    exact ⟨List.Perm.refl _, List.Perm.refl _⟩
  | z :: ls, i + 1, y, h, x => by
    obtain ⟨h1, h2⟩ := flatten_set_perm ls i y (by simpa using h) x
    simp only [List.set_cons_succ, List.flatten_cons]
    exact ⟨(h1.append_left z).trans (List.perm_append_comm_assoc _ _ _),
      (h2.append_left z).trans (List.perm_append_comm_assoc _ _ _)⟩

/-- `sendEvent` に渡した event の revision と、goroutine ごとにまだ event にしていない revision を
並べた列は重複を持たず、どれも今の `_MemoryRev` 以下である。 -/
def RevInv (s : Sys) : Prop :=
  ∃ ts : List (List Nat × Prog), ts.map Prod.snd = s.threads ∧ (∀ x ∈ ts, OwnRevs x.1 x.2) ∧
    (s.shared.sent.map (·.rev) ++ (ts.map Prod.fst).flatten).Nodup ∧
    ∀ r ∈ s.shared.sent.map (·.rev) ++ (ts.map Prod.fst).flatten, r ≤ s.shared.memoryRev

theorem revInv_init (rt : Runtime) (rev : Nat) {threads : List Prog}
    (h : ∀ p ∈ threads, OwnRevs [] p) : RevInv (Sys.init rt rev threads) :=
  ⟨threads.map fun p => ([], p), by simp [Sys.init], by simpa using h, by simp [Sys.init, Shared.init],
    by simp [Sys.init, Shared.init]⟩

theorem RevInv.step {s : Sys} (h : RevInv s) (i : Nat) : RevInv (s.step i) := by
  obtain ⟨ts, hts, hown, hnd, hle⟩ := h
  rcases s.step_eq i with he | ⟨p, sh', p', hp, hstep, he⟩ <;> rw [he]
  · exact ⟨ts, hts, hown, hnd, hle⟩
  obtain ⟨⟨O, q⟩, hx, rfl⟩ : ∃ x, ts[i]? = some x ∧ x.2 = p := by
    rw [← hts, List.getElem?_map] at hp
    simpa using hp
  obtain ⟨O', hO', hcase⟩ := (hown _ (List.getElem?_mem hx)).step hstep
  have hfst : (ts.map Prod.fst)[i]? = some O := by simp [List.getElem?_map, hx]
  obtain ⟨hset, hold⟩ := flatten_set_perm _ i O hfst O'
  -- 新しい勘定は、古い勘定か、それに新しい revision を一つ足したものの並べ替えである
  have hperm : ∀ L : List Nat, (sh'.sent.map (·.rev) ++ O').Perm L →
      (sh'.sent.map (·.rev) ++ ((ts.map Prod.fst).set i O').flatten).Perm
        (L ++ ((ts.map Prod.fst).set i []).flatten) := fun L hL =>
    (hset.append_left _).trans (by rw [← List.append_assoc]; exact hL.append_right _)
  have hbase : (s.shared.sent.map (·.rev) ++ O ++ ((ts.map Prod.fst).set i []).flatten).Perm
      (s.shared.sent.map (·.rev) ++ (ts.map Prod.fst).flatten) := by
    rw [List.append_assoc]; exact (hold.append_left _).symm
  refine ⟨ts.set i (O', p'), by rw [List.map_set, hts], forall_mem_set hown hO', ?_⟩
  simp only [List.map_set]
  rcases hcase with ⟨hm, hs⟩ | ⟨hm, hs⟩
  · have := (hperm _ hs).trans hbase
    exact ⟨this.nodup_iff.mpr hnd, fun r hr => hm ▸ hle r (this.mem_iff.mp hr)⟩
  · have := (hperm _ hs).trans (List.Perm.cons _ hbase)
    refine ⟨this.nodup_iff.mpr (List.nodup_cons.mpr ⟨fun hmem => ?_, hnd⟩), fun r hr => ?_⟩
    · exact absurd (hle _ hmem) (Nat.not_succ_le_self _)
    · rcases List.mem_cons.mp (this.mem_iff.mp hr) with rfl | hr
      · exact hm.ge
      · exact hm ▸ Nat.le_succ_of_le (hle r hr)

theorem RevInv.runSchedule {s : Sys} (h : RevInv s) (σ : List Nat) : RevInv (s.runSchedule σ) := by
  induction σ generalizing s with
  | nil => exact h
  | cons i σ ih => exact ih (h.step i)

/-- 書き込み系の呼び出しと `watch` を goroutine として並べ、どの実行時の環境でどう交互に進めても、
`sendEvent` に渡された event の revision はどれも違う。 -/
theorem runSchedule_sent_revs_nodup (rt : Runtime) (rev : Nat) {threads : List Prog}
    (hthreads : ∀ p ∈ threads, (∃ c, p = call c) ∨ ∃ r, p = watch r) (σ : List Nat) :
    (((Sys.init rt rev threads).runSchedule σ).shared.sent.map (·.rev)).Nodup := by
  have hinit : RevInv (Sys.init rt rev threads) := revInv_init rt rev fun p hp => by
    rcases hthreads p hp with ⟨c, rfl⟩ | ⟨r, rfl⟩
    · exact ownRevs_call c
    · exact ownRevs_watch r
  obtain ⟨ts, -, -, hnd, -⟩ := hinit.runSchedule σ
  exact hnd.sublist (List.sublist_append_left _ _)

/-- `EnsureUpdateAndDelete` と `Delete` と `Create` を交互に進めた例。 -/
theorem runSchedule_sent_revs_nodup_ensure :
    (∀ p ∈ [call (.ensureUpdateAndDelete "/g/ns/a" false none ⟨0, "", some 1, [], ""⟩),
        call (.delete "/g/ns/a" none none), call (.create "/g/ns/a" Obj.zero)],
      (∃ c, p = call c) ∨ ∃ r, p = watch r) ∧
      (((Sys.init (Runtime.doubling 1) 0
        [call (.ensureUpdateAndDelete "/g/ns/a" false none ⟨0, "", some 1, [], ""⟩),
        call (.delete "/g/ns/a" none none), call (.create "/g/ns/a" Obj.zero)]).runSchedule
          [2, 2, 2, 2, 2, 2, 2, 0, 1, 0, 0, 1, 1, 0, 0, 0, 0, 0, 0, 1, 1, 1, 1, 1, 1, 0]).shared.sent.map
            (·.rev)).Nodup :=
  have h : ∀ p ∈ [call (.ensureUpdateAndDelete "/g/ns/a" false none ⟨0, "", some 1, [], ""⟩),
      call (.delete "/g/ns/a" none none), call (.create "/g/ns/a" Obj.zero)],
      (∃ c, p = call c) ∨ ∃ r, p = watch r := by
    simp only [List.mem_cons, List.mem_singleton, List.not_mem_nil, or_false]
    rintro p (rfl | rfl | rfl) <;> exact .inl ⟨_, rfl⟩
  ⟨h, runSchedule_sent_revs_nodup _ 0 h _⟩

end Interleaved

end FornaxStore
