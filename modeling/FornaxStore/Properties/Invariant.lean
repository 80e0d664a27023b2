import FornaxStore.Properties.Change
import Mathlib.Data.List.Sort

/-!
# 表現不変条件

`kvs`（key から今の slot）と `kvList`（revision 順の slot の列）は同じ slot を二通りに指す。
逐次の実行で届くどの状態でも、二つは食い違わない。

* `Inv` — 作業用の不変条件。`ReprInv` に、予約した revision の列についての事実を足したもの
* `Inv.create`・`Inv.update`・`Inv.delete` — 三つの変更がそれを保つ
* `exec_explained` — 呼び出し一つは起こりうる変更の列で説明でき、誤りを返すなら何も変えない
* `reachable_inv` — 届くどの状態でも成り立つ
* `run_reprInv` — `NewMemoryStore` から書き込み系の呼び出しをどう重ねても `ReprInv` が成り立つ
-/

namespace FornaxStore

/-! ## 添字の小道具 -/

theorem getElem?_concat_eq_some {α : Type} {l : List α} {x y : α} {i : Nat} :
    (l ++ [x])[i]? = some y ↔ l[i]? = some y ∨ (i = l.length ∧ x = y) := by
  rcases Nat.lt_trichotomy i l.length with h | rfl | h
  · simp [List.getElem?_append_left h, h.ne]
  · simp
  · simp [List.getElem?_eq_none (by simp; omega : (l ++ [x]).length ≤ i),
      List.getElem?_eq_none h.le, h.ne']

theorem getElem?_set_none_eq_some {β : Type} {l : List (Option β)} {j i : Nat} {y : β} :
    (l.set j none)[i]? = some (some y) ↔ i ≠ j ∧ l[i]? = some (some y) := by
  by_cases h : j = i
  · subst h; simp [List.getElem?_set_self']
  · simp [h, Ne.symm h]

namespace MemoryStore

/-! ## 不変条件 -/

/-- 表現不変条件：`kvs` と `kvList` は同じ slot を指し、slot の revision は予約した順に増える。 -/
structure ReprInv (ms : MemoryStore) : Prop where
  /-- (a) map が key について指す slot は、その key を持ち、`kvList` の自分の位置に居る。 -/
  keyed : ∀ k s, ms.kvs.get (splitKey k) = some s →
    s.key = k ∧ ms.kvList[s.index]? = some (some s)
  /-- (b) 空でない slot は、map がその key について今指している slot である。 -/
  owned : ∀ (i : Nat) s, ms.kvList[i]? = some (some s) → ms.kvs.get (splitKey s.key) = some s
  /-- (c) 空でない slot の revision は位置の順に真に増える。 -/
  sorted : ∀ (i j : Nat) si sj, i < j → ms.kvList[i]? = some (some si) →
    ms.kvList[j]? = some (some sj) →
    si.obj.resourceVersion < sj.obj.resourceVersion
  /-- (c) 空でない slot の revision は、その位置と一緒に `reserveRevAndSlot` が返した revision。 -/
  reservedRev : ∀ (i : Nat) s, ms.kvList[i]? = some (some s) →
    ms.reserved[i]? = some s.obj.resourceVersion

/-- 作業用の不変条件。 -/
structure Inv (ms : MemoryStore) : Prop where
  kvsSlot : ∀ keys s, ms.kvs.get keys = some s →
    keys = splitKey s.key ∧ ms.kvList[s.index]? = some (some s)
  slotKvs : ∀ (i : Nat) s, ms.kvList[i]? = some (some s) → ms.kvs.get (splitKey s.key) = some s
  slotIndex : ∀ (i : Nat) s, ms.kvList[i]? = some (some s) → s.index = i
  slotRev : ∀ (i : Nat) s, ms.kvList[i]? = some (some s) →
    ms.reserved[i]? = some s.obj.resourceVersion
  reservedLength : ms.reserved.length = ms.kvList.length
  reservedSorted : ms.reserved.Sorted (· < ·)
  reservedLe : ∀ r ∈ ms.reserved, r ≤ ms.memoryRev
  reservedPos : ∀ r ∈ ms.reserved, 0 < r

section

variable {ms : MemoryStore} {keys : List String} {key : String} {s cur : ObjWithIndex} {obj : Obj}

theorem Inv.index_lt (h : Inv ms) (hk : ms.kvs.get keys = some s) : s.index < ms.kvList.length :=
  (List.getElem?_eq_some_iff.mp (h.kvsSlot keys s hk).2).1

theorem Inv.rv_pos (h : Inv ms) (hk : ms.kvs.get keys = some s) : s.obj.resourceVersion ≠ 0 := by
  have hr := h.slotRev _ _ (h.kvsSlot keys s hk).2
  exact (h.reservedPos _ (List.getElem?_mem hr)).ne'

/-- 二つの空でない slot の revision は、位置の順に真に増える。 -/
theorem Inv.rv_lt (h : Inv ms) {i j : Nat} {si sj : ObjWithIndex} (hij : i < j)
    (hi : ms.kvList[i]? = some (some si)) (hj : ms.kvList[j]? = some (some sj)) :
    si.obj.resourceVersion < sj.obj.resourceVersion := by
  obtain ⟨hi', hri⟩ := List.getElem?_eq_some_iff.mp (h.slotRev i si hi)
  obtain ⟨hj', hrj⟩ := List.getElem?_eq_some_iff.mp (h.slotRev j sj hj)
  rw [← hri, ← hrj]
  exact List.pairwise_iff_getElem.mp h.reservedSorted i j hi' hj' hij

/-- map が同じ key について指す slot と、同じ位置の slot は同じものである。 -/
theorem Inv.eq_of_index (h : Inv ms) (hk : ms.kvs.get keys = some cur)
    (hs : ms.kvList[cur.index]? = some (some s)) : s = cur := by
  have := (h.kvsSlot keys cur hk).2
  rw [hs] at this
  exact Option.some.inj (Option.some.inj this)

theorem Inv.toReprInv (h : Inv ms) : ReprInv ms where
  keyed k s hs := by
    obtain ⟨hk, hi⟩ := h.kvsSlot _ s hs
    exact ⟨splitKey_injective hk.symm, hi⟩
  owned := h.slotKvs
  sorted _ _ _ _ hij hi hj := h.rv_lt hij hi hj
  reservedRev := h.slotRev

theorem inv_newMemoryStore (rev : Nat) : Inv (newMemoryStore rev) := by
  constructor <;> intros <;> simp_all [newMemoryStore]

/-! ## 三つの変更が不変条件を保つ -/

/-- 次の revision を予約の列の後ろに足しても、列は真に増え、どれも正で次の revision 以下である。 -/
theorem Inv.reserve (h : Inv ms) :
    (ms.reserved ++ [ms.memoryRev + 1]).Sorted (· < ·) ∧
      ∀ r ∈ ms.reserved ++ [ms.memoryRev + 1], r ≤ ms.memoryRev + 1 ∧ 0 < r := by
  refine ⟨List.pairwise_append.mpr ⟨h.reservedSorted, by simp, fun r hr _ h' => ?_⟩,
    fun r hr => ?_⟩
  · simp at h'; have := h.reservedLe r hr; omega
  · rcases List.mem_append.mp hr with hr | hr
    · exact ⟨Nat.le_succ_of_le (h.reservedLe r hr), h.reservedPos r hr⟩
    · simp at hr; omega

/-- map が別の key について指す slot は、今の slot `cur` と別の位置に居る。 -/
theorem Inv.index_ne_of_key_ne (h : Inv ms) (hk : ms.kvs.get (splitKey key) = some cur)
    (hs : ms.kvs.get keys = some s) (hne : keys ≠ splitKey key) : s.index ≠ cur.index := fun he => by
  have h2 := (h.kvsSlot keys s hs).2
  rw [he] at h2
  obtain rfl := h.eq_of_index hk h2
  exact hne ((h.kvsSlot keys _ hs).1.trans (h.kvsSlot _ _ hk).1.symm)

/-- 今の slot `cur` と別の位置にある slot の key は、`cur` の key と違う。 -/
theorem Inv.key_ne_of_index_ne (h : Inv ms) (hk : ms.kvs.get (splitKey key) = some cur) {i : Nat}
    (hs : ms.kvList[i]? = some (some s)) (hne : i ≠ cur.index) : splitKey s.key ≠ splitKey key :=
  fun he => by
    have hs' := h.slotKvs i s hs
    rw [he, hk] at hs'
    cases hs'
    exact hne (h.slotIndex i _ hs).symm

theorem Inv.create (h : Inv ms) (hk : ms.kvs.get (splitKey key) = none) :
    Inv (ms.created key obj) where
  kvsSlot keys s hs := by
    simp only [created, sendEvent_kvs, sendEvent_kvList, MemoryStoreMap.get_set] at hs ⊢
    split at hs
    · cases hs; simp_all
    · obtain ⟨h1, h2⟩ := h.kvsSlot keys s hs
      exact ⟨h1, getElem?_concat_eq_some.mpr (.inl h2)⟩
  slotKvs i s hs := by
    simp only [created, sendEvent_kvs, sendEvent_kvList, MemoryStoreMap.get_set] at hs ⊢
    rcases getElem?_concat_eq_some.mp hs with hs | ⟨rfl, ⟨⟩⟩
    · have hs' := h.slotKvs i s hs
      rw [if_neg fun he => by rw [he, hk] at hs'; cases hs']
      exact hs'
    · simp
  slotIndex i s hs := by
    simp only [created, sendEvent_kvList] at hs
    rcases getElem?_concat_eq_some.mp hs with hs | ⟨rfl, ⟨⟩⟩
    · exact h.slotIndex i s hs
    · rfl
  slotRev i s hs := by
    simp only [created, sendEvent_kvList, sendEvent_reserved] at hs ⊢
    rcases getElem?_concat_eq_some.mp hs with hs | ⟨rfl, ⟨⟩⟩
    · exact getElem?_concat_eq_some.mpr (.inl (h.slotRev i s hs))
    · simp [← h.reservedLength]
  reservedLength := by simp [created, h.reservedLength]
  reservedSorted := h.reserve.1
  reservedLe r hr := (h.reserve.2 r hr).1
  reservedPos r hr := (h.reserve.2 r hr).2

theorem Inv.update (h : Inv ms) (hk : ms.kvs.get (splitKey key) = some cur) (oldObj : Obj) :
    Inv (ms.updated key cur oldObj obj) where
  kvsSlot keys s hs := by
    simp only [updated, sendEvent_kvs, sendEvent_kvList, MemoryStoreMap.get_set] at hs ⊢
    split at hs
    · cases hs; simp_all
    · next hne =>
      obtain ⟨h1, h2⟩ := h.kvsSlot keys s hs
      exact ⟨h1, getElem?_concat_eq_some.mpr
        (.inl (getElem?_set_none_eq_some.mpr ⟨h.index_ne_of_key_ne hk hs hne, h2⟩))⟩
  slotKvs i s hs := by
    simp only [updated, sendEvent_kvs, sendEvent_kvList, MemoryStoreMap.get_set] at hs ⊢
    rcases getElem?_concat_eq_some.mp hs with hs | ⟨rfl, ⟨⟩⟩
    · obtain ⟨hne, hs⟩ := getElem?_set_none_eq_some.mp hs
      rw [if_neg (h.key_ne_of_index_ne hk hs hne)]
      exact h.slotKvs i s hs
    · simp
  slotIndex i s hs := by
    simp only [updated, sendEvent_kvList] at hs
    rcases getElem?_concat_eq_some.mp hs with hs | ⟨rfl, ⟨⟩⟩
    · exact h.slotIndex i s (getElem?_set_none_eq_some.mp hs).2
    · simp
  slotRev i s hs := by
    simp only [updated, sendEvent_kvList, sendEvent_reserved] at hs ⊢
    rcases getElem?_concat_eq_some.mp hs with hs | ⟨rfl, ⟨⟩⟩
    · exact getElem?_concat_eq_some.mpr (.inl (h.slotRev i s (getElem?_set_none_eq_some.mp hs).2))
    · simp [← h.reservedLength]
  reservedLength := by simp [updated, h.reservedLength]
  reservedSorted := h.reserve.1
  reservedLe r hr := (h.reserve.2 r hr).1
  reservedPos r hr := (h.reserve.2 r hr).2

theorem Inv.delete (h : Inv ms) (hk : ms.kvs.get (splitKey key) = some cur) :
    Inv (ms.deleted key cur) where
  kvsSlot keys s hs := by
    simp only [deleted, sendEvent_kvs, sendEvent_kvList, MemoryStoreMap.get_set] at hs ⊢
    split at hs
    · cases hs
    · next hne =>
      obtain ⟨h1, h2⟩ := h.kvsSlot keys s hs
      exact ⟨h1, getElem?_set_none_eq_some.mpr ⟨h.index_ne_of_key_ne hk hs hne, h2⟩⟩
  slotKvs i s hs := by
    simp only [deleted, sendEvent_kvs, sendEvent_kvList, MemoryStoreMap.get_set] at hs ⊢
    obtain ⟨hne, hs⟩ := getElem?_set_none_eq_some.mp hs
    rw [if_neg (h.key_ne_of_index_ne hk hs hne)]
    exact h.slotKvs i s hs
  slotIndex i s hs := by
    simp only [deleted, sendEvent_kvList] at hs
    exact h.slotIndex i s (getElem?_set_none_eq_some.mp hs).2
  slotRev i s hs := by
    simp only [deleted, sendEvent_kvList, sendEvent_reserved] at hs ⊢
    exact h.slotRev i s (getElem?_set_none_eq_some.mp hs).2
  reservedLength := by simp [deleted, h.reservedLength]
  reservedSorted := h.reservedSorted
  reservedLe r hr := by
    simp only [deleted, sendEvent_reserved, sendEvent_memoryRev] at hr ⊢
    have := h.reservedLe r hr; omega
  reservedPos := h.reservedPos

theorem Inv.apply (h : Inv ms) {c : Change} (hc : c.Enabled ms) : Inv (c.apply ms) := by
  cases c with
  | create key obj => exact h.create hc
  | update key cur oldObj obj => exact h.update hc oldObj
  | delete key cur => exact h.delete hc

theorem Inv.changes {ms' : MemoryStore} {cs : List Change} (h : Inv ms) (hcs : Changes ms cs ms') :
    Inv ms' :=
  hcs.rec_inv (fun _ _ hi hc => hi.apply hc) h

/-- 不変条件は `kvs`・`kvList`・`reserved` だけを見て、`memoryRev` は上から押さえる。 -/
theorem Inv.mono {ms' : MemoryStore} (h : Inv ms) (hk : ms'.kvs = ms.kvs)
    (hl : ms'.kvList = ms.kvList)
    (hr : ms'.reserved = ms.reserved) (hm : ms.memoryRev ≤ ms'.memoryRev) : Inv ms' where
  kvsSlot := hk ▸ hl ▸ h.kvsSlot
  slotKvs := hk ▸ hl ▸ h.slotKvs
  slotIndex := hl ▸ h.slotIndex
  slotRev := hl ▸ hr ▸ h.slotRev
  reservedLength := hl ▸ hr ▸ h.reservedLength
  reservedSorted := hr ▸ h.reservedSorted
  reservedLe r hr' := (h.reservedLe r (hr ▸ hr')).trans hm
  reservedPos := hr ▸ h.reservedPos

/-! ## 呼び出し一つ -/

/-- 呼び出しの結果と後の store が、起こりうる変更の列で説明できる。誤りを返すなら列は空で、
`Q` が成り立てば、どの変更も今の object を古い object として知らせる。 -/
def Explained {α : Type} (Q : Prop) (ms : MemoryStore) (r : Except StoreError α × MemoryStore) :
    Prop :=
  ∃ cs, Changes ms cs r.2 ∧ (∀ err, r.1 = .error err → cs = []) ∧ (Q → ∀ c ∈ cs, c.Faithful)

theorem Explained.unchanged {α : Type} {Q : Prop} (a : Except StoreError α) :
    Explained Q ms (a, ms) :=
  ⟨[], .nil ms, fun _ _ => rfl, fun _ _ h => nomatch h⟩

theorem Explained.single {α : Type} {Q : Prop} (c : Change) (hc : c.Enabled ms)
    (hf : Q → c.Faithful) (a : α) : Explained Q ms (.ok a, c.apply ms) :=
  ⟨[c], .single hc, fun _ h => (by cases h), fun hq c' hc' => by
    rw [List.mem_singleton.mp hc']; exact hf hq⟩

theorem Explained.map {α β : Type} {Q : Prop} {r : Except StoreError α × MemoryStore}
    (h : Explained Q ms r) (f : α → β) : Explained Q ms (r.1.map f, r.2) := by
  obtain ⟨cs, hcs, herr, hf⟩ := h
  refine ⟨cs, hcs, fun err he => herr err ?_, hf⟩
  cases hr : r.1 <;> simp_all [Except.map]

theorem explained_create (key : String) (obj : Obj) : Explained True ms (ms.create key obj) := by
  cases hk : ms.kvs.get (splitKey key) with
  | some _ => simp only [create, hk]; exact .unchanged _
  | none =>
    simp only [create, hk, createObj_eq hk]; exact .single (.create key obj) hk (fun _ => ⟨⟩) _

theorem explained_delete (key : String) (p : Option Preconditions)
    (v : Option (Obj → Except StoreError Unit)) : Explained True ms (ms.delete key p v) := by
  rw [delete_eq]
  cases hk : ms.kvs.get (splitKey key) with
  | none => exact .unchanged _
  | some cur =>
    dsimp only
    cases deleteChecks key p v cur.obj with
    | error err => exact .unchanged _
    | ok u => exact .single (.delete key cur) hk (fun _ => ⟨⟩) _

theorem explained_guaranteedUpdate (h : Inv ms) (key : String) (i : Bool)
    (p : Option Preconditions) (f : Obj → Except StoreError UpdateOutcome) :
    Explained (∀ o u, f o = .ok u → u.currObj = o ∧ u.newObj.isSome)
      ms (ms.guaranteedUpdate key i p f) := by
  cases hk : ms.kvs.get (splitKey key) with
  | none => simp only [guaranteedUpdate, hk]; split <;> exact .unchanged _
  | some cur =>
    simp only [guaranteedUpdate, hk]
    split
    · exact .unchanged _
    · next u hu =>
      have hf : f cur.obj = .ok u := by
        cases hp : checkPreconditions p key cur.obj <;> simp_all [bind, Except.bind]
      rw [updateObj_eq hk (h.rv_pos hk) (h.index_lt hk)]
      refine .single (.update key cur _ _) hk (fun hq => ?_) _
      obtain ⟨hc, hs⟩ := hq _ _ hf
      exact (UpdateOutcome.oldObj_of_isSome hs _).trans hc

theorem explained_createOrUpdate (h : Inv ms) (key : String) (obj : Obj)
    (m : Option (Obj → Obj → Except StoreError (Obj × Obj))) :
    Explained (∀ merge, m = some merge → ∀ o o' a b, merge o o' = .ok (a, b) → a = o)
      ms (ms.createOrUpdate key obj m) := by
  cases hk : ms.kvs.get (splitKey key) with
  | none =>
    simp only [createOrUpdate, hk, createObj_eq hk]
    exact .single (.create key obj) hk (fun _ => ⟨⟩) _
  | some cur =>
    simp only [createOrUpdate, hk]
    split
    · exact .unchanged _
    · next merge =>
      split
      · exact .unchanged _
      · next a b hm =>
        rw [updateObj_eq hk (h.rv_pos hk) (h.index_lt hk)]
        exact .single (.update key cur _ _) hk (fun hq => hq merge rfl _ _ _ _ hm) _

theorem explained_getOrCreate (key : String) (obj : Obj) :
    Explained True ms (ms.getOrCreate key obj) := by
  cases hk : ms.kvs.get (splitKey key) with
  | none =>
    simp only [getOrCreate, hk, createObj_eq hk]
    exact .single (.create key obj) hk (fun _ => ⟨⟩) _
  | some _ => simp only [getOrCreate, hk]; exact .unchanged _

theorem explained_createOrReplace (h : Inv ms) (key : String) (obj : Obj) :
    Explained True ms (ms.createOrReplace key obj) := by
  rw [createOrReplace_eq fun _ hk => ⟨h.rv_pos hk, h.index_lt hk⟩]
  cases hk : ms.kvs.get (splitKey key) with
  | none => exact .single (.create key obj) hk (fun _ => ⟨⟩) _
  | some cur => exact .single (.update key cur cur.obj obj) hk (fun _ => rfl) _

theorem explained_ensureUpdateAndDelete (h : Inv ms) (key : String) (i : Bool)
    (p : Option Preconditions) (u : Obj) :
    Explained True ms (ms.ensureUpdateAndDelete key i p u) := by
  obtain ⟨cs, hcs, herr, hf⟩ := explained_guaranteedUpdate h key i p (getTryUpdateFunc u)
  have hf := hf fun o u' hu => by cases hu; exact ⟨rfl, rfl⟩
  unfold ensureUpdateAndDelete
  rcases hr : ms.guaranteedUpdate key i p (getTryUpdateFunc u) with ⟨_ | output, ms₁⟩
  · rw [hr] at hcs herr
    exact ⟨cs, hcs, herr, fun _ => hf⟩
  · rw [hr] at hcs
    dsimp only
    split
    · obtain ⟨cs₂, hcs₂, -, hf₂⟩ := @explained_delete ms₁ key p (some fun _ => .ok ())
      refine ⟨cs ++ cs₂, hcs.append hcs₂, fun _ he => (by cases he), fun _ c hc => ?_⟩
      rcases List.mem_append.mp hc with hc | hc
      · exact hf c hc
      · exact hf₂ ⟨⟩ c hc
    · exact ⟨cs, hcs, fun _ he => (by cases he), fun _ => hf⟩

/-- 呼び出し一つは、起こりうる変更の列を順に行ったものであり、誤りを返すなら何もしない。
呼び出し側の関数が渡された copy に触れなければ、どの変更も今の object を古い object として
知らせる。 -/
theorem exec_explained (h : Inv ms) (c : Call) : Explained c.LeavesInput ms (ms.exec c) := by
  cases c with
  | create key obj => exact (explained_create key obj).map _
  | delete key p v => exact (explained_delete key p v).map _
  | guaranteedUpdate key i p f => exact (explained_guaranteedUpdate h key i p f).map _
  | createOrUpdate key obj m => exact (explained_createOrUpdate h key obj m).map _
  | getOrCreate key obj => exact (explained_getOrCreate key obj).map _
  | createOrReplace key obj => exact (explained_createOrReplace h key obj).map _
  | ensureUpdateAndDelete key i p u => exact (explained_ensureUpdateAndDelete h key i p u).map _

theorem Inv.exec (h : Inv ms) (c : Call) : Inv (ms.exec c).2 :=
  let ⟨_, hcs, _, _⟩ := exec_explained h c
  h.changes hcs

/-- 失敗した呼び出しは store を変えない。 -/
theorem exec_error (h : Inv ms) {c : Call} {err : StoreError} (he : (ms.exec c).1 = .error err) :
    (ms.exec c).2 = ms := by
  obtain ⟨cs, hcs, herr, -⟩ := exec_explained h c
  cases herr err he
  exact hcs.eq_of_nil

theorem Inv.step {ms' : MemoryStore} (h : Inv ms) (hs : Step ms ms') : Inv ms' := by
  cases hs with
  | call c => exact h.exec c
  | watch key opts =>
    rw [watch_snd]
    split
    · exact h
    · exact h.mono rfl rfl rfl le_rfl
  | stopWatcher id => exact h.mono rfl rfl rfl le_rfl
  | otherStore => exact h.mono rfl rfl rfl (Nat.le_succ _)

end

theorem reachable_inv {ms : MemoryStore} (h : Reachable ms) : Inv ms := by
  induction h with
  | init rev => exact inv_newMemoryStore rev
  | step _ hs ih => exact ih.step hs

theorem run_reachable {ms : MemoryStore} (h : Reachable ms) (calls : List Call) :
    Reachable (ms.run calls) := by
  induction calls generalizing ms with
  | nil => exact h
  | cons c cs ih => exact ih (h.step (.call ms c))

/-- 逐次の実行で届くどの状態でも `kvs` と `kvList` は食い違わない。 -/
theorem run_reprInv (rev : Nat) (calls : List Call) : ReprInv ((newMemoryStore rev).run calls) :=
  (reachable_inv (run_reachable (.init rev) calls)).toReprInv

end MemoryStore

end FornaxStore
