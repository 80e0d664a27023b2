import FornaxStore.Shrink
import FornaxStore.Properties.Replay
import FornaxStore.Properties.Search

/-!
# 詰めた後の store

`shrink` は空の slot を捨て、残った slot と、それを指す map の値の位置を書き直す。位置 `i` の slot は
`shrunkIndex kvList i`（その前の空でない slot の数）に移る。この移し方は位置の順を保つので、
表現不変条件は保たれ、詰めた後の `kvList` には空の slot が無い。そのため `binarySearchInObjList` の
述語は単調になり、`GetList` と watch の replay は、二分探索の位置から走っても頭から走っても同じ
答えになる。

* `Inv.compacted` — 詰めても表現不変条件は保たれる
* `shrinkReachable_reprInv` — `shrink` を挟んだどの実行でも `kvs` と `kvList` は食い違わない
* `shrink_binarySearchInObjList` — 詰めた後は空の slot が無く、`binarySearchInObjList` は revision の
  境目を返す
* `shrink_getList_fromRV` — 詰めた後の、resource version を指定した `GetList` は、`kvList` を頭から
  走るのと同じ答えを返す
* `shrink_getObjEventsAfterRev` — 詰めた後の watch の replay は、`kvList` を頭から走った replay である
-/

namespace FornaxStore

/-! ## 詰める列 -/

section

variable {l : List (Option ObjWithIndex)} {i : Nat}

@[simp] theorem shrunkIndex_zero (l : List (Option ObjWithIndex)) : shrunkIndex l 0 = 0 := by
  simp [shrunkIndex]

@[simp] theorem shrunkIndex_none_succ : shrunkIndex (none :: l) (i + 1) = shrunkIndex l i := by
  simp [shrunkIndex]

@[simp] theorem shrunkIndex_some_succ {v : ObjWithIndex} :
    shrunkIndex (some v :: l) (i + 1) = shrunkIndex l i + 1 := by
  simp [shrunkIndex]

theorem shrunkIndex_mono {i' : Nat} (h : i ≤ i') : shrunkIndex l i ≤ shrunkIndex l i' :=
  (List.take_sublist_take_left l h).countP_le _

/-- 位置 `i` の空でない slot は、詰めた列の `shrunkIndex l i` に、その位置を持って居る。 -/
theorem getElem?_shrinkObjList {v : ObjWithIndex} (h : l[i]? = some (some v)) (n : Nat) :
    (shrinkObjList n l)[shrunkIndex l i]? = some (some { v with index := n + shrunkIndex l i }) := by
  induction l generalizing n i with
  | nil => cases h
  | cons s rest ih =>
    cases i with
    | zero =>
      obtain rfl : s = some v := by simpa using h
      simp [shrinkObjList]
    | succ i =>
      have h' : rest[i]? = some (some v) := by simpa using h
      cases s with
      | none => simpa [shrinkObjList] using ih h' n
      | some w =>
        simp only [shrinkObjList, shrunkIndex_some_succ, List.getElem?_cons_succ, ih h' (n + 1)]
        rw [show n + 1 + shrunkIndex rest i = n + (shrunkIndex rest i + 1) by omega]

/-- 詰めた列の slot は、元の列のどこかの空でない slot を、詰めた列での位置に書き直したものである。 -/
theorem exists_of_getElem?_shrinkObjList {n j : Nat} {s : Option ObjWithIndex}
    (h : (shrinkObjList n l)[j]? = some s) :
    ∃ i v, l[i]? = some (some v) ∧ shrunkIndex l i = j ∧ s = some { v with index := n + j } := by
  induction l generalizing n j with
  | nil => simp [shrinkObjList] at h
  | cons t rest ih =>
    cases t with
    | none =>
      obtain ⟨i, v, hv, hi, hs⟩ := ih h
      exact ⟨i + 1, v, by simpa using hv, by simpa using hi, hs⟩
    | some w =>
      cases j with
      | zero => exact ⟨0, w, by simp, by simp, by simpa [shrinkObjList] using h.symm⟩
      | succ j =>
        obtain ⟨i, v, hv, hi, hs⟩ := ih (n := n + 1) (j := j) (by simpa [shrinkObjList] using h)
        exact ⟨i + 1, v, by simpa using hv, by simp [hi],
          by rw [hs, show n + 1 + j = n + (j + 1) by omega]⟩

theorem none_not_mem_shrinkObjList : ∀ (n : Nat) (l : List (Option ObjWithIndex)),
    none ∉ shrinkObjList n l
  | _, [] => List.not_mem_nil _
  | n, none :: rest => none_not_mem_shrinkObjList n rest
  | n, some _ :: rest => by
    simpa [shrinkObjList] using none_not_mem_shrinkObjList (n + 1) rest

end

namespace MemoryStore

/-! ## 表現不変条件 -/

section

variable {ms : MemoryStore}

@[simp] theorem compacted_kvList : ms.compacted.kvList = shrinkObjList 0 ms.kvList := rfl

@[simp] theorem compacted_kvs_get (keys : List String) :
    ms.compacted.kvs.get keys =
      (ms.kvs.get keys).map fun v => { v with index := shrunkIndex ms.kvList v.index } := rfl

@[simp] theorem compacted_reserved :
    ms.compacted.reserved = ms.compacted.kvList.map fun s => (s.map (·.obj.resourceVersion)).getD 0 :=
  rfl

theorem shrink_of_lt {c threshold : Nat} (h : c + threshold < ms.kvList.length) :
    ms.shrink c threshold = ms.compacted := if_pos h

/-- 詰めた列の二つの slot の revision は、位置の順に真に増える。元の位置の順が保たれるからである。 -/
theorem Inv.compacted_rv_lt (h : Inv ms) {j j' : Nat} {s s' : ObjWithIndex} (hjj : j < j')
    (hs : ms.compacted.kvList[j]? = some (some s)) (hs' : ms.compacted.kvList[j']? = some (some s')) :
    s.obj.resourceVersion < s'.obj.resourceVersion := by
  obtain ⟨i, v, hv, rfl, hvs⟩ := exists_of_getElem?_shrinkObjList hs
  obtain ⟨i', v', hv', rfl, hvs'⟩ := exists_of_getElem?_shrinkObjList hs'
  cases hvs
  cases hvs'
  have hii : i < i' := Nat.lt_of_not_le fun hle => absurd (shrunkIndex_mono hle) (Nat.not_le.mpr hjj)
  simpa using h.rv_lt hii hv hv'

/-- ghost の `reserved` の値は、元の列のどこかの空でない slot の revision である。 -/
theorem Inv.mem_compacted_reserved (h : Inv ms) {r : Nat} (hr : r ∈ ms.compacted.reserved) :
    r ∈ ms.reserved := by
  obtain ⟨s, hs, rfl⟩ := List.mem_map.mp hr
  obtain ⟨j, hj⟩ := List.mem_iff_getElem?.mp hs
  obtain ⟨i, v, hv, -, rfl⟩ := exists_of_getElem?_shrinkObjList hj
  exact List.getElem?_mem (h.slotRev i v hv)

/-- 詰めても表現不変条件は保たれる。map の値は、自分の slot と同じ規則で位置を書き直される。 -/
theorem Inv.compacted (h : Inv ms) : Inv ms.compacted where
  kvsSlot keys s' hs' := by
    obtain ⟨s, hs, rfl⟩ := Option.map_eq_some'.mp ((compacted_kvs_get keys).symm.trans hs')
    obtain ⟨hkeys, hslot⟩ := h.kvsSlot keys s hs
    exact ⟨hkeys, by simpa using getElem?_shrinkObjList hslot 0⟩
  slotKvs j s' hs' := by
    obtain ⟨i, v, hv, rfl, ⟨⟩⟩ := exists_of_getElem?_shrinkObjList hs'
    simp [h.slotKvs i v hv, h.slotIndex i v hv]
  slotIndex j s' hs' := by
    obtain ⟨i, v, -, -, ⟨⟩⟩ := exists_of_getElem?_shrinkObjList hs'
    simp
  slotRev j s' hs' := by
    rw [compacted_reserved, List.getElem?_map, hs']
    rfl
  reservedLength := by rw [compacted_reserved, List.length_map]
  reservedSorted := by
    rw [compacted_reserved]
    refine List.pairwise_map.mpr (List.pairwise_iff_getElem.mpr fun j j' hj hj' hjj => ?_)
    have hnone : none ∉ ms.compacted.kvList := none_not_mem_shrinkObjList 0 ms.kvList
    obtain ⟨s, hs⟩ := Option.ne_none_iff_exists'.mp fun he => hnone (he ▸ List.getElem_mem hj)
    obtain ⟨s', hs'⟩ := Option.ne_none_iff_exists'.mp fun he => hnone (he ▸ List.getElem_mem hj')
    rw [hs, hs']
    exact h.compacted_rv_lt hjj (by rw [List.getElem?_eq_getElem hj, hs])
      (by rw [List.getElem?_eq_getElem hj', hs'])
  reservedLe r hr := h.reservedLe r (h.mem_compacted_reserved hr)
  reservedPos r hr := h.reservedPos r (h.mem_compacted_reserved hr)

theorem Inv.shrink (h : Inv ms) (c threshold : Nat) : Inv (ms.shrink c threshold) := by
  unfold MemoryStore.shrink
  split
  · exact h.compacted
  · exact h

end

end MemoryStore

section

open MemoryStore

theorem ShrinkReachable.inv {ms : MemoryStore} (h : ShrinkReachable ms) : Inv ms := by
  induction h with
  | init rev => exact inv_newMemoryStore rev
  | step _ hs ih => exact ih.step hs
  | shrink c threshold _ ih => exact ih.shrink c threshold

theorem ShrinkReachable.run {ms : MemoryStore} (h : ShrinkReachable ms) (calls : List Call) :
    ShrinkReachable (ms.run calls) := by
  induction calls generalizing ms with
  | nil => exact h
  | cons c cs ih => exact ih (h.step (.call ms c))

/-- `shrink` をどこに何度挟んでも、届く状態で `kvs` と `kvList` は食い違わない。 -/
theorem shrinkReachable_reprInv {ms : MemoryStore} (h : ShrinkReachable ms) : ReprInv ms :=
  h.inv.toReprInv

/-- `Create /g/ns/a`・`Create /g/ns/b`・`Delete /g/ns/b` の後に詰め、さらに `Create /g/ns/c`。 -/
theorem shrinkReachable_reprInv_create_delete :
    ShrinkReachable ((((newMemoryStore 0).run [.create "/g/ns/a" Obj.zero,
        .create "/g/ns/b" Obj.zero, .delete "/g/ns/b" none none]).shrink 0 0).run
          [.create "/g/ns/c" Obj.zero]) ∧
      ReprInv ((((newMemoryStore 0).run [.create "/g/ns/a" Obj.zero,
        .create "/g/ns/b" Obj.zero, .delete "/g/ns/b" none none]).shrink 0 0).run
          [.create "/g/ns/c" Obj.zero]) :=
  have h := ((((ShrinkReachable.init 0).run _).shrink 0 0).run _)
  ⟨h, shrinkReachable_reprInv h⟩

end

namespace MemoryStore

/-! ## 二分探索 -/

/-- 空の slot が無く、revision が位置の順に真に増えれば、`binarySearchInObjList R` より前の slot は
どれも空でなく、revision が `R` 未満である。 -/
theorem take_binarySearchInObjList {ms : MemoryStore}
    (hsorted : ∀ (i j : Nat) si sj, i < j → ms.kvList[i]? = some (some si) →
      ms.kvList[j]? = some (some sj) → si.obj.resourceVersion < sj.obj.resourceVersion)
    (hnil : none ∉ ms.kvList) (R : Nat) :
    ∀ s ∈ ms.kvList.take (ms.binarySearchInObjList R), ∃ v, s = some v ∧ v.obj.resourceVersion < R := by
  intro s hs
  obtain ⟨k, hk⟩ := List.mem_iff_getElem?.mp hs
  rw [List.getElem?_take] at hk
  split at hk
  · next hkb =>
    rcases s with _ | v
    · exact absurd (List.getElem?_mem hk) hnil
    · exact ⟨v, rfl, (ms.binarySearchInObjList_partition R hsorted
        (fun _ _ _ _ _ _ he => hnil (List.getElem?_mem he)) k v hk).mpr hkb⟩
  · cases hk

end MemoryStore

/-- revision が `withRV` 未満の slot は、どの match 規則でも集めない。 -/
theorem matchRule_of_lt {rv withRV : Nat} (h : rv < withRV) (rvMatch : String) :
    matchRule rvMatch rv withRV = false := by
  unfold matchRule
  split <;> simp <;> omega

/-! ## 走査を頭から始める -/

section

variable (keyPrefix : String) {rvMatch : String} (withRV : Nat) (pred : SelectionPredicate)
  (limit : Option Nat) (len : Nat)

/-- 集めない slot（空でなく、match 規則に合わない）だけの列を走っても、集めたものは変わらず、
`lastKey` と `lastRev` だけが動く。 -/
theorem scanList_skip (hm : KnownMatch rvMatch) (rest : List (Option ObjWithIndex)) :
    ∀ (pre : List (Option ObjWithIndex)) (i : Nat) (st : ListScan),
      limit ≠ some st.items.length →
      (∀ s ∈ pre, ∃ v, s = some v ∧ matchRule rvMatch v.obj.resourceVersion withRV = false) →
      ∃ k r, scanList keyPrefix rvMatch withRV pred limit len (pre ++ rest) i st =
        scanList keyPrefix rvMatch withRV pred limit len rest (i + pre.length)
          { st with lastKey := k, lastRev := r }
  | [], i, st, _, _ => ⟨st.lastKey, st.lastRev, rfl⟩
  | s :: pre, i, st, hlim, hpre => by
    obtain ⟨v, rfl, hv⟩ := hpre s (List.mem_cons_self _ _)
    obtain ⟨k, r, h⟩ := scanList_skip hm rest pre (i + 1)
      { st with lastKey := v.key, lastRev := v.obj.resourceVersion } hlim
      fun s hs => hpre s (List.mem_cons_of_mem _ hs)
    refine ⟨k, r, ?_⟩
    rw [List.length_cons, show i + (pre.length + 1) = i + 1 + pre.length by omega]
    cases hp : hasPrefix v.key keyPrefix <;>
      simpa [scanList, visitSlot, hp, listMatches, resourceVersionMatches_known hm, hv, hlim] using h

/-- 空でない slot から走るなら、走る前の `lastKey` と `lastRev` は結果に効かない。 -/
theorem scanList_some_lastKey (rvMatch : String) (v : ObjWithIndex)
    (rest : List (Option ObjWithIndex)) (i : Nat) (st : ListScan) (k : String) (r : Nat) :
    scanList keyPrefix rvMatch withRV pred limit len (some v :: rest) i
        { st with lastKey := k, lastRev := r } =
      scanList keyPrefix rvMatch withRV pred limit len (some v :: rest) i st :=
  rfl

end

namespace MemoryStore

section

variable {codec : ContinueCodec} {ms : MemoryStore} {keyPrefix rvMatch : String}
  {pred : SelectionPredicate}

/-- 空の slot が無く、revision が位置の順に真に増える store では、`GetList` の走査を
`binarySearchInObjList R` から始めても頭から始めても、答えは同じである。 -/
theorem listFrom_binarySearchInObjList (hm : KnownMatch rvMatch)
    (hsorted : ∀ (i j : Nat) si sj, i < j → ms.kvList[i]? = some (some si) →
      ms.kvList[j]? = some (some sj) → si.obj.resourceVersion < sj.obj.resourceVersion)
    (hnil : none ∉ ms.kvList) (returnedRV R : Nat) :
    ms.listFrom codec keyPrefix rvMatch pred returnedRV R (ms.binarySearchInObjList R) =
      ms.listFrom codec keyPrefix rvMatch pred returnedRV R 0 := by
  have hskip : ∀ s ∈ ms.kvList.take (ms.binarySearchInObjList R), ∃ v, s = some v ∧
      matchRule rvMatch v.obj.resourceVersion R = false := fun s hs =>
    let ⟨v, hv, hlt⟩ := take_binarySearchInObjList hsorted hnil R s hs
    ⟨v, hv, matchRule_of_lt hlt rvMatch⟩
  have hb : ms.binarySearchInObjList R ≤ ms.kvList.length := (binarySearchInObjList_boundary ms R).1
  have hlim : (if 0 < pred.limit then some pred.limit.toNat else none) ≠ some 0 := by
    split
    · simp only [ne_eq, Option.some.injEq]; omega
    · simp
  obtain ⟨k, r, hscan⟩ := scanList_skip keyPrefix R pred _ ms.kvList.length hm
    (ms.kvList.drop (ms.binarySearchInObjList R)) _ 0 ⟨[], "", R, false, 0⟩ hlim hskip
  rw [List.take_append_drop, List.length_take, Nat.min_eq_left hb, Nat.zero_add] at hscan
  unfold listFrom
  by_cases hlen : ms.kvList.length ≤ ms.binarySearchInObjList R
  · -- 全部の slot が `R` 未満：頭から走っても何も集めない
    rw [List.drop_eq_nil_of_le hlen] at hscan
    simp only [hlen, if_true, List.drop_zero, hscan]
    split
    · rfl
    · simp [scanList]
  · -- `binarySearchInObjList R` の slot は空でないので、そこから先は同じ走査になる
    obtain ⟨v, rest, hdrop⟩ : ∃ v rest,
        ms.kvList.drop (ms.binarySearchInObjList R) = some v :: rest := by
      rcases hd : ms.kvList.drop (ms.binarySearchInObjList R) with _ | ⟨_ | v, rest⟩
      · exact absurd (List.drop_eq_nil_iff.mp hd) hlen
      · exact absurd (List.mem_of_mem_drop (hd ▸ List.mem_cons_self _ _)) hnil
      · exact ⟨v, rest, rfl⟩
    rw [hdrop, scanList_some_lastKey] at hscan
    simp only [hlen, if_false, show ¬ms.kvList.length ≤ 0 by omega, List.drop_zero, hscan, hdrop]

end

/-! ## 詰めた後の二分探索、GetList、replay -/

section

variable {ms : MemoryStore} {c threshold : Nat}

/-- 詰めた後の `kvList` には空の slot が無く、`binarySearchInObjList rv` は revision の境目を返す：
revision が `rv` 未満の slot はちょうどその位置より前に居る。 -/
theorem shrink_binarySearchInObjList (h : Inv ms) (hlen : c + threshold < ms.kvList.length)
    (rv : Nat) :
    none ∉ (ms.shrink c threshold).kvList ∧
      ∀ (k : Nat) s, (ms.shrink c threshold).kvList[k]? = some (some s) →
        (s.obj.resourceVersion < rv ↔ k < (ms.shrink c threshold).binarySearchInObjList rv) := by
  rw [shrink_of_lt hlen]
  have hnil := none_not_mem_shrinkObjList 0 ms.kvList
  exact ⟨hnil, binarySearchInObjList_partition _ rv (fun _ _ _ _ => h.compacted_rv_lt)
    fun _ _ _ _ _ _ he => hnil (List.getElem?_mem he)⟩

/-- `/g/ns/a`・`/g/ns/b`・`/g/ns/c` を作って `/g/ns/b` を消した後の `[a, 空, c]` を詰めると
`[a, c]` になり、`binarySearchInObjList 2` は revision 1 の `a` と revision 3 の `c` の間の
位置 1 を返す。 -/
theorem shrink_binarySearchInObjList_after_delete :
    ∃ ms, ms = (newMemoryStore 0).run [.create "/g/ns/a" Obj.zero, .create "/g/ns/b" Obj.zero,
        .create "/g/ns/c" Obj.zero, .delete "/g/ns/b" none none] ∧
      Inv ms ∧ 0 + 0 < ms.kvList.length ∧ (ms.shrink 0 0).binarySearchInObjList 2 = 1 ∧
      none ∉ (ms.shrink 0 0).kvList ∧
        ∀ (k : Nat) s, (ms.shrink 0 0).kvList[k]? = some (some s) →
          (s.obj.resourceVersion < 2 ↔ k < (ms.shrink 0 0).binarySearchInObjList 2) :=
  have h := reachable_inv (run_reachable (.init 0) [.create "/g/ns/a" Obj.zero,
    .create "/g/ns/b" Obj.zero, .create "/g/ns/c" Obj.zero, .delete "/g/ns/b" none none])
  have hlen : 0 + 0 < ((newMemoryStore 0).run [.create "/g/ns/a" Obj.zero,
      .create "/g/ns/b" Obj.zero, .create "/g/ns/c" Obj.zero,
      .delete "/g/ns/b" none none]).kvList.length := by decide
  ⟨_, rfl, h, hlen, by decide, shrink_binarySearchInObjList h hlen 2⟩

/-- 詰めた後の、continue token が無く正の resource version `R` を指定した recursive な `GetList` は、
`binarySearchInObjList R` からではなく `kvList` の頭から走ったのと同じ答えを返す。 -/
theorem shrink_getList_fromRV (h : Inv ms) (hlen : c + threshold < ms.kvList.length)
    (codec : ContinueCodec) (key : String) (opts : ListOptions) (hrec : opts.recursive = true)
    (hc : opts.predicate.continueToken = "") {R : Nat}
    (hR : parseFromRV opts.resourceVersion = .ok (some R)) (hpos : 0 < R)
    (hm : KnownMatch opts.resourceVersionMatch) :
    (ms.shrink c threshold).getList codec key opts =
      (ms.shrink c threshold).listFrom codec (listKeyPrefix key) opts.resourceVersionMatch
        opts.predicate R R 0 := by
  rw [getList_fromRV _ _ _ _ hrec hc hR hpos, shrink_of_lt hlen]
  exact listFrom_binarySearchInObjList hm (fun _ _ _ _ => h.compacted_rv_lt)
    (none_not_mem_shrinkObjList 0 ms.kvList) R R

/-- resource version `"2"` の `GetList` を、`[a, 空, c]` の store を詰めた後に行う。詰めた
`[a, c]` での `binarySearchInObjList 2` は 1 で、答えは `c` だけである。 -/
theorem shrink_getList_fromRV_after_delete :
    ∃ ms, ms = (newMemoryStore 0).run [.create "/g/ns/a" Obj.zero, .create "/g/ns/b" Obj.zero,
        .create "/g/ns/c" Obj.zero, .delete "/g/ns/b" none none] ∧
      Inv ms ∧ 0 + 0 < ms.kvList.length ∧
      parseFromRV "2" = .ok (some 2) ∧ KnownMatch "" ∧
      (ms.shrink 0 0).binarySearchInObjList 2 = 1 ∧
      (ms.shrink 0 0).getList digitCodec "/g/ns" ⟨"2", "", everything, true⟩ =
        (ms.shrink 0 0).listFrom digitCodec (listKeyPrefix "/g/ns") "" everything 2 2 0 :=
  have h := reachable_inv (run_reachable (.init 0) [.create "/g/ns/a" Obj.zero,
    .create "/g/ns/b" Obj.zero, .create "/g/ns/c" Obj.zero, .delete "/g/ns/b" none none])
  have hlen : 0 + 0 < ((newMemoryStore 0).run [.create "/g/ns/a" Obj.zero,
      .create "/g/ns/b" Obj.zero, .create "/g/ns/c" Obj.zero,
      .delete "/g/ns/b" none none]).kvList.length := by decide
  have hR : parseFromRV "2" = .ok (some 2) := by decide
  have hm : KnownMatch "" := .inr (.inr rfl)
  ⟨_, rfl, h, hlen, hR, hm, by decide,
    shrink_getList_fromRV h hlen digitCodec "/g/ns" ⟨"2", "", everything, true⟩ rfl rfl hR
      (by decide) hm⟩

/-- 詰めた後の watch の replay は、`binarySearchInObjList` の位置からではなく `kvList` の頭から
走った replay である。 -/
theorem shrink_getObjEventsAfterRev (h : Inv ms) (hlen : c + threshold < ms.kvList.length)
    (key : String) (opts : ListOptions) {R : Nat}
    (hR : parseResourceVersion opts.resourceVersion = .ok R)
    (hm : KnownMatch opts.resourceVersionMatch) :
    (ms.shrink c threshold).getObjEventsAfterRev key opts =
      replayEvents (watchKeyPrefix key opts.recursive) opts.resourceVersionMatch R
        (ms.shrink c threshold).kvList := by
  rw [shrink_of_lt hlen]
  have hskip := take_binarySearchInObjList (fun _ _ _ _ => h.compacted_rv_lt)
    (none_not_mem_shrinkObjList 0 ms.kvList) R
  have hpre : selectSlots (listed (watchKeyPrefix key opts.recursive) opts.resourceVersionMatch R
      everything) (ms.compacted.kvList.take (ms.compacted.binarySearchInObjList R)) = [] := by
    refine List.eq_nil_iff_forall_not_mem.mpr fun v hv => ?_
    obtain ⟨hmem, hl⟩ := mem_selectSlots.mp hv
    obtain ⟨w, hw, hlt⟩ := hskip _ hmem
    cases hw
    simp [listed, matchRule_of_lt hlt] at hl
  rw [getObjEventsAfterRev_eq hm hR, replayEvents_known hm, listedFrom,
    ← List.take_append_drop (ms.compacted.binarySearchInObjList R) ms.compacted.kvList,
    selectSlots_append, hpre, List.nil_append, List.take_append_drop]

/-- resource version `"2"` からの watch の replay を、`[a, 空, c]` の store を詰めた後に行う。
詰めた `[a, c]` での `binarySearchInObjList 2` は 1 である。 -/
theorem shrink_getObjEventsAfterRev_after_delete :
    ∃ ms, ms = (newMemoryStore 0).run [.create "/g/ns/a" Obj.zero, .create "/g/ns/b" Obj.zero,
        .create "/g/ns/c" Obj.zero, .delete "/g/ns/b" none none] ∧
      Inv ms ∧ 0 + 0 < ms.kvList.length ∧
      parseResourceVersion "2" = .ok 2 ∧ KnownMatch "" ∧
      (ms.shrink 0 0).binarySearchInObjList 2 = 1 ∧
      (ms.shrink 0 0).getObjEventsAfterRev "/g/ns" ⟨"2", "", everything, true⟩ =
        replayEvents (watchKeyPrefix "/g/ns" true) "" 2 (ms.shrink 0 0).kvList :=
  have h := reachable_inv (run_reachable (.init 0) [.create "/g/ns/a" Obj.zero,
    .create "/g/ns/b" Obj.zero, .create "/g/ns/c" Obj.zero, .delete "/g/ns/b" none none])
  have hlen : 0 + 0 < ((newMemoryStore 0).run [.create "/g/ns/a" Obj.zero,
      .create "/g/ns/b" Obj.zero, .create "/g/ns/c" Obj.zero,
      .delete "/g/ns/b" none none]).kvList.length := by decide
  have hR : parseResourceVersion "2" = .ok 2 := by decide
  have hm : KnownMatch "" := .inr (.inr rfl)
  ⟨_, rfl, h, hlen, hR, hm, by decide,
    shrink_getObjEventsAfterRev h hlen "/g/ns" ⟨"2", "", everything, true⟩ hR hm⟩

end

end MemoryStore

end FornaxStore
