import FornaxStore.List

/-!
# GetList の走査ループ

`scanList` は slot を一つずつ見て、空でなく、prefix に合い、match 規則と選択子に合う slot の
object を集める。集める slot の列を `selectSlots` で先に書いておくと、ループの結果はその列の
言葉で言える。

* `scanList_none` — 上限が無ければ、集める slot を全部集め、`hasMore` は立たない
* `scanList_some` — 上限 `L` があれば、集める slot の最初の `L` 個を集める。`L` 個目の slot の
  後ろに slot が残っていれば `hasMore` を立て、その slot の key と revision と残りの数を持つ
* `selectSlots_getElem?_eq_some` — 集める slot の `k` 番目で列を切ると、後ろの部分が集めるのは
  `k` 番目より後の slot である

match の値は知っているもの（`NotOlderThan`・`Exact`・`""`）に限る。それ以外は、最初に prefix の
合う slot で誤りになる。
-/

namespace FornaxStore

/-! ## match 規則 -/

/-- `GetList` と `watch` が知っている match の値。 -/
def KnownMatch (rvMatch : String) : Prop :=
  rvMatch = resourceVersionMatchNotOlderThan ∨ rvMatch = resourceVersionMatchExact ∨ rvMatch = ""

/-- 知っている match の値での規則：`NotOlderThan` は `withRV ≤ rv`、ほかは `withRV < rv`。 -/
def matchRule (rvMatch : String) (rv withRV : Nat) : Bool :=
  if rvMatch = resourceVersionMatchNotOlderThan then decide (withRV ≤ rv) else decide (withRV < rv)

theorem resourceVersionMatches_known {rvMatch : String} (h : KnownMatch rvMatch)
    (msg : String) (rv withRV : Nat) :
    resourceVersionMatches msg rvMatch rv withRV = .ok (matchRule rvMatch rv withRV) := by
  rcases h with rfl | rfl | rfl <;> rfl

theorem resourceVersionMatches_unknown {rvMatch : String} (h : ¬ KnownMatch rvMatch)
    (msg : String) (rv withRV : Nat) :
    resourceVersionMatches msg rvMatch rv withRV = .error (.other (msg ++ rvMatch)) := by
  simp only [KnownMatch, not_or] at h
  simp [resourceVersionMatches, h.1, h.2.1, h.2.2]

/-! ## 集める slot -/

/-- `slots` のうち、空でなく `keep` に合う slot を順に。 -/
def selectSlots (keep : ObjWithIndex → Bool) : List (Option ObjWithIndex) → List ObjWithIndex
  | [] => []
  | none :: rest => selectSlots keep rest
  | some v :: rest => if keep v then v :: selectSlots keep rest else selectSlots keep rest

/-- `GetList` の走査が item にする slot：prefix と match 規則と選択子に合う。 -/
def listed (keyPrefix rvMatch : String) (withRV : Nat) (pred : SelectionPredicate)
    (v : ObjWithIndex) : Bool :=
  hasPrefix v.key keyPrefix && matchRule rvMatch v.obj.resourceVersion withRV &&
    pred.matchesObj v.obj

/-- `slots` の `t` 番目の空でない slot は、位置 `i + t` を自分の位置として持つ。 -/
def Indexed (slots : List (Option ObjWithIndex)) (i : Nat) : Prop :=
  ∀ (t : Nat) v, slots[t]? = some (some v) → v.index = i + t

section

variable {keep : ObjWithIndex → Bool}

@[simp] theorem selectSlots_append (l₁ l₂ : List (Option ObjWithIndex)) :
    selectSlots keep (l₁ ++ l₂) = selectSlots keep l₁ ++ selectSlots keep l₂ := by
  induction l₁ with
  | nil => rfl
  | cons s rest ih =>
    cases s with
    | none => exact ih
    | some v => by_cases hv : keep v <;> simp [selectSlots, hv, ih]

theorem mem_selectSlots {slots : List (Option ObjWithIndex)} {v : ObjWithIndex} :
    v ∈ selectSlots keep slots ↔ some v ∈ slots ∧ keep v = true := by
  induction slots with
  | nil => simp [selectSlots]
  | cons s rest ih =>
    cases s with
    | none => simp [selectSlots, ih]
    | some u =>
      by_cases hu : keep u
      · by_cases hvu : v = u
        · subst hvu; simp [selectSlots, hu]
        · simp [selectSlots, hu, ih, hvu]
      · by_cases hvu : v = u
        · subst hvu; simp [selectSlots, hu, ih]
        · simp [selectSlots, hu, ih, hvu]

/-- 集める slot の `k` 番目で列を切る：後ろの部分が集めるのは、`k` 番目より後の slot である。 -/
theorem selectSlots_getElem?_eq_some : ∀ {slots : List (Option ObjWithIndex)} {k : Nat}
    {v : ObjWithIndex}, (selectSlots keep slots)[k]? = some v →
    ∃ pre post, slots = pre ++ some v :: post ∧
      selectSlots keep post = (selectSlots keep slots).drop (k + 1)
  | [], _, _, h => by simp [selectSlots] at h
  | none :: rest, k, v, h => by
    obtain ⟨pre, post, rfl, hpost⟩ :=
      selectSlots_getElem?_eq_some (show (selectSlots keep rest)[k]? = some v from h)
    exact ⟨none :: pre, post, rfl, hpost⟩
  | some u :: rest, k, v, h => by
    by_cases hu : keep u
    · simp only [selectSlots, hu, if_true] at h ⊢
      cases k with
      | zero =>
        obtain rfl : u = v := by simpa using h
        exact ⟨[], rest, rfl, rfl⟩
      | succ k =>
        rw [List.getElem?_cons_succ] at h
        obtain ⟨pre, post, rfl, hpost⟩ := selectSlots_getElem?_eq_some h
        exact ⟨some u :: pre, post, rfl, hpost⟩
    · simp only [selectSlots, hu] at h ⊢
      obtain ⟨pre, post, rfl, hpost⟩ := selectSlots_getElem?_eq_some h
      exact ⟨some u :: pre, post, rfl, hpost⟩

end

theorem Indexed.tail {s : Option ObjWithIndex} {rest : List (Option ObjWithIndex)} {i : Nat}
    (h : Indexed (s :: rest) i) : Indexed rest (i + 1) := fun t v hv => by
  rw [h (t + 1) v (by rwa [List.getElem?_cons_succ])]; omega

theorem Indexed.head {v : ObjWithIndex} {rest : List (Option ObjWithIndex)} {i : Nat}
    (h : Indexed (some v :: rest) i) : v.index = i := h 0 v (List.getElem?_cons_zero)

/-! ## 走査のループ -/

/-- 知っている match の値では、空でない slot を見ると `lastKey`・`lastRev` をその slot のものにし、
集める slot なら object を足す。limit を見るのは prefix が合うときである。 -/
theorem visitSlot_some {rvMatch : String} (hm : KnownMatch rvMatch) (keyPrefix : String)
    (withRV : Nat) (pred : SelectionPredicate) (st : ListScan) (v : ObjWithIndex) :
    ∃ st₁, visitSlot keyPrefix rvMatch withRV pred st (some v) =
        .ok (st₁, hasPrefix v.key keyPrefix) ∧
      st₁.items = st.items ++
        (selectSlots (listed keyPrefix rvMatch withRV pred) [some v]).map (·.obj) ∧
      st₁.lastKey = v.key ∧ st₁.lastRev = v.obj.resourceVersion ∧ st₁.hasMore = st.hasMore := by
  cases hp : hasPrefix v.key keyPrefix <;>
    cases hr : matchRule rvMatch v.obj.resourceVersion withRV <;>
    cases hq : pred.matchesObj v.obj <;>
    simp [visitSlot, listMatches, resourceVersionMatches_known hm, hp, hr, hq, listed, selectSlots,
      appendListItem]

section

variable (keyPrefix : String) {rvMatch : String} (withRV : Nat) (pred : SelectionPredicate)

/-- 上限が無ければ、走査は集める slot を全部集め、`hasMore` は立たない。 -/
theorem scanList_none (hm : KnownMatch rvMatch) (len : Nat) (slots : List (Option ObjWithIndex)) :
    ∀ (i : Nat) (st : ListScan), ∃ st',
      scanList keyPrefix rvMatch withRV pred none len slots i st = .ok st' ∧
      st'.items = st.items ++
        (selectSlots (listed keyPrefix rvMatch withRV pred) slots).map (·.obj) ∧
      st'.hasMore = st.hasMore := by
  induction slots with
  | nil => intro i st; exact ⟨st, rfl, by simp [selectSlots], rfl⟩
  | cons s rest ih =>
    intro i st
    cases s with
    | none => simpa [scanList, visitSlot, selectSlots] using ih (i + 1) st
    | some v =>
      obtain ⟨st₁, hv, hi₁, -, -, hm₁⟩ := visitSlot_some hm keyPrefix withRV pred st v
      obtain ⟨st', h, hi, hm'⟩ := ih (i + 1) st₁
      refine ⟨st', by simpa [scanList, hv] using h, ?_, hm'.trans hm₁⟩
      rw [hi, hi₁]
      by_cases hl : listed keyPrefix rvMatch withRV pred v <;> simp [selectSlots, hl]

/-- 知らない match の値では、prefix に合う空でない slot で誤りになる。誤りにならずに走り終えれば
item は増えず、上限が 0 でなければ止まりもしない。 -/
theorem scanList_unknown (hm : ¬ KnownMatch rvMatch) {limit : Option Nat} (hlim : limit ≠ some 0)
    (len : Nat) (slots : List (Option ObjWithIndex)) :
    ∀ (i : Nat) (st st' : ListScan), st.items = [] → st.hasMore = false →
      scanList keyPrefix rvMatch withRV pred limit len slots i st = .ok st' →
      st'.items = [] ∧ st'.hasMore = false := by
  induction slots with
  | nil => intro i st st' hi hmore h; cases h; exact ⟨hi, hmore⟩
  | cons s rest ih =>
    intro i st st' hi hmore h
    cases s with
    | none =>
      simp only [scanList, visitSlot, hi, List.length_nil, hlim, and_false, if_false] at h
      exact ih (i + 1) st st' hi hmore h
    | some v =>
      cases hp : hasPrefix v.key keyPrefix
      · simp only [scanList, visitSlot, hp, Bool.not_false, if_true, Bool.false_eq_true, false_and,
          if_false] at h
        exact ih (i + 1) { st with lastKey := v.key, lastRev := v.obj.resourceVersion } st' hi hmore h
      · simp [scanList, visitSlot, hp, listMatches, resourceVersionMatches_unknown hm] at h

/-- 上限に達した slot `stop` で走査が止まったときの `ListScan`：`stop` の後ろに slot が残れば
`hasMore` が立ち、`stop` の key と revision と残りの slot の数を持つ。そうでなければ立たない。 -/
def StopsAt (len : Nat) (st : ListScan) : Option ObjWithIndex → Prop
  | some v =>
    if v.index < len - 1 then
      st.hasMore = true ∧ st.lastKey = v.key ∧ st.lastRev = v.obj.resourceVersion ∧
        st.remainingItemCount = len - 1 - v.index
    else st.hasMore = false
  | none => st.hasMore = false

/-- 上限 `L` の走査：集める slot の最初の `L` 個を集め、`L` 個目の slot で止まる。 -/
theorem scanList_some (hm : KnownMatch rvMatch) (L len : Nat) (slots : List (Option ObjWithIndex)) :
    ∀ (i : Nat) (st : ListScan), Indexed slots i → st.items.length < L → st.hasMore = false →
      ∃ st', scanList keyPrefix rvMatch withRV pred (some L) len slots i st = .ok st' ∧
        st'.items = st.items ++ ((selectSlots (listed keyPrefix rvMatch withRV pred) slots).take
          (L - st.items.length)).map (·.obj) ∧
        StopsAt len st'
          (selectSlots (listed keyPrefix rvMatch withRV pred) slots)[L - st.items.length - 1]? := by
  induction slots with
  | nil => intro i st _ _ hmore; exact ⟨st, rfl, by simp [selectSlots], by simpa [selectSlots]⟩
  | cons s rest ih =>
    intro i st hidx hlt hmore
    have hne : some L ≠ some st.items.length := by simp; omega
    cases s with
    | none => simpa [scanList, visitSlot, selectSlots, hne] using ih (i + 1) st hidx.tail hlt hmore
    | some v =>
      obtain ⟨st₁, hv, hi₁, hk₁, hr₁, hm₁⟩ := visitSlot_some hm keyPrefix withRV pred st v
      obtain ⟨k, hk⟩ : ∃ k, L - st.items.length = k + 1 := ⟨L - st.items.length - 1, by omega⟩
      by_cases hl : listed keyPrefix rvMatch withRV pred v
      · have hp : hasPrefix v.key keyPrefix = true := by
          simp only [listed, Bool.and_eq_true] at hl; exact hl.1.1
        simp only [selectSlots, hl, if_true, List.map_cons, List.map_nil] at hi₁ ⊢
        rcases k with _ | k
        · have hL : some L = some st₁.items.length := by simp [hi₁]; omega
          refine ⟨if i < len - 1 then { st₁ with remainingItemCount := len - 1 - i, hasMore := true }
            else st₁, by simp [scanList, hv, hp, hL], by split <;> simp [hi₁, hk], ?_⟩
          rw [hk]
          simp only [Nat.add_sub_cancel, List.getElem?_cons_zero, StopsAt, hidx.head]
          split <;> simp_all
        · obtain ⟨st', h, hi, hs⟩ :=
            ih (i + 1) st₁ hidx.tail (by simp [hi₁]; omega) (hm₁.trans hmore)
          have hL : some L ≠ some st₁.items.length := by simp [hi₁]; omega
          have hk' : L - st₁.items.length = k + 1 := by simp [hi₁]; omega
          refine ⟨st', by simpa [scanList, hv, hL] using h, ?_, ?_⟩
          · rw [hi, hk', hi₁, hk]; simp
          · rw [hk]; rw [hk'] at hs; simpa using hs
      · simp only [selectSlots, hl] at hi₁ ⊢
        have hL : some L ≠ some st₁.items.length := by simp [hi₁]; omega
        obtain ⟨st', h, hi, hs⟩ := ih (i + 1) st₁ hidx.tail (by simp [hi₁]; omega) (hm₁.trans hmore)
        refine ⟨st', by simpa [scanList, hv, hL] using h, by simp [hi, hi₁],
          by simpa [hi₁] using hs⟩

end

end FornaxStore
