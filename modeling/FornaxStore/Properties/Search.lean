import FornaxStore.List

/-!
# `binarySearchInObjList`

Go の `sort.Search(n, f)` のループは、区間 `[i, j)` について「`i` の一つ前では `f` が偽、`j` は
`n` か `f` が真」を保つ。そのため、`f` が単調でなくても、返す位置 `r` は「一つ前が偽で、`r` は
`n` か真」という境目の一つである（`sortSearch_boundary`）。`f` が単調なら境目は一つしかなく、
`f` が真になる最小の位置である（`Boundary.partition`）。

`binarySearchInObjList` の述語は空の slot に偽と答える。revision が `r` 以上の slot の後ろに
空の slot が無ければ述語は単調で、返す位置は revision の境目になる
（`binarySearchInObjList_partition`）。後ろに空の slot があると、revision が `r` 以上の live な
slot より先を返しうる（`binarySearchInObjList_past_live_slot`）。

## 主な結果

* `sortSearchLoop_boundary` — `sort.Search` のループの不変条件
* `binarySearchInObjList_boundary` — 返す位置の一つ前は空か `r` 未満、その位置は `r` 以上
* `binarySearchInObjList_partition` — 空の slot が境目の後ろに無ければ、返す位置は境目
* `binarySearchInObjList_past_live_slot` — `[a, 空]` で `r = 1` なら 2 を返す
-/

namespace FornaxStore

/-- `r` は `f` の `[0, n)` での境目：一つ前は偽、`r` は `n` か真。 -/
def Boundary (f : Nat → Bool) (n r : Nat) : Prop :=
  r ≤ n ∧ (∀ k, k + 1 = r → f k = false) ∧ (r < n → f r = true)

section

variable {f : Nat → Bool} {n : Nat}

/-- `sort.Search` のループは境目の不変条件を保ち、区間が空になったところで境目を返す。 -/
theorem sortSearchLoop_boundary : ∀ (fuel i j : Nat), j - i ≤ fuel → i ≤ j → j ≤ n →
    (∀ k, k + 1 = i → f k = false) → (j < n → f j = true) →
    Boundary f n (sortSearchLoop f fuel i j)
  | 0, i, j, hfuel, hij, hjn, hi, hj => by
    obtain rfl : j = i := by omega
    exact ⟨hjn, hi, hj⟩
  | fuel + 1, i, j, hfuel, hij, hjn, hi, hj => by
    rw [sortSearchLoop]
    by_cases hlt : i < j
    · rw [if_pos hlt]
      cases hf : f ((i + j) / 2)
      · simp only [hf, Bool.not_false, ↓reduceIte]
        exact sortSearchLoop_boundary fuel _ j (by omega) (by omega) hjn
          (fun k hk => by rw [show k = (i + j) / 2 by omega, hf]) hj
      · simp only [hf, Bool.not_true, Bool.false_eq_true, ↓reduceIte]
        exact sortSearchLoop_boundary fuel i _ (by omega) (by omega) (by omega) hi
          (fun _ => hf)
    · rw [if_neg hlt]
      obtain rfl : j = i := by omega
      exact ⟨hjn, hi, hj⟩

theorem sortSearch_boundary : Boundary f n (sortSearch n f) :=
  sortSearchLoop_boundary n 0 n (by omega) (Nat.zero_le _) le_rfl (fun _ h => by omega)
    (fun h => absurd h (lt_irrefl _))

/-- 単調な述語の境目は一つだけで、そこから先がちょうど真である。 -/
theorem Boundary.partition {r : Nat} (h : Boundary f n r)
    (hmono : ∀ a b, a ≤ b → b < n → f a = true → f b = true) :
    ∀ k < n, f k = true ↔ r ≤ k := by
  obtain ⟨hrn, hbefore, hat⟩ := h
  intro k hk
  constructor
  · intro hfk
    by_contra hlt
    have : f (r - 1) = true := hmono k (r - 1) (by omega) (by omega) hfk
    rw [hbefore (r - 1) (by omega)] at this
    exact Bool.false_ne_true this
  · intro hrk
    exact hmono r k hrk hk (hat (by omega))

end

namespace MemoryStore

section

variable (ms : MemoryStore) (rv : Nat)

/-- 返す位置 `r` の一つ前の slot は空か revision が `rv` 未満で、`r` の slot は revision が `rv` 以上。
空の slot が途中にあると、これは revision の境目とは限らない。 -/
theorem binarySearchInObjList_boundary :
    ms.binarySearchInObjList rv ≤ ms.kvList.length ∧
      (∀ k, k + 1 = ms.binarySearchInObjList rv →
        ms.kvList[k]? = some none ∨ ∃ s, ms.kvList[k]? = some (some s) ∧ s.obj.resourceVersion < rv) ∧
      (ms.binarySearchInObjList rv < ms.kvList.length →
        ∃ s, ms.kvList[ms.binarySearchInObjList rv]? = some (some s) ∧ rv ≤ s.obj.resourceVersion) := by
  obtain ⟨hle, hbefore, hat⟩ : Boundary _ ms.kvList.length (ms.binarySearchInObjList rv) :=
    sortSearch_boundary
  refine ⟨hle, fun k hk => ?_, fun hr => ?_⟩
  · have hf := hbefore k hk
    rcases hslot : ms.kvList[k]? with _ | _ | s
    · rw [List.getElem?_eq_none_iff] at hslot; omega
    · exact .inl rfl
    · simp only [Nat.mod_eq_of_lt (show k < ms.kvList.length by omega), hslot,
        decide_eq_false_iff_not, not_le] at hf
      exact .inr ⟨s, rfl, hf⟩
  · have hf := hat hr
    rcases hslot : ms.kvList[ms.binarySearchInObjList rv]? with _ | _ | s
    · rw [List.getElem?_eq_none_iff] at hslot; omega
    · simp [Nat.mod_eq_of_lt hr, hslot] at hf
    · simp only [Nat.mod_eq_of_lt hr, hslot, decide_eq_true_eq] at hf
      exact ⟨s, rfl, hf⟩

/-- 空でない slot の revision が位置の順に増え、revision が `rv` 以上の slot の後ろに空の slot が
無ければ、述語は単調で、`binarySearchInObjList rv` は revision の境目である。 -/
theorem binarySearchInObjList_partition
    (hsorted : ∀ (i j : Nat) si sj, i < j → ms.kvList[i]? = some (some si) →
      ms.kvList[j]? = some (some sj) → si.obj.resourceVersion < sj.obj.resourceVersion)
    (hnil : ∀ (i j : Nat) s, i < j → ms.kvList[i]? = some (some s) → rv ≤ s.obj.resourceVersion →
      ms.kvList[j]? ≠ some none) :
    ∀ (k : Nat) s, ms.kvList[k]? = some (some s) →
      (s.obj.resourceVersion < rv ↔ k < ms.binarySearchInObjList rv) := by
  have hb : Boundary _ ms.kvList.length (ms.binarySearchInObjList rv) := sortSearch_boundary
  have hpart := hb.partition fun a b hab hbn hfa => by
    have han : a < ms.kvList.length := by omega
    simp only [Nat.mod_eq_of_lt han, Nat.mod_eq_of_lt hbn] at hfa ⊢
    rcases hsa : ms.kvList[a]? with _ | _ | sa <;>
      simp only [hsa, decide_eq_true_eq, Bool.false_eq_true] at hfa
    rcases Nat.eq_or_lt_of_le hab with rfl | hlt
    · simp [hsa, hfa]
    rcases hsb : ms.kvList[b]? with _ | _ | sb
    · rw [List.getElem?_eq_none_iff] at hsb; omega
    · exact absurd hsb (hnil a b sa hlt hsa hfa)
    · simpa using hfa.trans (hsorted a b sa sb hlt hsa hsb).le
  intro k s hk
  have hkn : k < ms.kvList.length := (List.getElem?_eq_some_iff.mp hk).1
  have := hpart k hkn
  simp only [Nat.mod_eq_of_lt hkn, hk, decide_eq_true_eq] at this
  rw [← not_le, this, not_le]

end

/-- `Create /g/ns/a`・`Create /g/ns/b`・`Delete /g/ns/b` の後、`kvList` は `[a, 空]` で、
空でない slot の revision は位置の順に増える。`binarySearchInObjList 1` の最初の probe は位置 1 の
空の slot に当たって右へ進み、2 を返す。位置 0 の `a` の revision は 1 以上なのに、返す位置より
前に居る。 -/
theorem binarySearchInObjList_past_live_slot :
    ∃ ms, ms = (newMemoryStore (2 ^ 62 + 1700000000000000)).run
        [.create "/g/ns/a" Obj.zero, .create "/g/ns/b" Obj.zero, .delete "/g/ns/b" none none] ∧
      ms.kvList = [some ⟨"/g/ns/a", Obj.zero.setResourceVersion (2 ^ 62 + 1700000000000001), 0⟩,
        none] ∧
      ms.binarySearchInObjList 1 = 2 ∧ 1 ≤ 2 ^ 62 + 1700000000000001 :=
  ⟨_, rfl, by decide⟩

end MemoryStore

end FornaxStore
