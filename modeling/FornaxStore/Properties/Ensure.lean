import FornaxStore.Properties.Events

/-!
# EnsureUpdateAndDelete

`EnsureUpdateAndDelete` は `GuaranteedUpdate` の後、書いた object が削除すべきもの
（`ShouldDeleteSpec`）なら、同じ precondition で `Delete` を呼ぶ。`Delete` の誤りは `err` に
代入されるだけで、呼び出しは `nil` を返す。

逐次の実行では、更新が書いた slot がそのまま `Delete` の相手になるので、`Delete` が通るのは
precondition が書いた object に対して通るときだけである。resource version の precondition は
更新の前の object の revision と一致したはずなので、更新が付けた新しい revision とは一致しない。
そのため resource version の precondition を付けた呼び出しは、削除すべき object を書いても
消さずに成功を返す。

## 主な結果

* `ensureUpdateAndDelete_ok` — 削除すべき object を書いて成功したときの中身
* `ensureUpdateAndDelete_deleted_iff` — key が消えて `Deleted` が送られるのは、precondition が
  書いた object に対して通るときだけ
* `ensureUpdateAndDelete_keeps_of_resourceVersion` — resource version の precondition 付きでは
  決して消さない
* `ensureUpdateAndDelete_swallows_delete_error` — 内側の `Delete` が誤りを返しても成功を返す
-/

namespace FornaxStore

namespace MemoryStore

section

variable {ms : MemoryStore} {key : String} {i : Bool} {p : Option Preconditions} {u out : Obj}
  {ms' : MemoryStore}

/-- 削除すべき object を書いて成功した `EnsureUpdateAndDelete` は、今の slot `cur` を `u` で
更新し、更新後の store で `Delete` を呼んだものである。 -/
theorem ensureUpdateAndDelete_ok (h : Inv ms)
    (hr : ms.ensureUpdateAndDelete key i p u = (.ok out, ms')) (hd : shouldDeleteSpec out = true) :
    ∃ cur, ms.kvs.get (splitKey key) = some cur ∧ checkPreconditions p key cur.obj = .ok () ∧
      out = u.setResourceVersion (ms.memoryRev + 1) ∧
      ms' = ((ms.updated key cur cur.obj u).delete key p (some fun _ => .ok ())).2 := by
  unfold ensureUpdateAndDelete guaranteedUpdate at hr
  cases hk : ms.kvs.get (splitKey key) with
  | none =>
    simp only [hk] at hr
    cases i
    · simp at hr
    · simp only [if_true, show shouldDeleteSpec Obj.zero = false from rfl, Bool.false_eq_true,
        if_false, Prod.mk.injEq, Except.ok.injEq] at hr
      obtain ⟨rfl, -⟩ := hr
      exact absurd hd (by decide)
  | some cur =>
    simp only [hk] at hr
    cases hc : checkPreconditions p key cur.obj with
    | error err => simp [hc, bind, Except.bind] at hr
    | ok v =>
      simp only [hc, bind, Except.bind, getTryUpdateFunc,
        updateObj_eq hk (h.rv_pos hk) (h.index_lt hk)] at hr
      split at hr <;> simp only [Prod.mk.injEq, Except.ok.injEq] at hr <;> obtain ⟨rfl, rfl⟩ := hr
      · exact ⟨cur, rfl, hc, rfl, rfl⟩
      · simp_all

/-- 更新が書いた slot は、`updated` の後の key に見えている slot である。 -/
theorem updated_get (key : String) (cur : ObjWithIndex) (oldObj obj : Obj) :
    (ms.updated key cur oldObj obj).kvs.get (splitKey key) =
      some ⟨key, obj.setResourceVersion (ms.memoryRev + 1), ms.kvList.length⟩ := by
  simp [updated, MemoryStoreMap.get_set]

/-- 削除すべき object を書いて成功した `EnsureUpdateAndDelete` が key を消すのも、`Deleted` を送るのも、
precondition が書いた object に対して通るときだけである。 -/
theorem ensureUpdateAndDelete_deleted_iff (h : Inv ms)
    (hr : ms.ensureUpdateAndDelete key i p u = (.ok out, ms')) (hd : shouldDeleteSpec out = true) :
    (ms'.kvs.get (splitKey key) = none ↔ checkPreconditions p key out = .ok ()) ∧
      ((∃ e ∈ ms'.sent.drop ms.sent.length, e.key = key ∧ e.isDeleted = true) ↔
        checkPreconditions p key out = .ok ()) := by
  obtain ⟨cur, -, -, rfl, rfl⟩ := ensureUpdateAndDelete_ok h hr hd
  rw [delete_eq, updated_get]
  dsimp only
  cases hc : checkPreconditions p key (u.setResourceVersion (ms.memoryRev + 1)) with
  | error err =>
    simp only [deleteChecks, hc, bind, Except.bind, updated_get]
    simp [updated]
  | ok v =>
    simp only [deleteChecks, hc, bind, Except.bind, pure, Except.pure, iff_true]
    refine ⟨by simp [deleted, MemoryStoreMap.get_set],
      ⟨key, none, some (u.setResourceVersion (ms.memoryRev + 1)), ms.memoryRev + 1 + 1, true, false⟩,
      ?_, rfl, rfl⟩
    simp [deleted, updated]

/-- 通った resource version の precondition は、object の revision そのものである。 -/
theorem Preconditions.check_ok_resourceVersion {pre : Preconditions} {o : Obj} {r : Nat}
    (hp : pre.resourceVersion = some r) (hc : pre.check key o = .ok ()) : r = o.resourceVersion := by
  unfold Preconditions.check at hc
  split at hc
  · cases hc
  · split at hc
    · cases hc
    · next hne => simpa [hp] using hne

/-- resource version の precondition を付けると、削除すべき object を書いて成功しても key は残る：
precondition は更新の前の object の revision と一致したので、更新が付けた revision とは一致しない。 -/
theorem ensureUpdateAndDelete_keeps_of_resourceVersion (h : Inv ms) {pre : Preconditions}
    {r : Nat} (hp : pre.resourceVersion = some r)
    (hr : ms.ensureUpdateAndDelete key i (some pre) u = (.ok out, ms'))
    (hd : shouldDeleteSpec out = true) : ms'.kvs.get (splitKey key) ≠ none := fun hnone => by
  obtain ⟨cur, hk, hc, rfl, -⟩ := ensureUpdateAndDelete_ok h hr hd
  have hcur := Preconditions.check_ok_resourceVersion hp hc
  have hout := Preconditions.check_ok_resourceVersion hp
    (((ensureUpdateAndDelete_deleted_iff h hr hd).1.mp hnone))
  have hle := h.rv_le hk
  simp only [Obj.setResourceVersion] at hout
  omega

end

/-- 一つ作った store で、作った時の revision を resource version の precondition にして、削除の印を
付けた object を `EnsureUpdateAndDelete` する。precondition は今の object に合うので更新は通り、
書いた object は削除すべきものである。内側の `Delete` は同じ precondition を更新後の object に当てて
誤りを返すが、`EnsureUpdateAndDelete` はそれを捨てて成功を返す。key は残り、`Deleted` は送られない。 -/
theorem ensureUpdateAndDelete_swallows_delete_error :
    ∃ ms ms', ms = (newMemoryStore (2 ^ 62 + 1700000000000000)).run [.create "/g/ns/a" Obj.zero] ∧
      ms.ensureUpdateAndDelete "/g/ns/a" false (some ⟨none, some (2 ^ 62 + 1700000000000001)⟩)
          ⟨0, "", some 1, [], ""⟩ = (.ok ⟨2 ^ 62 + 1700000000000002, "", some 1, [], ""⟩, ms') ∧
      shouldDeleteSpec ⟨2 ^ 62 + 1700000000000002, "", some 1, [], ""⟩ = true ∧
      ((ms.guaranteedUpdate "/g/ns/a" false (some ⟨none, some (2 ^ 62 + 1700000000000001)⟩)
          (getTryUpdateFunc ⟨0, "", some 1, [], ""⟩)).2.delete "/g/ns/a"
          (some ⟨none, some (2 ^ 62 + 1700000000000001)⟩) (some fun _ => .ok ())).1 =
        .error (.invalidObj "/g/ns/a" ("Precondition failed: ResourceVersion in precondition: " ++
          toString (2 ^ 62 + 1700000000000001) ++ ", ResourceVersion in object meta: " ++
          toString (2 ^ 62 + 1700000000000002))) ∧
      ms'.live "/g/ns/a" = some ⟨2 ^ 62 + 1700000000000002, "", some 1, [], ""⟩ ∧
      (ms'.sent.drop ms.sent.length).map (·.isDeleted) = [false] :=
  ⟨_, _, rfl, rfl, by decide⟩

end MemoryStore

end FornaxStore
