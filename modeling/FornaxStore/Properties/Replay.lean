import FornaxStore.Properties.Pagination

/-!
# watch の replay

`getObjEventsAfterRev` は `binarySearchInObjList` の位置から `kvList` を走り、prefix と match 規則に
合う slot を `Created` の event にする。集める slot は `GetList` の走査が選択子 `everything` で
集めるものと同じなので、`listedFrom` の言葉で書ける。

* `watch_replay_sound` — 届く状態では、replay は prefix の下の live な object の `Created` で、
  match 規則に合い、revision が真に増える順に並ぶ
* `watch_replay_diverges` — pivot が空の slot の先へ行くと、revision の大きい live な object が
  replay から漏れる。recursive でない watch の prefix は key そのものなので、key を文字列として
  延ばした別の key の object も replay に入る
* `watch_current` — resource version が 1 以下なら replay は無く、開始 revision は `_MemoryRev`
-/

namespace FornaxStore

/-- 知っている match の値では、replay は集める slot を順に `Created` にしたものである。 -/
theorem replayEvents_known {rvMatch : String} (hm : KnownMatch rvMatch) (keyPrefix : String)
    (rev : Nat) (slots : List (Option ObjWithIndex)) :
    replayEvents keyPrefix rvMatch rev slots =
      .ok ((selectSlots (listed keyPrefix rvMatch rev everything) slots).map replayEvent) := by
  induction slots with
  | nil => rfl
  | cons s rest ih =>
    cases s with
    | none => exact ih
    | some v =>
      cases hp : hasPrefix v.key keyPrefix <;>
        cases hr : matchRule rvMatch v.obj.resourceVersion rev <;>
        simp [replayEvents, watchMatches, resourceVersionMatches_known hm, hp, hr, ih, selectSlots,
          listed, everything]

namespace MemoryStore

section

variable {ms : MemoryStore} {key : String} {opts : ListOptions} {R : Nat}

theorem getObjEventsAfterRev_eq (hm : KnownMatch opts.resourceVersionMatch)
    (hR : parseResourceVersion opts.resourceVersion = .ok R) :
    ms.getObjEventsAfterRev key opts =
      .ok ((ms.listedFrom (watchKeyPrefix key opts.recursive) opts.resourceVersionMatch R everything
        (ms.binarySearchInObjList R)).map replayEvent) := by
  simp only [getObjEventsAfterRev, hR, replayEvents_known hm]
  rfl

/-- resource version が 1 より大きい `watch` は、watcher を足し、`binarySearchInObjList` の位置から
集める slot の `Created` を replay として返す。 -/
theorem watch_eq_replay (hm : KnownMatch opts.resourceVersionMatch)
    (hR : parseResourceVersion opts.resourceVersion = .ok R) (h1 : 1 < R) :
    ms.watch key opts =
      (.ok (ms.watcherCount, R, (ms.listedFrom (watchKeyPrefix key opts.recursive)
          opts.resourceVersionMatch R everything (ms.binarySearchInObjList R)).map replayEvent),
        { ms with watchers := ms.watchers ++ [newMemoryStoreWatcher ms.watcherCount key opts],
                  watcherCount := ms.watcherCount + 1 }) := by
  simp only [watch, hR, if_pos h1, getObjEventsAfterRev_eq hm hR]
  rfl

/-- resource version が 1 以下なら replay は無く、開始 revision はその時点の `_MemoryRev` である。 -/
theorem watch_current (hR : parseResourceVersion opts.resourceVersion = .ok R) (h1 : R ≤ 1) :
    ms.watch key opts =
      (.ok (ms.watcherCount, ms.memoryRev, []),
        { ms with watchers := ms.watchers ++ [newMemoryStoreWatcher ms.watcherCount key opts],
                  watcherCount := ms.watcherCount + 1 }) := by
  simp [watch, hR, Nat.not_lt.mpr h1]

end

/-- **watch の replay は正しいものだけを返す。** 届く状態で resource version `R > 1`、知っている
match の値なら、replay は live な slot の `Created` だけで、どれも prefix（recursive なら `/` を
補った key、そうでなければ key そのもの）に合い、match 規則に合う。revision は真に増える順に
並ぶので、同じ key は二度現れない。 -/
theorem watch_replay_sound {ms : MemoryStore} (hr : Reachable ms) (key : String)
    (opts : ListOptions) {R : Nat} (hR : parseResourceVersion opts.resourceVersion = .ok R)
    (h1 : 1 < R) (hm : KnownMatch opts.resourceVersionMatch) :
    ∃ evs, (ms.watch key opts).1 = .ok (ms.watcherCount, R, evs) ∧
      evs.Pairwise (fun e e' => e.rev < e'.rev) ∧
      ∀ e ∈ evs, ∃ s, e = replayEvent s ∧ ms.kvs.get (splitKey s.key) = some s ∧
        hasPrefix s.key (watchKeyPrefix key opts.recursive) = true ∧
        matchRule opts.resourceVersionMatch s.obj.resourceVersion R = true := by
  have h := reachable_inv hr
  refine ⟨_, by rw [watch_eq_replay hm hR h1], ?_, fun e he => ?_⟩
  · exact List.pairwise_map.mpr (selectSlots_pairwise (h.pairwise.sublist (List.drop_sublist _ _)))
  · obtain ⟨s, hs, rfl⟩ := List.mem_map.mp he
    obtain ⟨hmem, hl⟩ := mem_selectSlots.mp hs
    obtain ⟨i, hi⟩ := List.mem_iff_getElem?.mp (List.mem_of_mem_drop hmem)
    simp only [listed, everything, Bool.and_true, Bool.and_eq_true] at hl
    exact ⟨s, rfl, h.slotKvs i s hi, hl.1, hl.2⟩

/-- `/g/ns/a`・`/g/ns/b`・`/g/ns/c` を revision 1・2・3 で作った store を、resource version 2 から
recursive に watch する。replay は `/g/ns/c` の `Created` である。 -/
theorem watch_replay_sound_three :
    Reachable ((newMemoryStore 0).run [.create "/g/ns/a" Obj.zero, .create "/g/ns/b" Obj.zero,
        .create "/g/ns/c" Obj.zero]) ∧
      parseResourceVersion "2" = .ok 2 ∧ 1 < 2 ∧ KnownMatch "" ∧
      (((newMemoryStore 0).run [.create "/g/ns/a" Obj.zero, .create "/g/ns/b" Obj.zero,
          .create "/g/ns/c" Obj.zero]).watch "/g/ns" ⟨"2", "", everything, true⟩).1 =
        .ok (0, 2, [⟨"/g/ns/c", some (Obj.zero.setResourceVersion 3), none, 3, false, true⟩]) ∧
      ∃ evs, (((newMemoryStore 0).run [.create "/g/ns/a" Obj.zero, .create "/g/ns/b" Obj.zero,
          .create "/g/ns/c" Obj.zero]).watch "/g/ns" ⟨"2", "", everything, true⟩).1 =
          .ok (((newMemoryStore 0).run [.create "/g/ns/a" Obj.zero, .create "/g/ns/b" Obj.zero,
            .create "/g/ns/c" Obj.zero]).watcherCount, 2, evs) ∧
        evs.Pairwise (fun e e' => e.rev < e'.rev) ∧
        ∀ e ∈ evs, ∃ s, e = replayEvent s ∧
          ((newMemoryStore 0).run [.create "/g/ns/a" Obj.zero, .create "/g/ns/b" Obj.zero,
            .create "/g/ns/c" Obj.zero]).kvs.get (splitKey s.key) = some s ∧
          hasPrefix s.key (watchKeyPrefix "/g/ns" true) = true ∧
          matchRule "" s.obj.resourceVersion 2 = true :=
  ⟨run_reachable (.init 0) _, by decide, by decide, .inr (.inr rfl), by decide,
    watch_replay_sound (run_reachable (.init 0) _) "/g/ns" ⟨"2", "", everything, true⟩
      (by decide) (by decide) (.inr (.inr rfl))⟩

/-- `/g/ns/a`・`/g/ns/b` を作って `/g/ns/b` を消した store（`kvList` は `[a, 空]`）を、resource
version 2 から recursive に watch する。`binarySearchInObjList 2` の最初の probe は空の slot に
当たって右へ進み、位置 2 を返すので、revision `2 ^ 62 + 1700000000000001` の `/g/ns/a` は live
なのに replay は空である。また `/g/ns/ab` だけを作った store で、recursive でない
`watch "/g/ns/a"` の prefix は `/g/ns/a` そのものなので、live でない `/g/ns/a` ではなく
`/g/ns/ab` の `Created` が replay に入る。 -/
theorem watch_replay_diverges :
    (∃ ms, ms = (newMemoryStore (2 ^ 62 + 1700000000000000)).run
        [.create "/g/ns/a" Obj.zero, .create "/g/ns/b" Obj.zero, .delete "/g/ns/b" none none] ∧
      ms.live "/g/ns/a" = some (Obj.zero.setResourceVersion (2 ^ 62 + 1700000000000001)) ∧
      ms.binarySearchInObjList 2 = 2 ∧
      (ms.watch "/g/ns" ⟨"2", "", everything, true⟩).1 = .ok (0, 2, [])) ∧
    ∃ ms, ms = (newMemoryStore (2 ^ 62 + 1700000000000000)).run [.create "/g/ns/ab" Obj.zero] ∧
      ms.live "/g/ns/a" = none ∧
      (ms.watch "/g/ns/a" ⟨"2", "", everything, false⟩).1 =
        .ok (0, 2, [⟨"/g/ns/ab", some (Obj.zero.setResourceVersion (2 ^ 62 + 1700000000000001)),
          none, 2 ^ 62 + 1700000000000001, false, true⟩]) :=
  ⟨⟨_, rfl, by decide⟩, _, rfl, by decide⟩

end MemoryStore

end FornaxStore
