import FornaxStore.Properties.Deadlock
import FornaxStore.Properties.Paging

/-!
# `freezeWorld` の排他

`Stop` と `shrink` は `freezeWorld.Lock` を取り、ほかの操作は `freezeWorld.RLock` を取る。
`RLock` を入れ子にする `GetList` や `watch` があると deadlock に至ることがある
（`getList_stop_deadlock`）が、lock が与える排他そのものは入れ子があっても崩れない。どの操作を
どの store の状態からどう交互に進めても、write lock を持つ goroutine が居る間は、mutex は
write lock を持たれ read lock は零で、`Unlock` を待つ goroutine はそれ一つ、どの goroutine も
read lock の中に居ない（`runSchedule_writer_excludes`）。

goroutine ごとの残りの列は `RLock`…`RUnlock` と `Lock`…`Unlock` が対になった列（`Bracketed`）
で、まだ返していない read lock の数（`readDepth`）を持つ。mutex の reader の数はその和
（`heldReads`）で、writer の様子は、名乗り出た（lock を持つ）goroutine の数と一致する
（`ExclInv`）。

## 主な結果

* `Operation.locks_bracketed` — どの操作の列も対になった列である
* `Phase.stepOp_cases` — 対になった列を走らせている goroutine の一歩でできること
* `ExclInv.step`・`ExclInv.runSchedule` — 一歩、そして schedule 全体が不変条件を保つ
* `runSchedule_writer_excludes` — write lock を持つ goroutine が居れば、ほかに lock を持つものは無い
-/

namespace FornaxStore

namespace Quiesce

/-! ## 対になった列 -/

/-- `RLock` と `RUnlock` が対になり、`Lock` が read lock の外で `Unlock` と対になる列。`d` は、
列より前に取り列の中で返す read lock の数。 -/
inductive Bracketed : Nat → List LockOp → Prop
  | nil : Bracketed 0 []
  | rLock {d : Nat} {t : List LockOp} : Bracketed (d + 1) t → Bracketed d (.rLock :: t)
  | rUnlock {d : Nat} {t : List LockOp} : Bracketed d t → Bracketed (d + 1) (.rUnlock :: t)
  | lock {t : List LockOp} : Bracketed 0 t → Bracketed 0 (.lock :: .unlock :: t)

theorem Flat.bracketed {t : List LockOp} (h : Flat t) : Bracketed 0 t := by
  induction h with
  | nil => exact .nil
  | read _ ih => exact .rLock (.rUnlock ih)
  | write _ ih => exact .lock ih

/-- どの操作の列も対になっている。入れ子にする `GetList` と `watch` の列も同じ。 -/
theorem Operation.locks_bracketed (codec : ContinueCodec) (ms : MemoryStore) (op : Operation) :
    Bracketed 0 (op.locks codec ms) := by
  rcases op.locks_flat_or_nested codec ms with h | h
  · exact h.bracketed
  · rw [h]
    exact .rLock (.rLock (.rUnlock (.rUnlock .nil)))

/-- goroutine がまだ返していない read lock の数：残りの `RUnlock` の数から残りの `RLock` の数を
引いたもの。 -/
def readDepth (t : List LockOp) : Nat := t.count .rUnlock - t.count .rLock

theorem Bracketed.count_rUnlock {d : Nat} {t : List LockOp} (h : Bracketed d t) :
    t.count .rUnlock = d + t.count .rLock := by
  induction h with
  | nil => rfl
  | rLock _ ih | rUnlock _ ih | lock _ ih => simp [List.count_cons, ih] <;> omega

theorem Bracketed.readDepth_eq {d : Nat} {t : List LockOp} (h : Bracketed d t) :
    readDepth t = d := by
  rw [readDepth, h.count_rUnlock]; omega

/-! ## goroutine の段 -/

/-- goroutine が writer として居る段：次が reader を待ち終えることなら名乗り出て待っている、
`Unlock` なら lock を持っている。 -/
def writerOf (t : List LockOp) : Writer :=
  match t.head? with
  | some .awaitReaders => .waiting
  | some .unlock => .holding
  | _ => .absent

theorem Bracketed.writerOf_eq {d : Nat} {t : List LockOp} (h : Bracketed d t) :
    writerOf t = .absent := by
  cases h <;> rfl

theorem writerOf_beq_holding :
    (fun t => writerOf t == .holding) = fun t : List LockOp => t.head? == some .unlock := by
  funext t
  rcases t with _ | ⟨_ | _ | _ | _ | _, _⟩ <;> rfl

/-- 対になった列を走らせている goroutine の残り：read lock を持ちうる対になった列、writer として
名乗り出て reader を待つ、write lock を持つ。 -/
inductive Phase : List LockOp → Prop
  | running {d : Nat} {t : List LockOp} : Bracketed d t → Phase t
  | awaiting {t : List LockOp} : Bracketed 0 t → Phase (.awaitReaders :: .unlock :: t)
  | holding {t : List LockOp} : Bracketed 0 t → Phase (.unlock :: t)

/-- どの段でも、残りの `RUnlock` は残りの `RLock` より返していない read lock の数だけ多い。 -/
theorem Phase.count_rUnlock {t : List LockOp} (h : Phase t) :
    t.count .rUnlock = readDepth t + t.count .rLock := by
  rcases h with ⟨h⟩ | ⟨h⟩ | ⟨h⟩ <;> simp [readDepth, List.count_cons, h.count_rUnlock]

/-- 対になった列を走らせている goroutine の一歩でできること：`RLock`・`RUnlock`・`Lock` の名乗り・
reader を待ち終える・`Unlock`。reader の数は、返していない read lock の数と同じだけ動く。 -/
theorem Phase.stepOp_cases {t t' : List LockOp} {mu mu' : RWMutex} (ht : Phase t)
    (h : stepOp mu t = some (mu', t')) :
    Phase t' ∧ mu'.readers = mu.readers + readDepth t' - readDepth t ∧
      ((mu.writer = .absent ∧ mu' = { mu with readers := mu.readers + 1 } ∧
          writerOf t = .absent ∧ writerOf t' = .absent) ∨
        (mu' = { mu with readers := mu.readers - 1 } ∧
          writerOf t = .absent ∧ writerOf t' = .absent) ∨
        (mu.writer = .absent ∧ mu' = { mu with writer := .waiting } ∧
          writerOf t = .absent ∧ writerOf t' = .waiting) ∨
        (mu.readers = 0 ∧ mu' = { mu with writer := .holding } ∧
          writerOf t = .waiting ∧ writerOf t' = .holding) ∨
        (mu' = { mu with writer := .absent } ∧ writerOf t = .holding ∧ writerOf t' = .absent)) := by
  rcases ht with ⟨(_ | hr | hr | hr)⟩ | ⟨hr⟩ | ⟨hr⟩
  · cases h
  · -- `RLock`
    obtain ⟨hw, ⟨⟩⟩ := Option.ite_none_right_eq_some.mp h
    have := (Bracketed.rLock hr).readDepth_eq
    exact ⟨.running hr, by simp only [hr.readDepth_eq] at this ⊢; omega,
      .inl ⟨hw, rfl, rfl, hr.writerOf_eq⟩⟩
  · -- `RUnlock`
    cases h
    have := (Bracketed.rUnlock hr).readDepth_eq
    exact ⟨.running hr, by simp only [hr.readDepth_eq] at this ⊢; omega,
      .inr (.inl ⟨rfl, rfl, hr.writerOf_eq⟩)⟩
  · -- `Lock` の名乗り
    obtain ⟨hw, ⟨⟩⟩ := Option.ite_none_right_eq_some.mp h
    exact ⟨.awaiting hr, by simp [readDepth, hr.count_rUnlock],
      .inr (.inr (.inl ⟨hw, rfl, rfl, rfl⟩))⟩
  · -- reader を待ち終える
    obtain ⟨hz, ⟨⟩⟩ := Option.ite_none_right_eq_some.mp h
    exact ⟨.holding hr, by simp [readDepth],
      .inr (.inr (.inr (.inl ⟨hz, rfl, rfl, rfl⟩)))⟩
  · -- `Unlock`
    cases h
    exact ⟨.running hr, by simp [readDepth, hr.count_rUnlock],
      .inr (.inr (.inr (.inr ⟨rfl, rfl, hr.writerOf_eq⟩)))⟩

/-! ## 不変条件 -/

/-- goroutine の集まりがまだ返していない read lock の数の和。 -/
def heldReads : List (List LockOp) → Nat
  | [] => 0
  | t :: ts => readDepth t + heldReads ts

/-- 一つの goroutine の残りを置き換えると、和はその goroutine の分だけ動く。 -/
theorem heldReads_set {t : List LockOp} (t' : List LockOp) :
    ∀ {ts : List (List LockOp)} {i : Nat}, ts[i]? = some t →
      heldReads (ts.set i t') + readDepth t = heldReads ts + readDepth t'
  | _ :: _, 0, h => by
    simp only [List.getElem?_cons_zero, Option.some.injEq] at h
    subst h
    simp only [List.set_cons_zero, heldReads]; omega
  | _ :: ts, i + 1, h => by
    have := heldReads_set t' (by simpa using h : ts[i]? = some t)
    simp only [List.set_cons_succ, heldReads]; omega

theorem readDepth_le_heldReads {t : List LockOp} :
    ∀ {ts : List (List LockOp)}, t ∈ ts → readDepth t ≤ heldReads ts
  | _ :: ts, h => by
    rcases List.mem_cons.mp h with rfl | h
    · exact Nat.le_add_right _ _
    · exact (readDepth_le_heldReads h).trans (Nat.le_add_left _ _)

theorem heldReads_eq_zero {ts : List (List LockOp)} (h : ∀ t ∈ ts, readDepth t = 0) :
    heldReads ts = 0 := by
  induction ts with
  | nil => rfl
  | cons t ts ih =>
    simp only [heldReads, h t (List.mem_cons_self _ _),
      ih fun t' ht' => h t' (List.mem_cons_of_mem _ ht')]

/-- 対になった列を走らせる goroutine の集まりの不変条件。mutex の reader の数は返していない
read lock の数の和で、名乗り出た writer と lock を持つ writer は、mutex の様子がそれであるとき
に限り、ちょうど一つの goroutine である。lock を持つ writer が居れば reader は居ない。 -/
structure ExclInv (s : LockSys) : Prop where
  phases : ∀ t ∈ s.threads, Phase t
  readers : s.mu.readers = heldReads s.threads
  writers : ∀ w, w ≠ .absent →
    s.threads.countP (fun t => writerOf t == w) = if s.mu.writer = w then 1 else 0
  exclusive : s.mu.writer = .holding → s.mu.readers = 0

theorem exclInv_init {threads : List (List LockOp)} (h : ∀ t ∈ threads, Bracketed 0 t) :
    ExclInv (LockSys.init threads) where
  phases t ht := .running (h t ht)
  readers := (heldReads_eq_zero fun t ht => (h t ht).readDepth_eq).symm
  writers w hw := by
    rw [List.countP_eq_zero.mpr fun t ht => by simp [(h t ht).writerOf_eq, Ne.symm hw]]
    cases w <;> simp_all [LockSys.init, RWMutex.unlocked]
  exclusive hw := by cases hw

/-- writer として居る goroutine があれば、mutex の様子はそれである。 -/
theorem ExclInv.writer_eq {s : LockSys} (h : ExclInv s) {t : List LockOp} (ht : t ∈ s.threads)
    {w : Writer} (hw : w ≠ .absent) (hwt : writerOf t = w) : s.mu.writer = w := by
  have hpos : 0 < s.threads.countP (fun t => writerOf t == w) :=
    List.countP_pos_iff.mpr ⟨t, ht, by simp [hwt]⟩
  rw [h.writers w hw] at hpos
  by_contra hne
  simp [hne] at hpos

/-- 一歩は不変条件を保つ。 -/
theorem ExclInv.step {s : LockSys} (h : ExclInv s) (i : Nat) : ExclInv (s.step i) := by
  unfold LockSys.step
  cases hi : s.threads[i]? with
  | none => exact h
  | some t =>
    dsimp only
    cases hst : stepOp s.mu t with
    | none => exact h
    | some r =>
      obtain ⟨mu', t'⟩ := r
      obtain ⟨hlt, hti⟩ := List.getElem?_eq_some_iff.mp hi
      have htmem : t ∈ s.threads := List.getElem?_mem hi
      have hsum := heldReads_set t' hi
      have hle : readDepth t ≤ s.mu.readers := h.readers ▸ readDepth_le_heldReads htmem
      obtain ⟨hphase, hreaders, hcase⟩ := (h.phases t htmem).stepOp_cases hst
      have hreaders' : mu'.readers = heldReads (s.threads.set i t') := by
        have := h.readers; omega
      refine ⟨forall_mem_set h.phases hphase, hreaders', fun w hw => ?_, fun hw => ?_⟩
      · rw [List.countP_set _ _ _ _ hlt, hti, h.writers w hw]
        rcases hcase with ⟨-, rfl, h1, h2⟩ | ⟨rfl, h1, h2⟩ | ⟨hwa, rfl, h1, h2⟩ |
            ⟨-, rfl, h1, h2⟩ | ⟨rfl, h1, h2⟩
        · simp [h1, h2, Ne.symm hw]
        · simp [h1, h2, Ne.symm hw]
        · cases w <;> simp [hwa, h1, h2]
        · cases w <;> simp [h.writer_eq htmem (by decide : Writer.waiting ≠ .absent) h1, h1, h2]
        · cases w <;> simp [h.writer_eq htmem (by decide : Writer.holding ≠ .absent) h1, h1, h2]
      · rcases hcase with ⟨hwa, rfl, -⟩ | ⟨rfl, -⟩ | ⟨-, rfl, -⟩ | ⟨hz, rfl, -⟩ | ⟨rfl, -⟩
        · simp [hwa] at hw
        · have := h.exclusive hw
          dsimp only at this ⊢
          omega
        · cases hw
        · exact hz
        · cases hw

theorem ExclInv.runSchedule {s : LockSys} (h : ExclInv s) (σ : List Nat) :
    ExclInv (s.runSchedule σ) := by
  induction σ generalizing s with
  | nil => exact h
  | cons i σ ih => exact ih (h.step i)

/-- 不変条件の下で、write lock を持つ goroutine があれば、mutex は write lock を持たれ reader は
零で、`Unlock` を待つ goroutine はそれ一つ、どの goroutine も read lock の中に居ない。 -/
theorem ExclInv.writer_excludes {s : LockSys} (h : ExclInv s) {t : List LockOp}
    (ht : t ∈ s.threads) (hw : t.head? = some .unlock) :
    s.mu = ⟨0, .holding⟩ ∧ s.threads.countP (fun t => t.head? == some .unlock) = 1 ∧
      ∀ t' ∈ s.threads, t'.count .rUnlock = t'.count .rLock := by
  have hholding := h.writer_eq ht (by decide : Writer.holding ≠ .absent) (by simp [writerOf, hw])
  have hzero := h.exclusive hholding
  refine ⟨?_, ?_, fun t' ht' => ?_⟩
  · cases hmu : s.mu
    simp_all
  · rw [← writerOf_beq_holding, h.writers .holding (by decide), if_pos hholding]
  · have hdepth : readDepth t' = 0 :=
      Nat.eq_zero_of_le_zero (hzero ▸ h.readers ▸ readDepth_le_heldReads ht')
    rw [(h.phases t' ht').count_rUnlock, hdepth, Nat.zero_add]

/-- 操作の列を走らせる goroutine の集まりは、不変条件から始まる。各操作のデータで分かれる
ところは、その操作が始まる時の store で決まる。 -/
theorem exclInv_locks (codec : ContinueCodec) (ops : List (Operation × MemoryStore)) :
    ExclInv (LockSys.init (ops.map fun op => op.1.locks codec op.2)) :=
  exclInv_init fun t ht => by
    obtain ⟨op, -, rfl⟩ := List.mem_map.mp ht
    exact op.1.locks_bracketed codec op.2

/-- 公開された操作と `shrink` を、それぞれがどの store の状態から始まっても、どう並べ、どう
交互に進めても、write lock を持つ goroutine が居れば、mutex は write lock を持たれ read lock は
零で、`Unlock` を待つ goroutine はそれ一つ、どの goroutine も read lock の中に居ない。`RLock` を
入れ子にする `GetList`・`watch` を含めて成り立つ。 -/
theorem runSchedule_writer_excludes (codec : ContinueCodec) (ops : List (Operation × MemoryStore))
    (σ : List Nat) (t : List LockOp)
    (ht : t ∈ ((LockSys.init (ops.map fun op => op.1.locks codec op.2)).runSchedule σ).threads)
    (hw : t.head? = some .unlock) :
    ((LockSys.init (ops.map fun op => op.1.locks codec op.2)).runSchedule σ).mu =
        ⟨0, .holding⟩ ∧
      ((LockSys.init (ops.map fun op => op.1.locks codec op.2)).runSchedule σ).threads.countP
          (fun t => t.head? == some .unlock) = 1 ∧
      ∀ t' ∈ ((LockSys.init (ops.map fun op => op.1.locks codec op.2)).runSchedule σ).threads,
        t'.count .rUnlock = t'.count .rLock :=
  ((exclInv_locks codec ops).runSchedule σ).writer_excludes ht hw

/-- `/g/ns/a` を作った store での resource version `"5"` の recursive な `GetList` が入れ子の
read lock を全て返した後、空の store での `Stop` が `Lock` を取って reader を待ち終えると、`Stop`
の goroutine だけが `Unlock` を待つ。 -/
theorem runSchedule_writer_excludes_getList :
    [LockOp.unlock] ∈ ((LockSys.init ([(Operation.getList "/g/ns" ⟨"5", "", everything, true⟩,
        (MemoryStore.newMemoryStore 0).run [.create "/g/ns/a" Obj.zero]),
        (.stop, MemoryStore.newMemoryStore 0)].map fun op => op.1.locks digitCodec op.2)).runSchedule
        [0, 0, 0, 0, 1, 1]).threads ∧
      ((LockSys.init ([(Operation.getList "/g/ns" ⟨"5", "", everything, true⟩,
        (MemoryStore.newMemoryStore 0).run [.create "/g/ns/a" Obj.zero]),
        (.stop, MemoryStore.newMemoryStore 0)].map fun op => op.1.locks digitCodec op.2)).runSchedule
          [0, 0, 0, 0, 1, 1]).mu = ⟨0, .holding⟩ :=
  have hmem : [LockOp.unlock] ∈ ((LockSys.init ([(Operation.getList "/g/ns"
      ⟨"5", "", everything, true⟩, (MemoryStore.newMemoryStore 0).run [.create "/g/ns/a" Obj.zero]),
        (.stop, MemoryStore.newMemoryStore 0)].map fun op => op.1.locks digitCodec op.2)).runSchedule
      [0, 0, 0, 0, 1, 1]).threads := by
    decide
  ⟨hmem, (runSchedule_writer_excludes digitCodec [(.getList "/g/ns" ⟨"5", "", everything, true⟩,
      (MemoryStore.newMemoryStore 0).run [.create "/g/ns/a" Obj.zero]),
    (.stop, MemoryStore.newMemoryStore 0)] [0, 0, 0, 0, 1, 1] [.unlock] hmem rfl).1⟩

end Quiesce

end FornaxStore
