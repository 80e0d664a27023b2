import FornaxStore.Properties.Invariant

/-!
# event の列は状態の変化を書き留める

`sendEvent` に渡される event の列（ghost の `sent`）と、key から今の object への写像
（`live`）の変化を突き合わせる。

* `Records` — 一つの event が一つの変化を書き留める：`Created` は無い key に object を置き、
  `Updated` は今の object を revision の新しい object に替え、`Deleted` は今の object を消す。
  `Updated` の `oldObj` は呼び出しが渡すもので、ここでは縛らない
* `EventChain` — event の列が live map を順に書き換え、各 event の revision は
  その変化のために `_MemoryRev` から取った値（一つ前の値の次）である
* `ReportsOld` — 各 event の `oldObj` が、その直前に key にあった object である
* `exec_events` — 届く状態から呼び出しを一つ行うと、`sent` の末尾に足されるのは
  live map の変化をちょうど書き留める event の列で、失敗した呼び出しは何も足さない
* `guaranteedUpdate_aliased_oldObj` — 渡された copy をそのまま返す `tryUpdate` では、
  `Updated` の `oldObj` は書き換えの前の object ではなく、新しい revision を書かれたそれ自身である
* `reachable_events` — 呼び出し側の関数が渡された copy に触れなければ、`oldObj` も前の object を
  そのまま知らせ、`sent` 全体の revision は真に増える
-/

namespace FornaxStore

open Function

/-- event を一つ、key で引ける object の集まりに当てる：`Deleted` は key を消し、ほかは key の
object を置き換える。 -/
def applyEvent (view : String → Option Obj) (e : ObjEvent) : String → Option Obj :=
  update view e.key (if e.isDeleted then none else e.obj)

/-- event `e` が live map の `L` から `L'` への一つの変化を書き留めている。`Updated` の
`oldObj`（`reported`）は呼び出しが渡すもの。 -/
inductive Records : (String → Option Obj) → ObjEvent → (String → Option Obj) → Prop
  | created {L : String → Option Obj} {key : String} {o : Obj} :
      L key = none →
      Records L ⟨key, some o, none, o.resourceVersion, false, true⟩ (update L key (some o))
  | updated {L : String → Option Obj} {key : String} {old o : Obj} (reported : Obj) :
      L key = some old → old.resourceVersion < o.resourceVersion →
      Records L ⟨key, some o, some reported, o.resourceVersion, false, false⟩
        (update L key (some o))
  | deleted {L : String → Option Obj} {key : String} {old : Obj} {rev : Nat} :
      L key = some old →
      Records L ⟨key, none, some old, rev, true, false⟩ (update L key none)

/-- `evs` が live map を `L` から `L'` へ一つずつ書き換え、各 event の revision は
一つ前の revision の次の値で、最後の revision が `r'` になる。 -/
inductive EventChain : (String → Option Obj) → Nat → List ObjEvent → (String → Option Obj) → Nat →
    Prop
  | nil (L : String → Option Obj) (r : Nat) : EventChain L r [] L r
  | cons {L L₁ L' : String → Option Obj} {r r' : Nat} {e : ObjEvent} {evs : List ObjEvent} :
      Records L e L₁ → e.rev = r + 1 → EventChain L₁ e.rev evs L' r' →
      EventChain L r (e :: evs) L' r'

theorem Records.applyEvent {L L' : String → Option Obj} {e : ObjEvent} (h : Records L e L') :
    applyEvent L e = L' := by
  cases h <;> rfl

theorem EventChain.foldl_applyEvent {L L' : String → Option Obj} {r r' : Nat} {evs : List ObjEvent}
    (h : EventChain L r evs L' r') : evs.foldl applyEvent L = L' := by
  induction h with
  | nil => rfl
  | cons hrec _ _ ih => rw [List.foldl_cons, hrec.applyEvent, ih]

/-- 各 event の `oldObj` が、その event の直前に key にあった object である（`Created` なら無い）。 -/
def ReportsOld : (String → Option Obj) → List ObjEvent → Prop
  | _, [] => True
  | L, e :: evs => e.oldObj = L e.key ∧ ReportsOld (applyEvent L e) evs

/-- 列の中の revision は `r` より大きく `r'` 以下で、前から順に真に増える。 -/
theorem EventChain.revs {L L' : String → Option Obj} {r r' : Nat} {evs : List ObjEvent}
    (h : EventChain L r evs L' r') :
    r ≤ r' ∧ (∀ e ∈ evs, r < e.rev ∧ e.rev ≤ r') ∧ evs.Pairwise (fun e e' => e.rev < e'.rev) := by
  induction h with
  | nil => simp
  | cons _ hr _ ih =>
    obtain ⟨h1, h2, h3⟩ := ih
    refine ⟨by omega, ?_, List.Pairwise.cons (fun e he => (h2 e he).1) h3⟩
    intro e he
    rcases List.mem_cons.mp he with rfl | he
    · omega
    · have := h2 e he; omega

namespace MemoryStore

section

variable {ms : MemoryStore} {key : String} {cur : ObjWithIndex} {obj : Obj}

theorem Inv.rv_le (h : Inv ms) {keys : List String} {s : ObjWithIndex}
    (hk : ms.kvs.get keys = some s) : s.obj.resourceVersion ≤ ms.memoryRev :=
  h.reservedLe _ (List.getElem?_mem (h.slotRev _ _ (h.kvsSlot keys s hk).2))

theorem live_created : (ms.created key obj).live =
    update ms.live key (some (obj.setResourceVersion (ms.memoryRev + 1))) := by
  funext k; by_cases hk : k = key <;> simp [live, created, hk, update_apply]

theorem live_updated (oldObj : Obj) : (ms.updated key cur oldObj obj).live =
    update ms.live key (some (obj.setResourceVersion (ms.memoryRev + 1))) := by
  funext k; by_cases hk : k = key <;> simp [live, updated, hk, update_apply]

theorem live_deleted : (ms.deleted key cur).live = update ms.live key none := by
  funext k; by_cases hk : k = key <;> simp [live, deleted, hk, update_apply]

/-- 一つの変更は、`_MemoryRev` の次の値を revision に持つ event を一つ送り、それは
live map の変化を書き留めている。変更が今の object を古い object として知らせるなら、event の
`oldObj` は key にあった object である。 -/
theorem change_event (h : Inv ms) {c : Change} (hc : c.Enabled ms) :
    ∃ e, (c.apply ms).sent = ms.sent ++ [e] ∧ Records ms.live e (c.apply ms).live ∧
      e.rev = ms.memoryRev + 1 ∧ (c.apply ms).memoryRev = e.rev ∧
      (c.Faithful → e.oldObj = ms.live e.key) := by
  cases c with
  | create key obj =>
    have hc : ms.kvs.get (splitKey key) = none := hc
    refine ⟨_, rfl, ?_, rfl, rfl, fun _ => by simp [live, hc]⟩
    rw [Change.apply, live_created]
    exact .created (by simp [live, hc])
  | update key cur oldObj obj =>
    have hc : ms.kvs.get (splitKey key) = some cur := hc
    refine ⟨_, rfl, ?_, rfl, rfl, fun hf => by simp [live, hc, show oldObj = cur.obj from hf]⟩
    rw [Change.apply, live_updated]
    exact .updated _ (show ms.live key = some cur.obj by simp [live, hc])
      (by simpa using Nat.lt_succ_of_le (h.rv_le hc))
  | delete key cur =>
    have hc : ms.kvs.get (splitKey key) = some cur := hc
    refine ⟨_, rfl, ?_, rfl, rfl, fun _ => by simp [live, hc]⟩
    rw [Change.apply, live_deleted]
    exact .deleted (by simp [live, hc])

theorem Changes.events {ms' : MemoryStore} {cs : List Change} (h : Inv ms)
    (hcs : Changes ms cs ms') :
    ∃ evs, ms'.sent = ms.sent ++ evs ∧ EventChain ms.live ms.memoryRev evs ms'.live ms'.memoryRev ∧
      evs.length = cs.length ∧ ((∀ c ∈ cs, c.Faithful) → ReportsOld ms.live evs) := by
  induction hcs with
  | nil => exact ⟨[], by simp, .nil _ _, rfl, fun _ => ⟨⟩⟩
  | cons hc _ ih =>
    obtain ⟨evs, hsent, hchain, hlen, hold⟩ := ih (h.apply hc)
    obtain ⟨e, he, hrec, hrev, hm, hf⟩ := change_event h hc
    refine ⟨e :: evs, by simp [hsent, he], .cons hrec hrev (hm ▸ hchain), by simp [hlen],
      fun hfs => ⟨hf (hfs _ (List.mem_cons_self _ _)), ?_⟩⟩
    rw [hrec.applyEvent]
    exact hold fun c hc => hfs c (List.mem_cons_of_mem _ hc)

/-- 呼び出し一つが `sent` に足す event は、live map の変化をちょうど書き留める。 -/
theorem exec_events (h : Inv ms) (c : Call) :
    ∃ evs, (ms.exec c).2.sent = ms.sent ++ evs ∧
      EventChain ms.live ms.memoryRev evs (ms.exec c).2.live (ms.exec c).2.memoryRev ∧
      ∀ err, (ms.exec c).1 = .error err → evs = [] := by
  obtain ⟨cs, hcs, herr, -⟩ := exec_explained h c
  obtain ⟨evs, hsent, hchain, hlen, -⟩ := Changes.events h hcs
  refine ⟨evs, hsent, hchain, fun err he => ?_⟩
  rw [← List.length_eq_zero, hlen, herr err he, List.length_nil]

end

/-- 届く状態では、送った event の revision は真に増え、どれも `_MemoryRev` を超えない。 -/
theorem reachable_sent {ms : MemoryStore} (h : Reachable ms) :
    ms.sent.Pairwise (fun e e' => e.rev < e'.rev) ∧ ∀ e ∈ ms.sent, e.rev ≤ ms.memoryRev := by
  induction h with
  | init rev => simp [newMemoryStore]
  | @step ms ms' hr hs ih =>
    obtain ⟨hsorted, hle⟩ := ih
    cases hs with
    | call c =>
      obtain ⟨evs, hsent, hchain, -⟩ := exec_events (reachable_inv hr) c
      obtain ⟨hmono, hin, hpw⟩ := hchain.revs
      rw [hsent, List.pairwise_append]
      refine ⟨⟨hsorted, hpw, fun e he e' he' => ?_⟩, fun e he => ?_⟩
      · have := hle e he; have := (hin e' he').1; omega
      · rcases List.mem_append.mp he with he | he
        · have := hle e he; omega
        · exact (hin e he).2
    | watch key opts =>
      rw [watch_snd]
      split
      · exact ⟨hsorted, hle⟩
      · exact ⟨hsorted, hle⟩
    | stopWatcher id => exact ⟨hsorted, hle⟩
    | otherStore => exact ⟨hsorted, fun e he => Nat.le_succ_of_le (hle e he)⟩

/-- 渡された copy をそのまま返す `tryUpdate`（Go では `currObj` の pointer を返す）で
`GuaranteedUpdate` すると、`store.UpdateObjectResourceVersion(ret, rev)` は `currObj` の revision を
書き換え、`Updated` の `oldObj` は書き込む前の object（revision 1）ではなく、書いた object
（revision 2）になる。 -/
theorem guaranteedUpdate_aliased_oldObj :
    ((newMemoryStore 0).run [.create "/g/ns/a" Obj.zero]).live "/g/ns/a" =
        some (Obj.zero.setResourceVersion 1) ∧
      (((newMemoryStore 0).run [.create "/g/ns/a" Obj.zero]).exec
          (.guaranteedUpdate "/g/ns/a" false none fun o => .ok ⟨o, none⟩)).2.sent.map
        (fun e => (e.rev, e.obj, e.oldObj)) =
      [(1, some (Obj.zero.setResourceVersion 1), none),
       (2, some (Obj.zero.setResourceVersion 2), some (Obj.zero.setResourceVersion 2))] := by
  decide

/-- 届く状態で、呼び出し側の関数が渡された copy に触れない呼び出しを一つ行うと、`sent` の末尾に
足される event は live map の変化を一つずつ、取った revision で書き留め、各 event の `oldObj` は
その直前に key にあった object で、失敗した呼び出しは何も足さない。送った event の revision は
全体で真に増える。 -/
theorem reachable_events {ms : MemoryStore} (hr : Reachable ms) (c : Call) (hc : c.LeavesInput) :
    ms.sent.Pairwise (fun e e' => e.rev < e'.rev) ∧ (∀ e ∈ ms.sent, e.rev ≤ ms.memoryRev) ∧
    ∃ evs, (ms.exec c).2.sent = ms.sent ++ evs ∧
      EventChain ms.live ms.memoryRev evs (ms.exec c).2.live (ms.exec c).2.memoryRev ∧
      ReportsOld ms.live evs ∧ ∀ err, (ms.exec c).1 = .error err → evs = [] := by
  have h := reachable_inv hr
  obtain ⟨cs, hcs, herr, hf⟩ := exec_explained h c
  obtain ⟨evs, hsent, hchain, hlen, hold⟩ := Changes.events h hcs
  refine ⟨(reachable_sent hr).1, (reachable_sent hr).2, evs, hsent, hchain, hold (hf hc),
    fun err he => ?_⟩
  rw [← List.length_eq_zero, hlen, herr err he, List.length_nil]

/-- 空の store に `/g/ns/a` を作り、別の object を返す `tryUpdate` で更新する。 -/
theorem reachable_events_update :
    Reachable ((newMemoryStore 0).run [.create "/g/ns/a" Obj.zero]) ∧
      Call.LeavesInput (.guaranteedUpdate "/g/ns/a" false none fun o => .ok ⟨o, some o⟩) ∧
      ∃ evs, (((newMemoryStore 0).run [.create "/g/ns/a" Obj.zero]).exec
          (.guaranteedUpdate "/g/ns/a" false none fun o => .ok ⟨o, some o⟩)).2.sent =
        ((newMemoryStore 0).run [.create "/g/ns/a" Obj.zero]).sent ++ evs ∧
      ReportsOld ((newMemoryStore 0).run [.create "/g/ns/a" Obj.zero]).live evs :=
  have hr := run_reachable (.init 0) [.create "/g/ns/a" Obj.zero]
  have hc : Call.LeavesInput (.guaranteedUpdate "/g/ns/a" false none fun o => .ok ⟨o, some o⟩) :=
    fun _ _ hu => by cases hu; exact ⟨rfl, rfl⟩
  let ⟨_, _, evs, hsent, _, hold, _⟩ := reachable_events hr _ hc
  ⟨hr, hc, evs, hsent, hold⟩

end MemoryStore

end FornaxStore
