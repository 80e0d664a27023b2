import FornaxStore.Properties.Replay
import FornaxStore.Properties.Events

/-!
# list の後に watch

呼び出し側は `GetList` の items から key で引ける object の集まりを作り、同じ prefix の watch が
受ける event を順に当てて、それを store に合わせ続ける。

`GetList` は resource version を指定しないと list の revision 1 を返し、`watch` は 1 以下の
resource version を「今」と読んで replay を作らない。そのため list と watch の登録の間に書き込みが
無ければ、登録の後の event だけで足りる。

* `Delivered` — 登録した watcher が止まらずに居て、登録の後に送られた event をすべて受けている
* `run_applyEvent` — 逐次の実行で送られる event を順に当てると、live map が次の live map になる
* `list_then_watch` — list の直後に watch すれば、その後どんな書き込みが続いても、items に
  prefix の下の event を当てたものは、prefix の下の live map である
* `list_then_watch_misses_delete` — list と watch の間の `Delete` は伝わらない
-/

namespace FornaxStore

open Function

/-- prefix の下の key だけを残す。 -/
def underPrefix (keyPrefix : String) (view : String → Option Obj) : String → Option Obj :=
  fun k => if hasPrefix k keyPrefix then view k else none

/-- prefix の下の event だけを prefix の下の集まりに当てるのは、全部を当ててから prefix の下を
残すのと同じである。 -/
theorem foldl_applyEvent_underPrefix (keyPrefix : String) (evs : List ObjEvent) :
    ∀ view, (evs.filter fun e => hasPrefix e.key keyPrefix).foldl applyEvent
      (underPrefix keyPrefix view) = underPrefix keyPrefix (evs.foldl applyEvent view) := by
  induction evs with
  | nil => intro; rfl
  | cons e evs ih =>
    intro view
    rw [List.foldl_cons, ← ih]
    by_cases he : hasPrefix e.key keyPrefix
    · simp only [List.filter_cons, he, if_true, List.foldl_cons]
      congr 1
      funext k
      by_cases hk : k = e.key
      · subst hk; simp [applyEvent, underPrefix, he]
      · simp [applyEvent, underPrefix, update_noteq hk]
    · simp only [List.filter_cons, he, if_false, Bool.false_eq_true]
      congr 1
      funext k
      by_cases hk : k = e.key
      · subst hk; simp [underPrefix, he]
      · simp [applyEvent, underPrefix, update_noteq hk]

/-- key と object の組の列を引くと、どの組も写像 `view` の組であるときは `view` そのものになる。 -/
theorem lookup_eq_of_mem_iff {l : List (String × Obj)} {view : String → Option Obj}
    (h : ∀ k o, (k, o) ∈ l ↔ view k = some o) (k : String) : l.lookup k = view k := by
  cases hv : view k with
  | none =>
    rw [List.lookup_eq_none_iff]
    intro p hp
    have := (h p.1 p.2).mp hp
    simp only [bne_iff_ne, ne_eq]
    rintro rfl
    rw [hv] at this; cases this
  | some o =>
    obtain ⟨b, hb⟩ := Option.isSome_iff_exists.mp
      (List.lookup_isSome_iff.mpr ⟨(k, o), (h k o).mpr hv, beq_self_eq_true k⟩)
    obtain ⟨l₁, l₂, hl, -⟩ := List.lookup_eq_some_iff.mp hb
    have := (h k b).mp (by rw [hl]; simp)
    rw [hb, ← this, hv]

namespace MemoryStore

/-! ## watcher が受ける event -/

/-- 番号 `id` の watcher が止まらずに居て、`sent` は `base` の後に、その watcher が受けた event を
並べたものである。 -/
def Delivered (id : Nat) (base : List ObjEvent) (ms : MemoryStore) : Prop :=
  ∃ w ∈ ms.watchers, w.id = id ∧ w.stopped = false ∧ ms.sent = base ++ w.incomingChan

section

variable {id : Nat} {base : List ObjEvent} {ms : MemoryStore}

theorem Delivered.sendEvent (h : Delivered id base ms) (e : ObjEvent) :
    Delivered id base (ms.sendEvent e) := by
  obtain ⟨w, hw, hid, hst, hsent⟩ := h
  refine ⟨w.send e, List.mem_filterMap.mpr ⟨w, hw, by simp [hst]⟩, hid, hst, ?_⟩
  simp [MemoryStore.sendEvent, MemoryStoreWatcher.send, hsent]

theorem Delivered.apply (h : Delivered id base ms) (c : Change) :
    Delivered id base (c.apply ms) := by
  cases c with
  | create key obj => exact Delivered.sendEvent h _
  | update key cur oldObj obj => exact Delivered.sendEvent h _
  | delete key cur => exact Delivered.sendEvent h _

theorem Delivered.exec (hi : Inv ms) (h : Delivered id base ms) (c : Call) :
    Delivered id base (ms.exec c).2 :=
  let ⟨_, hcs, _, _⟩ := exec_explained hi c
  Changes.rec_inv (fun _ c h _ => h.apply c) hcs h

theorem Delivered.run (hr : Reachable ms) (h : Delivered id base ms) (calls : List Call) :
    Delivered id base (ms.run calls) := by
  induction calls generalizing ms with
  | nil => exact h
  | cons c cs ih => exact ih (hr.step (.call ms c)) (h.exec (reachable_inv hr) c)

end

/-- 逐次の実行で `sent` に足される event を順に当てると、live map は最後の live map になる。 -/
theorem run_applyEvent {ms : MemoryStore} (hr : Reachable ms) (calls : List Call) :
    ∃ evs, (ms.run calls).sent = ms.sent ++ evs ∧
      evs.foldl applyEvent ms.live = (ms.run calls).live := by
  induction calls generalizing ms with
  | nil => exact ⟨[], by simp, rfl⟩
  | cons c cs ih =>
    obtain ⟨evs₁, hsent₁, hchain, -⟩ := exec_events (reachable_inv hr) c
    obtain ⟨evs₂, hsent₂, hlive⟩ := ih (hr.step (.call ms c))
    refine ⟨evs₁ ++ evs₂, by rw [run_cons, hsent₂, hsent₁, List.append_assoc], ?_⟩
    rw [List.foldl_append, hchain.foldl_applyEvent, run_cons, hlive]

/-! ## list の後に watch -/

/-- **list の直後に watch すれば収束する。** 届く状態で、resource version なし（または `"0"`）・
上限なし・選択子 `everything` の recursive な `GetList` の items を、格納されていた key で引ける
組の列 `keyed` にする。その直後に list の revision を resource version にして同じ key を recursive に
watch すると replay は無く、その後どんな書き込み系の呼び出しの列を行っても、watcher は止まらずに
居て、登録の後に `sendEvent` に渡された event をすべて順に受けており、そのうち prefix の下のものを
`keyed` に順に当てると、最後の状態で prefix の下に live な object の写像になる。 -/
theorem list_then_watch (codec : ContinueCodec) {ms : MemoryStore} (hr : Reachable ms)
    (key : String) {rv0 : String} (hrv0 : rv0 = "" ∨ rv0 = "0") (calls : List Call) :
    ∃ (res : ListResult) (keyed : List (String × Obj)) (ms₁ : MemoryStore),
      ms.getList codec key ⟨rv0, "", everything, true⟩ = .ok res ∧
      res.items = keyed.map (·.2) ∧
      (∀ k o, (k, o) ∈ keyed ↔ hasPrefix k (listKeyPrefix key) = true ∧ ms.live k = some o) ∧
      ms.watch key ⟨toString res.resourceVersion, "", everything, true⟩ =
        (.ok (ms.watcherCount, ms.memoryRev, []), ms₁) ∧
      ∃ w ∈ (ms₁.run calls).watchers, w.id = ms.watcherCount ∧
        (ms₁.run calls).sent = ms₁.sent ++ w.incomingChan ∧
        (w.incomingChan.filter fun e => hasPrefix e.key (listKeyPrefix key)).foldl applyEvent
          (fun k => keyed.lookup k) = underPrefix (listKeyPrefix key) (ms₁.run calls).live := by
  have h := reachable_inv hr
  have hmem : ∀ k o, (k, o) ∈ (ms.listedFrom (listKeyPrefix key) "" 0 everything 0).map
      (fun v => (v.key, v.obj)) ↔ hasPrefix k (listKeyPrefix key) = true ∧ ms.live k = some o :=
    fun k o => by simp [h.mem_listedFrom_zero, everything]
  have hw := @watch_current ms key ⟨toString 1, "", everything, true⟩ 1 (by decide) le_rfl
  refine ⟨_, _, _, getList_first_unlimited codec ms key (Or.inr (Or.inr rfl)) rfl hrv0 rfl le_rfl,
    by simp, hmem, hw, ?_⟩
  have hr₁ : Reachable (ms.watch key ⟨toString 1, "", everything, true⟩).2 := hr.step (.watch ..)
  rw [hw] at hr₁
  obtain ⟨w, hw', hid, -, hsent⟩ := Delivered.run hr₁
    ⟨_, List.mem_append_right _ (List.mem_singleton_self _), rfl, rfl,
      (List.append_nil _).symm⟩ calls
  obtain ⟨evs, hsent', hlive⟩ := run_applyEvent hr₁ calls
  refine ⟨w, hw', hid, hsent, ?_⟩
  rw [hsent'] at hsent
  obtain rfl := (List.append_cancel_left hsent).symm
  rw [← hlive, ← foldl_applyEvent_underPrefix]
  congr 1
  funext k
  refine lookup_eq_of_mem_iff (fun k o => (hmem k o).trans ?_) k
  by_cases hp : hasPrefix k (listKeyPrefix key) <;> simp [underPrefix, hp, live]

/-- 空の store を list し、すぐ watch して、`/g/ns/a` を作る。 -/
theorem list_then_watch_create :
    Reachable (newMemoryStore 0) ∧ ("" = "" ∨ "" = "0") ∧
    ∃ (res : ListResult) (keyed : List (String × Obj)) (ms₁ : MemoryStore),
      (newMemoryStore 0).getList digitCodec "/g/ns" ⟨"", "", everything, true⟩ = .ok res ∧
      res.items = keyed.map (·.2) ∧
      (∀ k o, (k, o) ∈ keyed ↔
        hasPrefix k (listKeyPrefix "/g/ns") = true ∧ (newMemoryStore 0).live k = some o) ∧
      (newMemoryStore 0).watch "/g/ns" ⟨toString res.resourceVersion, "", everything, true⟩ =
        (.ok ((newMemoryStore 0).watcherCount, (newMemoryStore 0).memoryRev, []), ms₁) ∧
      ∃ w ∈ (ms₁.run [.create "/g/ns/a" Obj.zero]).watchers,
        w.id = (newMemoryStore 0).watcherCount ∧
        (ms₁.run [.create "/g/ns/a" Obj.zero]).sent = ms₁.sent ++ w.incomingChan ∧
        (w.incomingChan.filter fun e => hasPrefix e.key (listKeyPrefix "/g/ns")).foldl applyEvent
          (fun k => keyed.lookup k) =
            underPrefix (listKeyPrefix "/g/ns") (ms₁.run [.create "/g/ns/a" Obj.zero]).live :=
  ⟨.init 0, .inl rfl,
    list_then_watch digitCodec (.init 0) "/g/ns" (.inl rfl) [.create "/g/ns/a" Obj.zero]⟩

/-- `/g/ns/x` を作った store を list し、watch の前に `/g/ns/x` を消す。list は `[x]` と revision 1 を
返し、resource version `"1"` の watch は replay を作らず、消した後に登録した watcher は `Deleted` を
受けない。items には `/g/ns/x` の object が残るが、store にはもう無い。 -/
theorem list_then_watch_misses_delete :
    ∃ ms₀ ms₁ ms₂ res, ms₀ = (newMemoryStore (2 ^ 62 + 1700000000000000)).run
        [.create "/g/ns/x" Obj.zero] ∧
      ms₀.getList digitCodec "/g/ns" ⟨"", "", everything, true⟩ = .ok res ∧
      res = ⟨[Obj.zero.setResourceVersion (2 ^ 62 + 1700000000000001)], 1, "", none⟩ ∧
      ms₀.live "/g/ns/x" = some (Obj.zero.setResourceVersion (2 ^ 62 + 1700000000000001)) ∧
      ms₁ = ms₀.run [.delete "/g/ns/x" none none] ∧
      ms₂ = (ms₁.watch "/g/ns" ⟨toString res.resourceVersion, "", everything, true⟩).2 ∧
      (ms₁.watch "/g/ns" ⟨toString res.resourceVersion, "", everything, true⟩).1 =
        .ok (0, 2 ^ 62 + 1700000000000002, []) ∧
      (∀ w ∈ ms₂.watchers, w.incomingChan = []) ∧ ms₂.live "/g/ns/x" = none :=
  ⟨_, _, _, _, rfl, rfl, rfl, by decide, rfl, rfl, by decide⟩

end MemoryStore

end FornaxStore
