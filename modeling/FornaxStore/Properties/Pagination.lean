import FornaxStore.Properties.Paging

/-!
# 変わらない store の頁送り

呼び出し側は上限 `L` の recursive な `GetList` を呼び、continue token が空になるまで前の token で
続きを求める（`listPages`）。頁の間に store が変わらなければ、token は前の頁の最後の slot を
同じ revision で指すので、次の頁はその slot の次から走る。

* `page_step` — 頁一つ：まだ返していない slot の列の最初の `L` 個を返し、token が空ならそれで
  全部、空でなければ次の頁のまだ返していない列は残りである
* `listPages_exact` — 頁送りは `⌈n / L⌉ + 1` 回以内で終わり、集めた items は prefix の下の、
  選択子に合う live な object をちょうど一度ずつ、revision の順に持つ
-/

namespace FornaxStore

namespace MemoryStore

/-- 頁送りの一回の option：token が空なら最初の頁（resource version `rv0`）、そうでなければ
その token の続き。どちらも match は指定しない。 -/
def pageOptions (sp : SelectionPredicate) (limit : Nat) (rv0 token : String) : ListOptions :=
  if token = "" then ⟨rv0, "", { sp with limit := limit, continueToken := "" }, true⟩
  else ⟨"", "", { sp with limit := limit, continueToken := token }, true⟩

/-- 呼び出し側の頁送り：上限 `limit` の recursive な `GetList` を、continue token が空になるまで
呼ぶ。`fuel` は呼ぶ回数の上限で、尽きれば `none`。集めた items と呼んだ回数を返す。 -/
def listPages (codec : ContinueCodec) (ms : MemoryStore) (key : String) (sp : SelectionPredicate)
    (limit : Nat) (rv0 : String) : Nat → String → Option (Except StoreError (List Obj × Nat))
  | 0, _ => none
  | fuel + 1, token =>
    match ms.getList codec key (pageOptions sp limit rv0 token) with
    | .error err => some (.error err)
    | .ok page =>
      if page.continueToken = "" then some (.ok (page.items, 1))
      else (listPages codec ms key sp limit rv0 fuel page.continueToken).map
        (Except.map fun r => (page.items ++ r.1, r.2 + 1))

/-- 頁の出発点：token が空なら `kvList` の頭から。空でなければ token は、`kvList` の位置 `b - 1` に
居る prefix の下の slot を、その revision とともに指す。 -/
def PageStart (codec : ContinueCodec) (ms : MemoryStore) (key token : String) (b : Nat) : Prop :=
  (token = "" ∧ b = 0) ∨ ∃ v : ObjWithIndex, token ≠ "" ∧ ms.kvList[v.index]? = some (some v) ∧
    hasPrefix v.key (listKeyPrefix key) ∧
    codec.decodeContinue token (listKeyPrefix key) = .ok (v.key, (v.obj.resourceVersion : Int)) ∧
    b = v.index + 1

section

variable {ms : MemoryStore} {keyPrefix : String} {pred : SelectionPredicate}

/-- 位置 `b` から先の空でない slot の revision がどれも `w` より大きければ、match が `""` の
走査は `withRV = w` でも `withRV = 0` でも同じ slot を集める。 -/
theorem listedFrom_withRV {w b : Nat}
    (hw : ∀ u, some u ∈ ms.kvList.drop b → w < u.obj.resourceVersion) :
    ms.listedFrom keyPrefix "" w pred b = ms.listedFrom keyPrefix "" 0 pred b :=
  selectSlots_congr fun u hu => by
    have := hw u hu
    simp [listed, matchRule, resourceVersionMatchNotOlderThan, this, Nat.zero_lt_of_lt this]

/-- token の slot `v` の位置から `withRV = v` の revision で走ると、集めるのは `v` より後ろの
slot である。 -/
theorem Inv.listedFrom_resume (h : Inv ms) {v : ObjWithIndex}
    (hv : ms.kvList[v.index]? = some (some v)) :
    ms.listedFrom keyPrefix "" v.obj.resourceVersion pred v.index =
      ms.listedFrom keyPrefix "" 0 pred (v.index + 1) := by
  rw [← listedFrom_withRV fun u hu => h.rv_lt_of_mem_drop hv hu]
  have hd : ms.kvList.drop v.index = some v :: ms.kvList.drop (v.index + 1) := by
    rw [List.drop_eq_getElem_cons (List.getElem?_eq_some_iff.mp hv).1]
    simp [(List.getElem?_eq_some_iff.mp hv).2]
  simp [listedFrom, hd, selectSlots, listed, matchRule, resourceVersionMatchNotOlderThan]

/-- 届く状態で、match が `""`・`withRV = 0` の走査が `kvList` の頭から集める slot の key と object の
組は、prefix の下の live な key とその object のうち、選択子に合うものである。 -/
theorem Inv.mem_listedFrom_zero (h : Inv ms) (k : String) (o : Obj) :
    (k, o) ∈ (ms.listedFrom keyPrefix "" 0 pred 0).map (fun v => (v.key, v.obj)) ↔
      hasPrefix k keyPrefix = true ∧ ms.live k = some o ∧ pred.matchesObj o = true := by
  simp only [List.mem_map, listedFrom, List.drop_zero, mem_selectSlots, listed, matchRule,
    resourceVersionMatchNotOlderThan, Bool.and_eq_true, decide_eq_true_eq, Prod.mk.injEq]
  constructor
  · rintro ⟨u, ⟨hu, ⟨hp, -⟩, hq⟩, rfl, rfl⟩
    obtain ⟨i, hi⟩ := List.mem_iff_getElem?.mp hu
    exact ⟨hp, by simp [live, h.slotKvs i u hi], hq⟩
  · rintro ⟨hp, hk, hq⟩
    obtain ⟨s, hs, rfl⟩ := Option.map_eq_some'.mp hk
    obtain ⟨hks, hslot⟩ := h.kvsSlot _ s hs
    obtain rfl := splitKey_injective hks
    exact ⟨s, ⟨List.getElem?_mem hslot, ⟨hp, by simpa [Nat.pos_iff_ne_zero] using h.rv_pos hs⟩, hq⟩,
      rfl, rfl⟩

/-- 同じことを object だけで：集める object は、prefix の下の live な object のうち選択子に
合うもの。 -/
theorem Inv.mem_listedFrom_zero_obj (h : Inv ms) (o : Obj) :
    o ∈ (ms.listedFrom keyPrefix "" 0 pred 0).map (·.obj) ↔
      ∃ k, hasPrefix k keyPrefix = true ∧ ms.live k = some o ∧ pred.matchesObj o = true := by
  simp only [← h.mem_listedFrom_zero, List.mem_map, Prod.mk.injEq]
  exact ⟨fun ⟨v, hv, he⟩ => ⟨v.key, v, hv, rfl, he⟩, fun ⟨_, v, hv, _, he⟩ => ⟨v, hv, he⟩⟩

end

section

variable {codec : ContinueCodec} {ms : MemoryStore} {key : String} (sp : SelectionPredicate)
  {limit : Nat} {rv0 : String}

/-- 走る位置 `a` と `withRV = w` で集める slot が、位置 `b` から先を `withRV = 0` で集める列 `E` と
同じなら、上限 `limit` の頁は `E` の最初の `limit` 個で、token が空なら `E` はそれで全部、空でなければ
token は次の出発点を指し、そこから集める列は `E` の残りである。 -/
theorem listFrom_page (hc : codec.Inverts) (h : Inv ms) (hL : 0 < limit) {w a b r : Nat}
    {tok : String} (hE : ms.listedFrom (listKeyPrefix key) "" w sp a =
      ms.listedFrom (listKeyPrefix key) "" 0 sp b) :
    let E := ms.listedFrom (listKeyPrefix key) "" 0 sp b
    ∃ page, ms.listFrom codec (listKeyPrefix key) ""
        { sp with limit := limit, continueToken := tok } r w a = .ok page ∧
      page.items = (E.take limit).map (·.obj) ∧
      (page.continueToken = "" → E.length ≤ limit) ∧
      (page.continueToken ≠ "" → limit ≤ E.length ∧ ∃ b', PageStart codec ms key page.continueToken b' ∧
        ms.listedFrom (listKeyPrefix key) "" 0 sp b' = E.drop limit) := by
  intro E
  obtain ⟨page, hres, -, hitems, hnil, hmore⟩ :=
    listFrom_limited (listKeyPrefix key) { sp with limit := limit, continueToken := tok } r w a hc
      (Or.inr (Or.inr rfl)) h.indexed (by simpa using hL)
  have hE' :
      ms.listedFrom (listKeyPrefix key) "" w { sp with limit := limit, continueToken := tok } a =
    E := hE
  simp only [hE', Int.toNat_ofNat] at hitems hnil hmore
  refine ⟨page, hres, hitems, hnil, fun ht => ?_⟩
  obtain ⟨hle, v, hslot, hlv, hdec, hpost⟩ := hmore ht
  simp only [listed, matchRule, resourceVersionMatchNotOlderThan, Bool.and_eq_true,
    decide_eq_true_eq] at hlv
  refine ⟨hle, v.index + 1, .inr ⟨v, ht, hslot, hlv.1.1, hdec, rfl⟩, ?_⟩
  calc ms.listedFrom (listKeyPrefix key) "" 0 sp (v.index + 1)
      = ms.listedFrom (listKeyPrefix key) "" w sp (v.index + 1) :=
        (listedFrom_withRV fun u hu =>
          lt_trans (by simpa using hlv.1.2) (h.rv_lt_of_mem_drop hslot hu)).symm
    _ = E.drop limit := hpost

/-- 頁一つ：まだ返していない slot の列 `E` の最初の `limit` 個を返す。token が空なら `E` は
それで全部であり、空でなければ token は次の頁の出発点で、そこからまだ返していない列は `E` の
残りである。 -/
theorem page_step (hc : codec.Inverts) (h : Inv ms) (hL : 0 < limit) (hrv0 : rv0 = "" ∨ rv0 = "0")
    {token : String} {b : Nat} (hs : PageStart codec ms key token b) :
    let E := ms.listedFrom (listKeyPrefix key) "" 0 sp b
    ∃ page, ms.getList codec key (pageOptions sp limit rv0 token) = .ok page ∧
      page.items = (E.take limit).map (·.obj) ∧
      (page.continueToken = "" → E.length ≤ limit) ∧
      (page.continueToken ≠ "" → limit ≤ E.length ∧ ∃ b', PageStart codec ms key page.continueToken b' ∧
        ms.listedFrom (listKeyPrefix key) "" 0 sp b' = E.drop limit) := by
  rcases hs with ⟨rfl, rfl⟩ | ⟨v, hne, hslot, -, hdec, rfl⟩
  · rw [pageOptions, if_pos rfl, getList_first codec ms key _ rfl hrv0 rfl]
    exact listFrom_page sp hc h hL rfl
  · have hv := h.slotKvs _ _ hslot
    rw [pageOptions, if_neg hne, getList_continue codec ms key _ rfl rfl hne hdec hv (h.rv_pos hv)]
    exact listFrom_page sp hc h hL (h.listedFrom_resume hslot)

/-- 出発点 `b` から頁送りを続けると、まだ返していない列 `E` をそのまま集める。呼ぶ回数は
`⌈|E| / limit⌉ + 1` 以下で、fuel がそれ以上なら結果は同じである。 -/
theorem listPages_from (hc : codec.Inverts) (h : Inv ms) (hL : 0 < limit)
    (hrv0 : rv0 = "" ∨ rv0 = "0") : ∀ (n : Nat) (token : String) (b : Nat),
    (ms.listedFrom (listKeyPrefix key) "" 0 sp b).length < n → PageStart codec ms key token b →
    ∃ calls,
      calls ≤ ((ms.listedFrom (listKeyPrefix key) "" 0 sp b).length + limit - 1) / limit + 1 ∧
      ∀ fuel, calls ≤ fuel → listPages codec ms key sp limit rv0 fuel token =
        some (.ok ((ms.listedFrom (listKeyPrefix key) "" 0 sp b).map (·.obj), calls))
  | 0, _, _, hn, _ => absurd hn (Nat.not_lt_zero _)
  | n + 1, token, b, hn, hs => by
    obtain ⟨page, hget, hitems, hnil, hmore⟩ := page_step sp hc h hL hrv0 hs
    by_cases ht : page.continueToken = ""
    · refine ⟨1, Nat.le_add_left 1 _, fun fuel hf => ?_⟩
      obtain ⟨f, rfl⟩ : ∃ f, fuel = f + 1 := ⟨fuel - 1, by omega⟩
      simp [listPages, hget, ht, hitems, List.take_of_length_le (hnil ht)]
    · obtain ⟨hle, b', hs', hE'⟩ := hmore ht
      obtain ⟨calls, hcalls, hrun⟩ := listPages_from hc h hL hrv0 n page.continueToken b'
        (by rw [hE', List.length_drop]; omega) hs'
      refine ⟨calls + 1, ?_, fun fuel hf => ?_⟩
      · rw [hE', List.length_drop] at hcalls
        have hdiv := Nat.add_div_right
          ((ms.listedFrom (listKeyPrefix key) "" 0 sp b).length - limit + limit - 1) hL
        rw [show (ms.listedFrom (listKeyPrefix key) "" 0 sp b).length - limit + limit - 1 + limit =
          (ms.listedFrom (listKeyPrefix key) "" 0 sp b).length + limit - 1 by omega] at hdiv
        omega
      · obtain ⟨f, rfl⟩ : ∃ f, fuel = f + 1 := ⟨fuel - 1, by omega⟩
        simp [listPages, hget, ht, hrun f (by omega), hitems, hE', Except.map, ← List.map_append]

end

/-- **変わらない store の頁送りは正確で、終わる。** codec が逆になっていれば、届くどの状態でも、
上限 `limit ≥ 1` の頁送りは `⌈n / limit⌉ + 1` 回以内の呼び出しで終わり（fuel がそれ以上なら
結果は変わらない）、集めた items は prefix の下の、選択子に合う live な object をちょうど一度ずつ、
revision の真に増える順に持つ。`n` は items の数、すなわちそのような object の数である。 -/
theorem listPages_exact {codec : ContinueCodec} (hc : codec.Inverts) {ms : MemoryStore}
    (hr : Reachable ms) (key : String) (sp : SelectionPredicate) {limit : Nat} (hL : 0 < limit)
    {rv0 : String} (hrv0 : rv0 = "" ∨ rv0 = "0") :
    ∃ items calls, calls ≤ (items.length + limit - 1) / limit + 1 ∧
      (∀ fuel, calls ≤ fuel →
        listPages codec ms key sp limit rv0 fuel "" = some (.ok (items, calls))) ∧
      items.Pairwise (fun o o' => o.resourceVersion < o'.resourceVersion) ∧
      ∀ o, o ∈ items ↔ ∃ k, hasPrefix k (listKeyPrefix key) = true ∧ ms.live k = some o ∧
        sp.matchesObj o = true := by
  have h := reachable_inv hr
  obtain ⟨calls, hcalls, hrun⟩ :=
    listPages_from sp hc h hL hrv0 _ "" 0 (Nat.lt_succ_self _) (.inl ⟨rfl, rfl⟩)
  refine ⟨_, calls, by simpa using hcalls, hrun, ?_, h.mem_listedFrom_zero_obj⟩
  exact List.pairwise_map.mpr (selectSlots_pairwise (h.pairwise.sublist (List.drop_sublist _ _)))

/-- 三つの object を作った store を、一頁 2 件で頁送りする。 -/
theorem listPages_exact_three :
    digitCodec.Inverts ∧
      Reachable ((newMemoryStore 0).run
        [.create "/g/ns/a" Obj.zero, .create "/g/ns/b" Obj.zero, .create "/g/x" Obj.zero]) ∧
      0 < 2 ∧ ("" = "" ∨ "" = "0") ∧
      ∃ items calls, calls ≤ (items.length + 2 - 1) / 2 + 1 ∧
        (∀ fuel, calls ≤ fuel → listPages digitCodec ((newMemoryStore 0).run
          [.create "/g/ns/a" Obj.zero, .create "/g/ns/b" Obj.zero, .create "/g/x" Obj.zero])
            "/g/ns" everything 2 "" fuel "" = some (.ok (items, calls))) ∧
        items.Pairwise (fun o o' => o.resourceVersion < o'.resourceVersion) ∧
        ∀ o, o ∈ items ↔ ∃ k, hasPrefix k (listKeyPrefix "/g/ns") = true ∧
          ((newMemoryStore 0).run
            [.create "/g/ns/a" Obj.zero, .create "/g/ns/b" Obj.zero, .create "/g/x" Obj.zero]).live k =
            some o ∧ everything.matchesObj o = true :=
  ⟨digitCodec_inverts, run_reachable (.init 0) _, by decide, .inl rfl,
    listPages_exact digitCodec_inverts (run_reachable (.init 0) _) "/g/ns" everything (by decide)
      (.inl rfl)⟩

end MemoryStore

end FornaxStore
