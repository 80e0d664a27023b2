import FornaxStore.Properties.Scan
import FornaxStore.Properties.Invariant

/-!
# GetList の頁

届く状態では、空でない slot はどれも自分の位置を持ち、revision は位置の順に増える。
そのため `GetList` の一頁は、出発点から先で集める slot の最初の `L` 個になり、continue token は
`L` 個目の slot を指す。
-/

namespace FornaxStore

/-- `DecodeContinue` が `EncodeContinue` の逆：prefix の下の key なら token が作れ、token は
空でなく、同じ prefix で読むと key と revision が戻る。 -/
def ContinueCodec.Inverts (codec : ContinueCodec) : Prop :=
  ∀ key keyPrefix rev, hasPrefix key keyPrefix = true → ∃ token,
    codec.encodeContinue key keyPrefix rev = .ok token ∧ token ≠ "" ∧
      codec.decodeContinue token keyPrefix = .ok (key, (rev : Int))

/-! ## 逆になる codec の一例 -/

/-- `n` の十進の桁を下の桁から。`fuel` は桁の数の上限。 -/
def revDigits : Nat → Nat → List Char
  | 0, _ => []
  | fuel + 1, n => if n = 0 then [] else Nat.digitChar (n % 10) :: revDigits fuel (n / 10)

/-- 下の桁から並べた十進の桁を読む。 -/
def readRevDigits (cs : List Char) : Nat := cs.foldr (fun c n => (c.toNat - 48) + 10 * n) 0

/-- 最初の `/` の前と後。 -/
def splitAtSlash : List Char → List Char × List Char
  | [] => ([], [])
  | c :: cs => if c = '/' then ([], cs) else (c :: (splitAtSlash cs).1, (splitAtSlash cs).2)

/-- continue token の codec の一例：revision の十進の桁を下の桁から、`/`、key の順に並べる。 -/
def digitCodec : ContinueCodec where
  encodeContinue key _ rev := .ok (String.mk (revDigits rev rev ++ '/' :: key.data))
  decodeContinue token _ :=
    .ok (String.mk (splitAtSlash token.data).2, (readRevDigits (splitAtSlash token.data).1 : Int))

theorem digitChar_spec : ∀ d, d < 10 → (Nat.digitChar d).toNat = 48 + d ∧ Nat.digitChar d ≠ '/'
  | 0, _ | 1, _ | 2, _ | 3, _ | 4, _ | 5, _ | 6, _ | 7, _ | 8, _ | 9, _ => by decide
  | _ + 10, h => absurd h (by omega)

theorem revDigits_spec : ∀ fuel n, n ≤ fuel →
    readRevDigits (revDigits fuel n) = n ∧ '/' ∉ revDigits fuel n
  | 0, n, h => by simp [revDigits, readRevDigits]; omega
  | fuel + 1, n, h => by
    by_cases hn : n = 0
    · simp [revDigits, readRevDigits, hn]
    · obtain ⟨ih, hih⟩ := revDigits_spec fuel (n / 10) (by omega)
      obtain ⟨hd, hds⟩ := digitChar_spec (n % 10) (Nat.mod_lt _ (by omega))
      simp only [revDigits, hn, if_false, List.mem_cons, not_or]
      refine ⟨?_, Ne.symm hds, hih⟩
      simp only [readRevDigits, List.foldr_cons] at ih ⊢
      rw [ih, hd]; omega

theorem splitAtSlash_append {ds : List Char} (k : List Char) (h : '/' ∉ ds) :
    splitAtSlash (ds ++ '/' :: k) = (ds, k) := by
  induction ds with
  | nil => simp [splitAtSlash]
  | cons c ds ih =>
    simp only [List.mem_cons, not_or] at h
    simp [splitAtSlash, Ne.symm h.1, ih h.2]

theorem digitCodec_inverts : digitCodec.Inverts := by
  intro key _ rev _
  obtain ⟨hread, hslash⟩ := revDigits_spec rev rev le_rfl
  refine ⟨_, rfl, fun h => by simpa using congrArg String.data h, ?_⟩
  simp [digitCodec, splitAtSlash_append _ hslash, hread]

/-! ## 集める slot と `kvList` -/

section

variable {keep keep' : ObjWithIndex → Bool}

theorem selectSlots_congr {slots : List (Option ObjWithIndex)}
    (h : ∀ u, some u ∈ slots → keep u = keep' u) :
    selectSlots keep slots = selectSlots keep' slots := by
  induction slots with
  | nil => rfl
  | cons s rest ih =>
    have ih' := ih fun u hu => h u (List.mem_cons_of_mem _ hu)
    cases s with
    | none => exact ih'
    | some v => simp [selectSlots, h v (List.mem_cons_self _ _), ih']

theorem selectSlots_pairwise {R : ObjWithIndex → ObjWithIndex → Prop}
    {slots : List (Option ObjWithIndex)}
    (h : slots.Pairwise fun a b => ∀ x y, a = some x → b = some y → R x y) :
    (selectSlots keep slots).Pairwise R := by
  induction slots with
  | nil => exact List.Pairwise.nil
  | cons s rest ih =>
    obtain ⟨hs, hrest⟩ := List.pairwise_cons.mp h
    cases s with
    | none => exact ih hrest
    | some v =>
      by_cases hv : keep v
      · simp only [selectSlots, hv, if_true]
        exact .cons (fun y hy => hs _ (mem_selectSlots.mp hy).1 v y rfl rfl) (ih hrest)
      · simpa [selectSlots, hv] using ih hrest

/-- `l` の `a` から先で集める slot の `k` 番目 `v` は `l` の `v.index` に居て、その後ろで集める
slot は `k` 番目より後のものである。 -/
theorem selectSlots_drop_getElem? {l : List (Option ObjWithIndex)} {a k : Nat} {v : ObjWithIndex}
    (hidx : Indexed l 0) (hk : (selectSlots keep (l.drop a))[k]? = some v) :
    l[v.index]? = some (some v) ∧
      selectSlots keep (l.drop (v.index + 1)) = (selectSlots keep (l.drop a)).drop (k + 1) := by
  obtain ⟨pre, post, hsplit, hpost⟩ := selectSlots_getElem?_eq_some hk
  have hl : l[a + pre.length]? = some (some v) := by
    rw [← List.getElem?_drop, hsplit, List.getElem?_append_right (le_refl _)]; simp
  have hi : v.index = a + pre.length := by rw [hidx _ _ hl]; omega
  refine ⟨hi ▸ hl, ?_⟩
  rw [← hpost, hi, show a + pre.length + 1 = a + (pre.length + 1) by omega, ← List.drop_drop,
    hsplit]
  simp

end

/-! ## 届く状態の `kvList` -/

namespace MemoryStore

section

variable {ms : MemoryStore}

theorem Inv.indexed (h : Inv ms) : Indexed ms.kvList 0 := fun t v hv => by
  rw [h.slotIndex t v hv]; omega

theorem Inv.pairwise (h : Inv ms) : ms.kvList.Pairwise fun a b => ∀ x y, a = some x → b = some y →
    x.obj.resourceVersion < y.obj.resourceVersion :=
  List.pairwise_iff_getElem.mpr fun i j hi hj hij x y hx hy =>
    h.rv_lt hij (by rw [List.getElem?_eq_getElem hi, hx]) (by rw [List.getElem?_eq_getElem hj, hy])

/-- slot `j` より後ろの空でない slot の revision は、slot `j` の revision より大きい。 -/
theorem Inv.rv_lt_of_mem_drop (h : Inv ms) {j : Nat} {v u : ObjWithIndex}
    (hv : ms.kvList[j]? = some (some v)) (hu : some u ∈ ms.kvList.drop (j + 1)) :
    v.obj.resourceVersion < u.obj.resourceVersion := by
  obtain ⟨t, ht⟩ := List.mem_iff_getElem?.mp hu
  rw [List.getElem?_drop] at ht
  exact h.rv_lt (by omega) hv ht

end

/-! ## GetList の出発点 -/

section

variable (codec : ContinueCodec) (ms : MemoryStore) (key : String) (opts : ListOptions)

/-- continue token も正の resource version も無い recursive な `GetList` は、位置 0 から
`withRV = 0` で走り、list の revision は 1 になる。 -/
theorem getList_first (hrec : opts.recursive = true)
    (hrv : opts.resourceVersion = "" ∨ opts.resourceVersion = "0")
    (hc : opts.predicate.continueToken = "") :
    ms.getList codec key opts =
      ms.listFrom codec (listKeyPrefix key) opts.resourceVersionMatch opts.predicate 1 0 0 := by
  rcases hrv with h | h <;>
    simp [getList, hrec, h, hc, parseFromRV, parseResourceVersion, listStart]

/-- continue token が今も同じ revision で居る slot `v` を指すなら、`GetList` は `v` の位置から
`withRV = v` の revision で走り、list の revision もそれになる。 -/
theorem getList_continue (hrec : opts.recursive = true) (hrv : opts.resourceVersion = "")
    (hc : opts.predicate.continueToken ≠ "") {v : ObjWithIndex}
    (hdec : codec.decodeContinue opts.predicate.continueToken (listKeyPrefix key) =
      .ok (v.key, (v.obj.resourceVersion : Int)))
    (hv : ms.kvs.get (splitKey v.key) = some v) (hpos : v.obj.resourceVersion ≠ 0) :
    ms.getList codec key opts =
      ms.listFrom codec (listKeyPrefix key) opts.resourceVersionMatch opts.predicate
        v.obj.resourceVersion v.obj.resourceVersion v.index := by
  simp [getList, hrec, hrv, hc, hdec, hv, hpos, parseFromRV, listStart, Nat.pos_of_ne_zero hpos]

/-- continue token が無く正の resource version `R` があれば、`GetList` は
`binarySearchInObjList R` の位置から `withRV = R` で走り、list の revision は `R` になる。 -/
theorem getList_fromRV (hrec : opts.recursive = true) (hc : opts.predicate.continueToken = "")
    {R : Nat} (hR : parseFromRV opts.resourceVersion = .ok (some R)) (hpos : 0 < R) :
    ms.getList codec key opts =
      ms.listFrom codec (listKeyPrefix key) opts.resourceVersionMatch opts.predicate R R
        (ms.binarySearchInObjList R) := by
  simp [getList, hrec, hc, hR, hpos, listStart]

end

/-- `Create /g/ns/a`・`Create /g/ns/b`・`Delete /g/ns/b` の後、`kvList` は `[a, 空]` である。
`binarySearchInObjList 1` の最初の probe は空の slot に当たって右へ進み、2 を返すので、
resource version `"1"` の `GetList` は revision が 1 より大きい live な `/g/ns/a` を返さない。
`_MemoryRev` の初期値は `2 << 61` に起動時の `UnixMicro` を足したもので、ここではその一例を使う。 -/
theorem getList_skips_live_object :
    ∃ ms, ms = (newMemoryStore (2 ^ 62 + 1700000000000000)).run
        [.create "/g/ns/a" Obj.zero, .create "/g/ns/b" Obj.zero, .delete "/g/ns/b" none none] ∧
      ms.live "/g/ns/a" = some (Obj.zero.setResourceVersion (2 ^ 62 + 1700000000000001)) ∧
      ms.binarySearchInObjList 1 = 2 ∧
      ms.getList digitCodec "/g/ns" ⟨"1", "", everything, true⟩ = .ok ⟨[], 1, "", none⟩ :=
  ⟨_, rfl, by decide⟩


section

variable (codec : ContinueCodec) (ms : MemoryStore) (key : String) (opts : ListOptions)

/-- continue token の key が別の revision で居れば、`GetList` は `binarySearchInObjList` の位置から
走る。 -/
theorem getList_continue_moved (hrec : opts.recursive = true) (hrv : opts.resourceVersion = "")
    (hc : opts.predicate.continueToken ≠ "") {k : String} {r : Nat}
    (hdec : codec.decodeContinue opts.predicate.continueToken (listKeyPrefix key) =
      .ok (k, (r : Int)))
    (hr : r ≠ 0) {cur : ObjWithIndex} (hk : ms.kvs.get (splitKey k) = some cur)
    (hne : cur.obj.resourceVersion ≠ r) :
    ms.getList codec key opts =
      ms.listFrom codec (listKeyPrefix key) opts.resourceVersionMatch opts.predicate r r
        (ms.binarySearchInObjList r) := by
  simp [getList, hrec, hrv, hc, hdec, hk, hr, hne, parseFromRV, listStart, Nat.pos_of_ne_zero hr]

end

/-- 一頁 2 件で `/g/ns/a`・`/g/ns/k`・`/g/ns/b`・`/g/ns/c` を順に作った store を頁送りする。
一頁目は `[a, k]` と `k` を指す token を返す。頁の間に `c`、次に `k` を書き換えると、`kvList` は
`[a, 空, b, 空, c', k']` になり、token の `k` は revision が変わっているので二頁目は
`binarySearchInObjList` の位置から走る。その最初の probe は空の slot に当たって右へ進み、位置 4 を
返すので、二頁目は `[c', k']` と空の token を返す。書き換えられていない `b` はどの頁にも出ない。 -/
theorem pages_skip_unchanged_object :
    ∃ ms₁ ms₂ token, ms₁ = (newMemoryStore (2 ^ 62 + 1700000000000000)).run
        [.create "/g/ns/a" Obj.zero, .create "/g/ns/k" Obj.zero, .create "/g/ns/b" Obj.zero,
          .create "/g/ns/c" Obj.zero] ∧
      ms₂ = ms₁.run [.guaranteedUpdate "/g/ns/c" false none (fun o => .ok ⟨o, none⟩),
        .guaranteedUpdate "/g/ns/k" false none (fun o => .ok ⟨o, none⟩)] ∧
      ms₁.getList digitCodec "/g/ns" ⟨"", "", { everything with limit := 2 }, true⟩ =
        .ok ⟨[Obj.zero.setResourceVersion (2 ^ 62 + 1700000000000001),
          Obj.zero.setResourceVersion (2 ^ 62 + 1700000000000002)], 1, token, some 2⟩ ∧
      ms₂.getList digitCodec "/g/ns"
          ⟨"", "", { everything with limit := 2, continueToken := token }, true⟩ =
        .ok ⟨[Obj.zero.setResourceVersion (2 ^ 62 + 1700000000000005),
          Obj.zero.setResourceVersion (2 ^ 62 + 1700000000000006)], 2 ^ 62 + 1700000000000002, "",
          none⟩ ∧
      ms₁.live "/g/ns/b" = some (Obj.zero.setResourceVersion (2 ^ 62 + 1700000000000003)) ∧
      ms₂.live "/g/ns/b" = some (Obj.zero.setResourceVersion (2 ^ 62 + 1700000000000003)) ∧
      token ≠ "" :=
  ⟨_, _, String.mk (revDigits (2 ^ 62 + 1700000000000002) (2 ^ 62 + 1700000000000002) ++
    '/' :: "/g/ns/k".data), rfl, rfl, by decide⟩

/-! ## 出発点から先の一頁 -/

/-- `kvList` の位置 `a` から先で、`GetList` の走査が集める slot。 -/
def listedFrom (ms : MemoryStore) (keyPrefix rvMatch : String) (withRV : Nat)
    (pred : SelectionPredicate) (a : Nat) : List ObjWithIndex :=
  selectSlots (listed keyPrefix rvMatch withRV pred) (ms.kvList.drop a)

section

variable {codec : ContinueCodec} {ms : MemoryStore} (keyPrefix : String) {rvMatch : String}
  (pred : SelectionPredicate) (returnedRV withRV a : Nat)

/-- 上限が無ければ、出発点から先で集める slot を全部返し、continue token は空である。 -/
theorem listFrom_unlimited (hm : KnownMatch rvMatch) (hL : pred.limit ≤ 0) :
    ms.listFrom codec keyPrefix rvMatch pred returnedRV withRV a =
      .ok ⟨(ms.listedFrom keyPrefix rvMatch withRV pred a).map (·.obj), returnedRV, "", none⟩ := by
  unfold listFrom
  split
  · next ha => simp [listedFrom, List.drop_eq_nil_of_le ha, selectSlots]
  · obtain ⟨st', h, hi, hm'⟩ := scanList_none keyPrefix withRV pred hm ms.kvList.length
      (ms.kvList.drop a) a ⟨[], "", withRV, false, 0⟩
    simp only [show ¬0 < pred.limit by omega, if_false, h]
    simp [hi, hm', listedFrom]

/-- 上限 `L` の一頁の終わり。token が空なら、出発点から先で集める slot は全部返している。
空でなければ `L` 個目の slot `v` で止まっていて、token は `v` の key と revision を運び、
`remainingItemCount` は（選択子が空なら）`kvList` の `v` より後ろの slot の数である。空の slot と
prefix の違う slot も数える。 -/
theorem listFrom_ends (hc : codec.Inverts) (hm : KnownMatch rvMatch) (hidx : Indexed ms.kvList 0)
    (hL : 0 < pred.limit) :
    let sel := ms.listedFrom keyPrefix rvMatch withRV pred a
    ∃ res, ms.listFrom codec keyPrefix rvMatch pred returnedRV withRV a = .ok res ∧
      res.resourceVersion = returnedRV ∧ res.items = (sel.take pred.limit.toNat).map (·.obj) ∧
      (res.continueToken = "" → sel.length ≤ pred.limit.toNat) ∧
      (res.continueToken ≠ "" → ∃ v, sel[pred.limit.toNat - 1]? = some v ∧
        codec.decodeContinue res.continueToken keyPrefix =
          .ok (v.key, (v.obj.resourceVersion : Int)) ∧
        res.remainingItemCount =
          if pred.empty then some (ms.kvList.length - 1 - v.index) else none) := by
  intro sel
  unfold listFrom
  split
  · next ha =>
    have hsel : sel = [] := by simp [sel, listedFrom, List.drop_eq_nil_of_le ha, selectSlots]
    exact ⟨_, rfl, rfl, by simp [hsel], by simp [hsel], by simp⟩
  · next ha =>
    obtain ⟨k, hk⟩ : ∃ k, pred.limit.toNat = k + 1 := ⟨pred.limit.toNat - 1, by omega⟩
    obtain ⟨st', h, hi, hs⟩ := scanList_some keyPrefix withRV pred hm pred.limit.toNat
      ms.kvList.length (ms.kvList.drop a) a ⟨[], "", withRV, false, 0⟩
      (fun t v hv => by rw [List.getElem?_drop] at hv; rw [hidx _ _ hv]; omega) (by simp; omega) rfl
    rw [show selectSlots (listed keyPrefix rvMatch withRV pred) (ms.kvList.drop a) =
      ms.listedFrom keyPrefix rvMatch withRV pred a from rfl] at hi hs
    simp only [hL, if_true, h]
    simp only [List.length_nil, Nat.sub_zero, List.nil_append] at hi hs
    rw [hk, Nat.add_sub_cancel] at hs
    cases hv : sel[k]? with
    | none =>
      rw [hv, StopsAt] at hs
      have hlen : sel.length ≤ k := List.getElem?_eq_none_iff.mp hv
      simp [hs, hi, hk]; omega
    | some v =>
      have hlv : listed keyPrefix rvMatch withRV pred v :=
        (mem_selectSlots.mp (List.getElem?_mem hv)).2
      rw [hv, StopsAt] at hs
      split at hs
      · next hlast =>
        obtain ⟨hmore, hkey, hrev, hrem⟩ := hs
        have hp : hasPrefix v.key keyPrefix = true := by
          simp only [listed, Bool.and_eq_true] at hlv; exact hlv.1.1
        obtain ⟨token, henc, hne, hdec⟩ := hc v.key keyPrefix v.obj.resourceVersion hp
        simp only [hmore, if_true, hkey, hrev, henc]
        exact ⟨_, rfl, rfl, by simp [hi, hk], fun h => absurd h hne,
          fun _ => ⟨v, by simpa [hk] using hv, hdec, by rw [hrem]⟩⟩
      · next hlast =>
        have hnil : ms.kvList.drop (v.index + 1) = [] := List.drop_eq_nil_of_le (by omega)
        have hpost := (selectSlots_drop_getElem? hidx hv).2
        rw [hnil] at hpost
        have hlen : sel.length ≤ k + 1 :=
          List.drop_eq_nil_iff.mp (by simpa [selectSlots] using hpost.symm)
        simp [hs, hi, hk]; omega

/-- 上限 `L` の一頁：出発点から先で集める slot の最初の `L` 個を返す。token が空なら
それで全部であり、空でなければ token は `L` 個目の slot `v` の key と revision を運び、
`v` より後ろで集める slot は残りの slot である。 -/
theorem listFrom_limited (hc : codec.Inverts) (hm : KnownMatch rvMatch) (hidx : Indexed ms.kvList 0)
    (hL : 0 < pred.limit) :
    let sel := ms.listedFrom keyPrefix rvMatch withRV pred a
    ∃ res, ms.listFrom codec keyPrefix rvMatch pred returnedRV withRV a = .ok res ∧
      res.resourceVersion = returnedRV ∧ res.items = (sel.take pred.limit.toNat).map (·.obj) ∧
      (res.continueToken = "" → sel.length ≤ pred.limit.toNat) ∧
      (res.continueToken ≠ "" → pred.limit.toNat ≤ sel.length ∧ ∃ v,
        ms.kvList[v.index]? = some (some v) ∧ listed keyPrefix rvMatch withRV pred v ∧
        codec.decodeContinue res.continueToken keyPrefix =
          .ok (v.key, (v.obj.resourceVersion : Int)) ∧
        selectSlots (listed keyPrefix rvMatch withRV pred) (ms.kvList.drop (v.index + 1)) =
          sel.drop pred.limit.toNat) := by
  obtain ⟨res, h, hrv, hitems, hnil, hmore⟩ :=
    listFrom_ends keyPrefix pred returnedRV withRV a hc hm hidx hL
  refine ⟨res, h, hrv, hitems, hnil, fun hne => ?_⟩
  obtain ⟨v, hv, hdec, -⟩ := hmore hne
  obtain ⟨hslot, hpost⟩ := selectSlots_drop_getElem? hidx hv
  have hlen := (List.getElem?_eq_some_iff.mp hv).1
  refine ⟨by omega, v, hslot, (mem_selectSlots.mp (List.getElem?_mem hv)).2, hdec, ?_⟩
  rw [hpost, Nat.sub_add_cancel (by omega)]
  rfl

/-- 知らない match の値で誤りにならなかった一頁は空で、continue token も空である。 -/
theorem listFrom_unknown (hm : ¬ KnownMatch rvMatch) (hL : 0 < pred.limit) {res : ListResult}
    (h : ms.listFrom codec keyPrefix rvMatch pred returnedRV withRV a = .ok res) :
    res.items = [] ∧ res.continueToken = "" := by
  unfold listFrom at h
  split at h
  · cases h; exact ⟨rfl, rfl⟩
  · simp only [hL, if_true] at h
    cases hs : scanList keyPrefix rvMatch withRV pred (some pred.limit.toNat) ms.kvList.length
        (ms.kvList.drop a) a ⟨[], "", withRV, false, 0⟩ with
    | error err => simp [hs] at h
    | ok st =>
      obtain ⟨hi, hmore⟩ := scanList_unknown keyPrefix withRV pred hm
        (by simp only [ne_eq, Option.some.injEq]; omega) _ _ a _ st rfl rfl hs
      simp only [hs, hmore, Bool.false_eq_true, if_false, Except.ok.injEq] at h
      subst h
      exact ⟨hi, rfl⟩

end

/-- continue token も正の resource version も上限も無い recursive な `GetList` は、`kvList` の
頭から集める slot を全部返し、list の revision は 1 である。 -/
theorem getList_first_unlimited (codec : ContinueCodec) (ms : MemoryStore) (key : String)
    {opts : ListOptions} (hm : KnownMatch opts.resourceVersionMatch) (hrec : opts.recursive = true)
    (hrv : opts.resourceVersion = "" ∨ opts.resourceVersion = "0")
    (hc : opts.predicate.continueToken = "") (hL : opts.predicate.limit ≤ 0) :
    ms.getList codec key opts =
      .ok ⟨(ms.listedFrom (listKeyPrefix key) opts.resourceVersionMatch 0 opts.predicate 0).map
        (·.obj), 1, "", none⟩ := by
  rw [getList_first codec ms key opts hrec hrv hc, listFrom_unlimited _ _ _ _ _ hm hL]

/-! ## 頁の終わりの continue token と remainingItemCount -/

/-- 頁 `res` の終わり。`last` は最後に返した object の slot（頁が空なら無い）。`last` より後ろに
prefix の下で match 規則と選択子に合う slot があれば continue token は空でなく、token が空でなく
選択子が空なら、`remainingItemCount` は `kvList` の `last` より後ろの slot の数である。 -/
structure PageEnds (ms : MemoryStore) (keyPrefix rvMatch : String) (withRV : Nat)
    (pred : SelectionPredicate) (res : ListResult) (last : Option ObjWithIndex) : Prop where
  last_obj : res.items.getLast? = last.map (·.obj)
  last_slot : ∀ v ∈ last, ms.kvList[v.index]? = some (some v)
  token_of_later : ∀ v ∈ last, ∀ s : ObjWithIndex, v.index < s.index →
    ms.kvList[s.index]? = some (some s) → hasPrefix s.key keyPrefix = true →
    listMatches rvMatch s.obj.resourceVersion withRV = .ok true → pred.matchesObj s.obj = true →
    res.continueToken ≠ ""
  remaining : res.continueToken ≠ "" → pred.empty = true →
    ∃ v ∈ last, res.remainingItemCount = some (ms.kvList.length - 1 - v.index)

section

variable {codec : ContinueCodec} {ms : MemoryStore} {key : String} {opts : ListOptions}

/-- 届く状態での recursive な `GetList` の一頁（上限 `L ≥ 1`）は `PageEnds` を満たす：最後に返した
object より後ろに、prefix の下で match 規則と選択子に合う slot があれば continue token は空でない。
token が空でなく選択子が空なら、`remainingItemCount` はその object より後ろの slot の数で、空の
slot と prefix の違う slot も数える。 -/
theorem getList_page_ends (hc : codec.Inverts) (hr : Reachable ms) (hrec : opts.recursive = true)
    (hL : 0 < opts.predicate.limit) {fromRV : Option Nat} {returnedRV withRV a : Nat}
    (hfrom : parseFromRV opts.resourceVersion = .ok fromRV)
    (hstart : ms.listStart codec (listKeyPrefix key) opts.resourceVersion fromRV opts.predicate =
      .ok (returnedRV, withRV, a))
    {res : ListResult} (hres : ms.getList codec key opts = .ok res) :
    ∃ last, PageEnds ms (listKeyPrefix key) opts.resourceVersionMatch withRV opts.predicate res
      last := by
  have h := reachable_inv hr
  rw [show ms.getList codec key opts = ms.listFrom codec (listKeyPrefix key)
      opts.resourceVersionMatch opts.predicate returnedRV withRV a by
    simp [getList, hrec, hfrom, hstart]] at hres
  by_cases hm : KnownMatch opts.resourceVersionMatch
  · obtain ⟨res', h', -, hitems, hnil, hmore⟩ :=
      listFrom_ends (listKeyPrefix key) opts.predicate returnedRV withRV a hc hm h.indexed hL
    obtain rfl : res' = res := Except.ok.inj (h'.symm.trans hres)
    simp only [listedFrom] at hitems hnil hmore
    set sel := selectSlots (listed (listKeyPrefix key) opts.resourceVersionMatch withRV
      opts.predicate) (ms.kvList.drop a)
    by_cases ht : res'.continueToken = ""
    · -- token が空：集める slot は全部返していて、最後の slot より後ろに集める slot は無い
      have hall : res'.items = sel.map (·.obj) := by rw [hitems, List.take_of_length_le (hnil ht)]
      refine ⟨sel.getLast?, by rw [hall, List.getLast?_map], fun v hv => ?_,
        fun v hv s hvs hs hp hmatch hpred => ?_, fun hne => absurd ht hne⟩
      · rw [Option.mem_def, List.getLast?_eq_getElem?] at hv
        exact (selectSlots_drop_getElem? h.indexed hv).1
      · rw [Option.mem_def, List.getLast?_eq_getElem?] at hv
        have hlen := (List.getElem?_eq_some_iff.mp hv).1
        have hafter := (selectSlots_drop_getElem? h.indexed hv).2
        rw [Nat.sub_add_cancel (show 1 ≤ sel.length by omega), List.drop_length] at hafter
        have hmem : s ∈ selectSlots (listed (listKeyPrefix key) opts.resourceVersionMatch withRV
            opts.predicate) (ms.kvList.drop (v.index + 1)) := by
          refine mem_selectSlots.mpr ⟨List.mem_iff_getElem?.mpr ⟨s.index - (v.index + 1), ?_⟩, ?_⟩
          · rw [List.getElem?_drop, Nat.add_sub_cancel' (by omega)]; exact hs
          · rw [listMatches, resourceVersionMatches_known hm, Except.ok.injEq] at hmatch
            simp [listed, hp, hmatch, hpred]
        rw [hafter] at hmem
        exact absurd hmem (List.not_mem_nil s)
    · -- token が空でない：`L` 個目の slot で止まっている
      obtain ⟨v, hv, -, hrem⟩ := hmore ht
      have hlen := (List.getElem?_eq_some_iff.mp hv).1
      refine ⟨some v, ?_, fun _ hw => Option.mem_some_iff.mp hw ▸
          (selectSlots_drop_getElem? h.indexed hv).1, fun _ _ _ _ _ _ _ _ => ht,
        fun _ hemp => ⟨v, rfl, by simp [hrem, hemp]⟩⟩
      rw [hitems, List.getLast?_map, List.getLast?_eq_getElem?, List.length_take,
        Nat.min_eq_left (by omega), List.getElem?_take_of_lt (by omega), hv]
  · obtain ⟨hitems, htoken⟩ := listFrom_unknown (listKeyPrefix key) opts.predicate returnedRV withRV
      a hm hL hres
    exact ⟨none, by simp [hitems], by simp, by simp, fun hne => absurd htoken hne⟩

end

/-- `/g/ns/a`・`/g/ns/b`・`/g/x/c` を作った store を、上限 1 で頁送りし始める。 -/
theorem getList_page_ends_three :
    ∃ ms res, ms = (newMemoryStore (2 ^ 62 + 1700000000000000)).run
        [.create "/g/ns/a" Obj.zero, .create "/g/ns/b" Obj.zero, .create "/g/x/c" Obj.zero] ∧
      Reachable ms ∧ (0 : Int) < 1 ∧ parseFromRV "" = .ok none ∧
      ms.listStart digitCodec (listKeyPrefix "/g/ns") "" none { everything with limit := 1 } =
        .ok (1, 0, 0) ∧
      ms.getList digitCodec "/g/ns" ⟨"", "", { everything with limit := 1 }, true⟩ = .ok res ∧
      ∃ last, PageEnds ms (listKeyPrefix "/g/ns") "" 0 { everything with limit := 1 } res last :=
  ⟨_, _, rfl, run_reachable (.init _) _, by decide, rfl, rfl, rfl,
    @getList_page_ends digitCodec _ "/g/ns" ⟨"", "", { everything with limit := 1 }, true⟩
      digitCodec_inverts (run_reachable (.init _) _) rfl (by decide) none 1 0 0 rfl rfl _ rfl⟩

/-- 上の store で、`/g/ns/a` の後ろに prefix の下で match 規則に合う object は `/g/ns/b` の一つだけで
ある。上限 1 の頁は `[a]` と空でない token を返すが、`remainingItemCount` は `a` より後ろの slot の
数 2 で、`/g/x/c` の slot も数える。選択子が `a` だけを選ぶ上限 2 の頁は `[a]` で止まらずに
走り終え、後ろの `b` が match 規則に合っても token は空である。 -/
theorem getList_remainingItemCount_counts_slots :
    ∃ ms token, ms = (newMemoryStore (2 ^ 62 + 1700000000000000)).run
        [.create "/g/ns/a" Obj.zero, .create "/g/ns/b" Obj.zero, .create "/g/x/c" Obj.zero] ∧
      ms.kvList[1]? =
        some (some ⟨"/g/ns/b", Obj.zero.setResourceVersion (2 ^ 62 + 1700000000000002), 1⟩) ∧
      ((ms.kvList.drop 1).filterMap id).countP (fun s => hasPrefix s.key (listKeyPrefix "/g/ns") &&
        decide (listMatches "" s.obj.resourceVersion 0 = .ok true)) = 1 ∧
      ms.getList digitCodec "/g/ns" ⟨"", "", { everything with limit := 1 }, true⟩ =
        .ok ⟨[Obj.zero.setResourceVersion (2 ^ 62 + 1700000000000001)], 1, token, some 2⟩ ∧
      token ≠ "" ∧
      ms.getList digitCodec "/g/ns" ⟨"", "",
          ⟨2, "", fun o => decide (o.resourceVersion = 2 ^ 62 + 1700000000000001), false⟩, true⟩ =
        .ok ⟨[Obj.zero.setResourceVersion (2 ^ 62 + 1700000000000001)], 1, "", none⟩ :=
  ⟨_, String.mk (revDigits (2 ^ 62 + 1700000000000001) (2 ^ 62 + 1700000000000001) ++
    '/' :: "/g/ns/a".data), rfl, by decide⟩

end MemoryStore

end FornaxStore
