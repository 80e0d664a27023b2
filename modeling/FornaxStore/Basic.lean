import Mathlib.Data.List.Basic
import Mathlib.Logic.Function.Basic
import Mathlib.Data.String.Basic

/-!
# store が扱う値

`pkg/store/inmemory/simple_memory_store.go` の `MemoryStore` が読み書きする値を並べる。

object（`runtime.Object`）は store の外で定義される。store が触るのは resource version、
UID、削除の印、finalizer だけなので、それらを field に持つ record にする。
resource version は境界では十進の文字列だが、store は `store.ObjectResourceVersion` で読み
`store.UpdateObjectResourceVersion` で書くだけなので、読んだ値（`Nat`）で持つ。

key は `strings.Split(key, "/")` で segment の列にしてから `memoryStoreMap` に渡る。
`memoryStoreMap` 自身は src/ にないので、spec の KeyTree の言葉どおり、segment 列から slot への
写像として置く。

* `splitKey_injective` — 異なる key は異なる segment 列になる
-/

namespace FornaxStore

/-! ## object と誤り -/

/-- `runtime.Object` のうち store が読む部分。`spec` はそれ以外の中身全部。 -/
structure Obj where
  resourceVersion : Nat
  uid : String
  deletionTimestamp : Option Nat
  finalizers : List String
  spec : String
  deriving DecidableEq, Repr

/-- `runtime.SetZeroValue(out)` が書く零の object。 -/
def Obj.zero : Obj := ⟨0, "", none, [], ""⟩

/-- `store.UpdateObjectResourceVersion(obj, rev)`。 -/
def Obj.setResourceVersion (o : Obj) (rev : Nat) : Obj := { o with resourceVersion := rev }

@[simp] theorem Obj.setResourceVersion_resourceVersion (o : Obj) (rev : Nat) :
    (o.setResourceVersion rev).resourceVersion = rev := rfl

/-- Modelled from the spec: `store.ShouldDeleteSpec`。削除の印があり、finalizer が空。 -/
def shouldDeleteSpec (o : Obj) : Bool := o.deletionTimestamp.isSome && o.finalizers.isEmpty

/-- store の呼び出しが返す誤り。 -/
inductive StoreError where
  /-- `apistorage.NewKeyExistsError(key, 0)` -/
  | keyExists (key : String)
  /-- `apistorage.NewKeyNotFoundError(key, 0)` -/
  | keyNotFound (key : String)
  /-- `memoryStoreMap.put` の revision が合わないとき（spec の conflict error） -/
  | conflict (keys : List String) (expectedRV : Nat)
  /-- `apistorage.NewInvalidObjError(key, msg)`：`Preconditions.Check` の失敗 -/
  | invalidObj (key msg : String)
  /-- `apistorage.NewInternalError(msg)` -/
  | internal (msg : String)
  /-- `apistorage.NewTooLargeResourceVersionError(minimumRV, actualRevision, 0)` -/
  | tooLargeResourceVersion (minimum actual : Nat)
  /-- `apierrors.NewBadRequest(msg)` -/
  | badRequest (msg : String)
  /-- `store.ParseResourceVersion` が読めなかった resource version -/
  | invalidResourceVersion (rv : String)
  /-- `fmt.Errorf(msg)`、および呼び出し側の関数（`tryUpdate` など）が返す誤り -/
  | other (msg : String)
  deriving DecidableEq, Repr

/-- `apistorage.Preconditions`。resource version は読んだ値で持つ。 -/
structure Preconditions where
  uid : Option String
  resourceVersion : Option Nat
  deriving DecidableEq, Repr

/-- `Preconditions.Check(key, obj)`：UID、次に resource version を比べる。 -/
def Preconditions.check (p : Preconditions) (key : String) (o : Obj) : Except StoreError Unit :=
  if p.uid.any (· != o.uid) then
    .error (.invalidObj key ("Precondition failed: UID in precondition: " ++ p.uid.getD "" ++
      ", UID in object meta: " ++ o.uid))
  else if p.resourceVersion.any (· != o.resourceVersion) then
    .error (.invalidObj key ("Precondition failed: ResourceVersion in precondition: " ++
      toString (p.resourceVersion.getD 0) ++ ", ResourceVersion in object meta: " ++
      toString o.resourceVersion))
  else .ok ()

/-- `if preconditions != nil { preconditions.Check(key, obj) }`。 -/
def checkPreconditions (preconditions : Option Preconditions) (key : String) (o : Obj) :
    Except StoreError Unit :=
  match preconditions with
  | none => .ok ()
  | some p => p.check key o

/-- 結果を比べられるようにする（model を `decide` で評価するため）。 -/
instance decEqExcept {ε α : Type} [DecidableEq ε] [DecidableEq α] : DecidableEq (Except ε α)
  | .error a, .error b =>
    if h : a = b then isTrue (h ▸ rfl) else isFalse fun e => h (Except.error.inj e)
  | .ok a, .ok b => if h : a = b then isTrue (h ▸ rfl) else isFalse fun e => h (Except.ok.inj e)
  | .error _, .ok _ => isFalse Except.noConfusion
  | .ok _, .error _ => isFalse Except.noConfusion

/-! ## key -/

/-- `strings.Split(key, "/")`。 -/
def splitKey (key : String) : List String := (key.data.splitOn '/').map String.mk

/-- Lean の `String.split` と同じものである。 -/
theorem splitKey_eq_split (key : String) : splitKey key = key.split (· == '/') := by
  rw [String.split_of_valid]; rfl

theorem splitKey_injective : Function.Injective splitKey := by
  intro a b h
  have hs : a.data.splitOn '/' = b.data.splitOn '/' :=
    (List.map_injective_iff.mpr fun _ _ e => congrArg String.data e) h
  have ha : ['/'].intercalate (a.data.splitOn '/') = a.data := List.intercalate_splitOn _ _
  exact String.ext (by rw [← ha, hs, List.intercalate_splitOn _ _])

@[simp] theorem splitKey_inj {a b : String} : splitKey a = splitKey b ↔ a = b :=
  splitKey_injective.eq_iff

/-- `strings.HasPrefix(s, prefix)`。 -/
def hasPrefix (s pre : String) : Bool := pre.data.isPrefixOf s.data

/-- `strings.HasSuffix(s, suffix)`。 -/
def hasSuffix (s suf : String) : Bool := suf.data.isSuffixOf s.data

/-! ## slot、event、option -/

/-- `objWithIndex`：`kvList` の一つの slot。`index` は自分の位置。 -/
structure ObjWithIndex where
  key : String
  obj : Obj
  index : Nat
  deriving DecidableEq, Repr

/-- `objEvent`：`sendEvent` が watcher に渡す event。 -/
structure ObjEvent where
  key : String
  obj : Option Obj
  oldObj : Option Obj
  rev : Nat
  isDeleted : Bool
  isCreated : Bool
  deriving DecidableEq, Repr

/-- `apistorage.SelectionPredicate` のうち store が読む部分：一頁の上限、continue token、
選択子に合うか（`pred.Matches`）、選択子が空か（`pred.Empty()`）。 -/
structure SelectionPredicate where
  limit : Int
  continueToken : String
  matchesObj : Obj → Bool
  empty : Bool

/-- `apistorage.Everything`：上限も continue token も無く、どの object も選ぶ選択子。 -/
def everything : SelectionPredicate := ⟨0, "", fun _ => true, true⟩

/-- `apistorage.ListOptions` のうち store が読む部分。 -/
structure ListOptions where
  resourceVersion : String
  resourceVersionMatch : String
  predicate : SelectionPredicate
  recursive : Bool

/-- `metav1.ResourceVersionMatchNotOlderThan` -/
def resourceVersionMatchNotOlderThan : String := "NotOlderThan"

/-- `metav1.ResourceVersionMatchExact` -/
def resourceVersionMatchExact : String := "Exact"

/-! ## memoryStoreMap -/

/-- Modelled from the spec: `memoryStoreMap`（src/ にない）。spec の KeyTree のとおり、
segment 列から、いまその key に見えている slot への写像。 -/
structure MemoryStoreMap where
  kvs : List String → Option ObjWithIndex

namespace MemoryStoreMap

/-- 空の map（`NewMemoryStore` の `map[string]objMapOrObj{}`）。 -/
def empty : MemoryStoreMap := ⟨fun _ => none⟩

/-- Modelled from the spec: `memoryStoreMap.get`。 -/
def get (m : MemoryStoreMap) (keys : List String) : Option ObjWithIndex := m.kvs keys

/-- 一つの segment 列だけを書き換える。 -/
def set (m : MemoryStoreMap) (keys : List String) (v : Option ObjWithIndex) : MemoryStoreMap :=
  ⟨Function.update m.kvs keys v⟩

/-- put が書けるか。`expectedRV = 0` で渡すのは作成の経路だけなので key が無いこと、
そうでなければ今の slot の revision が `expectedRV` であること。 -/
def putAllowed (m : MemoryStoreMap) (keys : List String) (expectedRV : Nat) : Bool :=
  match m.get keys with
  | none => expectedRV == 0
  | some cur => expectedRV != 0 && cur.obj.resourceVersion == expectedRV

/-- Modelled from the spec: `memoryStoreMap.put`。revision を比べてから書く。 -/
def put (m : MemoryStoreMap) (keys : List String) (obj : ObjWithIndex) (expectedRV : Nat) :
    Except StoreError MemoryStoreMap :=
  if m.putAllowed keys expectedRV then .ok (m.set keys (some obj))
  else .error (.conflict keys expectedRV)

/-- Modelled from the spec: `memoryStoreMap.del`。無い key は誤り。 -/
def del (m : MemoryStoreMap) (keys : List String) : Except StoreError MemoryStoreMap :=
  match m.get keys with
  | none => .error (.keyNotFound (String.intercalate "/" keys))
  | some _ => .ok (m.set keys none)

@[simp] theorem get_empty (keys : List String) : empty.get keys = none := rfl

@[simp] theorem get_set (m : MemoryStoreMap) (keys keys' : List String) (v : Option ObjWithIndex) :
    (m.set keys v).get keys' = if keys' = keys then v else m.get keys' :=
  Function.update_apply _ _ _ _

theorem set_set (m : MemoryStoreMap) (keys : List String) (a b : Option ObjWithIndex) :
    (m.set keys a).set keys b = m.set keys b := by
  simp [set, Function.update_idem]

theorem put_eq_ok {m m' : MemoryStoreMap} {keys : List String} {obj : ObjWithIndex}
    {rv : Nat} :
    m.put keys obj rv = .ok m' ↔ m.putAllowed keys rv ∧ m' = m.set keys (some obj) := by
  by_cases h : m.putAllowed keys rv <;> simp [put, h, eq_comm]

theorem del_eq_ok {m m' : MemoryStoreMap} {keys : List String} :
    m.del keys = .ok m' ↔ (m.get keys).isSome ∧ m' = m.set keys none := by
  cases h : m.get keys <;> simp [del, h, eq_comm]

/-- 空の key に対する put は作成の put として通る。 -/
theorem put_of_get_none {m : MemoryStoreMap} {keys : List String} (h : m.get keys = none)
    (obj : ObjWithIndex) : m.put keys obj 0 = .ok (m.set keys (some obj)) := by
  simp [put, putAllowed, h]

/-- 今の revision を渡す put は通る。 -/
theorem put_of_get_some {m : MemoryStoreMap} {keys : List String} {cur : ObjWithIndex}
    (h : m.get keys = some cur) (hrv : cur.obj.resourceVersion ≠ 0) (obj : ObjWithIndex) :
    m.put keys obj cur.obj.resourceVersion = .ok (m.set keys (some obj)) := by
  simp [put, putAllowed, h, hrv]

end MemoryStoreMap

/-! ## 一つの要素を置き換えた列

goroutine の集まりは、一歩ごとに一つの goroutine を置き換える。 -/

section

variable {α : Type} {l : List α} {i : Nat}

theorem mem_set_of_ne {p q : α} (hp : l[i]? = some p) (hq : q ∈ l) (hne : q ≠ p) (p' : α) :
    q ∈ l.set i p' := by
  obtain ⟨j, hj⟩ := List.mem_iff_getElem?.mp hq
  by_cases hij : i = j
  · subst hij; rw [hp] at hj; cases hj; exact absurd rfl hne
  · exact List.mem_iff_getElem?.mpr ⟨j, by rw [List.getElem?_set_ne hij]; exact hj⟩

theorem mem_set_self {p : α} (hp : l[i]? = some p) (p' : α) : p' ∈ l.set i p' :=
  List.mem_set l i (List.getElem?_eq_some.mp hp).1 p'

/-- 要素ごとの性質は、置き換えた先が満たせば保たれる。 -/
theorem forall_mem_set {P : α → Prop} (h : ∀ q ∈ l, P q) {p' : α} (hp' : P p') :
    ∀ q ∈ l.set i p', P q := fun q hq =>
  (List.mem_or_eq_of_mem_set hq).elim (h q) fun e => e ▸ hp'

end

end FornaxStore
