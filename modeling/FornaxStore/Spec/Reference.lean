import FornaxStore.Store
import Mathlib.Logic.Function.Basic

/-!
# 参照の versioned map

spec の言葉どおりの、点操作だけの store：key から object への写像と revision の counter。

* `Create` は key があれば `KeyExists`、無ければ新しい revision で置く
* `Delete` は key が無ければ `KeyNotFound`、precondition か `validateDeletion` が今の object を
  拒めば何も変えずに失敗し、それ以外は key を消す
* `GuaranteedUpdate` は key が無ければ `KeyNotFound`（`ignoreNotFound` なら何も変えずに成功）、
  precondition か `tryUpdate` が失敗すれば何も変えずに失敗し、それ以外は `tryUpdate` の結果を
  新しい revision で置く
* `CreateOrUpdate` は無ければ置き、`mergeFunc` が無いか失敗すれば何も変えずに失敗し、
  それ以外は merge した object を新しい revision で置く
* `CreateOrReplace` は丸ごと新しい revision で置く
* `GetOrCreate` は無ければ置き、あれば何も変えない
* `EnsureUpdateAndDelete` は `GuaranteedUpdate` をし、書いた object が削除すべきものなら
  同じ precondition で `Delete` をする（その誤りは返さない）

「新しい revision」は counter より大きい値なら何でもよい。ここでは関係として書く。
-/

namespace FornaxStore

open Function

/-- 参照の store：key から object への写像と、最後に配った revision。 -/
structure RefStore where
  objs : String → Option Obj
  rev : Nat

/-- 空の参照 store。 -/
def RefStore.empty : RefStore := ⟨fun _ => none, 0⟩

/-- 新しい revision `r` で `o` を置く。 -/
def RefStore.put (s : RefStore) (key : String) (o : Obj) (r : Nat) : RefStore :=
  ⟨update s.objs key (some (o.setResourceVersion r)), r⟩

/-- 参照の一手：呼び出し `c` が結果 `res` を返し、`s` を `s'` にする。 -/
inductive RefStep : RefStore → Call → Except StoreError (Option Obj) → RefStore → Prop
  | createExists {s key obj o} : s.objs key = some o →
      RefStep s (.create key obj) (.error (.keyExists key)) s
  | create {s key obj r} : s.objs key = none → s.rev < r →
      RefStep s (.create key obj) (.ok (some (obj.setResourceVersion r))) (s.put key obj r)
  | deleteNotFound {s key p v} : s.objs key = none →
      RefStep s (.delete key p v) (.error (.keyNotFound key)) s
  | deleteRejected {s key p v cur err} : s.objs key = some cur →
      MemoryStore.deleteChecks key p v cur = .error err → RefStep s (.delete key p v) (.error err) s
  | delete {s key p v cur} : s.objs key = some cur → MemoryStore.deleteChecks key p v cur = .ok () →
      RefStep s (.delete key p v) (.ok none) ⟨update s.objs key none, s.rev⟩
  | updateNotFound {s key p f} : s.objs key = none →
      RefStep s (.guaranteedUpdate key false p f) (.error (.keyNotFound key)) s
  | updateIgnored {s key p f} : s.objs key = none →
      RefStep s (.guaranteedUpdate key true p f) (.ok (some Obj.zero)) s
  | updatePreconditionFailed {s key i p f cur err} : s.objs key = some cur →
      checkPreconditions p key cur = .error err →
      RefStep s (.guaranteedUpdate key i p f) (.error err) s
  | updateFailed {s key i p f cur err} : s.objs key = some cur → checkPreconditions p key cur = .ok () →
      f cur = .error err → RefStep s (.guaranteedUpdate key i p f) (.error err) s
  | update {s key i p f cur u r} : s.objs key = some cur → checkPreconditions p key cur = .ok () →
      f cur = .ok u → s.rev < r →
      RefStep s (.guaranteedUpdate key i p f) (.ok (some (u.written r)))
        (s.put key (u.newObj.getD u.currObj) r)
  | createOrUpdateCreate {s key obj m r} : s.objs key = none → s.rev < r →
      RefStep s (.createOrUpdate key obj m) (.ok (some (obj.setResourceVersion r)))
        (s.put key obj r)
  | createOrUpdateNoMerge {s key obj cur} : s.objs key = some cur →
      RefStep s (.createOrUpdate key obj none)
        (.error
          (.other "Do not have merge function to update existing object using provided obj")) s
  | createOrUpdateMergeFailed {s key obj merge cur err} : s.objs key = some cur →
      merge cur obj = .error err → RefStep s (.createOrUpdate key obj (some merge)) (.error err) s
  | createOrUpdateMerge {s key obj merge cur currObj newObj r} : s.objs key = some cur →
      merge cur obj = .ok (currObj, newObj) → s.rev < r →
      RefStep s (.createOrUpdate key obj (some merge)) (.ok (some (newObj.setResourceVersion r)))
        (s.put key newObj r)
  | getOrCreateCreate {s key obj r} : s.objs key = none → s.rev < r →
      RefStep s (.getOrCreate key obj) (.ok (some (obj.setResourceVersion r))) (s.put key obj r)
  | getOrCreateGet {s key obj cur} : s.objs key = some cur →
      RefStep s (.getOrCreate key obj) (.ok (some cur)) s
  | createOrReplace {s key obj r} : s.rev < r →
      RefStep s (.createOrReplace key obj) (.ok (some (obj.setResourceVersion r))) (s.put key obj r)
  | ensureFailed {s s' key i p u err} :
      RefStep s (.guaranteedUpdate key i p (MemoryStore.getTryUpdateFunc u)) (.error err) s' →
      RefStep s (.ensureUpdateAndDelete key i p u) (.error err) s'
  | ensureKept {s s' key i p u out} :
      RefStep s (.guaranteedUpdate key i p (MemoryStore.getTryUpdateFunc u)) (.ok (some out)) s' →
      shouldDeleteSpec out = false →
      RefStep s (.ensureUpdateAndDelete key i p u) (.ok (some out)) s'
  | ensureDeleted {s s₁ s₂ key i p u out res} :
      RefStep s (.guaranteedUpdate key i p (MemoryStore.getTryUpdateFunc u)) (.ok (some out)) s₁ →
      shouldDeleteSpec out = true → RefStep s₁ (.delete key p (some fun _ => .ok ())) res s₂ →
      RefStep s (.ensureUpdateAndDelete key i p u) (.ok (some out)) s₂

/-- 呼び出しの列と、その結果の列。 -/
inductive RefRun : RefStore → List Call → List (Except StoreError (Option Obj)) → RefStore → Prop
  | nil (s : RefStore) : RefRun s [] [] s
  | cons {s s₁ s' c cs res ress} : RefStep s c res s₁ → RefRun s₁ cs ress s' →
      RefRun s (c :: cs) (res :: ress) s'

/-- 参照の `Get`：無ければ `KeyNotFound`（`ignoreNotFound` なら零の object）、あれば要求された
最小の revision を確かめて今の object を返す。 -/
def RefStore.get (s : RefStore) (key : String) (opts : GetOptions) : Except StoreError Obj :=
  match s.objs key with
  | none => if opts.ignoreNotFound then .ok Obj.zero else .error (.keyNotFound key)
  | some o =>
    match MemoryStore.validateMinimumResourceVersion opts.resourceVersion o.resourceVersion with
    | .error err => .error err
    | .ok () => .ok o

end FornaxStore
