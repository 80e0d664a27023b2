import FornaxStore.Watch

/-!
# `shrink`：空の slot を詰める

更新と削除は古い slot を空のまま `kvList` に残す。`shrink` は、`kvList` が map の object の数 `c`
より `NilSlotMemoryShrinkThrehold` を超えて長ければ、空でない slot を順に新しい列へ写し、各 slot が
持つ位置を新しい列での位置に書き直す。`freezeWorld` を書き込みで取るので、ほかの呼び出し（どれも
`freezeWorld` を読み込みで取る）とは重ならず、逐次の store の一歩として見てよい。

`objList.shrink`・`memoryStoreMap.count`・`NilSlotMemoryShrinkThrehold` は src/ にない。
`objList.shrink` は spec の言葉（空でない slot を新しい列へ写し、各 slot の `index` を書き直す）から
書き、`count([]string{})` の値 `c` と閾値は引数に取る。map は `kvList` と同じ `*objWithIndex` を
持つので、slot の `index` の書き直しは map の値にも見える。model は slot を位置で同定し、map の値の
位置を同じ規則（`shrunkIndex`）で書き直す。
-/

namespace FornaxStore

/-- Modelled from the spec: `objList.shrink(c)` のループ。空でない slot を順に新しい列へ足し、
その `index` を足す前の新しい列の長さ `n` に書き直す。`c` は新しい列の容量で、中身には効かない。 -/
def shrinkObjList : Nat → List (Option ObjWithIndex) → List (Option ObjWithIndex)
  | _, [] => []
  | n, none :: rest => shrinkObjList n rest
  | n, some v :: rest => some { v with index := n } :: shrinkObjList (n + 1) rest

/-- `kvList` の位置 `i` より前の空でない slot の数。詰めた後の、位置 `i` の slot の位置。 -/
def shrunkIndex (kvList : List (Option ObjWithIndex)) (i : Nat) : Nat :=
  (kvList.take i).countP Option.isSome

/-- map の値が指す slot を `f` で書き換えたとき、map から見えるもの。 -/
def MemoryStoreMap.mapSlots (m : MemoryStoreMap) (f : ObjWithIndex → ObjWithIndex) :
    MemoryStoreMap :=
  ⟨fun keys => (m.get keys).map f⟩

namespace MemoryStore

/-- `ms.kvList = ms.kvList.shrink(c)` の後の store。ghost の `reserved` は、残った slot の revision の
列になる。 -/
def compacted (ms : MemoryStore) : MemoryStore :=
  let kvList := shrinkObjList 0 ms.kvList
  { ms with
    kvs := ms.kvs.mapSlots fun v => { v with index := shrunkIndex ms.kvList v.index }
    kvList := kvList
    reserved := kvList.map fun s => (s.map (·.obj.resourceVersion)).getD 0 }

/-- `shrink`。`c` は `ms.kvs.count([]string{})`、`threshold` は `NilSlotMemoryShrinkThrehold`。 -/
def shrink (ms : MemoryStore) (c threshold : Nat) : MemoryStore :=
  if ms.kvList.length > c + threshold then ms.compacted else ms

end MemoryStore

open MemoryStore in
/-- `NewMemoryStore` から、store の一歩（`Step`）と `shrink` を重ねて届く状態。 -/
inductive ShrinkReachable : MemoryStore → Prop
  | init (rev : Nat) : ShrinkReachable (newMemoryStore rev)
  | step {ms ms' : MemoryStore} : ShrinkReachable ms → Step ms ms' → ShrinkReachable ms'
  | shrink {ms : MemoryStore} (c threshold : Nat) : ShrinkReachable ms →
      ShrinkReachable (ms.shrink c threshold)

end FornaxStore
